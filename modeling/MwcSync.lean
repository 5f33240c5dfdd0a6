import MwcSync.Basic
import MwcSync.SyncUtils
import MwcSync.BodySync
import MwcSync.SendRequests
import MwcSync.Series
import MwcSync.Tick
import MwcSync.Trace
import MwcSync.Run
import MwcSync.Capacity
import MwcSync.Credit
import MwcSync.RequestSeries
import MwcSync.Expiry
import MwcSync.SendContract
import MwcSync.SyncManager
import MwcSync.Orchestration
import MwcSync.Responses
import MwcSync.ManagerRuns
import MwcSync.Status
import MwcSync.Pipeline
import MwcSync.Api
