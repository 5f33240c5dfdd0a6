import MwcSync.BodySync
import MwcSync.Trace

set_option autoImplicit false

namespace MwcSync

/-- Modelled from the spec: `CachedResponse` (in `sync_utils`, not among the sources) keeps a
response for `duration` seconds from `time`. -/
structure CachedResponse where
  response : SyncResponse
  time : Nat
  duration : Nat
deriving DecidableEq, Repr

def CachedResponse.isExpired (c : CachedResponse) (now : Nat) : Bool :=
  decide (c.time + c.duration < now)

/-- What the header-hash, header and state syncers answer in one tick, given the best height; they
are not among the sources. `bodyMessage` is the body syncer's status message. -/
structure Stages where
  headersHash : Nat → SyncResponse
  headers : Nat → SyncResponse
  state : Nat → SyncResponse
  bodyMessage : String

/-- The key of lines 86-94: the total difficulty, counted only once a height is reported. -/
def liveKey (p : Peer) : Nat := if 0 < p.height then p.totalDifficulty else 0

/-- `Iterator::max_by_key`: the last element of greatest key. -/
def maxByKey {α : Type} (key : α → Nat) : List α → Option α
  | [] => none
  | x :: xs => some (xs.foldl (fun best y => if key best ≤ key y then y else best) x)

/-- Lines 81-112: the height of the best outbound connected peer, or, with no outbound connected
peer, of the best connected peer; 0 with no connected peer. -/
def bestHeight (peers : List Peer) : Nat :=
  let best := maxByKey liveKey (peers.filter fun p => p.outbound && p.connected)
  let best := if best.isNone then maxByKey liveKey (peers.filter (·.connected)) else best
  match best with
  | some p => p.height
  | none => 0

/-- The calls only the manager makes: the upkeep of its peers ledgers, the resets of the other
syncers, and `debug_assert!(false)`. -/
def Call.managerOnly : Call → Bool
  | .applyPeersStatus | .resetBanCommitedToHash | .resetSyncPeers | .resetHashData
  | .resetDesegmenterData | .debugAssertFalse => true
  | _ => false

/-- `SyncManager`, with the body syncer and the cached response. The code holds
`crate::mwc::sync::body_sync::BodySync`, which is not among the sources; the model puts
`grin::sync::body_sync::BodySync` (`servers/src/grin/sync/body_sync.rs`) in its place. -/
structure SyncManager where
  body : BodySync
  cachedResponse : Option CachedResponse

namespace SyncManager

def new : SyncManager := ⟨BodySync.new, none⟩

/-- How a stage of a tick ends: the tick returns `r`, or goes on with `a`. -/
inductive Flow (α : Type)
  | ret (r : SyncResponse)
  | next (a : α)

/-- Lines 121-130: the header-hash stage. -/
def headersHashStage (resp : SyncResponse) : List Call × Flow Unit :=
  match resp.response with
  | .waitingForPeers | .syncing => ([], .ret resp)
  | .headersPibdReady | .headersHashReady => ([], .next ())
  | _ => ([.debugAssertFalse], .next ())

/-- Lines 132-162: the header stage; it goes on with whether the headers are ready. -/
def headersStage (resp : SyncResponse) : List Call × Flow Bool :=
  match resp.response with
  | .waitingForPeers => ([.resetBanCommitedToHash, .resetSyncPeers], .ret resp)
  | .syncing => ([], .ret resp)
  | .waitingForHeadersHash => ([.debugAssertFalse], .ret resp)
  | .headersPibdReady => ([.resetHashData], .next false)
  | .headersReady => ([], .next true)
  | _ => ([.debugAssertFalse], .next false)

/-- Lines 164-180: the state stage. -/
def stateStage (resp : SyncResponse) : List Call × Flow Unit :=
  match resp.response with
  | .syncing | .waitingForPeers | .waitingForHeaders => ([], .ret resp)
  | .statePibdReady => ([], .next ())
  | _ => ([.debugAssertFalse], .next ())

/-- The three stages before the body, in order. -/
def stagesBeforeBody (stages : Stages) (bestHeight : Nat) : List Call × Flow Bool :=
  match headersHashStage (stages.headersHash bestHeight) with
  | (c₁, .ret r) => (c₁, .ret r)
  | (c₁, .next ()) =>
    match headersStage (stages.headers bestHeight) with
    | (c₂, .ret r) => (c₁ ++ c₂, .ret r)
    | (c₂, .next headersReady) =>
      match stateStage (stages.state bestHeight) with
      | (c₃, .ret r) => (c₁ ++ c₂ ++ c₃, .ret r)
      | (c₃, .next ()) => (c₁ ++ c₂ ++ c₃, .next headersReady)

def internalError : SyncResponse :=
  ⟨.syncing, Capabilities.unknown, "Invalid state, internal error"⟩

/-- Lines 182-228: what the manager makes of the body's answer, with the body's capabilities
`caps`: the calls, the response (a panic of the body is not caught), and the response it caches.
An error, or a variant the arms do not name, falls through to the last `debug_assert!(false)`.
`r` is the answer of grin's `BodySync::request`, standing in for mwc's body syncer. -/
def bodyStage (headersReady : Bool) (caps : Capabilities) (msg : String) :
    Except Failure SyncRequestResponses → List Call × Except Failure SyncResponse × Option SyncResponse
  | .ok .syncing => ([], .ok ⟨.syncing, caps, msg⟩, none)
  | .ok .bodyReady =>
    if headersReady then ([], .ok ⟨.syncDone, Capabilities.unknown, "DONE!"⟩,
      some ⟨.syncDone, Capabilities.unknown, "DONE!"⟩)
    else ([], .ok ⟨.syncing, caps, "Waiting for headers, even body is done, more is expected"⟩, none)
  | .ok .waitingForPeers => ([], .ok ⟨.waitingForPeers, caps, msg⟩, none)
  | .ok .badState => ([.resetDesegmenterData], .ok ⟨.badState, caps, msg⟩, none)
  | .ok _ => ([.debugAssertFalse, .debugAssertFalse], .ok internalError, none)
  | .error (.chain _) => ([.debugAssertFalse], .ok internalError, none)
  | .error (.panic m) => ([], .error (.panic m), none)

/-- Lines 76-228 of `request`, once no cached response applies. -/
def requestFresh (P : Params) (fuel : Nat) (chain : Chain) (peers : List Peer) (now : Nat)
    (env : Nat → Draw) (stages : Stages) (m : SyncManager) :
    Option (SyncManager × List Call × Except Failure SyncResponse) :=
  let calls := [Call.applyPeersStatus, Call.applyPeersStatus]
  let bh := bestHeight peers
  if bh = 0 then
    some (m, calls, .ok ⟨.waitingForPeers, Capabilities.unknown, "Peers height is 0"⟩)
  else
    match stagesBeforeBody stages bh with
    | (cs, .ret r) => some (m, calls ++ cs, .ok r)
    | (cs, .next headersReady) =>
      (BodySync.request P fuel chain peers bh now env m.body).map fun o =>
        let b := bodyStage headersReady o.1.getPeerCapabilities stages.bodyMessage o.2.2
        ({ body := o.1
           cachedResponse := match b.2.2 with
            | some r => some ⟨r, now, 180⟩
            | none => m.cachedResponse },
          calls ++ cs ++ o.2.1 ++ b.1, b.2.1)

/-- `SyncManager::request`; `none` when the body's rebuild loop runs out of `fuel`. -/
def request (P : Params) (fuel : Nat) (chain : Chain) (peers : List Peer) (now : Nat)
    (env : Nat → Draw) (stages : Stages) (m : SyncManager) :
    Option (SyncManager × List Call × Except Failure SyncResponse) :=
  match m.cachedResponse with
  | some c =>
    if c.isExpired now then requestFresh P fuel chain peers now env stages { m with cachedResponse := none }
    else some (m, [], .ok c.response)
  | none => requestFresh P fuel chain peers now env stages m

/-- `SyncManager::recieve_block_reporting`: the body's handler, with the state-sync peers. -/
def recieveBlockReporting (P : Params) (c : ChainView) (accepted : Bool) (peer : PeerAddr)
    (blockHash : Hash) (peers : List Peer) (env : Nat → Draw) (now : Nat) (m : SyncManager) :
    SyncManager × List Call × Except Failure Unit :=
  let o := BodySync.recieveBlockReporting P c accepted blockHash peer peers env now m.body
  ({ m with body := o.1 }, o.2.1, o.2.2)

/-- One call into the manager, with everything it reads from outside. -/
inductive Event
  | request (chain : Chain) (peers : List Peer) (now : Nat) (env : Nat → Draw) (stages : Stages)
  | recieveBlockReporting (c : ChainView) (accepted : Bool) (peer : PeerAddr) (blockHash : Hash)
      (peers : List Peer) (now : Nat) (env : Nat → Draw)

/-- One call from `m`: the state after it and the calls it made. -/
inductive Step (P : Params) : SyncManager → Event → SyncManager → List Call → Prop
  | request {fuel : Nat} {chain : Chain} {peers : List Peer} {now : Nat} {env : Nat → Draw}
      {stages : Stages} {m : SyncManager} {o : SyncManager × List Call × Except Failure SyncResponse}
      (h : request P fuel chain peers now env stages m = some o) :
      Step P m (.request chain peers now env stages) o.1 o.2.1
  | recieveBlockReporting {c : ChainView} {accepted : Bool} {peer : PeerAddr} {blockHash : Hash}
      {peers : List Peer} {now : Nat} {env : Nat → Draw} {m : SyncManager} :
      Step P m (.recieveBlockReporting c accepted peer blockHash peers now env)
        (recieveBlockReporting P c accepted peer blockHash peers env now m).1
        (recieveBlockReporting P c accepted peer blockHash peers env now m).2.1

/-- One call as the code runs it, with `fuel` rounds for the body's rebuild loop. -/
def Event.apply (P : Params) (fuel : Nat) (m : SyncManager) : Event → Option (SyncManager × List Call)
  | .request chain peers now env stages =>
    (SyncManager.request P fuel chain peers now env stages m).map fun o => (o.1, o.2.1)
  | .recieveBlockReporting c accepted peer blockHash peers now env =>
    let o := SyncManager.recieveBlockReporting P c accepted peer blockHash peers env now m
    some (o.1, o.2.1)

theorem Step.of_apply {P : Params} {fuel : Nat} {m : SyncManager} {e : Event} {m' : SyncManager}
    {cs : List Call} (h : e.apply P fuel m = some (m', cs)) : Step P m e m' cs := by
  cases e with
  | request chain peers now env stages =>
    obtain ⟨o, ho, he⟩ := Option.map_eq_some'.1 (show Option.map _ _ = _ from h)
    cases he
    exact .request ho
  | recieveBlockReporting => cases h; exact .recieveBlockReporting

theorem reach_of_run (P : Params) (fuel : Nat) (evs : List Event) (p : SyncManager → Bool)
    (h : (runFrom (fun m e => e.apply P fuel m) new [] evs).map (p ·.1) = some true) :
    ∃ m log, Runs (Step P) new evs m log ∧ p m = true :=
  reach_of_runFrom (fun _ _ _ _ => Step.of_apply) h

theorem reach_log_of_run (P : Params) (fuel : Nat) (evs : List Event)
    (p : SyncManager → List Call → Bool)
    (h : (runFrom (fun m e => e.apply P fuel m) new [] evs).map (fun r => p r.1 r.2) = some true) :
    ∃ m log, Runs (Step P) new evs m log ∧ p m log = true :=
  reach_log_of_runFrom (fun _ _ _ _ => Step.of_apply) h

end SyncManager

end MwcSync
