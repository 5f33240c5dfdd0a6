import MwcSync.SyncUtils

set_option autoImplicit false

namespace MwcSync

structure BodySync where
  requiredCapabilities : Capabilities
  requestTracker : RequestTracker Hash
  requestSeries : List (Hash × Nat)

namespace BodySync

def new : BodySync := ⟨Capabilities.unknown, .new, []⟩

def getPeerCapabilities (s : BodySync) : Capabilities := s.requiredCapabilities

def isNeedRequestBlock (c : ChainView) (t : RequestTracker Hash) (hash : Hash) :
    Except ChainError Bool :=
  if t.hasRequest hash || c.isOrphan hash then .ok false else (c.blockExists hash).map (!·)

/-- `peers.choose(rng)`: the peer the draw lands on, none when there is no peer. -/
def choose (peers : List Peer) (pick : Nat) : Option Peer := peers.get? (pick % peers.length)

/-- What `send_requests` mutates: the tracker, `*need_request`, the calls made so far and the
random draws used so far. -/
structure SendState where
  tracker : RequestTracker Hash
  need : Nat
  calls : List Call
  draws : Nat

def failedSendMessage (addr : PeerAddr) (e : String) : String :=
  s!"Failed to send block request to peer {addr}, {e}"

/-- The state after `send_block_request` failed: the failure is reported against the peer. -/
def SendState.sendFailed (st : SendState) (addr : PeerAddr) (hash : Hash) (e : String) :
    SendState :=
  { st with
    calls := st.calls ++ [.sendBlockRequest addr hash false,
      .reportErrorResponse addr (failedSendMessage addr e)]
    draws := st.draws + 1 }

/-- The state after `send_block_request` succeeded: the request is registered against the peer. -/
def SendState.sendOk (st : SendState) (addr : PeerAddr) (hash : Hash) (height now : Nat) :
    SendState :=
  { st with
    tracker := st.tracker.registerRequest hash addr s!"Block {hash}, {height}" now
    calls := st.calls ++ [.sendBlockRequest addr hash true, .registerRequest hash addr]
    draws := st.draws + 1 }

/-- The loop of `send_requests`, over `request_series.iter().rev()`. -/
def sendRequestsLoop (c : ChainView) (peers : List Peer) (env : Nat → Draw) (now : Nat) :
    List (Hash × Nat) → SendState → SendState × Option Failure
  | [], st => (st, none)
  | (hash, height) :: rest, st =>
    match isNeedRequestBlock c st.tracker hash with
    | .error e => (st, some (.chain e))
    | .ok false => sendRequestsLoop c peers env now rest st
    | .ok true =>
      match choose peers (env st.draws).pick, (env st.draws).send with
      | none, _ => ({ st with draws := st.draws + 1 }, some (.panic "Peers can't be empty"))
      | some peer, .error e => sendRequestsLoop c peers env now rest (st.sendFailed peer.addr hash e)
      | some peer, .ok () =>
        let st' := st.sendOk peer.addr hash height now
        if st.need = 0 then (st', some (.panic "attempt to subtract with overflow"))
        else if st.need - 1 = 0 then ({ st' with need := 0 }, none)
        else sendRequestsLoop c peers env now rest { st' with need := st.need - 1 }

def sendRequests (c : ChainView) (peers : List Peer) (env : Nat → Draw) (now : Nat)
    (series : List (Hash × Nat)) (st : SendState) : SendState × Option Failure :=
  sendRequestsLoop c peers env now series.reverse st

/-- The `while current.height > fork_point.height` loop that refills `request_series`, cut off
after `fuel` rounds (`none`). A failed `get_previous_header` ends it and keeps what was pushed. -/
def rebuildSeries (c : ChainView) (forkHeight : Nat) :
    Nat → BlockHeader → List (Hash × Nat) → Option (List (Hash × Nat) × Option ChainError)
  | 0, _, _ => none
  | fuel + 1, current, series =>
    if forkHeight < current.height then
      let series :=
        if c.isOrphan current.hash then series else series ++ [(current.hash, current.height)]
      match c.getPreviousHeader current with
      | .error e => some (series, some e)
      | .ok prev => rebuildSeries c forkHeight fuel prev series
    else some (series, none)

inductive Opening
  | done (r : SyncRequestResponses)
  | go (head headerHead : Tip) (forkPoint : BlockHeader) (archiveHeight : Nat)

/-- The chain reads of `request` before its first mutation, and their early returns. -/
def opening (P : Params) (c : ChainView) (bestHeight : Nat) : Except ChainError Opening := do
  let head ← c.head
  let headerHead ← c.headerHead
  if head.lastBlockH = headerHead.lastBlockH then return .done .bodyReady
  let archiveHeight := P.height2ArchiveHeight bestHeight
  let head ← c.head
  let headerHead ← c.headerHead
  let forkPoint ← c.forkPoint
  if !c.archiveMode && forkPoint.height < archiveHeight then return .done .badState
  return .go head headerHead forkPoint archiveHeight

/-- `(peer_capabilities, required_capabilities)`. -/
def capabilitiesFor (c : ChainView) (head : Tip) (archiveHeight : Nat) :
    Capabilities × Capabilities :=
  if c.archiveMode && decide (head.height ≤ archiveHeight) then
    (Capabilities.blockHist, Capabilities.blockHist ||| Capabilities.headerHist)
  else (Capabilities.unknown, Capabilities.headerHist)

/-- Whether the series must be rebuilt: it is empty, or its tail needs no request any more. -/
def tailDone (c : ChainView) (t : RequestTracker Hash) (series : List (Hash × Nat)) :
    Except ChainError Bool :=
  match series.getLast? with
  | none => .ok true
  | some (hash, _) => (isNeedRequestBlock c t hash).map (!·)

/-- The stuck-orphan check: the view later queries see, and whether `process_block` succeeded. -/
def kickStuckOrphan (chain : Chain) (forkPoint : BlockHeader) : Except ChainError (ChainView × Bool) :=
  match chain.view.getHeaderByHeight (forkPoint.height + 1) with
  | .error _ => .ok (chain.view, false)
  | .ok next => do
    if ← chain.view.blockExists next.hash then
      let _ ← chain.view.forkPoint
    match chain.view.getOrphan next.hash with
    | none => return (chain.view, false)
    | some orph =>
      match chain.processBlock orph with
      | some c => return (c, true)
      | none => return (chain.view, false)

/-- A call of `BodySync`: its fields afterwards, the calls it made, and what it returned. -/
abbrev Outcome (α : Type) := BodySync × List Call × Except Failure α

def finish {α : Type} (s : BodySync) (st : SendState) (r : Except Failure α) : Outcome α :=
  ({ s with requestTracker := st.tracker }, st.calls, r)

def sendAgain (c : ChainView) (peers : List Peer) (env : Nat → Draw) (now : Nat) (s : BodySync)
    (st : SendState) : Outcome SyncRequestResponses :=
  let r := sendRequests c peers env now s.requestSeries st
  finish s r.1 (match r.2 with | some f => .error f | none => .ok .syncing)

/-- Lines 137-198 of `request`: rebuild the series when needed, then send again. -/
def refreshAndSend (fuel : Nat) (chain : Chain) (peers : List Peer) (env : Nat → Draw) (now : Nat)
    (forkPoint : BlockHeader) (headerHead : Tip) (s : BodySync) (st : SendState) :
    Option (Outcome SyncRequestResponses) :=
  match tailDone chain.view st.tracker s.requestSeries, kickStuckOrphan chain forkPoint with
  | .error e, _ => some (finish s st (.error (.chain e)))
  | .ok _, .error e => some (finish s st (.error (.chain e)))
  | .ok refresh, .ok (c, kicked) =>
    if refresh || kicked then
      match c.getHeaderByHeight (min (forkPoint.height + 500) headerHead.height) with
      | .error e => some (finish { s with requestSeries := [] } st (.error (.chain e)))
      | .ok current =>
        match rebuildSeries c forkPoint.height fuel current [] with
        | none => none
        | some (series, some e) => some (finish { s with requestSeries := series } st (.error (.chain e)))
        | some (series, none) => some (sendAgain c peers env now { s with requestSeries := series } st)
    else some (sendAgain c peers env now s st)

/-- Lines 106-129 of `request`: the sweep of expired requests, the status update and the budget,
as `send_requests` starts from them. -/
def sendStart (P : Params) (t : RequestTracker Hash) (selected : List Peer × Nat) (now : Nat)
    (status : Call) : SendState :=
  let swept := t.retainExpired P.segmentRequestTimeoutSecs now
  let needed := swept.1.calculateNeededRequests P.requestsToNextAsk selected.1.length selected.2
    P.blocksRequestPerPeer P.blocksRequestLimit
  ⟨needed.2, needed.1, swept.2 ++ [status], 0⟩

/-- Lines 131-202 of `request`: send, and when budget is left, refresh the series and send again. -/
def sendTick (fuel : Nat) (chain : Chain) (peers : List Peer) (env : Nat → Draw) (now : Nat)
    (forkPoint : BlockHeader) (headerHead : Tip) (s : BodySync) (st : SendState) :
    Option (Outcome SyncRequestResponses) :=
  if st.need = 0 then some (finish s st (.ok .syncing))
  else
    let r := sendRequests chain.view peers env now s.requestSeries st
    match r.2 with
    | some f => some (finish s r.1 (.error f))
    | none =>
      if r.1.need = 0 then some (finish s r.1 (.ok .syncing))
      else refreshAndSend fuel chain peers env now forkPoint headerHead s r.1

/-- `BodySync::request`; `fuel` bounds the rounds of the rebuild loop (`none`: not enough). A `?`
ends the call early and keeps every mutation of `&mut self` made before it. -/
def request (P : Params) (fuel : Nat) (chain : Chain) (peers : List Peer) (bestHeight now : Nat)
    (env : Nat → Draw) (s : BodySync) : Option (Outcome SyncRequestResponses) :=
  match opening P chain.view bestHeight with
  | .error e => some (s, [], .error (.chain e))
  | .ok (.done r) => some (s, [], .ok r)
  | .ok (.go head headerHead forkPoint archiveHeight) =>
    let caps := capabilitiesFor chain.view head archiveHeight
    let s := { s with requiredCapabilities := caps.2 }
    let selected := getSyncPeers peers P.blocksRequestPerPeer caps.1 head.height
      s.requestTracker.getPeersQueueSize
    if selected.1.isEmpty then
      some (s, [], .ok (if selected.2 = 0 then .waitingForPeers else .syncing))
    else
      let status := Call.updateSyncStatus (if chain.view.archiveMode then 0 else archiveHeight)
        forkPoint.height bestHeight
      sendTick fuel chain selected.1 env now forkPoint headerHead s
        (sendStart P s.requestTracker selected now status)

/-- Lines 229-257 of `recieve_block_reporting`: the opportunistic refill, from the state `st` the
report left. An error of `send_requests` is logged; a panic is not caught. -/
def refill (P : Params) (c : ChainView) (peers : List Peer) (env : Nat → Draw) (now : Nat)
    (s : BodySync) (st : SendState) : Outcome Unit :=
  match c.head with
  | .error _ => finish s st (.ok ())
  | .ok head =>
    let selected := getSyncPeers peers P.blocksRequestPerPeer s.requiredCapabilities head.height
      st.tracker.getPeersQueueSize
    if selected.1.isEmpty then finish s st (.ok ())
    else
      let needed := st.tracker.calculateNeededRequests P.requestsToNextAsk selected.1.length
        selected.2 P.blocksRequestPerPeer P.blocksRequestLimit
      if needed.1 = 0 then finish s { st with tracker := needed.2 } (.ok ())
      else
        let r := sendRequests c selected.1 env now s.requestSeries
          { st with tracker := needed.2, need := needed.1 }
        finish s r.1 (match r.2 with | some (.panic m) => .error (.panic m) | _ => .ok ())

/-- Lines 213-226 of `recieve_block_reporting`: the credit for the reporter when the removed record
was its own and the block was accepted, and the error report for a rejected block. -/
def reportCalls (owner : Option PeerAddr) (accepted : Bool) (blockHash : Hash) (peer : PeerAddr) :
    List Call :=
  (match owner with
    | some o => if accepted && o == peer then [Call.reportOkResponse peer] else []
    | none => []) ++
  if accepted then [] else [Call.reportErrorResponse peer s!"Get bad block {blockHash} for peer {peer}"]

/-- `BodySync::recieve_block_reporting`. -/
def recieveBlockReporting (P : Params) (c : ChainView) (accepted : Bool) (blockHash : Hash)
    (peer : PeerAddr) (peers : List Peer) (env : Nat → Draw) (now : Nat) (s : BodySync) :
    Outcome Unit :=
  let removed := s.requestTracker.removeRequest blockHash
  let countdown := removed.2.getUpdateRequestsToNextAsk
  let st : SendState := ⟨countdown.2, 0, reportCalls removed.1 accepted blockHash peer, 0⟩
  if countdown.1 ≠ 0 then finish s st (.ok ()) else refill P c peers env now s st

end BodySync

end MwcSync
