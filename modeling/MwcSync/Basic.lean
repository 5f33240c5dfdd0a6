import Mathlib

set_option autoImplicit false

namespace MwcSync

abbrev Hash := Nat
abbrev PeerAddr := Nat
abbrev Capabilities := Nat

namespace Capabilities

/-- Modelled from the spec: the capability bits are declared in the p2p crate, which is not among
the sources. `UNKNOWN` is the empty mask; the other bits only need to be distinct. -/
def unknown : Capabilities := 0
def headerHist : Capabilities := 1
def blockHist : Capabilities := 32

/-- Modelled from the spec: a peer qualifies for a mask when it advertises every bit of it. -/
def covers (caps required : Capabilities) : Bool := caps &&& required == required

end Capabilities

/-- A connected or known peer, as `Peers` and `live_info` describe it. -/
structure Peer where
  addr : PeerAddr
  capabilities : Capabilities
  outbound : Bool
  connected : Bool
  height : Nat
  totalDifficulty : Nat
deriving DecidableEq, Repr

structure Tip where
  height : Nat
  lastBlockH : Hash
deriving DecidableEq, Repr

structure BlockHeader where
  height : Nat
  hash : Hash
deriving DecidableEq, Repr

structure ChainError where
  code : Nat
deriving DecidableEq, Repr

/-- How a call ends early: a `chain::Error` returned by `?`, or a panic. -/
inductive Failure
  | chain (e : ChainError)
  | panic (msg : String)
deriving DecidableEq, Repr

/-- Results are compared when a run is checked by evaluation. -/
instance decEqExcept {ε α : Type} [DecidableEq ε] [DecidableEq α] : DecidableEq (Except ε α)
  | .ok a, .ok b => decidable_of_iff (a = b) (by simp)
  | .error a, .error b => decidable_of_iff (a = b) (by simp)
  | .ok _, .error _ => isFalse (by simp)
  | .error _, .ok _ => isFalse (by simp)

/-- What the node's `Chain` answers during one call. It is shared with other threads, so each
call sees its own answers; `process_block` changes what later queries of the same call see. -/
structure ChainView where
  head : Except ChainError Tip
  headerHead : Except ChainError Tip
  forkPoint : Except ChainError BlockHeader
  archiveMode : Bool
  getHeaderByHeight : Nat → Except ChainError BlockHeader
  getPreviousHeader : BlockHeader → Except ChainError BlockHeader
  blockExists : Hash → Except ChainError Bool
  isOrphan : Hash → Bool
  getOrphan : Hash → Option Hash

structure Chain where
  view : ChainView
  processBlock : Hash → Option ChainView

/-- The contract of the header index: `get_header_by_height` answers with the header at that
height and `get_previous_header` with the one exactly one height lower. -/
structure ChainView.HeightIndexed (c : ChainView) : Prop where
  header_by_height : ∀ h b, c.getHeaderByHeight h = .ok b → b.height = h
  previous_header : ∀ b b', c.getPreviousHeader b = .ok b' → b'.height + 1 = b.height

def Chain.HeightIndexed (chain : Chain) : Prop :=
  chain.view.HeightIndexed ∧ ∀ orph c, chain.processBlock orph = some c → c.HeightIndexed

inductive SyncRequestResponses
  | waitingForPeers
  | syncing
  | waitingForHeadersHash
  | waitingForHeaders
  | headersHashReady
  | headersPibdReady
  | headersReady
  | statePibdReady
  | bodyReady
  | syncDone
  | badState
deriving DecidableEq, Repr

structure SyncResponse where
  response : SyncRequestResponses
  peersCapabilities : Capabilities
  message : String
deriving DecidableEq, Repr

/-- The calls the sync code makes to its collaborators, in the order it makes them:
`send_block_request` with its outcome, the tracker's `register_request`, the two `SyncPeers`
reports, the status update, the manager's resets, and a reached `debug_assert!(false)`. -/
inductive Call
  | sendBlockRequest (peer : PeerAddr) (hash : Hash) (ok : Bool)
  | registerRequest (hash : Hash) (peer : PeerAddr)
  | reportOkResponse (peer : PeerAddr)
  | reportErrorResponse (peer : PeerAddr) (msg : String)
  | updateSyncStatus (archiveHeight currentHeight highestHeight : Nat)
  | applyPeersStatus
  | resetBanCommitedToHash
  | resetSyncPeers
  | resetHashData
  | resetDesegmenterData
  | debugAssertFalse
deriving DecidableEq, Repr

/-- The hash a `send_block_request` call asked for. -/
def Call.sentHash : Call → Option Hash
  | .sendBlockRequest _ h _ => some h
  | _ => none

/-- The key and peer of a `register_request` call. -/
def Call.registered : Call → Option (Hash × PeerAddr)
  | .registerRequest h p => some (h, p)
  | _ => none

/-- One block request's share of the world: the index `peers.choose(rng)` lands on, reduced
modulo the number of peers, and what `send_block_request` returns. -/
structure Draw where
  pick : Nat
  send : Except String Unit

/-- Modelled from the spec: `pibd_params`, the countdown of the request tracker and
`Chain::height_2_archive_height` are not among the sources; the spec names the constants and gives
typical values only. -/
structure Params where
  blocksRequestPerPeer : Nat
  blocksRequestLimit : Nat
  segmentRequestTimeoutSecs : Nat
  timeout_pos : 0 < segmentRequestTimeoutSecs
  requestsToNextAsk : Nat
  height2ArchiveHeight : Nat → Nat

end MwcSync
