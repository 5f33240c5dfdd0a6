import MwcSync.Tick
import MwcSync.Trace

set_option autoImplicit false

namespace MwcSync.BodySync

/-- One call into `BodySync`, with everything it reads from outside. -/
inductive Event
  | request (chain : Chain) (peers : List Peer) (bestHeight now : Nat) (env : Nat → Draw)
  | recieveBlockReporting (c : ChainView) (accepted : Bool) (blockHash : Hash) (peer : PeerAddr)
      (peers : List Peer) (now : Nat) (env : Nat → Draw)

/-- One call from `s`: the state after it and the calls it made. A tick whose rebuild loop would
not end is no step. -/
inductive Step (P : Params) : BodySync → Event → BodySync → List Call → Prop
  | request {fuel : Nat} {chain : Chain} {peers : List Peer} {bestHeight now : Nat}
      {env : Nat → Draw} {s : BodySync} {o : Outcome SyncRequestResponses}
      (h : request P fuel chain peers bestHeight now env s = some o) :
      Step P s (.request chain peers bestHeight now env) o.1 o.2.1
  | recieveBlockReporting {c : ChainView} {accepted : Bool} {blockHash : Hash} {peer : PeerAddr}
      {peers : List Peer} {now : Nat} {env : Nat → Draw} {s : BodySync} :
      Step P s (.recieveBlockReporting c accepted blockHash peer peers now env)
        (recieveBlockReporting P c accepted blockHash peer peers env now s).1
        (recieveBlockReporting P c accepted blockHash peer peers env now s).2.1

variable {P : Params}

/-- One call as the code runs it, with `fuel` rounds for the rebuild loop. -/
def Event.apply (P : Params) (fuel : Nat) (s : BodySync) : Event → Option (BodySync × List Call)
  | .request chain peers bestHeight now env =>
    (BodySync.request P fuel chain peers bestHeight now env s).map fun o => (o.1, o.2.1)
  | .recieveBlockReporting c accepted blockHash peer peers now env =>
    let o := BodySync.recieveBlockReporting P c accepted blockHash peer peers env now s
    some (o.1, o.2.1)

theorem Step.of_apply {fuel : Nat} {s : BodySync} {e : Event} {s' : BodySync} {cs : List Call}
    (h : e.apply P fuel s = some (s', cs)) : Step P s e s' cs := by
  cases e with
  | request chain peers bestHeight now env =>
    obtain ⟨o, ho, he⟩ := Option.map_eq_some'.1 (show Option.map _ _ = _ from h)
    cases he
    exact .request ho
  | recieveBlockReporting => cases h; exact .recieveBlockReporting

theorem reach_of_run (P : Params) (fuel : Nat) (evs : List Event) (p : BodySync → Bool)
    (h : (runFrom (fun s e => e.apply P fuel s) new [] evs).map (p ·.1) = some true) :
    ∃ s log, Runs (Step P) new evs s log ∧ p s = true :=
  reach_of_runFrom (fun _ _ _ _ => Step.of_apply) h

theorem reach_log_of_run (P : Params) (fuel : Nat) (evs : List Event)
    (p : BodySync → List Call → Bool)
    (h : (runFrom (fun s e => e.apply P fuel s) new [] evs).map (fun r => p r.1 r.2) = some true) :
    ∃ s log, Runs (Step P) new evs s log ∧ p s log = true :=
  reach_log_of_runFrom (fun _ _ _ _ => Step.of_apply) h

/-- The setting of the concrete runs: caps of 10 per peer and 100 in all, a 30 s timeout, and
(`lineView`) a header chain of heights `0..25` whose blocks stop at genesis. -/
def smallParams : Params := ⟨10, 100, 30, by decide, 1, fun h => h - 1000⟩

def lineView : ChainView where
  head := .ok ⟨0, 1000⟩
  headerHead := .ok ⟨25, 1025⟩
  forkPoint := .ok ⟨0, 1000⟩
  archiveMode := false
  getHeaderByHeight h := .ok ⟨h, h + 1000⟩
  getPreviousHeader b :=
    if b.height = 0 then .error ⟨0⟩ else .ok ⟨b.height - 1, b.height - 1 + 1000⟩
  blockExists _ := .ok false
  isOrphan _ := false
  getOrphan _ := none

def lineChain : Chain := ⟨lineView, fun _ => none⟩

def peerA : Peer := ⟨1, Capabilities.headerHist, true, true, 100, 50⟩
def peerB : Peer := ⟨2, Capabilities.headerHist, true, true, 100, 50⟩
def peerBare : Peer := ⟨3, Capabilities.unknown, true, true, 100, 50⟩

def firstPickEnv : Nat → Draw := fun _ => ⟨0, .ok ()⟩

end MwcSync.BodySync
