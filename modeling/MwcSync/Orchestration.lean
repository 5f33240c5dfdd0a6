import MwcSync.Run
import MwcSync.SyncManager

set_option autoImplicit false

namespace MwcSync

theorem foldl_maxBy {α : Type} (key : α → Nat) :
    ∀ (x : α) (xs : List α) (p : α),
      xs.foldl (fun best y => if key best ≤ key y then y else best) x = p →
      (p = x ∨ p ∈ xs) ∧ key x ≤ key p ∧ ∀ q ∈ xs, key q ≤ key p
  | x, [], p, h => by subst h; simp
  | x, y :: ys, p, h => by
    obtain ⟨hm, hle, hall⟩ := foldl_maxBy key _ ys p h
    by_cases hxy : key x ≤ key y
    · simp only [if_pos hxy] at hm hle
      refine ⟨.inr (hm.elim (fun h => h ▸ .head _) (.tail _)), hxy.trans hle, ?_⟩
      rintro q (_ | ⟨_, hq⟩)
      exacts [hle, hall q hq]
    · simp only [if_neg hxy] at hm hle
      refine ⟨hm.imp_right (.tail _), hle, ?_⟩
      rintro q (_ | ⟨_, hq⟩)
      exacts [by omega, hall q hq]

theorem maxByKey_spec {α : Type} (key : α → Nat) {l : List α} {p : α}
    (h : maxByKey key l = some p) : p ∈ l ∧ ∀ q ∈ l, key q ≤ key p := by
  cases l with
  | nil => cases h
  | cons x xs =>
    obtain ⟨hm, hle, hall⟩ := foldl_maxBy key x xs p (Option.some.inj h)
    refine ⟨hm.elim (fun h => h ▸ .head _) (.tail _), ?_⟩
    rintro q (_ | ⟨_, hq⟩)
    exacts [hle, hall q hq]

@[simp] theorem maxByKey_eq_none {α : Type} (key : α → Nat) {l : List α} :
    maxByKey key l = none ↔ l = [] := by
  cases l <;> simp [maxByKey]

theorem bestHeight_spec (peers : List Peer) :
    let outbound := peers.filter fun p => p.outbound && p.connected
    let connected := peers.filter (·.connected)
    (outbound ≠ [] →
      ∃ p ∈ outbound, bestHeight peers = p.height ∧ ∀ q ∈ outbound, liveKey q ≤ liveKey p) ∧
    (outbound = [] → connected ≠ [] →
      ∃ p ∈ connected, bestHeight peers = p.height ∧ ∀ q ∈ connected, liveKey q ≤ liveKey p) ∧
    (connected = [] → bestHeight peers = 0) := by
  intro outbound connected
  have hsub : connected = [] → outbound = [] := fun h => by
    simp only [connected, List.filter_eq_nil_iff, decide_eq_true_eq] at h
    simp only [outbound, List.filter_eq_nil_iff, Bool.and_eq_true, not_and]
    exact fun p hp _ => by simpa using h p hp
  unfold bestHeight
  cases ho : maxByKey liveKey outbound with
  | some p =>
    have hne : outbound ≠ [] := fun h => by simp [h, maxByKey] at ho
    have ⟨hm, hmax⟩ := maxByKey_spec liveKey ho
    exact ⟨fun _ => ⟨p, hm, rfl, hmax⟩, fun h => absurd h hne, fun h => absurd (hsub h) hne⟩
  | none =>
    cases hc : maxByKey liveKey connected with
    | some p =>
      have ⟨hm, hmax⟩ := maxByKey_spec liveKey hc
      exact ⟨fun h => absurd ((maxByKey_eq_none _).1 ho) h, fun _ _ => ⟨p, hm, by simp [hc], hmax⟩,
        fun h => by simp [h, maxByKey] at hc⟩
    | none =>
      exact ⟨fun h => absurd ((maxByKey_eq_none _).1 ho) h,
        fun _ h => absurd ((maxByKey_eq_none _).1 hc) h, fun _ => by simp [hc]⟩

namespace SyncManager

theorem request_of_bestHeight_zero {P : Params} {fuel : Nat} {chain : Chain} {peers : List Peer}
    {now : Nat} {env : Nat → Draw} {stages : Stages} {m : SyncManager}
    (hc : ∀ c, m.cachedResponse = some c → c.isExpired now = true) (h : bestHeight peers = 0) :
    request P fuel chain peers now env stages m =
      some ({ m with cachedResponse := none }, [.applyPeersStatus, .applyPeersStatus],
        .ok ⟨.waitingForPeers, Capabilities.unknown, "Peers height is 0"⟩) := by
  obtain ⟨body, _ | c⟩ := m
  · simp [request, requestFresh, h]
  · simp [request, hc c rfl, requestFresh, h]

theorem request_bestHeight (peers : List Peer) :
    ((peers.filter fun p => p.outbound && p.connected) ≠ [] →
      ∃ p ∈ peers.filter (fun p => p.outbound && p.connected), bestHeight peers = p.height ∧
        ∀ q ∈ peers.filter (fun p => p.outbound && p.connected), liveKey q ≤ liveKey p) ∧
    ((peers.filter fun p => p.outbound && p.connected) = [] → peers.filter (·.connected) ≠ [] →
      ∃ p ∈ peers.filter (·.connected), bestHeight peers = p.height ∧
        ∀ q ∈ peers.filter (·.connected), liveKey q ≤ liveKey p) ∧
    (peers.filter (·.connected) = [] → bestHeight peers = 0) ∧
    ∀ (P : Params) fuel chain now env stages (m : SyncManager),
      (∀ c, m.cachedResponse = some c → c.isExpired now = true) →
      bestHeight peers = 0 → request P fuel chain peers now env stages m =
        some ({ m with cachedResponse := none }, [.applyPeersStatus, .applyPeersStatus],
          .ok ⟨.waitingForPeers, Capabilities.unknown, "Peers height is 0"⟩) :=
  ⟨(bestHeight_spec peers).1, (bestHeight_spec peers).2.1, (bestHeight_spec peers).2.2,
    fun _ _ _ _ _ _ _ hc h => request_of_bestHeight_zero hc h⟩

/-- Stages that have all finished: the tick goes on to the body, with the headers ready. -/
def readyStages : Stages :=
  ⟨fun _ => ⟨.headersHashReady, Capabilities.unknown, ""⟩,
    fun _ => ⟨.headersReady, Capabilities.unknown, ""⟩,
    fun _ => ⟨.statePibdReady, Capabilities.unknown, ""⟩, "body"⟩

def outboundAtZero : Peer := ⟨5, Capabilities.headerHist, true, true, 0, 100⟩
def inboundAhead : Peer := ⟨6, Capabilities.headerHist, false, true, 100, 50⟩

/-- An outbound peer that reports no height yet and an inbound peer at height 100: the outbound
peer is the only candidate, so the tick waits for peers. -/
theorem request_waits_despite_inbound_height :
    inboundAhead.connected = true ∧ 0 < inboundAhead.height ∧
      request BodySync.smallParams 600 BodySync.lineChain [outboundAtZero, inboundAhead] 0
        BodySync.firstPickEnv readyStages new =
        some (new, [.applyPeersStatus, .applyPeersStatus],
          .ok ⟨.waitingForPeers, Capabilities.unknown, "Peers height is 0"⟩) :=
  ⟨rfl, by decide, rfl⟩

theorem sentHash_of_managerOnly {l : List Call} (h : ∀ c ∈ l, c.managerOnly = true) :
    ∀ c ∈ l, c.sentHash = none := fun c hc => by
  have := h c hc
  cases c <;> first | rfl | cases this

theorem managerOnly_headersHashStage (r : SyncResponse) :
    ∀ c ∈ (headersHashStage r).1, c.managerOnly = true := by
  unfold headersHashStage; split <;> exact List.all_eq_true.1 rfl

theorem managerOnly_headersStage (r : SyncResponse) :
    ∀ c ∈ (headersStage r).1, c.managerOnly = true := by
  unfold headersStage; split <;> exact List.all_eq_true.1 rfl

theorem managerOnly_stateStage (r : SyncResponse) :
    ∀ c ∈ (stateStage r).1, c.managerOnly = true := by
  unfold stateStage; split <;> exact List.all_eq_true.1 rfl

theorem managerOnly_stagesBeforeBody (stages : Stages) (bh : Nat) :
    ∀ c ∈ (stagesBeforeBody stages bh).1, c.managerOnly = true := by
  have h₁ := managerOnly_headersHashStage (stages.headersHash bh)
  have h₂ := managerOnly_headersStage (stages.headers bh)
  have h₃ := managerOnly_stateStage (stages.state bh)
  unfold stagesBeforeBody
  split <;> rename_i e₁ <;> rw [e₁] at h₁
  · exact h₁
  · split <;> rename_i e₂ <;> rw [e₂] at h₂
    · exact List.forall_mem_append.2 ⟨h₁, h₂⟩
    · split <;> rename_i e₃ <;> rw [e₃] at h₃ <;>
        exact List.forall_mem_append.2 ⟨List.forall_mem_append.2 ⟨h₁, h₂⟩, h₃⟩

theorem managerOnly_bodyStage (ready : Bool) (caps : Capabilities) (msg : String)
    (r : Except Failure SyncRequestResponses) :
    ∀ c ∈ (bodyStage ready caps msg r).1, c.managerOnly = true := by
  unfold bodyStage; split <;> (try split) <;> exact List.all_eq_true.1 rfl

theorem bodyStage_badState {ready : Bool} {caps : Capabilities} {msg : String}
    {r : Except Failure SyncRequestResponses} {resp : SyncResponse}
    (h : (bodyStage ready caps msg r).2.1 = .ok resp) (hb : resp.response = .badState) :
    r = .ok .badState ∧ (bodyStage ready caps msg r).1 = [.resetDesegmenterData] := by
  rcases r with (e | m) | v
  · cases h; cases hb
  · cases h
  · cases v <;> cases ready <;> first | exact ⟨rfl, rfl⟩ | (cases h; cases hb)

theorem BodySync.request_badState {P : Params} {fuel : Nat} {chain : Chain} {peers : List Peer}
    {bh now : Nat} {env : Nat → Draw} {s : BodySync} {o : BodySync.Outcome SyncRequestResponses}
    (h : BodySync.request P fuel chain peers bh now env s = some o) (hb : o.2.2 = .ok .badState) :
    o.1 = s ∧ o.2.1 = [] := by
  rcases BodySync.request_cases h with ⟨h₁, h₂, -⟩ | ⟨_, _, _, _, -, ⟨-, rfl⟩ | ⟨-, te⟩⟩
  · exact ⟨h₁, h₂⟩
  · simp only [Except.ok.injEq] at hb
    split at hb <;> cases hb
  · cases te.syncing _ hb

theorem requestFresh_badState {P : Params} {fuel : Nat} {chain : Chain} {peers : List Peer}
    {now : Nat} {env : Nat → Draw} {stages : Stages} {m : SyncManager}
    {o : SyncManager × List Call × Except Failure SyncResponse}
    (h : requestFresh P fuel chain peers now env stages m = some o)
    (hb : ∃ r, o.2.2 = .ok r ∧ r.response = .badState) :
    o.1.body = m.body ∧ ∀ c ∈ o.2.1, c.sentHash = none := by
  have hstages := managerOnly_stagesBeforeBody stages (bestHeight peers)
  simp only [requestFresh] at h
  split_ifs at h
  · cases h; exact ⟨rfl, sentHash_of_managerOnly (List.all_eq_true.1 rfl)⟩
  · split at h
    · rename_i cs r hs
      cases h
      rw [hs] at hstages
      exact ⟨rfl, sentHash_of_managerOnly
        (List.forall_mem_append.2 ⟨List.all_eq_true.1 rfl, hstages⟩)⟩
    · rename_i cs ready hs
      obtain ⟨ob, hob, rfl⟩ := Option.map_eq_some'.1 h
      obtain ⟨r, hr, hrb⟩ := hb
      obtain ⟨hbad, hcalls⟩ := bodyStage_badState hr hrb
      obtain ⟨hs₁, hs₂⟩ := BodySync.request_badState hob hbad
      rw [hs] at hstages
      refine ⟨hs₁, sentHash_of_managerOnly ?_⟩
      simp only [hs₂, hcalls, List.append_nil, List.forall_mem_append]
      exact ⟨⟨List.all_eq_true.1 rfl, hstages⟩, List.all_eq_true.1 rfl⟩

theorem request_badState_quiet {P : Params} {fuel : Nat} {chain : Chain} {peers : List Peer}
    {now : Nat} {env : Nat → Draw} {stages : Stages} {m : SyncManager}
    {o : SyncManager × List Call × Except Failure SyncResponse}
    (h : request P fuel chain peers now env stages m = some o)
    (hb : ∃ r, o.2.2 = .ok r ∧ r.response = .badState) :
    o.1.body = m.body ∧ ∀ c ∈ o.2.1, c.sentHash = none := by
  unfold request at h
  split at h
  · split_ifs at h
    · exact requestFresh_badState (m := { m with cachedResponse := none }) h hb
    · cases h; exact ⟨rfl, by simp⟩
  · exact requestFresh_badState h hb

def peerFar : Peer := ⟨4, Capabilities.headerHist, true, true, 2000, 60⟩

theorem request_badState_quiet_far :
    ∃ o, request BodySync.smallParams 600 BodySync.lineChain [peerFar] 1 BodySync.firstPickEnv
        readyStages new = some o ∧ (∃ r, o.2.2 = .ok r ∧ r.response = .badState) ∧
      o.1.body = new.body ∧ ∀ c ∈ o.2.1, c.sentHash = none := by
  obtain ⟨o, ho⟩ := Option.isSome_iff_exists.1 (by decide : (request BodySync.smallParams 600
    BodySync.lineChain [peerFar] 1 BodySync.firstPickEnv readyStages new).isSome)
  have hr : (request BodySync.smallParams 600 BodySync.lineChain [peerFar] 1 BodySync.firstPickEnv
      readyStages new).map (·.2.2) = some (.ok ⟨.badState, Capabilities.unknown, "body"⟩) := by
    decide
  rw [ho, Option.map_some', Option.some.injEq] at hr
  have hb : ∃ r, o.2.2 = .ok r ∧ r.response = .badState := ⟨_, hr, rfl⟩
  exact ⟨o, ho, hb, request_badState_quiet ho hb⟩

/-- A syncing tick gives peer A ten requests from a series of 25 blocks. Then a peer 2000 blocks
ahead puts the archive horizon above the fork point, and the next tick returns `BadState`. A
report for one of A's blocks then counts the refill countdown down to zero, and the refill asks A
for blocks of the old series before any tick has run the body again. -/
theorem report_sends_after_badState :
    ∃ m log, Runs (Step BodySync.smallParams) new
        [.request BodySync.lineChain [BodySync.peerA] 0 BodySync.firstPickEnv readyStages] m log ∧
      ∃ o, request BodySync.smallParams 600 BodySync.lineChain [peerFar] 1 BodySync.firstPickEnv
          readyStages m = some o ∧
        o.2.2 = .ok ⟨.badState, Capabilities.headerHist, "body"⟩ ∧
        Call.sendBlockRequest BodySync.peerA.addr 1001 true ∈
          (recieveBlockReporting BodySync.smallParams BodySync.lineView true BodySync.peerA.addr 1001
            [BodySync.peerA] BodySync.firstPickEnv 2 o.1).2.1 := by
  have ⟨m, log, hr, hp⟩ := reach_of_run BodySync.smallParams 600
    [.request BodySync.lineChain [BodySync.peerA] 0 BodySync.firstPickEnv readyStages]
    (fun m => (request BodySync.smallParams 600 BodySync.lineChain [peerFar] 1
      BodySync.firstPickEnv readyStages m).any
      fun (o : SyncManager × List Call × Except Failure SyncResponse) =>
        decide (o.2.2 = .ok ⟨.badState, Capabilities.headerHist, "body"⟩) &&
        decide (Call.sendBlockRequest BodySync.peerA.addr 1001 true ∈
          (recieveBlockReporting BodySync.smallParams BodySync.lineView true BodySync.peerA.addr 1001
            [BodySync.peerA] BodySync.firstPickEnv 2 o.1).2.1))
    (by decide)
  refine ⟨m, log, hr, ?_⟩
  cases ho : request BodySync.smallParams 600 BodySync.lineChain [peerFar] 1 BodySync.firstPickEnv
    readyStages m with
  | none => simp [ho] at hp
  | some o =>
    simp only [ho, Option.any_some, Bool.and_eq_true, decide_eq_true_eq] at hp
    exact ⟨o, rfl, hp⟩

/-- A chain whose head cannot be read. -/
def headlessChain : Chain := ⟨{ BodySync.lineView with head := .error ⟨7⟩ }, fun _ => none⟩

/-- Every stage before the body has finished and the chain fails to read its head: the body
returns the storage error, and the manager logs it and reaches the final `debug_assert!(false)`. -/
theorem request_asserts_on_chain_error :
    (request BodySync.smallParams 600 headlessChain [BodySync.peerA] 0 BodySync.firstPickEnv
      readyStages new).map (·.2) =
      some ([.applyPeersStatus, .applyPeersStatus, .debugAssertFalse], .ok internalError) := by
  decide

end SyncManager

end MwcSync
