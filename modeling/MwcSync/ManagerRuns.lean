import MwcSync.Capacity
import MwcSync.Credit
import MwcSync.RequestSeries
import MwcSync.Orchestration

set_option autoImplicit false

namespace MwcSync

/-- The calls of `log` that the body syncer made. -/
def bodyCalls (log : List Call) : List Call := log.filter fun c => !c.managerOnly

@[simp] theorem bodyCalls_append (l₁ l₂ : List Call) :
    bodyCalls (l₁ ++ l₂) = bodyCalls l₁ ++ bodyCalls l₂ := List.filter_append _ _

theorem bodyCalls_eq_nil {l : List Call} (h : ∀ c ∈ l, c.managerOnly = true) : bodyCalls l = [] :=
  List.filter_eq_nil_iff.2 fun c hc => by simp [h c hc]

theorem bodyCalls_eq_self {l : List Call} (h : ∀ c ∈ l, c.managerOnly = false) : bodyCalls l = l :=
  List.filter_eq_self.2 fun c hc => by simp [h c hc]

namespace BodySync

open RequestTracker

theorem not_managerOnly_of_all {l : List Call} (h : (l.all fun c => !c.managerOnly) = true) :
    ∀ c ∈ l, c.managerOnly = false :=
  fun c hc => by simpa using List.all_eq_true.1 h c hc

theorem managerOnly_attempts (atts : List Attempt) :
    ∀ c ∈ atts.flatMap Attempt.calls, c.managerOnly = false :=
  List.forall_mem_flatMap.2 fun a _ => by cases a <;> exact not_managerOnly_of_all rfl

variable {peers : List Peer} {now : Nat}

theorem Sent.managerOnly {a b : SendState} {regs : List (RequestData Hash)} {atts : List Attempt}
    (h : Sent peers now a b regs atts) (ha : ∀ c ∈ a.calls, c.managerOnly = false) :
    ∀ c ∈ b.calls, c.managerOnly = false := by
  rw [h.calls]
  exact List.forall_mem_append.2 ⟨ha, managerOnly_attempts atts⟩

variable {P : Params} {s : BodySync}

theorem managerOnly_sendStart (t : RequestTracker Hash) (sel : List Peer × Nat) (a b c : Nat) :
    ∀ x ∈ (sendStart P t sel now (.updateSyncStatus a b c)).calls, x.managerOnly = false := by
  refine List.forall_mem_append.2 ⟨fun x hx => ?_, not_managerOnly_of_all rfl⟩
  obtain ⟨_, -, rfl⟩ := List.mem_map.1 hx
  rfl

theorem managerOnly_reportCalls (owner : Option PeerAddr) (accepted : Bool) (blockHash : Hash)
    (peer : PeerAddr) : ∀ c ∈ reportCalls owner accepted blockHash peer, c.managerOnly = false := by
  unfold reportCalls
  split <;> split_ifs <;> exact not_managerOnly_of_all rfl

theorem Step.managerOnly {e : Event} {s' : BodySync} {cs : List Call} (h : Step P s e s' cs) :
    ∀ c ∈ cs, c.managerOnly = false := by
  cases h with
  | request ho =>
    rcases request_cases ho with ⟨-, h₂, -⟩ | ⟨_, _, _, _, -, ⟨-, rfl⟩ | ⟨-, te⟩⟩
    · rw [h₂]; exact fun _ hc => absurd hc (List.not_mem_nil _)
    · exact fun _ hc => absurd hc (List.not_mem_nil _)
    · obtain ⟨regs, atts, st', hs, -, hc⟩ := te.sent
      rw [hc]
      exact hs.managerOnly (managerOnly_sendStart _ _ _ _ _)
  | recieveBlockReporting =>
    obtain ⟨_, st₀, regs, atts, st', -, hc₀, -, hs, -, hc⟩ := recieveBlockReporting_spec.sent
    rw [hc]
    exact hs.managerOnly (hc₀ ▸ managerOnly_reportCalls _ _ _ _)

end BodySync

namespace SyncManager

variable {P : Params}

theorem requestFresh_body {fuel : Nat} {chain : Chain} {peers : List Peer} {now : Nat}
    {env : Nat → Draw} {stages : Stages} {m : SyncManager}
    {o : SyncManager × List Call × Except Failure SyncResponse}
    (h : requestFresh P fuel chain peers now env stages m = some o) :
    (o.1.body = m.body ∧ bodyCalls o.2.1 = []) ∨
      ∃ be, BodySync.Step P m.body be o.1.body (bodyCalls o.2.1) := by
  have hstages := managerOnly_stagesBeforeBody stages (bestHeight peers)
  simp only [requestFresh] at h
  split_ifs at h
  · cases h; exact .inl ⟨rfl, rfl⟩
  · split at h
    · rename_i cs r hs
      cases h
      rw [hs] at hstages
      exact .inl ⟨rfl,
        bodyCalls_eq_nil (List.forall_mem_append.2 ⟨List.all_eq_true.1 rfl, hstages⟩)⟩
    · rename_i cs ready hs
      obtain ⟨ob, hob, rfl⟩ := Option.map_eq_some'.1 h
      rw [hs] at hstages
      have hb := BodySync.Step.request hob
      refine .inr ⟨.request chain peers (bestHeight peers) now env, ?_⟩
      rw [bodyCalls_append, bodyCalls_append, bodyCalls_append, bodyCalls_eq_nil hstages,
        bodyCalls_eq_nil (managerOnly_bodyStage _ _ _ _), bodyCalls_eq_self hb.managerOnly,
        show bodyCalls [.applyPeersStatus, .applyPeersStatus] = [] from rfl]
      simpa only [List.append_nil, List.nil_append] using hb

theorem Step.body {m m' : SyncManager} {e : Event} {cs : List Call} (h : Step P m e m' cs) :
    (m'.body = m.body ∧ bodyCalls cs = []) ∨
      ∃ be, BodySync.Step P m.body be m'.body (bodyCalls cs) := by
  cases h with
  | request ho =>
    unfold SyncManager.request at ho
    split at ho
    · split_ifs at ho
      · exact requestFresh_body (m := { m with cachedResponse := none }) ho
      · cases ho; exact .inl ⟨rfl, rfl⟩
    · exact requestFresh_body ho
  | recieveBlockReporting =>
    have hb := @BodySync.Step.recieveBlockReporting P
    exact .inr ⟨_, (bodyCalls_eq_self hb.managerOnly).symm ▸ hb⟩

theorem run_body {evs : List Event} {m : SyncManager} {log : List Call}
    (h : Runs (Step P) new evs m log) :
    ∃ bevs, Runs (BodySync.Step P) BodySync.new bevs m.body (bodyCalls log) := by
  induction h with
  | nil => exact ⟨[], .nil⟩
  | snoc _ hs ih =>
    obtain ⟨bevs, hb⟩ := ih
    rw [bodyCalls_append]
    rcases hs.body with ⟨he, hc⟩ | ⟨be, hbe⟩
    · rw [he, hc, List.append_nil]; exact ⟨bevs, hb⟩
    · exact ⟨bevs ++ [be], hb.snoc hbe⟩

theorem credits_bodyCalls (p : PeerAddr) (log : List Call) :
    BodySync.credits p (bodyCalls log) = BodySync.credits p log := by
  simp only [BodySync.credits, bodyCalls, List.countP_filter]
  exact List.countP_congr fun c _ => by
    by_cases hc : c = .reportOkResponse p <;> simp [hc, Call.managerOnly]

theorem registrations_bodyCalls (p : PeerAddr) (log : List Call) :
    BodySync.registrations p (bodyCalls log) = BodySync.registrations p log := by
  simp only [BodySync.registrations, bodyCalls, List.countP_filter]
  exact List.countP_congr fun c _ => by cases c <;> simp [Call.registered, Call.managerOnly]

theorem body_invariants {evs : List Event} {m : SyncManager} {log : List Call}
    (h : Runs (Step P) new evs m log) :
    m.body.requestTracker.getRequestsNum ≤ P.blocksRequestLimit ∧
      ∀ p, BodySync.credits p log + m.body.requestTracker.getPeersQueueSize p ≤
        BodySync.registrations p log := by
  obtain ⟨bevs, hb⟩ := run_body h
  refine ⟨hb.invariant (I := fun s _ => s.requestTracker.getRequestsNum ≤ P.blocksRequestLimit)
    (Nat.zero_le _) fun _ _ _ _ _ hI hs => hs.requestsNum_le.trans (max_le le_rfl hI), fun p => ?_⟩
  have := hb.invariant (I := fun s log => ∀ p, BodySync.credits p log +
      s.requestTracker.getPeersQueueSize p ≤ BodySync.registrations p log)
    (fun _ => le_rfl) (fun _ _ _ _ _ hI hs => hs.ledger_preserved hI) p
  rwa [credits_bodyCalls, registrations_bodyCalls] at this

theorem body_invariants_line :
    ∃ m log, Runs (Step BodySync.smallParams) new
        [.request BodySync.lineChain [BodySync.peerA] 0 BodySync.firstPickEnv readyStages] m log ∧
      m.body.requestTracker.getRequestsNum = 10 ∧
      m.body.requestTracker.getRequestsNum ≤ BodySync.smallParams.blocksRequestLimit ∧
      ∀ p, BodySync.credits p log + m.body.requestTracker.getPeersQueueSize p ≤
        BodySync.registrations p log :=
  have ⟨m, log, hr, hp⟩ := reach_of_run BodySync.smallParams 600
    [.request BodySync.lineChain [BodySync.peerA] 0 BodySync.firstPickEnv readyStages]
    (fun m => decide (m.body.requestTracker.getRequestsNum = 10)) (by decide)
  ⟨m, log, hr, of_decide_eq_true hp, body_invariants hr⟩

theorem bodyStage_syncDone {ready : Bool} {caps : Capabilities} {msg : String}
    {r : Except Failure SyncRequestResponses} {resp : SyncResponse}
    (h : (bodyStage ready caps msg r).2.1 = .ok resp) (hd : resp.response = .syncDone) :
    (bodyStage ready caps msg r).2.2 = some resp := by
  rcases r with (e | m) | v
  · cases h; cases hd
  · cases h
  · cases v <;> cases ready <;> first | (cases h; rfl) | (cases h; cases hd)

theorem headersHashStage_ret {resp r : SyncResponse} {cs : List Call}
    (h : headersHashStage resp = (cs, .ret r)) : r.response ≠ .syncDone := by
  unfold headersHashStage at h
  split at h <;> cases h <;> simp_all

theorem headersStage_ret {resp r : SyncResponse} {cs : List Call}
    (h : headersStage resp = (cs, .ret r)) : r.response ≠ .syncDone := by
  unfold headersStage at h
  split at h <;> cases h <;> simp_all

theorem stateStage_ret {resp r : SyncResponse} {cs : List Call}
    (h : stateStage resp = (cs, .ret r)) : r.response ≠ .syncDone := by
  unfold stateStage at h
  split at h <;> cases h <;> simp_all

theorem stagesBeforeBody_ret {stages : Stages} {bh : Nat} {cs : List Call} {r : SyncResponse}
    (h : stagesBeforeBody stages bh = (cs, .ret r)) : r.response ≠ .syncDone := by
  unfold stagesBeforeBody at h
  split at h
  · cases h; exact headersHashStage_ret ‹_›
  · split at h
    · cases h; exact headersStage_ret ‹_›
    · split at h
      · cases h; exact stateStage_ret ‹_›
      · cases h

variable {fuel : Nat} {chain : Chain} {peers : List Peer} {now : Nat} {env : Nat → Draw}
  {stages : Stages}

theorem requestFresh_cache {m : SyncManager}
    {o : SyncManager × List Call × Except Failure SyncResponse}
    (h : requestFresh P fuel chain peers now env stages m = some o) {c : CachedResponse}
    (hc : o.1.cachedResponse = some c) : m.cachedResponse = some c ∨ c.duration = 180 := by
  simp only [requestFresh] at h
  split_ifs at h
  · cases h; exact .inl hc
  · split at h
    · cases h; exact .inl hc
    · obtain ⟨ob, -, rfl⟩ := Option.map_eq_some'.1 h
      simp only at hc
      split at hc
      · cases hc; exact .inr rfl
      · exact .inl hc

theorem requestFresh_syncDone {m : SyncManager}
    {o : SyncManager × List Call × Except Failure SyncResponse} {r : SyncResponse}
    (h : requestFresh P fuel chain peers now env stages m = some o) (hr : o.2.2 = .ok r)
    (hd : r.response = .syncDone) : o.1.cachedResponse = some ⟨r, now, 180⟩ := by
  simp only [requestFresh] at h
  split_ifs at h
  · cases h; cases hr; cases hd
  · split at h
    · rename_i cs r' hs
      cases h; cases hr
      exact absurd hd (stagesBeforeBody_ret hs)
    · obtain ⟨ob, -, rfl⟩ := Option.map_eq_some'.1 h
      simp only [bodyStage_syncDone hr hd]

theorem Step.cache {m m' : SyncManager} {e : Event} {cs : List Call} (h : Step P m e m' cs)
    (hI : ∀ c, m.cachedResponse = some c → c.duration = 180) :
    ∀ c, m'.cachedResponse = some c → c.duration = 180 := by
  intro c hc
  cases h with
  | request ho =>
    unfold SyncManager.request at ho
    split at ho
    · split_ifs at ho
      · exact (requestFresh_cache (m := { m with cachedResponse := none }) ho hc).resolve_left
          (by simp)
      · cases ho; exact hI c hc
    · exact (requestFresh_cache ho hc).elim (hI c) id
  | recieveBlockReporting => exact hI c hc

theorem cached_duration {evs : List Event} {m : SyncManager} {log : List Call}
    (h : Runs (Step P) new evs m log) : ∀ c, m.cachedResponse = some c → c.duration = 180 :=
  h.invariant (I := fun m _ => ∀ c, m.cachedResponse = some c → c.duration = 180)
    (fun _ hc => by simp [new] at hc) fun _ _ _ _ _ hI hs => hs.cache hI

theorem request_of_cached {m : SyncManager} {c : CachedResponse} (hc : m.cachedResponse = some c)
    (hn : now ≤ c.time + c.duration) :
    request P fuel chain peers now env stages m = some (m, [], .ok c.response) := by
  have : ¬c.time + c.duration < now := by omega
  simp only [request, hc, CachedResponse.isExpired, this, decide_False, Bool.false_eq_true,
    ↓reduceIte]

theorem request_syncDone_cache {evs : List Event} {m : SyncManager} {log : List Call}
    {o : SyncManager × List Call × Except Failure SyncResponse} {r : SyncResponse}
    (h : Runs (Step P) new evs m log) (ho : request P fuel chain peers now env stages m = some o)
    (hr : o.2.2 = .ok r) (hd : r.response = .syncDone) :
    ∃ t, o.1.cachedResponse = some ⟨r, t, 180⟩ ∧ now ≤ t + 180 := by
  unfold request at ho
  split at ho
  · rename_i c hc
    split_ifs at ho with hexp
    · exact ⟨now, requestFresh_syncDone ho hr hd, Nat.le_add_right _ _⟩
    · cases ho
      cases hr
      have hdur := cached_duration h c hc
      simp only [CachedResponse.isExpired, decide_eq_true_eq, not_lt] at hexp
      exact ⟨c.time, by rw [hc, ← hdur], hdur ▸ hexp⟩
  · exact ⟨now, requestFresh_syncDone ho hr hd, Nat.le_add_right _ _⟩

/-- A call into the manager that comes no later than `t`: a tick up to `t`, or a block report. -/
def Event.NotAfter (t : Nat) : Event → Prop
  | .request _ _ now _ _ => now ≤ t
  | .recieveBlockReporting .. => True

instance (t : Nat) : DecidablePred (Event.NotAfter t) := fun e => by
  cases e <;> unfold Event.NotAfter <;> infer_instance

theorem Step.keeps_cache {m m' : SyncManager} {e : Event} {cs : List Call} (h : Step P m e m' cs)
    {c : CachedResponse} (hc : m.cachedResponse = some c) (he : e.NotAfter (c.time + c.duration)) :
    m'.cachedResponse = some c := by
  cases h with
  | request ho => rw [request_of_cached hc he] at ho; cases ho; exact hc
  | recieveBlockReporting => exact hc

theorem syncDone_cached {evs : List Event} {m : SyncManager} {log : List Call}
    {o : SyncManager × List Call × Except Failure SyncResponse} {r : SyncResponse}
    (h : Runs (Step P) new evs m log) (ho : request P fuel chain peers now env stages m = some o)
    (hr : o.2.2 = .ok r) (hd : r.response = .syncDone) :
    ∃ t, o.1.cachedResponse = some ⟨r, t, 180⟩ ∧ now ≤ t + 180 ∧
      ∀ (evs' : List Event) (m' : SyncManager) (log' : List Call), Runs (Step P) o.1 evs' m' log' →
        (∀ e ∈ evs', e.NotAfter (t + 180)) → m'.cachedResponse = some ⟨r, t, 180⟩ ∧
          ∀ (fuel' : Nat) (chain' : Chain) (peers' : List Peer) (now' : Nat) (env' : Nat → Draw)
            (stages' : Stages), now' ≤ t + 180 →
              request P fuel' chain' peers' now' env' stages' m' = some (m', [], .ok r) := by
  obtain ⟨t, hc, hn⟩ := request_syncDone_cache h ho hr hd
  refine ⟨t, hc, hn, fun evs' m' log' hrun hq => ?_⟩
  have hc' : m'.cachedResponse = some ⟨r, t, 180⟩ :=
    hrun.invariant_of (I := fun m _ => m.cachedResponse = some ⟨r, t, 180⟩) hc
      (fun _ _ _ _ _ he hI hs => hs.keeps_cache hI he) hq
  exact ⟨hc', fun _ _ _ _ _ _ hn' => request_of_cached hc' hn'⟩

/-- A chain whose blocks are all in: its head is its header head. -/
def doneChain : Chain := ⟨{ BodySync.lineView with head := .ok ⟨25, 1025⟩ }, fun _ => none⟩

theorem syncDone_cached_done :
    ∃ o r, request BodySync.smallParams 600 doneChain [BodySync.peerA] 0 BodySync.firstPickEnv
        readyStages new = some o ∧ o.2.2 = .ok r ∧ r.response = .syncDone ∧
      ∃ t, o.1.cachedResponse = some ⟨r, t, 180⟩ ∧ 0 ≤ t + 180 ∧
        ∀ (evs' : List Event) (m' : SyncManager) (log' : List Call),
          Runs (Step BodySync.smallParams) o.1 evs' m' log' →
          (∀ e ∈ evs', e.NotAfter (t + 180)) → m'.cachedResponse = some ⟨r, t, 180⟩ ∧
            ∀ (fuel' : Nat) (chain' : Chain) (peers' : List Peer) (now' : Nat) (env' : Nat → Draw)
              (stages' : Stages), now' ≤ t + 180 →
                request BodySync.smallParams fuel' chain' peers' now' env' stages' m' =
                  some (m', [], .ok r) := by
  obtain ⟨o, ho⟩ := Option.isSome_iff_exists.1 (by decide : (request BodySync.smallParams 600
    doneChain [BodySync.peerA] 0 BodySync.firstPickEnv readyStages new).isSome)
  have hr : (request BodySync.smallParams 600 doneChain [BodySync.peerA] 0 BodySync.firstPickEnv
      readyStages new).map (·.2.2) = some (.ok ⟨.syncDone, Capabilities.unknown, "DONE!"⟩) := by
    decide
  rw [ho, Option.map_some', Option.some.injEq] at hr
  exact ⟨o, _, ho, hr, rfl, syncDone_cached .nil ho hr rfl⟩

theorem request_isSome_of_heightIndexed {m : SyncManager} (hc : chain.HeightIndexed)
    (hf : 500 < fuel) : (request P fuel chain peers now env stages m).isSome := by
  have hfresh : ∀ m, (requestFresh P fuel chain peers now env stages m).isSome := fun m => by
    simp only [requestFresh]
    split_ifs
    · rfl
    · split
      · rfl
      · rw [Option.isSome_map']
        exact BodySync.request_isSome hc hf
  unfold request
  split
  · split_ifs
    · exact hfresh _
    · rfl
  · exact hfresh _

theorem request_isSome_of_heightIndexed_line :
    BodySync.lineChain.HeightIndexed ∧ 500 < 600 ∧
      (request BodySync.smallParams 600 BodySync.lineChain [BodySync.peerA] 0 BodySync.firstPickEnv
        readyStages new).isSome :=
  ⟨BodySync.lineChain_heightIndexed, by decide,
    request_isSome_of_heightIndexed BodySync.lineChain_heightIndexed (by decide)⟩

end SyncManager

end MwcSync
