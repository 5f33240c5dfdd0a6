import MwcSync.Run

set_option autoImplicit false

namespace MwcSync.BodySync

open RequestTracker

/-- The ok credits `p` received in `log`. -/
def credits (p : PeerAddr) (log : List Call) : Nat := log.countP (· = .reportOkResponse p)

/-- The requests registered against `p` in `log`. -/
def registrations (p : PeerAddr) (log : List Call) : Nat :=
  log.countP fun c => c.registered.map Prod.snd = some p

@[simp] theorem credits_append (p : PeerAddr) (l₁ l₂ : List Call) :
    credits p (l₁ ++ l₂) = credits p l₁ + credits p l₂ := List.countP_append _ _ _

@[simp] theorem registrations_append (p : PeerAddr) (l₁ l₂ : List Call) :
    registrations p (l₁ ++ l₂) = registrations p l₁ + registrations p l₂ :=
  List.countP_append _ _ _

theorem registrations_eq_zero {p : PeerAddr} {l : List Call} (h : ∀ c ∈ l, c.registered = none) :
    registrations p l = 0 :=
  List.countP_eq_zero.2 fun c hc => by simp [h c hc]

theorem credits_calls (p : PeerAddr) (a : Attempt) : credits p a.calls = 0 := by
  cases a <;> rfl

theorem credits_attempts (p : PeerAddr) (atts : List Attempt) :
    credits p (atts.flatMap Attempt.calls) = 0 := by
  induction atts with
  | nil => rfl
  | cons a atts ih => rw [List.flatMap_cons, credits_append, credits_calls, ih]

theorem registrations_calls (p : PeerAddr) (a : Attempt) :
    registrations p a.calls = ([a].filterMap Attempt.registered).countP (·.2 = p) := by
  cases a <;> simp only [registrations, Attempt.calls, Attempt.registered, List.countP_cons,
    List.countP_nil, List.filterMap_cons, List.filterMap_nil, Call.registered, Option.map_none',
    Option.map_some', Option.some.injEq, reduceCtorEq, decide_False, ↓reduceIte, Nat.zero_add,
    Nat.add_zero]

theorem registrations_attempts (p : PeerAddr) (atts : List Attempt) :
    registrations p (atts.flatMap Attempt.calls) =
      (atts.filterMap Attempt.registered).countP (·.2 = p) := by
  induction atts with
  | nil => rfl
  | cons a atts ih =>
    rw [List.flatMap_cons, registrations_append, ih, registrations_calls, ← List.countP_append,
      ← List.filterMap_append]
    rfl

variable {peers : List Peer} {now : Nat}

theorem Sent.credits_eq {a b : SendState} {regs : List (RequestData Hash)} {atts : List Attempt}
    (h : Sent peers now a b regs atts) (p : PeerAddr) : credits p b.calls = credits p a.calls := by
  rw [h.calls, credits_append, credits_attempts, Nat.add_zero]

theorem Sent.ledger {a b : SendState} {regs : List (RequestData Hash)} {atts : List Attempt}
    (h : Sent peers now a b regs atts) (p : PeerAddr) :
    b.tracker.getPeersQueueSize p + registrations p a.calls =
      a.tracker.getPeersQueueSize p + registrations p b.calls := by
  rw [h.calls, registrations_append, registrations_attempts, h.registered, getPeersQueueSize,
    getPeersQueueSize, h.requests, List.countP_append, List.countP_map]
  simp only [Function.comp_def]
  omega

theorem credits_pos_iff {p : PeerAddr} {l : List Call} :
    0 < credits p l ↔ Call.reportOkResponse p ∈ l := by
  simp [credits, List.countP_pos_iff]

theorem credits_retainExpired (p : PeerAddr) (t : RequestTracker Hash) (timeout now : Nat) :
    credits p (t.retainExpired timeout now).2 = 0 := by
  simp [credits, retainExpired, List.countP_eq_zero]

theorem registrations_retainExpired (p : PeerAddr) (t : RequestTracker Hash) (timeout now : Nat) :
    registrations p (t.retainExpired timeout now).2 = 0 :=
  registrations_eq_zero fun _ hc => by obtain ⟨_, -, rfl⟩ := List.mem_map.1 hc; rfl

theorem credits_reportCalls (p : PeerAddr) (owner : Option PeerAddr) (accepted : Bool)
    (blockHash : Hash) (peer : PeerAddr) :
    credits p (reportCalls owner accepted blockHash peer) =
      if owner = some p ∧ accepted = true ∧ peer = p then 1 else 0 := by
  unfold reportCalls
  rcases owner with _ | o
  · cases accepted <;> simp [credits]
  · cases accepted <;> by_cases ho : o = peer <;> by_cases hp : peer = p <;>
      simp_all [credits, List.countP_cons]

theorem registrations_reportCalls (p : PeerAddr) (owner : Option PeerAddr) (accepted : Bool)
    (blockHash : Hash) (peer : PeerAddr) :
    registrations p (reportCalls owner accepted blockHash peer) = 0 := by
  unfold reportCalls
  split <;> split_ifs <;> rfl

variable {P : Params} {s : BodySync}

theorem TailEffect.ledger {chain : Chain} {fp : BlockHeader} {hh : Tip} {st : SendState}
    {o : Outcome SyncRequestResponses} (h : TailEffect peers now chain fp hh s st o) (p : PeerAddr) :
    credits p o.2.1 + o.1.requestTracker.getPeersQueueSize p + registrations p st.calls =
      credits p st.calls + st.tracker.getPeersQueueSize p + registrations p o.2.1 := by
  obtain ⟨regs, atts, st', hs, ht, hc⟩ := h.sent
  rw [ht, hc, hs.credits_eq]
  have := hs.ledger p
  omega

theorem credits_sendStart (t : RequestTracker Hash) (sel : List Peer × Nat) (now a b c : Nat)
    (p : PeerAddr) : credits p (sendStart P t sel now (.updateSyncStatus a b c)).calls = 0 := by
  simp only [sendStart, credits_append, credits_retainExpired]
  simp [credits]

theorem registrations_sendStart (t : RequestTracker Hash) (sel : List Peer × Nat) (now a b c : Nat)
    (p : PeerAddr) : registrations p (sendStart P t sel now (.updateSyncStatus a b c)).calls = 0 := by
  simp only [sendStart, registrations_append, registrations_retainExpired]
  rfl

theorem TailEffect.sendStart_ledger {chain : Chain} {fp : BlockHeader} {hh : Tip}
    {t : RequestTracker Hash} {sel : List Peer × Nat} {a b c : Nat} {o : Outcome SyncRequestResponses}
    (h : TailEffect peers now chain fp hh s (sendStart P t sel now (.updateSyncStatus a b c)) o)
    (p : PeerAddr) :
    credits p o.2.1 + o.1.requestTracker.getPeersQueueSize p ≤
      registrations p o.2.1 + t.getPeersQueueSize p := by
  have := h.ledger p
  have hq : (sendStart P t sel now (.updateSyncStatus a b c)).tracker.getPeersQueueSize p ≤
      t.getPeersQueueSize p := (List.filter_sublist _).countP_le _
  rw [credits_sendStart, registrations_sendStart] at this
  omega

theorem TailEffect.credits_eq {chain : Chain} {fp : BlockHeader} {hh : Tip} {st : SendState}
    {o : Outcome SyncRequestResponses} (h : TailEffect peers now chain fp hh s st o) (p : PeerAddr) :
    credits p o.2.1 = credits p st.calls :=
  have ⟨_, _, _, hs, _, hc⟩ := h.sent
  hc ▸ hs.credits_eq p

theorem RefillEffect.credits_eq {st : SendState} {o : Outcome Unit}
    (h : RefillEffect P peers now s st o) (p : PeerAddr) : credits p o.2.1 = credits p st.calls :=
  have ⟨_, _, _, _, _, _, hc₀, _, hs, _, hc⟩ := h.sent
  hc ▸ hc₀ ▸ hs.credits_eq p

theorem RefillEffect.ledger {st : SendState} {o : Outcome Unit}
    (h : RefillEffect P peers now s st o) (p : PeerAddr) :
    credits p o.2.1 + o.1.requestTracker.getPeersQueueSize p + registrations p st.calls =
      credits p st.calls + st.tracker.getPeersQueueSize p + registrations p o.2.1 := by
  obtain ⟨_, st₀, regs, atts, st', hr, hc₀, -, hs, ho, hc⟩ := h.sent
  have hq : st₀.tracker.getPeersQueueSize p = st.tracker.getPeersQueueSize p := by
    simp only [getPeersQueueSize, hr]
  rw [ho, hc, hs.credits_eq, ← hc₀]
  have := hs.ledger p
  simp only
  omega

theorem Step.ledger {e : Event} {s' : BodySync} {cs : List Call} (h : Step P s e s' cs)
    (p : PeerAddr) :
    credits p cs + s'.requestTracker.getPeersQueueSize p ≤
      registrations p cs + s.requestTracker.getPeersQueueSize p := by
  cases h with
  | request ho =>
    rcases request_cases ho with ⟨h₁, h₂, -⟩ | ⟨_, _, _, _, -, ⟨-, rfl⟩ | ⟨-, te⟩⟩
    · rw [h₁, h₂]; exact le_rfl
    · exact le_rfl
    · exact te.sendStart_ledger p
  | @recieveBlockReporting c accepted blockHash peer peers now env =>
    have := (recieveBlockReporting_spec : RefillEffect P peers now s _
      (BodySync.recieveBlockReporting P c accepted blockHash peer peers env now s)).ledger p
    have hq := getPeersQueueSize_removeRequest s.requestTracker blockHash p
    have hu :
        (s.requestTracker.removeRequest blockHash).2.getUpdateRequestsToNextAsk.2.getPeersQueueSize p =
          (s.requestTracker.removeRequest blockHash).2.getPeersQueueSize p := rfl
    simp only [credits_reportCalls, registrations_reportCalls] at this
    split_ifs at this hq with h₁ h₂ <;> first | omega | exact absurd h₁.1 h₂

theorem Step.ledger_preserved {e : Event} {s' : BodySync} {cs log : List Call} (h : Step P s e s' cs)
    (hI : ∀ p, credits p log + s.requestTracker.getPeersQueueSize p ≤ registrations p log)
    (p : PeerAddr) :
    credits p (log ++ cs) + s'.requestTracker.getPeersQueueSize p ≤ registrations p (log ++ cs) := by
  have := h.ledger p
  have := hI p
  simp only [credits_append, registrations_append]
  omega

theorem Step.credit_owed {e : Event} {s' : BodySync} {cs : List Call} {p : PeerAddr}
    (h : Step P s e s' cs) (hp : Call.reportOkResponse p ∈ cs) :
    ∃ c peers now env, ∃ r ∈ s.requestTracker.requests,
      r.peer = p ∧ e = .recieveBlockReporting c true r.key p peers now env := by
  rw [← credits_pos_iff] at hp
  cases h with
  | request ho =>
    rcases request_cases ho with ⟨-, h₂, -⟩ | ⟨_, _, _, _, -, ⟨-, rfl⟩ | ⟨-, te⟩⟩
    · rw [h₂] at hp; exact absurd hp (Nat.lt_irrefl 0)
    · exact absurd hp (Nat.lt_irrefl 0)
    · rw [te.credits_eq, credits_sendStart] at hp
      exact absurd hp (Nat.lt_irrefl 0)
  | @recieveBlockReporting c accepted blockHash peer peers now env =>
    rw [RefillEffect.credits_eq recieveBlockReporting_spec, credits_reportCalls] at hp
    split_ifs at hp with hc
    · obtain ⟨ho, rfl, rfl⟩ := hc
      rw [removeRequest_owner, Option.map_eq_some'] at ho
      obtain ⟨r, hf, rfl⟩ := ho
      have hk : r.key = blockHash := by simpa using List.find?_some hf
      exact ⟨c, peers, now, env, r, List.mem_of_find?_eq_some hf, rfl, by rw [hk]⟩
    · exact absurd hp (Nat.lt_irrefl 0)

theorem credits_le_registrations {evs : List Event} {log : List Call} (h : Runs (Step P) new evs s log) :
    (∀ p, credits p log + s.requestTracker.getPeersQueueSize p ≤ registrations p log) ∧
      ∀ p e s' cs, Step P s e s' cs → Call.reportOkResponse p ∈ cs →
        ∃ c peers now env, ∃ r ∈ s.requestTracker.requests,
          r.peer = p ∧ e = .recieveBlockReporting c true r.key p peers now env := by
  refine ⟨h.invariant (I := fun s log => ∀ p,
      credits p log + s.requestTracker.getPeersQueueSize p ≤ registrations p log)
    (fun _ => le_rfl) (fun _ _ _ _ _ hI hs => hs.ledger_preserved hI),
    fun _ _ _ _ hs hp => hs.credit_owed hp⟩

theorem credits_le_registrations_line :
    ∃ s log, Runs (Step smallParams) new [.request lineChain [peerA] 100 0 firstPickEnv,
        .recieveBlockReporting lineView true 1001 peerA.addr [peerA] 1 firstPickEnv] s log ∧
      ∀ p, credits p log + s.requestTracker.getPeersQueueSize p ≤ registrations p log :=
  have ⟨s, log, hr, _⟩ := reach_of_run smallParams 600
    [.request lineChain [peerA] 100 0 firstPickEnv,
      .recieveBlockReporting lineView true 1001 peerA.addr [peerA] 1 firstPickEnv]
    (fun _ => true) (by decide)
  ⟨s, log, hr, (credits_le_registrations hr).1⟩

end MwcSync.BodySync
