import MwcSync.Run

set_option autoImplicit false

namespace MwcSync.BodySync

open RequestTracker

variable {P : Params} {peers : List Peer} {now : Nat} {chain : Chain} {fp : BlockHeader} {hh : Tip}
  {s : BodySync}

theorem TailEffect.not_expired {t : RequestTracker Hash} {sel : List Peer × Nat} {status : Call}
    {o : Outcome SyncRequestResponses}
    (h : TailEffect peers now chain fp hh s (sendStart P t sel now status) o) :
    ∀ r ∈ o.1.requestTracker.requests, r.expired P.segmentRequestTimeoutSecs now = false := by
  obtain ⟨regs, atts, st', hs, ht, -⟩ := h.sent
  rw [ht, hs.requests]
  intro r hr
  rcases List.mem_append.1 hr with hr | hr
  · simpa [sendStart] using (List.mem_filter.1 hr).2
  · have := P.timeout_pos
    simp only [RequestData.expired, (hs.fresh r hr).2.1, decide_eq_false_iff_not]
    omega

theorem request_sweeps {fuel bh : Nat} {env : Nat → Draw} {o : Outcome SyncRequestResponses}
    (h : request P fuel chain peers bh now env s = some o) :
    (o.1.requestTracker = s.requestTracker ∧ o.2.1 = []) ∨
      ∀ r ∈ o.1.requestTracker.requests, r.expired P.segmentRequestTimeoutSecs now = false := by
  rcases request_cases h with ⟨h₁, h₂, -⟩ | ⟨_, _, _, _, -, ⟨-, rfl⟩ | ⟨-, te⟩⟩
  · exact .inl ⟨by rw [h₁], h₂⟩
  · exact .inl ⟨rfl, rfl⟩
  · exact .inr te.not_expired

theorem request_sweeps_line :
    ∃ o, request smallParams 600 lineChain [peerA] 100 0 firstPickEnv new = some o ∧
      ((o.1.requestTracker = new.requestTracker ∧ o.2.1 = []) ∨
        ∀ r ∈ o.1.requestTracker.requests, r.expired smallParams.segmentRequestTimeoutSecs 0 = false) := by
  obtain ⟨o, ho⟩ := Option.isSome_iff_exists.1
    (by decide : (request smallParams 600 lineChain [peerA] 100 0 firstPickEnv new).isSome)
  exact ⟨o, ho, request_sweeps ho⟩

/-- One peer takes the whole per-peer cap at time 0. At time 100 it is saturated, so the next
tick returns `Syncing` before its sweep, and requests issued 100 seconds ago, past the 30 second
timeout, stay in the tracker. -/
theorem request_keeps_expired :
    ∃ s log, Runs (Step smallParams) new [.request lineChain [peerA] 100 0 firstPickEnv] s log ∧
      ∃ o, request smallParams 600 lineChain [peerA] 100 100 firstPickEnv s = some o ∧
        o.2.2 = .ok .syncing ∧ ∃ r ∈ o.1.requestTracker.requests,
          r.expired smallParams.segmentRequestTimeoutSecs 100 = true := by
  have ⟨s, log, hr, hp⟩ := reach_of_run smallParams 600
    [.request lineChain [peerA] 100 0 firstPickEnv]
    (fun s => (request smallParams 600 lineChain [peerA] 100 100 firstPickEnv s).any
      fun (o : Outcome SyncRequestResponses) => decide (o.2.2 = .ok .syncing) &&
        o.1.requestTracker.requests.any (·.expired smallParams.segmentRequestTimeoutSecs 100))
    (by decide)
  refine ⟨s, log, hr, ?_⟩
  cases ho : request smallParams 600 lineChain [peerA] 100 100 firstPickEnv s with
  | none => simp [ho] at hp
  | some o =>
    simp only [ho, Option.any_some, Bool.and_eq_true, decide_eq_true_eq, List.any_eq_true] at hp
    exact ⟨o, rfl, hp⟩

end MwcSync.BodySync
