import MwcSync.Credit

set_option autoImplicit false

namespace MwcSync.BodySync

open RequestTracker

/-- The send behind a record: a `send_block_request` of its block to its peer that succeeded. -/
def sentFor (r : RequestData Hash) : Call := .sendBlockRequest r.peer r.key true

theorem Attempt.sent_of_registered {a : Attempt} {k : Hash} {p : PeerAddr}
    (h : a.registered = some (k, p)) : Call.sendBlockRequest p k true ∈ a.calls := by
  cases a with
  | sent q k' => cases h; exact List.mem_cons_self _ _
  | failed => cases h

variable {peers : List Peer} {now : Nat}

theorem Sent.sent_of_mem {a b : SendState} {regs : List (RequestData Hash)} {atts : List Attempt}
    (h : Sent peers now a b regs atts) {r : RequestData Hash} (hr : r ∈ regs) :
    sentFor r ∈ b.calls := by
  have : (r.key, r.peer) ∈ atts.filterMap Attempt.registered :=
    h.registered ▸ List.mem_map_of_mem (fun r => (r.key, r.peer)) hr
  obtain ⟨att, hatt, hreg⟩ := List.mem_filterMap.1 this
  rw [h.calls]
  exact List.mem_append_right _ (List.mem_flatMap.2 ⟨att, hatt, Attempt.sent_of_registered hreg⟩)

variable {P : Params} {s : BodySync}

theorem TailEffect.tracked {chain : Chain} {fp : BlockHeader} {hh : Tip} {st : SendState}
    {o : Outcome SyncRequestResponses} (h : TailEffect peers now chain fp hh s st o)
    {r : RequestData Hash} (hr : r ∈ o.1.requestTracker.requests) :
    r ∈ st.tracker.requests ∨ sentFor r ∈ o.2.1 := by
  obtain ⟨regs, atts, st', hs, ht, hc⟩ := h.sent
  rw [ht, hs.requests] at hr
  rw [hc]
  exact (List.mem_append.1 hr).imp_right hs.sent_of_mem

theorem RefillEffect.tracked {st : SendState} {o : Outcome Unit} (h : RefillEffect P peers now s st o)
    {r : RequestData Hash} (hr : r ∈ o.1.requestTracker.requests) :
    r ∈ st.tracker.requests ∨ sentFor r ∈ o.2.1 := by
  obtain ⟨_, st₀, regs, atts, st', h₀, -, -, hs, ho, hc⟩ := h.sent
  rw [ho] at hr
  rw [hc, ← h₀]
  exact (List.mem_append.1 (hs.requests ▸ hr)).imp_right hs.sent_of_mem

theorem Step.tracked {e : Event} {s' : BodySync} {cs : List Call} (h : Step P s e s' cs)
    {r : RequestData Hash} (hr : r ∈ s'.requestTracker.requests) :
    r ∈ s.requestTracker.requests ∨ sentFor r ∈ cs := by
  cases h with
  | request ho =>
    rcases request_cases ho with ⟨h₁, -, -⟩ | ⟨_, _, _, _, -, ⟨-, rfl⟩ | ⟨-, te⟩⟩
    · rw [h₁] at hr; exact .inl hr
    · exact .inl hr
    · refine (te.tracked hr).imp_left fun hr => ?_
      simp only [sendStart, requests_calculateNeededRequests, requests_retainExpired] at hr
      exact (List.mem_filter.1 hr).1
  | @recieveBlockReporting c accepted blockHash =>
    refine (recieveBlockReporting_spec.tracked hr).imp_left fun hr => ?_
    simp only [requests_getUpdateRequestsToNextAsk, requests_removeRequest] at hr
    exact (List.mem_filter.1 hr).1

theorem sent_of_tracked {evs : List Event} {log : List Call} (h : Runs (Step P) new evs s log) :
    ∀ r ∈ s.requestTracker.requests, sentFor r ∈ log :=
  h.invariant (I := fun s log => ∀ r ∈ s.requestTracker.requests, sentFor r ∈ log)
    (fun _ hr => absurd hr (List.not_mem_nil _)) fun _ _ _ _ _ hI hs r hr =>
      (hs.tracked hr).elim (fun h => List.mem_append_left _ (hI r h)) (List.mem_append_right _)

theorem tracked_was_sent {evs : List Event} {log : List Call} (h : Runs (Step P) new evs s log) :
    ∀ r ∈ s.requestTracker.requests, sentFor r ∈ log :=
  sent_of_tracked h

theorem tracked_was_sent_line :
    ∃ s log, Runs (Step smallParams) new [.request lineChain [peerA] 100 0 firstPickEnv] s log ∧
      s.requestTracker.requests.length = 10 ∧ ∀ r ∈ s.requestTracker.requests, sentFor r ∈ log :=
  have ⟨s, log, hr, hp⟩ := reach_of_run smallParams 600
    [.request lineChain [peerA] 100 0 firstPickEnv]
    (fun s => decide (s.requestTracker.requests.length = 10)) (by decide)
  ⟨s, log, hr, of_decide_eq_true hp, tracked_was_sent hr⟩

theorem opening_eq_bodyReady {c : ChainView} (bh : Nat) :
    opening P c bh = .ok (.done .bodyReady) ↔ ∃ head headerHead, c.head = .ok head ∧
      c.headerHead = .ok headerHead ∧ head.lastBlockH = headerHead.lastBlockH := by
  constructor
  · intro h
    simp only [opening, bind, Except.bind, pure, Except.pure] at h
    split at h; · cases h
    split at h; · cases h
    split_ifs at h with h₁
    · exact ⟨_, _, ‹_›, ‹_›, h₁⟩
    · repeat' split at h
      all_goals cases h
  · rintro ⟨head, headerHead, h₁, h₂, h₃⟩
    simp only [opening, h₁, h₂, h₃, bind, Except.bind, pure, Except.pure, if_true]

theorem Sent.mem_calls {a b : SendState} {regs : List (RequestData Hash)} {atts : List Attempt}
    (h : Sent peers now a b regs atts) {x : Call} (hx : x ∈ b.calls) :
    x ∈ a.calls ∨ ∃ att : Attempt, x ∈ att.calls ∧ att.calls <:+: b.calls := by
  rw [h.calls] at hx ⊢
  refine (List.mem_append.1 hx).imp_right fun hx => ?_
  obtain ⟨att, hatt, hx⟩ := List.mem_flatMap.1 hx
  exact ⟨att, hx, (List.infix_of_mem_flatten (List.mem_map_of_mem _ hatt)).trans
    (List.suffix_append _ _).isInfix⟩

theorem Step.mem_calls {e : Event} {s' : BodySync} {cs : List Call} (h : Step P s e s' cs)
    {x : Call} (hx : x ∈ cs) :
    (∃ att : Attempt, x ∈ att.calls ∧ att.calls <:+: cs) ∨
    (∃ chain peers bh now env head headerHead fp ah sel, e = .request chain peers bh now env ∧
      opening P chain.view bh = .ok (.go head headerHead fp ah) ∧
      x ∈ (sendStart P s.requestTracker sel now
        (.updateSyncStatus (if chain.view.archiveMode then 0 else ah) fp.height bh)).calls) ∨
    ∃ c accepted blockHash peer peers now env,
      e = .recieveBlockReporting c accepted blockHash peer peers now env ∧
      x ∈ reportCalls (s.requestTracker.removeRequest blockHash).1 accepted blockHash peer := by
  cases h with
  | request ho =>
    rcases request_cases ho with ⟨-, h₂, -⟩ | ⟨head, headerHead, fp, ah, hop, ⟨-, rfl⟩ | ⟨-, te⟩⟩
    · rw [h₂] at hx; cases hx
    · cases hx
    · obtain ⟨regs, atts, st', hs, -, hc⟩ := te.sent
      rw [hc] at hx ⊢
      exact (hs.mem_calls hx).symm.imp_right fun hx =>
        .inl ⟨_, _, _, _, _, head, headerHead, fp, ah, _, rfl, hop, hx⟩
  | recieveBlockReporting =>
    obtain ⟨_, st₀, regs, atts, st', -, hc₀, -, hs, -, hc⟩ := recieveBlockReporting_spec.sent
    rw [hc] at hx ⊢
    exact (hs.mem_calls hx).symm.imp_right fun hx =>
      .inr ⟨_, _, _, _, _, _, _, rfl, by rw [hc₀] at hx; exact hx⟩

theorem reportErrorResponse_mem_reportCalls {owner : Option PeerAddr} {accepted : Bool}
    {blockHash : Hash} {peer p : PeerAddr} {msg : String}
    (h : Call.reportErrorResponse p msg ∈ reportCalls owner accepted blockHash peer) :
    accepted = false ∧ p = peer ∧ msg = s!"Get bad block {blockHash} for peer {peer}" := by
  unfold reportCalls at h
  cases accepted <;> split at h <;> simp_all

theorem reportErrorResponse_cause {evs : List Event} {log : List Call}
    (h : Runs (Step P) new evs s log) {e : Event} {s' : BodySync} {cs : List Call}
    (hs : Step P s e s' cs) {p : PeerAddr} {msg : String}
    (hm : Call.reportErrorResponse p msg ∈ cs) :
    (∃ k err, msg = failedSendMessage p err ∧
      [Call.sendBlockRequest p k false, Call.reportErrorResponse p msg] <:+: cs) ∨
    (∃ r ∈ s.requestTracker.requests, r.peer = p ∧ msg = r.label ∧ sentFor r ∈ log ∧
      ∃ chain peers bh now env, e = .request chain peers bh now env ∧
        r.expired P.segmentRequestTimeoutSecs now = true) ∨
    ∃ c k peers now env, e = .recieveBlockReporting c false k p peers now env ∧
      msg = s!"Get bad block {k} for peer {p}" := by
  rcases hs.mem_calls hm with ⟨att, hatt, hsub⟩ |
    ⟨chain, peers, bh, now, env, _, _, _, _, _, rfl, -, hx⟩ | ⟨c, _, k, _, peers, now, env, rfl, hx⟩
  · cases att with
    | sent q k => simp [Attempt.calls] at hatt
    | failed q k err =>
      obtain ⟨rfl, rfl⟩ : p = q ∧ msg = failedSendMessage q err := by
        simpa [Attempt.calls] using hatt
      exact .inl ⟨k, err, rfl, hsub⟩
  · simp only [sendStart, retainExpired, List.mem_append, List.mem_map, List.mem_filter,
      List.mem_singleton, reduceCtorEq, or_false] at hx
    obtain ⟨r, ⟨hr, hexp⟩, hrp⟩ := hx
    obtain ⟨rfl, rfl⟩ := Call.reportErrorResponse.inj hrp
    exact .inr (.inl ⟨r, hr, rfl, rfl, sent_of_tracked h r hr, chain, peers, bh, now, env, rfl,
      hexp⟩)
  · obtain ⟨rfl, rfl, rfl⟩ := reportErrorResponse_mem_reportCalls hx
    exact .inr (.inr ⟨c, k, peers, now, env, rfl, rfl⟩)

/-- Peer 1's ten requests of the first tick expire by the second, which runs with a second peer. -/
def expiryTick : Event := .request lineChain [peerA, peerB] 100 100 firstPickEnv

theorem reportErrorResponse_cause_expired :
    ∃ s log s' cs,
      Runs (Step smallParams) new [.request lineChain [peerA] 100 0 firstPickEnv] s log ∧
      Step smallParams s expiryTick s' cs ∧ Call.reportErrorResponse 1 "Block 1001, 1" ∈ cs ∧
      ((∃ k err, "Block 1001, 1" = failedSendMessage 1 err ∧
        [Call.sendBlockRequest 1 k false, Call.reportErrorResponse 1 "Block 1001, 1"] <:+: cs) ∨
      (∃ r ∈ s.requestTracker.requests, r.peer = 1 ∧ "Block 1001, 1" = r.label ∧ sentFor r ∈ log ∧
        ∃ chain peers bh now env, expiryTick = .request chain peers bh now env ∧
          r.expired smallParams.segmentRequestTimeoutSecs now = true) ∨
      ∃ c k peers now env, expiryTick = .recieveBlockReporting c false k 1 peers now env ∧
        "Block 1001, 1" = s!"Get bad block {k} for peer {1}") := by
  obtain ⟨s, log, hr, hp⟩ := reach_log_of_run smallParams 600
    [.request lineChain [peerA] 100 0 firstPickEnv]
    (fun s _ => (expiryTick.apply smallParams 600 s).any
      fun r : BodySync × List Call => decide (Call.reportErrorResponse 1 "Block 1001, 1" ∈ r.2))
    (by decide)
  cases ha : expiryTick.apply smallParams 600 s with
  | none => simp [ha] at hp
  | some r =>
    have hs : Step smallParams s expiryTick r.1 r.2 := Step.of_apply ha
    have hm : Call.reportErrorResponse 1 "Block 1001, 1" ∈ r.2 := by simpa [ha] using hp
    exact ⟨s, log, r.1, r.2, hr, hs, hm, reportErrorResponse_cause hr hs hm⟩

end MwcSync.BodySync
