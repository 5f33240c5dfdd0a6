import MwcSync.Run

set_option autoImplicit false

namespace MwcSync.BodySync

open RequestTracker

variable {P : Params}

theorem getRequestsNum_removeRequest_le (t : RequestTracker Hash) (k : Hash) :
    (t.removeRequest k).2.getRequestsNum ≤ t.getRequestsNum := by
  simp only [getRequestsNum, requests_removeRequest]
  exact List.length_filter_le _ _

theorem sendStart_requestsNum_le (t : RequestTracker Hash) (sel : List Peer × Nat) (now : Nat)
    (status : Call) :
    (sendStart P t sel now status).tracker.getRequestsNum + (sendStart P t sel now status).need ≤
      max P.blocksRequestLimit t.getRequestsNum := by
  have h₁ := calculateNeededRequests_le (t.retainExpired P.segmentRequestTimeoutSecs now).1
    P.requestsToNextAsk sel.1.length sel.2 P.blocksRequestPerPeer P.blocksRequestLimit
  have h₂ : (t.retainExpired P.segmentRequestTimeoutSecs now).1.getRequestsNum ≤
      t.getRequestsNum := List.length_filter_le _ _
  simp only [sendStart, getRequestsNum, requests_calculateNeededRequests] at h₁ h₂ ⊢
  omega

theorem TailEffect.requestsNum_le {peers : List Peer} {now : Nat} {chain : Chain}
    {fp : BlockHeader} {hh : Tip} {s : BodySync} {st : SendState} {o : Outcome SyncRequestResponses}
    (h : TailEffect peers now chain fp hh s st o) :
    o.1.requestTracker.getRequestsNum ≤ st.tracker.getRequestsNum + st.need := by
  obtain ⟨regs, atts, st', hs, ht, -⟩ := h.sent
  have := hs.requestsNum_add
  rw [ht]
  omega

theorem RefillEffect.requestsNum_le {peers : List Peer} {now : Nat} {s : BodySync}
    {st : SendState} {o : Outcome Unit} (h : RefillEffect P peers now s st o) :
    o.1.requestTracker.getRequestsNum ≤ max P.blocksRequestLimit st.tracker.getRequestsNum := by
  obtain ⟨_, st₀, regs, atts, st', hr, -, hn, hs, ho, -⟩ := h.sent
  have := hs.requestsNum_add
  have h₀ : st₀.tracker.getRequestsNum = st.tracker.getRequestsNum := by
    simp only [getRequestsNum, hr]
  rw [ho]
  exact le_trans (by simp only; omega) hn

theorem Step.requestsNum_le {s s' : BodySync} {e : Event} {cs : List Call}
    (h : Step P s e s' cs) :
    s'.requestTracker.getRequestsNum ≤ max P.blocksRequestLimit s.requestTracker.getRequestsNum := by
  cases h with
  | request ho =>
    rcases request_cases ho with ⟨h₁, -, -⟩ | ⟨_, _, _, _, -, ⟨-, rfl⟩ | ⟨-, te⟩⟩
    · rw [h₁]; exact le_max_right _ _
    · exact le_max_right _ _
    · exact te.requestsNum_le.trans (sendStart_requestsNum_le _ _ _ _)
  | @recieveBlockReporting _ _ blockHash =>
    have := getRequestsNum_removeRequest_le s.requestTracker blockHash
    exact recieveBlockReporting_spec.requestsNum_le.trans
      (max_le (le_max_left _ _) (this.trans (le_max_right _ _)))

theorem requestsNum_le_blocksRequestLimit {evs : List Event} {s : BodySync} {log : List Call}
    (h : Runs (Step P) new evs s log) : s.requestTracker.getRequestsNum ≤ P.blocksRequestLimit :=
  h.invariant (I := fun s _ => s.requestTracker.getRequestsNum ≤ P.blocksRequestLimit)
    (Nat.zero_le _) fun _ _ _ _ _ hI hs => hs.requestsNum_le.trans (max_le le_rfl hI)

theorem requestsNum_le_blocksRequestLimit_line :
    ∃ s log, Runs (Step smallParams) new [.request lineChain [peerA, peerB] 100 0 firstPickEnv] s log ∧
      s.requestTracker.getRequestsNum ≤ smallParams.blocksRequestLimit :=
  have ⟨s, log, hr, _⟩ := reach_of_run smallParams 600
    [.request lineChain [peerA, peerB] 100 0 firstPickEnv] (fun _ => true) (by decide)
  ⟨s, log, hr, requestsNum_le_blocksRequestLimit hr⟩

/-- The tracker whose queues `get_sync_peers` reads in the call `e` from `s`: a tick reads it
before its sweep, a report's refill after the removal. -/
def Event.selectionTracker (s : BodySync) : Event → RequestTracker Hash
  | .request .. => s.requestTracker
  | .recieveBlockReporting _ _ blockHash .. => (s.requestTracker.removeRequest blockHash).2

theorem registerRequest_not_mem_retainExpired (t : RequestTracker Hash) (timeout now : Nat)
    (k : Hash) (p : PeerAddr) : Call.registerRequest k p ∉ (t.retainExpired timeout now).2 := by
  simp [retainExpired]

theorem registerRequest_not_mem_reportCalls (owner : Option PeerAddr) (accepted : Bool)
    (blockHash : Hash) (peer : PeerAddr) (k : Hash) (p : PeerAddr) :
    Call.registerRequest k p ∉ reportCalls owner accepted blockHash peer := by
  unfold reportCalls
  split <;> split_ifs <;> simp

theorem Step.registerRequest_below_cap {s s' : BodySync} {e : Event} {cs : List Call} {k : Hash}
    {p : PeerAddr} (h : Step P s e s' cs) (hk : Call.registerRequest k p ∈ cs) :
    (e.selectionTracker s).getPeersQueueSize p < P.blocksRequestPerPeer := by
  cases h with
  | request ho =>
    rcases request_cases ho with ⟨-, h₂, -⟩ | ⟨_, _, _, _, -, ⟨-, rfl⟩ | ⟨-, te⟩⟩
    · simp [h₂] at hk
    · simp at hk
    · obtain ⟨regs, atts, st', hs, -, hc⟩ := te.sent
      rw [hc] at hk
      rcases hs.registerRequest_mem hk with hk | ⟨q, hq, rfl⟩
      · simp [sendStart, registerRequest_not_mem_retainExpired] at hk
      · exact getSyncPeers_queue_lt hq
  | recieveBlockReporting =>
    obtain ⟨_, st₀, regs, atts, st', -, hc₀, -, hs, -, hc⟩ := recieveBlockReporting_spec.sent
    rw [hc] at hk
    rcases hs.registerRequest_mem hk with hk | ⟨q, hq, rfl⟩
    · rw [hc₀] at hk
      exact absurd hk (registerRequest_not_mem_reportCalls _ _ _ _ _ _)
    · exact getSyncPeers_queue_lt hq

theorem getPeersQueueSize_bounded {evs : List Event} {s : BodySync} {log : List Call}
    (h : Runs (Step P) new evs s log) :
    (∀ p, s.requestTracker.getPeersQueueSize p ≤ P.blocksRequestLimit) ∧
      ∀ e s' cs, Step P s e s' cs → ∀ k p, Call.registerRequest k p ∈ cs →
        (e.selectionTracker s).getPeersQueueSize p < P.blocksRequestPerPeer := by
  have hn := h.invariant (I := fun s _ => s.requestTracker.getRequestsNum ≤ P.blocksRequestLimit)
    (Nat.zero_le _) fun _ _ _ _ _ hI hs => hs.requestsNum_le.trans (max_le le_rfl hI)
  exact ⟨fun p => (getPeersQueueSize_le _ p).trans hn,
    fun _ _ _ hs _ _ hk => hs.registerRequest_below_cap hk⟩

theorem getPeersQueueSize_bounded_line :
    ∃ s log, Runs (Step smallParams) new [.request lineChain [peerA, peerB] 100 0 firstPickEnv] s log ∧
      ∀ p, s.requestTracker.getPeersQueueSize p ≤ smallParams.blocksRequestLimit :=
  have ⟨s, log, hr, _⟩ := reach_of_run smallParams 600
    [.request lineChain [peerA, peerB] 100 0 firstPickEnv] (fun _ => true) (by decide)
  ⟨s, log, hr, (getPeersQueueSize_bounded hr).1⟩

/-- One tick with two free peers and draws that always land on the first: all twenty requests of
its budget go to that peer, twice the per-peer cap. -/
theorem request_overfills_peer :
    ∃ s log, Runs (Step smallParams) new [.request lineChain [peerA, peerB] 100 0 firstPickEnv] s log ∧
      smallParams.blocksRequestPerPeer < s.requestTracker.getPeersQueueSize peerA.addr :=
  have ⟨s, log, hr, hp⟩ := reach_of_run smallParams 600
    [.request lineChain [peerA, peerB] 100 0 firstPickEnv]
    (fun s => decide (smallParams.blocksRequestPerPeer <
      s.requestTracker.getPeersQueueSize peerA.addr)) (by decide)
  ⟨s, log, hr, of_decide_eq_true hp⟩

/-- A tick on a non-archive chain selects with `UNKNOWN` and gives a peer without capability bits
ten requests. Once one is answered the peer owes nine and qualifies under the tick's mask, but the
refill selects with the stored `HEADER_HIST` mask and asks nobody: the report only credits. -/
theorem refill_skips_tick_peer :
    ∃ s log, Runs (Step smallParams) new [.request lineChain [peerBare] 100 0 firstPickEnv] s log ∧
      peerBare ∈ (getSyncPeers [peerBare] smallParams.blocksRequestPerPeer
        (capabilitiesFor lineView ⟨0, 1000⟩ 0).1 0
        (s.requestTracker.removeRequest 1001).2.getPeersQueueSize).1 ∧
      (recieveBlockReporting smallParams lineView true 1001 peerBare.addr [peerBare] firstPickEnv 1
        s).2.1 = [.reportOkResponse peerBare.addr] :=
  have ⟨s, log, hr, hp⟩ := reach_of_run smallParams 600
    [.request lineChain [peerBare] 100 0 firstPickEnv]
    (fun s => decide (peerBare ∈ (getSyncPeers [peerBare] smallParams.blocksRequestPerPeer
        (capabilitiesFor lineView ⟨0, 1000⟩ 0).1 0
        (s.requestTracker.removeRequest 1001).2.getPeersQueueSize).1) &&
      decide ((recieveBlockReporting smallParams lineView true 1001 peerBare.addr [peerBare]
        firstPickEnv 1 s).2.1 = [.reportOkResponse peerBare.addr])) (by decide)
  ⟨s, log, hr, by simpa using hp⟩

end MwcSync.BodySync
