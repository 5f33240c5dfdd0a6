import MwcSync.SendRequests
import MwcSync.Series

set_option autoImplicit false

namespace MwcSync.BodySync

open RequestTracker

variable {peers : List Peer} {now : Nat} {env : Nat → Draw}

/-- What a tick did from the state `st` its sends started from: it sent requests, left the
capabilities as they were, kept or rebuilt the series, and returned `Syncing` or a chain error. -/
structure TailEffect (peers : List Peer) (now : Nat) (chain : Chain) (fp : BlockHeader) (hh : Tip)
    (s : BodySync) (st : SendState) (o : Outcome SyncRequestResponses) : Prop where
  sent : ∃ regs atts st', Sent peers now st st' regs atts ∧ o.1.requestTracker = st'.tracker ∧
    o.2.1 = st'.calls
  caps : o.1.requiredCapabilities = s.requiredCapabilities
  series : o.1.requestSeries = s.requestSeries ∨
    (chain.HeightIndexed → Window fp.height hh.height o.1.requestSeries)
  no_panic : peers ≠ [] → ∀ m, o.2.2 ≠ .error (.panic m)
  syncing : ∀ r, o.2.2 = .ok r → r = .syncing

theorem sendRequests_spec (c : ChainView) (peers : List Peer) (env : Nat → Draw) (now : Nat)
    (series : List (Hash × Nat)) (st : SendState) (h : 0 < st.need) :
    ∃ regs atts, Sent peers now st (sendRequests c peers env now series st).1 regs atts ∧
      (peers ≠ [] → ∀ m, (sendRequests c peers env now series st).2 ≠ some (.panic m)) := by
  obtain ⟨regs, atts, hs, hscan⟩ := sendRequestsLoop_spec c peers env now series.reverse st h
  exact ⟨regs, atts, hs, hscan.no_panic⟩

theorem sendAgain_spec (c : ChainView) (peers : List Peer) (env : Nat → Draw) (now : Nat)
    (s : BodySync) {st : SendState} (h : 0 < st.need) :
    let o := sendAgain c peers env now s st
    (∃ regs atts st', Sent peers now st st' regs atts ∧
        o.1 = { s with requestTracker := st'.tracker } ∧ o.2.1 = st'.calls) ∧
      (peers ≠ [] → ∀ m, o.2.2 ≠ .error (.panic m)) ∧ ∀ r, o.2.2 = .ok r → r = .syncing := by
  obtain ⟨regs, atts, hs, hp⟩ := sendRequests_spec c peers env now s.requestSeries st h
  refine ⟨⟨regs, atts, _, hs, rfl, rfl⟩, fun hne m => ?_, fun r hr => ?_⟩ <;>
    simp only [sendAgain, finish] at * <;> split at * <;> simp_all

theorem kickStuckOrphan_heightIndexed {chain : Chain} {fp : BlockHeader} {c : ChainView} {k : Bool}
    (hc : chain.HeightIndexed) (h : kickStuckOrphan chain fp = .ok (c, k)) : c.HeightIndexed := by
  unfold kickStuckOrphan at h
  split at h
  · cases h; exact hc.1
  · simp only [bind, Except.bind, pure, Except.pure] at h
    repeat' split at h
    all_goals first | (cases h; done) | (cases h; exact hc.1) | (cases h; exact hc.2 _ _ ‹_›)

theorem window_of_rebuild {c : ChainView} {fuel : Nat} {fp : BlockHeader} {hh : Tip}
    {cur : BlockHeader} {series : List (Hash × Nat)} {err : Option ChainError}
    (hc : c.HeightIndexed) (hcur : c.getHeaderByHeight (min (fp.height + 500) hh.height) = .ok cur)
    (hr : rebuildSeries c fp.height fuel cur [] = some (series, err)) :
    Window fp.height hh.height series :=
  have hw := rebuildSeries_window hc (min (fp.height + 500) hh.height) fuel cur [] series err
    hr List.Pairwise.nil (by simp) (hc.header_by_height _ _ hcur).le
  ⟨hw.1, hw.2⟩

variable {chain : Chain} {fp : BlockHeader} {hh : Tip} {s : BodySync} {st : SendState}

theorem TailEffect.finish {s' : BodySync} {r : Except Failure SyncRequestResponses}
    (hcaps : s'.requiredCapabilities = s.requiredCapabilities)
    (hseries : s'.requestSeries = s.requestSeries ∨
      (chain.HeightIndexed → Window fp.height hh.height s'.requestSeries))
    (hr : ∀ m, r ≠ .error (.panic m)) (hs : ∀ x, r = .ok x → x = .syncing) :
    TailEffect peers now chain fp hh s st (finish s' st r) :=
  ⟨⟨[], [], st, Sent.refl rfl rfl rfl, rfl, rfl⟩, hcaps, hseries, fun _ => hr, hs⟩

theorem TailEffect.sendAgain {c : ChainView} {s' : BodySync} (h : 0 < st.need)
    (hcaps : s'.requiredCapabilities = s.requiredCapabilities)
    (hseries : s'.requestSeries = s.requestSeries ∨
      (chain.HeightIndexed → Window fp.height hh.height s'.requestSeries)) :
    TailEffect peers now chain fp hh s st (sendAgain c peers env now s' st) := by
  obtain ⟨⟨regs, atts, st', hs, h1, h2⟩, hp, hr⟩ := sendAgain_spec c peers env now s' h
  exact ⟨⟨regs, atts, st', hs, by rw [h1], h2⟩, by rw [h1]; exact hcaps,
    by rw [h1]; exact hseries, hp, hr⟩

theorem refreshAndSend_spec {fuel : Nat} {o : Outcome SyncRequestResponses} (h : 0 < st.need)
    (ho : refreshAndSend fuel chain peers env now fp hh s st = some o) :
    TailEffect peers now chain fp hh s st o := by
  unfold refreshAndSend at ho
  split at ho
  · cases ho; exact .finish rfl (.inl rfl) (by simp) (by simp)
  · cases ho; exact .finish rfl (.inl rfl) (by simp) (by simp)
  · rename_i refresh c kicked _ hkick
    split_ifs at ho
    · split at ho
      · cases ho; exact .finish rfl (.inr fun _ => Window.nil _ _) (by simp) (by simp)
      · rename_i cur hcur
        split at ho
        · cases ho
        · cases ho
          exact .finish rfl (.inr fun hc => window_of_rebuild (kickStuckOrphan_heightIndexed hc hkick)
            hcur ‹_›) (by simp) (by simp)
        · cases ho
          exact .sendAgain h rfl (.inr fun hc => window_of_rebuild
            (kickStuckOrphan_heightIndexed hc hkick) hcur ‹_›)
    · cases ho; exact .sendAgain h rfl (.inl rfl)

theorem TailEffect.of_sent {st₁ : SendState} {regs : List (RequestData Hash)} {atts : List Attempt}
    {o : Outcome SyncRequestResponses} (h₁ : Sent peers now st st₁ regs atts)
    (h₂ : TailEffect peers now chain fp hh s st₁ o) : TailEffect peers now chain fp hh s st o :=
  have ⟨_, _, st', hs, ht, hc⟩ := h₂.sent
  ⟨⟨_, _, st', h₁.trans hs, ht, hc⟩, h₂.caps, h₂.series, h₂.no_panic, h₂.syncing⟩

theorem sendTick_spec {fuel : Nat} {o : Outcome SyncRequestResponses}
    (ho : sendTick fuel chain peers env now fp hh s st = some o) :
    TailEffect peers now chain fp hh s st o := by
  unfold sendTick at ho
  split_ifs at ho with h0
  · cases ho; exact .finish rfl (.inl rfl) (by simp) (by simp)
  · obtain ⟨regs, atts, hs, hp⟩ := sendRequests_spec chain.view peers env now s.requestSeries st
      (Nat.pos_of_ne_zero h0)
    simp only at ho
    split at ho
    · rename_i f hf
      cases ho
      refine ⟨⟨regs, atts, _, hs, rfl, rfl⟩, rfl, .inl rfl, fun hne m hm => hp hne m ?_,
        by simp [finish]⟩
      simp only [finish, Except.error.injEq] at hm
      rw [hf, hm]
    · split_ifs at ho with h1
      · cases ho
        exact ⟨⟨regs, atts, _, hs, rfl, rfl⟩, rfl, .inl rfl, by simp [finish], by simp [finish]⟩
      · exact (refreshAndSend_spec (Nat.pos_of_ne_zero h1) ho).of_sent hs

theorem opening_done {P : Params} {c : ChainView} {bh : Nat} {r : SyncRequestResponses}
    (h : opening P c bh = .ok (.done r)) : r = .bodyReady ∨ r = .badState := by
  simp only [opening, bind, Except.bind, pure, Except.pure] at h
  repeat' split at h
  all_goals first | (cases h; done) | (cases h; simp)

theorem request_cases {P : Params} {fuel bh : Nat} {o : Outcome SyncRequestResponses}
    (h : request P fuel chain peers bh now env s = some o) :
    (o.1 = s ∧ o.2.1 = [] ∧
      ((∃ e, o.2.2 = .error (.chain e)) ∨ o.2.2 = .ok .bodyReady ∨ o.2.2 = .ok .badState)) ∨
    ∃ head headerHead forkPoint archiveHeight,
      opening P chain.view bh = .ok (.go head headerHead forkPoint archiveHeight) ∧
      let caps := capabilitiesFor chain.view head archiveHeight
      let sel := getSyncPeers peers P.blocksRequestPerPeer caps.1 head.height
        s.requestTracker.getPeersQueueSize
      (sel.1 = [] ∧ o = ({ s with requiredCapabilities := caps.2 }, [],
          .ok (if sel.2 = 0 then .waitingForPeers else .syncing))) ∨
      (sel.1 ≠ [] ∧ TailEffect sel.1 now chain forkPoint headerHead
        { s with requiredCapabilities := caps.2 }
        (sendStart P s.requestTracker sel now
          (.updateSyncStatus (if chain.view.archiveMode then 0 else archiveHeight) forkPoint.height bh))
        o) := by
  unfold request at h
  split at h
  · cases h; exact .inl ⟨rfl, rfl, .inl ⟨_, rfl⟩⟩
  · rename_i r hop
    cases h
    rcases opening_done hop with rfl | rfl
    · exact .inl ⟨rfl, rfl, .inr (.inl rfl)⟩
    · exact .inl ⟨rfl, rfl, .inr (.inr rfl)⟩
  · rename_i head headerHead forkPoint archiveHeight hop
    refine .inr ⟨head, headerHead, forkPoint, archiveHeight, hop, ?_⟩
    simp only at h ⊢
    by_cases hsel : (getSyncPeers peers P.blocksRequestPerPeer
      (capabilitiesFor chain.view head archiveHeight).1 head.height
      s.requestTracker.getPeersQueueSize).1.isEmpty
    · rw [if_pos hsel] at h
      cases h; exact .inl ⟨List.isEmpty_iff.1 hsel, rfl⟩
    · rw [if_neg hsel] at h
      exact .inr ⟨fun he => hsel (List.isEmpty_iff.2 he), sendTick_spec h⟩

/-- What the refill did from the state `st` the report left: with a budget of at most the room
under the global cap, it sent to the peers `get_sync_peers` picked with the stored capabilities
and `st`'s queues, and it did not panic. -/
structure RefillEffect (P : Params) (peers : List Peer) (now : Nat) (s : BodySync) (st : SendState)
    (o : Outcome Unit) : Prop where
  sent : ∃ minHeight st₀ regs atts st',
    st₀.tracker.requests = st.tracker.requests ∧ st₀.calls = st.calls ∧
    st₀.need + st.tracker.getRequestsNum ≤ max P.blocksRequestLimit st.tracker.getRequestsNum ∧
    Sent (getSyncPeers peers P.blocksRequestPerPeer s.requiredCapabilities minHeight
      st.tracker.getPeersQueueSize).1 now st₀ st' regs atts ∧
    o.1 = { s with requestTracker := st'.tracker } ∧ o.2.1 = st'.calls
  no_panic : ∀ m, o.2.2 ≠ .error (.panic m)

theorem RefillEffect.idle {P : Params} (st₀ : SendState)
    (ht : st₀.tracker.requests = st.tracker.requests) (hc : st₀.calls = st.calls) :
    RefillEffect P peers now s st (finish s st₀ (.ok ())) :=
  ⟨⟨0, { st₀ with need := 0 }, [], [], { st₀ with need := 0 }, ht, hc, by simp,
    Sent.refl rfl rfl rfl, rfl, rfl⟩, by simp [finish]⟩

theorem refill_spec {P : Params} {c : ChainView} :
    RefillEffect P peers now s st (refill P c peers env now s st) := by
  unfold refill
  split
  · exact .idle st rfl rfl
  · rename_i head _
    simp only
    generalize hsel : getSyncPeers peers P.blocksRequestPerPeer s.requiredCapabilities head.height
      st.tracker.getPeersQueueSize = sel
    have hle := calculateNeededRequests_le st.tracker P.requestsToNextAsk sel.1.length sel.2
      P.blocksRequestPerPeer P.blocksRequestLimit
    have hreq := requests_calculateNeededRequests st.tracker P.requestsToNextAsk sel.1.length sel.2
      P.blocksRequestPerPeer P.blocksRequestLimit
    generalize st.tracker.calculateNeededRequests P.requestsToNextAsk sel.1.length sel.2
      P.blocksRequestPerPeer P.blocksRequestLimit = needed at hle hreq ⊢
    split_ifs with he h0
    · exact .idle st rfl rfl
    · exact .idle _ hreq rfl
    · obtain ⟨regs, atts, hs, hp⟩ := sendRequests_spec c sel.1 env now s.requestSeries
        { st with tracker := needed.2, need := needed.1 } (Nat.pos_of_ne_zero h0)
      subst hsel
      refine ⟨⟨head.height, { st with tracker := needed.2, need := needed.1 }, regs, atts, _, hreq,
        rfl, hle, hs, rfl, rfl⟩, fun m hm => ?_⟩
      simp only [finish] at hm
      split at hm
      · cases hm
        exact hp (fun h => he (List.isEmpty_iff.2 h)) m ‹_›
      · cases hm

theorem recieveBlockReporting_spec {P : Params} {c : ChainView} {accepted : Bool} {blockHash : Hash}
    {peer : PeerAddr} :
    RefillEffect P peers now s
      ⟨(s.requestTracker.removeRequest blockHash).2.getUpdateRequestsToNextAsk.2, 0,
        reportCalls (s.requestTracker.removeRequest blockHash).1 accepted blockHash peer, 0⟩
      (recieveBlockReporting P c accepted blockHash peer peers env now s) := by
  simp only [recieveBlockReporting]
  split_ifs
  · exact .idle _ rfl rfl
  · exact refill_spec

end MwcSync.BodySync
