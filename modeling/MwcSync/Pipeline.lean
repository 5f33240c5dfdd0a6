import MwcSync.ManagerRuns
import MwcSync.Responses

set_option autoImplicit false

namespace MwcSync

namespace BodySync

variable {P : Params} {fuel bh now : Nat} {chain : Chain} {peers : List Peer} {env : Nat → Draw}
  {s : BodySync}

theorem request_bodyReady {o : Outcome SyncRequestResponses}
    (h : request P fuel chain peers bh now env s = some o) (hr : o.2.2 = .ok .bodyReady) :
    opening P chain.view bh = .ok (.done .bodyReady) := by
  unfold request at h
  split at h <;> rename_i hop
  · cases h; cases hr
  · cases h; cases hr; exact hop
  · simp only at h
    split at h
    · cases h; split at hr <;> cases hr
    · cases (sendTick_spec h).syncing _ hr

end BodySync

/-- The stage answers on which a tick reaches the body with no `debug_assert!(false)`. -/
@[mk_iff]
structure Stages.Ready (stages : Stages) (bh : Nat) : Prop where
  headersHash : (stages.headersHash bh).response = .headersPibdReady ∨
    (stages.headersHash bh).response = .headersHashReady
  headers : (stages.headers bh).response = .headersPibdReady ∨
    (stages.headers bh).response = .headersReady
  state : (stages.state bh).response = .statePibdReady

instance (stages : Stages) (bh : Nat) : Decidable (stages.Ready bh) :=
  decidable_of_iff _ (Stages.ready_iff stages bh).symm

namespace SyncManager

variable {P : Params} {fuel now : Nat} {chain : Chain} {peers : List Peer} {env : Nat → Draw}
  {stages : Stages}

theorem headersHashStage_next {resp : SyncResponse} {cs : List Call}
    (h : headersHashStage resp = (cs, .next ())) :
    Call.debugAssertFalse ∉ cs →
      resp.response = .headersPibdReady ∨ resp.response = .headersHashReady := by
  unfold headersHashStage at h
  split at h <;> cases h <;> simp_all

theorem headersStage_next {resp : SyncResponse} {cs : List Call} {ready : Bool}
    (h : headersStage resp = (cs, .next ready)) :
    (Call.debugAssertFalse ∉ cs →
        resp.response = .headersPibdReady ∨ resp.response = .headersReady) ∧
      (ready = true → resp.response = .headersReady) := by
  unfold headersStage at h
  split at h <;> cases h <;> simp_all

theorem stateStage_next {resp : SyncResponse} {cs : List Call}
    (h : stateStage resp = (cs, .next ())) :
    Call.debugAssertFalse ∉ cs → resp.response = .statePibdReady := by
  unfold stateStage at h
  split at h <;> cases h <;> simp_all

theorem stagesBeforeBody_next {bh : Nat} {cs : List Call} {ready : Bool}
    (h : stagesBeforeBody stages bh = (cs, .next ready)) :
    (Call.debugAssertFalse ∉ cs → stages.Ready bh) ∧
      (ready = true → (stages.headers bh).response = .headersReady) := by
  unfold stagesBeforeBody at h
  split at h
  · cases h
  · rename_i c₁ h₁
    split at h
    · cases h
    · rename_i c₂ r h₂
      split at h <;> cases h
      rename_i c₃ h₃
      have h₁ := headersHashStage_next h₁
      have h₂ := headersStage_next h₂
      have h₃ := stateStage_next h₃
      refine ⟨fun hna => ?_, h₂.2⟩
      simp only [List.mem_append, not_or] at hna
      exact ⟨h₁ hna.1.1, h₂.1 hna.1.2, h₃ hna.2⟩

theorem requestFresh_cases {m : SyncManager}
    {o : SyncManager × List Call × Except Failure SyncResponse}
    (h : requestFresh P fuel chain peers now env stages m = some o) :
    (∀ r, o.2.2 = .ok r → r.response ≠ .syncDone) ∨
    ∃ cs ready ob, bestHeight peers ≠ 0 ∧
      stagesBeforeBody stages (bestHeight peers) = (cs, .next ready) ∧
      BodySync.request P fuel chain peers (bestHeight peers) now env m.body = some ob ∧
      o.1.body = ob.1 ∧
      o.2.1 = [.applyPeersStatus, .applyPeersStatus] ++ cs ++ ob.2.1 ++
        (bodyStage ready ob.1.getPeerCapabilities stages.bodyMessage ob.2.2).1 ∧
      o.2.2 = (bodyStage ready ob.1.getPeerCapabilities stages.bodyMessage ob.2.2).2.1 := by
  simp only [requestFresh] at h
  split_ifs at h with h0
  · cases h
    exact .inl fun r hr => by cases hr; decide
  · split at h
    · rename_i cs r hs
      cases h
      exact .inl fun r' hr => by cases hr; exact stagesBeforeBody_ret hs
    · rename_i cs ready hs
      obtain ⟨ob, hob, rfl⟩ := Option.map_eq_some'.1 h
      exact .inr ⟨cs, ready, ob, h0, hs, hob, rfl, rfl, rfl⟩

theorem request_cases {m : SyncManager} {o : SyncManager × List Call × Except Failure SyncResponse}
    (h : request P fuel chain peers now env stages m = some o) :
    (∃ c, m.cachedResponse = some c ∧ o = (m, [], .ok c.response)) ∨
      ∃ m₀ : SyncManager, m₀.body = m.body ∧
        requestFresh P fuel chain peers now env stages m₀ = some o := by
  unfold request at h
  split at h
  · rename_i c hc
    split_ifs at h
    · exact .inr ⟨{ m with cachedResponse := none }, rfl, h⟩
    · cases h; exact .inl ⟨c, hc, rfl⟩
  · exact .inr ⟨m, rfl, h⟩

theorem bodyStage_syncDone_of {ready : Bool} {caps : Capabilities} {msg : String}
    {r : Except Failure SyncRequestResponses} {resp : SyncResponse}
    (h : (bodyStage ready caps msg r).2.1 = .ok resp) (hd : resp.response = .syncDone) :
    r = .ok .bodyReady ∧ ready = true := by
  rcases r with (e | m) | v
  · cases h; cases hd
  · cases h
  · cases v <;> cases ready <;> first | exact ⟨rfl, rfl⟩ | (cases h; cases hd)

theorem request_syncDone_when_synced {m : SyncManager}
    {o : SyncManager × List Call × Except Failure SyncResponse} {r : SyncResponse}
    (h : request P fuel chain peers now env stages m = some o) (hr : o.2.2 = .ok r)
    (hd : r.response = .syncDone) (hna : Call.debugAssertFalse ∉ o.2.1) :
    (∃ c, m.cachedResponse = some c ∧ r = c.response ∧ o.1 = m ∧ o.2.1 = []) ∨
      (bestHeight peers ≠ 0 ∧ stages.Ready (bestHeight peers) ∧
        (stages.headers (bestHeight peers)).response = .headersReady ∧
        ∃ head headerHead, chain.view.head = .ok head ∧ chain.view.headerHead = .ok headerHead ∧
          head.lastBlockH = headerHead.lastBlockH) := by
  rcases request_cases h with ⟨c, hc, rfl⟩ | ⟨m₀, -, hf⟩
  · cases hr; exact .inl ⟨c, hc, rfl, rfl, rfl⟩
  rcases requestFresh_cases hf with hnd | ⟨cs, ready, ob, h0, hs, hob, -, hc, ho⟩
  · exact absurd hd (hnd r hr)
  rw [hc] at hna
  simp only [List.mem_append, not_or] at hna
  obtain ⟨hready, hheaders⟩ := stagesBeforeBody_next hs
  obtain ⟨hbody, rfl⟩ := bodyStage_syncDone_of (ho ▸ hr) hd
  exact .inr ⟨h0, hready hna.1.1.2, hheaders rfl,
    (BodySync.opening_eq_bodyReady _).1 (BodySync.request_bodyReady hob hbody)⟩

theorem request_syncDone_when_synced_done :
    ∃ o r, request BodySync.smallParams 600 doneChain [BodySync.peerA] 0 BodySync.firstPickEnv
        readyStages new = some o ∧ o.2.2 = .ok r ∧ r.response = .syncDone ∧
      Call.debugAssertFalse ∉ o.2.1 ∧
      ((∃ c, new.cachedResponse = some c ∧ r = c.response ∧ o.1 = new ∧ o.2.1 = []) ∨
        (bestHeight [BodySync.peerA] ≠ 0 ∧ readyStages.Ready (bestHeight [BodySync.peerA]) ∧
          (readyStages.headers (bestHeight [BodySync.peerA])).response = .headersReady ∧
          ∃ head headerHead, doneChain.view.head = .ok head ∧
            doneChain.view.headerHead = .ok headerHead ∧
            head.lastBlockH = headerHead.lastBlockH)) := by
  obtain ⟨o, ho⟩ := Option.isSome_iff_exists.1 (by decide : (request BodySync.smallParams 600
    doneChain [BodySync.peerA] 0 BodySync.firstPickEnv readyStages new).isSome)
  have hr : (request BodySync.smallParams 600 doneChain [BodySync.peerA] 0 BodySync.firstPickEnv
      readyStages new).map (fun o => (o.2.2, decide (Call.debugAssertFalse ∉ o.2.1))) =
      some (.ok ⟨.syncDone, Capabilities.unknown, "DONE!"⟩, true) := by
    decide
  rw [ho, Option.map_some', Option.some.injEq, Prod.mk.injEq] at hr
  exact ⟨o, _, ho, hr.1, rfl, of_decide_eq_true hr.2,
    request_syncDone_when_synced ho hr.1 rfl (of_decide_eq_true hr.2)⟩

end SyncManager

end MwcSync
