import MwcSync.Run

set_option autoImplicit false

namespace MwcSync.BodySync

variable {P : Params} {chain : Chain} {peers : List Peer} {env : Nat → Draw} {now fuel : Nat}
  {fp : BlockHeader} {hh : Tip} {s : BodySync} {st : SendState}

theorem refreshAndSend_isSome (hc : chain.HeightIndexed) (hf : 500 < fuel) :
    (refreshAndSend fuel chain peers env now fp hh s st).isSome := by
  unfold refreshAndSend
  split
  · rfl
  · rfl
  · rename_i c kicked _ hkick
    have hci := kickStuckOrphan_heightIndexed hc hkick
    split_ifs
    · split
      · rfl
      · rename_i cur hcur
        have hh' := hci.header_by_height _ _ hcur
        obtain ⟨r, hr⟩ := Option.isSome_iff_exists.1
          (rebuildSeries_isSome (f := fp.height) hci fuel cur [] (by omega))
        rw [hr]
        rcases r with ⟨series, _ | e⟩ <;> rfl
    · rfl

theorem sendTick_isSome (hc : chain.HeightIndexed) (hf : 500 < fuel) :
    (sendTick fuel chain peers env now fp hh s st).isSome := by
  unfold sendTick
  split_ifs
  · rfl
  · simp only
    split
    · rfl
    · split_ifs
      · rfl
      · exact refreshAndSend_isSome hc hf

theorem request_isSome {bh : Nat} (hc : chain.HeightIndexed) (hf : 500 < fuel) :
    (request P fuel chain peers bh now env s).isSome := by
  unfold request
  split
  · rfl
  · rfl
  · simp only
    split_ifs <;> first | rfl | exact sendTick_isSome hc hf

theorem request_series {bh : Nat} {o : Outcome SyncRequestResponses} (hc : chain.HeightIndexed)
    (h : request P fuel chain peers bh now env s = some o) :
    o.1.requestSeries = s.requestSeries ∨ ∃ head headerHead forkPoint archiveHeight,
      opening P chain.view bh = .ok (.go head headerHead forkPoint archiveHeight) ∧
      Window forkPoint.height headerHead.height o.1.requestSeries := by
  rcases request_cases h with ⟨h₁, -, -⟩ | ⟨_, _, _, _, hop, ⟨-, rfl⟩ | ⟨-, te⟩⟩
  · exact .inl (by rw [h₁])
  · exact .inl rfl
  · exact te.series.imp_right fun hw => ⟨_, _, _, _, hop, hw hc⟩

/-- The ticks of a run on chains with a consistent header index. -/
def Event.HeightIndexed : Event → Prop
  | .request chain .. => chain.HeightIndexed
  | .recieveBlockReporting .. => True

theorem Step.series {e : Event} {s' : BodySync} {cs : List Call} (h : Step P s e s' cs)
    (he : e.HeightIndexed) :
    s'.requestSeries = s.requestSeries ∨ ∃ f h, Window f h s'.requestSeries := by
  cases h with
  | request ho =>
    exact (request_series he ho).imp_right fun ⟨_, hh, fp, _, _, hw⟩ => ⟨_, _, hw⟩
  | recieveBlockReporting =>
    obtain ⟨_, _, _, _, _, -, -, -, -, ho, -⟩ := recieveBlockReporting_spec.sent
    exact .inl (by rw [ho])

theorem requestSeries_window {evs : List Event} {log : List Call} (h : Runs (Step P) new evs s log)
    (hc : ∀ e ∈ evs, e.HeightIndexed) :
    (∀ chain peers bestHeight now env fuel, chain.HeightIndexed → 500 < fuel →
      ∃ o, request P fuel chain peers bestHeight now env s = some o ∧
        (o.1.requestSeries = s.requestSeries ∨ ∃ head headerHead forkPoint archiveHeight,
          opening P chain.view bestHeight = .ok (.go head headerHead forkPoint archiveHeight) ∧
          Window forkPoint.height headerHead.height o.1.requestSeries)) ∧
    s.requestSeries.length ≤ 500 ∧ s.requestSeries.Pairwise (fun a b => b.2 < a.2) ∧
      ∃ f h, Window f h s.requestSeries := by
  have hw : ∃ f h, Window f h s.requestSeries :=
    h.invariant_of (Q := Event.HeightIndexed) (I := fun s _ => ∃ f h, Window f h s.requestSeries)
      ⟨0, 0, Window.nil 0 0⟩ (fun _ _ _ _ _ he ⟨f, h, hw⟩ hs => (hs.series he).elim
        (fun heq => ⟨f, h, heq ▸ hw⟩) id) hc
  obtain ⟨f, t, w⟩ := hw
  refine ⟨fun chain peers bh now env fuel hci hf => ?_, w.length_le, w.decreasing, f, t, w⟩
  obtain ⟨o, ho⟩ := Option.isSome_iff_exists.1 (request_isSome hci hf :
    (request P fuel chain peers bh now env s).isSome)
  exact ⟨o, ho, request_series hci ho⟩

theorem lineChain_heightIndexed : lineChain.HeightIndexed := by
  refine ⟨⟨fun h b hb => ?_, fun b b' hb => ?_⟩, fun _ _ h => nomatch h⟩
  · cases hb; rfl
  · simp only [lineChain, lineView] at hb
    split at hb
    · cases hb
    · cases hb; simp only; omega

theorem requestSeries_window_line :
    ∃ s log, Runs (Step smallParams) new [.request lineChain [peerA, peerB] 100 0 firstPickEnv] s log ∧
      s.requestSeries.length = 25 ∧ ∃ f h, Window f h s.requestSeries :=
  have ⟨s, log, hr, hp⟩ := reach_of_run smallParams 600
    [.request lineChain [peerA, peerB] 100 0 firstPickEnv]
    (fun s => decide (s.requestSeries.length = 25)) (by decide)
  ⟨s, log, hr, of_decide_eq_true hp, (requestSeries_window hr
    (by simp [Event.HeightIndexed, lineChain_heightIndexed])).2.2.2⟩

end MwcSync.BodySync
