import MwcSync.BodySync

set_option autoImplicit false

namespace MwcSync.BodySync

/-- The shape `request_series` keeps for fork height `f` and header-head height `h`. -/
structure Window (f h : Nat) (series : List (Hash × Nat)) : Prop where
  decreasing : series.Pairwise (fun a b => b.2 < a.2)
  bounds : ∀ x ∈ series, f < x.2 ∧ x.2 ≤ min (f + 500) h

theorem Window.nil (f h : Nat) : Window f h [] := ⟨List.Pairwise.nil, by simp⟩

theorem length_le_of_decreasing {l : List (Hash × Nat)} {f t : Nat}
    (hd : l.Pairwise (fun a b => b.2 < a.2)) (hb : ∀ x ∈ l, f < x.2 ∧ x.2 ≤ t) :
    l.length ≤ t - f := by
  induction l generalizing t with
  | nil => simp
  | cons a l ih =>
    rw [List.pairwise_cons] at hd
    have ha := hb a (List.mem_cons_self _ _)
    have hl := ih hd.2 (t := a.2 - 1) fun x hx =>
      ⟨(hb x (List.mem_cons_of_mem _ hx)).1, by have := hd.1 x hx; omega⟩
    simp only [List.length_cons]
    omega

theorem Window.length_le {f h : Nat} {series : List (Hash × Nat)} (w : Window f h series) :
    series.length ≤ 500 := by
  have := length_le_of_decreasing w.decreasing w.bounds
  omega

variable {c : ChainView} {f : Nat}

theorem rebuildSeries_window (hc : c.HeightIndexed) (top : Nat) :
    ∀ (fuel : Nat) (cur : BlockHeader) (acc series : List (Hash × Nat)) (err : Option ChainError),
      rebuildSeries c f fuel cur acc = some (series, err) →
      acc.Pairwise (fun a b => b.2 < a.2) → (∀ x ∈ acc, f < x.2 ∧ cur.height < x.2 ∧ x.2 ≤ top) →
      cur.height ≤ top →
      series.Pairwise (fun a b => b.2 < a.2) ∧ ∀ x ∈ series, f < x.2 ∧ x.2 ≤ top
  | 0, _, _, _, _, h, _, _, _ => by simp [rebuildSeries] at h
  | fuel + 1, cur, acc, series, err, h, hd, hb, ht => by
    by_cases hf : f < cur.height
    · rw [rebuildSeries, if_pos hf] at h
      have hacc : (if c.isOrphan cur.hash then acc else acc ++ [(cur.hash, cur.height)]).Pairwise
          (fun a b => b.2 < a.2) ∧
          ∀ x ∈ (if c.isOrphan cur.hash then acc else acc ++ [(cur.hash, cur.height)]),
            f < x.2 ∧ cur.height ≤ x.2 ∧ x.2 ≤ top := by
        split_ifs
        · exact ⟨hd, fun x hx => by have := hb x hx; omega⟩
        · refine ⟨List.pairwise_append.2 ⟨hd, List.pairwise_singleton _ _, ?_⟩, ?_⟩
          · simp only [List.mem_singleton]
            rintro x hx y rfl
            exact (hb x hx).2.1
          · simp only [List.mem_append, List.mem_singleton]
            rintro x (hx | rfl)
            · have := hb x hx; omega
            · exact ⟨hf, le_rfl, ht⟩
      generalize (if c.isOrphan cur.hash then acc else acc ++ [(cur.hash, cur.height)]) = acc' at h hacc
      split at h
      · cases h
        exact ⟨hacc.1, fun x hx => ⟨(hacc.2 x hx).1, (hacc.2 x hx).2.2⟩⟩
      · rename_i prev hprev
        have hh := hc.previous_header _ _ hprev
        exact rebuildSeries_window hc top fuel prev _ series err h hacc.1
          (fun x hx => by have := hacc.2 x hx; omega) (by omega)
    · rw [rebuildSeries, if_neg hf] at h
      cases h
      exact ⟨hd, fun x hx => ⟨(hb x hx).1, (hb x hx).2.2⟩⟩

theorem rebuildSeries_isSome (hc : c.HeightIndexed) :
    ∀ (fuel : Nat) (cur : BlockHeader) (acc : List (Hash × Nat)), cur.height - f < fuel →
      (rebuildSeries c f fuel cur acc).isSome
  | 0, _, _, h => absurd h (Nat.not_lt_zero _)
  | fuel + 1, cur, acc, h => by
    by_cases hf : f < cur.height
    · rw [rebuildSeries, if_pos hf]
      generalize (if c.isOrphan cur.hash then acc else acc ++ [(cur.hash, cur.height)]) = acc'
      split
      · rfl
      · rename_i prev hprev
        have hh := hc.previous_header _ _ hprev
        exact rebuildSeries_isSome hc fuel prev _ (by omega)
    · rw [rebuildSeries, if_neg hf]; rfl

end MwcSync.BodySync
