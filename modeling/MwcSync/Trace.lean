import MwcSync.Basic

set_option autoImplicit false

namespace MwcSync

/-- The runs of the steps `step` from `init`: the inputs taken, the state reached and every call
made on the way. -/
inductive Runs {σ ε : Type} (step : σ → ε → σ → List Call → Prop) (init : σ) :
    List ε → σ → List Call → Prop
  | nil : Runs step init [] init []
  | snoc {evs : List ε} {s : σ} {log : List Call} {e : ε} {s' : σ} {cs : List Call} :
      Runs step init evs s log → step s e s' cs → Runs step init (evs ++ [e]) s' (log ++ cs)

section

variable {σ ε : Type} {step : σ → ε → σ → List Call → Prop} {init : σ}

theorem Runs.invariant_of {Q : ε → Prop} {I : σ → List Call → Prop} (h₀ : I init [])
    (hs : ∀ s log e s' cs, Q e → I s log → step s e s' cs → I s' (log ++ cs))
    {evs : List ε} {s : σ} {log : List Call} (h : Runs step init evs s log)
    (hq : ∀ e ∈ evs, Q e) : I s log := by
  induction h with
  | nil => exact h₀
  | snoc _ hstep ih =>
    rw [List.forall_mem_append, List.forall_mem_singleton] at hq
    exact hs _ _ _ _ _ hq.2 (ih hq.1) hstep

theorem Runs.invariant {I : σ → List Call → Prop} (h₀ : I init [])
    (hs : ∀ s log e s' cs, I s log → step s e s' cs → I s' (log ++ cs)) {evs : List ε} {s : σ}
    {log : List Call} (h : Runs step init evs s log) : I s log :=
  h.invariant_of (Q := fun _ => True) h₀ (fun _ _ _ _ _ _ => hs _ _ _ _ _) fun _ _ => trivial

/-- The inputs `es` taken one `apply` at a time from `s`, after the log `log`. -/
def runFrom (apply : σ → ε → Option (σ × List Call)) : σ → List Call → List ε →
    Option (σ × List Call)
  | s, log, [] => some (s, log)
  | s, log, e :: es => (apply s e).bind fun r => runFrom apply r.1 (log ++ r.2) es

variable {apply : σ → ε → Option (σ × List Call)}

theorem runFrom_runs (happly : ∀ s e s' cs, apply s e = some (s', cs) → step s e s' cs) :
    ∀ (pre : List ε) {s : σ} {log : List Call} (es : List ε) {s' : σ} {log' : List Call},
      Runs step init pre s log → runFrom apply s log es = some (s', log') →
      Runs step init (pre ++ es) s' log'
  | _, _, _, [], _, _, hr, h => by cases h; simpa using hr
  | pre, _, _, e :: es, _, _, hr, h => by
    obtain ⟨⟨s₁, cs⟩, he, h⟩ := Option.bind_eq_some.1 h
    simpa using runFrom_runs happly (pre ++ [e]) es (hr.snoc (happly _ _ _ _ he)) h

theorem reach_of_runFrom (happly : ∀ s e s' cs, apply s e = some (s', cs) → step s e s' cs)
    {evs : List ε} {p : σ → Bool} (h : (runFrom apply init [] evs).map (p ·.1) = some true) :
    ∃ s log, Runs step init evs s log ∧ p s = true := by
  cases hr : runFrom apply init [] evs with
  | none => simp [hr] at h
  | some r =>
    simp only [hr, Option.map_some', Option.some.injEq] at h
    exact ⟨r.1, r.2, by simpa using runFrom_runs happly [] evs .nil hr, h⟩

theorem reach_log_of_runFrom (happly : ∀ s e s' cs, apply s e = some (s', cs) → step s e s' cs)
    {evs : List ε} {p : σ → List Call → Bool}
    (h : (runFrom apply init [] evs).map (fun r => p r.1 r.2) = some true) :
    ∃ s log, Runs step init evs s log ∧ p s log = true := by
  cases hr : runFrom apply init [] evs with
  | none => simp [hr] at h
  | some r =>
    simp only [hr, Option.map_some', Option.some.injEq] at h
    exact ⟨r.1, r.2, by simpa using runFrom_runs happly [] evs .nil hr, h⟩

end

end MwcSync
