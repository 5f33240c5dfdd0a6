import MwcSync.ManagerRuns
import MwcSync.Responses

set_option autoImplicit false

namespace MwcSync

/-- Modelled from its use: `SyncStatus` is declared in the chain crate, which is not among the
sources; these are the variants `update_sync_status` matches on, which names them all. -/
inductive SyncStatus
  | initial
  | noSync
  | awaitingPeers
  | headerHashSync (completedBlocks totalBlocks : Nat)
  | headerSync (currentHeight archiveHeight : Nat)
  | txHashsetPibd (recievedSegments totalSegments : Nat)
  | validatingKernelsHistory
  | txHashsetHeadersValidation (headers headersTotal : Nat)
  | txHashsetKernelsPosValidation (kernelPos kernelPosTotal : Nat)
  | txHashsetRangeProofsValidation (rproofs rproofsTotal : Nat)
  | txHashsetKernelsValidation (kernels kernelsTotal : Nat)
  | bodySync (archiveHeight currentHeight highestHeight : Nat)
  | shutdown
deriving DecidableEq, Repr

namespace TUIStatusView

/-- `a * b` on `u64` in a build without overflow checks: the product wraps. -/
def wrappingMul (a b : Nat) : Nat := a * b % 2 ^ 64

/-- `a / b` on `u64`: dividing by zero panics. -/
def checkedDiv (a b : Nat) : Except String Nat :=
  if b = 0 then .error "attempt to divide by zero" else .ok (a / b)

/-- The percent of five arms: `if total == 0 { 0 } else part * 100 / total`. -/
def percentOf (part total : Nat) : Except String Nat :=
  if total = 0 then pure 0 else checkedDiv (wrappingMul part 100) total

/-- The percent of the range-proof and kernel arms, which test the divisor the other way round:
`if total > 0 { (part * 100) / total } else { 0 }`. -/
def percentIfPositive (part total : Nat) : Except String Nat :=
  if 0 < total then checkedDiv (wrappingMul part 100) total else pure 0

/-- `TUIStatusView::update_sync_status`: the line for a status, or the panic of a division. -/
def updateSyncStatus : SyncStatus → Except String String
  | .initial => pure "Initializing"
  | .noSync => pure "Running"
  | .awaitingPeers => pure "Waiting for peers"
  | .headerHashSync completedBlocks totalBlocks =>
    pure s!"Sync step 1/7: Downloading headers hashes - {completedBlocks}/{totalBlocks}"
  | .headerSync currentHeight archiveHeight => do
    let percent ← percentOf currentHeight archiveHeight
    pure s!"Sync step 1/7: Downloading headers: {percent}%"
  | .txHashsetPibd recievedSegments totalSegments =>
    if recievedSegments == 0 && totalSegments == 100 then
      pure "Sync step 2/7: Selecting peers, waiting for PIBD root hash"
    else do
      let percent ← percentOf recievedSegments totalSegments
      pure
        s!"Sync step 2/7: Downloading Tx state (PIBD) - {recievedSegments} / {totalSegments} segments - {percent}%"
  | .validatingKernelsHistory => pure "Sync step 3/7: Validating kernels history"
  | .txHashsetHeadersValidation headers headersTotal => do
    let percent ← percentOf headers headersTotal
    pure s!"Sync step 3/7: Validating headers - {headers} / {headersTotal} segments - {percent}%"
  | .txHashsetKernelsPosValidation kernelPos kernelPosTotal => do
    let percent ← percentOf kernelPos kernelPosTotal
    pure s!"Sync step 4/7: Validation kernel position - {kernelPos}/{kernelPosTotal} - {percent}%"
  | .txHashsetRangeProofsValidation rproofs rproofsTotal => do
    let rPercent ← percentIfPositive rproofs rproofsTotal
    pure s!"Sync step 5/7: Validating chain state - range proofs: {rPercent}%"
  | .txHashsetKernelsValidation kernels kernelsTotal => do
    let kPercent ← percentIfPositive kernels kernelsTotal
    pure s!"Sync step 6/7: Validating chain state - kernels: {kPercent}%"
  | .bodySync archiveHeight currentHeight highestHeight => do
    let percent ← percentOf (currentHeight - archiveHeight) (highestHeight - archiveHeight)
    pure s!"Sync step 7/7: Downloading blocks: {percent}%"
  | .shutdown => pure "Shutting down, closing connections"

end TUIStatusView

/-- The work a status reports done and the work in all, for the statuses whose line shows a
percent; the body's heights count from the horizon. -/
def SyncStatus.progress : SyncStatus → Option (Nat × Nat)
  | .headerSync currentHeight archiveHeight => some (currentHeight, archiveHeight)
  | .txHashsetPibd recievedSegments totalSegments =>
    if recievedSegments == 0 && totalSegments == 100 then none
    else some (recievedSegments, totalSegments)
  | .txHashsetHeadersValidation headers headersTotal => some (headers, headersTotal)
  | .txHashsetKernelsPosValidation kernelPos kernelPosTotal => some (kernelPos, kernelPosTotal)
  | .txHashsetRangeProofsValidation rproofs rproofsTotal => some (rproofs, rproofsTotal)
  | .txHashsetKernelsValidation kernels kernelsTotal => some (kernels, kernelsTotal)
  | .bodySync archiveHeight currentHeight highestHeight =>
    some (currentHeight - archiveHeight, highestHeight - archiveHeight)
  | _ => none

namespace TUIStatusView

theorem percentIfPositive_eq (part total : Nat) :
    percentIfPositive part total = percentOf part total := by
  by_cases h : total = 0 <;> simp [percentIfPositive, percentOf, h, Nat.pos_iff_ne_zero]

theorem percentOf_spec (part total : Nat) :
    ∃ p, percentOf part total = .ok p ∧ (part ≤ total → p ≤ 100) ∧ (p = 100 → total ≤ part) := by
  by_cases h0 : total = 0
  · exact ⟨0, by simp [percentOf, h0]; rfl, fun _ => by omega, fun h => by omega⟩
  have hpos : 0 < total := Nat.pos_of_ne_zero h0
  have hwrap : wrappingMul part 100 ≤ part * 100 := Nat.mod_le _ _
  refine ⟨wrappingMul part 100 / total, by simp [percentOf, checkedDiv, h0], fun hle => ?_,
    fun h100 => ?_⟩
  · exact Nat.div_le_of_le_mul (by omega)
  · have : 100 * total ≤ wrappingMul part 100 := (Nat.le_div_iff_mul_le hpos).1 h100.ge
    omega

theorem percentOf_line (x t : Nat) (line : Nat → String)
    (hl : ∀ p, ∃ pre, line p = pre ++ toString p ++ "%") :
    ∃ l, (percentOf x t >>= fun p => pure (line p)) = .ok l ∧
      ∀ done total, some (x, t) = some (done, total) → ∃ pre p, percentOf done total = .ok p ∧
        l = pre ++ toString p ++ "%" ∧ (done ≤ total → p ≤ 100) ∧ (p = 100 → total ≤ done) := by
  obtain ⟨p, hp, h1, h2⟩ := percentOf_spec x t
  obtain ⟨pre, hpre⟩ := hl p
  refine ⟨line p, by rw [hp]; rfl, fun done total he => ?_⟩
  cases he
  exact ⟨pre, p, hp, hpre, h1, h2⟩

theorem updateSyncStatus_percent (st : SyncStatus) :
    ∃ line, updateSyncStatus st = .ok line ∧ ∀ done total, st.progress = some (done, total) →
      ∃ pre p, percentOf done total = .ok p ∧ line = pre ++ toString p ++ "%" ∧
        (done ≤ total → p ≤ 100) ∧ (p = 100 → total ≤ done) := by
  cases st with
  | headerSync c a => exact percentOf_line c a _ fun _ => ⟨_, rfl⟩
  | txHashsetPibd r t =>
    cases h : (r == 0 && t == 100)
    · simp only [updateSyncStatus, SyncStatus.progress, h, Bool.false_eq_true, ↓reduceIte]
      exact percentOf_line r t _ fun _ => ⟨_, rfl⟩
    · simp only [updateSyncStatus, SyncStatus.progress, h, ↓reduceIte]
      exact ⟨_, rfl, fun _ _ h => nomatch h⟩
  | txHashsetHeadersValidation h t => exact percentOf_line h t _ fun _ => ⟨_, rfl⟩
  | txHashsetKernelsPosValidation k t => exact percentOf_line k t _ fun _ => ⟨_, rfl⟩
  | txHashsetRangeProofsValidation r t =>
    simp only [updateSyncStatus, percentIfPositive_eq]
    exact percentOf_line r t _ fun _ => ⟨_, rfl⟩
  | txHashsetKernelsValidation k t =>
    simp only [updateSyncStatus, percentIfPositive_eq]
    exact percentOf_line k t _ fun _ => ⟨_, rfl⟩
  | bodySync a c h => exact percentOf_line (c - a) (h - a) _ fun _ => ⟨_, rfl⟩
  | _ => exact ⟨_, rfl, fun _ _ h => nomatch h⟩

/-- The source's own tests: 201 of 5000 kernels show 4%, 643 of 1000 range proofs 64%. -/
example : updateSyncStatus (.txHashsetKernelsValidation 201 5000) =
    .ok "Sync step 6/7: Validating chain state - kernels: 4%" := rfl

example : updateSyncStatus (.txHashsetRangeProofsValidation 643 1000) =
    .ok "Sync step 5/7: Validating chain state - range proofs: 64%" := rfl

end TUIStatusView

namespace BodySync

open RequestTracker

variable {P : Params} {s : BodySync}

theorem opening_go {c : ChainView} {bh : Nat} {head headerHead : Tip} {fp : BlockHeader} {ah : Nat}
    (h : opening P c bh = .ok (.go head headerHead fp ah)) :
    ah = P.height2ArchiveHeight bh ∧ (c.archiveMode = false → ah ≤ fp.height) := by
  simp only [opening, bind, Except.bind, pure, Except.pure] at h
  repeat' split at h
  all_goals first | (cases h; done) | (cases h; exact ⟨rfl, fun ha => by simp_all⟩)

theorem Step.status {e : Event} {s' : BodySync} {cs : List Call} (h : Step P s e s' cs)
    {a c hh : Nat} (hm : Call.updateSyncStatus a c hh ∈ cs) :
    (a = 0 ∨ a = P.height2ArchiveHeight hh) ∧ a ≤ c := by
  rcases h.mem_calls hm with ⟨att, hatt, -⟩ | ⟨chain, _, bh, _, _, _, _, fp, ah, _, -, hop, hx⟩ |
    ⟨_, _, _, _, _, _, _, -, hx⟩
  · cases att <;> simp [Attempt.calls] at hatt
  · simp only [sendStart, retainExpired, List.mem_append, List.mem_map, List.mem_singleton,
      reduceCtorEq, and_false, exists_false, false_or, Call.updateSyncStatus.injEq] at hx
    obtain ⟨rfl, rfl, rfl⟩ := hx
    obtain ⟨hah, hle⟩ := opening_go hop
    cases harch : chain.view.archiveMode
    · simpa [harch] using ⟨.inr hah, hle harch⟩
    · simp
  · unfold reportCalls at hx
    split at hx <;> split_ifs at hx <;> simp at hx

theorem status_horizon {evs : List Event} {log : List Call} (h : Runs (Step P) new evs s log) :
    ∀ a c hh, Call.updateSyncStatus a c hh ∈ log →
      (a = 0 ∨ a = P.height2ArchiveHeight hh) ∧ a ≤ c :=
  h.invariant (I := fun _ log => ∀ a c hh, Call.updateSyncStatus a c hh ∈ log →
      (a = 0 ∨ a = P.height2ArchiveHeight hh) ∧ a ≤ c)
    (fun _ _ _ hm => absurd hm (List.not_mem_nil _))
    fun _ _ _ _ _ hI hs a c hh hm => (List.mem_append.1 hm).elim (hI a c hh) hs.status

end BodySync

namespace SyncManager

variable {P : Params}

theorem syncStatus_from_horizon {evs : List Event} {m : SyncManager} {log : List Call}
    (h : Runs (Step P) new evs m log) :
    ∀ a c hh, Call.updateSyncStatus a c hh ∈ log →
      (a = 0 ∨ a = P.height2ArchiveHeight hh) ∧ a ≤ c := by
  obtain ⟨bevs, hb⟩ := run_body h
  exact fun a c hh hm => BodySync.status_horizon hb a c hh (List.mem_filter.2 ⟨hm, rfl⟩)

theorem syncStatus_from_horizon_line :
    ∃ m log, Runs (Step BodySync.smallParams) new
        [.request BodySync.lineChain [BodySync.peerA] 0 BodySync.firstPickEnv readyStages] m log ∧
      Call.updateSyncStatus 0 0 100 ∈ log ∧
      ∀ a c hh, Call.updateSyncStatus a c hh ∈ log →
        (a = 0 ∨ a = BodySync.smallParams.height2ArchiveHeight hh) ∧ a ≤ c :=
  have ⟨m, log, hr, hp⟩ := reach_log_of_run BodySync.smallParams 600
    [.request BodySync.lineChain [BodySync.peerA] 0 BodySync.firstPickEnv readyStages]
    (fun _ log => decide (Call.updateSyncStatus 0 0 100 ∈ log)) (by decide)
  ⟨m, log, hr, of_decide_eq_true hp, syncStatus_from_horizon hr⟩

end SyncManager

end MwcSync
