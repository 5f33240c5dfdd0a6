import MwcSync.BodySync

set_option autoImplicit false

namespace MwcSync.BodySync

open RequestTracker

/-- `k` needs a request: it is not tracked, not an orphan and not in the chain. -/
@[mk_iff]
structure Needed (c : ChainView) (t : RequestTracker Hash) (k : Hash) : Prop where
  not_tracked : k ∉ t.keys
  not_orphan : c.isOrphan k = false
  absent : c.blockExists k = .ok false

theorem isNeedRequestBlock_eq_true {c : ChainView} {t : RequestTracker Hash} {k : Hash} :
    isNeedRequestBlock c t k = .ok true ↔ Needed c t k := by
  rw [needed_iff]
  rcases hb : c.blockExists k with e | b <;> by_cases hk : k ∈ t.keys <;>
    cases ho : c.isOrphan k <;> simp [isNeedRequestBlock, hb, hk, ho, Except.map]

/-- One block request as the log shows it: the send, then its registration or the report of the
send's error. -/
inductive Attempt
  | sent (peer : PeerAddr) (hash : Hash)
  | failed (peer : PeerAddr) (hash : Hash) (err : String)

def Attempt.calls : Attempt → List Call
  | .sent p h => [.sendBlockRequest p h true, .registerRequest h p]
  | .failed p h e => [.sendBlockRequest p h false, .reportErrorResponse p (failedSendMessage p e)]

def Attempt.hash : Attempt → Hash
  | .sent _ h => h
  | .failed _ h _ => h

def Attempt.registered : Attempt → Option (Hash × PeerAddr)
  | .sent p h => some (h, p)
  | .failed .. => none

theorem Attempt.registered_of_mem {a : Attempt} {k : Hash} {p : PeerAddr}
    (h : Call.registerRequest k p ∈ a.calls) : a.registered = some (k, p) := by
  cases a <;> simp_all [Attempt.calls, Attempt.registered]

/-- What a stretch of `send_requests` did between the states `a` and `b`: the block requests
`atts`, the records `regs` they registered (keys untracked at `a`, issued at `now` to one of
`peers`), and one unit of `need_request` spent per registration. -/
structure Sent (peers : List Peer) (now : Nat) (a b : SendState) (regs : List (RequestData Hash))
    (atts : List Attempt) : Prop where
  requests : b.tracker.requests = a.tracker.requests ++ regs
  calls : b.calls = a.calls ++ atts.flatMap Attempt.calls
  need : b.need + regs.length = a.need
  countdown : b.tracker.requestsToNextAsk = a.tracker.requestsToNextAsk
  fresh : ∀ r ∈ regs, r.key ∉ a.tracker.keys ∧ r.issuedAt = now ∧ ∃ p ∈ peers, p.addr = r.peer
  registered : atts.filterMap Attempt.registered = regs.map fun r => (r.key, r.peer)

variable {peers : List Peer} {now : Nat}

@[simp] theorem SendState.sendFailed_tracker (st : SendState) (a : PeerAddr) (k : Hash) (e : String) :
    (st.sendFailed a k e).tracker = st.tracker := rfl

@[simp] theorem SendState.sendOk_calls (st : SendState) (a : PeerAddr) (k : Hash) (height now : Nat) :
    (st.sendOk a k height now).calls = st.calls ++ (Attempt.sent a k).calls := rfl

theorem Sent.refl {a b : SendState} (ht : b.tracker = a.tracker) (hc : b.calls = a.calls)
    (hn : b.need = a.need) : Sent peers now a b [] [] :=
  ⟨by simp [ht], by simp [hc], by simp [hn], by rw [ht], by simp, rfl⟩

theorem Sent.trans {a b d : SendState} {r₁ r₂ : List (RequestData Hash)} {t₁ t₂ : List Attempt}
    (h₁ : Sent peers now a b r₁ t₁) (h₂ : Sent peers now b d r₂ t₂) :
    Sent peers now a d (r₁ ++ r₂) (t₁ ++ t₂) where
  requests := by rw [h₂.requests, h₁.requests, List.append_assoc]
  calls := by rw [h₂.calls, h₁.calls, List.flatMap_append, List.append_assoc]
  need := by have := h₁.need; have := h₂.need; simp only [List.length_append]; omega
  countdown := h₂.countdown.trans h₁.countdown
  fresh r hr := by
    rcases List.mem_append.1 hr with hr | hr
    · exact h₁.fresh r hr
    · obtain ⟨hk, ht, hp⟩ := h₂.fresh r hr
      refine ⟨fun ha => hk ?_, ht, hp⟩
      simp only [keys, h₁.requests, List.map_append, List.mem_append]
      exact .inl ha
  registered := by rw [List.filterMap_append, h₁.registered, h₂.registered, List.map_append]

theorem SendState.keys_sendOk {st : SendState} {a : PeerAddr} {k : Hash} {height : Nat}
    (hk : k ∉ st.tracker.keys) : (st.sendOk a k height now).tracker.keys = st.tracker.keys ++ [k] := by
  simp only [SendState.sendOk, keys, requests_registerRequest hk, List.map_append, List.map_singleton]

theorem choose_mem {i : Nat} {p : Peer} (h : choose peers i = some p) : p ∈ peers :=
  List.get?_mem h

theorem choose_isSome {i : Nat} (h : peers ≠ []) : (choose peers i).isSome := by
  have : i % peers.length < peers.length := Nat.mod_lt _ (List.length_pos.2 h)
  simp [choose, List.getElem?_eq_getElem this]

theorem Sent.sendFailed {st : SendState} {addr : PeerAddr} {hash : Hash} {e : String} :
    Sent peers now st (st.sendFailed addr hash e) [] [.failed addr hash e] :=
  ⟨by simp [SendState.sendFailed], by simp [SendState.sendFailed, Attempt.calls],
    by simp [SendState.sendFailed], rfl, by simp, rfl⟩

theorem Sent.sendOk {st : SendState} {p : Peer} {hash : Hash} (height : Nat)
    (hk : hash ∉ st.tracker.keys) (hp : p ∈ peers) (hn : 0 < st.need) :
    Sent peers now st { st.sendOk p.addr hash height now with need := st.need - 1 }
      [⟨hash, p.addr, s!"Block {hash}, {height}", now⟩] [.sent p.addr hash] :=
  ⟨by simp [SendState.sendOk, hk], by simp [SendState.sendOk, Attempt.calls],
    by simp only [List.length_singleton]; omega, by simp [SendState.sendOk],
    by simpa using ⟨hk, p, hp, rfl⟩, rfl⟩

theorem Sent.requestsNum_add {a b : SendState} {regs : List (RequestData Hash)} {atts : List Attempt}
    (h : Sent peers now a b regs atts) :
    b.tracker.getRequestsNum + b.need = a.tracker.getRequestsNum + a.need := by
  have := h.need
  simp only [getRequestsNum, h.requests, List.length_append]
  omega

theorem Sent.registerRequest_mem {a b : SendState} {regs : List (RequestData Hash)}
    {atts : List Attempt} {k : Hash} {p : PeerAddr} (h : Sent peers now a b regs atts)
    (hk : Call.registerRequest k p ∈ b.calls) :
    Call.registerRequest k p ∈ a.calls ∨ ∃ q ∈ peers, q.addr = p := by
  rw [h.calls, List.mem_append, List.mem_flatMap] at hk
  refine hk.imp_right fun ⟨att, hatt, hk⟩ => ?_
  have hreg : (k, p) ∈ regs.map fun r => (r.key, r.peer) := by
    rw [← h.registered]
    exact List.mem_filterMap.2 ⟨att, hatt, Attempt.registered_of_mem hk⟩
  obtain ⟨r, hr, hrp⟩ := List.mem_map.1 hreg
  obtain ⟨-, -, q, hq, hqa⟩ := h.fresh r hr
  exact ⟨q, hq, hqa.trans (Prod.mk.inj hrp).2⟩

variable {c : ChainView} {env : Nat → Draw}

/-- What `Sent` leaves out of one run of the loop over `xs` from `a`. -/
structure Scan (c : ChainView) (peers : List Peer) (xs : List (Hash × Nat)) (a : SendState)
    (r : SendState × Option Failure) (regs : List (RequestData Hash)) (atts : List Attempt) :
    Prop where
  order : ∃ att : List (Hash × Nat), att.Sublist xs ∧ atts.map Attempt.hash = att.map Prod.fst
  needed : ∀ x ∈ regs, Needed c a.tracker x.key
  stop : r.1.need = 0 → r.2 = none ∧ ∃ pre p h, atts = pre ++ [.sent p h]
  no_panic : peers ≠ [] → ∀ m, r.2 ≠ some (.panic m)
  progress : r.1.need = 0 ∨ r.2.isSome ∨
    ∀ x ∈ xs, Needed c a.tracker x.1 → x.1 ∈ atts.map Attempt.hash

theorem Needed.of_sent {a b : SendState} {r₁ : List (RequestData Hash)} {t₁ : List Attempt}
    {k : Hash} (hs : Sent peers now a b r₁ t₁) (h : Needed c b.tracker k) : Needed c a.tracker k :=
  ⟨fun ha => h.not_tracked (by
      simp only [keys, hs.requests, List.map_append, List.mem_append]; exact .inl ha),
    h.not_orphan, h.absent⟩

theorem Needed.sendOk {st : SendState} {a : PeerAddr} {hash k : Hash} {height : Nat}
    (hk : hash ∉ st.tracker.keys) (h : Needed c st.tracker k) (hne : k ≠ hash) :
    Needed c (st.sendOk a hash height now).tracker k :=
  ⟨by rw [SendState.keys_sendOk hk]; simpa [hne] using h.not_tracked, h.not_orphan, h.absent⟩

theorem not_needed_of_eq_false {t : RequestTracker Hash} {k : Hash}
    (h : isNeedRequestBlock c t k = .ok false) : ¬Needed c t k :=
  fun hn => by cases h.symm.trans (isNeedRequestBlock_eq_true.2 hn)

theorem sendRequestsLoop_spec (c : ChainView) (peers : List Peer) (env : Nat → Draw) (now : Nat)
    (xs : List (Hash × Nat)) (st : SendState) (h : 0 < st.need) :
    ∃ regs atts, Sent peers now st (sendRequestsLoop c peers env now xs st).1 regs atts ∧
      Scan c peers xs st (sendRequestsLoop c peers env now xs st) regs atts := by
  induction xs, st using sendRequestsLoop.induct c peers env now with
  | case1 st =>
    simp only [sendRequestsLoop]
    refine ⟨[], [], Sent.refl rfl rfl rfl,
      ⟨⟨[], List.nil_sublist _, rfl⟩, by simp, ?_, by simp, .inr (.inr (by simp))⟩⟩
    simp only; omega
  | case2 hash height rest st e hneed =>
    simp only [sendRequestsLoop, hneed]
    refine ⟨[], [], Sent.refl rfl rfl rfl,
      ⟨⟨[], List.nil_sublist _, rfl⟩, by simp, ?_, by simp, .inr (.inl rfl)⟩⟩
    simp only; omega
  | case3 hash height rest st hneed ih =>
    simp only [sendRequestsLoop, hneed]
    obtain ⟨regs, atts, hs, ⟨att, hsub, hatt⟩, hn, hstop, hp, hprog⟩ := ih h
    exact ⟨regs, atts, hs, ⟨att, hsub.cons _, hatt⟩, hn, hstop, hp,
      hprog.imp_right <| .imp_right fun hall =>
        List.forall_mem_cons.2 ⟨fun h' => absurd h' (not_needed_of_eq_false hneed), hall⟩⟩
  | case4 hash height rest st hneed hchoose =>
    simp only [sendRequestsLoop, hneed, hchoose]
    refine ⟨[], [], Sent.refl rfl rfl rfl,
      ⟨⟨[], List.nil_sublist _, rfl⟩, by simp, ?_, ?_, .inr (.inl rfl)⟩⟩
    · simp only; omega
    · intro hp; simpa [hchoose] using choose_isSome (i := (env st.draws).pick) hp
  | case5 hash height rest st hneed peer e hsend hchoose ih =>
    simp only [sendRequestsLoop, hneed, hchoose, hsend]
    obtain ⟨regs, atts, hs, ⟨att, hsub, hatt⟩, hn, hstop, hp, hprog⟩ := ih h
    refine ⟨_, _, Sent.sendFailed.trans hs,
      ⟨⟨(hash, height) :: att, hsub.cons₂ _, by simp [hatt, Attempt.hash]⟩,
        fun x hx => hn x (by simpa using hx), fun h0 => ?_, hp,
        hprog.imp_right <| .imp_right fun hall => List.forall_mem_cons.2 ⟨fun _ =>
          List.mem_cons_self _ _, fun x hx hx' => List.mem_cons_of_mem _ (hall x hx hx')⟩⟩⟩
    obtain ⟨hr, pre, p, k, rfl⟩ := hstop h0
    exact ⟨hr, _ :: pre, p, k, rfl⟩
  | case6 hash height rest st hneed peer hsend hchoose h0 => omega
  | case7 hash height rest st hneed peer hsend hchoose h0 h1 =>
    simp only [sendRequestsLoop, hneed, hchoose, hsend, h0, h1, ↓reduceIte]
    have hs : Sent peers now st _ _ _ := Sent.sendOk height
      (isNeedRequestBlock_eq_true.1 hneed).not_tracked (choose_mem hchoose) h
    rw [h1] at hs
    refine ⟨_, _, hs, ⟨⟨[(hash, height)], (List.nil_sublist _).cons₂ _, rfl⟩, ?_,
      fun _ => ⟨rfl, [], _, _, rfl⟩, by simp, .inl rfl⟩⟩
    simpa using isNeedRequestBlock_eq_true.1 hneed
  | case8 hash height rest st hneed peer hsend hchoose st' h0 h1 ih =>
    simp only [sendRequestsLoop, hneed, hchoose, hsend, h0, h1, ↓reduceIte]
    obtain ⟨regs, atts, hs, ⟨att, hsub, hatt⟩, hn, hstop, hp, hprog⟩ := ih (by simp only; omega)
    have hk := (isNeedRequestBlock_eq_true.1 hneed).not_tracked
    have h₁ : Sent peers now st _ _ _ := Sent.sendOk height hk (choose_mem hchoose) h
    refine ⟨_, _, h₁.trans hs,
      ⟨⟨(hash, height) :: att, hsub.cons₂ _, by simp [hatt, Attempt.hash]⟩, ?_, fun h0 => ?_, hp,
        hprog.imp_right <| .imp_right fun hall => List.forall_mem_cons.2
          ⟨fun _ => List.mem_cons_self _ _, fun x hx hx' => ?_⟩⟩⟩
    · intro x hx
      rcases List.mem_append.1 hx with hx | hx
      · simp only [List.mem_singleton] at hx; subst hx; exact isNeedRequestBlock_eq_true.1 hneed
      · exact (hn x hx).of_sent h₁
    · obtain ⟨hr, pre, p, k, rfl⟩ := hstop h0
      exact ⟨hr, _ :: pre, p, k, rfl⟩
    · by_cases hxh : x.1 = hash
      · exact List.mem_cons.2 (.inl hxh)
      · exact List.mem_cons_of_mem _ (hall x hx (hx'.sendOk hk hxh))

end MwcSync.BodySync
