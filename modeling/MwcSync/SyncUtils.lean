import MwcSync.Basic

set_option autoImplicit false

namespace MwcSync

structure RequestData (K : Type) where
  key : K
  peer : PeerAddr
  label : String
  issuedAt : Nat

/-- Modelled from the spec: a record has expired once `timeout` seconds have passed since it was
issued. -/
def RequestData.expired {K : Type} (timeout now : Nat) (r : RequestData K) : Bool :=
  decide (r.issuedAt + timeout ≤ now)

/-- Modelled from the spec: the outstanding requests, one per key, and the countdown to the
next response-driven refill. -/
structure RequestTracker (K : Type) where
  requests : List (RequestData K)
  nodup_keys : (requests.map (·.key)).Nodup
  requestsToNextAsk : Nat

namespace RequestTracker

variable {K : Type}

def new : RequestTracker K := ⟨[], List.nodup_nil, 0⟩

def keys (t : RequestTracker K) : List K := t.requests.map (·.key)

def hasRequest [DecidableEq K] (t : RequestTracker K) (key : K) : Bool := decide (key ∈ t.keys)

def getRequestsNum (t : RequestTracker K) : Nat := t.requests.length

/-- The queue depth of `peer`: the requests it owes. -/
def getPeersQueueSize (t : RequestTracker K) (peer : PeerAddr) : Nat :=
  t.requests.countP (·.peer = peer)

/-- Modelled from the spec: inserts the record unless the key is present, then it does nothing. -/
def registerRequest [DecidableEq K] (t : RequestTracker K) (key : K) (peer : PeerAddr) (label : String)
    (now : Nat) : RequestTracker K :=
  if h : key ∈ t.keys then t
  else
    { t with
      requests := t.requests ++ [⟨key, peer, label, now⟩]
      nodup_keys := by
        rw [List.map_append, List.nodup_append]
        exact ⟨t.nodup_keys, List.nodup_singleton _, by simpa [List.disjoint_singleton, keys] using h⟩ }

/-- Modelled from the spec: drops the record of `key` and returns the peer that owed it. -/
def removeRequest [DecidableEq K] (t : RequestTracker K) (key : K) : Option PeerAddr × RequestTracker K :=
  match t.requests.find? (·.key = key) with
  | none => (none, t)
  | some r =>
    (some r.peer,
      { t with
        requests := t.requests.filter (·.key ≠ key)
        nodup_keys := t.nodup_keys.sublist ((List.filter_sublist _).map _) })

/-- Modelled from the spec: drops every record issued `timeout` seconds or more before `now` and
charges an error to the peer that owed it. -/
def retainExpired (t : RequestTracker K) (timeout now : Nat) : RequestTracker K × List Call :=
  ({ t with
      requests := t.requests.filter (!RequestData.expired timeout now ·)
      nodup_keys := t.nodup_keys.sublist ((List.filter_sublist _).map _) },
    (t.requests.filter (RequestData.expired timeout now)).map
      fun r => .reportErrorResponse r.peer r.label)

/-- Modelled from the spec: `min(global_cap - current_inflight, peer_count * per_peer_cap -
excluded)` clamped at zero, which truncated subtraction gives. Running it restarts the refill
countdown at `restart`. -/
def calculateNeededRequests (t : RequestTracker K) (restart peerCount excluded perPeer limit : Nat) :
    Nat × RequestTracker K :=
  (min (limit - t.getRequestsNum) (peerCount * perPeer - excluded),
    { t with requestsToNextAsk := restart })

/-- Modelled from the spec: counts one response down towards the next refill. -/
def getUpdateRequestsToNextAsk (t : RequestTracker K) : Nat × RequestTracker K :=
  (t.requestsToNextAsk - 1, { t with requestsToNextAsk := t.requestsToNextAsk - 1 })

@[simp] theorem hasRequest_eq [DecidableEq K] {t : RequestTracker K} {key : K} :
    t.hasRequest key = decide (key ∈ t.keys) := rfl

@[simp] theorem requests_registerRequest [DecidableEq K] {t : RequestTracker K} {key : K} (h : key ∉ t.keys)
    (peer : PeerAddr) (label : String) (now : Nat) :
    (t.registerRequest key peer label now).requests = t.requests ++ [⟨key, peer, label, now⟩] := by
  simp [registerRequest, h]

@[simp] theorem requestsToNextAsk_registerRequest [DecidableEq K] (t : RequestTracker K) (key : K)
    (peer : PeerAddr) (label : String) (now : Nat) :
    (t.registerRequest key peer label now).requestsToNextAsk = t.requestsToNextAsk := by
  unfold registerRequest; split <;> rfl

@[simp] theorem requests_retainExpired (t : RequestTracker K) (timeout now : Nat) :
    (t.retainExpired timeout now).1.requests =
      t.requests.filter (!RequestData.expired timeout now ·) := rfl

@[simp] theorem requests_calculateNeededRequests (t : RequestTracker K) (a b c d e : Nat) :
    (t.calculateNeededRequests a b c d e).2.requests = t.requests := rfl

@[simp] theorem requests_getUpdateRequestsToNextAsk (t : RequestTracker K) :
    t.getUpdateRequestsToNextAsk.2.requests = t.requests := rfl

theorem calculateNeededRequests_le (t : RequestTracker K) (a b c d e : Nat) :
    (t.calculateNeededRequests a b c d e).1 + t.getRequestsNum ≤ max e t.getRequestsNum := by
  simp only [calculateNeededRequests]
  omega

theorem getPeersQueueSize_le (t : RequestTracker K) (peer : PeerAddr) :
    t.getPeersQueueSize peer ≤ t.getRequestsNum :=
  List.countP_le_length _

theorem filter_key [DecidableEq K] (t : RequestTracker K) (k : K) :
    t.requests.filter (·.key = k) = (t.requests.find? (·.key = k)).toList := by
  cases hf : t.requests.find? (·.key = k) with
  | none =>
    simp only [List.find?_eq_none] at hf
    simpa [List.filter_eq_nil_iff] using hf
  | some r =>
    have hr := List.mem_of_find?_eq_some hf
    have hk := List.find?_some hf
    have hlen : (t.requests.filter (·.key = k)).length = 1 := by
      have := List.count_eq_one_of_mem t.nodup_keys (List.mem_map_of_mem (·.key) hr)
      simp only [decide_eq_true_eq] at hk
      rw [← List.countP_eq_length_filter]
      simpa [List.count, List.countP_map, Function.comp_def, hk] using this
    obtain ⟨a, ha⟩ := List.length_eq_one.1 hlen
    have hm : r ∈ t.requests.filter (·.key = k) := List.mem_filter.2 ⟨hr, hk⟩
    rw [ha, List.mem_singleton] at hm
    rw [ha, hm]; rfl

theorem requests_removeRequest [DecidableEq K] (t : RequestTracker K) (k : K) :
    (t.removeRequest k).2.requests = t.requests.filter (·.key ≠ k) := by
  unfold removeRequest
  split
  · rename_i hf
    simp only [List.find?_eq_none, decide_eq_true_eq] at hf
    exact (List.filter_eq_self.2 (by simpa using hf)).symm
  · rfl

theorem removeRequest_owner [DecidableEq K] (t : RequestTracker K) (k : K) :
    (t.removeRequest k).1 = (t.requests.find? (·.key = k)).map (·.peer) := by
  unfold removeRequest
  split <;> rename_i hf <;> simp [hf]

theorem getPeersQueueSize_removeRequest [DecidableEq K] (t : RequestTracker K) (k : K) (p : PeerAddr) :
    (t.removeRequest k).2.getPeersQueueSize p + (if (t.removeRequest k).1 = some p then 1 else 0) =
      t.getPeersQueueSize p := by
  rw [getPeersQueueSize, requests_removeRequest, removeRequest_owner, getPeersQueueSize,
    List.countP_eq_countP_filter_add t.requests _ (·.key ≠ k)]
  congr 1
  have : t.requests.filter (fun r => !decide (r.key ≠ k)) = t.requests.filter (·.key = k) := by simp
  rw [this, filter_key]
  cases t.requests.find? (·.key = k) <;> simp [List.countP_cons]

end RequestTracker

/-- Modelled from the spec (section 4.1), in our reading of it, since `get_sync_peers` is not among
the sources and the spec leaves these details open: the connected peers that advertise the mask
and are at least as high as `minHeight`, less those whose queue has reached `requestsPerPeer`;
the count returned with them is the number of requests the peers left out for being full owe. -/
def getSyncPeers (peers : List Peer) (requestsPerPeer : Nat) (capabilities : Capabilities)
    (minHeight : Nat) (queueSize : PeerAddr → Nat) : List Peer × Nat :=
  let eligible := peers.filter fun p =>
    p.connected && Capabilities.covers p.capabilities capabilities && decide (minHeight ≤ p.height)
  (eligible.filter (queueSize ·.addr < requestsPerPeer),
    ((eligible.filter (requestsPerPeer ≤ queueSize ·.addr)).map (queueSize ·.addr)).sum)

theorem getSyncPeers_queue_lt {peers : List Peer} {n : Nat} {caps : Capabilities} {h : Nat}
    {q : PeerAddr → Nat} {p : Peer} (hp : p ∈ (getSyncPeers peers n caps h q).1) :
    q p.addr < n := by
  simp only [getSyncPeers, List.mem_filter, decide_eq_true_eq] at hp
  exact hp.2

end MwcSync
