import McpAuthflow.RateLimiting.SharedStore
import Mathlib.Data.List.Dedup

/-! # What the limiters keep in Redis

The in-memory limiter sweeps clients that have gone; in Redis nobody sweeps. A key goes away because
`_is_allowed_redis` gives it a second more than its window with each admission, and because a set
that is pruned empty is dropped. That is enough, for any number of limiters on one server:

* **`redis_keys_recent`** — whenever one looks, every key rests on an admission of its client within
  the window and a second, no set is longer than the limit, and there are no more keys than clients
  admitted in that time. -/

namespace McpAuthflow.RateLimiting

/-! ## What the server may hold -/

/-- The moment a key given its time by this call goes away. -/
def LimiterCall.deadline (c : LimiterCall) : ℚ :=
  c.call.time + ((c.limiter.windowSeconds + 1 : ℤ) : ℚ)

/-- The key of a call. -/
def LimiterCall.key (c : LimiterCall) : PyStr := redisKey c.limiter c.call.clientId

/-- The window length and the client of a call. -/
def LimiterCall.quota (c : LimiterCall) : ℤ × PyStr := (c.limiter.windowSeconds, c.call.clientId)

/-- The key of a window length and a client. -/
def quotaKey (q : ℤ × PyStr) : PyStr := redisKey ⟨0, q.1⟩ q.2

/-- The window lengths and clients with an admission that is still remembered at `now`. -/
def rememberedQuotas (now : ℚ) (tr : SharedTrace) : List (ℤ × PyStr) :=
  ((tr.filter fun e => e.2.decision? = some true ∧ now ≤ e.1.deadline).map fun e =>
    e.1.quota).dedup

/-- An admission keeps a key alive at `now`, with the set found there. -/
structure Backs (limit : ℤ → ℤ) (now : ℚ) (e : LimiterCall × Reply) (key : PyStr) (z : SortedSet) :
    Prop where
  admitted : e.2.decision? = some true
  key_eq : key = e.1.key
  recent : now ≤ e.1.deadline
  atMost : (z.length : ℤ) ≤ limit e.1.limiter.windowSeconds

/-- **The server is bounded by recent traffic**, as of `now`; `limit` bounds the limits of the
limiters of a window length. -/
structure BoundedKeys (limit : ℤ → ℤ) (now : ℚ) (db : RedisStore) (tr : SharedTrace) : Prop where
  /-- Each key rests on a recent admission of its client. -/
  recent : ∀ key z, Keyspace.read db now key = some z → z ≠ [] ∧ ∃ e ∈ tr, Backs limit now e key z
  /-- There are at most as many keys as clients admitted recently. -/
  size : (Keyspace.liveKeys db now).length ≤ (rememberedQuotas now tr).length

/-! ## The invariant -/

/-- **The invariant**: from `clock` on, every key is backed by an admission, whenever one looks. -/
def KeysBacked (limit : ℤ → ℤ) (clock : ℚ) (db : RedisStore) (tr : SharedTrace) : Prop :=
  ∀ now, clock ≤ now → ∀ key z, Keyspace.read db now key = some z →
    z ≠ [] ∧ ∃ e ∈ tr, Backs limit now e key z

section

variable {limit : ℤ → ℤ} {clock now : ℚ} {db : RedisStore} {tr : SharedTrace}

/-- Time passes, and calls are made that leave the keys alone. -/
theorem KeysBacked.extend (h : KeysBacked limit clock db tr) (hle : clock ≤ now)
    (tr' : SharedTrace) : KeysBacked limit now db (tr ++ tr') := by
  intro later hlater key z hread
  obtain ⟨hne, e, he, hbacks⟩ := h later (le_trans hle hlater) key z hread
  exact ⟨hne, e, List.mem_append_left tr' he, hbacks⟩

/-- Pruning shortens a set, and drops a key it leaves empty. -/
theorem KeysBacked.prune (h : KeysBacked limit clock db tr) (hle : clock ≤ now) (key : PyStr)
    (max : ℚ) : KeysBacked limit now (zremrangebyscore db now key max) tr := by
  intro later hlater key' z hread
  by_cases hkey : key' = key
  · subst hkey
    rw [zremrangebyscore, Keyspace.read_alter_self hlater _ rfl, Option.bind_eq_some_iff] at hread
    obtain ⟨z', hread', hz⟩ := hread
    rw [Option.map_some, Option.filter_eq_some_iff, Option.some.injEq] at hz
    obtain ⟨rfl, hne⟩ := hz
    obtain ⟨-, e, he, hbacks⟩ := h later (le_trans hle hlater) key' z' hread'
    refine ⟨by simpa using hne, e, he, hbacks.admitted, hbacks.key_eq, hbacks.recent, ?_⟩
    have hlength : (z'.filter fun e => decide (max < e.2)).length ≤ z'.length :=
      List.length_filter_le _ _
    have hatMost := hbacks.atMost
    omega
  · rw [zremrangebyscore, Keyspace.read_alter_ne hkey] at hread
    exact h later (le_trans hle hlater) key' z hread

/-- `ZADD` makes a set longer by one at most, and never empty. -/
theorem SortedSet.length_add (z : SortedSet) (member : PyStr) (score : ℚ) :
    z.add member score ≠ [] ∧ (z.add member score).length ≤ z.length + 1 := by
  have hlength : (z.add member score).length = (z.filter fun e => e.1 ≠ member).length + 1 :=
    List.orderedInsert_length _ _ _
  refine ⟨?_, ?_⟩
  · intro hnil
    rw [hnil] at hlength
    simp at hlength
  · rw [hlength]
    exact Nat.succ_le_succ (List.length_filter_le _ _)

/-- Recording an admission backs its key until the deadline of the call. -/
theorem KeysBacked.record (h : KeysBacked limit now db tr) {cfg : Config} {clientId member : PyStr}
    (hlimit : cfg.requestsPerWindow ≤ limit cfg.windowSeconds)
    (hroom : ((db.zset now (redisKey cfg clientId)).length : ℤ) < cfg.requestsPerWindow) :
    KeysBacked limit now
      (expire (zadd db now (redisKey cfg clientId) member now) now (redisKey cfg clientId)
        (cfg.windowSeconds + 1))
      (tr ++ [(⟨cfg, ⟨clientId, now, .isAllowed member⟩⟩, .allowed true)]) := by
  intro later hlater key z hread
  by_cases hkey : key = redisKey cfg clientId
  · have hadded : Keyspace.read (zadd db now (redisKey cfg clientId) member now) now
        (redisKey cfg clientId)
          = some ((db.zset now (redisKey cfg clientId)).add member now) :=
      Keyspace.read_alter_self_now _ rfl
    rw [hkey, expire, Keyspace.read_expireAt_self hadded] at hread
    split at hread
    case isFalse => cases hread
    case isTrue hdeadline =>
      obtain rfl := Option.some.inj hread
      obtain ⟨hne, hlength⟩ :=
        SortedSet.length_add (db.zset now (redisKey cfg clientId)) member now
      refine ⟨hne, _, List.mem_append_right tr (List.mem_singleton.mpr rfl), rfl, hkey, hdeadline,
        ?_⟩
      simp only
      omega
  · rw [expire, Keyspace.read_expireAt_ne hkey, zadd, Keyspace.read_alter_ne hkey] at hread
    obtain ⟨hne, e, he, hbacks⟩ := h later hlater key z hread
    exact ⟨hne, e, List.mem_append_left _ he, hbacks⟩

/-- **One call of any limiter** leaves every key backed. -/
theorem KeysBacked.step (h : KeysBacked limit clock db tr) {c : LimiterCall}
    (hle : clock ≤ c.call.time)
    (hlimit : c.limiter.requestsPerWindow ≤ limit c.limiter.windowSeconds) :
    KeysBacked limit c.call.time (sharedStep db c).1 (tr ++ [(c, (sharedStep db c).2)]) := by
  obtain ⟨cfg, clientId, now, op⟩ := c
  have hpruned := h.prune hle (redisKey cfg clientId) (now - cfg.window)
  cases op with
  | getRetryAfter =>
    simp only [sharedStep, redisStep, getRetryAfterRedis, hostedGetRetryAfterRedis]
    split <;> exact hpruned.extend le_rfl _
  | isAllowed member =>
    simp only [sharedStep, redisStep, isAllowedRedis, hostedIsAllowedRedis]
    split
    case isTrue => exact hpruned.extend le_rfl _
    case isFalse hroom => exact hpruned.record hlimit (not_le.mp hroom)

/-- Keys that are backed are no more than the clients that back them. -/
theorem KeysBacked.boundedKeys (h : KeysBacked limit clock db tr) (hle : clock ≤ now) :
    BoundedKeys limit now db tr := by
  refine ⟨h now hle, ?_⟩
  have hquotas : ∀ key z, Keyspace.read db now key = some z →
      key ∈ (rememberedQuotas now tr).map quotaKey := by
    intro key z hread
    obtain ⟨-, e, he, hbacks⟩ := h now hle key z hread
    rw [List.mem_map]
    refine ⟨e.1.quota, ?_, hbacks.key_eq.symm⟩
    rw [rememberedQuotas, List.mem_dedup, List.mem_map]
    refine ⟨e, ?_, rfl⟩
    rw [List.mem_filter, decide_eq_true_eq]
    exact ⟨he, hbacks.admitted, hbacks.recent⟩
  have hlength := Keyspace.length_liveKeys_le hquotas
  rwa [List.length_map] at hlength

end

/-! ## Whole runs -/

/-- **The server is bounded by recent traffic**: after every run of any limiters on it at
nondecreasing times, and whenever one looks from then on. -/
theorem redis_keys_recent {t now : ℚ} {calls : List LimiterCall}
    (hclock : Machine.Nondecreasing (fun c : LimiterCall => c.call.time) (fun c => c.call.time) t
      calls)
    (hnow : Machine.lastReading (fun c : LimiterCall => c.call.time) t calls ≤ now)
    {limit : ℤ → ℤ}
    (hlimit : ∀ c ∈ calls, c.limiter.requestsPerWindow ≤ limit c.limiter.windowSeconds) :
    BoundedKeys limit now (Machine.final sharedStep ∅ calls)
      (Machine.trace sharedStep ∅ calls) := by
  have hguard : Machine.AllSteps sharedStep (fun _ _ c =>
      c.limiter.requestsPerWindow ≤ limit c.limiter.windowSeconds) ∅ calls := by
    rw [Machine.allSteps_iff]
    rintro pre c post rfl
    exact hlimit c (by simp)
  have hinit : KeysBacked limit t ∅ [] := by
    intro now _ key z hread
    cases hread
  have hrun := Machine.trace_induction sharedStep (fun c => c.call.time) (fun c => c.call.time)
    (KeysBacked limit) (fun t db tr c hinv ht hroom => hinv.step ht hroom) hinit hclock hguard
  exact hrun.boundedKeys hnow

/-- At second 20 the keys of the short windows are gone, and the key of the long one is left. -/
theorem redis_keys_recent_threeEndpoints :
    let db := Machine.final sharedStep ∅ threeEndpoints
    BoundedKeys (fun _ => 2) 20 db (Machine.trace sharedStep ∅ threeEndpoints) ∧
      Keyspace.liveKeys db 20 = [redisKey ⟨1, 60⟩ (PyStr.ofString "a")] := by
  refine ⟨redis_keys_recent (t := 0) ?_ ?_ (by decide), by decide +kernel⟩
  · norm_num [threeEndpoints, Machine.Nondecreasing]
  · norm_num [threeEndpoints, Machine.lastReading]

end McpAuthflow.RateLimiting
