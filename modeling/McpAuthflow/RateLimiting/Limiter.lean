import McpAuthflow.Foundations.Keyspace
import McpAuthflow.Foundations.Machine
import McpAuthflow.Foundations.Numbers
import McpAuthflow.Foundations.Text
import Mathlib.Data.List.Lex
import Mathlib.Data.List.Sort
import Mathlib.Algebra.Order.Field.Rat
import Mathlib.Order.Fin.Basic

/-! # `SlidingWindowRateLimiter` (`mcp_authflow/rate_limiting.py`)

The limiter keeps, per client, the times of the requests it admitted. Without Redis they are lists
in a dict, pruned when the client calls and swept once per window (`isAllowedMemory`,
`sweepExpired`); with Redis they are the scores of a sorted set under a key that expires
(`isAllowedRedis`). Both backends are driven as machines by the same calls: `memoryStep` and
`redisStep`. -/

namespace McpAuthflow.RateLimiting

/-- The constructor arguments of the limiter. -/
structure Config where
  /-- Maximum number of requests allowed in the window. -/
  requestsPerWindow : ℤ
  /-- Size of the time window in seconds. -/
  windowSeconds : ℤ

/-- The window length as a duration. -/
def Config.window (cfg : Config) : ℚ := cfg.windowSeconds

/-! ## In-memory backend -/

/-- The mutable fields of a limiter without Redis: `_clients` and `_last_sweep`. -/
structure MemoryLimiter where
  clients : Dict PyStr (List ℚ)
  lastSweep : ℚ

/-- A limiter as `__init__` leaves it. -/
def MemoryLimiter.init : MemoryLimiter := ⟨∅, 0⟩

/-- The recorded times of a client, `[]` for an unknown one (`defaultdict(list)`). -/
def MemoryLimiter.timestamps (s : MemoryLimiter) (clientId : PyStr) : List ℚ :=
  (s.clients.lookup clientId).getD []

/-- Whether the sweep drops a key: it has no times or its newest is before the cutoff. -/
def stale (cutoff : ℚ) (timestamps : List ℚ) : Bool :=
  match timestamps.max? with
  | none => true
  | some newest => decide (newest < cutoff)

/-- `_sweep_expired`: drop the keys whose requests all aged out, at most once per window. -/
def sweepExpired (cfg : Config) (now : ℚ) (s : MemoryLimiter) : MemoryLimiter :=
  if now - s.lastSweep < cfg.window then s
  else
    { lastSweep := now
      clients := s.clients.filter fun _ timestamps => !stale (now - cfg.window) timestamps }

/-- `_is_allowed_memory`. -/
def isAllowedMemory (cfg : Config) (clientId : PyStr) (now : ℚ) (s : MemoryLimiter) :
    MemoryLimiter × Bool :=
  let s := sweepExpired cfg now s
  let timestamps := (s.timestamps clientId).filter fun t => now - t < cfg.window
  if (timestamps.length : ℤ) ≥ cfg.requestsPerWindow then
    ({ s with clients := s.clients.insert clientId timestamps }, false)
  else
    ({ s with clients := s.clients.insert clientId (timestamps ++ [now]) }, true)

/-- The seconds until the oldest request leaves the window, rounded as both backends round them. -/
def retryAfterOldest (cfg : Config) (now oldest : ℚ) : ℤ :=
  max (pyInt (cfg.window - (now - oldest)) + 1) 1

/-- `_get_retry_after_memory`: it reads the recorded times without pruning them. -/
def getRetryAfterMemory (cfg : Config) (clientId : PyStr) (now : ℚ) (s : MemoryLimiter) : ℤ :=
  match (s.timestamps clientId).min? with
  | none => 0
  | some oldest => retryAfterOldest cfg now oldest

/-! ## Redis backend -/

/-- A sorted set: members with their scores, in ascending order of score, then member. -/
abbrev SortedSet := List (PyStr × ℚ)

/-- The rank order of a sorted set. -/
def SortedSet.before (a b : PyStr × ℚ) : Prop := a.2 < b.2 ∨ (a.2 = b.2 ∧ a.1 ≤ b.1)

instance : DecidableRel SortedSet.before := fun _ _ => inferInstanceAs (Decidable (_ ∨ _))

/-- `ZADD`: give the member its score and its rank. -/
def SortedSet.add (z : SortedSet) (member : PyStr) (score : ℚ) : SortedSet :=
  (z.filter fun e => e.1 ≠ member).orderedInsert SortedSet.before (member, score)

/-- The scores of a sorted set. -/
def SortedSet.scores (z : SortedSet) : List ℚ := z.map Prod.snd

/-- The keyspace of the Redis server, as far as the limiter uses it. -/
abbrev RedisStore := Keyspace ℚ PyStr SortedSet

/-- The sorted set at a key, empty when the key does not exist. -/
def RedisStore.zset (db : RedisStore) (now : ℚ) (key : PyStr) : SortedSet :=
  (Keyspace.read db now key).getD []

/-- `ZREMRANGEBYSCORE key -inf max`: drop the members scored up to `max`, and a key left empty. -/
def zremrangebyscore (db : RedisStore) (now : ℚ) (key : PyStr) (max : ℚ) : RedisStore :=
  Keyspace.alter db now key fun z =>
    (z.map fun z => z.filter fun e => max < e.2).filter fun z => !z.isEmpty

/-- `ZADD key {member: score}`. -/
def zadd (db : RedisStore) (now : ℚ) (key member : PyStr) (score : ℚ) : RedisStore :=
  Keyspace.alter db now key fun z => some (SortedSet.add (z.getD []) member score)

/-- `EXPIRE key seconds`. -/
def expire (db : RedisStore) (now : ℚ) (key : PyStr) (seconds : ℤ) : RedisStore :=
  Keyspace.expireAt db now key (now + seconds)

/-- `_redis_key`: `mcp_auth:ratelimit:<client_id>:<window_seconds>`. -/
def redisKey (cfg : Config) (clientId : PyStr) : PyStr :=
  PyStr.ofString "mcp_auth:ratelimit:" ++ clientId
    ++ (PyStr.ofString ":" ++ PyStr.ofInt cfg.windowSeconds)

/-- `_is_allowed_redis` on a host whose clock shows `reading` while the server's, by which its
commands are executed, shows `now`. `member` is the name `f"{reading}:{secrets.token_hex(4)}"` an
admission is recorded under. -/
def hostedIsAllowedRedis (cfg : Config) (clientId member : PyStr) (reading now : ℚ)
    (db : RedisStore) : RedisStore × Bool :=
  let key := redisKey cfg clientId
  let db := zremrangebyscore db now key (reading - cfg.window)
  let count := (db.zset now key).length
  if (count : ℤ) ≥ cfg.requestsPerWindow then (db, false)
  else
    let db := zadd db now key member reading
    -- the set outlives its newest entry by a second
    (expire db now key (cfg.windowSeconds + 1), true)

/-- `_is_allowed_redis` with one clock for the host and the server. -/
def isAllowedRedis (cfg : Config) (clientId member : PyStr) (now : ℚ) (db : RedisStore) :
    RedisStore × Bool :=
  hostedIsAllowedRedis cfg clientId member now now db

/-- `_get_retry_after_redis` on a host whose clock shows `reading`: prune, then read the entry of
the lowest rank. -/
def hostedGetRetryAfterRedis (cfg : Config) (clientId : PyStr) (reading now : ℚ)
    (db : RedisStore) : RedisStore × ℤ :=
  let key := redisKey cfg clientId
  let db := zremrangebyscore db now key (reading - cfg.window)
  match (db.zset now key).head? with
  | none => (db, 0)
  | some oldest => (db, retryAfterOldest cfg reading oldest.2)

/-- `_get_retry_after_redis` with one clock for the host and the server. -/
def getRetryAfterRedis (cfg : Config) (clientId : PyStr) (now : ℚ) (db : RedisStore) :
    RedisStore × ℤ :=
  hostedGetRetryAfterRedis cfg clientId now now db

/-! ## The limiter as a machine -/

/-- The two public methods; an `is_allowed` call carries the member name it would record. -/
inductive Op where
  | isAllowed (member : PyStr)
  | getRetryAfter

/-- One call of a public method by a client at a clock reading. -/
structure Call where
  clientId : PyStr
  time : ℚ
  op : Op

/-- The member name an `is_allowed` call would record. -/
def Call.member? (c : Call) : Option PyStr :=
  match c.op with
  | .isAllowed member => some member
  | .getRetryAfter => none

/-- What a call returns. -/
inductive Reply where
  | allowed (b : Bool)
  | retryAfter (seconds : ℤ)
  deriving DecidableEq

/-- The admission decision a reply carries. -/
def Reply.decision? : Reply → Option Bool
  | .allowed b => some b
  | .retryAfter _ => none

/-- A public call on the in-memory backend. -/
def memoryStep (cfg : Config) (s : MemoryLimiter) (c : Call) : MemoryLimiter × Reply :=
  match c.op with
  | .isAllowed _ =>
    let (s, b) := isAllowedMemory cfg c.clientId c.time s
    (s, .allowed b)
  | .getRetryAfter => (s, .retryAfter (getRetryAfterMemory cfg c.clientId c.time s))

/-- A public call on the Redis backend. -/
def redisStep (cfg : Config) (db : RedisStore) (c : Call) : RedisStore × Reply :=
  match c.op with
  | .isAllowed member =>
    let (db, b) := isAllowedRedis cfg c.clientId member c.time db
    (db, .allowed b)
  | .getRetryAfter =>
    let (db, seconds) := getRetryAfterRedis cfg c.clientId c.time db
    (db, .retryAfter seconds)

/-! ## One lemma per operation -/

/-- Distinct clients of one limiter have distinct Redis keys. -/
theorem redisKey_injective (cfg : Config) : Function.Injective (redisKey cfg) := by
  intro c d h
  exact List.append_cancel_left (List.append_cancel_right h)

/-- A stale key has only times before the cutoff. -/
theorem lt_cutoff_of_stale {cutoff t : ℚ} {timestamps : List ℚ} (h : stale cutoff timestamps = true)
    (ht : t ∈ timestamps) : t < cutoff := by
  unfold stale at h
  cases hmax : timestamps.max? with
  | none => simp [List.max?_eq_none_iff.mp hmax] at ht
  | some newest =>
    rw [hmax] at h
    have hle : t ≤ newest := (List.max?_eq_some_iff.mp hmax).2 t ht
    exact lt_of_le_of_lt hle (of_decide_eq_true h)

/-- What the sweep leaves of a client: its times, or nothing if they were all before the cutoff. -/
theorem timestamps_sweepExpired (cfg : Config) (now : ℚ) (s : MemoryLimiter) (clientId : PyStr) :
    (sweepExpired cfg now s).timestamps clientId = s.timestamps clientId ∨
      ((sweepExpired cfg now s).timestamps clientId = [] ∧
        ∀ t ∈ s.timestamps clientId, t < now - cfg.window) := by
  unfold sweepExpired
  split
  case isTrue => exact Or.inl rfl
  case isFalse =>
    simp only [MemoryLimiter.timestamps, AList.lookup_filter]
    cases hc : s.clients.lookup clientId with
    | none => exact Or.inl rfl
    | some timestamps =>
      cases hst : stale (now - cfg.window) timestamps with
      | false => exact Or.inl (by simp [Option.filter, hst])
      | true =>
        refine Or.inr ⟨by simp [Option.filter, hst], ?_⟩
        intro t ht
        exact lt_cutoff_of_stale hst ht

/-- A new member joins a sorted set; the order of the scores aside, nothing else changes. -/
theorem SortedSet.perm_add {z : SortedSet} {member : PyStr} (h : ∀ e ∈ z, e.1 ≠ member)
    (score : ℚ) :
    (z.add member score).Perm ((member, score) :: z) := by
  have hz : (z.filter fun e => e.1 ≠ member) = z := List.filter_eq_self.mpr (by simpa using h)
  rw [SortedSet.add, hz]
  exact List.perm_orderedInsert _ _ _

/-- Pruning by score is pruning the scores. -/
theorem SortedSet.scores_filter (z : SortedSet) (max : ℚ) :
    SortedSet.scores (z.filter fun e => max < e.2) = z.scores.filter fun a => max < a := by
  rw [SortedSet.scores, SortedSet.scores, List.filter_map]
  rfl

/-- Pruning a sorted set, seen now or later. -/
theorem zset_zremrangebyscore_self {now later : ℚ} (hle : now ≤ later) (db : RedisStore)
    (key : PyStr) (max : ℚ) :
    (zremrangebyscore db now key max).zset later key
      = (db.zset later key).filter fun e => max < e.2 := by
  rw [RedisStore.zset, zremrangebyscore, Keyspace.read_alter_self hle key rfl, RedisStore.zset]
  cases Keyspace.read db later key with
  | none => rfl
  | some z =>
    -- a set left empty is dropped, which reads the same
    cases hz : z.filter fun e => decide (max < e.2) with
    | nil => simp [hz, Option.filter]
    | cons e z' => simp [hz, Option.filter]

/-- Pruning leaves the other keys alone. -/
theorem zset_zremrangebyscore_ne {key other : PyStr} (h : other ≠ key) (db : RedisStore)
    (now max later : ℚ) :
    (zremrangebyscore db now key max).zset later other = db.zset later other := by
  rw [RedisStore.zset, zremrangebyscore, Keyspace.read_alter_ne h, RedisStore.zset]

/-- A recorded request is in the set up to the deadline, and the set is gone after it. -/
theorem zset_expire_zadd_self (db : RedisStore) (now later : ℚ) (key member : PyStr)
    (seconds : ℤ) :
    (expire (zadd db now key member now) now key seconds).zset later key
      = if later ≤ now + seconds then (db.zset now key).add member now else [] := by
  have hadd : Keyspace.read (zadd db now key member now) now key
      = some ((db.zset now key).add member now) :=
    Keyspace.read_alter_self_now key rfl
  rw [RedisStore.zset, expire, Keyspace.read_expireAt_self hadd]
  split <;> rfl

/-- Recording a request leaves the other keys alone. -/
theorem zset_expire_zadd_ne {key other : PyStr} (h : other ≠ key) (db : RedisStore)
    (now later : ℚ) (member : PyStr) (score : ℚ) (seconds : ℤ) :
    (expire (zadd db now key member score) now key seconds).zset later other
      = db.zset later other := by
  rw [RedisStore.zset, expire, Keyspace.read_expireAt_ne h, zadd, Keyspace.read_alter_ne h,
    RedisStore.zset]

end McpAuthflow.RateLimiting
