import McpAuthflow.RateLimiting.Refinement
import Mathlib.Algebra.Order.Group.Abs

/-! # Clocks that disagree

`is_allowed` reads `time.time()` on the host of the call. Replicas that share a Redis server read
different clocks, the server expires keys by its own, and the wall clock of a single process may be
set back. Here a call takes place at a moment `time` (with Redis, of the server's clock) and works
with a `reading` that is off by at most `δ`; readings need not be nondecreasing. `hostedRedisStep`
is `redisStep` with the two apart: `hostedRedisStep_self`.

The limit then holds for windows shorter by `2 * δ`, and no call is denied for admissions older than
the window and `2 * δ`: **`skew_tolerated`**, on both backends. The invariant (`Recorded`) bounds
what a backend has kept of a client's admissions from both sides. -/

namespace McpAuthflow.RateLimiting

open SlidingWindow

/-! ## Calls with a reading of their own -/

/-- A call at a moment, with what the clock of its host shows then. -/
structure HostedCall where
  clientId : PyStr
  /-- The moment of the call; with Redis, the server's clock when it executes the commands. -/
  time : ℚ
  /-- What `time.time()` returns. -/
  reading : ℚ
  op : Op

/-- The member name an `is_allowed` call would record. -/
def HostedCall.member? (c : HostedCall) : Option PyStr :=
  match c.op with
  | .isAllowed member => some member
  | .getRetryAfter => none

/-- A public call on the Redis backend. -/
def hostedRedisStep (cfg : Config) (db : RedisStore) (c : HostedCall) : RedisStore × Reply :=
  match c.op with
  | .isAllowed member =>
    let (db, b) := hostedIsAllowedRedis cfg c.clientId member c.reading c.time db
    (db, .allowed b)
  | .getRetryAfter =>
    let (db, seconds) := hostedGetRetryAfterRedis cfg c.clientId c.reading c.time db
    (db, .retryAfter seconds)

/-- A public call on the in-memory backend, which sees the reading alone. -/
def hostedMemoryStep (cfg : Config) (s : MemoryLimiter) (c : HostedCall) : MemoryLimiter × Reply :=
  memoryStep cfg s ⟨c.clientId, c.reading, c.op⟩

/-- Where the clocks agree, the hosted call is the plain one. -/
theorem hostedRedisStep_self (cfg : Config) (db : RedisStore) (clientId : PyStr) (now : ℚ)
    (op : Op) :
    hostedRedisStep cfg db ⟨clientId, now, now, op⟩ = redisStep cfg db ⟨clientId, now, op⟩ :=
  rfl

/-! ## What skewed clocks leave of the window -/

/-- The calls of a run with their replies. -/
abbrev HostedTrace := List (HostedCall × Reply)

/-- The calls of a client that a trace admitted. -/
def admissions (clientId : PyStr) (tr : HostedTrace) : List HostedCall :=
  (tr.filter fun e => e.1.clientId = clientId ∧ e.2.decision? = some true).map Prod.fst

/-- Whether a call was less than `width` ago at the moment `now`. -/
def HostedCall.lessThan (width now : ℚ) (c : HostedCall) : Bool := decide (now - c.time < width)

/-- **The sliding window up to a skew of `δ`.** -/
structure SkewTolerant (cfg : Config) (δ : ℚ) (tr : HostedTrace) : Prop where
  /-- A call is admitted only under the limit, counting the last `window - 2 * δ` seconds. -/
  admitted : ∀ pre call post, tr = pre ++ (call, Reply.allowed true) :: post →
    (((admissions call.clientId pre).countP
      (HostedCall.lessThan (cfg.window - 2 * δ) call.time) : ℕ) : ℤ) < cfg.requestsPerWindow
  /-- A call is denied only at the limit, counting the last `window + 2 * δ` seconds. -/
  denied : ∀ pre call post, tr = pre ++ (call, Reply.allowed false) :: post →
    cfg.requestsPerWindow ≤ (((admissions call.clientId pre).countP
      (HostedCall.lessThan (cfg.window + 2 * δ) call.time) : ℕ) : ℤ)
  /-- No span of `window - 2 * δ` seconds holds more than `requests_per_window` admissions. -/
  bounded : ∀ clientId x, (admissions clientId tr).countP
    (fun c => x ≤ c.time ∧ c.time < x + (cfg.window - 2 * δ)) ≤ cfg.requestsPerWindow.toNat

theorem admissions_append (clientId : PyStr) (tr tr' : HostedTrace) :
    admissions clientId (tr ++ tr') = admissions clientId tr ++ admissions clientId tr' := by
  simp [admissions]

theorem admissions_singleton_of_not {clientId : PyStr} {call : HostedCall} {reply : Reply}
    (h : ¬ (call.clientId = clientId ∧ reply.decision? = some true)) :
    admissions clientId [(call, reply)] = [] := by
  simp [admissions, h]

theorem admissions_singleton_of_admitted {clientId : PyStr} {call : HostedCall}
    (h : call.clientId = clientId) : admissions clientId [(call, .allowed true)] = [call] := by
  simp [admissions, Reply.decision?, h]

/-! ## One call judged by the admissions before it -/

/-- What the reply to a call says about the admissions of its client so far. -/
def Justified (cfg : Config) (δ : ℚ) (tr : HostedTrace) (call : HostedCall) (reply : Reply) :
    Prop :=
  match reply with
  | .allowed true => (((admissions call.clientId tr).countP
      (HostedCall.lessThan (cfg.window - 2 * δ) call.time) : ℕ) : ℤ) < cfg.requestsPerWindow
  | .allowed false => cfg.requestsPerWindow ≤ (((admissions call.clientId tr).countP
      (HostedCall.lessThan (cfg.window + 2 * δ) call.time) : ℕ) : ℤ)
  | .retryAfter _ => True

/-- Every reply of a trace is justified by the part of the trace before it. -/
def AllJustified (cfg : Config) (δ : ℚ) (tr : HostedTrace) : Prop :=
  ∀ pre call reply post, tr = pre ++ (call, reply) :: post → Justified cfg δ pre call reply

theorem allJustified_nil (cfg : Config) (δ : ℚ) : AllJustified cfg δ [] := by
  intro pre call reply post h
  simp at h

theorem AllJustified.concat {cfg : Config} {δ : ℚ} {tr : HostedTrace} {call : HostedCall}
    {reply : Reply} (h : AllJustified cfg δ tr) (hlast : Justified cfg δ tr call reply) :
    AllJustified cfg δ (tr ++ [(call, reply)]) := by
  intro pre call' reply' post heq
  rcases List.concat_split heq with ⟨rfl, he, -⟩ | ⟨post', -, hsplit⟩
  · obtain ⟨rfl, rfl⟩ : call' = call ∧ reply' = reply := by simpa using he
    exact hlast
  · exact h pre call' reply' post' hsplit

/-- The admissions of a client were each made under the limit. -/
theorem AllJustified.admittedUnder {cfg : Config} {δ : ℚ} {tr : HostedTrace}
    (h : AllJustified cfg δ tr) (clientId : PyStr) :
    AdmittedUnder (cfg.window - 2 * δ) cfg.requestsPerWindow.toNat
      ((admissions clientId tr).map HostedCall.time) := by
  induction tr using List.reverseRecOn with
  | nil =>
    intro pre a post heq
    simp [admissions] at heq
  | append_singleton tr e ih =>
    obtain ⟨call, reply⟩ := e
    have hpre := ih fun pre c r post heq => h pre c r (post ++ [(call, reply)]) (by simp [heq])
    rw [admissions_append]
    by_cases hadm : call.clientId = clientId ∧ reply.decision? = some true
    · obtain ⟨rfl, hr⟩ := hadm
      obtain rfl : reply = .allowed true := by
        cases reply with
        | allowed b => simpa [Reply.decision?] using hr
        | retryAfter seconds => simp [Reply.decision?] at hr
      rw [admissions_singleton_of_admitted rfl, List.map_append]
      apply hpre.concat
      have hlt := h tr call (.allowed true) [] rfl
      have hcount : (live (cfg.window - 2 * δ) call.time
            ((admissions call.clientId tr).map HostedCall.time)).length
          = (admissions call.clientId tr).countP
            (HostedCall.lessThan (cfg.window - 2 * δ) call.time) := by
        rw [live, ← List.countP_eq_length_filter, List.countP_map]
        rfl
      simp only [Justified] at hlt
      rw [hcount]
      omega
    · rw [admissions_singleton_of_not hadm, List.append_nil]
      exact hpre

/-- A trace of justified replies keeps to the window up to the skew. -/
theorem AllJustified.skewTolerant {cfg : Config} {δ : ℚ} {tr : HostedTrace}
    (h : AllJustified cfg δ tr) : SkewTolerant cfg δ tr := by
  refine ⟨fun pre call post heq => h pre call _ post heq,
    fun pre call post heq => h pre call _ post heq, ?_⟩
  intro clientId x
  have hcount := countP_Ico_le (h.admittedUnder clientId) x
  rw [List.countP_map] at hcount
  exact hcount

/-! ## What a backend has recorded -/

/-- The clock of the call's host is off by at most `δ`. -/
def HostedCall.Within (δ : ℚ) (c : HostedCall) : Prop := |c.reading - c.time| ≤ δ

/-- The recorded `scores` are readings of admissions `as`, and none of the last `window - 2 * δ`
seconds before `t` is missing. -/
def Recorded (cfg : Config) (δ t : ℚ) (as : List HostedCall) (scores : List ℚ) : Prop :=
  ∃ kept, scores.Perm (kept.map HostedCall.reading) ∧
    Keeps (HostedCall.lessThan (cfg.window - 2 * δ) t) as kept

/-- A call that is less than `width` ago later is so now. -/
theorem HostedCall.lessThan_of_le {width now later : ℚ} (hle : now ≤ later) (c : HostedCall)
    (h : c.lessThan width later = true) : c.lessThan width now = true := by
  simp only [lessThan, decide_eq_true_eq] at h ⊢
  linarith

/-- Nothing is recorded where nothing has to be. -/
theorem recorded_nil {cfg : Config} {δ t : ℚ} {as : List HostedCall}
    (h : ∀ a ∈ as, a.lessThan (cfg.window - 2 * δ) t = false) : Recorded cfg δ t as [] :=
  ⟨[], List.Perm.refl _, keeps_nil h⟩

theorem Recorded.perm {cfg : Config} {δ t : ℚ} {as : List HostedCall} {scores scores' : List ℚ}
    (h : Recorded cfg δ t as scores) (hperm : scores'.Perm scores) :
    Recorded cfg δ t as scores' := by
  obtain ⟨kept, hkept, hkeeps⟩ := h
  exact ⟨kept, hperm.trans hkept, hkeeps⟩

theorem Recorded.of_le {cfg : Config} {δ t later : ℚ} {as : List HostedCall} {scores : List ℚ}
    (h : Recorded cfg δ t as scores) (hle : t ≤ later) : Recorded cfg δ later as scores := by
  obtain ⟨kept, hkept, hkeeps⟩ := h
  exact ⟨kept, hkept, hkeeps.mono (HostedCall.lessThan_of_le hle)⟩

/-- **Pruning by a skewed reading** takes away nothing of the shortened window: the reading and the
score are each off by at most `δ`. -/
theorem Recorded.prune {cfg : Config} {δ now later : ℚ} {as : List HostedCall} {scores : List ℚ}
    (h : Recorded cfg δ later as scores) (hle : now ≤ later) (has : ∀ a ∈ as, a.Within δ)
    {reading : ℚ} (hreading : |reading - now| ≤ δ) {p : ℚ → Bool}
    (hp : ∀ x ∈ scores, reading - x < cfg.window → p x = true) :
    Recorded cfg δ later as (scores.filter p) := by
  obtain ⟨kept, hkept, hkeeps⟩ := h
  refine ⟨kept.filter (p ∘ HostedCall.reading), ?_, ?_⟩
  · rw [← List.filter_map]
    exact hkept.filter p
  · refine hkeeps.filter (fun _ ha => ha) ?_
    intro a ha hrecent
    apply hp
    · exact hkept.mem_iff.mpr (List.mem_map_of_mem ha)
    · have hskew := has a (hkeeps.sublist.mem ha)
      simp only [HostedCall.lessThan, decide_eq_true_eq] at hrecent
      rw [HostedCall.Within, abs_sub_le_iff] at hskew
      rw [abs_sub_le_iff] at hreading
      linarith [hskew.2, hreading.1]

/-- A pruned record counts no fewer than the admissions of the shortened window, and no more than
those of the widened one. -/
theorem Recorded.length_bounds {cfg : Config} {δ now : ℚ} {as : List HostedCall}
    {scores : List ℚ} (h : Recorded cfg δ now as scores) (has : ∀ a ∈ as, a.Within δ)
    {reading : ℚ} (hreading : |reading - now| ≤ δ)
    (hpruned : ∀ x ∈ scores, reading - x < cfg.window) :
    as.countP (HostedCall.lessThan (cfg.window - 2 * δ) now) ≤ scores.length ∧
      scores.length ≤ as.countP (HostedCall.lessThan (cfg.window + 2 * δ) now) := by
  obtain ⟨kept, hkept, hkeeps⟩ := h
  rw [hkept.length_eq, List.length_map]
  refine ⟨hkeeps.countP_le_length, hkeeps.length_le_countP ?_⟩
  intro a ha
  have hskew := has a (hkeeps.sublist.mem ha)
  have hlt := hpruned a.reading (hkept.mem_iff.mpr (List.mem_map_of_mem ha))
  rw [HostedCall.Within, abs_sub_le_iff] at hskew
  rw [abs_sub_le_iff] at hreading
  simp only [HostedCall.lessThan, decide_eq_true_eq]
  linarith [hskew.1, hreading.2]

/-- An admission is recorded by its reading. -/
theorem Recorded.concat {cfg : Config} {δ t : ℚ} {as : List HostedCall} {scores : List ℚ}
    (h : Recorded cfg δ t as scores) (call : HostedCall) :
    Recorded cfg δ t (as ++ [call]) (scores ++ [call.reading]) := by
  obtain ⟨kept, hkept, hkeeps⟩ := h
  refine ⟨kept ++ [call], ?_, hkeeps.concat call⟩
  rw [List.map_append]
  exact hkept.append_right _

/-- The admissions of a run so far: none lies ahead of `t`, and each was made by a clock off by at
most `δ`. -/
def PastWithin (δ t : ℚ) (tr : HostedTrace) : Prop :=
  ∀ clientId, ∀ a ∈ admissions clientId tr, a.time ≤ t ∧ a.Within δ

theorem PastWithin.concat {δ t : ℚ} {tr : HostedTrace} {call : HostedCall} {reply : Reply}
    (h : PastWithin δ t tr) (ht : t ≤ call.time) (hskew : call.Within δ) :
    PastWithin δ call.time (tr ++ [(call, reply)]) := by
  intro clientId a ha
  rw [admissions_append] at ha
  rcases List.mem_append.mp ha with ha | ha
  · exact ⟨le_trans (h clientId a ha).1 ht, (h clientId a ha).2⟩
  · simp only [admissions, List.mem_map, List.mem_filter, List.mem_singleton] at ha
    obtain ⟨e, ⟨rfl, -⟩, rfl⟩ := ha
    exact ⟨le_rfl, hskew⟩

/-! ## The in-memory backend -/

/-- The recorded times of each client, as of `t`. -/
structure MemoryLimiter.Records (cfg : Config) (δ t : ℚ) (s : MemoryLimiter) (tr : HostedTrace) :
    Prop where
  past : PastWithin δ t tr
  times : ∀ clientId, Recorded cfg δ t (admissions clientId tr) (s.timestamps clientId)

/-- The sweep by a skewed reading drops nothing of the shortened window. -/
theorem MemoryLimiter.Records.sweep {cfg : Config} {δ t now reading : ℚ} {s : MemoryLimiter}
    {tr : HostedTrace} (h : s.Records cfg δ t tr) (ht : t ≤ now)
    (hreading : |reading - now| ≤ δ) (clientId : PyStr) :
    Recorded cfg δ now (admissions clientId tr)
      ((sweepExpired cfg reading s).timestamps clientId) := by
  have hold := (h.times clientId).of_le ht
  rcases timestamps_sweepExpired cfg reading s clientId with heq | ⟨heq, hstale⟩
  · rw [heq]
    exact hold
  · have hnone : (s.timestamps clientId).filter (fun _ => false) = [] := by simp
    rw [heq, ← hnone]
    refine hold.prune le_rfl (fun a ha => (h.past clientId a ha).2) hreading ?_
    -- a swept time is out of the window by the reading of the sweep
    intro x hx hlive
    have hlt := hstale x hx
    linarith

/-- The times of the window that `is_allowed` counts. -/
def countedMemory (cfg : Config) (clientId : PyStr) (now : ℚ) (s : MemoryLimiter) : List ℚ :=
  ((sweepExpired cfg now s).timestamps clientId).filter fun t => now - t < cfg.window

theorem lt_window_of_mem_countedMemory {cfg : Config} {clientId : PyStr} {now x : ℚ}
    {s : MemoryLimiter} (h : x ∈ countedMemory cfg clientId now s) : now - x < cfg.window := by
  simpa using (List.mem_filter.mp h).2

/-- What `is_allowed` decides, and what it leaves of each client. -/
theorem isAllowedMemory_spec (cfg : Config) (clientId : PyStr) (now : ℚ) (s : MemoryLimiter) :
    (isAllowedMemory cfg clientId now s).2
        = decide (((countedMemory cfg clientId now s).length : ℤ) < cfg.requestsPerWindow) ∧
      ∀ other, (isAllowedMemory cfg clientId now s).1.timestamps other =
        if other = clientId then
          if ((countedMemory cfg clientId now s).length : ℤ) < cfg.requestsPerWindow then
            countedMemory cfg clientId now s ++ [now]
          else countedMemory cfg clientId now s
        else (sweepExpired cfg now s).timestamps other := by
  unfold isAllowedMemory
  simp only
  rw [← countedMemory]
  by_cases hroom : ((countedMemory cfg clientId now s).length : ℤ) < cfg.requestsPerWindow
  · rw [if_neg (not_le.mpr hroom), if_pos hroom]
    refine ⟨(decide_eq_true hroom).symm, fun other => ?_⟩
    split
    case isTrue heq => rw [heq, MemoryLimiter.timestamps_insert_self]
    case isFalse hne => exact MemoryLimiter.timestamps_insert_ne hne _
  · rw [if_pos (not_lt.mp hroom), if_neg hroom]
    refine ⟨(decide_eq_false hroom).symm, fun other => ?_⟩
    split
    case isTrue heq => rw [heq, MemoryLimiter.timestamps_insert_self]
    case isFalse hne => exact MemoryLimiter.timestamps_insert_ne hne _

/-- A reply to a client that has the given number of recorded scores in the window. -/
theorem justified_of_bounds {cfg : Config} {δ : ℚ} {tr : HostedTrace} {call : HostedCall}
    {count : ℕ}
    (h : (admissions call.clientId tr).countP
          (HostedCall.lessThan (cfg.window - 2 * δ) call.time) ≤ count ∧
      count ≤ (admissions call.clientId tr).countP
          (HostedCall.lessThan (cfg.window + 2 * δ) call.time)) :
    Justified cfg δ tr call (.allowed (decide ((count : ℤ) < cfg.requestsPerWindow))) := by
  by_cases hroom : (count : ℤ) < cfg.requestsPerWindow
  · rw [decide_eq_true hroom]
    exact lt_of_le_of_lt (by exact_mod_cast h.1) hroom
  · rw [decide_eq_false hroom]
    exact le_trans (not_lt.mp hroom) (by exact_mod_cast h.2)

/-- **One in-memory call** is justified and keeps the record. -/
theorem hostedMemoryStep_records {cfg : Config} {δ t : ℚ} {s : MemoryLimiter} {tr : HostedTrace}
    {call : HostedCall} (h : s.Records cfg δ t tr) (ht : t ≤ call.time) (hskew : call.Within δ) :
    Justified cfg δ tr call (hostedMemoryStep cfg s call).2 ∧
      MemoryLimiter.Records cfg δ call.time (hostedMemoryStep cfg s call).1
        (tr ++ [(call, (hostedMemoryStep cfg s call).2)]) := by
  obtain ⟨clientId, now, reading, op⟩ := call
  cases op with
  | getRetryAfter =>
    refine ⟨trivial, h.past.concat ht hskew, fun c => ?_⟩
    rw [admissions_append, admissions_singleton_of_not (fun hadm => by cases hadm.2),
      List.append_nil]
    exact (h.times c).of_le ht
  | isAllowed member =>
    have hswept := h.sweep ht hskew
    have hself : ∀ a ∈ admissions clientId tr, a.Within δ := fun a ha => (h.past clientId a ha).2
    obtain ⟨hdec, htimes⟩ := isAllowedMemory_spec cfg clientId reading s
    have hcounted : Recorded cfg δ now (admissions clientId tr)
        (countedMemory cfg clientId reading s) :=
      (hswept clientId).prune le_rfl hself hskew fun x _ hx => decide_eq_true hx
    have hbounds := hcounted.length_bounds hself hskew fun x hx =>
      lt_window_of_mem_countedMemory hx
    have hreply : (hostedMemoryStep cfg s ⟨clientId, now, reading, .isAllowed member⟩).2
        = .allowed (decide (((countedMemory cfg clientId reading s).length : ℤ)
            < cfg.requestsPerWindow)) := congrArg Reply.allowed hdec
    rw [hreply]
    refine ⟨justified_of_bounds hbounds, h.past.concat ht hskew, fun c => ?_⟩
    show Recorded _ _ _ _ ((isAllowedMemory cfg clientId reading s).1.timestamps c)
    rw [htimes, admissions_append]
    by_cases hc : c = clientId
    · subst hc
      rw [if_pos rfl]
      by_cases hroom : ((countedMemory cfg c reading s).length : ℤ) < cfg.requestsPerWindow
      · have hnew : admissions c [(⟨c, now, reading, .isAllowed member⟩, .allowed true)]
            = [⟨c, now, reading, .isAllowed member⟩] := admissions_singleton_of_admitted rfl
        rw [if_pos hroom, decide_eq_true hroom, hnew]
        exact hcounted.concat _
      · rw [if_neg hroom, decide_eq_false hroom,
          admissions_singleton_of_not (fun hadm => by cases hadm.2), List.append_nil]
        exact hcounted
    · rw [if_neg hc, admissions_singleton_of_not (fun hadm => hc hadm.1.symm), List.append_nil]
      exact hswept c

/-! ## The Redis backend -/

/-- The member names a trace has used. -/
def hostedMembers (tr : HostedTrace) : List PyStr := tr.filterMap fun e => e.1.member?

/-- The sorted set of each client, as any command from `t` on finds it. -/
structure RedisStore.Records (cfg : Config) (δ t : ℚ) (db : RedisStore) (tr : HostedTrace) :
    Prop where
  past : PastWithin δ t tr
  scores : ∀ clientId later, t ≤ later →
    Recorded cfg δ later (admissions clientId tr)
      (db.zset later (redisKey cfg clientId)).scores
  members : ∀ clientId later, t ≤ later →
    ∀ e ∈ db.zset later (redisKey cfg clientId), e.1 ∈ hostedMembers tr

/-- A request recorded with any score is in the set up to the deadline, and the set is gone after
it. -/
theorem zset_expire_zadd_score (db : RedisStore) (now later : ℚ) (key member : PyStr) (score : ℚ)
    (seconds : ℤ) :
    (expire (zadd db now key member score) now key seconds).zset later key
      = if later ≤ now + seconds then (db.zset now key).add member score else [] := by
  have hadd : Keyspace.read (zadd db now key member score) now key
      = some ((db.zset now key).add member score) :=
    Keyspace.read_alter_self_now key rfl
  rw [RedisStore.zset, expire, Keyspace.read_expireAt_self hadd]
  split <;> rfl

/-- Pruning by a skewed reading keeps the record. -/
theorem RedisStore.Records.prune {cfg : Config} {δ t now reading : ℚ} {db : RedisStore}
    {tr : HostedTrace} (h : db.Records cfg δ t tr) (ht : t ≤ now) (hreading : |reading - now| ≤ δ)
    (clientId : PyStr) :
    RedisStore.Records cfg δ now
      (zremrangebyscore db now (redisKey cfg clientId) (reading - cfg.window)) tr := by
  refine ⟨fun c a ha => ⟨le_trans (h.past c a ha).1 ht, (h.past c a ha).2⟩, ?_, ?_⟩
  · intro c later hle
    have hold := h.scores c later (le_trans ht hle)
    by_cases hc : c = clientId
    · subst hc
      rw [zset_zremrangebyscore_self hle, SortedSet.scores_filter]
      refine hold.prune hle (fun a ha => (h.past c a ha).2) hreading ?_
      intro x _ hx
      exact decide_eq_true (sub_lt_comm.mp hx)
    · rw [zset_zremrangebyscore_ne fun heq => hc (redisKey_injective cfg heq)]
      exact hold
  · intro c later hle e he
    apply h.members c later (le_trans ht hle)
    by_cases hc : c = clientId
    · subst hc
      rw [zset_zremrangebyscore_self hle] at he
      exact List.mem_of_mem_filter he
    · rwa [zset_zremrangebyscore_ne fun heq => hc (redisKey_injective cfg heq)] at he

/-- A call that admits nothing leaves the record as it is. -/
theorem RedisStore.Records.skip {cfg : Config} {δ : ℚ} {db : RedisStore} {tr : HostedTrace}
    {call : HostedCall} {reply : Reply} (h : db.Records cfg δ call.time tr)
    (hskew : call.Within δ) (hr : reply.decision? ≠ some true) :
    db.Records cfg δ call.time (tr ++ [(call, reply)]) := by
  have hsame : ∀ c, admissions c (tr ++ [(call, reply)]) = admissions c tr := by
    intro c
    rw [admissions_append, admissions_singleton_of_not (fun hadm => hr hadm.2), List.append_nil]
  refine ⟨h.past.concat le_rfl hskew, ?_, ?_⟩
  · intro c later hle
    rw [hsame]
    exact h.scores c later hle
  · intro c later hle e he
    rw [hostedMembers, List.filterMap_append]
    exact List.mem_append_left _ (h.members c later hle e he)

/-- A fresh member is added to what the set holds. -/
theorem RedisStore.Records.perm_add {cfg : Config} {δ now : ℚ} {db : RedisStore}
    {tr : HostedTrace} {member : PyStr} (h : db.Records cfg δ now tr)
    (hfresh : member ∉ hostedMembers tr) (clientId : PyStr) (score : ℚ) :
    ((db.zset now (redisKey cfg clientId)).add member score).Perm
      ((member, score) :: db.zset now (redisKey cfg clientId)) := by
  refine SortedSet.perm_add ?_ score
  intro e he heq
  exact hfresh (heq ▸ h.members clientId now le_rfl e he)

/-- An admission under a fresh member name is recorded, for as long as it has to be. -/
theorem RedisStore.Records.record {cfg : Config} {δ : ℚ} {db : RedisStore} {tr : HostedTrace}
    {clientId member : PyStr} {now reading : ℚ} (h : db.Records cfg δ now tr)
    (hskew : |reading - now| ≤ δ) (hfresh : member ∉ hostedMembers tr) :
    RedisStore.Records cfg δ now
      (expire (zadd db now (redisKey cfg clientId) member reading) now (redisKey cfg clientId)
        (cfg.windowSeconds + 1))
      (tr ++ [(⟨clientId, now, reading, .isAllowed member⟩, .allowed true)]) := by
  set call : HostedCall := ⟨clientId, now, reading, .isAllowed member⟩ with hcall
  have hpast : PastWithin δ now (tr ++ [(call, .allowed true)]) := h.past.concat le_rfl hskew
  refine ⟨hpast, ?_, ?_⟩
  · intro c later hle
    by_cases hc : c = clientId
    · subst hc
      rw [zset_expire_zadd_score]
      split
      case isTrue =>
        have hnew : admissions c [(call, .allowed true)] = [call] :=
          admissions_singleton_of_admitted rfl
        rw [admissions_append, hnew]
        refine (((h.scores c now le_rfl).of_le hle).concat call).perm ?_
        exact ((h.perm_add hfresh c reading).map Prod.snd).trans
          (List.perm_append_singleton _ _).symm
      case isFalse hexp =>
        -- a set outlives its newest admission by more than the shortened window
        have hδ : 0 ≤ δ := le_trans (abs_nonneg _) hskew
        refine recorded_nil fun a ha => decide_eq_false ?_
        have hle' := (hpast c a ha).1
        push_cast [Config.window] at hexp ⊢
        linarith
    · rw [zset_expire_zadd_ne (fun heq => hc (redisKey_injective cfg heq)), admissions_append,
        admissions_singleton_of_not (fun hadm => hc hadm.1.symm), List.append_nil]
      exact h.scores c later hle
  · intro c later hle e he
    rw [hostedMembers, List.filterMap_append]
    apply List.mem_append.mpr
    by_cases hc : c = clientId
    · subst hc
      rw [zset_expire_zadd_score] at he
      split at he
      case isTrue =>
        rcases List.mem_cons.mp ((h.perm_add hfresh c reading).mem_iff.mp he) with rfl | he
        · exact Or.inr (List.mem_singleton.mpr rfl)
        · exact Or.inl (h.members c now le_rfl e he)
      case isFalse => simp at he
    · rw [zset_expire_zadd_ne (fun heq => hc (redisKey_injective cfg heq))] at he
      exact Or.inl (h.members c later hle e he)

/-- The state `get_retry_after` leaves. -/
theorem hostedGetRetryAfterRedis_fst (cfg : Config) (clientId : PyStr) (reading now : ℚ)
    (db : RedisStore) :
    (hostedGetRetryAfterRedis cfg clientId reading now db).1
      = zremrangebyscore db now (redisKey cfg clientId) (reading - cfg.window) := by
  unfold hostedGetRetryAfterRedis
  simp only
  split <;> rfl

/-- **One Redis call** is justified and keeps the record. -/
theorem hostedRedisStep_records {cfg : Config} {δ t : ℚ} {db : RedisStore} {tr : HostedTrace}
    {call : HostedCall} (h : db.Records cfg δ t tr) (ht : t ≤ call.time) (hskew : call.Within δ)
    (hfresh : ∀ member, call.member? = some member → member ∉ hostedMembers tr) :
    Justified cfg δ tr call (hostedRedisStep cfg db call).2 ∧
      RedisStore.Records cfg δ call.time (hostedRedisStep cfg db call).1
        (tr ++ [(call, (hostedRedisStep cfg db call).2)]) := by
  obtain ⟨clientId, now, reading, op⟩ := call
  have hpruned := h.prune ht hskew clientId
  cases op with
  | getRetryAfter =>
    refine ⟨trivial, ?_⟩
    rw [← hostedGetRetryAfterRedis_fst] at hpruned
    exact hpruned.skip hskew (by simp [hostedRedisStep, Reply.decision?])
  | isAllowed member =>
    unfold hostedRedisStep hostedIsAllowedRedis
    simp only
    set db₁ := zremrangebyscore db now (redisKey cfg clientId) (reading - cfg.window) with hdb₁
    have hself : ∀ a ∈ admissions clientId tr, a.Within δ := fun a ha => (h.past clientId a ha).2
    -- after pruning, every score is in the window by the reading
    have hwindow : ∀ x ∈ (db₁.zset now (redisKey cfg clientId)).scores,
        reading - x < cfg.window := by
      intro x hx
      rw [hdb₁, zset_zremrangebyscore_self le_rfl, SortedSet.scores_filter] at hx
      exact sub_lt_comm.mp (by simpa using (List.mem_filter.mp hx).2)
    have hbounds := (hpruned.scores clientId now le_rfl).length_bounds hself hskew hwindow
    rw [SortedSet.scores, List.length_map] at hbounds
    have hjust : Justified cfg δ tr ⟨clientId, now, reading, .isAllowed member⟩
        (.allowed (decide (((db₁.zset now (redisKey cfg clientId)).length : ℤ)
          < cfg.requestsPerWindow))) := justified_of_bounds hbounds
    by_cases hroom : ((db₁.zset now (redisKey cfg clientId)).length : ℤ) < cfg.requestsPerWindow
    · rw [if_neg (not_le.mpr hroom)]
      rw [decide_eq_true hroom] at hjust
      exact ⟨hjust, hpruned.record hskew (hfresh member rfl)⟩
    · rw [if_pos (not_lt.mp hroom)]
      rw [decide_eq_false hroom] at hjust
      exact ⟨hjust, hpruned.skip hskew (by simp [Reply.decision?])⟩

/-! ## Whole runs -/

theorem memory_skewTolerant (cfg : Config) {δ t : ℚ} {calls : List HostedCall}
    (hclock : Machine.Nondecreasing HostedCall.time HostedCall.time t calls)
    (hskew : ∀ c ∈ calls, c.Within δ) :
    SkewTolerant cfg δ (Machine.trace (hostedMemoryStep cfg) .init calls) := by
  have hinit : MemoryLimiter.Records cfg δ t .init [] :=
    ⟨fun _ a ha => by simp [admissions] at ha, fun _ => recorded_nil (by simp [admissions])⟩
  have hguard : Machine.AllSteps (hostedMemoryStep cfg) (fun _ _ c => c.Within δ) .init calls := by
    rw [Machine.allSteps_iff]
    rintro pre call post rfl
    exact hskew call (by simp)
  have hrun := Machine.trace_induction (hostedMemoryStep cfg) HostedCall.time HostedCall.time
    (fun t s tr => AllJustified cfg δ tr ∧ s.Records cfg δ t tr)
    (fun t s tr call hinv ht hskew => by
      obtain ⟨hjust, hrecords⟩ := hostedMemoryStep_records hinv.2 ht hskew
      exact ⟨hinv.1.concat hjust, hrecords⟩)
    ⟨allJustified_nil cfg δ, hinit⟩ hclock hguard
  exact hrun.1.skewTolerant

theorem redis_skewTolerant (cfg : Config) {δ t : ℚ} {calls : List HostedCall}
    (hclock : Machine.Nondecreasing HostedCall.time HostedCall.time t calls)
    (hskew : ∀ c ∈ calls, c.Within δ) (hmembers : (calls.filterMap HostedCall.member?).Nodup) :
    SkewTolerant cfg δ (Machine.trace (hostedRedisStep cfg) ∅ calls) := by
  have hinit : RedisStore.Records cfg δ t ∅ [] :=
    ⟨fun _ a ha => by simp [admissions] at ha, fun _ _ _ => recorded_nil (by simp [admissions]),
      by simp [RedisStore.zset]⟩
  -- distinct over the run, so each member is new at its call
  have hguard : Machine.AllSteps (hostedRedisStep cfg) (fun _ tr c => c.Within δ ∧
      ∀ member, c.member? = some member → member ∉ hostedMembers tr) ∅ calls := by
    rw [Machine.allSteps_iff]
    rintro pre call post rfl
    refine ⟨hskew call (by simp), fun member hmem hused => ?_⟩
    have hpre : hostedMembers (Machine.trace (hostedRedisStep cfg) ∅ pre)
        = pre.filterMap HostedCall.member? := by
      rw [hostedMembers, ← Function.comp_def HostedCall.member?, ← List.filterMap_map,
        Machine.map_fst_trace]
    rw [hpre] at hused
    rw [List.filterMap_append, List.filterMap_cons_some hmem, List.nodup_append] at hmembers
    exact hmembers.2.2 member hused member List.mem_cons_self rfl
  have hrun := Machine.trace_induction (hostedRedisStep cfg) HostedCall.time HostedCall.time
    (fun t db tr => AllJustified cfg δ tr ∧ RedisStore.Records cfg δ t db tr)
    (fun t db tr call hinv ht hguard => by
      obtain ⟨hjust, hrecords⟩ := hostedRedisStep_records hinv.2 ht hguard.1 hguard.2
      exact ⟨hinv.1.concat hjust, hrecords⟩)
    ⟨allJustified_nil cfg δ, hinit⟩ hclock hguard
  exact hrun.1.skewTolerant

/-- **Both backends tolerate skewed clocks**: on every run of calls at nondecreasing moments whose
readings are off by at most `δ`, each decision is right up to `2 * δ` of window. -/
theorem skew_tolerated (cfg : Config) {δ t : ℚ} {calls : List HostedCall}
    (hclock : Machine.Nondecreasing HostedCall.time HostedCall.time t calls)
    (hskew : ∀ c ∈ calls, c.Within δ) (hmembers : (calls.filterMap HostedCall.member?).Nodup) :
    SkewTolerant cfg δ (Machine.trace (hostedMemoryStep cfg) .init calls) ∧
      SkewTolerant cfg δ (Machine.trace (hostedRedisStep cfg) ∅ calls) :=
  ⟨memory_skewTolerant cfg hclock hskew, redis_skewTolerant cfg hclock hskew hmembers⟩

/-- Two replicas a second apart at a limit of one request in ten seconds: the slow one is called
first, the fast one finds its admission out of the window after eight seconds. -/
def twoReplicas : List HostedCall :=
  [⟨PyStr.ofString "a", 10, 9, .isAllowed (PyStr.ofString "9:x")⟩,
    ⟨PyStr.ofString "a", 17, 18, .isAllowed (PyStr.ofString "18:y")⟩,
    ⟨PyStr.ofString "a", 18, 19, .isAllowed (PyStr.ofString "19:z")⟩]

theorem skew_tolerated_twoReplicas :
    (SkewTolerant ⟨1, 10⟩ 1 (Machine.trace (hostedMemoryStep ⟨1, 10⟩) .init twoReplicas) ∧
      SkewTolerant ⟨1, 10⟩ 1 (Machine.trace (hostedRedisStep ⟨1, 10⟩) ∅ twoReplicas)) ∧
    Machine.outputs (hostedRedisStep ⟨1, 10⟩) ∅ twoReplicas
      = [.allowed true, .allowed false, .allowed true] := by
  refine ⟨skew_tolerated ⟨1, 10⟩ (t := 0) ?_ ?_ ?_, ?_⟩
  · norm_num [twoReplicas, Machine.Nondecreasing]
  · simp only [twoReplicas, List.forall_mem_cons, HostedCall.Within]
    norm_num
  · decide
  · decide +kernel

end McpAuthflow.RateLimiting
