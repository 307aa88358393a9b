import McpAuthflow.RateLimiting.Refinement

/-! # Limiters that share a Redis server

An application builds one limiter for each endpoint and hands all of them the same Redis client.
The key of a client carries the window length, and the window length alone, of its limiter. So the
limiters of one window length share a quota, each with its own limit, and limiters of different
window lengths do not see one another. `sharedStep` lets any limiter make the next call:

* **`limiters_independent`** — leaving out the calls of every other window length changes no
  answer;
* **`limiters_share_window`** — each decision is that of the sliding window over the admissions of
  all the limiters of its window length. -/

namespace McpAuthflow.RateLimiting

open SlidingWindow

/-! ## Runs of several limiters -/

/-- A call of the limiter that was constructed with `limiter`. -/
structure LimiterCall where
  limiter : Config
  call : Call

/-- The member name an `is_allowed` call would record. -/
def LimiterCall.member? (c : LimiterCall) : Option PyStr := c.call.member?

/-- A public call of any limiter on the server. -/
def sharedStep (db : RedisStore) (c : LimiterCall) : RedisStore × Reply :=
  redisStep c.limiter db c.call

/-- The calls of a run with their replies. -/
abbrev SharedTrace := List (LimiterCall × Reply)

/-- Whether a call is one of a limiter whose window is `seconds` long. -/
def LimiterCall.ofWindow (seconds : ℤ) (c : LimiterCall) : Bool := c.limiter.windowSeconds = seconds

/-- The calls of the limiters of one window length, as if they were one limiter. -/
def windowTrace (seconds : ℤ) (tr : SharedTrace) : CallTrace :=
  (tr.filter fun e => e.1.ofWindow seconds).map fun e => (e.1.call, e.2)

/-- **The shared sliding window**: a call is admitted iff fewer than the limit of its limiter were
admitted to its client, by any limiter of the same window length, in the window. -/
def FollowsSharedWindow (tr : SharedTrace) : Prop :=
  ∀ pre c reply post, tr = pre ++ (c, reply) :: post →
    reply.decision? = windowDecision c.limiter (windowTrace c.limiter.windowSeconds pre) c.call

/-! ## Keys -/

/-- **A key tells the window length and the client**, whatever characters the client id has: the
window length follows the last colon. -/
theorem redisKey_inj {cfg cfg' : Config} {clientId clientId' : PyStr}
    (h : redisKey cfg clientId = redisKey cfg' clientId') :
    cfg.windowSeconds = cfg'.windowSeconds ∧ clientId = clientId' := by
  have hcolon : ∀ n : ℤ, CodePoint.ofChar ':' ∉ PyStr.ofInt n := by
    intro n hmem
    rcases PyStr.mem_ofInt hmem with hsign | hdigit
    · exact absurd hsign (by decide)
    · exact absurd hdigit (by decide)
  unfold redisKey at h
  rw [List.append_assoc, List.append_assoc] at h
  have htail := List.append_cancel_left h
  obtain ⟨hclient, hwindow⟩ := List.append_cons_inj_of_not_mem_right (hcolon _) (hcolon _) htail
  exact ⟨PyStr.ofInt_injective hwindow, hclient⟩

/-- The keys of clients at different window lengths differ. -/
theorem redisKey_ne_of_window {cfg cfg' : Config} (h : cfg.windowSeconds ≠ cfg'.windowSeconds)
    (clientId clientId' : PyStr) : redisKey cfg clientId ≠ redisKey cfg' clientId' :=
  fun heq => h (redisKey_inj heq).1

/-! ## A call touches one key -/

theorem zset_congr {db db' : RedisStore} {key : PyStr} (h : db.lookup key = db'.lookup key)
    (now : ℚ) : db.zset now key = db'.zset now key := by
  rw [RedisStore.zset, RedisStore.zset, Keyspace.read_congr h]

/-- A call is answered by the entry of its client alone, and so is what it leaves there. -/
theorem redisStep_congr {cfg : Config} {db db' : RedisStore} {call : Call}
    (h : db.lookup (redisKey cfg call.clientId) = db'.lookup (redisKey cfg call.clientId)) :
    (redisStep cfg db call).2 = (redisStep cfg db' call).2 ∧
      (redisStep cfg db call).1.lookup (redisKey cfg call.clientId)
        = (redisStep cfg db' call).1.lookup (redisKey cfg call.clientId) := by
  obtain ⟨clientId, now, op⟩ := call
  have hpruned : (zremrangebyscore db now (redisKey cfg clientId) (now - cfg.window)).lookup
        (redisKey cfg clientId)
      = (zremrangebyscore db' now (redisKey cfg clientId) (now - cfg.window)).lookup
        (redisKey cfg clientId) := Keyspace.lookup_alter_congr h now _
  have hzset := zset_congr hpruned now
  cases op with
  | isAllowed member =>
    unfold redisStep isAllowedRedis hostedIsAllowedRedis
    simp only [hzset]
    split
    case isTrue => exact ⟨rfl, hpruned⟩
    case isFalse =>
      exact ⟨rfl, Keyspace.lookup_expireAt_congr (Keyspace.lookup_alter_congr hpruned now _) now _⟩
  | getRetryAfter =>
    unfold redisStep getRetryAfterRedis hostedGetRetryAfterRedis
    simp only [hzset]
    split
    · exact ⟨rfl, hpruned⟩
    · exact ⟨rfl, hpruned⟩

/-- A call leaves every other entry alone. -/
theorem lookup_redisStep_ne {cfg : Config} {call : Call} {key : PyStr}
    (h : key ≠ redisKey cfg call.clientId) (db : RedisStore) :
    (redisStep cfg db call).1.lookup key = db.lookup key := by
  obtain ⟨clientId, now, op⟩ := call
  have hpruned : (zremrangebyscore db now (redisKey cfg clientId) (now - cfg.window)).lookup key
      = db.lookup key := Keyspace.lookup_alter_ne h now _
  cases op with
  | isAllowed member =>
    unfold redisStep isAllowedRedis hostedIsAllowedRedis
    simp only
    split
    case isTrue => exact hpruned
    case isFalse =>
      rw [expire, Keyspace.lookup_expireAt_ne h, zadd, Keyspace.lookup_alter_ne h, hpruned]
  | getRetryAfter =>
    unfold redisStep getRetryAfterRedis hostedGetRetryAfterRedis
    simp only
    split
    · exact hpruned
    · exact hpruned

/-- **Limiters of different window lengths do not see one another**: on every run, whatever the
clocks show, leaving out the calls at every other window length changes no answer. -/
theorem limiters_independent (seconds : ℤ) (calls : List LimiterCall) :
    Machine.trace sharedStep ∅ (calls.filter fun c => c.ofWindow seconds)
      = (Machine.trace sharedStep ∅ calls).filter fun e => e.1.ofWindow seconds := by
  -- the stores agree on every key of the window length
  refine Machine.trace_filter sharedStep (fun _ => ()) (fun _ => ())
    (fun _ db _ db' => ∀ clientId (cfg : Config), cfg.windowSeconds = seconds →
      db.lookup (redisKey cfg clientId) = db'.lookup (redisKey cfg clientId))
    (G := fun _ _ _ => True) ?_ ?_ (fun _ _ _ => rfl)
    (Machine.nondecreasing_const () calls) (Machine.allSteps_true _ _ _)
  · intro _ db _ db' c hagree _ _ hwindow
    have hc : c.limiter.windowSeconds = seconds := of_decide_eq_true hwindow
    obtain ⟨hreply, hentry⟩ := redisStep_congr (hagree c.call.clientId c.limiter hc)
    refine ⟨hreply, fun clientId cfg hcfg => ?_⟩
    by_cases hkey : redisKey cfg clientId = redisKey c.limiter c.call.clientId
    · rw [hkey]
      exact hentry
    · rw [sharedStep, sharedStep, lookup_redisStep_ne hkey, lookup_redisStep_ne hkey]
      exact hagree clientId cfg hcfg
  · intro _ db _ db' c hagree _ _ hwindow clientId cfg hcfg
    have hc : c.limiter.windowSeconds ≠ seconds := of_decide_eq_false hwindow
    rw [sharedStep, lookup_redisStep_ne (redisKey_ne_of_window (by rwa [hcfg, ne_comm]) _ _)]
    exact hagree clientId cfg hcfg

/-! ## The shared window -/

theorem windowTrace_append (seconds : ℤ) (tr tr' : SharedTrace) :
    windowTrace seconds (tr ++ tr') = windowTrace seconds tr ++ windowTrace seconds tr' := by
  simp [windowTrace]

theorem windowTrace_singleton (c : LimiterCall) (reply : Reply) :
    windowTrace c.limiter.windowSeconds [(c, reply)] = [(c.call, reply)] := by
  simp [windowTrace, LimiterCall.ofWindow]

theorem windowTrace_singleton_ne {seconds : ℤ} {c : LimiterCall}
    (h : c.limiter.windowSeconds ≠ seconds) (reply : Reply) :
    windowTrace seconds [(c, reply)] = [] := by
  simp [windowTrace, LimiterCall.ofWindow, h]

/-- The member names of the limiters of one window length are among those of the run. -/
theorem usedMembers_windowTrace {seconds : ℤ} {tr : SharedTrace} {member : PyStr}
    (h : member ∈ usedMembers (windowTrace seconds tr)) :
    ∃ e ∈ tr, e.1.member? = some member := by
  rw [usedMembers, windowTrace, List.filterMap_map, List.mem_filterMap] at h
  obtain ⟨e, he, hmember⟩ := h
  exact ⟨e, List.mem_of_mem_filter he, hmember⟩

/-- What the sets hold depends on the window length of the limiter, not on its limit. -/
theorem RedisStore.Tracks.congr {cfg cfg' : Config} {t : ℚ} {db : RedisStore} {tr : CallTrace}
    (h : db.Tracks cfg t tr) (hwindow : cfg.windowSeconds = cfg'.windowSeconds) :
    db.Tracks cfg' t tr := by
  obtain ⟨limit, seconds⟩ := cfg
  obtain ⟨limit', seconds'⟩ := cfg'
  obtain rfl : seconds = seconds' := hwindow
  exact ⟨h.scores, h.past, h.members⟩

/-- The sets of every window length track the admissions of its limiters. -/
def RedisStore.TracksAll (t : ℚ) (db : RedisStore) (tr : SharedTrace) : Prop :=
  ∀ cfg : Config, db.Tracks cfg t (windowTrace cfg.windowSeconds tr)

/-- **One call of any limiter** answers as prescribed, and the sets of every window length keep
tracking: its own by the limiter's step, the others because they are not touched. -/
theorem sharedStep_tracks {t : ℚ} {db : RedisStore} {tr : SharedTrace} {c : LimiterCall}
    (h : RedisStore.TracksAll t db tr) (ht : t ≤ c.call.time)
    (hfresh : ∀ member, c.member? = some member → ∀ e ∈ tr, e.1.member? ≠ some member) :
    (sharedStep db c).2.decision?
        = windowDecision c.limiter (windowTrace c.limiter.windowSeconds tr) c.call ∧
      RedisStore.TracksAll c.call.time (sharedStep db c).1 (tr ++ [(c, (sharedStep db c).2)]) := by
  obtain ⟨hdec, htracks⟩ := redisStep_tracks (h c.limiter) ht fun member hmember hused => by
    obtain ⟨e, he, heq⟩ := usedMembers_windowTrace hused
    exact hfresh member hmember e he heq
  refine ⟨hdec, fun cfg => ?_⟩
  rw [windowTrace_append]
  by_cases hwindow : c.limiter.windowSeconds = cfg.windowSeconds
  · rw [← hwindow, windowTrace_singleton]
    exact htracks.congr hwindow
  · rw [windowTrace_singleton_ne hwindow, List.append_nil]
    have hzset : ∀ clientId later, (sharedStep db c).1.zset later (redisKey cfg clientId)
        = db.zset later (redisKey cfg clientId) := fun clientId later =>
      zset_congr (lookup_redisStep_ne (redisKey_ne_of_window (Ne.symm hwindow) _ _) db) later
    refine ⟨?_, fun clientId a ha => le_trans ((h cfg).past clientId a ha) ht, ?_⟩
    · intro clientId later hle
      rw [hzset]
      exact (h cfg).scores clientId later (le_trans ht hle)
    · intro clientId later hle e he
      rw [hzset] at he
      exact (h cfg).members clientId later (le_trans ht hle) e he

theorem followsSharedWindow_nil : FollowsSharedWindow [] := by
  intro pre c reply post h
  simp at h

theorem FollowsSharedWindow.of_append {tr tr' : SharedTrace} (h : FollowsSharedWindow (tr ++ tr')) :
    FollowsSharedWindow tr := by
  rintro pre c reply post rfl
  exact h pre c reply (post ++ tr') (by simp)

theorem FollowsSharedWindow.concat {tr : SharedTrace} {c : LimiterCall} {reply : Reply}
    (h : FollowsSharedWindow tr)
    (hlast : reply.decision?
      = windowDecision c.limiter (windowTrace c.limiter.windowSeconds tr) c.call) :
    FollowsSharedWindow (tr ++ [(c, reply)]) := by
  intro pre c' reply' post heq
  rcases List.concat_split heq with ⟨rfl, he, -⟩ | ⟨post', -, hsplit⟩
  · obtain ⟨rfl, rfl⟩ : c' = c ∧ reply' = reply := by simpa using he
    exact hlast
  · exact h pre c' reply' post' hsplit

/-- The admissions to a client by the limiters of one window length were each made under the
greatest limit among them. -/
theorem FollowsSharedWindow.admittedUnder {tr : SharedTrace} (h : FollowsSharedWindow tr)
    {seconds limit : ℤ}
    (hlimit : ∀ e ∈ tr, e.1.limiter.windowSeconds = seconds →
      e.1.limiter.requestsPerWindow ≤ limit) (clientId : PyStr) :
    AdmittedUnder (seconds : ℚ) limit.toNat
      (admittedTimes clientId (windowTrace seconds tr)) := by
  induction tr using List.reverseRecOn with
  | nil =>
    intro pre a post heq
    simp [windowTrace] at heq
  | append_singleton tr e ih =>
    obtain ⟨c, reply⟩ := e
    have hpre := ih h.of_append fun e he => hlimit e (List.mem_append_left _ he)
    rw [windowTrace_append]
    by_cases hwindow : c.limiter.windowSeconds = seconds
    · subst hwindow
      rw [windowTrace_singleton, admittedTimes_append]
      by_cases hadm : c.call.clientId = clientId ∧ reply.decision? = some true
      · obtain ⟨rfl, hr⟩ := hadm
        rw [admittedTimes_singleton_of_admitted rfl hr]
        apply hpre.concat
        -- the limit of the limiter that admitted the call is at most the greatest
        have hle : c.limiter.requestsPerWindow ≤ limit := hlimit (c, reply) (by simp) rfl
        have hlast := h tr c reply [] rfl
        rw [hr, windowDecision] at hlast
        cases hop : c.call.op with
        | getRetryAfter => simp [hop] at hlast
        | isAllowed member =>
          simp only [hop, Option.some.injEq] at hlast
          have hlt := of_decide_eq_true hlast.symm
          rw [Config.window] at hlt
          omega
      · rw [admittedTimes_singleton_of_not hadm, List.append_nil]
        exact hpre
    · rw [windowTrace_singleton_ne hwindow, List.append_nil]
      exact hpre

/-- What a server shared by any number of limiters guarantees of a run. -/
structure SharesWindow (calls : List LimiterCall) (tr : SharedTrace) : Prop where
  /-- Every decision counts the admissions of all the limiters of the same window length. -/
  follows : FollowsSharedWindow tr
  /-- Together the limiters of one window length admit a client at most as often in a window as the
  greatest limit among them allows. -/
  bounded : ∀ seconds limit, (∀ c ∈ calls, c.limiter.windowSeconds = seconds →
      c.limiter.requestsPerWindow ≤ limit) → ∀ clientId (x : ℚ),
    (admittedTimes clientId (windowTrace seconds tr)).countP
      (fun t => x ≤ t ∧ t < x + (seconds : ℚ)) ≤ limit.toNat

/-- **Limiters of one window length share the window**, on every timed run of any number of
limiters on one server with distinct member names. -/
theorem limiters_share_window {t : ℚ} {calls : List LimiterCall}
    (hclock : Machine.Nondecreasing (fun c : LimiterCall => c.call.time) (fun c => c.call.time) t
      calls)
    (hmembers : (calls.filterMap LimiterCall.member?).Nodup) :
    SharesWindow calls (Machine.trace sharedStep ∅ calls) := by
  have hinit : RedisStore.TracksAll t ∅ [] := fun _ =>
    ⟨fun _ _ _ => List.Perm.refl _, by simp [windowTrace], by simp [RedisStore.zset]⟩
  have hguard : Machine.AllSteps sharedStep (fun _ tr c => ∀ member,
      c.member? = some member → ∀ e ∈ tr, e.1.member? ≠ some member) ∅ calls := by
    rw [Machine.allSteps_iff]
    rintro pre c post rfl member hmem e he heq
    have hused : member ∈ pre.filterMap LimiterCall.member? := by
      rw [← Machine.map_fst_trace sharedStep ∅ pre]
      exact List.mem_filterMap.mpr ⟨e.1, List.mem_map_of_mem he, heq⟩
    rw [List.filterMap_append, List.filterMap_cons_some hmem, List.nodup_append] at hmembers
    exact hmembers.2.2 member hused member List.mem_cons_self rfl
  have hrun := Machine.trace_induction sharedStep (fun c => c.call.time) (fun c => c.call.time)
    (fun t db tr => FollowsSharedWindow tr ∧ RedisStore.TracksAll t db tr)
    (fun t db tr c hinv ht hfresh => by
      obtain ⟨hdec, htracks⟩ := sharedStep_tracks hinv.2 ht hfresh
      exact ⟨hinv.1.concat hdec, htracks⟩)
    ⟨followsSharedWindow_nil, hinit⟩ hclock hguard
  refine ⟨hrun.1, fun seconds limit hlimit clientId x => ?_⟩
  refine countP_Ico_le (hrun.1.admittedUnder ?_ clientId) x
  intro e he
  apply hlimit
  rw [← Machine.map_fst_trace sharedStep ∅ calls]
  exact List.mem_map_of_mem he

/-- Two endpoints with a window of ten seconds, one with a limit of two and one with a limit of one,
and a third with a window of sixty: the first two share what they admitted. -/
def threeEndpoints : List LimiterCall :=
  [⟨⟨2, 10⟩, ⟨PyStr.ofString "a", 0, .isAllowed (PyStr.ofString "0:w")⟩⟩,
    ⟨⟨1, 10⟩, ⟨PyStr.ofString "a", 1, .isAllowed (PyStr.ofString "1:x")⟩⟩,
    ⟨⟨1, 60⟩, ⟨PyStr.ofString "a", 1, .isAllowed (PyStr.ofString "1:y")⟩⟩,
    ⟨⟨2, 10⟩, ⟨PyStr.ofString "a", 2, .isAllowed (PyStr.ofString "2:z")⟩⟩]

theorem limiters_share_window_threeEndpoints :
    SharesWindow threeEndpoints (Machine.trace sharedStep ∅ threeEndpoints) ∧
      Machine.outputs sharedStep ∅ threeEndpoints
        = [.allowed true, .allowed false, .allowed true, .allowed true] := by
  refine ⟨limiters_share_window (t := 0) ?_ ?_, ?_⟩
  · norm_num [threeEndpoints, Machine.Nondecreasing]
  · decide
  · decide +kernel

end McpAuthflow.RateLimiting
