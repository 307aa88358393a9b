import McpAuthflow.Foundations.SlidingWindow
import McpAuthflow.RateLimiting.Limiter

/-! # Both backends implement the sliding window

The specification reads a trace alone: an `is_allowed` call of a client is admitted iff fewer than
`requests_per_window` requests of that client, admitted earlier in the trace, have age below the
window (`FollowsWindow`). It fixes every decision, is indifferent to the calls of other clients and
bounds the admissions in any window. Each backend follows it on every timed run, because whatever it
discards (pruning on read, the sweep, `ZREMRANGEBYSCORE`, key expiry) is out of the window for every
later call:

* `memory_followsWindow` — invariant `MemoryLimiter.Tracks`;
* `redis_followsWindow` — invariant `RedisStore.Tracks`. -/

namespace McpAuthflow.RateLimiting

open SlidingWindow

/-- The calls of a run with their replies. -/
abbrev CallTrace := List (Call × Reply)

/-! ## The specification -/

/-- The times of the requests of a client that a trace admitted. -/
def admittedTimes (clientId : PyStr) (tr : CallTrace) : List ℚ :=
  (tr.filter fun e => e.1.clientId = clientId ∧ e.2.decision? = some true).map fun e => e.1.time

/-- The decision the sliding window prescribes after the trace `tr`: admit iff fewer than
`requests_per_window` admitted requests of the client have age below the window. -/
def windowDecision (cfg : Config) (tr : CallTrace) (call : Call) : Option Bool :=
  match call.op with
  | .isAllowed _ =>
    some (decide (((live cfg.window call.time (admittedTimes call.clientId tr)).length : ℤ)
      < cfg.requestsPerWindow))
  | .getRetryAfter => none

/-- **The sliding-window specification**: every decision of the trace is the prescribed one. -/
def FollowsWindow (cfg : Config) (tr : CallTrace) : Prop :=
  ∀ pre call reply post, tr = pre ++ (call, reply) :: post →
    reply.decision? = windowDecision cfg pre call

@[simp] theorem admittedTimes_nil (clientId : PyStr) : admittedTimes clientId [] = [] := rfl

@[simp] theorem admittedTimes_append (clientId : PyStr) (tr tr' : CallTrace) :
    admittedTimes clientId (tr ++ tr')
      = admittedTimes clientId tr ++ admittedTimes clientId tr' := by
  simp [admittedTimes]

/-- A call that is no admission of the client adds nothing to its admitted times. -/
theorem admittedTimes_singleton_of_not {clientId : PyStr} {call : Call} {reply : Reply}
    (h : ¬ (call.clientId = clientId ∧ reply.decision? = some true)) :
    admittedTimes clientId [(call, reply)] = [] := by
  simp [admittedTimes, h]

/-- An admission of the client adds its time. -/
theorem admittedTimes_singleton_of_admitted {clientId : PyStr} {call : Call} {reply : Reply}
    (hc : call.clientId = clientId) (hr : reply.decision? = some true) :
    admittedTimes clientId [(call, reply)] = [call.time] := by
  simp [admittedTimes, hc, hr]

/-- The calls of other clients do not matter to a client's admitted times. -/
theorem admittedTimes_filter (clientId : PyStr) (tr : CallTrace) :
    admittedTimes clientId (tr.filter fun e => e.1.clientId = clientId)
      = admittedTimes clientId tr := by
  rw [admittedTimes, admittedTimes, List.filter_filter]
  congr 1
  apply List.filter_congr
  intro e _
  simp only [Bool.decide_and]
  cases decide (e.1.clientId = clientId) <;> simp

theorem followsWindow_nil (cfg : Config) : FollowsWindow cfg [] := by
  intro pre call reply post h
  simp at h

/-- The prefix of a trace that follows the window follows it. -/
theorem FollowsWindow.of_append {cfg : Config} {tr tr' : CallTrace}
    (h : FollowsWindow cfg (tr ++ tr')) : FollowsWindow cfg tr := by
  rintro pre call reply post rfl
  exact h pre call reply (post ++ tr') (by simp)

/-- The last decision of a trace that follows the window. -/
theorem FollowsWindow.last {cfg : Config} {tr : CallTrace} {call : Call} {reply : Reply}
    (h : FollowsWindow cfg (tr ++ [(call, reply)])) :
    reply.decision? = windowDecision cfg tr call :=
  h tr call reply [] rfl

/-- One more call, answered as prescribed. -/
theorem FollowsWindow.concat {cfg : Config} {tr : CallTrace} {call : Call} {reply : Reply}
    (h : FollowsWindow cfg tr) (hlast : reply.decision? = windowDecision cfg tr call) :
    FollowsWindow cfg (tr ++ [(call, reply)]) := by
  intro pre call' reply' post heq
  rcases List.concat_split heq with ⟨rfl, he, -⟩ | ⟨post', -, hsplit⟩
  · obtain ⟨rfl, rfl⟩ : call' = call ∧ reply' = reply := by simpa using he
    exact hlast
  · exact h pre call' reply' post' hsplit

/-! ## What the specification determines -/

/-- **Decisions are determined.** Two traces of the same calls that follow the window decide
alike. -/
theorem FollowsWindow.decisions_eq {cfg : Config} {tr₁ tr₂ : CallTrace}
    (h₁ : FollowsWindow cfg tr₁) (h₂ : FollowsWindow cfg tr₂)
    (hcalls : tr₁.map Prod.fst = tr₂.map Prod.fst) :
    (tr₁.map fun e => (e.1, e.2.decision?)) = tr₂.map fun e => (e.1, e.2.decision?) := by
  induction tr₁ using List.reverseRecOn generalizing tr₂ with
  | nil =>
    have hnil : tr₂ = [] := by simpa using hcalls.symm
    rw [hnil]
  | append_singleton tr₁ e₁ ih =>
    rcases List.eq_nil_or_concat' tr₂ with rfl | ⟨tr₂, e₂, rfl⟩
    · simp at hcalls
    · obtain ⟨call₁, reply₁⟩ := e₁
      obtain ⟨call₂, reply₂⟩ := e₂
      rw [List.map_append, List.map_append] at hcalls
      obtain ⟨hinit, hlast⟩ := List.append_inj' hcalls rfl
      obtain rfl : call₁ = call₂ := by simpa using hlast
      have hpre := ih h₁.of_append h₂.of_append hinit
      -- equal decisions so far give equal admitted times, hence the same prescription
      have htimes : ∀ c, admittedTimes c tr₁ = admittedTimes c tr₂ := by
        intro c
        have hof : ∀ tr : CallTrace, admittedTimes c tr =
            ((tr.map fun e => (e.1, e.2.decision?)).filter fun e =>
              e.1.clientId = c ∧ e.2 = some true).map fun e => e.1.time := by
          intro tr
          simp [admittedTimes, List.filter_map, Function.comp_def]
        rw [hof, hof, hpre]
      have hdec : reply₁.decision? = reply₂.decision? := by
        rw [h₁.last, h₂.last, windowDecision, windowDecision, htimes]
      rw [List.map_append, List.map_append, hpre]
      simp [hdec]

/-- **Clients do not influence one another**: the calls of one client, taken out of a trace that
follows the window, follow it by themselves. -/
theorem FollowsWindow.filter {cfg : Config} {tr : CallTrace} (h : FollowsWindow cfg tr)
    (clientId : PyStr) : FollowsWindow cfg (tr.filter fun e => e.1.clientId = clientId) := by
  induction tr using List.reverseRecOn with
  | nil => exact followsWindow_nil cfg
  | append_singleton tr e ih =>
    obtain ⟨call, reply⟩ := e
    have hpre := ih h.of_append
    rw [List.filter_append]
    by_cases hc : call.clientId = clientId
    · rw [List.filter_cons_of_pos (by simpa using hc), List.filter_nil]
      apply hpre.concat
      rw [h.last, windowDecision, windowDecision]
      subst hc
      rw [admittedTimes_filter]
    · rw [List.filter_cons_of_neg (by simpa using hc), List.filter_nil, List.append_nil]
      exact hpre

/-- The admissions of a client were each made under the limit. -/
theorem FollowsWindow.admittedUnder {cfg : Config} {tr : CallTrace} (h : FollowsWindow cfg tr)
    (clientId : PyStr) :
    AdmittedUnder cfg.window cfg.requestsPerWindow.toNat (admittedTimes clientId tr) := by
  induction tr using List.reverseRecOn with
  | nil =>
    intro pre a post heq
    simp at heq
  | append_singleton tr e ih =>
    obtain ⟨call, reply⟩ := e
    have hpre := ih h.of_append
    rw [admittedTimes_append]
    by_cases hadm : call.clientId = clientId ∧ reply.decision? = some true
    · obtain ⟨rfl, hr⟩ := hadm
      rw [admittedTimes_singleton_of_admitted rfl hr]
      apply hpre.concat
      -- the admission was decided against the live ones before it
      have hlast := h.last
      rw [hr, windowDecision] at hlast
      cases hop : call.op with
      | getRetryAfter => simp [hop] at hlast
      | isAllowed member =>
        simp only [hop, Option.some.injEq] at hlast
        have hlt := of_decide_eq_true hlast.symm
        omega
    · rw [admittedTimes_singleton_of_not hadm, List.append_nil]
      exact hpre

/-! ## The in-memory backend -/

/-- The recorded times agree with the admitted ones, as far as any call from `t` on can see. -/
def MemoryLimiter.Tracks (cfg : Config) (t : ℚ) (s : MemoryLimiter) (tr : CallTrace) : Prop :=
  ∀ clientId later, t ≤ later →
    live cfg.window later (s.timestamps clientId)
      = live cfg.window later (admittedTimes clientId tr)

/-- The sweep drops only times that are out of the window for every later call. -/
theorem live_timestamps_sweepExpired {cfg : Config} {now later : ℚ} (hle : now ≤ later)
    (s : MemoryLimiter) (clientId : PyStr) :
    live cfg.window later ((sweepExpired cfg now s).timestamps clientId)
      = live cfg.window later (s.timestamps clientId) := by
  rcases timestamps_sweepExpired cfg now s clientId with heq | ⟨heq, hstale⟩
  · rw [heq]
  · rw [heq, live_nil]
    refine (live_eq_nil ?_).symm
    intro a ha
    have hlt := hstale a ha
    linarith

theorem MemoryLimiter.Tracks.sweep {cfg : Config} {t now : ℚ} {s : MemoryLimiter} {tr : CallTrace}
    (h : s.Tracks cfg t tr) (ht : t ≤ now) : (sweepExpired cfg now s).Tracks cfg now tr := by
  intro clientId later hle
  rw [live_timestamps_sweepExpired hle, h clientId later (le_trans ht hle)]

@[simp] theorem MemoryLimiter.timestamps_insert_self (clients : Dict PyStr (List ℚ)) (lastSweep : ℚ)
    (clientId : PyStr) (timestamps : List ℚ) :
    MemoryLimiter.timestamps ⟨clients.insert clientId timestamps, lastSweep⟩ clientId
      = timestamps := by
  simp [MemoryLimiter.timestamps]

theorem MemoryLimiter.timestamps_insert_ne {clients : Dict PyStr (List ℚ)} {lastSweep : ℚ}
    {clientId other : PyStr} (h : other ≠ clientId) (timestamps : List ℚ) :
    MemoryLimiter.timestamps ⟨clients.insert clientId timestamps, lastSweep⟩ other
      = MemoryLimiter.timestamps ⟨clients, lastSweep⟩ other := by
  simp [MemoryLimiter.timestamps, AList.lookup_insert_ne h]

/-- **One in-memory call** answers as prescribed and keeps tracking the admitted times. -/
theorem memoryStep_tracks {cfg : Config} {t : ℚ} {s : MemoryLimiter} {tr : CallTrace} {call : Call}
    (h : s.Tracks cfg t tr) (ht : t ≤ call.time) :
    (memoryStep cfg s call).2.decision? = windowDecision cfg tr call ∧
      (memoryStep cfg s call).1.Tracks cfg call.time
        (tr ++ [(call, (memoryStep cfg s call).2)]) := by
  unfold memoryStep windowDecision
  cases call.op with
  | getRetryAfter =>
    refine ⟨rfl, ?_⟩
    intro clientId later hle
    rw [admittedTimes_append, admittedTimes_singleton_of_not (by simp [Reply.decision?]),
      List.append_nil]
    exact h clientId later (le_trans ht hle)
  | isAllowed member =>
    have hsweep := h.sweep ht
    unfold isAllowedMemory
    set swept := sweepExpired cfg call.time s with hswept
    have hkept : (swept.timestamps call.clientId).filter (fun a => call.time - a < cfg.window)
        = live cfg.window call.time (admittedTimes call.clientId tr) :=
      hsweep call.clientId call.time le_rfl
    simp only [hkept]
    by_cases hfull : ((live cfg.window call.time (admittedTimes call.clientId tr)).length : ℤ)
        ≥ cfg.requestsPerWindow
    · -- rejected: the pruned list is stored back and nothing is appended
      rw [if_pos hfull]
      refine ⟨by simp [Reply.decision?, hfull], ?_⟩
      intro clientId later hle
      rw [admittedTimes_append, admittedTimes_singleton_of_not (by simp [Reply.decision?]),
        List.append_nil]
      by_cases hc : clientId = call.clientId
      · subst hc
        rw [MemoryLimiter.timestamps_insert_self, live_live hle]
      · rw [MemoryLimiter.timestamps_insert_ne hc]
        exact hsweep clientId later hle
    · -- admitted: one more time, for this client alone
      rw [if_neg hfull]
      refine ⟨by simpa [Reply.decision?] using hfull, ?_⟩
      intro clientId later hle
      by_cases hc : clientId = call.clientId
      · subst hc
        rw [MemoryLimiter.timestamps_insert_self, admittedTimes_append,
          admittedTimes_singleton_of_admitted rfl rfl, live_append, live_append, live_live hle]
      · rw [MemoryLimiter.timestamps_insert_ne hc, admittedTimes_append,
          admittedTimes_singleton_of_not (by simp [Ne.symm hc]), List.append_nil]
        exact hsweep clientId later hle

/-- **The in-memory backend follows the window** on every timed run. -/
theorem memory_followsWindow (cfg : Config) {t : ℚ} {calls : List Call}
    (hclock : Machine.Nondecreasing Call.time Call.time t calls) :
    FollowsWindow cfg (Machine.trace (memoryStep cfg) .init calls) := by
  have hinit : MemoryLimiter.Tracks cfg t .init [] := fun _ _ _ => rfl
  have hrun := Machine.timed_invariant (memoryStep cfg) Call.time Call.time
    (fun t s tr => FollowsWindow cfg tr ∧ s.Tracks cfg t tr)
    (fun t s tr call hinv ht => by
      obtain ⟨hdec, htracks⟩ := memoryStep_tracks hinv.2 ht
      exact ⟨hinv.1.concat hdec, htracks⟩)
    ⟨followsWindow_nil cfg, hinit⟩ hclock
  exact hrun.1

/-! ## The Redis backend -/

/-- Pruning a client's set leaves the scores in the window. -/
theorem scores_prune_self (cfg : Config) (db : RedisStore) (now : ℚ) (clientId : PyStr) :
    ((zremrangebyscore db now (redisKey cfg clientId) (now - cfg.window)).zset now
        (redisKey cfg clientId)).scores
      = live cfg.window now (db.zset now (redisKey cfg clientId)).scores := by
  rw [zset_zremrangebyscore_self le_rfl, SortedSet.scores_filter, live]
  congr 1
  funext a
  simp only [decide_eq_decide]
  exact sub_lt_comm

/-- Pruning a set takes away nothing that is in the window. -/
theorem live_scores_prune {cfg : Config} {now later : ℚ} (hle : now ≤ later) (db : RedisStore)
    (clientId other : PyStr) :
    live cfg.window later ((zremrangebyscore db now (redisKey cfg clientId)
        (now - cfg.window)).zset later (redisKey cfg other)).scores
      = live cfg.window later (db.zset later (redisKey cfg other)).scores := by
  by_cases hc : other = clientId
  · subst hc
    rw [zset_zremrangebyscore_self hle, SortedSet.scores_filter, live_filter]
    intro a _ ha
    exact decide_eq_true (sub_lt_comm.mp (sub_lt_of_le hle ha))
  · rw [zset_zremrangebyscore_ne (fun heq => hc (redisKey_injective cfg heq))]

/-- The member names a trace has used. -/
def usedMembers (tr : CallTrace) : List PyStr := tr.filterMap fun e => e.1.member?

/-- What any call from `t` on can see of the sorted sets: the scores in the window are the admitted
times, none of which lies ahead, and the members are names the trace has used. -/
structure RedisStore.Tracks (cfg : Config) (t : ℚ) (db : RedisStore) (tr : CallTrace) : Prop where
  scores : ∀ clientId later, t ≤ later →
    (live cfg.window later (db.zset later (redisKey cfg clientId)).scores).Perm
      (live cfg.window later (admittedTimes clientId tr))
  past : ∀ clientId, ∀ a ∈ admittedTimes clientId tr, a ≤ t
  members : ∀ clientId later, t ≤ later →
    ∀ e ∈ db.zset later (redisKey cfg clientId), e.1 ∈ usedMembers tr

/-- Pruning a client's set drops only what is out of the window for every later call. -/
theorem RedisStore.Tracks.prune {cfg : Config} {t now : ℚ} {db : RedisStore} {tr : CallTrace}
    (h : db.Tracks cfg t tr) (ht : t ≤ now) (clientId : PyStr) :
    RedisStore.Tracks cfg now
      (zremrangebyscore db now (redisKey cfg clientId) (now - cfg.window)) tr := by
  refine ⟨?_, fun c a ha => le_trans (h.past c a ha) ht, ?_⟩
  · intro c later hle
    rw [live_scores_prune hle]
    exact h.scores c later (le_trans ht hle)
  · intro c later hle e he
    apply h.members c later (le_trans ht hle)
    by_cases hc : c = clientId
    · subst hc
      rw [zset_zremrangebyscore_self hle] at he
      exact List.mem_of_mem_filter he
    · rwa [zset_zremrangebyscore_ne (fun heq => hc (redisKey_injective cfg heq))] at he

/-- A member with a fresh name is added to what the set holds. -/
theorem RedisStore.Tracks.perm_add {cfg : Config} {now : ℚ} {db : RedisStore} {tr : CallTrace}
    {member : PyStr} (h : db.Tracks cfg now tr) (hfresh : member ∉ usedMembers tr)
    (clientId : PyStr) :
    ((db.zset now (redisKey cfg clientId)).add member now).Perm
      ((member, now) :: db.zset now (redisKey cfg clientId)) := by
  refine SortedSet.perm_add ?_ now
  intro e he heq
  exact hfresh (heq ▸ h.members clientId now le_rfl e he)

/-- What a later call finds live in the set just recorded in: the set lives for at least the window,
and once it has expired everything in it is out of the window. -/
theorem RedisStore.Tracks.live_recorded {cfg : Config} {now later : ℚ} {db : RedisStore}
    {tr : CallTrace} {member : PyStr} (h : db.Tracks cfg now tr) (hfresh : member ∉ usedMembers tr)
    (hle : now ≤ later) (clientId : PyStr) :
    (live cfg.window later
      (SortedSet.scores (if later ≤ now + ((cfg.windowSeconds + 1 : ℤ) : ℚ) then
        (db.zset now (redisKey cfg clientId)).add member now else []))).Perm
      (live cfg.window later (admittedTimes clientId tr ++ [now])) := by
  split
  case isTrue =>
    -- the set as of now, which later calls prune further
    have hscores : (live cfg.window later (db.zset now (redisKey cfg clientId)).scores).Perm
        (live cfg.window later (admittedTimes clientId tr)) := by
      rw [← live_live hle, ← live_live hle (admittedTimes clientId tr)]
      exact live_perm (h.scores clientId now le_rfl)
    rw [live_append]
    refine (live_perm ((h.perm_add hfresh clientId).map Prod.snd)).trans ?_
    rw [List.map_cons, ← List.singleton_append, live_append]
    exact List.perm_append_comm.trans (hscores.append_right _)
  case isFalse hexp =>
    have hdead : live cfg.window later (admittedTimes clientId tr ++ [now]) = [] := by
      apply live_eq_nil
      intro a ha
      have hpast : a ≤ now := by
        rcases List.mem_append.mp ha with ha | ha
        · exact h.past clientId a ha
        · exact le_of_eq (List.mem_singleton.mp ha)
      push_cast [Config.window] at hexp ⊢
      linarith
    rw [hdead]
    exact List.Perm.refl _

/-- Recording a request of a client under a fresh member name admits it. -/
theorem RedisStore.Tracks.record {cfg : Config} {now : ℚ} {db : RedisStore} {tr : CallTrace}
    {clientId member : PyStr} (h : db.Tracks cfg now tr) (hfresh : member ∉ usedMembers tr) :
    RedisStore.Tracks cfg now
      (expire (zadd db now (redisKey cfg clientId) member now) now (redisKey cfg clientId)
        (cfg.windowSeconds + 1))
      (tr ++ [(⟨clientId, now, .isAllowed member⟩, .allowed true)]) := by
  have hused : usedMembers (tr ++ [(⟨clientId, now, .isAllowed member⟩, .allowed true)])
      = usedMembers tr ++ [member] := by
    simp [usedMembers, Call.member?]
  refine ⟨?_, ?_, ?_⟩
  · -- the scores: one more for this client, none for another
    intro c later hle
    rw [admittedTimes_append]
    by_cases hc : c = clientId
    · subst hc
      have hnew : admittedTimes c [(⟨c, now, .isAllowed member⟩, .allowed true)] = [now] :=
        admittedTimes_singleton_of_admitted rfl rfl
      rw [zset_expire_zadd_self, hnew]
      exact h.live_recorded hfresh hle c
    · rw [zset_expire_zadd_ne (fun heq => hc (redisKey_injective cfg heq)),
        admittedTimes_singleton_of_not (by simp [Ne.symm hc]), List.append_nil]
      exact h.scores c later hle
  · -- the admissions are past, the new one included
    intro c a ha
    rw [admittedTimes_append] at ha
    rcases List.mem_append.mp ha with ha | ha
    · exact h.past c a ha
    · simp only [admittedTimes, List.mem_map, List.mem_filter, List.mem_singleton] at ha
      obtain ⟨e, ⟨rfl, -⟩, rfl⟩ := ha
      exact le_rfl
  · -- the members in the sets are used names, the new one included
    intro c later hle e he
    rw [hused]
    apply List.mem_append.mpr
    by_cases hc : c = clientId
    · subst hc
      rw [zset_expire_zadd_self] at he
      split at he
      case isTrue =>
        rcases List.mem_cons.mp ((h.perm_add hfresh c).mem_iff.mp he) with rfl | he
        · exact Or.inr (List.mem_singleton.mpr rfl)
        · exact Or.inl (h.members c now le_rfl e he)
      case isFalse => simp at he
    · rw [zset_expire_zadd_ne (fun heq => hc (redisKey_injective cfg heq))] at he
      exact Or.inl (h.members c later hle e he)

/-- A call that admits nothing and leaves the sets alone. -/
theorem RedisStore.Tracks.skip {cfg : Config} {now : ℚ} {db : RedisStore} {tr : CallTrace}
    (h : db.Tracks cfg now tr) {call : Call} {reply : Reply} (hr : reply.decision? ≠ some true) :
    db.Tracks cfg now (tr ++ [(call, reply)]) := by
  have htimes : ∀ c, admittedTimes c (tr ++ [(call, reply)]) = admittedTimes c tr := by
    intro c
    rw [admittedTimes_append, admittedTimes_singleton_of_not (fun hadm => hr hadm.2),
      List.append_nil]
  refine ⟨?_, ?_, ?_⟩
  · intro c later hle
    rw [htimes]
    exact h.scores c later hle
  · intro c a ha
    rw [htimes] at ha
    exact h.past c a ha
  · intro c later hle e he
    have hold := h.members c later hle e he
    rw [usedMembers, List.filterMap_append]
    exact List.mem_append_left _ hold

/-- **One Redis call** answers as prescribed and keeps tracking the admitted times. -/
theorem redisStep_tracks {cfg : Config} {t : ℚ} {db : RedisStore} {tr : CallTrace} {call : Call}
    (h : db.Tracks cfg t tr) (ht : t ≤ call.time)
    (hfresh : ∀ member, call.member? = some member → member ∉ usedMembers tr) :
    (redisStep cfg db call).2.decision? = windowDecision cfg tr call ∧
      RedisStore.Tracks cfg call.time (redisStep cfg db call).1
        (tr ++ [(call, (redisStep cfg db call).2)]) := by
  obtain ⟨clientId, now, op⟩ := call
  have hpruned := h.prune ht clientId
  unfold redisStep windowDecision
  cases op with
  | getRetryAfter =>
    unfold getRetryAfterRedis hostedGetRetryAfterRedis
    simp only
    split
    · exact ⟨rfl, hpruned.skip (by simp [Reply.decision?])⟩
    · exact ⟨rfl, hpruned.skip (by simp [Reply.decision?])⟩
  | isAllowed member =>
    unfold isAllowedRedis hostedIsAllowedRedis
    simp only
    set db₁ := zremrangebyscore db now (redisKey cfg clientId) (now - cfg.window) with hdb₁
    -- after pruning, the cardinality counts the live admissions
    have hcount : (db₁.zset now (redisKey cfg clientId)).length
        = (live cfg.window now (admittedTimes clientId tr)).length := by
      rw [← (h.scores clientId now ht).length_eq, ← scores_prune_self, SortedSet.scores,
        List.length_map]
    rw [hcount]
    by_cases hfull : ((live cfg.window now (admittedTimes clientId tr)).length : ℤ)
        ≥ cfg.requestsPerWindow
    · rw [if_pos hfull]
      refine ⟨by simp [Reply.decision?, hfull], ?_⟩
      exact hpruned.skip (by simp [Reply.decision?])
    · rw [if_neg hfull]
      refine ⟨by simpa [Reply.decision?] using hfull, ?_⟩
      exact hpruned.record (hfresh member rfl)

/-- **The Redis backend follows the window** on every timed run with distinct member names. -/
theorem redis_followsWindow (cfg : Config) {t : ℚ} {calls : List Call}
    (hclock : Machine.Nondecreasing Call.time Call.time t calls)
    (hmembers : (calls.filterMap Call.member?).Nodup) :
    FollowsWindow cfg (Machine.trace (redisStep cfg) ∅ calls) := by
  have hinit : RedisStore.Tracks cfg t ∅ [] :=
    ⟨fun _ _ _ => List.Perm.refl _, by simp, by simp [RedisStore.zset]⟩
  -- distinct over the run, so each member is new at its call
  have hfresh : Machine.AllSteps (redisStep cfg)
      (fun _ tr call => ∀ member, call.member? = some member → member ∉ usedMembers tr) ∅
      calls := by
    rw [Machine.allSteps_iff]
    rintro pre call post rfl member hmem hused
    have hpre : usedMembers (Machine.trace (redisStep cfg) ∅ pre)
        = pre.filterMap Call.member? := by
      rw [usedMembers, ← Function.comp_def Call.member?, ← List.filterMap_map,
        Machine.map_fst_trace]
    rw [hpre] at hused
    rw [List.filterMap_append, List.filterMap_cons_some hmem, List.nodup_append] at hmembers
    exact hmembers.2.2 member hused member List.mem_cons_self rfl
  have hrun := Machine.trace_induction (redisStep cfg) Call.time Call.time
    (fun t db tr => FollowsWindow cfg tr ∧ RedisStore.Tracks cfg t db tr)
    (fun t db tr call hinv ht hfresh => by
      obtain ⟨hdec, htracks⟩ := redisStep_tracks hinv.2 ht hfresh
      exact ⟨hinv.1.concat hdec, htracks⟩)
    ⟨followsWindow_nil cfg, hinit⟩ hclock hfresh
  exact hrun.1

/-! ## What a run of either backend guarantees -/

/-- The decisions of a trace, in order; `none` where the call asks for none. -/
def decisions (tr : CallTrace) : List (Option Bool) := tr.map fun e => e.2.decision?

/-- What the limiter promises of a backend's run (`run calls` is the trace of the calls). -/
structure RefinesWindow (cfg : Config) (run : List Call → CallTrace) (calls : List Call) :
    Prop where
  /-- Every decision is the one the sliding window prescribes. -/
  follows : FollowsWindow cfg (run calls)
  /-- A client is answered as if it were alone. -/
  independent : ∀ clientId,
    decisions ((run calls).filter fun e => e.1.clientId = clientId)
      = decisions (run (calls.filter fun c => c.clientId = clientId))
  /-- No half-open window holds more than `requests_per_window` admissions of a client. -/
  bounded : ∀ clientId x,
    (admittedTimes clientId (run calls)).countP (fun t => x ≤ t ∧ t < x + cfg.window)
        ≤ cfg.requestsPerWindow.toNat ∧
      (admittedTimes clientId (run calls)).countP (fun t => x < t ∧ t ≤ x + cfg.window)
        ≤ cfg.requestsPerWindow.toNat

/-- Decisions are determined by the calls. -/
theorem FollowsWindow.decisions_congr {cfg : Config} {tr₁ tr₂ : CallTrace}
    (h₁ : FollowsWindow cfg tr₁) (h₂ : FollowsWindow cfg tr₂)
    (hcalls : tr₁.map Prod.fst = tr₂.map Prod.fst) : decisions tr₁ = decisions tr₂ := by
  have h := congrArg (List.map Prod.snd) (h₁.decisions_eq h₂ hcalls)
  rw [List.map_map, List.map_map] at h
  exact h

/-- A backend that follows the window on every run of a class closed under taking one client's
calls keeps the promise. -/
theorem RefinesWindow.of_followsWindow {cfg : Config} {run : List Call → CallTrace}
    {calls : List Call} (hcalls : ∀ calls, (run calls).map Prod.fst = calls)
    (h : FollowsWindow cfg (run calls))
    (hclient : ∀ clientId,
      FollowsWindow cfg (run (calls.filter fun c => c.clientId = clientId))) :
    RefinesWindow cfg run calls := by
  refine ⟨h, ?_, ?_⟩
  · intro clientId
    refine (h.filter clientId).decisions_congr (hclient clientId) ?_
    rw [hcalls, ← Function.comp_def (fun c : Call => decide (c.clientId = clientId)) Prod.fst,
      ← List.filter_map, hcalls]
  · intro clientId x
    have hunder := h.admittedUnder clientId
    exact ⟨countP_Ico_le hunder x, countP_Ioc_le hunder x⟩

/-- **Both backends refine the sliding window**, and take the same decisions: for every limit and
window, on every sequential run at nondecreasing times, member names being distinct. -/
theorem slidingWindow_refined (cfg : Config) {t : ℚ} {calls : List Call}
    (hclock : Machine.Nondecreasing Call.time Call.time t calls)
    (hmembers : (calls.filterMap Call.member?).Nodup) :
    RefinesWindow cfg (Machine.trace (memoryStep cfg) .init) calls ∧
      RefinesWindow cfg (Machine.trace (redisStep cfg) ∅) calls ∧
      decisions (Machine.trace (memoryStep cfg) .init calls)
        = decisions (Machine.trace (redisStep cfg) ∅ calls) := by
  have hmem := memory_followsWindow cfg hclock
  have hred := redis_followsWindow cfg hclock hmembers
  -- timed runs with distinct members are closed under taking one client
  have hclock' := fun clientId => hclock.filter (fun _ => le_rfl) fun c => c.clientId = clientId
  have hmembers' := fun clientId : PyStr =>
    hmembers.sublist (List.filter_sublist (p := fun c => c.clientId = clientId)
      |>.filterMap Call.member?)
  refine ⟨?_, ?_, ?_⟩
  · refine .of_followsWindow (fun calls => Machine.map_fst_trace _ _ calls) hmem ?_
    intro clientId
    exact memory_followsWindow cfg (hclock' clientId)
  · refine .of_followsWindow (fun calls => Machine.map_fst_trace _ _ calls) hred ?_
    intro clientId
    exact redis_followsWindow cfg (hclock' clientId) (hmembers' clientId)
  · refine hmem.decisions_congr hred ?_
    rw [Machine.map_fst_trace, Machine.map_fst_trace]

/-- A run at a limit of one request in ten seconds: the second call comes too early, the third is
another client's, the last finds the first request out of the window. -/
def boundaryRun : List Call :=
  [⟨PyStr.ofString "a", 0, .isAllowed (PyStr.ofString "0:x")⟩,
    ⟨PyStr.ofString "a", 19 / 2, .isAllowed (PyStr.ofString "9.5:y")⟩,
    ⟨PyStr.ofString "b", 19 / 2, .isAllowed (PyStr.ofString "9.5:z")⟩,
    ⟨PyStr.ofString "a", 19 / 2, .getRetryAfter⟩,
    ⟨PyStr.ofString "a", 10, .isAllowed (PyStr.ofString "10:w")⟩]

theorem slidingWindow_refined_boundaryRun :
    (RefinesWindow ⟨1, 10⟩ (Machine.trace (memoryStep ⟨1, 10⟩) .init) boundaryRun ∧
      RefinesWindow ⟨1, 10⟩ (Machine.trace (redisStep ⟨1, 10⟩) ∅) boundaryRun ∧
      decisions (Machine.trace (memoryStep ⟨1, 10⟩) .init boundaryRun)
        = decisions (Machine.trace (redisStep ⟨1, 10⟩) ∅ boundaryRun)) ∧
    decisions (Machine.trace (memoryStep ⟨1, 10⟩) .init boundaryRun)
      = [some true, some false, some true, none, some true] := by
  refine ⟨slidingWindow_refined ⟨1, 10⟩ (t := 0) ?_ ?_, ?_⟩
  · norm_num [boundaryRun, Machine.Nondecreasing]
  · decide
  · decide +kernel

end McpAuthflow.RateLimiting
