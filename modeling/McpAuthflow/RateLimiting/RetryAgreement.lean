import McpAuthflow.RateLimiting.RetryAfter

/-! # The two backends do not always report the same wait

Redis prunes a record before it reads the oldest score. In memory `get_retry_after` reads the record
as the last `is_allowed` call or sweep left it, so it may see times that have aged out and then
answers a second. One call is answered alike iff nothing in the record has aged out, or something in
it is in its last second (`PrunedForRetry`, `retryFor_live_iff`); a run is, iff all its
`get_retry_after` calls are:

* **`retryAfter_agrees_iff`** — when both backends report the same waits;
* **`retryAfter_disagrees`** — a record that has aged out is answered `1` in memory and `0` by
  Redis. -/

namespace McpAuthflow.RateLimiting

open SlidingWindow

/-! ## One record, pruned or not -/

/-- Reading a record unpruned makes no difference: nothing in it has aged out, or the oldest time in
the window is in its last second there. -/
def PrunedForRetry (cfg : Config) (now : ℚ) (timestamps : List ℚ) : Prop :=
  (∀ t ∈ timestamps, now - t < cfg.window) ∨
    ∃ t ∈ timestamps, cfg.window - 1 < now - t ∧ now - t < cfg.window

instance (cfg : Config) (now : ℚ) (timestamps : List ℚ) :
    Decidable (PrunedForRetry cfg now timestamps) :=
  inferInstanceAs (Decidable (_ ∨ _))

/-- The wait does not depend on the order of the record. -/
theorem retryFor_perm (cfg : Config) (now : ℚ) {ts us : List ℚ} (h : ts.Perm us) :
    retryFor cfg now ts = retryFor cfg now us := by
  have hmin : ts.min? = us.min? := by
    cases hts : ts.min? with
    | none =>
      rw [List.min?_eq_none_iff] at hts
      subst hts
      rw [← h.nil_eq]
      rfl
    | some oldest =>
      obtain ⟨hmem, hle⟩ := List.min?_eq_some_iff.mp hts
      refine (List.min?_eq_some_iff.mpr ⟨h.subset hmem, ?_⟩).symm
      intro a ha
      exact hle a (h.symm.subset ha)
  rw [retryFor, retryFor, hmin]

/-- The wait for a time that has aged out is a second. -/
theorem retryAfterOldest_of_window_le {cfg : Config} {now oldest : ℚ}
    (h : cfg.window ≤ now - oldest) : retryAfterOldest cfg now oldest = 1 := by
  have hnonpos : pyInt (cfg.window - (now - oldest)) ≤ 0 := pyInt_nonpos (by linarith)
  unfold retryAfterOldest
  omega

/-- The wait for a time in the window is a second in its last second there, and more before. -/
theorem retryAfterOldest_eq_one_iff {cfg : Config} {now oldest : ℚ}
    (h : now - oldest < cfg.window) :
    retryAfterOldest cfg now oldest = 1 ↔ cfg.window - 1 < now - oldest := by
  have hpos : 0 ≤ cfg.window - (now - oldest) := by linarith
  have hfloor := Int.floor_nonneg.mpr hpos
  have hone : retryAfterOldest cfg now oldest = 1 ↔ ⌊cfg.window - (now - oldest)⌋ < 1 := by
    rw [retryAfterOldest, pyInt_of_nonneg hpos]
    omega
  rw [hone, Int.floor_lt, Int.cast_one]
  constructor <;> intro hlt <;> linarith

/-- **When pruning makes no difference to the wait.** -/
theorem retryFor_live_iff (cfg : Config) (now : ℚ) (timestamps : List ℚ) :
    retryFor cfg now timestamps = retryFor cfg now (live cfg.window now timestamps) ↔
      PrunedForRetry cfg now timestamps := by
  by_cases hall : ∀ t ∈ timestamps, now - t < cfg.window
  · have hself : live cfg.window now timestamps = timestamps :=
      List.filter_eq_self.mpr fun t ht => decide_eq_true (hall t ht)
    rw [hself]
    exact iff_of_true rfl (Or.inl hall)
  · -- something has aged out, so the oldest time has
    obtain ⟨old, hold, hgone⟩ : ∃ t ∈ timestamps, cfg.window ≤ now - t := by
      simpa using hall
    obtain ⟨oldest, hmin⟩ : ∃ oldest, timestamps.min? = some oldest := by
      cases hmin : timestamps.min? with
      | none =>
        rw [List.min?_eq_none_iff.mp hmin] at hold
        exact absurd hold List.not_mem_nil
      | some oldest => exact ⟨oldest, rfl⟩
    have hle : oldest ≤ old := (List.min?_eq_some_iff.mp hmin).2 old hold
    have hleft : retryFor cfg now timestamps = 1 := by
      rw [retryFor, hmin]
      exact retryAfterOldest_of_window_le (by linarith)
    rw [hleft, PrunedForRetry, or_iff_right hall, retryFor]
    cases hlive : (live cfg.window now timestamps).min? with
    | none =>
      rw [List.min?_eq_none_iff] at hlive
      refine iff_of_false (by simp) ?_
      rintro ⟨t, ht, -, hin⟩
      have hmem : t ∈ live cfg.window now timestamps :=
        List.mem_filter.mpr ⟨ht, decide_eq_true hin⟩
      rw [hlive] at hmem
      exact absurd hmem List.not_mem_nil
    | some first =>
      obtain ⟨hmem, hfirst⟩ := List.min?_eq_some_iff.mp hlive
      obtain ⟨hmem, hin⟩ := List.mem_filter.mp hmem
      rw [eq_comm, retryAfterOldest_eq_one_iff (of_decide_eq_true hin)]
      constructor
      · intro hlast
        exact ⟨first, hmem, hlast, of_decide_eq_true hin⟩
      · rintro ⟨t, ht, hlast, hin'⟩
        have hle := hfirst t (List.mem_filter.mpr ⟨ht, decide_eq_true hin'⟩)
        linarith

/-! ## Both backends side by side -/

/-- The wait a reply carries. -/
def Reply.wait? : Reply → Option ℤ
  | .allowed _ => none
  | .retryAfter seconds => some seconds

/-- Both backends track the same trace, and the calls to come are timed and name fresh members. -/
def SideBySide (cfg : Config) (s : MemoryLimiter) (db : RedisStore) (calls : List Call) : Prop :=
  ∃ t tr, s.Tracks cfg t tr ∧ RedisStore.Tracks cfg t db tr ∧ RedisStore.Within cfg t db ∧
    Machine.Nondecreasing Call.time Call.time t calls ∧
    (usedMembers tr ++ calls.filterMap Call.member?).Nodup

/-- The condition under which one call is answered alike. -/
def AnsweredAlike (cfg : Config) (s : MemoryLimiter) (call : Call) : Prop :=
  call.op = .getRetryAfter → PrunedForRetry cfg call.time (s.timestamps call.clientId)

/-- **One call**: both backends report the same wait iff the in-memory record is as good as pruned,
and they decide alike in any case. -/
theorem step_alike_iff {cfg : Config} {t : ℚ} {s : MemoryLimiter} {db : RedisStore} {tr : CallTrace}
    {call : Call} (hs : s.Tracks cfg t tr) (hdb : RedisStore.Tracks cfg t db tr)
    (hw : RedisStore.Within cfg t db) (ht : t ≤ call.time)
    (hfresh : ∀ member, call.member? = some member → member ∉ usedMembers tr) :
    ((memoryStep cfg s call).2 = (redisStep cfg db call).2 ↔ AnsweredAlike cfg s call) ∧
      ((memoryStep cfg s call).2.wait? = (redisStep cfg db call).2.wait? ↔
        AnsweredAlike cfg s call) := by
  obtain ⟨clientId, now, op⟩ := call
  cases op with
  | isAllowed member =>
    -- both decide as the sliding window does
    have hmem := (memoryStep_tracks hs ht).1
    have hred := (redisStep_tracks hdb ht hfresh).1
    have heq : (memoryStep cfg s ⟨clientId, now, .isAllowed member⟩).2
        = (redisStep cfg db ⟨clientId, now, .isAllowed member⟩).2 := by
      have hdec := hmem.trans hred.symm
      simpa [memoryStep, redisStep, Reply.decision?] using hdec
    have hop : AnsweredAlike cfg s ⟨clientId, now, .isAllowed member⟩ := by
      intro hop
      cases hop
    exact ⟨iff_of_true heq hop, iff_of_true (congrArg Reply.wait? heq) hop⟩
  | getRetryAfter =>
    -- Redis answers from the pruned set, the memory from the times as they are
    have hred : (redisStep cfg db ⟨clientId, now, .getRetryAfter⟩).2
        = .retryAfter (retryFor cfg now (live cfg.window now (s.timestamps clientId))) := by
      have hperm := hdb.scores clientId now ht
      rw [← hs clientId now ht] at hperm
      rw [← retryFor_perm cfg now hperm, ← getRetryAfterRedis_snd hw ht]
      rfl
    have hmem : (memoryStep cfg s ⟨clientId, now, .getRetryAfter⟩).2
        = .retryAfter (retryFor cfg now (s.timestamps clientId)) := rfl
    rw [hred, hmem, Reply.retryAfter.injEq, Reply.wait?, Reply.wait?, Option.some_inj,
      retryFor_live_iff]
    have hop : AnsweredAlike cfg s ⟨clientId, now, .getRetryAfter⟩ ↔
        PrunedForRetry cfg now (s.timestamps clientId) :=
      ⟨fun h => h rfl, fun h _ => h⟩
    exact ⟨hop.symm, hop.symm⟩

/-- A call that both answer alike leaves them side by side. -/
theorem SideBySide.step {cfg : Config} {s : MemoryLimiter} {db : RedisStore} {call : Call}
    {calls : List Call} (hW : 1 ≤ cfg.windowSeconds)
    (h : SideBySide cfg s db (call :: calls)) :
    ((memoryStep cfg s call).2.wait? = (redisStep cfg db call).2.wait? ↔
        AnsweredAlike cfg s call) ∧
      (AnsweredAlike cfg s call →
        SideBySide cfg (memoryStep cfg s call).1 (redisStep cfg db call).1 calls) := by
  obtain ⟨t, tr, hs, hdb, hw, ⟨ht, hclock⟩, hnodup⟩ := h
  have hfresh : ∀ member, call.member? = some member → member ∉ usedMembers tr := by
    intro member hmem hused
    rw [List.filterMap_cons_some hmem, List.nodup_append] at hnodup
    exact hnodup.2.2 member hused member List.mem_cons_self rfl
  obtain ⟨hreply, hwait⟩ := step_alike_iff hs hdb hw ht hfresh
  refine ⟨hwait, fun halike => ⟨call.time, tr ++ [(call, (memoryStep cfg s call).2)], ?_⟩⟩
  refine ⟨(memoryStep_tracks hs ht).2, ?_, (redisView cfg hW).inv_step hw ht, hclock, ?_⟩
  · rw [hreply.mpr halike]
    exact (redisStep_tracks hdb ht hfresh).2
  · have hsplit : usedMembers (tr ++ [(call, (memoryStep cfg s call).2)])
        ++ calls.filterMap Call.member?
      = usedMembers tr ++ (call :: calls).filterMap Call.member? := by
      rw [usedMembers, List.filterMap_append, List.append_assoc, ← usedMembers]
      cases hm : call.member? <;> simp [hm]
    rw [hsplit]
    exact hnodup

/-- **When both backends report the same waits.** On a sequential run at nondecreasing times, with
distinct member names, they do iff at each `get_retry_after` call the in-memory record is as good as
pruned. -/
theorem retryAfter_agrees_iff (cfg : Config) (hN : 1 ≤ cfg.requestsPerWindow)
    (hW : 1 ≤ cfg.windowSeconds) {t : ℚ} {calls : List Call}
    (hclock : Machine.Nondecreasing Call.time Call.time t calls)
    (hmembers : (calls.filterMap Call.member?).Nodup) :
    (Machine.outputs (memoryStep cfg) .init calls).map Reply.wait?
        = (Machine.outputs (redisStep cfg) ∅ calls).map Reply.wait? ↔
      Machine.AllSteps (memoryStep cfg) (fun s _ call => AnsweredAlike cfg s call) .init calls :=
  Machine.outputs_eq_iff_allSteps
    (R := SideBySide cfg)
    (fun s db call calls h halike => ⟨(h.step hW).1.mpr halike, (h.step hW).2 halike⟩)
    (fun s db call calls h halike hreply => halike ((h.step hW).1.mp hreply))
    [] ⟨t, [], fun _ _ _ => rfl,
      ⟨fun _ _ _ => List.Perm.refl _, by simp, by simp [RedisStore.zset]⟩, within_empty cfg hN t,
      hclock, hmembers⟩

/-- A client calls at second 0 and asks at a clock reading. -/
def askingRun (now : ℚ) : List Call :=
  [⟨PyStr.ofString "a", 0, .isAllowed (PyStr.ofString "0:x")⟩,
    ⟨PyStr.ofString "a", now, .getRetryAfter⟩]

/-- Asked within the window, both report the same. -/
theorem retryAfter_agrees_iff_inWindow :
    ((Machine.outputs (memoryStep ⟨5, 10⟩) .init (askingRun 3)).map Reply.wait?
        = (Machine.outputs (redisStep ⟨5, 10⟩) ∅ (askingRun 3)).map Reply.wait? ↔
      Machine.AllSteps (memoryStep ⟨5, 10⟩) (fun s _ call => AnsweredAlike ⟨5, 10⟩ s call) .init
        (askingRun 3)) ∧
    (Machine.outputs (memoryStep ⟨5, 10⟩) .init (askingRun 3)).map Reply.wait?
      = [none, some 8] := by
  refine ⟨retryAfter_agrees_iff ⟨5, 10⟩ (by decide) (by decide) (t := 0) ?_ ?_, ?_⟩
  · norm_num [askingRun, Machine.Nondecreasing]
  · decide
  · decide +kernel

/-- **The waits differ** once the recorded requests have all aged out. -/
theorem retryAfter_disagrees :
    Machine.Nondecreasing Call.time Call.time 0 (askingRun 20) ∧
      ((askingRun 20).filterMap Call.member?).Nodup ∧
      (Machine.outputs (memoryStep ⟨5, 10⟩) .init (askingRun 20)).map Reply.wait? = [none, some 1] ∧
      (Machine.outputs (redisStep ⟨5, 10⟩) ∅ (askingRun 20)).map Reply.wait? = [none, some 0] := by
  refine ⟨?_, by decide, by decide +kernel, by decide +kernel⟩
  norm_num [askingRun, Machine.Nondecreasing]

end McpAuthflow.RateLimiting
