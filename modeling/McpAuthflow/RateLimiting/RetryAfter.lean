import McpAuthflow.RateLimiting.Refinement

/-! # `get_retry_after` tells a denied client when to come back

What a client can see of its own record at a clock reading are the admitted times still in the
window. A backend is described here by that view (`WindowView`): the clock only ages it, calls that
admit nothing of the client leave it alone, it decides `is_allowed`, and a full view is answered
with the wait for its oldest time. Both backends have one, `memoryView` and `redisView`, on every
run, and from the view alone follows:

* **`retryAfter_sound`** — a client that waits as told is admitted, and the wait is at most one
  second too long. -/

namespace McpAuthflow.RateLimiting

open SlidingWindow

/-! ## The wait for the oldest time -/

/-- The answer to a client with these recorded times. -/
def retryFor (cfg : Config) (now : ℚ) (times : List ℚ) : ℤ :=
  match times.min? with
  | none => 0
  | some oldest => retryAfterOldest cfg now oldest

/-- Whoever waits as told finds the oldest time out of the window. -/
theorem window_lt_of_retryAfterOldest_le {cfg : Config} {now later oldest : ℚ}
    (h : now + retryAfterOldest cfg now oldest ≤ later) : cfg.window < later - oldest := by
  have htrunc := lt_pyInt_add_one (cfg.window - (now - oldest))
  have hmax : ((pyInt (cfg.window - (now - oldest)) + 1 : ℤ) : ℚ)
      ≤ retryAfterOldest cfg now oldest :=
    Int.cast_le.mpr (le_max_left _ _)
  push_cast at hmax
  linarith

/-- A time in the window stays in it until the last second of the wait. -/
theorem retryAfterOldest_sub_one_le {cfg : Config} {now oldest : ℚ}
    (h : now - oldest < cfg.window) :
    ((retryAfterOldest cfg now oldest : ℤ) : ℚ) - 1 ≤ cfg.window - (now - oldest) := by
  have hpos : 0 ≤ cfg.window - (now - oldest) := by linarith
  have hfloor := Int.floor_nonneg.mpr hpos
  have hle := Int.floor_le (cfg.window - (now - oldest))
  have hwait : retryAfterOldest cfg now oldest = ⌊cfg.window - (now - oldest)⌋ + 1 := by
    rw [retryAfterOldest, pyInt_of_nonneg hpos]
    omega
  rw [hwait]
  push_cast
  linarith

/-- Every wait is at least a second. -/
theorem one_le_retryAfterOldest (cfg : Config) (now oldest : ℚ) :
    1 ≤ retryAfterOldest cfg now oldest :=
  le_max_right _ _

/-- The wait for a time in the past is at most a second longer than the window. -/
theorem retryAfterOldest_le {cfg : Config} {now oldest : ℚ} (hpast : oldest ≤ now)
    (h : now - oldest < cfg.window) :
    retryAfterOldest cfg now oldest ≤ cfg.windowSeconds + 1 := by
  have hle := retryAfterOldest_sub_one_le h
  have hcast : ((retryAfterOldest cfg now oldest : ℤ) : ℚ) ≤ ((cfg.windowSeconds + 1 : ℤ) : ℚ) := by
    push_cast
    unfold Config.window at hle
    linarith
  exact Int.cast_le.mp hcast

/-- Every wait for times in the past lies between none and the window and a second, or is a
second. -/
theorem retryFor_bounds {cfg : Config} {now : ℚ} {times : List ℚ} (hpast : ∀ a ∈ times, a ≤ now) :
    0 ≤ retryFor cfg now times ∧ retryFor cfg now times ≤ max 1 (cfg.windowSeconds + 1) := by
  unfold retryFor
  cases hmin : times.min? with
  | none => exact ⟨le_rfl, le_trans zero_le_one (le_max_left _ _)⟩
  | some oldest =>
    have hold := hpast oldest (List.min?_mem hmin)
    refine ⟨le_trans zero_le_one (one_le_retryAfterOldest cfg now oldest), ?_⟩
    rcases lt_or_ge (now - oldest) cfg.window with hlive | hgone
    · exact le_trans (retryAfterOldest_le hold hlive) (le_max_right _ _)
    · -- a time that has left the window is a second's wait
      have hneg : pyInt (cfg.window - (now - oldest)) ≤ 0 := pyInt_nonpos (by linarith)
      have hone : retryAfterOldest cfg now oldest = 1 := max_eq_right (by omega)
      exact le_trans hone.le (le_max_left _ _)

/-- What is left of a full view once its oldest time has left the window does not fill it. -/
theorem length_live_lt {cfg : Config} {times : List ℚ} {later : ℚ} (now : ℚ)
    (hN : 1 ≤ cfg.requestsPerWindow) (hmost : (times.length : ℤ) ≤ cfg.requestsPerWindow)
    (hwait : cfg.requestsPerWindow ≤ times.length → now + (retryFor cfg now times : ℚ) ≤ later) :
    ((live cfg.window later times).length : ℤ) < cfg.requestsPerWindow := by
  have hle : (live cfg.window later times).length ≤ times.length := List.length_filter_le _ _
  by_cases hfull : cfg.requestsPerWindow ≤ times.length
  · have hwait := hwait hfull
    unfold retryFor at hwait
    cases hmin : times.min? with
    | none =>
      rw [List.min?_eq_none_iff.mp hmin, List.length_nil] at hfull
      omega
    | some oldest =>
      rw [hmin] at hwait
      have hgone := window_lt_of_retryAfterOldest_le hwait
      have hlt : (live cfg.window later times).length < times.length := by
        apply List.length_filter_lt_length_iff_exists.mpr
        refine ⟨oldest, List.min?_mem hmin, ?_⟩
        simpa using hgone.le
      omega
  · omega

/-- A full view is still full in the last but one second of the wait. -/
theorem live_eq_self {cfg : Config} {times : List ℚ} {now later : ℚ}
    (hlive : ∀ a ∈ times, now - a < cfg.window)
    (hlater : later < now + ((retryFor cfg now times : ℚ) - 1)) :
    live cfg.window later times = times := by
  apply List.filter_eq_self.mpr
  intro a ha
  unfold retryFor at hlater
  cases hmin : times.min? with
  | none =>
    rw [List.min?_eq_none_iff.mp hmin] at ha
    exact absurd ha List.not_mem_nil
  | some oldest =>
    rw [hmin] at hlater
    have hle : oldest ≤ a := (List.min?_eq_some_iff.mp hmin).2 a ha
    have hstays := retryAfterOldest_sub_one_le (hlive oldest (List.min?_mem hmin))
    simp only at hlater
    simp only [decide_eq_true_eq]
    linarith

/-! ## What a backend shows of a client's record -/

/-- **The view of a backend**: the times of a client's record in the window at a clock reading, and
what the calls do to them. -/
structure WindowView {σ : Type*} (cfg : Config) (step : σ → Call → σ × Reply) where
  /-- What holds of the state as of a clock reading. -/
  Inv : ℚ → σ → Prop
  /-- The times of a client that are in the window at a clock reading. -/
  seen : σ → ℚ → PyStr → List ℚ
  inv_step : ∀ {t s} {call : Call}, Inv t s → t ≤ call.time → Inv call.time (step s call).1
  /-- The clock ages the record and does nothing else. -/
  seen_later : ∀ {t s now later}, Inv t s → t ≤ now → now ≤ later → ∀ clientId,
    seen s later clientId = live cfg.window later (seen s now clientId)
  /-- A call that is no admission of the client leaves its times alone. -/
  seen_step : ∀ {t s} {call : Call} {clientId}, Inv t s → t ≤ call.time →
    ¬ (call.clientId = clientId ∧ (step s call).2.decision? = some true) →
    ∀ later, call.time ≤ later → seen (step s call).1 later clientId = seen s later clientId
  past : ∀ {t s now clientId}, Inv t s → t ≤ now → ∀ a ∈ seen s now clientId, a ≤ now
  atMost : ∀ {t s now}, Inv t s → t ≤ now → ∀ clientId,
    ((seen s now clientId).length : ℤ) ≤ cfg.requestsPerWindow
  /-- The view decides `is_allowed`. -/
  isAllowed : ∀ {t s clientId now}, Inv t s → t ≤ now → ∀ member,
    (step s ⟨clientId, now, .isAllowed member⟩).2
      = .allowed (decide (((seen s now clientId).length : ℤ) < cfg.requestsPerWindow))
  /-- `get_retry_after` admits nothing. -/
  asked : ∀ {s clientId now}, (step s ⟨clientId, now, .getRetryAfter⟩).2.decision? = none
  /-- A full view is answered with the wait for its oldest time. -/
  getRetryAfter : ∀ {t s clientId now}, Inv t s → t ≤ now →
    cfg.requestsPerWindow ≤ (seen s now clientId).length →
    (step s ⟨clientId, now, .getRetryAfter⟩).2
      = .retryAfter (retryFor cfg now (seen s now clientId))
  /-- Whatever the view, the wait is the one for some times in the past. -/
  waits : ∀ {t s now} clientId, Inv t s → t ≤ now → ∃ times : List ℚ, (∀ a ∈ times, a ≤ now) ∧
    (step s ⟨clientId, now, .getRetryAfter⟩).2 = .retryAfter (retryFor cfg now times)

namespace WindowView

variable {σ : Type*} {cfg : Config} {step : σ → Call → σ × Reply} (v : WindowView cfg step)

/-- The view decides an `is_allowed` call. -/
theorem reply_of_isAllowed {t : ℚ} {s : σ} {call : Call} {member : PyStr} (h : v.Inv t s)
    (ht : t ≤ call.time) (hop : call.op = .isAllowed member) :
    (step s call).2
      = .allowed (decide (((v.seen s call.time call.clientId).length : ℤ)
          < cfg.requestsPerWindow)) := by
  obtain ⟨clientId, now, op⟩ := call
  obtain rfl : op = .isAllowed member := hop
  exact v.isAllowed h ht member

/-- A wait answered to a client with a full view is that for its oldest time. -/
theorem wait_of_full {t : ℚ} {s : σ} {call : Call} {r : ℤ} (h : v.Inv t s) (ht : t ≤ call.time)
    (hfull : cfg.requestsPerWindow ≤ (v.seen s call.time call.clientId).length)
    (hr : (step s call).2 = .retryAfter r) :
    r = retryFor cfg call.time (v.seen s call.time call.clientId) := by
  obtain ⟨clientId, now, op⟩ := call
  cases op with
  | isAllowed member =>
    rw [v.isAllowed h ht] at hr
    exact absurd hr (by simp)
  | getRetryAfter =>
    rw [v.getRetryAfter h ht hfull, Reply.retryAfter.injEq] at hr
    exact hr.symm

/-- An admission is decided against a view that is not full. -/
theorem length_seen_lt_of_admitted {t : ℚ} {s : σ} {call : Call} (h : v.Inv t s)
    (ht : t ≤ call.time) (hr : (step s call).2.decision? = some true) :
    ((v.seen s call.time call.clientId).length : ℤ) < cfg.requestsPerWindow := by
  obtain ⟨clientId, now, op⟩ := call
  cases op with
  | isAllowed member => simpa [v.isAllowed h ht, Reply.decision?] using hr
  | getRetryAfter =>
    rw [v.asked] at hr
    exact absurd hr (by simp)

/-- The invariant of a view holds along every timed run. -/
theorem inv_final {t : ℚ} {s : σ} {calls : List Call} (h : v.Inv t s)
    (hclock : Machine.Nondecreasing Call.time Call.time t calls) :
    v.Inv (Machine.lastReading Call.time t calls) (Machine.final step s calls) :=
  Machine.timed_invariant step Call.time Call.time (fun t s _ => v.Inv t s)
    (fun _ _ _ _ hinv ht => v.inv_step hinv ht) h hclock

/-- A run without an admission of the client leaves its times alone. -/
theorem seen_final {t : ℚ} {s : σ} {calls : List Call} {clientId : PyStr} (h : v.Inv t s)
    (hclock : Machine.Nondecreasing Call.time Call.time t calls)
    (hnone : admittedTimes clientId (Machine.trace step s calls) = []) {later : ℚ}
    (hle : Machine.lastReading Call.time t calls ≤ later) :
    v.seen (Machine.final step s calls) later clientId = v.seen s later clientId := by
  induction calls generalizing t s with
  | nil => rfl
  | cons call calls ih =>
    obtain ⟨ht, hclock⟩ := hclock
    rw [Machine.trace_cons, ← List.singleton_append, admittedTimes_append,
      List.append_eq_nil_iff] at hnone
    have hnot : ¬ (call.clientId = clientId ∧ (step s call).2.decision? = some true) := by
      rintro ⟨hc, hr⟩
      rw [admittedTimes_singleton_of_admitted hc hr] at hnone
      exact List.cons_ne_nil _ _ hnone.1
    have hcall : call.time ≤ later := le_trans (hclock.le_lastReading fun _ => le_rfl) hle
    rw [Machine.final_cons, ih (v.inv_step h ht) hclock hnone.2 hle,
      v.seen_step h ht hnot later hcall]

/-- **A full view denies.** While a client's times fill the window up to a reading `T`, every
`is_allowed` call of it up to `T` is denied, so they still do. -/
theorem denied_while_full {t : ℚ} {s : σ} {calls : List Call} {next : Call} {member : PyStr}
    (h : v.Inv t s) (hclock : Machine.Nondecreasing Call.time Call.time t (calls ++ [next]))
    (hop : next.op = .isAllowed member)
    (hfull : cfg.requestsPerWindow ≤ (v.seen s next.time next.clientId).length) :
    (step (Machine.final step s calls) next).2 = .allowed false := by
  induction calls generalizing t s with
  | nil =>
    rw [Machine.final_nil, v.reply_of_isAllowed h hclock.1 hop, decide_eq_false (not_lt.mpr hfull)]
  | cons call calls ih =>
    obtain ⟨ht, hclock⟩ := hclock
    have hle : call.time ≤ next.time := by
      rw [← Machine.lastReading_concat Call.time call.time calls next]
      exact hclock.le_lastReading fun _ => le_rfl
    -- an admission of the client would have found it full already
    have hnot : ¬ (call.clientId = next.clientId ∧ (step s call).2.decision? = some true) := by
      rintro ⟨hc, hr⟩
      have hunder := v.length_seen_lt_of_admitted h ht hr
      have hshrink : (v.seen s next.time next.clientId).length
          ≤ (v.seen s call.time next.clientId).length := by
        rw [v.seen_later h ht hle]
        exact List.length_filter_le _ _
      rw [hc] at hunder
      omega
    refine ih (v.inv_step h ht) hclock ?_
    rw [v.seen_step h ht hnot next.time hle]
    exact hfull

end WindowView

/-! ## What the answer promises -/

/-- **What `get_retry_after` promises of a backend**, on every timed run of it. -/
structure RetryAfterSound {σ : Type*} (cfg : Config) (step : σ → Call → σ × Reply) (init : σ) :
    Prop where
  /-- A client that was told to wait and has waited is admitted, unless it was admitted meanwhile.
  Other clients may call, and so may the client. -/
  sufficient : ∀ {t : ℚ} {calls pre query post next reply member} {r : ℤ},
    Machine.Nondecreasing Call.time Call.time t calls →
    Machine.trace step init calls = pre ++ (query, .retryAfter r) :: (post ++ [(next, reply)]) →
    next.clientId = query.clientId → next.op = .isAllowed member →
    admittedTimes query.clientId post = [] → query.time + (r : ℚ) ≤ next.time →
    reply = .allowed true
  /-- A client that was denied and asks at once is told at most one second too much: up to the last
  second of the wait it is denied, whatever is called meanwhile. -/
  tight : ∀ {t : ℚ} {calls pre denied mid query post next reply member member'} {r : ℤ},
    Machine.Nondecreasing Call.time Call.time t calls →
    Machine.trace step init calls
      = pre ++ (denied, .allowed false) ::
        (mid ++ (query, .retryAfter r) :: (post ++ [(next, reply)])) →
    denied.op = .isAllowed member → query.clientId = denied.clientId →
    admittedTimes denied.clientId mid = [] → query.time = denied.time →
    next.clientId = denied.clientId → next.op = .isAllowed member' →
    next.time < denied.time + ((r : ℚ) - 1) → reply = .allowed false
  /-- The wait of a client that was denied and asks at once lies between a second and the window and
  a second. -/
  bounds : ∀ {t : ℚ} {calls pre denied mid query post member} {r : ℤ},
    Machine.Nondecreasing Call.time Call.time t calls →
    Machine.trace step init calls
      = pre ++ (denied, .allowed false) :: (mid ++ (query, .retryAfter r) :: post) →
    denied.op = .isAllowed member → query.clientId = denied.clientId →
    admittedTimes denied.clientId mid = [] → query.time = denied.time →
    1 ≤ r ∧ r ≤ cfg.windowSeconds + 1

namespace WindowView

variable {σ : Type*} {cfg : Config} {step : σ → Call → σ × Reply} (v : WindowView cfg step)

include v in
/-- From the answer to a `get_retry_after` call to the call that comes after the wait. -/
theorem admitted_after_wait {t : ℚ} {s : σ} {query next : Call} {post : List Call} {r : ℤ}
    {member : PyStr} (hN : 1 ≤ cfg.requestsPerWindow) (h : v.Inv t s)
    (hclock : Machine.Nondecreasing Call.time Call.time t (query :: (post ++ [next])))
    (hr : (step s query).2 = .retryAfter r) (hc : next.clientId = query.clientId)
    (hop : next.op = .isAllowed member)
    (hnone : admittedTimes query.clientId (Machine.trace step (step s query).1 post) = [])
    (hwait : query.time + (r : ℚ) ≤ next.time) :
    (step (Machine.final step (step s query).1 post) next).2 = .allowed true := by
  obtain ⟨ht, hclock⟩ := hclock
  obtain ⟨hpost, hlast⟩ := (Machine.nondecreasing_concat _ _ _ post next).mp hclock
  have hquery : query.time ≤ next.time :=
    le_trans (hpost.le_lastReading fun _ => le_rfl) hlast
  have hinv := v.inv_final (v.inv_step h ht) hpost
  -- the record at the last call is that at the query, aged
  have hseen : v.seen (Machine.final step (step s query).1 post) next.time query.clientId
      = live cfg.window next.time (v.seen s query.time query.clientId) := by
    rw [v.seen_final (v.inv_step h ht) hpost hnone hlast,
      v.seen_step h ht (by simp [hr, Reply.decision?]) next.time hquery,
      v.seen_later h ht hquery]
  rw [v.reply_of_isAllowed hinv hlast hop, hc, hseen, decide_eq_true]
  refine length_live_lt query.time hN (v.atMost h ht query.clientId) ?_
  intro hfull
  rw [← v.wait_of_full h ht hfull hr]
  exact hwait

/-- The times seen are in the window. -/
theorem window_of_mem_seen {t now : ℚ} {s : σ} (h : v.Inv t s) (ht : t ≤ now) {clientId : PyStr}
    {a : ℚ} (ha : a ∈ v.seen s now clientId) : now - a < cfg.window := by
  rw [v.seen_later h ht le_rfl] at ha
  simpa using List.of_mem_filter ha

/-- A client whose view is full when it asks is denied up to the last second of the wait. -/
theorem denied_before_wait {t : ℚ} {s : σ} {query next : Call} {post : List Call} {r : ℤ}
    {member : PyStr} (h : v.Inv t s)
    (hclock : Machine.Nondecreasing Call.time Call.time t (query :: (post ++ [next])))
    (hfull : cfg.requestsPerWindow ≤ (v.seen s query.time query.clientId).length)
    (hr : (step s query).2 = .retryAfter r) (hc : next.clientId = query.clientId)
    (hop : next.op = .isAllowed member) (hearly : next.time < query.time + ((r : ℚ) - 1)) :
    (step (Machine.final step (step s query).1 post) next).2 = .allowed false := by
  obtain ⟨ht, hclock⟩ := hclock
  have hle : query.time ≤ next.time := by
    rw [← Machine.lastReading_concat Call.time query.time post next]
    exact hclock.le_lastReading fun _ => le_rfl
  have hwait := v.wait_of_full h ht hfull hr
  have hstays : live cfg.window next.time (v.seen s query.time query.clientId)
      = v.seen s query.time query.clientId :=
    live_eq_self (fun a ha => v.window_of_mem_seen h ht ha) (hwait ▸ hearly)
  apply v.denied_while_full (v.inv_step h ht) hclock hop
  rw [hc, v.seen_step h ht (by simp [hr, Reply.decision?]) next.time hle, v.seen_later h ht hle,
    hstays]
  exact hfull

/-- The wait of a client whose view is full lies between a second and the window and a second. -/
theorem wait_bounds {t : ℚ} {s : σ} {query : Call} {r : ℤ} (hN : 1 ≤ cfg.requestsPerWindow)
    (h : v.Inv t s) (ht : t ≤ query.time)
    (hfull : cfg.requestsPerWindow ≤ (v.seen s query.time query.clientId).length)
    (hr : (step s query).2 = .retryAfter r) : 1 ≤ r ∧ r ≤ cfg.windowSeconds + 1 := by
  rw [v.wait_of_full h ht hfull hr, retryFor]
  cases hmin : (v.seen s query.time query.clientId).min? with
  | none =>
    rw [List.min?_eq_none_iff.mp hmin, List.length_nil] at hfull
    omega
  | some oldest =>
    have hmem : oldest ∈ v.seen s query.time query.clientId := List.min?_mem hmin
    exact ⟨one_le_retryAfterOldest cfg query.time oldest,
      retryAfterOldest_le (v.past h ht oldest hmem) (v.window_of_mem_seen h ht hmem)⟩

/-- **Whenever a client asks**, it is told a wait between none and the window and a second. -/
theorem wait_of_run {init : σ} (hinit : ∀ t, v.Inv t init) {t : ℚ} {calls : List Call}
    {pre post : CallTrace} {query : Call} {r : ℤ}
    (hclock : Machine.Nondecreasing Call.time Call.time t calls)
    (htrace : Machine.trace step init calls = pre ++ (query, .retryAfter r) :: post) :
    0 ≤ r ∧ r ≤ max 1 (cfg.windowSeconds + 1) := by
  obtain ⟨calls₁, calls₂, rfl, -, hr, -⟩ := Machine.trace_eq_append_cons step htrace
  obtain ⟨hpre, ht, -⟩ := (Machine.nondecreasing_append _ _ _ _ _).mp hclock
  have hinv := v.inv_final (hinit t) hpre
  obtain ⟨clientId, now, op⟩ := query
  cases op with
  | isAllowed member =>
    rw [v.isAllowed hinv ht] at hr
    cases hr
  | getRetryAfter =>
    obtain ⟨times, hpast, hwait⟩ := v.waits clientId hinv ht
    rw [hwait, Reply.retryAfter.injEq] at hr
    rw [hr]
    exact retryFor_bounds hpast

/-- The view of a client that was denied is full as long as the clock stands still, and the calls in
between keep the invariant. -/
theorem full_of_denied {t : ℚ} {s : σ} {denied query : Call} {mid : List Call} {member : PyStr}
    (h : v.Inv t s) (ht : t ≤ denied.time)
    (hmid : Machine.Nondecreasing Call.time Call.time denied.time mid)
    (hlast : Machine.lastReading Call.time denied.time mid ≤ query.time)
    (hdenied : (step s denied).2 = .allowed false) (hop : denied.op = .isAllowed member)
    (hc : query.clientId = denied.clientId)
    (hnone : admittedTimes denied.clientId (Machine.trace step (step s denied).1 mid) = [])
    (htime : query.time = denied.time) :
    v.Inv (Machine.lastReading Call.time denied.time mid)
        (Machine.final step (step s denied).1 mid) ∧
      cfg.requestsPerWindow ≤
        (v.seen (Machine.final step (step s denied).1 mid) query.time query.clientId).length := by
  refine ⟨v.inv_final (v.inv_step h ht) hmid, ?_⟩
  rw [v.reply_of_isAllowed h ht hop, Reply.allowed.injEq, decide_eq_false_iff_not, not_lt]
    at hdenied
  rw [hc, v.seen_final (v.inv_step h ht) hmid hnone hlast,
    v.seen_step h ht (by simp [v.reply_of_isAllowed h ht hop, Reply.decision?, hdenied])
      query.time htime.ge, htime]
  exact hdenied

/-- **A backend with a view of its records keeps the promise.** -/
theorem retryAfterSound {init : σ} (hinit : ∀ t, v.Inv t init) (hN : 1 ≤ cfg.requestsPerWindow) :
    RetryAfterSound cfg step init where
  sufficient := by
    intro t calls pre query post next reply member r hclock htrace hc hop hnone hwait
    obtain ⟨calls₁, rest, rfl, rfl, hr, hrest⟩ := Machine.trace_eq_append_cons step htrace
    obtain ⟨calls₂, tail, rfl, rfl, rfl, htail⟩ :=
      Machine.trace_eq_append_cons step hrest.symm
    obtain rfl : tail = [] := by simpa using congrArg (List.map Prod.fst) htail.symm
    obtain ⟨hpre, hclock⟩ := (Machine.nondecreasing_append _ _ _ _ _).mp hclock
    exact v.admitted_after_wait hN (v.inv_final (hinit t) hpre) hclock hr.symm hc hop hnone hwait
  tight := by
    intro t calls pre denied mid query post next reply member member' r hclock htrace hop hc hnone
      htime hc' hop' hearly
    obtain ⟨calls₁, rest, rfl, rfl, hdenied, hrest⟩ := Machine.trace_eq_append_cons step htrace
    obtain ⟨calls₂, rest, rfl, rfl, hr, hrest⟩ := Machine.trace_eq_append_cons step hrest.symm
    obtain ⟨calls₃, tail, rfl, -, rfl, htail⟩ := Machine.trace_eq_append_cons step hrest.symm
    obtain rfl : tail = [] := by simpa using congrArg (List.map Prod.fst) htail.symm
    obtain ⟨hpre, ht, hclock⟩ := (Machine.nondecreasing_append _ _ _ _ _).mp hclock
    obtain ⟨hmid, hlast, hpost⟩ := (Machine.nondecreasing_append _ _ _ _ _).mp hclock
    -- the view was full at the denial, and nothing has changed that when the client asks
    obtain ⟨hinv, hfull⟩ := v.full_of_denied (v.inv_final (hinit t) hpre) ht hmid hlast
      hdenied.symm hop hc hnone htime
    exact v.denied_before_wait hinv ⟨hlast, hpost⟩ hfull hr.symm (hc'.trans hc.symm) hop'
      (htime ▸ hearly)
  bounds := by
    intro t calls pre denied mid query post member r hclock htrace hop hc hnone htime
    obtain ⟨calls₁, rest, rfl, rfl, hdenied, hrest⟩ := Machine.trace_eq_append_cons step htrace
    obtain ⟨calls₂, calls₃, rfl, rfl, hr, -⟩ := Machine.trace_eq_append_cons step hrest.symm
    obtain ⟨hpre, ht, hclock⟩ := (Machine.nondecreasing_append _ _ _ _ _).mp hclock
    obtain ⟨hmid, hlast, -⟩ := (Machine.nondecreasing_append _ _ _ _ _).mp hclock
    obtain ⟨hinv, hfull⟩ := v.full_of_denied (v.inv_final (hinit t) hpre) ht hmid hlast
      hdenied.symm hop hc hnone htime
    exact v.wait_bounds hN hinv hlast hfull hr.symm

end WindowView

/-! ## The in-memory backend -/

/-- No record is longer than the limit or lies ahead. -/
structure MemoryLimiter.Within (cfg : Config) (t : ℚ) (s : MemoryLimiter) : Prop where
  atMost : ∀ clientId, ((s.timestamps clientId).length : ℤ) ≤ cfg.requestsPerWindow
  past : ∀ clientId, ∀ a ∈ s.timestamps clientId, a ≤ t

/-- The sweep only drops. -/
theorem MemoryLimiter.Within.sweep {cfg : Config} {t now : ℚ} {s : MemoryLimiter}
    (h : s.Within cfg t) (ht : t ≤ now) (hN : 1 ≤ cfg.requestsPerWindow) :
    (sweepExpired cfg now s).Within cfg now := by
  refine ⟨fun clientId => ?_, fun clientId a ha => ?_⟩
  · rcases timestamps_sweepExpired cfg now s clientId with heq | ⟨heq, -⟩
    · rw [heq]
      exact h.atMost clientId
    · rw [heq, List.length_nil]
      omega
  · rcases timestamps_sweepExpired cfg now s clientId with heq | ⟨heq, -⟩
    · rw [heq] at ha
      exact le_trans (h.past clientId a ha) ht
    · rw [heq] at ha
      exact absurd ha List.not_mem_nil

/-- A record is replaced by one within the bounds. -/
theorem MemoryLimiter.Within.insert {cfg : Config} {t : ℚ} {s : MemoryLimiter}
    (h : s.Within cfg t) {clientId : PyStr} {timestamps : List ℚ}
    (hmost : (timestamps.length : ℤ) ≤ cfg.requestsPerWindow) (hpast : ∀ a ∈ timestamps, a ≤ t) :
    MemoryLimiter.Within cfg t { s with clients := s.clients.insert clientId timestamps } := by
  constructor
  · intro other
    by_cases hc : other = clientId
    · subst hc
      rw [MemoryLimiter.timestamps_insert_self]
      exact hmost
    · rw [MemoryLimiter.timestamps_insert_ne hc]
      exact h.atMost other
  · intro other
    by_cases hc : other = clientId
    · subst hc
      rw [MemoryLimiter.timestamps_insert_self]
      exact hpast
    · rw [MemoryLimiter.timestamps_insert_ne hc]
      exact h.past other

/-- What `is_allowed` leaves of the records. -/
theorem MemoryLimiter.Within.isAllowedMemory {cfg : Config} {t now : ℚ} {s : MemoryLimiter}
    (h : s.Within cfg t) (ht : t ≤ now) (hN : 1 ≤ cfg.requestsPerWindow) (clientId : PyStr) :
    (isAllowedMemory cfg clientId now s).1.Within cfg now := by
  have hswept := h.sweep ht hN
  have hkept := List.length_filter_le (fun a => decide (now - a < cfg.window))
    ((sweepExpired cfg now s).timestamps clientId)
  have hmost := hswept.atMost clientId
  have hpast : ∀ a ∈ ((sweepExpired cfg now s).timestamps clientId).filter
      (fun a => decide (now - a < cfg.window)), a ≤ now :=
    fun a ha => hswept.past clientId a (List.mem_of_mem_filter ha)
  unfold RateLimiting.isAllowedMemory
  simp only
  split
  case isTrue => exact hswept.insert (by omega) hpast
  case isFalse hroom =>
    refine hswept.insert ?_ ?_
    · rw [List.length_append, List.length_singleton]
      omega
    · intro a ha
      rcases List.mem_append.mp ha with ha | ha
      · exact hpast a ha
      · exact le_of_eq (List.mem_singleton.mp ha)

/-- The decision of `is_allowed` counts the times in the window. -/
theorem isAllowedMemory_snd (cfg : Config) (clientId : PyStr) (now : ℚ) (s : MemoryLimiter) :
    (isAllowedMemory cfg clientId now s).2
      = decide (((live cfg.window now (s.timestamps clientId)).length : ℤ)
          < cfg.requestsPerWindow) := by
  rw [← live_timestamps_sweepExpired le_rfl, live, isAllowedMemory]
  split
  case isTrue hfull => simpa using hfull
  case isFalse hroom => simpa using hroom

/-- `is_allowed` leaves what a client has in the window alone, unless it admits the client. -/
theorem live_isAllowedMemory {cfg : Config} {now later : ℚ} {s : MemoryLimiter}
    {clientId other : PyStr} (hle : now ≤ later)
    (h : ¬ (clientId = other ∧ (isAllowedMemory cfg clientId now s).2 = true)) :
    live cfg.window later ((isAllowedMemory cfg clientId now s).1.timestamps other)
      = live cfg.window later (s.timestamps other) := by
  rw [← live_timestamps_sweepExpired hle s other]
  unfold isAllowedMemory at h ⊢
  simp only at h ⊢
  by_cases hc : other = clientId
  · subst hc
    split
    case isTrue => rw [MemoryLimiter.timestamps_insert_self, ← live, live_live hle]
    case isFalse hroom =>
      rw [if_neg hroom] at h
      exact absurd ⟨rfl, rfl⟩ h
  · split
    · rw [MemoryLimiter.timestamps_insert_ne hc]
    · rw [MemoryLimiter.timestamps_insert_ne hc]

/-- No client has more in the window than the limit. -/
theorem MemoryLimiter.Within.length_live_le {cfg : Config} {t : ℚ} {s : MemoryLimiter}
    (h : s.Within cfg t) (now : ℚ) (clientId : PyStr) :
    ((live cfg.window now (s.timestamps clientId)).length : ℤ) ≤ cfg.requestsPerWindow := by
  have hkept : (live cfg.window now (s.timestamps clientId)).length
      ≤ (s.timestamps clientId).length := List.length_filter_le _ _
  have hmost := h.atMost clientId
  omega

/-- Where the window is full, nothing in the record has aged out: it holds no more than the
limit. -/
theorem MemoryLimiter.Within.live_eq_self {cfg : Config} {t now : ℚ} {s : MemoryLimiter}
    (h : s.Within cfg t) {clientId : PyStr}
    (hfull : cfg.requestsPerWindow ≤ ((live cfg.window now (s.timestamps clientId)).length : ℤ)) :
    live cfg.window now (s.timestamps clientId) = s.timestamps clientId := by
  have hmost := h.atMost clientId
  have hkept : (live cfg.window now (s.timestamps clientId)).length
      ≤ (s.timestamps clientId).length := List.length_filter_le _ _
  apply List.filter_eq_self.mpr
  apply List.length_filter_eq_length_iff.mp
  unfold live at hfull hkept
  omega

/-- **The view of the in-memory backend.** -/
def memoryView (cfg : Config) (hN : 1 ≤ cfg.requestsPerWindow) :
    WindowView cfg (memoryStep cfg) where
  Inv t s := s.Within cfg t
  seen s now clientId := live cfg.window now (s.timestamps clientId)
  inv_step := by
    intro t s call h ht
    obtain ⟨clientId, now, op⟩ := call
    cases op with
    | isAllowed member => exact h.isAllowedMemory ht hN clientId
    | getRetryAfter => exact ⟨h.atMost, fun c a ha => le_trans (h.past c a ha) ht⟩
  seen_later := fun _ _ hle clientId => (live_live hle _).symm
  seen_step := by
    intro t s call clientId _ _ hnot later hle
    obtain ⟨clientId', now, op⟩ := call
    cases op with
    -- only an admission of this client would add a time to its record
    | isAllowed member =>
      refine live_isAllowedMemory hle fun hadm => hnot ⟨hadm.1, ?_⟩
      exact congrArg some hadm.2
    | getRetryAfter => rfl
  past := fun h ht a ha => le_trans (h.past _ a (List.mem_of_mem_filter ha)) ht
  atMost := fun h _ clientId => h.length_live_le _ clientId
  isAllowed := by
    intro t s clientId now _ _ member
    rw [← isAllowedMemory_snd]
    rfl
  asked := rfl
  getRetryAfter := by
    intro t s clientId now h _ hfull
    -- the query does not prune, but a full record has nothing to prune
    rw [h.live_eq_self hfull]
    rfl
  waits := fun {_ s _} clientId h ht =>
    ⟨s.timestamps clientId, fun a ha => le_trans (h.past clientId a ha) ht, rfl⟩

/-! ## The Redis backend -/

/-- A sorted set in ascending order of score. -/
def SortedSet.Ordered (z : SortedSet) : Prop := z.Pairwise fun a b => a.2 ≤ b.2

/-- Inserting by rank keeps the order of the scores. -/
theorem SortedSet.ordered_orderedInsert {z : SortedSet} (h : z.Ordered) (e : PyStr × ℚ) :
    SortedSet.Ordered (z.orderedInsert SortedSet.before e) := by
  induction z with
  | nil => exact List.pairwise_singleton _ _
  | cons b z ih =>
    obtain ⟨hb, hz⟩ := List.pairwise_cons.mp h
    by_cases hbefore : SortedSet.before e b
    · have hle : e.2 ≤ b.2 := by
        rcases hbefore with hlt | ⟨heq, -⟩
        · exact hlt.le
        · exact heq.le
      rw [List.orderedInsert_cons_of_le _ _ hbefore]
      refine List.pairwise_cons.mpr ⟨fun a ha => ?_, h⟩
      rcases List.mem_cons.mp ha with rfl | ha
      · exact hle
      · exact le_trans hle (hb a ha)
    · have hle : b.2 ≤ e.2 := not_lt.mp fun hlt => hbefore (Or.inl hlt)
      rw [List.orderedInsert_of_not_le _ _ hbefore]
      refine List.pairwise_cons.mpr ⟨fun a ha => ?_, ih hz⟩
      rcases (List.mem_orderedInsert _).mp ha with rfl | ha
      · exact hle
      · exact hb a ha

/-- The first member has the lowest score. -/
theorem SortedSet.min?_scores {z : SortedSet} (h : z.Ordered) :
    z.scores.min? = z.head?.map Prod.snd := by
  cases z with
  | nil => rfl
  | cons e z =>
    have hfirst := (List.pairwise_cons.mp h).1
    refine List.min?_eq_some_iff.mpr ⟨List.mem_cons_self, ?_⟩
    intro a ha
    rcases List.mem_cons.mp ha with rfl | ha
    · exact le_rfl
    · obtain ⟨e', he', rfl⟩ := List.mem_map.mp ha
      exact hfirst e' he'

/-- What any call from `t` on can see of the sorted sets, whatever the names of the members: they
are in order, no longer than the limit, nothing in them lies ahead, and expiry takes away nothing
that is in the window. -/
structure RedisStore.Within (cfg : Config) (t : ℚ) (db : RedisStore) : Prop where
  ordered : ∀ clientId later, t ≤ later →
    SortedSet.Ordered (db.zset later (redisKey cfg clientId))
  atMost : ∀ clientId later, t ≤ later →
    ((db.zset later (redisKey cfg clientId)).length : ℤ) ≤ cfg.requestsPerWindow
  past : ∀ clientId later, t ≤ later → ∀ a ∈ (db.zset later (redisKey cfg clientId)).scores, a ≤ t
  lasting : ∀ clientId later, t ≤ later →
    live cfg.window later (db.zset later (redisKey cfg clientId)).scores
      = live cfg.window later (db.zset t (redisKey cfg clientId)).scores

/-- The clock ages the sets and does nothing else. -/
theorem RedisStore.Within.live_later {cfg : Config} {t now later : ℚ} {db : RedisStore}
    (h : db.Within cfg t) (ht : t ≤ now) (hle : now ≤ later) (clientId : PyStr) :
    live cfg.window later (db.zset later (redisKey cfg clientId)).scores
      = live cfg.window later (db.zset now (redisKey cfg clientId)).scores := by
  rw [h.lasting clientId later (le_trans ht hle), ← live_live hle,
    ← h.lasting clientId now ht, live_live hle]

/-- The clock moves on. -/
theorem RedisStore.Within.of_le {cfg : Config} {t now : ℚ} {db : RedisStore}
    (h : db.Within cfg t) (ht : t ≤ now) : db.Within cfg now where
  ordered c later hle := h.ordered c later (le_trans ht hle)
  atMost c later hle := h.atMost c later (le_trans ht hle)
  past c _ hle a ha := le_trans (h.past c _ (le_trans ht hle) a ha) ht
  lasting c _ hle := h.live_later ht hle c

/-- Every set is left with some of its members, in their order. -/
theorem sublist_zset_prune (cfg : Config) {now later : ℚ} (hle : now ≤ later) (db : RedisStore)
    (clientId other : PyStr) :
    ((zremrangebyscore db now (redisKey cfg clientId) (now - cfg.window)).zset later
      (redisKey cfg other)).Sublist (db.zset later (redisKey cfg other)) := by
  by_cases hc : other = clientId
  · subst hc
    rw [zset_zremrangebyscore_self hle]
    exact List.filter_sublist
  · rw [zset_zremrangebyscore_ne (fun heq => hc (redisKey_injective cfg heq))]

/-- Pruning keeps the invariant. -/
theorem RedisStore.Within.prune {cfg : Config} {now : ℚ} {db : RedisStore} (h : db.Within cfg now)
    (clientId : PyStr) :
    RedisStore.Within cfg now
      (zremrangebyscore db now (redisKey cfg clientId) (now - cfg.window)) where
  ordered other later hle :=
    (h.ordered other later hle).sublist (sublist_zset_prune cfg hle db clientId other)
  atMost other later hle := by
    have hlen := (sublist_zset_prune cfg hle db clientId other).length_le
    have hmost := h.atMost other later hle
    omega
  past other later hle a ha := by
    apply h.past other later hle a
    exact ((sublist_zset_prune cfg hle db clientId other).map Prod.snd).subset ha
  lasting other later hle := by
    rw [live_scores_prune hle, h.lasting other later hle, ← live_live hle,
      ← live_scores_prune le_rfl db clientId other, live_live hle]

/-- The same of the set under one key, as the clock moves on. -/
structure SetWithin (cfg : Config) (t : ℚ) (zset : ℚ → SortedSet) : Prop where
  ordered : ∀ later, t ≤ later → (zset later).Ordered
  atMost : ∀ later, t ≤ later → ((zset later).length : ℤ) ≤ cfg.requestsPerWindow
  past : ∀ later, t ≤ later → ∀ a ∈ (zset later).scores, a ≤ t
  lasting : ∀ later, t ≤ later →
    live cfg.window later (zset later).scores = live cfg.window later (zset t).scores

/-- The invariant speaks of the sets one by one. -/
theorem RedisStore.within_iff {cfg : Config} {t : ℚ} {db : RedisStore} :
    db.Within cfg t ↔ ∀ clientId, SetWithin cfg t fun later =>
      db.zset later (redisKey cfg clientId) := by
  constructor
  · intro h clientId
    exact ⟨h.ordered clientId, h.atMost clientId, h.past clientId, h.lasting clientId⟩
  · intro h
    exact ⟨fun c => (h c).ordered, fun c => (h c).atMost, fun c => (h c).past,
      fun c => (h c).lasting⟩

/-- A set that expires, if not before the window is over. -/
theorem setWithin_expiring {cfg : Config} {now : ℚ} (hW : 1 ≤ cfg.windowSeconds) {z : SortedSet}
    (hordered : z.Ordered) (hlength : (z.length : ℤ) ≤ cfg.requestsPerWindow)
    (hpast : ∀ a ∈ z.scores, a ≤ now) :
    SetWithin cfg now fun later =>
      if later ≤ now + ((cfg.windowSeconds + 1 : ℤ) : ℚ) then z else [] where
  ordered later _ := by
    split
    · exact hordered
    · exact List.Pairwise.nil
  atMost later _ := by
    split
    · exact hlength
    · rw [List.length_nil]
      omega
  past later _ := by
    split
    · exact hpast
    · exact fun a ha => absurd ha List.not_mem_nil
  lasting later _ := by
    have hsoon : now ≤ now + ((cfg.windowSeconds + 1 : ℤ) : ℚ) := by
      have hpos : (0 : ℚ) ≤ ((cfg.windowSeconds + 1 : ℤ) : ℚ) := by exact_mod_cast by omega
      linarith
    rw [if_pos hsoon]
    split
    · rfl
    case isFalse hexp =>
      -- what has expired has left the window before
      refine (live_eq_nil fun a ha => ?_).symm
      have hle := hpast a ha
      push_cast [Config.window] at hexp ⊢
      linarith

/-- Recording a request keeps the invariant while there is room. -/
theorem RedisStore.Within.record {cfg : Config} {now : ℚ} {db : RedisStore} {clientId : PyStr}
    (h : db.Within cfg now) (hW : 1 ≤ cfg.windowSeconds)
    (hroom : ((db.zset now (redisKey cfg clientId)).length : ℤ) < cfg.requestsPerWindow)
    (member : PyStr) :
    RedisStore.Within cfg now
      (expire (zadd db now (redisKey cfg clientId) member now) now (redisKey cfg clientId)
        (cfg.windowSeconds + 1)) := by
  rw [RedisStore.within_iff] at h ⊢
  intro other
  by_cases hc : other = clientId
  · subst hc
    simp only [zset_expire_zadd_self]
    apply setWithin_expiring hW
    · exact SortedSet.ordered_orderedInsert
        (((h other).ordered now le_rfl).sublist List.filter_sublist) _
    · -- the member may be in the set already, and is then moved
      have hkept := List.length_filter_le (fun e : PyStr × ℚ => decide (e.1 ≠ member))
        (db.zset now (redisKey cfg other))
      rw [SortedSet.add, List.orderedInsert_length]
      push_cast
      omega
    · intro a ha
      obtain ⟨e, he, rfl⟩ := List.mem_map.mp ha
      rcases (List.mem_orderedInsert _).mp he with rfl | he
      · exact le_rfl
      · exact (h other).past now le_rfl e.2 (List.mem_map_of_mem (List.mem_of_mem_filter he))
  · simp only [zset_expire_zadd_ne (fun heq => hc (redisKey_injective cfg heq))]
    exact h other

/-- The decision of `is_allowed` counts the scores in the window. -/
theorem isAllowedRedis_snd (cfg : Config) (clientId member : PyStr) (now : ℚ) (db : RedisStore) :
    (isAllowedRedis cfg clientId member now db).2
      = decide (((live cfg.window now (db.zset now (redisKey cfg clientId)).scores).length : ℤ)
          < cfg.requestsPerWindow) := by
  rw [← scores_prune_self, SortedSet.scores, List.length_map, isAllowedRedis,
    hostedIsAllowedRedis]
  simp only
  split
  case isTrue hfull => simpa using hfull
  case isFalse hroom => simpa using hroom

/-- The answer of `get_retry_after` is the wait for the oldest score in the window. -/
theorem getRetryAfterRedis_snd {cfg : Config} {t now : ℚ} {db : RedisStore}
    (h : db.Within cfg t) (ht : t ≤ now) (clientId : PyStr) :
    (getRetryAfterRedis cfg clientId now db).2
      = retryFor cfg now (live cfg.window now (db.zset now (redisKey cfg clientId)).scores) := by
  have hordered := ((h.of_le ht).prune clientId).ordered clientId now le_rfl
  rw [← scores_prune_self, retryFor, SortedSet.min?_scores hordered, getRetryAfterRedis,
    hostedGetRetryAfterRedis]
  split <;> simp_all

/-- `is_allowed` leaves what a client has in the window alone, unless it admits the client. -/
theorem live_isAllowedRedis {cfg : Config} {now later : ℚ} {db : RedisStore}
    {clientId member other : PyStr} (hle : now ≤ later)
    (h : ¬ (clientId = other ∧ (isAllowedRedis cfg clientId member now db).2 = true)) :
    live cfg.window later ((isAllowedRedis cfg clientId member now db).1.zset later
        (redisKey cfg other)).scores
      = live cfg.window later (db.zset later (redisKey cfg other)).scores := by
  rw [← live_scores_prune hle db clientId other]
  unfold isAllowedRedis hostedIsAllowedRedis at h ⊢
  simp only at h ⊢
  split
  case isTrue => rfl
  case isFalse hroom =>
    rw [if_neg hroom] at h
    rw [zset_expire_zadd_ne]
    exact fun heq => h ⟨(redisKey_injective cfg heq).symm, rfl⟩

/-- `get_retry_after` leaves what a client has in the window alone. -/
theorem getRetryAfterRedis_fst (cfg : Config) (clientId : PyStr) (now : ℚ) (db : RedisStore) :
    (getRetryAfterRedis cfg clientId now db).1
      = zremrangebyscore db now (redisKey cfg clientId) (now - cfg.window) := by
  unfold getRetryAfterRedis hostedGetRetryAfterRedis
  simp only
  split <;> rfl

/-- What `is_allowed` leaves of the sets. -/
theorem RedisStore.Within.isAllowedRedis {cfg : Config} {now : ℚ} {db : RedisStore}
    (h : db.Within cfg now) (hW : 1 ≤ cfg.windowSeconds) (clientId member : PyStr) :
    RedisStore.Within cfg now (isAllowedRedis cfg clientId member now db).1 := by
  have hpruned := h.prune clientId
  unfold RateLimiting.isAllowedRedis hostedIsAllowedRedis
  simp only
  split
  case isTrue => exact hpruned
  case isFalse hroom => exact hpruned.record hW (not_le.mp hroom) member

/-- No client has more in the window than the limit. -/
theorem RedisStore.Within.length_live_le {cfg : Config} {t now : ℚ} {db : RedisStore}
    (h : db.Within cfg t) (ht : t ≤ now) (clientId : PyStr) :
    ((live cfg.window now (db.zset now (redisKey cfg clientId)).scores).length : ℤ)
      ≤ cfg.requestsPerWindow := by
  have hkept : (live cfg.window now (db.zset now (redisKey cfg clientId)).scores).length
      ≤ (db.zset now (redisKey cfg clientId)).scores.length := List.length_filter_le _ _
  have hmost := h.atMost clientId now ht
  rw [SortedSet.scores, List.length_map] at hkept
  rw [SortedSet.scores]
  omega

/-- **The view of the Redis backend.** -/
def redisView (cfg : Config) (hW : 1 ≤ cfg.windowSeconds) :
    WindowView cfg (redisStep cfg) where
  Inv t db := RedisStore.Within cfg t db
  seen db now clientId :=
    live cfg.window now (RedisStore.zset db now (redisKey cfg clientId)).scores
  inv_step := by
    intro t db call h ht
    obtain ⟨clientId, now, op⟩ := call
    cases op with
    | isAllowed member => exact (h.of_le ht).isAllowedRedis hW clientId member
    | getRetryAfter =>
      -- the query prunes the set before it reads it
      show RedisStore.Within cfg now (getRetryAfterRedis cfg clientId now db).1
      rw [getRetryAfterRedis_fst]
      exact (h.of_le ht).prune clientId
  seen_later := by
    intro t db now later h ht hle clientId
    rw [h.live_later ht hle, live_live hle]
  seen_step := by
    intro t db call clientId _ _ hnot later hle
    obtain ⟨clientId', now, op⟩ := call
    cases op with
    | isAllowed member =>
      refine live_isAllowedRedis hle fun hadm => hnot ⟨hadm.1, ?_⟩
      exact congrArg some hadm.2
    | getRetryAfter =>
      show live cfg.window later (RedisStore.zset (getRetryAfterRedis cfg clientId' now db).1 later
        (redisKey cfg clientId)).scores = _
      rw [getRetryAfterRedis_fst, live_scores_prune hle]
  past := by
    intro t db now clientId h ht a ha
    exact le_trans (h.past clientId now ht a (List.mem_of_mem_filter ha)) ht
  atMost := fun h ht clientId => h.length_live_le ht clientId
  isAllowed := by
    intro t db clientId now _ _ member
    rw [← isAllowedRedis_snd cfg clientId member]
    rfl
  asked := rfl
  getRetryAfter := by
    intro t db clientId now h ht _
    rw [← getRetryAfterRedis_snd h ht]
    rfl
  waits := by
    intro t db now clientId h ht
    refine ⟨live cfg.window now (RedisStore.zset db now (redisKey cfg clientId)).scores,
      fun a ha => le_trans (h.past clientId now ht a (List.mem_of_mem_filter ha)) ht, ?_⟩
    rw [← getRetryAfterRedis_snd h ht]
    rfl

theorem within_init (cfg : Config) (hN : 1 ≤ cfg.requestsPerWindow) (t : ℚ) :
    MemoryLimiter.Within cfg t .init := by
  refine ⟨fun clientId => ?_, fun clientId a ha => absurd ha List.not_mem_nil⟩
  show ((0 : ℕ) : ℤ) ≤ cfg.requestsPerWindow
  omega

theorem within_empty (cfg : Config) (hN : 1 ≤ cfg.requestsPerWindow) (t : ℚ) :
    RedisStore.Within cfg t ∅ := by
  refine ⟨fun _ _ _ => List.Pairwise.nil, fun _ _ _ => ?_,
    fun _ _ _ a ha => absurd ha List.not_mem_nil, fun _ _ _ => rfl⟩
  show ((0 : ℕ) : ℤ) ≤ cfg.requestsPerWindow
  omega

/-- **Retry-After is sufficient and at most one second pessimistic** on both backends, for every
limit and window. -/
theorem retryAfter_sound (cfg : Config) (hN : 1 ≤ cfg.requestsPerWindow)
    (hW : 1 ≤ cfg.windowSeconds) :
    RetryAfterSound cfg (memoryStep cfg) .init ∧ RetryAfterSound cfg (redisStep cfg) ∅ :=
  ⟨(memoryView cfg hN).retryAfterSound (within_init cfg hN) hN,
    (redisView cfg hW).retryAfterSound (within_empty cfg hN) hN⟩

/-- A run at a limit of one request in ten seconds: the second request is denied with half a second
to go, the client asks, is denied again and returns when told. -/
def waitingRun : List Call :=
  [⟨PyStr.ofString "a", 0, .isAllowed (PyStr.ofString "0:x")⟩,
    ⟨PyStr.ofString "a", 19 / 2, .isAllowed (PyStr.ofString "9.5:y")⟩,
    ⟨PyStr.ofString "a", 19 / 2, .getRetryAfter⟩,
    ⟨PyStr.ofString "a", 39 / 4, .isAllowed (PyStr.ofString "9.75:z")⟩,
    ⟨PyStr.ofString "a", 21 / 2, .isAllowed (PyStr.ofString "10.5:w")⟩]

theorem retryAfter_sound_waitingRun :
    (RetryAfterSound ⟨1, 10⟩ (memoryStep ⟨1, 10⟩) .init ∧
      RetryAfterSound ⟨1, 10⟩ (redisStep ⟨1, 10⟩) ∅) ∧
    Machine.outputs (memoryStep ⟨1, 10⟩) .init waitingRun
      = [.allowed true, .allowed false, .retryAfter 1, .allowed false, .allowed true] ∧
    Machine.outputs (redisStep ⟨1, 10⟩) ∅ waitingRun
      = [.allowed true, .allowed false, .retryAfter 1, .allowed false, .allowed true] := by
  refine ⟨retryAfter_sound ⟨1, 10⟩ (by decide) (by decide), ?_, ?_⟩
  · decide +kernel
  · decide +kernel

end McpAuthflow.RateLimiting
