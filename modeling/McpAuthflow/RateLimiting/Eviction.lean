import McpAuthflow.RateLimiting.Refinement
import Mathlib.Data.List.Dedup
import Mathlib.Data.List.Perm.Subperm

/-! # The in-memory limiter holds recent traffic only

A client that stops calling leaves its list behind until a sweep finds every time in it before the
cutoff, and the sweep runs at most once per window. Two windows therefore bound the age of what a
key can rest on. The invariant (`MemoryLimiter.Swept`) ties the newest time of each key to the last
sweep: it is at most one window older. An `is_allowed` call leaves the last sweep less than one
window behind the clock (`lastSweep_sweepExpired`), so together:

* **`memory_clients_recent`** — after every `is_allowed` call each key rests on an admission of the
  last two windows, holds between one and `requests_per_window` times, and there are at most as many
  keys as clients admitted in these two windows; `get_retry_after` changes nothing. -/

namespace McpAuthflow.RateLimiting

/-! ## What the dict may hold -/

/-- The clients a trace admitted after the moment `t`, each once. -/
def clientsAdmittedAfter (t : ℚ) (tr : CallTrace) : List PyStr :=
  ((tr.filter fun e => e.2.decision? = some true ∧ t < e.1.time).map fun e => e.1.clientId).dedup

/-- **The dict is bounded by recent traffic**, as of `now`. -/
structure BoundedByTraffic (cfg : Config) (now : ℚ) (s : MemoryLimiter) (tr : CallTrace) :
    Prop where
  /-- Each key rests on an admission of the last two windows. -/
  recent : ∀ clientId timestamps, s.clients.lookup clientId = some timestamps →
    ∃ t ∈ timestamps, t ∈ admittedTimes clientId tr ∧ now - 2 * cfg.window < t
  /-- Each key holds between one and `requests_per_window` times. -/
  lengths : ∀ clientId timestamps, s.clients.lookup clientId = some timestamps →
    1 ≤ timestamps.length ∧ (timestamps.length : ℤ) ≤ cfg.requestsPerWindow
  /-- There are at most as many keys as clients admitted in the last two windows. -/
  size : s.clients.size ≤ (clientsAdmittedAfter (now - 2 * cfg.window) tr).length

/-! ## The invariant -/

/-- The times a key holds: at least one, at most `requests_per_window`, all of them admissions, and
one of them at most a window older than the last sweep. -/
structure SweptTimes (cfg : Config) (lastSweep : ℚ) (admitted timestamps : List ℚ) : Prop where
  nonempty : 1 ≤ timestamps.length
  atMost : (timestamps.length : ℤ) ≤ cfg.requestsPerWindow
  admitted : ∀ t ∈ timestamps, t ∈ admitted
  newest : ∃ t ∈ timestamps, lastSweep - cfg.window ≤ t

/-- **The invariant**: the last sweep lies in the past, and every key holds swept times. -/
structure MemoryLimiter.Swept (cfg : Config) (t : ℚ) (s : MemoryLimiter) (tr : CallTrace) :
    Prop where
  lastSweep_le : s.lastSweep ≤ t
  times : ∀ clientId timestamps, s.clients.lookup clientId = some timestamps →
    SweptTimes cfg s.lastSweep (admittedTimes clientId tr) timestamps

/-- Further calls only add admissions. -/
theorem SweptTimes.append {cfg : Config} {lastSweep : ℚ} {admitted timestamps : List ℚ}
    (h : SweptTimes cfg lastSweep admitted timestamps) (more : List ℚ) :
    SweptTimes cfg lastSweep (admitted ++ more) timestamps :=
  ⟨h.nonempty, h.atMost, fun t ht => List.mem_append_left _ (h.admitted t ht), h.newest⟩

/-- A key that is not stale has a time at the cutoff or after it. -/
theorem exists_le_of_not_stale {cutoff : ℚ} {timestamps : List ℚ}
    (h : stale cutoff timestamps = false) : ∃ t ∈ timestamps, cutoff ≤ t := by
  unfold stale at h
  cases hmax : timestamps.max? with
  | none =>
    rw [hmax] at h
    cases h
  | some newest =>
    rw [hmax] at h
    have hmem : newest ∈ timestamps := List.max?_mem hmax
    exact ⟨newest, hmem, not_lt.mp (of_decide_eq_false h)⟩

/-! ## The sweep -/

/-- After a sweep was due or not, the last one is less than a window ago. -/
theorem lastSweep_sweepExpired {cfg : Config} (hW : 0 < cfg.window) (now : ℚ) (s : MemoryLimiter) :
    now - (sweepExpired cfg now s).lastSweep < cfg.window := by
  unfold sweepExpired
  by_cases hdue : now - s.lastSweep < cfg.window
  · rw [if_pos hdue]
    exact hdue
  · rw [if_neg hdue]
    show now - now < cfg.window
    rw [sub_self]
    exact hW

/-- **The sweep keeps the invariant**, whether or not it was due. -/
theorem MemoryLimiter.Swept.sweep {cfg : Config} {t now : ℚ} {s : MemoryLimiter} {tr : CallTrace}
    (h : s.Swept cfg t tr) (ht : t ≤ now) : (sweepExpired cfg now s).Swept cfg now tr := by
  have hpast : s.lastSweep ≤ now := le_trans h.lastSweep_le ht
  unfold sweepExpired
  by_cases hdue : now - s.lastSweep < cfg.window
  · rw [if_pos hdue]
    exact ⟨hpast, h.times⟩
  · rw [if_neg hdue]
    refine ⟨le_rfl, ?_⟩
    intro clientId timestamps hlookup
    rw [AList.lookup_filter, Option.filter_eq_some_iff] at hlookup
    obtain ⟨hold, hkept⟩ := hlookup
    have htimes := h.times clientId timestamps hold
    have hfresh : stale (now - cfg.window) timestamps = false := by simpa using hkept
    exact ⟨htimes.nonempty, htimes.atMost, htimes.admitted, exists_le_of_not_stale hfresh⟩

/-! ## One call -/

/-- The key just written joins the others. -/
theorem MemoryLimiter.Swept.insert {cfg : Config} {now : ℚ} {s : MemoryLimiter} {tr : CallTrace}
    (h : s.Swept cfg now tr) {clientId : PyStr} {timestamps : List ℚ} {e : Call × Reply}
    (hnew : SweptTimes cfg s.lastSweep (admittedTimes clientId (tr ++ [e])) timestamps) :
    MemoryLimiter.Swept cfg now { s with clients := s.clients.insert clientId timestamps }
      (tr ++ [e]) := by
  refine ⟨h.lastSweep_le, ?_⟩
  intro other timestamps' hlookup
  by_cases hsame : other = clientId
  · subst hsame
    rw [AList.lookup_insert, Option.some_inj] at hlookup
    rw [← hlookup]
    exact hnew
  · rw [AList.lookup_insert_ne hsame] at hlookup
    rw [admittedTimes_append]
    exact (h.times other timestamps' hlookup).append _

/-- The times a call keeps of its client: those in the window, all of them admissions. -/
theorem MemoryLimiter.Swept.admitted_of_mem {cfg : Config} {now : ℚ} {s : MemoryLimiter}
    {tr : CallTrace} (h : s.Swept cfg now tr) {clientId : PyStr} {t : ℚ}
    (ht : t ∈ s.timestamps clientId) : t ∈ admittedTimes clientId tr := by
  unfold MemoryLimiter.timestamps at ht
  cases hlookup : s.clients.lookup clientId with
  | none =>
    rw [hlookup] at ht
    cases ht
  | some timestamps =>
    rw [hlookup] at ht
    exact (h.times clientId timestamps hlookup).admitted t ht

/-- A client never holds more times than the limit. -/
theorem MemoryLimiter.Swept.length_timestamps_le {cfg : Config} {now : ℚ} {s : MemoryLimiter}
    {tr : CallTrace} (h : s.Swept cfg now tr) (hN : 1 ≤ cfg.requestsPerWindow) (clientId : PyStr) :
    ((s.timestamps clientId).length : ℤ) ≤ cfg.requestsPerWindow := by
  unfold MemoryLimiter.timestamps
  cases hlookup : s.clients.lookup clientId with
  | none =>
    show ((0 : ℕ) : ℤ) ≤ cfg.requestsPerWindow
    omega
  | some timestamps => exact (h.times clientId timestamps hlookup).atMost

/-- A rejected call writes back as many times as the limit, all of them in the window. -/
theorem sweptTimes_of_rejected {cfg : Config} (hN : 1 ≤ cfg.requestsPerWindow)
    {lastSweep now : ℚ} (hpast : lastSweep ≤ now) {admitted kept : List ℚ}
    (hlive : ∀ t ∈ kept, now - t < cfg.window) (hadmitted : ∀ t ∈ kept, t ∈ admitted)
    (hmost : (kept.length : ℤ) ≤ cfg.requestsPerWindow)
    (hfull : (kept.length : ℤ) ≥ cfg.requestsPerWindow) :
    SweptTimes cfg lastSweep admitted kept := by
  have hpos : 0 < kept.length := by omega
  obtain ⟨a, ha⟩ := List.exists_mem_of_length_pos hpos
  have hage := hlive a ha
  refine ⟨hpos, hmost, hadmitted, a, ha, ?_⟩
  linarith

/-- An admitted call adds its time. -/
theorem sweptTimes_of_admitted {cfg : Config} (hW : 0 < cfg.window) {lastSweep now : ℚ}
    (hpast : lastSweep ≤ now) {admitted kept : List ℚ} (hadmitted : ∀ t ∈ kept, t ∈ admitted)
    (hroom : (kept.length : ℤ) < cfg.requestsPerWindow) :
    SweptTimes cfg lastSweep (admitted ++ [now]) (kept ++ [now]) := by
  have hlength : (kept ++ [now]).length = kept.length + 1 := by
    rw [List.length_append, List.length_singleton]
  have hnow : now ∈ kept ++ [now] := List.mem_append_right _ (List.mem_singleton_self now)
  refine ⟨by omega, by omega, ?_, now, hnow, by linarith⟩
  intro t ht
  rcases List.mem_append.mp ht with ht | ht
  · exact List.mem_append_left _ (hadmitted t ht)
  · exact List.mem_append_right _ ht

/-- **One call keeps the invariant**: after the sweep, a call writes back what it keeps of its
client's times, with its own if it is admitted. -/
theorem MemoryLimiter.Swept.step {cfg : Config} (hN : 1 ≤ cfg.requestsPerWindow)
    (hW : 0 < cfg.window) {t : ℚ} {s : MemoryLimiter} {tr : CallTrace} {call : Call}
    (h : s.Swept cfg t tr) (ht : t ≤ call.time) :
    MemoryLimiter.Swept cfg call.time (memoryStep cfg s call).1
      (tr ++ [(call, (memoryStep cfg s call).2)]) := by
  obtain ⟨clientId, now, op⟩ := call
  cases op with
  | getRetryAfter =>
    -- the query admits nothing, and writes nothing
    refine ⟨le_trans h.lastSweep_le ht, ?_⟩
    intro other timestamps hlookup
    rw [admittedTimes_append]
    exact (h.times other timestamps hlookup).append _
  | isAllowed member =>
    have hswept : (sweepExpired cfg now s).Swept cfg now tr := h.sweep ht
    set swept := sweepExpired cfg now s with hdef
    set kept := (swept.timestamps clientId).filter fun t => now - t < cfg.window with hkept
    have hadmitted : ∀ t ∈ kept, t ∈ admittedTimes clientId tr := by
      intro t ht
      exact hswept.admitted_of_mem (List.mem_of_mem_filter ht)
    -- what is written back is decided by the times that are kept
    have hstep : memoryStep cfg s ⟨clientId, now, .isAllowed member⟩
        = if (kept.length : ℤ) ≥ cfg.requestsPerWindow then
            ({ swept with clients := swept.clients.insert clientId kept }, .allowed false)
          else
            ({ swept with clients := swept.clients.insert clientId (kept ++ [now]) },
              .allowed true) := by
      simp only [memoryStep, isAllowedMemory, ← hdef, ← hkept]
      split <;> rfl
    rw [hstep]
    by_cases hfull : (kept.length : ℤ) ≥ cfg.requestsPerWindow
    · -- rejected: every time that is kept is in the window
      rw [if_pos hfull]
      apply hswept.insert
      have hle : kept.length ≤ (swept.timestamps clientId).length := List.length_filter_le _ _
      have hmost := hswept.length_timestamps_le hN clientId
      rw [admittedTimes_append]
      refine (sweptTimes_of_rejected hN hswept.lastSweep_le ?_ hadmitted (by omega) hfull).append _
      exact fun t ht => of_decide_eq_true (List.mem_filter.mp ht).2
    · -- admitted: the time of the call joins those that are kept
      rw [if_neg hfull]
      apply hswept.insert
      have hnew : admittedTimes clientId
          [(⟨clientId, now, .isAllowed member⟩, Reply.allowed true)] = [now] :=
        admittedTimes_singleton_of_admitted rfl rfl
      show SweptTimes cfg swept.lastSweep
        (admittedTimes clientId (tr ++ [(_, Reply.allowed true)])) _
      rw [admittedTimes_append, hnew]
      exact sweptTimes_of_admitted hW hswept.lastSweep_le hadmitted (not_le.mp hfull)

/-! ## Runs -/

/-- **Every run keeps the invariant.** The clock starts at the epoch, where the limiter takes its
last sweep to have been. -/
theorem swept_of_run {cfg : Config} (hN : 1 ≤ cfg.requestsPerWindow) (hW : 0 < cfg.window)
    {calls : List Call}
    (hclock : Machine.Nondecreasing Call.time Call.time 0 calls) :
    MemoryLimiter.Swept cfg (Machine.lastReading Call.time 0 calls)
      (Machine.final (memoryStep cfg) .init calls)
      (Machine.trace (memoryStep cfg) .init calls) := by
  have hinit : MemoryLimiter.Swept cfg 0 .init [] := by
    refine ⟨le_rfl, ?_⟩
    intro clientId timestamps hlookup
    cases hlookup
  exact Machine.timed_invariant (memoryStep cfg) Call.time Call.time (MemoryLimiter.Swept cfg)
    (fun t s tr call hinv ht => hinv.step hN hW ht) hinit hclock

/-- A client that was admitted after `t` is among the clients admitted after `t`. -/
theorem mem_clientsAdmittedAfter {t a : ℚ} {tr : CallTrace} {clientId : PyStr}
    (ha : a ∈ admittedTimes clientId tr) (ht : t < a) :
    clientId ∈ clientsAdmittedAfter t tr := by
  rw [admittedTimes, List.mem_map] at ha
  obtain ⟨e, he, rfl⟩ := ha
  rw [List.mem_filter, decide_eq_true_eq] at he
  obtain ⟨hmem, rfl, hadmitted⟩ := he
  rw [clientsAdmittedAfter, List.mem_dedup, List.mem_map]
  refine ⟨e, ?_, rfl⟩
  rw [List.mem_filter, decide_eq_true_eq]
  exact ⟨hmem, hadmitted, ht⟩

/-- The invariant bounds the dict, as long as the last sweep is less than a window ago. -/
theorem MemoryLimiter.Swept.boundedByTraffic {cfg : Config} {t now : ℚ} {s : MemoryLimiter}
    {tr : CallTrace} (h : s.Swept cfg t tr) (hlast : now - s.lastSweep < cfg.window) :
    BoundedByTraffic cfg now s tr := by
  have hrecent : ∀ clientId timestamps, s.clients.lookup clientId = some timestamps →
      ∃ a ∈ timestamps, a ∈ admittedTimes clientId tr ∧ now - 2 * cfg.window < a := by
    intro clientId timestamps hlookup
    have htimes := h.times clientId timestamps hlookup
    obtain ⟨a, ha, hnewest⟩ := htimes.newest
    exact ⟨a, ha, htimes.admitted a ha, by linarith⟩
  refine ⟨hrecent, ?_, ?_⟩
  · intro clientId timestamps hlookup
    have htimes := h.times clientId timestamps hlookup
    exact ⟨htimes.nonempty, htimes.atMost⟩
  · -- the keys are distinct, and each is a client admitted in the last two windows
    have hsubset : s.clients.entries.keys ⊆ clientsAdmittedAfter (now - 2 * cfg.window) tr := by
      intro clientId hkey
      have hsome : (s.clients.lookup clientId).isSome := AList.lookup_isSome.mpr hkey
      obtain ⟨timestamps, hlookup⟩ := Option.isSome_iff_exists.mp hsome
      obtain ⟨a, -, ha, hafter⟩ := hrecent clientId timestamps hlookup
      exact mem_clientsAdmittedAfter ha hafter
    have hle := (List.Nodup.subperm s.clients.keys_nodup hsubset).length_le
    have hsize : s.clients.entries.keys.length = s.clients.size := List.length_map _
    rw [← hsize]
    exact hle

/-- **The state of the in-memory limiter is bounded by recent traffic**: for every limit of at least
one request, every positive window and every run of calls at nondecreasing nonnegative times, it is
so after every `is_allowed` call, and `get_retry_after` changes nothing. -/
theorem memory_clients_recent (cfg : Config) (hN : 1 ≤ cfg.requestsPerWindow)
    (hW : 0 < cfg.windowSeconds) (calls : List Call) (clientId member : PyStr) (now : ℚ)
    (hclock : Machine.Nondecreasing Call.time Call.time 0
      (calls ++ [⟨clientId, now, .isAllowed member⟩])) :
    BoundedByTraffic cfg now
        (Machine.final (memoryStep cfg) .init (calls ++ [⟨clientId, now, .isAllowed member⟩]))
        (Machine.trace (memoryStep cfg) .init (calls ++ [⟨clientId, now, .isAllowed member⟩])) ∧
      ∀ (s : MemoryLimiter) (other : PyStr) (t : ℚ),
        (memoryStep cfg s ⟨other, t, .getRetryAfter⟩).1.clients = s.clients := by
  refine ⟨?_, fun s other t => rfl⟩
  have hwindow : 0 < cfg.window := Int.cast_pos.mpr hW
  apply (swept_of_run hN hwindow hclock).boundedByTraffic
  -- neither branch of the call touches what the sweep has set
  have hlast : ∀ s : MemoryLimiter,
      (memoryStep cfg s ⟨clientId, now, .isAllowed member⟩).1.lastSweep
        = (sweepExpired cfg now s).lastSweep := by
    intro s
    simp only [memoryStep, isAllowedMemory]
    split <;> rfl
  rw [Machine.final_append, Machine.final_cons, Machine.final_nil, hlast]
  exact lastSweep_sweepExpired hwindow now _

/-- A run at a limit of one request in ten seconds, with two clients that stop calling. -/
def idleRun : List Call :=
  [⟨PyStr.ofString "a", 1, .isAllowed (PyStr.ofString "1:x")⟩,
    ⟨PyStr.ofString "b", 12, .isAllowed (PyStr.ofString "12:y")⟩]

theorem memory_clients_recent_idleRun :
    (BoundedByTraffic ⟨1, 10⟩ 23
        (Machine.final (memoryStep ⟨1, 10⟩) .init
          (idleRun ++ [⟨PyStr.ofString "c", 23, .isAllowed (PyStr.ofString "23:z")⟩]))
        (Machine.trace (memoryStep ⟨1, 10⟩) .init
          (idleRun ++ [⟨PyStr.ofString "c", 23, .isAllowed (PyStr.ofString "23:z")⟩])) ∧
      ∀ (s : MemoryLimiter) (other : PyStr) (t : ℚ),
        (memoryStep ⟨1, 10⟩ s ⟨other, t, .getRetryAfter⟩).1.clients = s.clients) ∧
    (Machine.final (memoryStep ⟨1, 10⟩) .init
        (idleRun ++ [⟨PyStr.ofString "c", 23, .isAllowed (PyStr.ofString "23:z")⟩])).clients.keys
      = [PyStr.ofString "c"] := by
  refine ⟨memory_clients_recent ⟨1, 10⟩ (by decide) (by decide) idleRun _ _ 23 ?_, ?_⟩
  · norm_num [idleRun, Machine.Nondecreasing]
  · decide +kernel

end McpAuthflow.RateLimiting
