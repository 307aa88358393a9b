import McpAuthflow.Foundations.Threads
import McpAuthflow.ClientAuth.Recording
import Mathlib.Data.List.ReduceOption

/-! # `_check_and_record_jti` in several threads

The in-memory replay cache is shared by the threads of a process. A call reads the clock, looks at
the time of the last cleanup without the lock, looks again with it, deletes the expired entries key
by key, gives the lock back, reads the clock for the cap, takes the lock a second time, looks for
its `jti` and records it: between any two of these steps any number of other threads may take any
number of theirs, and time may pass (`replayChecks`, a program with one lock).

**`jti_accepted_once`**: in every interleaving, a `jti` is accepted again only after the expiry it
was tracked with has passed. **`replay_checks_finish`**: the calls cannot block each other for good,
and no `del` misses its key. -/

namespace McpAuthflow.ClientAuth

open Threads

/-! ## The program -/

/-- What the threads share. -/
structure SharedCache where
  clock : ℚ
  cache : JtiCache

/-- Where a thread stands in a call of `_check_and_record_jti`. -/
inductive JtiStage where
  /-- `now = time.time()` comes next. -/
  | entered (jti exp : Json)
  /-- The first look at `_last_cleanup`, without the lock. -/
  | looking (jti exp : Json) (now : ℚ)
  | awaitingCleanup (jti exp : Json) (now : ℚ)
  /-- The second look, with the lock. -/
  | lookingAgain (jti exp : Json) (now : ℚ)
  /-- The loop over `expired_jtis`, with the lock; then `_last_cleanup` is set. -/
  | deleting (jti exp : Json) (now : ℚ) (expiredJtis : List Json.HashKey)
  /-- `capped_exp = min(exp, time.time() + ..)`. -/
  | capping (jti exp : Json)
  | awaitingRecord (jti : Json) (cappedExp : ℚ)
  /-- `if jti in self._used_jtis`, with the lock. -/
  | searching (jti : Json) (cappedExp : ℚ)
  /-- `self._used_jtis[jti] = capped_exp`, with the lock. -/
  | inserting (jti : Json) (key : Json.HashKey) (cappedExp : ℚ)
  | finished (result : Except Caught Bool)

/-- What a call has found out about its `jti`, at the moment it did. -/
structure Recorded where
  jti : Json
  cappedExp : ℚ
  time : ℚ
  result : Except Caught Bool

/-- Whether the lock is held. -/
def JtiStage.holds : JtiStage → Bool
  | .lookingAgain _ _ _ | .deleting _ _ _ _ | .searching _ _ | .inserting _ _ _ => true
  | _ => false

/-- The end of the second `with` block. -/
def recorded (s : SharedCache) (cache : JtiCache) (jti : Json) (cappedExp : ℚ)
    (result : Except Caught Bool) : Move SharedCache JtiStage Recorded :=
  ⟨.release, { s with cache := cache }, .finished result, some ⟨jti, cappedExp, s.clock, result⟩⟩

/-- The next step of a thread. -/
def JtiStage.move (s : SharedCache) : JtiStage → Option (Move SharedCache JtiStage Recorded)
  | .entered jti exp => some ⟨.keep, s, .looking jti exp s.clock, none⟩
  | .looking jti exp now =>
    if now - s.cache.lastCleanup < jwtReplayCacheCleanupInterval then
      some ⟨.keep, s, .capping jti exp, none⟩
    else some ⟨.keep, s, .awaitingCleanup jti exp now, none⟩
  | .awaitingCleanup jti exp now => some ⟨.acquire, s, .lookingAgain jti exp now, none⟩
  | .lookingAgain jti exp now =>
    if now - s.cache.lastCleanup < jwtReplayCacheCleanupInterval then
      -- another thread has cleaned up in the meantime
      some ⟨.release, s, .capping jti exp, none⟩
    else
      let expiredJtis := (s.cache.usedJtis.filter fun _ exp => decide (exp < now)).keys
      some ⟨.keep, s, .deleting jti exp now expiredJtis, none⟩
  | .deleting jti exp now (key :: expiredJtis) =>
    match s.cache.usedJtis.lookup key with
    | none => some ⟨.release, s, .finished (.error .keyError), none⟩
    | some _ =>
      let cache := { s.cache with usedJtis := s.cache.usedJtis.erase key }
      some ⟨.keep, { s with cache := cache }, .deleting jti exp now expiredJtis, none⟩
  | .deleting jti exp now [] =>
    let cache := { s.cache with lastCleanup := now }
    some ⟨.release, { s with cache := cache }, .capping jti exp, none⟩
  | .capping jti exp =>
    match exp.num? with
    | none => some ⟨.keep, s, .finished (.error .typeError), none⟩
    | some exp =>
      let cappedExp := min exp (s.clock + jwtReplayCacheMaxTtlSeconds)
      some ⟨.keep, s, .awaitingRecord jti cappedExp, none⟩
  | .awaitingRecord jti cappedExp => some ⟨.acquire, s, .searching jti cappedExp, none⟩
  | .searching jti cappedExp =>
    match jti.hashKey with
    | none => some (recorded s s.cache jti cappedExp (.error .typeError))
    | some key =>
      match s.cache.usedJtis.lookup key with
      | some _ => some (recorded s s.cache jti cappedExp (.ok false))
      | none => some ⟨.keep, s, .inserting jti key cappedExp, none⟩
  | .inserting jti key cappedExp =>
    let cache := { s.cache with usedJtis := s.cache.usedJtis.insert key cappedExp }
    some (recorded s cache jti cappedExp (.ok true))
  | .finished _ => none

/-- A thread that has no next step has returned or raised. -/
theorem JtiStage.eq_finished {s : SharedCache} {r : JtiStage} (h : r.move s = none) :
    ∃ result, r = .finished result := by
  cases r with
  | finished result => exact ⟨result, rfl⟩
  | deleting jti exp now expiredJtis =>
    cases expiredJtis with
    | nil => cases h
    | cons key rest =>
      simp only [JtiStage.move] at h
      split at h <;> cases h
  | _ =>
    simp only [JtiStage.move] at h
    repeat' split at h
    all_goals cases h

/-- Time passes. -/
def SharedCache.tick (now : ℚ) (s : SharedCache) : SharedCache :=
  if s.clock ≤ now then { s with clock := now } else s

/-- **Calls of `_check_and_record_jti(jti, exp)`**, each in a thread of its own. -/
def replayChecks : Program (Json × Json) ℚ SharedCache JtiStage Recorded where
  start call := .entered call.1 call.2
  move := JtiStage.move
  env := SharedCache.tick
  holds := JtiStage.holds
  start_free _ := rfl
  end_free s r hend := by
    obtain ⟨result, rfl⟩ := JtiStage.eq_finished hend
    rfl
  reads s r m hmove hfree := by
    cases r with
    | entered jti exp | awaitingCleanup jti exp now | awaitingRecord jti cappedExp =>
      cases hmove
      rfl
    | looking jti exp now | capping jti exp =>
      simp only [JtiStage.move] at hmove
      split at hmove <;> · cases hmove; rfl
    | lookingAgain jti exp now | deleting jti exp now expired | searching jti cappedExp
    | inserting jti key cappedExp => cases hfree
    | finished result => cases hmove
  bracketed s r m hmove := by
    cases r with
    | entered jti exp | awaitingCleanup jti exp now | awaitingRecord jti cappedExp
    | inserting jti key cappedExp =>
      cases hmove
      simp [JtiStage.holds, recorded]
    | looking jti exp now | capping jti exp | lookingAgain jti exp now =>
      simp only [JtiStage.move] at hmove
      split at hmove <;> · cases hmove; simp [JtiStage.holds]
    | deleting jti exp now expiredJtis =>
      cases expiredJtis with
      | nil =>
        cases hmove
        simp [JtiStage.holds]
      | cons key rest =>
        simp only [JtiStage.move] at hmove
        split at hmove <;> · cases hmove; simp [JtiStage.holds]
    | searching jti cappedExp =>
      simp only [JtiStage.move] at hmove
      repeat' split at hmove
      all_goals
        cases hmove
        simp [JtiStage.holds, recorded]
    | finished result => cases hmove

/-- The threads over a cache as `__init__` leaves it. -/
def replayChecksInit (now : ℚ) : State SharedCache JtiStage := ⟨⟨now, .init now⟩, none, ∅⟩

/-- The entry for a `jti` is in the cache. -/
def SharedCache.Holds (s : SharedCache) (jti : Json) : Prop :=
  ∃ key tracked, jti.hashKey = some key ∧ s.cache.usedJtis.lookup key = some tracked

/-- **What a step does to the shared state**: nothing, or one write: a key is deleted, the time of
the cleanup is set, or a `jti` is recorded and accepted. A `jti` is refused where it is found. -/
theorem JtiStage.move_cases {s : SharedCache} {r : JtiStage}
    {m : Move SharedCache JtiStage Recorded} (h : r.move s = some m) :
    (m.shared = s ∧ ∀ e, m.report = some e →
      e.result ≠ .ok true ∧ (e.result = .ok false → s.Holds e.jti)) ∨
    (∃ jti exp now key rest, r = .deleting jti exp now (key :: rest) ∧
      m = ⟨.keep, { s with cache := { s.cache with usedJtis := s.cache.usedJtis.erase key } },
        .deleting jti exp now rest, none⟩) ∨
    (∃ jti exp now, r = .deleting jti exp now [] ∧
      m = ⟨.release, { s with cache := { s.cache with lastCleanup := now } }, .capping jti exp,
        none⟩) ∨
    ∃ jti key cappedExp, r = .inserting jti key cappedExp ∧
      m = recorded s { s.cache with usedJtis := s.cache.usedJtis.insert key cappedExp } jti
        cappedExp (.ok true) := by
  cases r with
  | entered jti exp | awaitingCleanup jti exp now | awaitingRecord jti cappedExp =>
    cases h
    exact Or.inl ⟨rfl, by simp⟩
  | looking jti exp now | capping jti exp | lookingAgain jti exp now =>
    simp only [JtiStage.move] at h
    split at h <;> · cases h; exact Or.inl ⟨rfl, by simp⟩
  | deleting jti exp now expiredJtis =>
    cases expiredJtis with
    | nil =>
      cases h
      exact Or.inr (Or.inr (Or.inl ⟨jti, exp, now, rfl, rfl⟩))
    | cons key rest =>
      simp only [JtiStage.move] at h
      split at h
      · cases h
        exact Or.inl ⟨rfl, by simp⟩
      · cases h
        exact Or.inr (Or.inl ⟨jti, exp, now, key, rest, rfl, rfl⟩)
  | searching jti cappedExp =>
    simp only [JtiStage.move] at h
    split at h
    · cases h
      exact Or.inl ⟨rfl, by simp [recorded]⟩
    next key hkey =>
      split at h
      next tracked hlookup =>
        cases h
        refine Or.inl ⟨rfl, ?_⟩
        rintro e ⟨⟩
        exact ⟨by simp, fun _ => ⟨key, tracked, hkey, hlookup⟩⟩
      · cases h
        exact Or.inl ⟨rfl, by simp⟩
  | inserting jti key cappedExp =>
    cases h
    exact Or.inr (Or.inr (Or.inr ⟨jti, key, cappedExp, rfl, rfl⟩))
  | finished result => cases h

/-! ## What a thread knows -/

/-- The entries past their tracked expiry at the reading of a cleanup are the ones it still has to
delete; a `jti` that is about to be recorded is not there; and no `del` has missed its key. -/
def JtiStage.Sound (s : SharedCache) : JtiStage → Prop
  | .looking _ _ now | .awaitingCleanup _ _ now | .lookingAgain _ _ now => now ≤ s.clock
  | .deleting _ _ now expiredJtis =>
    now ≤ s.clock ∧ jwtReplayCacheCleanupInterval ≤ now - s.cache.lastCleanup ∧
      expiredJtis.Nodup ∧ ∀ key, key ∈ expiredJtis ↔
        ∃ tracked, s.cache.usedJtis.lookup key = some tracked ∧ tracked < now
  | .inserting jti key _ => jti.hashKey = some key ∧ s.cache.usedJtis.lookup key = none
  | .finished result => result ≠ .error .keyError
  | .entered _ _ | .capping _ _ | .awaitingRecord _ _ | .searching _ _ => True

/-- The keys that a cleanup is to delete. -/
theorem mem_keys_filter_lt {d : Dict Json.HashKey ℚ} {now : ℚ} {key : Json.HashKey} :
    key ∈ (d.filter fun _ exp => decide (exp < now)).keys ↔
      ∃ tracked, d.lookup key = some tracked ∧ tracked < now := by
  rw [← AList.mem_keys, ← AList.lookup_isSome, AList.lookup_filter]
  cases d.lookup key with
  | none => simp
  | some tracked =>
    by_cases hpast : tracked < now <;> simp [Option.filter, hpast]

/-- The keys left to delete after one of them. -/
theorem mem_rest_iff {d : Dict Json.HashKey ℚ} {now : ℚ} {key : Json.HashKey}
    {rest : List Json.HashKey} (hnodup : (key :: rest).Nodup)
    (hkeys : ∀ k, k ∈ key :: rest ↔ ∃ tracked, d.lookup k = some tracked ∧ tracked < now)
    (k : Json.HashKey) :
    k ∈ rest ↔ ∃ tracked, (d.erase key).lookup k = some tracked ∧ tracked < now := by
  by_cases hk : k = key
  · subst hk
    rw [AList.lookup_erase]
    simp [(List.nodup_cons.mp hnodup).1]
  · rw [AList.lookup_erase_ne hk, ← hkeys k]
    simp [hk]

/-- What a thread knows does not depend on the cache while it does not hold the lock, and is not
lost as time passes. -/
theorem JtiStage.Sound.of_free {s s' : SharedCache} {r : JtiStage} (h : r.Sound s)
    (hfree : r.holds = false) (hclock : s.clock ≤ s'.clock) : r.Sound s' := by
  cases r with
  | looking jti exp now | awaitingCleanup jti exp now => exact le_trans h hclock
  | lookingAgain jti exp now | deleting jti exp now expired | inserting jti key cappedExp =>
    cases hfree
  | finished result => exact h
  | entered jti exp | capping jti exp | awaitingRecord jti cappedExp | searching jti cappedExp =>
    trivial

/-- **A thread's own step** leaves it right in what it knows. -/
theorem JtiStage.Sound.move {s : SharedCache} {r : JtiStage}
    {m : Move SharedCache JtiStage Recorded} (h : r.Sound s) (hmove : r.move s = some m) :
    m.stage.Sound m.shared := by
  cases r with
  | entered jti exp =>
    cases hmove
    exact le_rfl
  | looking jti exp now =>
    simp only [JtiStage.move] at hmove
    split at hmove
    · cases hmove
      trivial
    · cases hmove
      exact h
  | awaitingCleanup jti exp now =>
    cases hmove
    exact h
  | lookingAgain jti exp now =>
    simp only [JtiStage.move] at hmove
    split at hmove
    · cases hmove
      trivial
    next hdue =>
      cases hmove
      exact ⟨h, not_lt.mp hdue, AList.keys_nodup _, fun key => mem_keys_filter_lt⟩
  | deleting jti exp now expiredJtis =>
    obtain ⟨hnow, hdue, hnodup, hkeys⟩ := h
    cases expiredJtis with
    | nil =>
      cases hmove
      trivial
    | cons key rest =>
      obtain ⟨tracked, hlookup, -⟩ := (hkeys key).mp List.mem_cons_self
      simp only [JtiStage.move, hlookup] at hmove
      cases hmove
      exact ⟨hnow, hdue, (List.nodup_cons.mp hnodup).2, mem_rest_iff hnodup hkeys⟩
  | capping jti exp =>
    simp only [JtiStage.move] at hmove
    split at hmove
    · cases hmove
      simp [JtiStage.Sound]
    · cases hmove
      trivial
  | awaitingRecord jti cappedExp =>
    cases hmove
    trivial
  | searching jti cappedExp =>
    simp only [JtiStage.move] at hmove
    split at hmove
    · cases hmove
      simp [JtiStage.Sound, recorded]
    next key hkey =>
      split at hmove
      · cases hmove
        simp [JtiStage.Sound, recorded]
      next hnone =>
        cases hmove
        exact ⟨hkey, hnone⟩
  | inserting jti key cappedExp =>
    cases hmove
    simp [JtiStage.Sound, recorded]
  | finished result => cases hmove

/-- No step moves the clock. -/
theorem JtiStage.clock_move {s : SharedCache} {r : JtiStage}
    {m : Move SharedCache JtiStage Recorded} (h : r.move s = some m) :
    m.shared.clock = s.clock := by
  rcases JtiStage.move_cases h with ⟨hshared, -⟩ | ⟨_, _, _, _, _, -, rfl⟩ | ⟨_, _, _, -, rfl⟩ |
    ⟨_, _, _, -, rfl⟩
  · rw [hshared]
  · rfl
  · rfl
  · rfl

/-- **The lock does its work**: what a thread knows is not falsified by the others. -/
theorem stable_sound : replayChecks.Stable JtiStage.Sound where
  start _ _ := trivial
  own _ _ _ hsound hmove := hsound.move hmove
  other _ _ _ _ _ _ hmove hfree hsound := hsound.of_free hfree (JtiStage.clock_move hmove).ge
  env s now r hsound := by
    show r.Sound (s.tick now)
    unfold SharedCache.tick
    split
    next hle =>
      cases r with
      | looking _ _ _ | awaitingCleanup _ _ _ | lookingAgain _ _ _ => exact le_trans hsound hle
      | deleting _ _ _ _ => exact ⟨le_trans hsound.1 hle, hsound.2⟩
      | _ => exact hsound
    · exact hsound

/-! ## No `jti` is accepted twice -/

/-- Two calls are about one `jti`, and both accept it. -/
def Recorded.AcceptsAgain (a b : Recorded) : Prop :=
  a.result = .ok true ∧ b.result = .ok true ∧ a.jti.hashKey = b.jti.hashKey

/-- **What the calls find out**, in the order in which they do: a `jti` is accepted again only when
its tracked expiry has passed, and refused only when it has been accepted. -/
structure AcceptedOnce (calls : List Recorded) : Prop where
  once : calls.Pairwise fun a b => a.AcceptsAgain b → a.cappedExp < b.time
  refused : ∀ earlier b later, calls = earlier ++ b :: later → b.result = .ok false →
    ∃ a ∈ earlier, a.result = .ok true ∧ a.jti.hashKey = b.jti.hashKey

/-- **The invariant**: an accepted `jti` is in the cache, or its tracked expiry has passed, and what
is in the cache was accepted. -/
structure OnceInv (s : State SharedCache JtiStage) (calls : List Recorded) : Prop where
  sound : replayChecks.AllSound JtiStage.Sound s
  accepted : AcceptedOnce calls
  guarded : ∀ a ∈ calls, a.result = .ok true → ∀ key, a.jti.hashKey = some key →
    s.shared.cache.usedJtis.lookup key = some a.cappedExp ∨ a.cappedExp < s.shared.clock
  stems : ∀ key tracked, s.shared.cache.usedJtis.lookup key = some tracked →
    ∃ a ∈ calls, a.result = .ok true ∧ a.jti.hashKey = some key

/-- One more call finds out about its `jti`. -/
theorem AcceptedOnce.concat {calls : List Recorded} (h : AcceptedOnce calls) {b : Recorded}
    (honce : ∀ a ∈ calls, a.AcceptsAgain b → a.cappedExp < b.time)
    (hrefused : b.result = .ok false →
      ∃ a ∈ calls, a.result = .ok true ∧ a.jti.hashKey = b.jti.hashKey) :
    AcceptedOnce (calls ++ [b]) := by
  constructor
  · rw [List.pairwise_append]
    refine ⟨h.once, List.pairwise_singleton _ _, ?_⟩
    intro a ha b' hb'
    rw [List.mem_singleton.mp hb']
    exact honce a ha
  · intro earlier b' later hsplit hresult
    rcases List.concat_split hsplit with ⟨rfl, rfl, -⟩ | ⟨later', -, hsplit'⟩
    · exact hrefused hresult
    · exact h.refused earlier b' later' hsplit' hresult

section

variable {s s' : State SharedCache JtiStage} {calls : List Recorded}

/-- The invariant depends on the shared state alone, and survives time. -/
theorem OnceInv.of_shared (h : OnceInv s calls) (hsound : replayChecks.AllSound JtiStage.Sound s')
    (hcache : s'.shared.cache.usedJtis = s.shared.cache.usedJtis)
    (hclock : s.shared.clock ≤ s'.shared.clock) : OnceInv s' calls := by
  refine ⟨hsound, h.accepted, ?_, by rw [hcache]; exact h.stems⟩
  intro a ha hok key hkey
  rw [hcache]
  exact (h.guarded a ha hok key hkey).imp_right fun hpast => lt_of_lt_of_le hpast hclock

/-- **A call that does not accept** is refused for a reason. -/
theorem OnceInv.concat_refused (h : OnceInv s calls) {b : Recorded} (hb : b.result ≠ .ok true)
    (hheld : b.result = .ok false → s.shared.Holds b.jti) : OnceInv s (calls ++ [b]) := by
  refine ⟨h.sound, h.accepted.concat (fun a _ hagain => absurd hagain.2.1 hb) ?_, ?_, ?_⟩
  · intro hresult
    obtain ⟨key, tracked, hkey, hlookup⟩ := hheld hresult
    obtain ⟨a, ha, hok, hkey'⟩ := h.stems key tracked hlookup
    exact ⟨a, ha, hok, hkey'.trans hkey.symm⟩
  · intro a ha hok
    rcases List.mem_append.mp ha with ha | ha
    · exact h.guarded a ha hok
    · rw [List.mem_singleton.mp ha] at hok
      exact absurd hok hb
  · intro key tracked hlookup
    obtain ⟨a, ha, hrest⟩ := h.stems key tracked hlookup
    exact ⟨a, List.mem_append_left _ ha, hrest⟩

/-- **A deletion**, of an entry past its tracked expiry. -/
theorem OnceInv.erase (h : OnceInv s calls) (hsound : replayChecks.AllSound JtiStage.Sound s')
    {key : Json.HashKey} (hcache : s'.shared.cache.usedJtis = s.shared.cache.usedJtis.erase key)
    (hclock : s'.shared.clock = s.shared.clock)
    (hpast : ∀ tracked, s.shared.cache.usedJtis.lookup key = some tracked →
      tracked < s.shared.clock) : OnceInv s' calls := by
  refine ⟨hsound, h.accepted, ?_, ?_⟩
  · intro a ha hok key' hkey'
    rw [hcache, hclock]
    rcases h.guarded a ha hok key' hkey' with hlookup | hlt
    · by_cases hk : key' = key
      · subst hk
        exact Or.inr (hpast _ hlookup)
      · exact Or.inl (by rw [AList.lookup_erase_ne hk, hlookup])
    · exact Or.inr hlt
  · rw [hcache]
    exact AList.forall_lookup_erase h.stems key

/-- **An acceptance**, of a `jti` that is not in the cache. -/
theorem OnceInv.insert (h : OnceInv s calls) (hsound : replayChecks.AllSound JtiStage.Sound s')
    {jti : Json} {key : Json.HashKey} {cappedExp : ℚ}
    (hcache : s'.shared.cache.usedJtis = s.shared.cache.usedJtis.insert key cappedExp)
    (hclock : s'.shared.clock = s.shared.clock) (hkey : jti.hashKey = some key)
    (hnone : s.shared.cache.usedJtis.lookup key = none) :
    OnceInv s' (calls ++ [⟨jti, cappedExp, s.shared.clock, .ok true⟩]) := by
  -- an earlier acceptance of the `jti` is out of the cache, so its expiry has passed
  have hearlier : ∀ a ∈ calls, a.result = .ok true → a.jti.hashKey = some key →
      a.cappedExp < s.shared.clock := by
    intro a ha hok hkey'
    rcases h.guarded a ha hok key hkey' with hlookup | hlt
    · rw [hnone] at hlookup
      cases hlookup
    · exact hlt
  refine ⟨hsound, h.accepted.concat ?_ (by simp), ?_, ?_⟩
  · rintro a ha ⟨hok, -, hsame⟩
    exact hearlier a ha hok (hsame.trans hkey)
  · intro a ha hok key' hkey'
    rw [hcache, hclock]
    rcases List.mem_append.mp ha with ha | ha
    · by_cases hk : key' = key
      · subst hk
        exact Or.inr (hearlier a ha hok hkey')
      · rw [AList.lookup_insert_ne hk]
        exact h.guarded a ha hok key' hkey'
    · obtain rfl := List.mem_singleton.mp ha
      obtain rfl := Option.some.inj (hkey.symm.trans hkey')
      exact Or.inl (AList.lookup_insert _)
  · rw [hcache]
    apply AList.forall_lookup_insert
    · intro key' tracked hlookup
      obtain ⟨a, ha, hrest⟩ := h.stems key' tracked hlookup
      exact ⟨a, List.mem_append_left _ ha, hrest⟩
    · exact ⟨_, List.mem_append_right _ (List.mem_singleton_self _), rfl, hkey⟩

/-- **One event** keeps the invariant. -/
theorem OnceInv.step (h : OnceInv s calls) (e : Event (Json × Json) ℚ) :
    OnceInv (replayChecks.step s e).1 (calls ++ (replayChecks.step s e).2.toList) := by
  have hsound := h.sound.step stable_sound e
  rcases Program.step_cases replayChecks s e with ⟨hstep, -⟩ | ⟨now, -, hstep⟩ |
    ⟨id, i, -, -, hstep⟩ | ⟨id, r, m, -, ⟨hlookup, hmove, -⟩, hstep⟩
  · rw [hstep, Option.toList_none, List.append_nil]
    exact h
  · rw [hstep] at hsound
    rw [hstep, Option.toList_none, List.append_nil]
    refine h.of_shared hsound ?_ ?_
    · show (s.shared.tick now).cache.usedJtis = _
      unfold SharedCache.tick
      split <;> rfl
    · show s.shared.clock ≤ (s.shared.tick now).clock
      unfold SharedCache.tick
      split
      next hle => exact hle
      · exact le_rfl
  · rw [hstep] at hsound
    rw [hstep, Option.toList_none, List.append_nil]
    exact h.of_shared hsound rfl le_rfl
  · rw [hstep] at hsound
    rw [hstep]
    have hr := h.sound.sound id r hlookup
    rcases JtiStage.move_cases hmove with ⟨hshared, hreport⟩ | ⟨_, _, now, key, rest, rfl, rfl⟩ |
      ⟨_, _, now, rfl, rfl⟩ | ⟨jti, key, cappedExp, rfl, rfl⟩
    · -- nothing is written
      have hcalls : OnceInv s (calls ++ m.report.toList) := by
        cases hm : m.report with
        | none =>
          rw [Option.toList_none, List.append_nil]
          exact h
        | some b => exact h.concat_refused (hreport b hm).1 (hreport b hm).2
      exact hcalls.of_shared hsound (by rw [hshared]) (by rw [hshared])
    · rw [Option.toList_none, List.append_nil]
      refine h.erase hsound rfl rfl ?_
      obtain ⟨hnow, -, -, hkeys⟩ := hr
      intro tracked hlookup'
      obtain ⟨tracked', hlookup'', hlt⟩ := (hkeys key).mp List.mem_cons_self
      rw [hlookup', Option.some_inj] at hlookup''
      exact hlookup'' ▸ lt_of_lt_of_le hlt hnow
    · rw [Option.toList_none, List.append_nil]
      exact h.of_shared hsound rfl le_rfl
    · exact h.insert hsound rfl rfl hr.1 hr.2

end

/-- **A `jti` is accepted once**, whatever the interleaving of calls, threads and the clock: a call
accepts it again only after the expiry the cache tracked it with has passed, and refuses it only if
an earlier call accepted it. -/
theorem jti_accepted_once (now : ℚ) (events : List (Event (Json × Json) ℚ)) :
    AcceptedOnce
      (Machine.outputs replayChecks.step (replayChecksInit now) events).reduceOption := by
  have hinit : OnceInv (replayChecksInit now) [] :=
    ⟨Program.allSound_init _ _ _, ⟨List.Pairwise.nil, by simp⟩, by simp, fun key tracked hlookup =>
      by simp [replayChecksInit, JtiCache.init] at hlookup⟩
  have hrun := Machine.trace_invariant replayChecks.step
    (fun s tr => OnceInv s (tr.map Prod.snd).reduceOption) ?_ hinit events
  · rw [← Machine.map_snd_trace]
    exact hrun.accepted
  · intro s tr e h
    rw [List.map_append, List.map_singleton, List.reduceOption_append,
      List.reduceOption_singleton]
    exact h.step e

/-! ## The calls come to their end -/

/-- The steps a thread has left, at most. -/
def JtiStage.left (s : SharedCache) : JtiStage → ℕ
  | .entered _ _ => s.cache.usedJtis.size + 10
  | .looking _ _ _ => s.cache.usedJtis.size + 9
  | .awaitingCleanup _ _ _ => s.cache.usedJtis.size + 8
  | .lookingAgain _ _ _ => s.cache.usedJtis.size + 7
  | .deleting _ _ _ expiredJtis => expiredJtis.length + 6
  | .capping _ _ => 5
  | .awaitingRecord _ _ => 4
  | .searching _ _ => 3
  | .inserting _ _ _ => 2
  | .finished _ => 1

/-- Every step is one less to take. -/
theorem terminates_left : replayChecks.Terminates JtiStage.left where
  decreases s r m hmove := by
    change r.move s = some m at hmove
    cases r with
    | entered jti exp | awaitingCleanup jti exp now | awaitingRecord jti cappedExp
    | inserting jti key cappedExp =>
      cases hmove
      simp [JtiStage.left, recorded]
    | looking jti exp now | capping jti exp =>
      simp only [JtiStage.move] at hmove
      split at hmove <;> · cases hmove; simp [JtiStage.left]
    | lookingAgain jti exp now =>
      simp only [JtiStage.move] at hmove
      split at hmove
      · cases hmove
        simp [JtiStage.left]
      · cases hmove
        have hle : ∀ p : Json.HashKey → ℚ → Bool, (s.cache.usedJtis.filter p).keys.length
            ≤ s.cache.usedJtis.size := by
          intro p
          rw [AList.keys, List.keys, List.length_map]
          exact List.length_filter_le _ _
        simpa [JtiStage.left] using Nat.lt_succ_of_le (hle _)
    | deleting jti exp now expiredJtis =>
      cases expiredJtis with
      | nil =>
        cases hmove
        simp [JtiStage.left]
      | cons key rest =>
        simp only [JtiStage.move] at hmove
        split at hmove <;> · cases hmove; simp [JtiStage.left]
    | searching jti cappedExp =>
      simp only [JtiStage.move] at hmove
      repeat' split at hmove
      all_goals
        cases hmove
        simp [JtiStage.left, recorded]
    | finished result => cases hmove
  ended s s' r hend := by
    obtain ⟨result, rfl⟩ := JtiStage.eq_finished hend
    rfl

/-- **The calls come to their end**: at every point of every interleaving the threads can be run
until all their calls have returned or raised, and none of them has raised a `KeyError`. -/
theorem replay_checks_finish (now : ℚ) (events : List (Event (Json × Json) ℚ)) :
    ∃ schedule : List ℕ, ∀ id r,
      (Machine.final replayChecks.step (replayChecksInit now)
          (events ++ schedule.map .run)).stages.lookup id = some r →
        ∃ result, r = .finished result ∧ result ≠ .error .keyError := by
  have hsound : ∀ events, replayChecks.AllSound JtiStage.Sound
      (Machine.final replayChecks.step (replayChecksInit now) events) :=
    fun events => (Program.allSound_init _ _ _).final stable_sound events
  obtain ⟨schedule, hended⟩ := Program.exists_schedule terminates_left (hsound events).exclusive
  refine ⟨schedule, fun id r hlookup => ?_⟩
  have hr := (hsound (events ++ schedule.map .run)).sound id r hlookup
  rw [Machine.final_append] at hlookup
  obtain ⟨result, rfl⟩ := JtiStage.eq_finished (hended id r hlookup ⟨now, .init now⟩)
  exact ⟨result, rfl, hr⟩

end McpAuthflow.ClientAuth
