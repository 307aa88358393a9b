import McpAuthflow.Foundations.Machine
import McpAuthflow.Storage.Memory
import McpAuthflow.Storage.Postgres

/-! # What the removal operations remove

Revocation removes the records of a client, and a cleanup those that have expired; both say how
many. What this asks of a storage is the same for both backends (`RemovalBackend`): each operation
filters the records of a kind by a test and returns the number that failed it. The test of a
revocation is the client id. The test of a cleanup compares the expiry with the clock as the backend
reads it: in memory to the second, in PostgreSQL to the microsecond. So a cleanup removes what has
expired exactly unless a record expires in the very tick of the clock: **`removal_exact_iff`**. -/

namespace McpAuthflow.Storage

/-! ## Exact removal -/

/-- **A storage as its removal operations see it**: the records of each kind, if the storage has a
place for them, and the test by which a cleanup removes them. -/
structure RemovalBackend (σ ρ : Type) where
  step : σ → ℚ → TokenOp → σ × Result
  initialized : σ → Prop
  records : σ → TokenKind → Option (Dict PyStr ρ)
  clientId : ρ → PyStr
  /-- In seconds. -/
  expiresAt : ρ → ℚ
  expired : ℚ → ρ → Bool
  /-- The state of an initialized storage is its records. -/
  ext : ∀ {s s'}, initialized s → initialized s' →
    (∀ kind, records s kind = records s' kind) → s = s'
  revoke : ∀ {s}, initialized s → ∀ (now : ℚ) (client : PyStr),
    let out := step s now (.revokeClientTokens client)
    initialized out.1 ∧
      (∀ kind, records out.1 kind
        = (records s kind).map (AList.filter fun _ r => !decide (clientId r = client))) ∧
      out.2 = .ok (.number
        (((records s .access).getD ∅).countP (fun _ r => decide (clientId r = client))
          + ((records s .refresh).getD ∅).countP (fun _ r => decide (clientId r = client))))
  cleanup : ∀ {s}, initialized s → ∀ (now : ℚ) {kind : TokenKind} {d : Dict PyStr ρ},
    records s kind = some d →
    let out := step s now (.cleanup kind)
    initialized out.1 ∧ records out.1 kind = some (d.filter fun _ r => !expired now r) ∧
      (∀ kind', kind' ≠ kind → records out.1 kind' = records s kind') ∧
      out.2 = .ok (.number (d.countP fun _ r => expired now r))
  count : ∀ {s}, initialized s → ∀ (now : ℚ) {kind : TokenKind} {d : Dict PyStr ρ},
    records s kind = some d → step s now (.count kind) = (s, .ok (.number d.size))
  count_none : ∀ {s}, initialized s → ∀ (now : ℚ) {kind : TokenKind}, records s kind = none →
    ∃ e, step s now (.count kind) = (s, .error e)

namespace RemovalBackend

variable {σ ρ : Type} (B : RemovalBackend σ ρ)

/-- What the count of a kind replies; a kind without a place has none. -/
def counted (s : σ) (now : ℚ) (kind : TokenKind) : ℕ :=
  match (B.step s now (.count kind)).2 with
  | .ok (.number n) => n
  | _ => 0

/-- `get_token_count` and `get_refresh_token_count` together. -/
def total (s : σ) (now : ℚ) : ℕ := B.counted s now .access + B.counted s now .refresh

/-- **Revocation is exact**: of each kind it leaves the records of the other clients, it says by how
many records that is less, and done again it finds nothing to do. -/
structure RevokesExactly (s : σ) (now : ℚ) (client : PyStr) : Prop where
  records : ∀ kind, B.records (B.step s now (.revokeClientTokens client)).1 kind
    = (B.records s kind).map (AList.filter fun _ r => !decide (B.clientId r = client))
  number : ∃ n, (B.step s now (.revokeClientTokens client)).2 = .ok (.number n) ∧
    B.total (B.step s now (.revokeClientTokens client)).1 now + n = B.total s now
  again : B.step (B.step s now (.revokeClientTokens client)).1 now (.revokeClientTokens client)
    = ((B.step s now (.revokeClientTokens client)).1, .ok (.number 0))

/-- **A cleanup of a kind is exact**: it leaves the records that have not expired, and the other
kind, it says how many it has removed, and done again it finds nothing to do. -/
structure CleansUpExactly (s : σ) (now : ℚ) (kind : TokenKind) : Prop where
  records : B.records (B.step s now (.cleanup kind)).1 kind
    = (B.records s kind).map (AList.filter fun _ r => !decide (B.expiresAt r < now))
  other : ∀ kind', kind' ≠ kind →
    B.records (B.step s now (.cleanup kind)).1 kind' = B.records s kind'
  number : (B.step s now (.cleanup kind)).2
    = .ok (.number (((B.records s kind).getD ∅).countP fun _ r => decide (B.expiresAt r < now)))
  again : B.step (B.step s now (.cleanup kind)).1 now (.cleanup kind)
    = ((B.step s now (.cleanup kind)).1, .ok (.number 0))

/-- **The removal operations are exact** in a state, at a time: the revocation of a client, and the
cleanup of each kind that has a place. -/
structure RemovesExactly (s : σ) (now : ℚ) (client : PyStr) : Prop where
  revoke : B.RevokesExactly s now client
  cleanup : ∀ kind, (B.records s kind).isSome → B.CleansUpExactly s now kind

variable {B}

/-- What is counted is the number of records. -/
theorem counted_eq {s : σ} (h : B.initialized s) (now : ℚ) (kind : TokenKind) :
    B.counted s now kind = ((B.records s kind).getD ∅).size := by
  cases hrecords : B.records s kind with
  | none =>
    obtain ⟨e, hcount⟩ := B.count_none h now hrecords
    simp [counted, hcount]
  | some d => simp [counted, B.count h now hrecords]

/-- The records that go and the records that stay. -/
theorem size_map_filter (p : ρ → Bool) (d : Option (Dict PyStr ρ)) :
    ((d.map (AList.filter fun _ r => !p r)).getD ∅).size + (d.getD ∅).countP (fun _ r => p r)
      = (d.getD ∅).size := by
  cases d with
  | none => rfl
  | some d =>
    have hsplit := AList.size_eq_countP_add (fun _ r => p r) d
    simp only [Option.map_some, Option.getD_some, AList.size_filter]
    omega

/-- **Revocation is exact**, in every state. -/
theorem revokesExactly {s : σ} (h : B.initialized s) (now : ℚ) (client : PyStr) :
    B.RevokesExactly s now client := by
  obtain ⟨hinit, hrecords, hnumber⟩ := B.revoke h now client
  set s' := (B.step s now (.revokeClientTokens client)).1 with hs'
  refine ⟨hrecords, ⟨_, hnumber, ?_⟩, ?_⟩
  · have haccess := size_map_filter (fun r => decide (B.clientId r = client)) (B.records s .access)
    have hrefresh :=
      size_map_filter (fun r => decide (B.clientId r = client)) (B.records s .refresh)
    rw [total, total, counted_eq hinit, counted_eq hinit, counted_eq h, counted_eq h, hrecords,
      hrecords]
    omega
  · -- a second revocation filters what has been filtered
    obtain ⟨hinit', hrecords', hnumber'⟩ := B.revoke hinit now client
    have hgone : ∀ kind, ((B.records s' kind).getD ∅).countP
        (fun _ r => decide (B.clientId r = client)) = 0 := by
      intro kind
      rw [hrecords kind]
      cases B.records s kind with
      | none => rfl
      | some d => exact AList.countP_filter_not _ d
    have hsame : (B.step s' now (.revokeClientTokens client)).1 = s' := by
      apply B.ext hinit' hinit
      intro kind
      rw [hrecords' kind, hrecords kind]
      cases B.records s kind with
      | none => rfl
      | some d => exact congrArg some (AList.filter_filter_self _ d)
    rw [hgone, hgone] at hnumber'
    exact Prod.ext hsame hnumber'

/-- **A cleanup is exact iff its test is**, on the records there are. -/
theorem cleansUpExactly_iff {s : σ} (h : B.initialized s) (now : ℚ) {kind : TokenKind}
    {d : Dict PyStr ρ} (hd : B.records s kind = some d) :
    B.CleansUpExactly s now kind ↔
      ∀ e ∈ d.entries, B.expired now e.2 = decide (B.expiresAt e.2 < now) := by
  obtain ⟨hinit, hrecords, hother, hnumber⟩ := B.cleanup h now hd
  constructor
  · intro hexact e he
    have hsame := hexact.records
    rw [hrecords, hd, Option.map_some, Option.some_inj, AList.filter_eq_filter_iff] at hsame
    have hbool := hsame e he
    rwa [Bool.not_inj_iff] at hbool
  · intro htest
    refine ⟨?_, hother, ?_, ?_⟩
    · rw [hrecords, hd, Option.map_some]
      exact congrArg some (AList.filter_congr fun e he => by rw [htest e he])
    · rw [hnumber, hd, Option.getD_some]
      exact congrArg (fun n => Except.ok (Reply.number n)) (AList.countP_congr htest)
    · obtain ⟨hinit', hrecords', hother', hnumber'⟩ := B.cleanup hinit now hrecords
      rw [AList.countP_filter_not] at hnumber'
      rw [AList.filter_filter_self, ← hrecords] at hrecords'
      refine Prod.ext (B.ext hinit' hinit fun kind' => ?_) hnumber'
      by_cases hkind : kind' = kind
      · rw [hkind, hrecords']
      · exact hother' kind' hkind

/-- **The removal operations are exact iff the test of the cleanups is**, on the records there
are. -/
theorem removesExactly_iff {s : σ} (h : B.initialized s) (now : ℚ) (client : PyStr) :
    B.RemovesExactly s now client ↔
      ∀ kind d, B.records s kind = some d →
        ∀ e ∈ d.entries, B.expired now e.2 = decide (B.expiresAt e.2 < now) := by
  constructor
  · intro hexact kind d hd
    exact (cleansUpExactly_iff h now hd).mp (hexact.cleanup kind (by rw [hd]; rfl))
  · intro htest
    refine ⟨revokesExactly h now client, ?_⟩
    intro kind hsome
    obtain ⟨d, hd⟩ := Option.isSome_iff_exists.mp hsome
    exact (cleansUpExactly_iff h now hd).mpr (htest kind d hd)

end RemovalBackend

/-! ## The two backends -/

/-- `MemoryTokenStorage`: both dicts are there, and the clock is read to the second. -/
def memoryRemoval (sha256 : List UInt8 → PyStr) : RemovalBackend MemoryTokenStorage TokenData where
  step s now op := s.tokenStep sha256 now op
  initialized s := s.initialized = true
  records s kind := some (s.tokens kind)
  clientId data := data.clientId
  expiresAt data := data.expiresAt
  expired now data := data.expiresAt < pyInt now
  ext := by
    rintro ⟨access, refresh, _⟩ ⟨access', refresh', _⟩ rfl rfl hrecords
    have haccess : access = access' := Option.some.inj (hrecords .access)
    have hrefresh : refresh = refresh' := Option.some.inj (hrecords .refresh)
    rw [haccess, hrefresh]
  revoke := by
    intro s h now client
    obtain ⟨htokens, hinit, hnumber⟩ :=
      MemoryTokenStorage.tokenStep_revokeClientTokens sha256 now h client
    refine ⟨hinit, fun kind => congrArg some (htokens kind), ?_⟩
    rw [hnumber, AList.size_filter, AList.size_filter]
    rfl
  cleanup := by
    rintro s h now kind _ ⟨⟩
    rw [MemoryTokenStorage.tokenStep_cleanup h]
    refine ⟨?_, ?_, ?_, ?_⟩
    · show (s.setTokens kind _).initialized = true
      rw [MemoryTokenStorage.initialized_setTokens, h]
    · rw [MemoryTokenStorage.tokens_setTokens_self]
    · intro kind' hkind
      rw [MemoryTokenStorage.tokens_setTokens_ne hkind]
    · rw [AList.size_filter]
  count := by
    rintro s h now kind _ ⟨⟩
    exact MemoryTokenStorage.tokenStep_count h
  count_none := by
    rintro s h now kind ⟨⟩

/-- `PostgresTokenStorage`: the table of the refresh tokens need not exist, and the clock is read to
the microsecond. -/
def postgresRemoval (sha256 : List UInt8 → PyStr) : RemovalBackend PostgresTokenStorage Row where
  step s now op := s.tokenStep sha256 now op
  initialized s := s.pool = true
  records s kind :=
    match kind with
    | .access => some s.accessTokens
    | .refresh => s.refreshTokens
  clientId row := row.clientId
  expiresAt row := (row.expiresAt : ℚ) / 1000000
  expired now row := row.expiresAt < micros now
  ext := by
    rintro ⟨_, access, refresh⟩ ⟨_, access', refresh'⟩ rfl rfl hrecords
    have haccess : access = access' := Option.some.inj (hrecords .access)
    have hrefresh : refresh = refresh' := hrecords .refresh
    rw [haccess, hrefresh]
  revoke := by
    rintro ⟨_, access, refresh⟩ rfl now client
    cases refresh with
    | none =>
      refine ⟨rfl, ?_, ?_⟩
      · intro kind
        cases kind <;> rfl
      · show Except.ok (Reply.number (access.filter _).size) = _
        rw [AList.size_filter]
        rfl
    | some refresh =>
      refine ⟨rfl, ?_, ?_⟩
      · intro kind
        cases kind <;> rfl
      · show Except.ok (Reply.number ((access.filter _).size + (refresh.filter _).size)) = _
        rw [AList.size_filter, AList.size_filter]
        rfl
  cleanup := by
    rintro ⟨_, access, refresh⟩ rfl now kind d hd
    cases kind with
    | access =>
      obtain rfl : access = d := Option.some.inj hd
      refine ⟨rfl, rfl, ?_, ?_⟩
      · intro kind' hkind
        cases kind' with
        | access => exact absurd rfl hkind
        | refresh => rfl
      · show Except.ok (Reply.number (access.filter _).size) = _
        rw [AList.size_filter]
    | refresh =>
      obtain rfl : refresh = some d := hd
      refine ⟨rfl, rfl, ?_, ?_⟩
      · intro kind' hkind
        cases kind' with
        | access => rfl
        | refresh => exact absurd rfl hkind
      · show Except.ok (Reply.number (d.filter _).size) = _
        rw [AList.size_filter]
  count := by
    rintro ⟨_, access, refresh⟩ rfl now kind d hd
    cases kind with
    | access =>
      obtain rfl : access = d := Option.some.inj hd
      rfl
    | refresh =>
      obtain rfl : refresh = some d := hd
      rfl
  count_none := by
    rintro ⟨_, access, refresh⟩ rfl now kind hnone
    cases kind with
    | access => cases hnone
    | refresh =>
      obtain rfl : refresh = none := hnone
      exact ⟨_, rfl⟩

/-! ## The ticks of the clocks -/

/-- The record expires in the second the clock is in, and the clock is past it. -/
def ExpiresInSecond (now : ℚ) (expiresAt : ℤ) : Prop :=
  0 ≤ now ∧ expiresAt = ⌊now⌋ ∧ (expiresAt : ℚ) < now

instance decidableExpiresInSecond (now : ℚ) (expiresAt : ℤ) :
    Decidable (ExpiresInSecond now expiresAt) := inferInstanceAs (Decidable (_ ∧ _ ∧ _))

/-- The row expires in the microsecond the clock is in, and the clock is past it. -/
def ExpiresInMicrosecond (now : ℚ) (expiresAt : Micros) : Prop :=
  expiresAt = micros now ∧ (expiresAt : ℚ) < now * 1000000

instance decidableExpiresInMicrosecond (now : ℚ) (expiresAt : Micros) :
    Decidable (ExpiresInMicrosecond now expiresAt) := inferInstanceAs (Decidable (_ ∧ _))

/-- **A reading that is rounded down** misses what lies in its tick, and nothing else. -/
theorem lt_floor_iff_lt_iff (n : ℤ) (x : ℚ) :
    (n < ⌊x⌋ ↔ (n : ℚ) < x) ↔ ¬ (n = ⌊x⌋ ∧ (n : ℚ) < x) := by
  have hfloor : (⌊x⌋ : ℚ) ≤ x := Int.floor_le x
  constructor
  · rintro hiff ⟨heq, hlt⟩
    have hbelow := hiff.mpr hlt
    omega
  · intro hnot
    constructor
    · intro hlt
      have hcast : (n : ℚ) < (⌊x⌋ : ℚ) := Int.cast_lt.mpr hlt
      linarith
    · intro hlt
      have hle : n ≤ ⌊x⌋ := Int.le_floor.mpr hlt.le
      have hne : n ≠ ⌊x⌋ := fun heq => hnot ⟨heq, hlt⟩
      omega

/-- What memory takes for expired, and what has expired. -/
theorem lt_pyInt_iff_lt_iff (expiresAt : ℤ) (now : ℚ) :
    (expiresAt < pyInt now ↔ (expiresAt : ℚ) < now) ↔ ¬ ExpiresInSecond now expiresAt := by
  unfold pyInt ExpiresInSecond
  by_cases h0 : 0 ≤ now
  · rw [if_pos h0, lt_floor_iff_lt_iff]
    simp [h0]
  · -- before the epoch `int` rounds up, which makes no difference
    rw [if_neg h0, Int.lt_ceil]
    simp [h0]

/-- What PostgreSQL takes for expired, and what has expired. -/
theorem lt_micros_iff_lt_iff (expiresAt : Micros) (now : ℚ) :
    (expiresAt < micros now ↔ (expiresAt : ℚ) / 1000000 < now) ↔
      ¬ ExpiresInMicrosecond now expiresAt := by
  rw [div_lt_iff₀ (by norm_num), micros, ExpiresInMicrosecond, micros, lt_floor_iff_lt_iff]

/-! ## Exactness -/

/-- **The removal operations are exact**, at any time and for any client, iff no record expires in
the very tick of the clock the call is made in: a second for an initialized memory storage, a
microsecond for an initialized Postgres storage. -/
theorem removal_exact_iff (sha256 : List UInt8 → PyStr) {s : MemoryTokenStorage}
    (hs : s.initialized = true) {u : PostgresTokenStorage} (hu : u.pool = true) (now : ℚ)
    (client : PyStr) :
    ((memoryRemoval sha256).RemovesExactly s now client ↔
        ∀ kind, ∀ e ∈ (s.tokens kind).entries, ¬ ExpiresInSecond now e.2.expiresAt) ∧
      ((postgresRemoval sha256).RemovesExactly u now client ↔
        ∀ kind, ∀ e ∈ (u.rows kind).entries, ¬ ExpiresInMicrosecond now e.2.expiresAt) := by
  constructor
  · -- the memory storage compares whole seconds
    rw [RemovalBackend.removesExactly_iff (B := memoryRemoval sha256) hs]
    constructor
    · intro htest kind e he
      rw [← lt_pyInt_iff_lt_iff, ← decide_eq_decide]
      exact htest kind _ rfl e he
    · rintro hticks kind _ ⟨⟩ e he
      have hiff := (lt_pyInt_iff_lt_iff e.2.expiresAt now).mpr (hticks kind e he)
      exact decide_eq_decide.mpr hiff
  · -- the database compares microseconds, over the tables it has
    rw [RemovalBackend.removesExactly_iff (B := postgresRemoval sha256) hu]
    obtain ⟨pool, access, refresh⟩ := u
    constructor
    · intro htest kind e he
      rw [← lt_micros_iff_lt_iff, ← decide_eq_decide]
      cases kind with
      | access => exact htest .access access rfl e he
      | refresh =>
        cases refresh with
        | none => cases he
        | some refresh => exact htest .refresh refresh rfl e he
    · intro hticks kind d hd e he
      have hmem : e ∈ ((PostgresTokenStorage.mk pool access refresh).rows kind).entries := by
        cases kind with
        | access =>
          obtain rfl : access = d := Option.some.inj hd
          exact he
        | refresh =>
          obtain rfl : refresh = some d := hd
          exact he
      have hiff := (lt_micros_iff_lt_iff e.2.expiresAt now).mpr (hticks kind e hmem)
      exact decide_eq_decide.mpr hiff

/-- A memory storage that has been initialized and holds a token that expires at second 10. -/
def storedSample : MemoryTokenStorage :=
  Machine.final (MemoryTokenStorage.step sampleSha256) .init
    [⟨0, .initializeStorage⟩, ⟨0, .token (.store .access (sampleArgs (PyStr.ofString "a")))⟩]

/-- A Postgres storage without a table of refresh tokens, with the same token. -/
def storedSampleRow : PostgresTokenStorage :=
  (PostgresTokenStorage.tokenStep sampleSha256 ⟨true, ∅, none⟩ 0
    (.store .access (sampleArgs (PyStr.ofString "a")))).1

theorem removal_exact_iff_atElevenSeconds :
    (memoryRemoval sampleSha256).RemovesExactly storedSample 11 (PyStr.ofString "client") ∧
      (postgresRemoval sampleSha256).RemovesExactly storedSampleRow 11
        (PyStr.ofString "client") := by
  have hiff := removal_exact_iff sampleSha256 (s := storedSample) (by decide +kernel)
    (u := storedSampleRow) (by decide +kernel) 11 (PyStr.ofString "client")
  refine ⟨hiff.1.mpr fun kind => ?_, hiff.2.mpr fun kind => ?_⟩
  · cases kind <;> decide +kernel
  · cases kind <;> decide +kernel

/-- **An expired record that is not removed**: at second 10.5 a cleanup in memory leaves the token
that expired at second 10. -/
theorem cleanup_not_exact :
    storedSample.initialized = true ∧
      ¬ (memoryRemoval sampleSha256).RemovesExactly storedSample (21 / 2)
        (PyStr.ofString "client") := by
  have hinit : storedSample.initialized = true := by decide +kernel
  refine ⟨hinit, fun hexact => ?_⟩
  have htest := (RemovalBackend.removesExactly_iff (B := memoryRemoval sampleSha256) hinit _ _).mp
    hexact .access _ rfl
  revert htest
  decide +kernel

end McpAuthflow.Storage
