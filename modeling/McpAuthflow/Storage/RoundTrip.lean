import McpAuthflow.Storage.BackendEquivalence

/-! # What `PostgresTokenStorage` returns of a record it stored

A store flattens the scopes to one text, joined by blanks, and a load splits it at whitespace. The
expiry survives the way through a datetime (`toTimestamp_mul`), the other columns return what they
were given, and so the record comes back iff every scope is a word: not empty and without
whitespace.

* **`roundTrips_iff`** — when a stored record is loaded again, in either table and over whatever the
  table held before;
* **`scope_with_blank_splits`** — one scope with a blank in it comes back as two. -/

namespace McpAuthflow.Storage

open PostgresTokenStorage

variable (sha256 : List UInt8 → PyStr)

/-- `store_token` followed by `load_token` of the same token, or their refresh token counterparts,
return the record that was stored. -/
def RoundTrips (s : PostgresTokenStorage) (kind : TokenKind) (args : TokenArgs) (now later : ℚ) :
    Prop :=
  let (s, stored) := s.tokenStep sha256 now (.store kind args)
  let (_, loaded) := s.tokenStep sha256 later (.load kind args.token)
  stored = .ok .done ∧
    ∃ createdAt, loaded = .ok (.loaded (some { args with createdAt := createdAt }))

/-! ## Encoding and decoding a row -/

/-- **The scopes column.** A list of scopes is read back iff all of them are words. -/
theorem scopesOf_joinWords_iff {scopes : List PyStr} :
    scopesOf (PyStr.joinWords scopes) = scopes ↔ ∀ scope ∈ scopes, PyStr.IsWord scope := by
  rw [scopesOf_eq_split]
  exact PyStr.split_joinWords_iff

/-- The row of a record decodes to the record iff the scopes are read back. -/
theorem loadedRow_eq_iff {args : TokenArgs} {createdAt : Option Micros} {createdAt' : Option ℤ} :
    loadedRow args.token { args.toRowData with createdAt := createdAt }
        = { args with createdAt := createdAt' } ↔
      (∀ scope ∈ args.scopes, PyStr.IsWord scope) ∧ createdAt.map toTimestamp = createdAt' := by
  obtain ⟨token, clientId, scopes, expiresAt, resource, userId⟩ := args
  rw [← scopesOf_joinWords_iff]
  simp [loadedRow, TokenArgs.toRowData, toTimestamp_mul]

/-! ## The round trip -/

variable {sha256} {s : PostgresTokenStorage} {kind : TokenKind} {t : Table}

/-- A token with a lone surrogate is not stored. -/
theorem storeTo_of_hashToken_error {args : TokenArgs} {e : StorageError}
    (hd : hashToken sha256 args.token = .error e) (now : ℚ) :
    ∃ e', (s.storeTo sha256 kind args now).2 = .error e' := by
  unfold storeTo
  rw [hd]
  cases s.requirePool <;> cases fromTimestamp args.expiresAt <;> exact ⟨_, rfl⟩

/-- The tokens that can be digested are those without lone surrogates. -/
theorem exists_hashToken_iff (sha256 : List UInt8 → PyStr) {token : PyStr} :
    (∃ digest, hashToken sha256 token = .ok digest) ↔ token.SurrogateFree := by
  rw [← PyStr.encodeUtf8_isSome_iff, hashToken]
  cases token.encodeUtf8 <;> simp

/-- **When a record round-trips.** Stored with an expiry that a datetime can hold, and loaded before
it expires, a record comes back iff its token can be digested and every scope is a word. -/
theorem roundTrips_iff (hpool : s.pool = true) (htable : s.table kind = .ok t) (args : TokenArgs)
    (hrange : -62135596800 ≤ args.expiresAt ∧ args.expiresAt ≤ 253402300799) (now : ℚ) {later : ℚ}
    (hlive : later ≤ args.expiresAt) :
    RoundTrips sha256 s kind args now later ↔
      args.token.SurrogateFree ∧ ∀ scope ∈ args.scopes, PyStr.IsWord scope := by
  have he : fromTimestamp args.expiresAt = .ok (args.expiresAt * 1000000) := if_pos hrange
  rw [RoundTrips, tokenStep_store_eq, ← exists_hashToken_iff sha256]
  simp only [tokenStep_load_eq]
  cases hd : hashToken sha256 args.token with
  | error e =>
    obtain ⟨e', hstore⟩ : ∃ e', (s.storeTo sha256 kind args now).2 = .error e' :=
      storeTo_of_hashToken_error hd now
    simp [replying, hstore, Except.map]
  | ok digest =>
    -- the load finds the row just written, not yet expired, and decodes it
    obtain ⟨createdAt, hrow⟩ := t.lookup_upsert_self digest args.toRowData (micros now)
    have hnow : ¬ args.toRowData.expiresAt < micros later := by
      rw [not_lt]
      exact micros_le_of_le hlive
    rw [storeTo_of_table hpool htable he hd]
    simp only [replying]
    rw [loadFrom_of_table ((pool_setTable s kind _).trans hpool) (table_setTable s kind _) hd]
    simp only [Table.selectByToken, hrow, if_neg hnow]
    simp only [Except.map, true_and, Except.ok.injEq, Reply.loaded.injEq, Option.some_inj,
      loadedRow_eq_iff]
    simp

/-- A record with one scope that expires at second 10. -/
def recordOfScope (scope : PyStr) : TokenArgs :=
  { sampleArgs (PyStr.ofString "a") with scopes := [scope] }

/-- An open storage whose tables hold nothing. -/
def emptyTables : PostgresTokenStorage := ⟨true, ∅, some ∅⟩

theorem roundTrips_iff_word :
    (RoundTrips sampleSha256 emptyTables .refresh (recordOfScope (PyStr.ofString "read")) 0 9 ↔
      (PyStr.ofString "a").SurrogateFree ∧
        ∀ scope ∈ [PyStr.ofString "read"], PyStr.IsWord scope) ∧
    (PyStr.ofString "a").SurrogateFree ∧
      ∀ scope ∈ [PyStr.ofString "read"], PyStr.IsWord scope := by
  refine ⟨roundTrips_iff (t := ∅) rfl rfl _ ⟨by decide, by decide⟩ 0 ?_, by simp, by decide⟩
  norm_num [recordOfScope, sampleArgs]

/-- **A scope with a blank comes back as two.** -/
theorem scope_with_blank_splits :
    let args := recordOfScope (PyStr.ofString "read write")
    let s := (emptyTables.tokenStep sampleSha256 0 (.store .access args)).1
    (emptyTables.tokenStep sampleSha256 0 (.store .access args)).2 = .ok .done ∧
      (s.tokenStep sampleSha256 9 (.load .access args.token)).2
        = .ok (.loaded (some { args with
            scopes := [PyStr.ofString "read", PyStr.ofString "write"], createdAt := some 0 })) ∧
      ¬ RoundTrips sampleSha256 emptyTables .access args 0 9 := by
  intro args s
  have hload : (s.tokenStep sampleSha256 9 (.load .access args.token)).2
      = .ok (.loaded (some { args with
          scopes := [PyStr.ofString "read", PyStr.ofString "write"], createdAt := some 0 })) := by
    decide +kernel
  refine ⟨by decide +kernel, hload, ?_⟩
  rintro ⟨-, createdAt, hsame⟩
  have hdata := Option.some.inj (Reply.loaded.inj (Except.ok.inj (hload.symm.trans hsame)))
  have hscopes : [PyStr.ofString "read", PyStr.ofString "write"] = [PyStr.ofString "read write"] :=
    congrArg (fun data : TokenData => data.scopes) hdata
  exact absurd hscopes (by decide)

end McpAuthflow.Storage
