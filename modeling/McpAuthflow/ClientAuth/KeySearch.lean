import McpAuthflow.ClientAuth.Acceptance

/-! # The key search and the bad entries of a JWKS

`_find_signing_key` goes through the entries of a JWKS, skips those that do not match or from which
no key can be constructed, and returns the first key it gets. An entry that is not an object is not
skipped: `_key_matches` asks it for members, outside of the `try`, and the search is aborted. So the
search is right about a JWKS iff it meets objects only, up to the key it returns:

* **`searchKeys_returns_iff`** — when the search returns at all;
* **`bad_entries_skipped_iff`** — when it returns the key of the first usable entry, or none if
  there is no such entry;
* **`bad_entry_hides_key`** — the JWKS `{"keys": ["x", key]}`. -/

namespace McpAuthflow.ClientAuth

variable {κ : Type*} {jwt : PyJWT κ} {kid : Json} {alg : PyStr}

/-- **What `_find_signing_key` is for**: the key of the first usable entry, in document order, and
`None` exactly if no entry is usable. -/
structure FindsFirst (jwt : PyJWT κ) (kid : Json) (alg : PyStr) (entries : List Json)
    (result : Except Caught (Option κ)) : Prop where
  found : ∀ key, result = .ok (some key) ↔ ∃ before, FirstUsable jwt kid alg entries before key
  notFound : result = .ok none ↔ ∀ e ∈ entries, ∀ key, ¬ Usable jwt kid alg e key

/-- Every entry that no usable entry precedes is an object. -/
def ReachedObjects (jwt : PyJWT κ) (kid : Json) (alg : PyStr) (entries : List Json) : Prop :=
  ∀ before entry after, entries = before ++ entry :: after →
    (∀ e ∈ before, ∀ key, ¬ Usable jwt kid alg e key) → ∃ members, entry = .obj members

/-- Behind an unusable entry that is an object the same entries are reached. -/
theorem reachedObjects_cons_of_not_usable {keyData : JsonObject}
    (hnot : ∀ key, ¬ Usable jwt kid alg (.obj keyData) key) (entries : List Json) :
    ReachedObjects jwt kid alg (.obj keyData :: entries) ↔ ReachedObjects jwt kid alg entries := by
  constructor
  · intro h before entry after hsplit hbefore
    apply h (.obj keyData :: before) entry after (congrArg (.obj keyData :: ·) hsplit)
    intro e he
    rcases List.mem_cons.mp he with rfl | he
    · exact hnot
    · exact hbefore e he
  · intro h before entry after hsplit hbefore
    cases before with
    | nil => exact ⟨keyData, (List.cons.inj hsplit).1.symm⟩
    | cons e before =>
      obtain ⟨-, hsplit⟩ := List.cons.inj hsplit
      exact h before entry after hsplit fun e he => hbefore e (List.mem_cons_of_mem _ he)

/-- Nothing behind a usable entry is reached. -/
theorem reachedObjects_cons_of_usable {entry : Json} {key : κ}
    (husable : Usable jwt kid alg entry key) (entries : List Json) :
    ReachedObjects jwt kid alg (entry :: entries) := by
  intro before entry' after hsplit hbefore
  cases before with
  | nil =>
    obtain ⟨rfl, -⟩ := List.cons.inj hsplit
    obtain ⟨keyData, rfl, -⟩ := husable
    exact ⟨keyData, rfl⟩
  | cons e before =>
    obtain ⟨rfl, -⟩ := List.cons.inj hsplit
    exact absurd husable (hbefore _ List.mem_cons_self key)

/-- **When the search returns**: iff it meets nothing but objects. -/
theorem searchKeys_returns_iff (h : alg ∈ allowedJwtAlgorithms) (entries : List Json) :
    (∃ found, searchKeys jwt kid alg entries = .ok found) ↔
      ReachedObjects jwt kid alg entries := by
  induction entries with
  | nil => exact iff_of_true ⟨none, rfl⟩ fun _ _ _ hsplit => absurd hsplit (by simp)
  | cons entry entries ih =>
    by_cases husable : ∃ key, Usable jwt kid alg entry key
    · obtain ⟨key, hkey⟩ := husable
      exact iff_of_true ⟨some key, searchKeys_cons_of_usable h hkey entries⟩
        (reachedObjects_cons_of_usable hkey entries)
    · push Not at husable
      by_cases hobj : ∃ keyData, entry = .obj keyData
      · -- skipped, whether it does not match or yields no key
        obtain ⟨keyData, rfl⟩ := hobj
        rw [searchKeys_cons_of_not_usable h husable, reachedObjects_cons_of_not_usable husable]
        exact ih
      · -- `_key_matches` raises, outside of the `try`
        refine iff_of_false ?_ fun hreached => hobj (hreached [] entry entries rfl (by simp))
        rintro ⟨found, hfound⟩
        cases entry with
        | obj keyData => exact hobj ⟨keyData, rfl⟩
        | null | bool | num | str | arr => cases hfound

/-- The search returns no key only if no entry is usable. -/
theorem not_usable_of_searchKeys_eq_none (h : alg ∈ allowedJwtAlgorithms) {entries : List Json}
    (hnone : searchKeys jwt kid alg entries = .ok none) :
    ∀ e ∈ entries, ∀ key, ¬ Usable jwt kid alg e key := by
  induction entries with
  | nil => simp
  | cons entry entries ih =>
    by_cases husable : ∃ key, Usable jwt kid alg entry key
    · obtain ⟨key, hkey⟩ := husable
      rw [searchKeys_cons_of_usable h hkey] at hnone
      cases hnone
    · push Not at husable
      cases entry with
      | obj keyData =>
        rw [searchKeys_cons_of_not_usable h husable] at hnone
        exact List.forall_mem_cons.mpr ⟨husable, ih hnone⟩
      | null | bool | num | str | arr => cases hnone

/-- The first of several usable entries. -/
theorem exists_firstUsable {entries : List Json} {entry : Json} {key : κ} (hmem : entry ∈ entries)
    (husable : Usable jwt kid alg entry key) :
    ∃ before key, FirstUsable jwt kid alg entries before key := by
  induction entries with
  | nil => exact absurd hmem List.not_mem_nil
  | cons first entries ih =>
    by_cases hfirst : ∃ key, Usable jwt kid alg first key
    · obtain ⟨key, hkey⟩ := hfirst
      exact ⟨[], key, first, entries, rfl, hkey, by simp⟩
    · push Not at hfirst
      have hrest : entry ∈ entries := by
        rcases List.mem_cons.mp hmem with rfl | hrest
        · exact absurd husable (hfirst key)
        · exact hrest
      obtain ⟨before, key, found, after, rfl, hfound, hbefore⟩ := ih hrest
      exact ⟨first :: before, key, found, after, rfl, hfound,
        List.forall_mem_cons.mpr ⟨hfirst, hbefore⟩⟩

/-- **When bad entries hide nothing.** For every list under `keys`, every `kid` and every allowed
algorithm, the search is right iff every entry that no usable entry precedes is an object. -/
theorem bad_entries_skipped_iff {members : JsonObject} {entries : List Json}
    (hkeys : members.lookup (PyStr.ofString "keys") = some (.arr entries)) (kid : Json)
    (h : alg ∈ allowedJwtAlgorithms) :
    FindsFirst jwt kid alg entries (findSigningKey jwt (.obj members) kid alg) ↔
      ReachedObjects jwt kid alg entries := by
  have hfind : findSigningKey jwt (.obj members) kid alg = searchKeys jwt kid alg entries := by
    simp [findSigningKey, jwksKeys, hkeys]
  rw [hfind, ← searchKeys_returns_iff h]
  constructor
  · -- a result is due in either case: the first usable key, or none
    intro hfinds
    by_cases husable : ∃ e ∈ entries, ∃ key, Usable jwt kid alg e key
    · obtain ⟨e, he, key, hkey⟩ := husable
      obtain ⟨before, key, hfirst⟩ := exists_firstUsable he hkey
      exact ⟨some key, (hfinds.found key).mpr ⟨before, hfirst⟩⟩
    · push Not at husable
      exact ⟨none, hfinds.notFound.mpr husable⟩
  · rintro ⟨found, hfound⟩
    cases found with
    | none =>
      have hnot := not_usable_of_searchKeys_eq_none h hfound
      refine ⟨fun key => iff_of_false (by simp [hfound]) ?_, iff_of_true hfound hnot⟩
      rintro ⟨before, entry, after, rfl, husable, -⟩
      exact hnot entry (by simp) key husable
    | some key =>
      obtain ⟨before, hfirst, hobjects⟩ := (searchKeys_eq_some_iff h entries key).mp hfound
      constructor
      · intro key'
        rw [searchKeys_eq_some_iff h]
        refine exists_congr fun before' => and_iff_left_of_imp fun hfirst' => ?_
        rwa [hfirst'.unique hfirst]
      · refine iff_of_false (by simp [hfound]) fun hnot => ?_
        obtain ⟨entry, after, rfl, husable, -⟩ := hfirst
        exact hnot entry (by simp) key husable

/-- The sample key is usable for an assertion without a `kid`. -/
theorem usable_sampleKey :
    Usable (claimsJwt fun _ => []) .null (PyStr.ofString "RS256") (.obj sampleKey) () :=
  ⟨sampleKey, rfl, fits_sampleKey, rfl⟩

/-- An empty object before the key is skipped. -/
theorem bad_entries_skipped_iff_emptyObject :
    FindsFirst (claimsJwt fun _ => []) .null (PyStr.ofString "RS256") [.obj [], .obj sampleKey]
      (findSigningKey (claimsJwt fun _ => [])
        (.obj [(PyStr.ofString "keys", .arr [.obj [], .obj sampleKey])]) .null
        (PyStr.ofString "RS256")) := by
  refine (bad_entries_skipped_iff (by simp) .null (by decide +kernel)).mpr ?_
  have hnot : ∀ key,
      ¬ Usable (claimsJwt fun _ => []) .null (PyStr.ofString "RS256") (.obj []) key := by
    rintro key ⟨keyData, hobj, hfits, -⟩
    obtain rfl := Json.obj.inj hobj
    exact absurd hfits.kty_eq (by simp [Json.member, Json.get])
  exact (reachedObjects_cons_of_not_usable hnot _).mpr
    (reachedObjects_cons_of_usable usable_sampleKey [])

/-- A string before the key hides it: the search is aborted. -/
theorem bad_entry_hides_key :
    ¬ FindsFirst (claimsJwt fun _ => []) .null (PyStr.ofString "RS256") [.str "x", .obj sampleKey]
      (findSigningKey (claimsJwt fun _ => [])
        (.obj [(PyStr.ofString "keys", .arr [.str "x", .obj sampleKey])]) .null
        (PyStr.ofString "RS256")) := by
  intro h
  have hfirst : FirstUsable (claimsJwt fun _ => []) .null (PyStr.ofString "RS256")
      [.str "x", .obj sampleKey] [.str "x"] () := by
    refine ⟨.obj sampleKey, [], rfl, usable_sampleKey, ?_⟩
    rintro e he key ⟨keyData, hobj, -⟩
    obtain rfl := List.mem_singleton.mp he
    cases hobj
  have hfound := (h.found ()).mpr ⟨_, hfirst⟩
  have hraised : findSigningKey (claimsJwt fun _ => [])
      (.obj [(PyStr.ofString "keys", .arr [.str "x", .obj sampleKey])]) .null
      (PyStr.ofString "RS256") = .error .attributeError := by
    simp [findSigningKey, jwksKeys, searchKeys]
  rw [hraised] at hfound
  cases hfound

end McpAuthflow.ClientAuth
