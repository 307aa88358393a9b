import Mathlib.Data.List.AList
import Mathlib.Tactic.Common

/-! # Finite dictionaries

A dictionary is Mathlib's association list with distinct keys (`AList`), at a constant value type;
its reads and writes (`lookup`, `insert`, `erase`) and their laws are Mathlib's. This file adds
what a program that sweeps, counts or re-encodes a dictionary needs:

* **`AList.filter`** — keep the entries that satisfy a test, with `lookup_filter`;
* **`AList.foldl_erase_keys_filter`** — the same sweep, key by key;
* **`AList.mapValues`** — re-encode every value, with `lookup_mapValues` and the commutation laws
  `mapValues_insert`, `mapValues_erase`, `filter_mapValues`;
* **`AList.forall_lookup_insert`**, **`AList.forall_lookup_erase`** — what holds of every entry is
  kept by a write and a removal;
* **`AList.size`**, **`AList.countP`** — the number of entries, and of those that satisfy a test,
  with `size_mapValues`, `countP_insert` and `countP_of_lookup`. -/

/-- A finite map from keys to values. -/
abbrev Dict (κ : Type*) (ν : Type*) := AList (fun _ : κ => ν)

namespace AList

variable {κ ν μ : Type*}

/-! ## Counting -/

/-- The number of entries. -/
def size (d : Dict κ ν) : ℕ := d.entries.length

@[simp] theorem size_empty : size (∅ : Dict κ ν) = 0 := rfl

/-! ## Sweeping -/

/-- The entries that satisfy the test `p`. -/
def filter (p : κ → ν → Bool) (d : Dict κ ν) : Dict κ ν where
  entries := d.entries.filter fun e => p e.1 e.2
  nodupKeys := d.nodupKeys.sublist List.filter_sublist

/-- Two tests that agree on every entry keep the same entries. -/
theorem filter_congr {p q : κ → ν → Bool} {d : Dict κ ν}
    (h : ∀ e ∈ d.entries, p e.1 e.2 = q e.1 e.2) : d.filter p = d.filter q :=
  AList.ext (List.filter_congr h)

/-- Tests that keep the same entries agree on every entry. -/
theorem filter_eq_filter_iff {p q : κ → ν → Bool} {d : Dict κ ν} :
    d.filter p = d.filter q ↔ ∀ e ∈ d.entries, p e.1 e.2 = q e.1 e.2 := by
  refine ⟨fun h e he => ?_, filter_congr⟩
  have hmem : e ∈ (d.filter p).entries ↔ e ∈ (d.filter q).entries := by rw [h]
  simp only [filter, List.mem_filter, he, true_and] at hmem
  exact Bool.eq_iff_iff.mpr hmem

/-- Filtering twice by one test. -/
theorem filter_filter_self (p : κ → ν → Bool) (d : Dict κ ν) :
    (d.filter p).filter p = d.filter p := by
  apply AList.ext
  simp only [filter, List.filter_filter, Bool.and_self]

/-- The number of entries that satisfy the test `p`. -/
def countP (p : κ → ν → Bool) (d : Dict κ ν) : ℕ := d.entries.countP fun e => p e.1 e.2

/-- A filtered dictionary has as many entries as satisfy the test. -/
theorem size_filter (p : κ → ν → Bool) (d : Dict κ ν) : (d.filter p).size = d.countP p :=
  List.countP_eq_length_filter.symm

/-- An entry either satisfies a test or does not. -/
theorem size_eq_countP_add (p : κ → ν → Bool) (d : Dict κ ν) :
    d.size = d.countP p + d.countP fun k v => !p k v := by
  rw [size, List.length_eq_countP_add_countP (fun e => p e.1 e.2)]
  congr 1
  apply List.countP_congr
  intro e _
  simp

/-- A stronger test is met by fewer entries. -/
theorem countP_mono {p q : κ → ν → Bool} (h : ∀ k v, p k v = true → q k v = true)
    (d : Dict κ ν) : d.countP p ≤ d.countP q :=
  List.countP_mono_left fun e _ => h e.1 e.2

/-- Tests that agree on every entry are met by as many. -/
theorem countP_congr {p q : κ → ν → Bool} {d : Dict κ ν}
    (h : ∀ e ∈ d.entries, p e.1 e.2 = q e.1 e.2) : d.countP p = d.countP q :=
  List.countP_congr fun e he => by rw [h e he]

/-- The entries that fail a test are gone once they have been filtered out. -/
theorem countP_filter_not (p : κ → ν → Bool) (d : Dict κ ν) :
    (d.filter fun k v => !p k v).countP p = 0 := by
  rw [countP, List.countP_eq_zero]
  intro e he
  have hfails := (List.mem_filter.mp he).2
  simpa using hfails

variable [DecidableEq κ]

/-- After a write, the entries that satisfy a test are the others and, maybe, the new one. -/
theorem countP_insert (p : κ → ν → Bool) (d : Dict κ ν) (k : κ) (v : ν) :
    (d.insert k v).countP p = (d.erase k).countP p + if p k v = true then 1 else 0 := by
  rw [countP, AList.entries_insert, List.countP_cons]
  rfl

/-- The entries that satisfy a test, counted with one entry set apart. -/
theorem countP_of_lookup (p : κ → ν → Bool) {d : Dict κ ν} {k : κ} {v : ν}
    (h : d.lookup k = some v) :
    d.countP p = (d.erase k).countP p + if p k v = true then 1 else 0 := by
  have hmem : (⟨k, v⟩ : Σ _ : κ, ν) ∈ d.entries := AList.mem_lookup_iff.mp h
  obtain ⟨v', before, after, -, hsplit, herase⟩ :=
    List.exists_of_kerase (List.mem_keys_of_mem hmem)
  -- the keys are distinct, so the entry found at `k` is `v`
  have hsame : v' = v := by
    refine List.NodupKeys.eq_of_mk_mem d.nodupKeys (a := k) ?_ hmem
    rw [hsplit]
    exact List.mem_append_right _ List.mem_cons_self
  subst hsame
  show d.entries.countP _ = (d.entries.kerase k).countP _ + _
  rw [herase, hsplit, List.countP_append, List.countP_append, List.countP_cons, ← Nat.add_assoc]

/-- An absent key has nothing to remove. -/
theorem erase_of_lookup_eq_none {d : Dict κ ν} {k : κ} (h : d.lookup k = none) : d.erase k = d :=
  AList.ext (List.kerase_of_notMem_keys (AList.lookup_eq_none.mp h))

/-- An entry of the dictionary is what `lookup` finds at its key. -/
theorem lookup_eq_some_iff_mem {d : Dict κ ν} {k : κ} {v : ν} :
    d.lookup k = some v ↔ ⟨k, v⟩ ∈ d.entries := by
  rw [← Option.mem_def, AList.mem_lookup_iff]

/-- **A filtered dictionary** holds at each key what the dictionary holds there, if that passes the
test. -/
theorem lookup_filter (p : κ → ν → Bool) (d : Dict κ ν) (k : κ) :
    (d.filter p).lookup k = (d.lookup k).filter (p k) := by
  apply Option.ext
  intro v
  rw [lookup_eq_some_iff_mem, Option.filter_eq_some_iff, lookup_eq_some_iff_mem, filter,
    List.mem_filter]

/-- Removing one key keeps the entries at the others. -/
theorem erase_eq_filter (d : Dict κ ν) (k : κ) :
    d.erase k = d.filter fun k' _ => decide (k' ≠ k) := by
  apply AList.ext
  obtain ⟨entries, hnodup⟩ := d
  show entries.kerase k = entries.filter _
  induction entries with
  | nil => rfl
  | cons e entries ih =>
    obtain ⟨hfresh, hrest⟩ := List.nodupKeys_cons.mp hnodup
    by_cases hk : k = e.1
    · rw [List.kerase_cons_eq hk, List.filter_cons_of_neg (by simp [hk])]
      refine (List.filter_eq_self.mpr fun e' he' => ?_).symm
      have hne : e'.1 ≠ k := by
        rintro heq
        rw [← hk, ← heq] at hfresh
        exact hfresh (List.mem_keys_of_mem he')
      simpa using hne
    · rw [List.kerase_cons_ne hk, List.filter_cons_of_pos (by simpa using Ne.symm hk), ih hrest]

/-- Removing keys one after the other keeps the entries at the others. -/
theorem foldl_erase (ks : List κ) (d : Dict κ ν) :
    ks.foldl (fun d k => d.erase k) d = d.filter fun k _ => decide (k ∉ ks) := by
  induction ks generalizing d with
  | nil =>
    refine AList.ext (List.filter_eq_self.mpr fun e _ => ?_).symm
    simp
  | cons k ks ih =>
    rw [List.foldl_cons, ih, erase_eq_filter]
    apply AList.ext
    simp only [filter, List.filter_filter]
    refine List.filter_congr fun e _ => ?_
    simp [Bool.and_comm]

/-- **Sweeping key by key**: removing the keys of the entries that satisfy a test leaves those that
do not. -/
theorem foldl_erase_keys_filter (p : κ → ν → Bool) (d : Dict κ ν) :
    (d.filter p).keys.foldl (fun d k => d.erase k) d = d.filter fun k v => !p k v := by
  rw [foldl_erase]
  refine filter_congr fun e he => ?_
  have hlookup : d.lookup e.1 = some e.2 := lookup_eq_some_iff_mem.mpr he
  have hswept : e.1 ∈ (d.filter p).keys ↔ p e.1 e.2 = true := by
    rw [← AList.mem_keys, ← AList.lookup_isSome, lookup_filter, hlookup]
    cases hp : p e.1 e.2 <;> simp [Option.filter, hp]
  simp [hswept]

/-! ## What holds of every entry -/

/-- A write keeps what holds of every entry, if it holds of the new one. -/
theorem forall_lookup_insert {P : κ → ν → Prop} {d : Dict κ ν}
    (h : ∀ k v, d.lookup k = some v → P k v) {k : κ} {v : ν} (hnew : P k v) :
    ∀ k' v', (d.insert k v).lookup k' = some v' → P k' v' := by
  intro k' v' hlookup
  by_cases hk : k' = k
  · subst hk
    rw [AList.lookup_insert, Option.some_inj] at hlookup
    rw [← hlookup]
    exact hnew
  · rw [AList.lookup_insert_ne hk] at hlookup
    exact h k' v' hlookup

/-- A removal keeps what holds of every entry. -/
theorem forall_lookup_erase {P : κ → ν → Prop} {d : Dict κ ν}
    (h : ∀ k v, d.lookup k = some v → P k v) (k : κ) :
    ∀ k' v', (d.erase k).lookup k' = some v' → P k' v' := by
  intro k' v' hlookup
  by_cases hk : k' = k
  · subst hk
    rw [AList.lookup_erase] at hlookup
    cases hlookup
  · rw [AList.lookup_erase_ne hk] at hlookup
    exact h k' v' hlookup

/-! ## Temporary entries -/

/-- A new key that is written and erased again leaves no trace. -/
theorem erase_insert_of_lookup_eq_none {d : Dict κ ν} {k : κ} (h : d.lookup k = none) (v : ν) :
    (d.insert k v).erase k = d := by
  apply AList.ext
  have hkeys : k ∉ d.entries.keys := AList.lookup_eq_none.mp h
  show (d.insert k v).entries.kerase k = d.entries
  rw [AList.entries_insert, List.kerase_of_notMem_keys hkeys]
  exact List.kerase_cons_eq rfl

/-! ## Re-encoding the values -/

/-- Re-encode every value. -/
def mapValues (f : ν → μ) (d : Dict κ ν) : Dict κ μ where
  entries := d.entries.map fun e => ⟨e.1, f e.2⟩
  nodupKeys := d.nodupKeys.map₂ fun _ => f

omit [DecidableEq κ] in
@[simp] theorem mapValues_empty (f : ν → μ) : mapValues f (∅ : Dict κ ν) = ∅ := rfl

omit [DecidableEq κ] in
@[simp] theorem size_mapValues (f : ν → μ) (d : Dict κ ν) : (d.mapValues f).size = d.size := by
  simp [size, mapValues]

omit [DecidableEq κ] in
/-- Filtering after re-encoding tests the re-encoded values. -/
theorem filter_mapValues (f : ν → μ) (p : κ → μ → Bool) (d : Dict κ ν) :
    (d.mapValues f).filter p = (d.filter fun k v => p k (f v)).mapValues f :=
  AList.ext List.filter_map

/-- Values that are re-encoded alike. -/
theorem mapValues_congr {f g : ν → μ} {d : Dict κ ν}
    (h : ∀ k v, d.lookup k = some v → f v = g v) : d.mapValues f = d.mapValues g := by
  apply AList.ext
  refine List.map_congr_left fun e he => ?_
  rw [h e.1 e.2 (lookup_eq_some_iff_mem.mpr he)]

@[simp] theorem lookup_mapValues (f : ν → μ) (d : Dict κ ν) (k : κ) :
    (d.mapValues f).lookup k = (d.lookup k).map f :=
  List.dlookup_map₂ (f := fun _ => f) k

/-- Re-encoding commutes with the removal of a key from a list of entries. -/
private theorem kerase_map (f : ν → μ) (k : κ) (l : List (Σ _ : κ, ν)) :
    (l.map fun e => (⟨e.1, f e.2⟩ : Σ _ : κ, μ)).kerase k
      = (l.kerase k).map fun e => ⟨e.1, f e.2⟩ := by
  induction l with
  | nil => rfl
  | cons e l ih =>
    by_cases h : k = e.1
    · rw [List.map_cons, List.kerase_cons_eq h, List.kerase_cons_eq (by exact h)]
    · rw [List.map_cons, List.kerase_cons_ne h, List.kerase_cons_ne (by exact h), ih, List.map_cons]

/-- Re-encoding commutes with `erase`. -/
theorem mapValues_erase (f : ν → μ) (d : Dict κ ν) (k : κ) :
    (d.erase k).mapValues f = (d.mapValues f).erase k :=
  AList.ext (kerase_map f k d.entries).symm

/-- Re-encoding commutes with `insert`. -/
theorem mapValues_insert (f : ν → μ) (d : Dict κ ν) (k : κ) (v : ν) :
    (d.insert k v).mapValues f = (d.mapValues f).insert k (f v) := by
  apply AList.ext
  rw [AList.entries_insert]
  show (⟨k, f v⟩ : Σ _ : κ, μ) :: (d.entries.kerase k).map _ = _
  rw [← kerase_map]
  rfl

end AList
