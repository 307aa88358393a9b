import McpAuthflow.Foundations.Dict
import Mathlib.Data.List.Perm.Subperm
import Mathlib.Order.Lattice

/-! # A keyspace whose entries expire

The store of a server such as Redis: a dictionary whose entries may carry a **deadline**. An entry
is alive up to and including its deadline; once the clock is past it the key reads as absent. The
commands below are the atomic ones a client composes:

* **`Keyspace.read`** — the value of a key that is alive;
* **`Keyspace.setIfAbsent`** — `SET key value NX PX`: write with a deadline unless the key is alive;
* **`Keyspace.alter`** — rewrite the value at a key, keeping its deadline, and drop the key when
  nothing is left;
* **`Keyspace.expireAt`** — give a key that is alive a new deadline.

Each command has its read laws at the same key, now or later, and at every other key. `Grants` reads
a keyspace that only `setIfAbsent` writes as a table of grants. -/

/-- A stored value with its deadline; `none` never expires. -/
structure KeyspaceEntry (T V : Type*) where
  /-- The stored value. -/
  value : V
  /-- The last moment the entry is alive. -/
  deadline : Option T

/-- A server's keyspace. -/
abbrev Keyspace (T K V : Type*) := Dict K (KeyspaceEntry T V)

namespace Keyspace

variable {T K V : Type*} [LinearOrder T] [DecidableEq K]

/-- Whether an entry is alive at `now`. -/
def alive (now : T) (e : KeyspaceEntry T V) : Bool :=
  match e.deadline with
  | none => true
  | some d => decide (now ≤ d)

omit [DecidableEq K] in
/-- An entry that is alive later is alive now. -/
theorem alive_of_le {now later : T} (h : now ≤ later) {e : KeyspaceEntry T V}
    (he : alive later e = true) : alive now e = true := by
  obtain ⟨v, d⟩ := e
  cases d with
  | none => rfl
  | some d =>
    simp only [alive, decide_eq_true_eq] at he ⊢
    exact le_trans h he

/-- The value at a key that is alive. -/
def read (db : Keyspace T K V) (now : T) (k : K) : Option V :=
  ((db.lookup k).filter (alive now)).map KeyspaceEntry.value

@[simp] theorem read_empty (now : T) (k : K) : read (∅ : Keyspace T K V) now k = none := rfl

/-- Reading a key whose entry is known. -/
theorem read_of_lookup {db : Keyspace T K V} {k : K} {e : KeyspaceEntry T V}
    (h : db.lookup k = some e) (now : T) :
    read db now k = if alive now e then some e.value else none := by
  rw [read, h]
  cases halive : alive now e <;> simp [Option.filter, halive]

theorem read_of_lookup_none {db : Keyspace T K V} {k : K} (h : db.lookup k = none) (now : T) :
    read db now k = none := by
  rw [read, h]
  rfl

/-- A value that is read later is read now. -/
theorem read_of_le {now later : T} (h : now ≤ later) {db : Keyspace T K V} {k : K} {v : V}
    (hread : read db later k = some v) : read db now k = some v := by
  rw [read, Option.map_eq_some_iff] at hread ⊢
  obtain ⟨e, he, hv⟩ := hread
  rw [Option.filter_eq_some_iff] at he
  exact ⟨e, Option.filter_eq_some_iff.mpr ⟨he.1, alive_of_le h he.2⟩, hv⟩

/-- An entry that is not read has its deadline behind it. -/
theorem deadline_lt_of_read_none {db : Keyspace T K V} {now : T} {k : K} {e : KeyspaceEntry T V}
    (h : db.lookup k = some e) (hnone : read db now k = none) :
    ∃ d, e.deadline = some d ∧ d < now := by
  rw [read_of_lookup h] at hnone
  have hdead : alive now e = false := by
    by_contra halive
    simp [halive] at hnone
  obtain ⟨v, d⟩ := e
  cases d with
  | none => cases hdead
  | some d => exact ⟨d, rfl, by simpa [alive] using hdead⟩

/-! ## Writing -/

/-- `SET key value NX PX`: write unless the key is alive, and say whether it was written. -/
def setIfAbsent (db : Keyspace T K V) (now : T) (k : K) (v : V) (deadline : T) :
    Bool × Keyspace T K V :=
  match read db now k with
  | some _ => (false, db)
  | none => (true, db.insert k ⟨v, some deadline⟩)

theorem setIfAbsent_of_some {db : Keyspace T K V} {now : T} {k : K} {v' : V}
    (h : read db now k = some v') (v : V) (deadline : T) :
    setIfAbsent db now k v deadline = (false, db) := by
  rw [setIfAbsent, h]

theorem setIfAbsent_of_none {db : Keyspace T K V} {now : T} {k : K} (h : read db now k = none)
    (v : V) (deadline : T) :
    setIfAbsent db now k v deadline = (true, db.insert k ⟨v, some deadline⟩) := by
  rw [setIfAbsent, h]

/-- Rewrite the value at a key, keeping its deadline; a key left without a value is dropped. -/
def alter (db : Keyspace T K V) (now : T) (k : K) (f : Option V → Option V) : Keyspace T K V :=
  match f (read db now k) with
  | none => db.erase k
  | some v =>
    match (db.lookup k).filter (alive now) with
    | none => db.insert k ⟨v, none⟩
    | some e => db.insert k ⟨v, e.deadline⟩

/-- Give a key that is alive a new deadline. -/
def expireAt (db : Keyspace T K V) (now : T) (k : K) (deadline : T) : Keyspace T K V :=
  match read db now k with
  | none => db
  | some v => db.insert k ⟨v, some deadline⟩

/-- The key just written reads its value up to its deadline. -/
theorem read_insert_self (db : Keyspace T K V) (k : K) (v : V) (d : Option T) (now : T) :
    read (db.insert k ⟨v, d⟩) now k
      = if alive now (⟨v, d⟩ : KeyspaceEntry T V) then some v else none :=
  read_of_lookup (AList.lookup_insert db) now

theorem read_insert_ne {db : Keyspace T K V} {k k' : K} (h : k' ≠ k) (e : KeyspaceEntry T V)
    (now : T) : read (db.insert k e) now k' = read db now k' := by
  rw [read, read, AList.lookup_insert_ne h]

theorem read_erase_self (db : Keyspace T K V) (k : K) (now : T) : read (db.erase k) now k = none :=
  read_of_lookup_none (AList.lookup_erase k db) now

theorem read_erase_ne {db : Keyspace T K V} {k k' : K} (h : k' ≠ k) (now : T) :
    read (db.erase k) now k' = read db now k' := by
  rw [read, read, AList.lookup_erase_ne h]

/-- **Reading after `alter`, at the same key, now or later.** The rewriting is seen by every later
reader for whom the key would still have been alive. -/
theorem read_alter_self {db : Keyspace T K V} {now later : T} (hle : now ≤ later) (k : K)
    {f : Option V → Option V} (hf : f none = none) :
    read (alter db now k f) later k = (read db later k).bind fun v => f (some v) := by
  unfold alter
  -- absent, expired by now, or alive: only an alive entry is rewritten
  cases hk : db.lookup k with
  | none =>
    rw [read_of_lookup_none hk, hf, read_of_lookup_none hk]
    exact read_erase_self db k later
  | some e =>
    rw [read_of_lookup hk, read_of_lookup hk]
    cases hnow : alive now e with
    | false =>
      have hlater : alive later e = false := by
        by_contra h
        simp [alive_of_le hle (by simpa using h)] at hnow
      simp only [Bool.false_eq_true, if_false, hf, hlater]
      exact read_erase_self db k later
    | true =>
      simp only [if_true]
      cases hfe : f (some e.value) with
      | none =>
        simp only
        rw [read_erase_self]
        cases alive later e <;> simp [hfe]
      | some v =>
        simp only [Option.filter, hnow, if_true]
        rw [read_insert_self]
        have hsame : alive later (⟨v, e.deadline⟩ : KeyspaceEntry T V) = alive later e := rfl
        rw [hsame]
        cases alive later e <;> simp [hfe]

/-- Reading after an `alter` that leaves a value, at the same key and the same moment. -/
theorem read_alter_self_now {db : Keyspace T K V} {now : T} (k : K) {f : Option V → Option V}
    {v : V} (hf : f (read db now k) = some v) : read (alter db now k f) now k = some v := by
  unfold alter
  rw [hf]
  cases hk : (db.lookup k).filter (alive now) with
  | none => simp [read_insert_self, alive]
  | some e =>
    simp only
    rw [read_insert_self]
    have halive : alive now e = true := (Option.filter_eq_some_iff.mp hk).2
    have hsame : alive now (⟨v, e.deadline⟩ : KeyspaceEntry T V) = alive now e := rfl
    rw [hsame, if_pos halive]

theorem read_alter_ne {db : Keyspace T K V} {k k' : K} (h : k' ≠ k) (now : T)
    (f : Option V → Option V) (t : T) : read (alter db now k f) t k' = read db t k' := by
  unfold alter
  split
  · exact read_erase_ne h t
  · split <;> exact read_insert_ne h _ t

/-- **Reading after `expireAt`**: a key alive at `now` reads the same up to the new deadline. -/
theorem read_expireAt_self {db : Keyspace T K V} {now : T} {k : K} {v : V}
    (h : read db now k = some v) (deadline t : T) :
    read (expireAt db now k deadline) t k = if t ≤ deadline then some v else none := by
  unfold expireAt
  rw [h]
  simp only
  rw [read_insert_self]
  simp [alive]

theorem read_expireAt_ne {db : Keyspace T K V} {k k' : K} (h : k' ≠ k) (now deadline t : T) :
    read (expireAt db now k deadline) t k' = read db t k' := by
  unfold expireAt
  split
  · rfl
  · exact read_insert_ne h _ t

/-! ## The keys that exist -/

/-- The keys that exist at `now`. -/
def liveKeys (db : Keyspace T K V) (now : T) : List K :=
  db.keys.filter fun k => (read db now k).isSome

/-- **A bound on the keys that exist**: they are no more than any list that has all of them. -/
theorem length_liveKeys_le {db : Keyspace T K V} {now : T} {ks : List K}
    (h : ∀ k v, read db now k = some v → k ∈ ks) : (liveKeys db now).length ≤ ks.length := by
  have hsubset : liveKeys db now ⊆ ks := by
    intro k hk
    obtain ⟨v, hread⟩ := Option.isSome_iff_exists.mp (List.mem_filter.mp hk).2
    exact h k v hread
  exact (List.Nodup.subperm (db.keys_nodup.filter _) hsubset).length_le

/-! ## Locality

A command at a key reads and writes the entry of that key alone: keyspaces that agree on the entry
agree on it after the command, and every other entry stays. -/

/-- A read depends on the entry of the key alone. -/
theorem read_congr {db db' : Keyspace T K V} {k : K} (h : db.lookup k = db'.lookup k) (now : T) :
    read db now k = read db' now k := by
  rw [read, read, h]

theorem lookup_alter_congr {db db' : Keyspace T K V} {k : K} (h : db.lookup k = db'.lookup k)
    (now : T) (f : Option V → Option V) :
    (alter db now k f).lookup k = (alter db' now k f).lookup k := by
  unfold alter
  rw [read_congr h, h]
  split
  · rw [AList.lookup_erase, AList.lookup_erase]
  · split <;> rw [AList.lookup_insert, AList.lookup_insert]

theorem lookup_alter_ne {db : Keyspace T K V} {k k' : K} (h : k' ≠ k) (now : T)
    (f : Option V → Option V) : (alter db now k f).lookup k' = db.lookup k' := by
  unfold alter
  split
  · exact AList.lookup_erase_ne h
  · split <;> exact AList.lookup_insert_ne h

theorem lookup_expireAt_congr {db db' : Keyspace T K V} {k : K} (h : db.lookup k = db'.lookup k)
    (now deadline : T) :
    (expireAt db now k deadline).lookup k = (expireAt db' now k deadline).lookup k := by
  unfold expireAt
  rw [read_congr h]
  split
  · exact h
  · rw [AList.lookup_insert, AList.lookup_insert]

theorem lookup_expireAt_ne {db : Keyspace T K V} {k k' : K} (h : k' ≠ k) (now deadline : T) :
    (expireAt db now k deadline).lookup k' = db.lookup k' := by
  unfold expireAt
  split
  · rfl
  · exact AList.lookup_insert_ne h

/-! ## Keys granted until a deadline

A keyspace that is written by `setIfAbsent` alone is a table of grants: each write that succeeds
grants its key until its deadline, and a key exists exactly while one of its grants is in force. -/

/-- **From `clock` on, a key exists exactly while a grant of it is in force.** -/
def Grants (db : Keyspace T K V) (clock : T) (granted : K → T → Prop) : Prop :=
  ∀ k now, clock ≤ now → ((∃ v, read db now k = some v) ↔ ∃ d, granted k d ∧ now ≤ d)

theorem grants_empty (clock : T) :
    Grants (∅ : Keyspace T K V) clock fun _ _ => False := by
  intro k now _
  simp

/-- Time may pass. -/
theorem Grants.of_le {db : Keyspace T K V} {clock later : T} {granted : K → T → Prop}
    (h : Grants db clock granted) (hle : clock ≤ later) : Grants db later granted :=
  fun k now hnow => h k now (le_trans hle hnow)

/-- A key that exists has a grant in force, and conversely. -/
theorem Grants.exists_iff {db : Keyspace T K V} {clock : T} {granted : K → T → Prop}
    (h : Grants db clock granted) (k : K) :
    (∃ v, read db clock k = some v) ↔ ∃ d, granted k d ∧ clock ≤ d :=
  h k clock le_rfl

/-- **A write to an absent key adds its grant.** -/
theorem Grants.insert {db : Keyspace T K V} {clock : T} {granted : K → T → Prop}
    (h : Grants db clock granted) {k : K} (hfree : read db clock k = none) (v : V) (d : T) :
    Grants (db.insert k ⟨v, some d⟩) clock fun k' d' => granted k' d' ∨ (k' = k ∧ d' = d) := by
  intro k' now hnow
  by_cases hk : k' = k
  · -- the earlier grants of the key have run out, so the new one decides
    have hold : ∀ d', granted k d' → ¬ now ≤ d' := by
      intro d' hd' hle
      obtain ⟨v', hv'⟩ := (h.exists_iff k).mpr ⟨d', hd', le_trans hnow hle⟩
      rw [hfree] at hv'
      cases hv'
    rw [hk, read_insert_self]
    constructor
    · rintro ⟨v', hv'⟩
      refine ⟨d, Or.inr ⟨rfl, rfl⟩, ?_⟩
      by_contra hpast
      simp [alive, hpast] at hv'
    · rintro ⟨d', hd' | ⟨-, rfl⟩, hle⟩
      · exact absurd hle (hold d' hd')
      · exact ⟨v, by simp [alive, hle]⟩
  · rw [read_insert_ne hk, h k' now hnow]
    simp [hk]

end Keyspace
