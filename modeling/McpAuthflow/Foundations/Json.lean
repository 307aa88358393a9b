import McpAuthflow.Foundations.Text
import Mathlib.Data.Rat.Init
import Mathlib.Algebra.Order.Field.Rat

/-! # Parsed JSON, as Python sees it

`Json` is the value `json.loads` returns: `None`, booleans, numbers, strings, lists and dicts with
string keys. Numbers are exact rationals. The file fixes the Python operations that untyped JSON
values meet: truthiness, `==`, arithmetic on a value that may not be a number, and hashing. -/

/-- A parsed JSON value. -/
inductive Json where
  | null
  | bool (b : Bool)
  | num (q : ℚ)
  | str (s : PyStr)
  | arr (items : List Json)
  | obj (members : List (PyStr × Json))

/-- The members of a JSON object, a Python `dict[str, Any]`. -/
abbrev JsonObject := List (PyStr × Json)

namespace Json

/-- `dict.get(key)`: the member's value, `None` when it is absent. -/
def get (o : JsonObject) (key : PyStr) : Json := (o.lookup key).getD null

/-- `dict.get` at a literal key. -/
def member (o : JsonObject) (name : String) : Json := get o (PyStr.ofString name)

/-- A member that is not `None` is present. -/
theorem lookup_of_member_ne_null {o : JsonObject} {name : String} (h : member o name ≠ null) :
    o.lookup (PyStr.ofString name) = some (member o name) := by
  unfold member get at *
  cases hlookup : o.lookup (PyStr.ofString name) with
  | none => simp [hlookup] at h
  | some v => rfl

/-- Python truthiness: `None`, `False`, `0` and empty containers are falsy. -/
def truthy : Json → Bool
  | null => false
  | bool b => b
  | num q => q != 0
  | str s => !s.isEmpty
  | arr items => !items.isEmpty
  | obj members => !members.isEmpty

/-- The number an arithmetic operator reads, `bool` being an `int`; `none` is a `TypeError`. -/
def num? : Json → Option ℚ
  | bool b => some (if b then 1 else 0)
  | num q => some q
  | _ => none

/-- The text of a string value; `none` when `isinstance(value, str)` is false. -/
def str? : Json → Option PyStr
  | str s => some s
  | _ => none

/-- The texts of a list of strings; `none` for any other value. -/
def strings? : Json → Option (List PyStr)
  | arr items => if items.all fun v => v.str?.isSome then some (items.filterMap str?) else none
  | _ => none

theorem isSome_str? (v : Json) : v.str?.isSome ↔ ∃ s, v = str s := by
  cases v <;> simp [str?]

/-- A list of strings is a list each of whose items is a string. -/
theorem isSome_strings? (v : Json) :
    v.strings?.isSome ↔ ∃ items, v = arr items ∧ ∀ item ∈ items, ∃ s, item = str s := by
  cases v with
  | arr items => simp [strings?, isSome_str?]
  | null | bool | num | str | obj => simp [strings?]

mutual

/-- Python's `==` on parsed JSON. -/
def pyEq : Json → Json → Bool
  | null, null => true
  | str s, str t => s == t
  | arr xs, arr ys => pyEqItems xs ys
  | obj xs, obj ys => xs.length == ys.length && pyEqMembers xs ys
  | x, y =>
    match x.num?, y.num? with
    | some p, some q => p == q
    | _, _ => false

/-- `==` on lists, element by element. -/
def pyEqItems : List Json → List Json → Bool
  | [], [] => true
  | x :: xs, y :: ys => pyEq x y && pyEqItems xs ys
  | _, _ => false

/-- Each member on the left has an equal one on the right. -/
def pyEqMembers : JsonObject → JsonObject → Bool
  | [], _ => true
  | (k, x) :: xs, ys =>
    (match ys.lookup k with
      | some y => pyEq x y
      | none => false) && pyEqMembers xs ys

end

/-- Only the same string equals a string. -/
@[simp] theorem pyEq_str (v : Json) (s : PyStr) : pyEq v (str s) = true ↔ v = str s := by
  cases v <;> simp [pyEq, num?]

/-- Only `None` equals `None`. -/
theorem pyEq_null (v : Json) : pyEq v null = true ↔ v = null := by
  cases v <;> simp [pyEq, num?]

/-- The identity of a value as a dictionary key; lists and dicts have none (`TypeError`). -/
inductive HashKey where
  | none
  | num (q : ℚ)
  | str (s : PyStr)
  deriving DecidableEq

/-- The key a value hashes to, `True` and `1` being the same one. -/
def hashKey : Json → Option HashKey
  | null => some .none
  | bool b => some (.num (if b then 1 else 0))
  | num q => some (.num q)
  | str s => some (.str s)
  | arr _ => .none
  | obj _ => .none

end Json
