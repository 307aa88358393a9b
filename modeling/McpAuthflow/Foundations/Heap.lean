import Mathlib.Data.List.Basic
import Mathlib.Tactic.Common

/-! # Mutable objects

Python passes objects by reference: two names of one list see each other's changes. A `Heap` holds
the contents of the objects, and an object is known by its `Ref`, its place in the heap. Objects are
never moved or freed here. -/

/-- The identity of an object. -/
abbrev Ref := ℕ

/-- The contents of the objects. -/
abbrev Heap (α : Type*) := List α

namespace Heap

variable {α : Type*} [Inhabited α]

/-- What an object holds. -/
def read (h : Heap α) (r : Ref) : α := h.getD r default

/-- The object is there. -/
def Allocated (h : Heap α) (r : Ref) : Prop := r < h.length

/-- The reference of the next object. -/
def fresh (h : Heap α) : Ref := h.length

/-- A new object, at the fresh reference. -/
def alloc (h : Heap α) (a : α) : Heap α := h ++ [a]

/-- An object changed in place. -/
def write (h : Heap α) (r : Ref) (a : α) : Heap α := h.set r a

@[simp] theorem read_alloc_fresh (h : Heap α) (a : α) : (h.alloc a).read h.fresh = a := by
  simp [read, alloc, fresh]

/-- A new object leaves the others. -/
theorem read_alloc {h : Heap α} {r : Ref} (hr : h.Allocated r) (a : α) :
    (h.alloc a).read r = h.read r := by
  have hlt : r < h.length := hr
  simp only [read, alloc, List.getD_eq_getElem?_getD, List.getElem?_append_left hlt]

theorem read_write_self {h : Heap α} {r : Ref} (hr : h.Allocated r) (a : α) :
    (h.write r a).read r = a := by
  have hlt : r < h.length := hr
  simp [read, write, hlt]

/-- A change leaves the other objects. -/
theorem read_write_ne (h : Heap α) {r r' : Ref} (hne : r' ≠ r) (a : α) :
    (h.write r a).read r' = h.read r' := by
  simp [read, write, List.getElem?_set_ne hne.symm]

omit [Inhabited α] in
theorem allocated_fresh (h : Heap α) (a : α) : (h.alloc a).Allocated h.fresh := by
  simp [Allocated, alloc, fresh]

omit [Inhabited α] in
theorem Allocated.alloc {h : Heap α} {r : Ref} (hr : h.Allocated r) (a : α) :
    (h.alloc a).Allocated r := by
  show r < (h ++ [a]).length
  rw [List.length_append]
  exact Nat.lt_add_right _ hr

omit [Inhabited α] in
theorem Allocated.write {h : Heap α} {r : Ref} (hr : h.Allocated r) (r' : Ref) (a : α) :
    (h.write r' a).Allocated r := by
  show r < (h.set r' a).length
  rw [List.length_set]
  exact hr

end Heap
