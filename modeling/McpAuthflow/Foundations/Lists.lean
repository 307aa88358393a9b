import Mathlib.Data.List.Forall2
import Mathlib.Data.List.Induction

/-! # Splitting and joining lists

A list that grows at its end, split at an element; a list split at its separators; a map that may
fail; and a list cut into groups of one size (`groupsOf`), which undoes `flatten` on groups of that
size. -/

namespace List

variable {α : Type*}

/-- A split of `xs ++ [x]` at an element either is at the new element `x`, or splits `xs`. -/
theorem concat_split {xs pre post : List α} {x y : α} (h : xs ++ [x] = pre ++ y :: post) :
    (pre = xs ∧ y = x ∧ post = []) ∨ ∃ post', post = post' ++ [x] ∧ xs = pre ++ y :: post' := by
  induction post using List.reverseRecOn with
  | nil =>
    obtain ⟨rfl, hxy⟩ := List.append_inj' h rfl
    exact Or.inl ⟨rfl, (List.singleton_inj.mp hxy).symm, rfl⟩
  | append_singleton post z =>
    have h' : xs ++ [x] = (pre ++ y :: post) ++ [z] := by simpa using h
    obtain ⟨rfl, hxz⟩ := List.append_inj' h' rfl
    exact Or.inr ⟨post, by rw [List.singleton_inj.mp hxz], rfl⟩

/-- A list split at the last occurrence of an element. -/
theorem append_cons_inj_of_not_mem_right {xs xs' ys ys' : List α} {x : α} (hys : x ∉ ys)
    (hys' : x ∉ ys') (h : xs ++ x :: ys = xs' ++ x :: ys') : xs = xs' ∧ ys = ys' := by
  induction xs generalizing xs' with
  | nil =>
    cases xs' with
    | nil => exact ⟨rfl, (cons.inj h).2⟩
    | cons x' xs' =>
      have hmem : x ∈ ys := (cons.inj h).2 ▸ mem_append_right xs' mem_cons_self
      exact absurd hmem hys
  | cons z xs ih =>
    cases xs' with
    | nil =>
      have hmem : x ∈ ys' := (cons.inj h).2 ▸ mem_append_right xs mem_cons_self
      exact absurd hmem hys'
    | cons x' xs' =>
      obtain ⟨rfl, htail⟩ := cons.inj h
      obtain ⟨rfl, rfl⟩ := ih htail
      exact ⟨rfl, rfl⟩

/-- The pieces between separators hold no separator. -/
theorem eq_false_of_mem_splitOnP {p : α → Bool} {xs ys : List α} (h : ys ∈ xs.splitOnP p) {y : α}
    (hy : y ∈ ys) : p y = false := by
  induction xs generalizing ys with
  | nil =>
    obtain rfl : ys = [] := by simpa using h
    exact absurd hy not_mem_nil
  | cons x xs ih =>
    rw [splitOnP_cons_eq_if_modifyHead] at h
    by_cases hx : p x = true
    · rw [if_pos hx] at h
      rcases mem_cons.mp h with rfl | h
      · exact absurd hy not_mem_nil
      · exact ih h hy
    · rw [if_neg hx] at h
      -- the element joins the first piece
      cases hsplit : xs.splitOnP p with
      | nil => exact absurd hsplit (splitOnP_ne_nil p xs)
      | cons zs rest =>
        rw [hsplit] at h
        rcases mem_cons.mp h with rfl | h
        · rcases mem_cons.mp hy with rfl | hy
          · simpa using hx
          · exact ih (hsplit ▸ mem_cons_self) hy
        · exact ih (hsplit ▸ mem_cons_of_mem _ h) hy

/-! ## Maps that may fail -/

/-- The results of a map that does not fail, one by one. -/
theorem forall₂_of_mapM_eq_some {β : Type*} {f : α → Option β} {xs : List α} {ys : List β}
    (h : xs.mapM f = some ys) : Forall₂ (fun x y => f x = some y) xs ys := by
  induction xs generalizing ys with
  | nil =>
    obtain rfl : [] = ys := by simpa using h
    exact .nil
  | cons x xs ih =>
    rw [mapM_cons] at h
    simp only [Option.bind_eq_bind, Option.bind_eq_some_iff, Option.pure_def,
      Option.some.injEq] at h
    obtain ⟨y, hy, zs, hzs, rfl⟩ := h
    exact .cons hy (ih hzs)

/-- Every result is that of an element. -/
theorem exists_of_mem_mapM {β : Type*} {f : α → Option β} {xs : List α} {ys : List β}
    (h : xs.mapM f = some ys) {y : β} (hy : y ∈ ys) : ∃ x ∈ xs, f x = some y := by
  have hall := forall₂_of_mapM_eq_some h
  clear h
  induction hall with
  | nil => cases hy
  | @cons x y' xs ys hxy hall ih =>
    rcases mem_cons.mp hy with rfl | hy
    · exact ⟨x, mem_cons_self, hxy⟩
    · obtain ⟨x', hx', hfx⟩ := ih hy
      exact ⟨x', mem_cons_of_mem _ hx', hfx⟩

/-- A map that fails on no element does not fail. -/
theorem exists_mapM_eq_some {β : Type*} {f : α → Option β} {xs : List α}
    (h : ∀ x ∈ xs, ∃ y, f x = some y) : ∃ ys, xs.mapM f = some ys := by
  induction xs with
  | nil => exact ⟨[], rfl⟩
  | cons x xs ih =>
    obtain ⟨y, hy⟩ := h x mem_cons_self
    obtain ⟨ys, hys⟩ := ih fun x' hx' => h x' (mem_cons_of_mem _ hx')
    exact ⟨y :: ys, by rw [mapM_cons, hy, hys]; rfl⟩

/-! ## Groups of one size, and joined lists -/

/-- The first `n` groups of `size` elements. -/
def groupsOf (n size : ℕ) (xs : List α) : List (List α) :=
  (range n).map fun i => (xs.drop (i * size)).take size

@[simp] theorem groupsOf_zero (size : ℕ) (xs : List α) : groupsOf 0 size xs = [] := rfl

/-- The first group, and the groups of the rest. -/
theorem groupsOf_succ (n size : ℕ) (xs : List α) :
    groupsOf (n + 1) size xs = xs.take size :: groupsOf n size (xs.drop size) := by
  unfold groupsOf
  rw [range_succ_eq_map, map_cons, map_map, Nat.zero_mul, drop_zero]
  congr 1
  apply map_congr_left
  intro i hi
  show (xs.drop ((i + 1) * size)).take size = ((xs.drop size).drop (i * size)).take size
  rw [drop_drop, Nat.succ_mul, Nat.add_comm]

/-- A list of the right length is made of its groups. -/
theorem flatten_groupsOf {n size : ℕ} {xs : List α} (h : xs.length = n * size) :
    (groupsOf n size xs).flatten = xs := by
  induction n generalizing xs with
  | zero => rw [eq_nil_of_length_eq_zero (h.trans (Nat.zero_mul size)), groupsOf_zero, flatten_nil]
  | succ n ih =>
    have hrest : (xs.drop size).length = n * size := by
      rw [length_drop, h, Nat.succ_mul, Nat.add_sub_cancel]
    rw [groupsOf_succ, flatten_cons, ih hrest, take_append_drop]

/-- Lists of one size are the groups of what they are joined to. -/
theorem groupsOf_flatten {size : ℕ} {xss : List (List α)} (h : ∀ xs ∈ xss, xs.length = size) :
    groupsOf xss.length size xss.flatten = xss := by
  induction xss with
  | nil => rfl
  | cons xs xss ih =>
    obtain ⟨hxs, hxss⟩ := forall_mem_cons.mp h
    rw [length_cons, groupsOf_succ, flatten_cons, ← hxs, take_left, drop_left, hxs, ih hxss]

/-- What a joined list is made of. -/
theorem mem_or_mem_of_mem_intercalate {sep : List α} {xss : List (List α)} {x : α}
    (h : x ∈ sep.intercalate xss) : x ∈ sep ∨ ∃ xs ∈ xss, x ∈ xs := by
  induction xss with
  | nil => cases h
  | cons xs xss ih =>
    cases xss with
    | nil => exact .inr ⟨xs, mem_cons_self, by simpa using h⟩
    | cons ys xss =>
      rw [intercalate_cons_cons, mem_append, mem_append] at h
      rcases h with (h | h) | h
      · exact .inr ⟨xs, mem_cons_self, h⟩
      · exact .inl h
      · obtain hsep | ⟨zs, hzs, hx⟩ := ih h
        · exact .inl hsep
        · exact .inr ⟨zs, mem_cons_of_mem _ hzs, hx⟩

/-- The lists that are joined are in the joined list. -/
theorem mem_intercalate_of_mem {sep : List α} {xss : List (List α)} {xs : List α} {x : α}
    (hxs : xs ∈ xss) (hx : x ∈ xs) : x ∈ sep.intercalate xss := by
  induction xss with
  | nil => cases hxs
  | cons ys xss ih =>
    cases xss with
    | nil =>
      obtain rfl := mem_singleton.mp hxs
      simpa using hx
    | cons zs xss =>
      rw [intercalate_cons_cons, mem_append, mem_append]
      rcases mem_cons.mp hxs with rfl | hxs
      · exact .inl (.inl hx)
      · exact .inr (ih hxs)

/-- **Lists of one size are recovered** from the joined list, whatever separates them. -/
theorem intercalate_inj_of_length (size : ℕ) {sep : List α} {xss yss : List (List α)}
    (hlength : xss.length = yss.length) (hxs : ∀ xs ∈ xss, xs.length = size)
    (hys : ∀ ys ∈ yss, ys.length = size) (h : sep.intercalate xss = sep.intercalate yss) :
    xss = yss := by
  induction xss generalizing yss with
  | nil => exact (length_eq_zero_iff.mp hlength.symm).symm
  | cons xs xss ih =>
    cases yss with
    | nil => cases hlength
    | cons ys yss =>
      obtain ⟨hx, hxs'⟩ := forall_mem_cons.mp hxs
      obtain ⟨hy, hys'⟩ := forall_mem_cons.mp hys
      have htails : xss.length = yss.length := Nat.succ.inj hlength
      cases xss with
      | nil =>
        obtain rfl := length_eq_zero_iff.mp htails.symm
        rw [intercalate_singleton, intercalate_singleton] at h
        rw [h]
      | cons xs' xss =>
        cases yss with
        | nil => cases htails
        | cons ys' yss =>
          rw [intercalate_cons_cons, intercalate_cons_cons, append_assoc, append_assoc] at h
          obtain ⟨rfl, hrest⟩ := append_inj h (hx.trans hy.symm)
          rw [ih htails hxs' hys' (append_cancel_left hrest)]

/-- Of a joined list only the separators are filtered out, if the filter drops them. -/
theorem filter_intercalate {p : α → Bool} {sep : List α} (hsep : ∀ x ∈ sep, p x = false)
    (xss : List (List α)) : (sep.intercalate xss).filter p = xss.flatten.filter p := by
  have hnil : sep.filter p = [] := by simpa [filter_eq_nil_iff] using hsep
  induction xss with
  | nil => rfl
  | cons xs xss ih =>
    cases xss with
    | nil => simp
    | cons ys xss =>
      rw [intercalate_cons_cons, filter_append, filter_append, hnil, append_nil, ih,
        flatten_cons (l := xs), filter_append]

end List
