import Mathlib.Data.List.Nodup
import Mathlib.Data.List.Perm.Basic

/-!
# Arrays as sets

An array without repetitions, to which elements are appended unless they are in it already,
and from which one is taken by giving its place to the last one. The order is of no
consequence: appending is union with one element, and taking out is erasing it.
-/

namespace Distinct

variable {α : Type} [DecidableEq α]

/-- Append an element that is not there yet. -/
def addNew (xs : List α) (x : α) : List α := if x ∈ xs then xs else xs ++ [x]

omit [DecidableEq α] in
/-- The last element takes the place of the one at `i`. -/
def swapRemove (xs : List α) (i : Nat) : List α :=
  match xs.getLast? with
  | some last => (xs.set i last).dropLast
  | none => xs

/-- Take out the first occurrence of an element. -/
def takeOut (xs : List α) (x : α) : List α :=
  match xs.findIdx? (· = x) with
  | none => xs
  | some i => swapRemove xs i

/-! ## One element -/

theorem mem_addNew {xs : List α} {x y : α} : y ∈ addNew xs x ↔ y ∈ xs ∨ y = x := by
  unfold addNew
  split
  · rename_i hx
    exact ⟨.inl, fun h => h.elim id fun he => he ▸ hx⟩
  · rw [List.mem_append, List.mem_singleton]

theorem nodup_addNew {xs : List α} (h : xs.Nodup) (x : α) : (addNew xs x).Nodup := by
  unfold addNew
  split
  · exact h
  · rename_i hx
    refine List.nodup_append.mpr ⟨h, List.nodup_singleton x, fun a ha b hb => ?_⟩
    rw [List.mem_singleton.mp hb]
    exact fun he => hx (he ▸ ha)

omit [DecidableEq α] in
/-- **What is left has the elements that an ordinary removal leaves.** -/
theorem swapRemove_perm {xs : List α} {i : Nat} (hi : i < xs.length) :
    (swapRemove xs i).Perm (xs.eraseIdx i) := by
  obtain ⟨ys, last, rfl⟩ : ∃ ys last, xs = ys ++ [last] :=
    ⟨xs.dropLast, xs.getLast (List.ne_nil_of_length_pos (by omega)),
      (List.dropLast_append_getLast _).symm⟩
  have hremove : swapRemove (ys ++ [last]) i = ((ys ++ [last]).set i last).dropLast := by
    unfold swapRemove
    rw [List.getLast?_concat]
  rw [List.length_append, List.length_singleton] at hi
  rw [hremove]
  by_cases hlt : i < ys.length
  · rw [List.set_append_left _ _ hlt, List.dropLast_concat, List.eraseIdx_append_of_lt_length hlt]
    exact (List.set_perm_cons_eraseIdx hlt last).trans (List.perm_append_singleton last _).symm
  · -- the last element is the one to go
    obtain rfl : i = ys.length := by omega
    rw [List.set_append_right _ _ (Nat.le_refl _), List.eraseIdx_append_of_length_le (Nat.le_refl _)]
    simp

theorem takeOut_perm (xs : List α) (x : α) : (takeOut xs x).Perm (xs.erase x) := by
  have herase : xs.erase x = xs.eraseP (· = x) := by
    rw [List.erase_eq_eraseP']
    congr
  rw [herase, List.eraseP_eq_eraseIdx]
  unfold takeOut
  cases h : xs.findIdx? (· = x) with
  | none => exact List.Perm.refl xs
  | some i =>
    have hi : i < xs.length := (List.findIdx?_eq_some_iff_findIdx_eq.mp h).1
    exact swapRemove_perm hi

theorem mem_takeOut {xs : List α} (h : xs.Nodup) {x y : α} :
    y ∈ takeOut xs x ↔ y ∈ xs ∧ y ≠ x := by
  rw [(takeOut_perm xs x).mem_iff, h.mem_erase_iff, and_comm]

theorem nodup_takeOut {xs : List α} (h : xs.Nodup) (x : α) : (takeOut xs x).Nodup :=
  (takeOut_perm xs x).nodup_iff.mpr (h.erase x)

/-! ## Several elements -/

/-- **Appending what is new is union.** -/
theorem mem_foldl_addNew {us xs : List α} {y : α} :
    y ∈ us.foldl addNew xs ↔ y ∈ xs ∨ y ∈ us := by
  induction us generalizing xs with
  | nil => simp
  | cons u us ih => rw [List.foldl_cons, ih, mem_addNew, List.mem_cons, or_assoc]

theorem nodup_foldl_addNew {xs : List α} (h : xs.Nodup) (us : List α) : (us.foldl addNew xs).Nodup := by
  induction us generalizing xs with
  | nil => exact h
  | cons u us ih => exact ih (nodup_addNew h u)

/-- **Taking out one after the other is difference.** -/
theorem mem_foldl_takeOut {us xs : List α} (h : xs.Nodup) {y : α} :
    y ∈ us.foldl takeOut xs ↔ y ∈ xs ∧ y ∉ us := by
  induction us generalizing xs with
  | nil => simp
  | cons u us ih =>
    rw [List.foldl_cons, ih (nodup_takeOut h u), mem_takeOut h, List.mem_cons, not_or, and_assoc]

theorem nodup_foldl_takeOut {xs : List α} (h : xs.Nodup) (us : List α) :
    (us.foldl takeOut xs).Nodup := by
  induction us generalizing xs with
  | nil => exact h
  | cons u us ih => exact ih (nodup_takeOut h u)

end Distinct
