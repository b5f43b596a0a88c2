import Mathlib.Data.List.Sort

/-!
# Sorting what comes in any order

Elements that are enumerated in an arbitrary order and then sorted by a key. The keys come out the
same from every enumeration, and so do the elements wherever the keys tell them apart.
-/

universe u v

namespace Sorted

variable {α : Type u} {κ : Type v} {cmp : κ → κ → Ordering} {key : α → κ}

/-- The elements in the order of their keys; equal keys keep their order. -/
def sortBy (cmp : κ → κ → Ordering) (key : α → κ) (xs : List α) : List α :=
  xs.mergeSort fun a b => (cmp (key a) (key b)).isLE

theorem sortBy_perm (cmp : κ → κ → Ordering) (key : α → κ) (xs : List α) :
    (sortBy cmp key xs).Perm xs := List.mergeSort_perm xs _

/-- Two enumerations of the same elements are still that when they are sorted. -/
theorem sortBy_perm_sortBy (cmp : κ → κ → Ordering) (key : α → κ) {xs ys : List α}
    (h : xs.Perm ys) : (sortBy cmp key xs).Perm (sortBy cmp key ys) :=
  ((sortBy_perm cmp key xs).trans h).trans (sortBy_perm cmp key ys).symm

variable [Std.TransCmp cmp]

theorem isLE_total (a b : κ) : (cmp a b).isLE = true ∨ (cmp b a).isLE = true := by
  have hswap : cmp a b = (cmp b a).swap := Std.OrientedCmp.eq_swap
  rw [hswap]
  cases cmp b a
  · exact .inr rfl
  · exact .inl rfl
  · exact .inl rfl

/-- The keys do not decrease. -/
theorem sortBy_sorted (xs : List α) :
    (sortBy cmp key xs).Pairwise fun a b => (cmp (key a) (key b)).isLE = true := by
  refine List.pairwise_mergeSort ?_ ?_ xs
  · intro a b c hab hbc
    exact Std.TransCmp.isLE_trans hab hbc
  · intro a b
    rw [Bool.or_eq_true]
    exact isLE_total _ _

variable [Std.LawfulEqCmp cmp]

theorem eq_of_isLE {a b : κ} (hab : (cmp a b).isLE = true) (hba : (cmp b a).isLE = true) : a = b :=
  Std.LawfulEqCmp.eq_of_compare (Std.OrientedCmp.isLE_antisymm hab hba)

/-- **The keys come out the same** from every enumeration. -/
theorem map_key_sortBy {xs ys : List α} (h : xs.Perm ys) :
    (sortBy cmp key xs).map key = (sortBy cmp key ys).map key := by
  have hperm := (sortBy_perm_sortBy cmp key h).map key
  have hxs : ((sortBy cmp key xs).map key).Pairwise fun a b => (cmp a b).isLE = true :=
    List.pairwise_map.mpr (sortBy_sorted xs)
  have hys : ((sortBy cmp key ys).map key).Pairwise fun a b => (cmp a b).isLE = true :=
    List.pairwise_map.mpr (sortBy_sorted ys)
  have hanti : ∀ a b, a ∈ (sortBy cmp key xs).map key → b ∈ (sortBy cmp key ys).map key →
      (cmp a b).isLE = true → (cmp b a).isLE = true → a = b :=
    fun a b _ _ hab hba => eq_of_isLE hab hba
  exact hperm.eq_of_pairwise hanti hxs hys

/-- Where the keys tell the elements apart, the elements come out the same. -/
theorem sortBy_eq {xs ys : List α} (h : xs.Perm ys)
    (hkey : ∀ a ∈ xs, ∀ b ∈ xs, key a = key b → a = b) :
    sortBy cmp key xs = sortBy cmp key ys := by
  have hperm := sortBy_perm_sortBy cmp key h
  refine hperm.eq_of_pairwise ?_ (sortBy_sorted xs) (sortBy_sorted ys)
  intro a b ha hb hab hba
  have hax : a ∈ xs := (sortBy_perm cmp key xs).subset ha
  have hbx : b ∈ xs := h.symm.subset ((sortBy_perm cmp key ys).subset hb)
  exact hkey a hax b hbx (eq_of_isLE hab hba)

end Sorted
