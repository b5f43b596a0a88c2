import EdsTelepathy.Lib.Distinct
import Mathlib.Data.List.Destutter
import Mathlib.Data.List.Duplicate

/-!
# Dropping repetitions in place

An array that a sort has been through is walked backwards, and an element with the key of
the one after it is dropped by giving its place to the last element. Up to the order, what
is left is one element for each stretch of equal keys, and so one for each key wherever
equal keys stand together. Where they do not, a key is left as often as it has stretches.
-/

namespace Distinct

variable {α κ : Type} [DecidableEq κ]

/-- The loop over the first `i` places, `last` being the key of the element after them. -/
def dropAdjacent (key : α → κ) : Nat → κ → List α → List α
  | 0, _, xs => xs
  | i + 1, last, xs =>
    match xs[i]? with
    | some x =>
      if key x = last then dropAdjacent key i last (swapRemove xs i)
      else dropAdjacent key i (key x) xs
    | none => xs

/-- The whole loop: the last element is kept, and the places before it are gone over. -/
def withoutAdjacent (key : α → κ) (xs : List α) : List α :=
  match xs.getLast? with
  | some b => dropAdjacent key (xs.length - 1) (key b) xs
  | none => []

/-- The elements before the one dropped keep their places. -/
theorem swapRemove_append_cons (pre : List α) (x : α) (suf : List α) :
    ∃ suf', swapRemove (pre ++ x :: suf) pre.length = pre ++ suf' ∧ suf'.Perm suf := by
  rcases List.eq_nil_or_concat suf with rfl | ⟨ys, b, rfl⟩
  · refine ⟨[], ?_, .refl _⟩
    unfold swapRemove
    rw [List.getLast?_concat]
    simp
  · refine ⟨b :: ys, ?_, ?_⟩
    · have hsplit : pre ++ x :: ys.concat b = (pre ++ x :: ys) ++ [b] := by simp
      have hset : (pre ++ x :: ys ++ [b]).set pre.length b = (pre ++ b :: ys) ++ [b] := by simp
      unfold swapRemove
      rw [hsplit, List.getLast?_concat]
      dsimp only
      rw [hset, List.dropLast_concat]
    · rw [List.concat_eq_append]
      exact (List.perm_append_singleton b ys).symm

/-- The invariant of the loop: the places not gone over yet are as they were. -/
theorem dropAdjacent_perm (key : α → κ) (pre : List α) (b : α) (suf : List α) :
    (b :: dropAdjacent key pre.length (key b) (pre ++ suf)).Perm
      (pre.reverse.destutter' (fun x y => key x ≠ key y) b ++ suf) := by
  induction pre using List.reverseRecOn generalizing b suf with
  | nil => exact .refl _
  | append_singleton pre x ih =>
    have hget : (pre ++ [x] ++ suf)[pre.length]? = some x := by simp
    rw [List.length_append, List.length_singleton, List.reverse_append, List.reverse_singleton,
      List.singleton_append]
    unfold dropAdjacent
    rw [hget]
    rw [List.append_assoc, List.singleton_append]
    dsimp only
    by_cases hk : key x = key b
    · obtain ⟨suf', hswap, hperm⟩ := swapRemove_append_cons pre x suf
      rw [if_pos hk, hswap, List.destutter'_cons_neg _ fun hne => hne hk.symm]
      exact (ih b suf').trans (hperm.append_left _)
    · have hrel : key b ≠ key x := fun he => hk he.symm
      rw [if_neg hk, List.destutter'_cons_pos (R := fun x y => key x ≠ key y) _ hrel,
        List.cons_append]
      refine List.Perm.cons b ?_
      have hstep := ih x (x :: suf)
      exact List.Perm.cons_inv (hstep.trans List.perm_middle)

/-- **What is left is one element for each stretch of equal keys.** -/
theorem withoutAdjacent_perm (key : α → κ) (xs : List α) :
    (withoutAdjacent key xs).Perm (xs.reverse.destutter fun x y => key x ≠ key y) := by
  rcases List.eq_nil_or_concat xs with rfl | ⟨pre, b, rfl⟩
  · exact .refl _
  · rw [List.concat_eq_append]
    unfold withoutAdjacent
    rw [List.getLast?_concat, List.length_append, List.length_singleton, Nat.add_sub_cancel,
      List.reverse_append, List.reverse_singleton, List.singleton_append, List.destutter_cons']
    exact List.Perm.cons_inv ((dropAdjacent_perm key pre b [b]).trans
      (List.perm_append_singleton b _))

theorem exists_key_destutter' (key : α → κ) {xs : List α} {b x : α} (hx : x ∈ b :: xs) :
    ∃ y ∈ xs.destutter' (fun x y => key x ≠ key y) b, key y = key x := by
  induction xs generalizing b x with
  | nil => exact ⟨b, by simp, by rw [List.mem_singleton.mp hx]⟩
  | cons a xs ih =>
    by_cases hk : key b = key a
    · rw [List.destutter'_cons_neg _ fun hne => hne hk]
      rcases List.mem_cons.mp hx with rfl | hxs
      · exact ih List.mem_cons_self
      · rcases List.mem_cons.mp hxs with rfl | hx
        · obtain ⟨y, hy, hky⟩ := ih (List.mem_cons_self (a := b))
          exact ⟨y, hy, hky.trans hk⟩
        · exact ih (List.mem_cons_of_mem b hx)
    · rw [List.destutter'_cons_pos _ hk]
      rcases List.mem_cons.mp hx with rfl | hx
      · exact ⟨x, List.mem_cons_self, rfl⟩
      · obtain ⟨y, hy, hky⟩ := ih hx
        exact ⟨y, List.mem_cons_of_mem b hy, hky⟩

theorem withoutAdjacent_subset (key : α → κ) (xs : List α) : withoutAdjacent key xs ⊆ xs := by
  intro x hx
  exact List.mem_reverse.mp
    ((List.destutter_sublist _ xs.reverse).subset ((withoutAdjacent_perm key xs).subset hx))

/-- **No key is lost.** -/
theorem exists_key_withoutAdjacent (key : α → κ) {xs : List α} {x : α} (hx : x ∈ xs) :
    ∃ y ∈ withoutAdjacent key xs, key y = key x := by
  have hrev : x ∈ xs.reverse := List.mem_reverse.mpr hx
  obtain ⟨b, ys, hb⟩ := List.exists_cons_of_ne_nil (List.ne_nil_of_mem hrev)
  rw [hb] at hrev
  obtain ⟨y, hy, hk⟩ := exists_key_destutter' key hrev
  refine ⟨y, (withoutAdjacent_perm key xs).symm.subset ?_, hk⟩
  rw [hb, List.destutter_cons']
  exact hy

/-- Where elements with the same key are the same, no element is lost. -/
theorem mem_withoutAdjacent {key : α → κ} {xs : List α}
    (hinj : ∀ x ∈ xs, ∀ y ∈ xs, key x = key y → x = y) {x : α} :
    x ∈ withoutAdjacent key xs ↔ x ∈ xs := by
  refine ⟨fun hx => withoutAdjacent_subset key xs hx, fun hx => ?_⟩
  obtain ⟨y, hy, hk⟩ := exists_key_withoutAdjacent key hx
  rw [← hinj y (withoutAdjacent_subset key xs hy) x hx hk]
  exact hy

/-- Where no key is there twice, nothing is dropped. -/
theorem withoutAdjacent_of_nodup {key : α → κ} {xs : List α} (h : (xs.map key).Nodup) :
    (withoutAdjacent key xs).Perm xs := by
  have hpair : xs.reverse.Pairwise fun x y => key x ≠ key y :=
    List.pairwise_reverse.mpr ((List.pairwise_map.mp h).imp Ne.symm)
  refine (withoutAdjacent_perm key xs).trans ?_
  rw [List.destutter_of_isChain _ _ hpair.isChain]
  exact List.reverse_perm xs

/-- Where there is one key only, one element is left. -/
theorem withoutAdjacent_of_const {key : α → κ} {xs : List α}
    (h : ∀ x ∈ xs, ∀ y ∈ xs, key x = key y) : (withoutAdjacent key xs).length ≤ 1 := by
  have hone : ∀ (ys : List α) (b : α), (∀ y ∈ ys, key b = key y) →
      ys.destutter' (fun x y => key x ≠ key y) b = [b] := by
    intro ys b hys
    induction ys with
    | nil => rfl
    | cons a ys ih =>
      rw [List.destutter'_cons_neg _ fun hne => hne (hys a List.mem_cons_self)]
      exact ih fun y hy => hys y (List.mem_cons_of_mem a hy)
  rw [(withoutAdjacent_perm key xs).length_eq]
  cases hrev : xs.reverse with
  | nil => exact Nat.zero_le 1
  | cons b ys =>
    have hmem : ∀ y ∈ b :: ys, y ∈ xs := fun y hy => List.mem_reverse.mp (hrev ▸ hy)
    rw [List.destutter_cons', hone ys b fun y hy =>
      h b (hmem b List.mem_cons_self) y (hmem y (List.mem_cons_of_mem b hy))]
    exact Nat.le_refl 1

/-- **Two stretches of one key leave it there twice.** -/
theorem withoutAdjacent_twice {key : α → κ} (xs : List α) {x y : α} (hk : key x ≠ key y) :
    ∃ zs, (withoutAdjacent key (xs ++ [x, y, x])).Perm (x :: y :: x :: zs) := by
  have hhead : ∀ (ys : List α) (b : α), ∃ zs,
      ys.destutter' (fun x y => key x ≠ key y) b = b :: zs := by
    intro ys b
    induction ys with
    | nil => exact ⟨[], rfl⟩
    | cons a ys ih =>
      by_cases hb : key b = key a
      · rw [List.destutter'_cons_neg _ fun hne => hne hb]
        exact ih
      · exact ⟨_, List.destutter'_cons_pos _ hb⟩
  obtain ⟨zs, hzs⟩ := hhead xs.reverse x
  refine ⟨zs, (withoutAdjacent_perm key _).trans ?_⟩
  have hrev : (xs ++ [x, y, x]).reverse = x :: y :: x :: xs.reverse := by simp
  rw [hrev, List.destutter_cons',
    List.destutter'_cons_pos (R := fun x y => key x ≠ key y) _ hk,
    List.destutter'_cons_pos (R := fun x y => key x ≠ key y) _ (Ne.symm hk), hzs]

omit [DecidableEq κ] in
/-- An element that is there twice, and another one, can stand in the way of each other. -/
theorem exists_around {key : α → κ} {xs : List α} (hdup : ¬ xs.Nodup)
    (hdiffer : ¬ ∀ a ∈ xs, ∀ b ∈ xs, key a = key b) :
    ∃ x y rest, xs.Perm (rest ++ [x, y, x]) ∧ key x ≠ key y := by
  obtain ⟨x, hx⟩ := List.exists_duplicate_iff_not_nodup.mpr hdup
  obtain ⟨others, hothers⟩ := (List.duplicate_iff_sublist.mp hx).exists_perm_append
  obtain ⟨y, hy, hk⟩ : ∃ y ∈ xs, key x ≠ key y := by
    by_contra hnone
    have hall : ∀ y ∈ xs, key x = key y := fun y hy => by_contra fun hne => hnone ⟨y, hy, hne⟩
    exact hdiffer fun a ha b hb => (hall a ha).symm.trans (hall b hb)
  have hin : y ∈ others := by
    rcases List.mem_append.mp (hothers.subset hy) with hmem | hmem
    · simp only [List.mem_cons, List.not_mem_nil, or_false, or_self] at hmem
      exact absurd (congrArg key hmem).symm hk
    · exact hmem
  obtain ⟨pre, suf, rfl⟩ := List.append_of_mem hin
  refine ⟨x, y, pre ++ suf, ?_, hk⟩
  have hfront : (pre ++ y :: suf).Perm (y :: (pre ++ suf)) := List.perm_middle
  have hbetween : (x :: x :: y :: (pre ++ suf)).Perm ([x, y, x] ++ (pre ++ suf)) :=
    (List.Perm.swap y x _).cons x
  exact ((hothers.trans (hfront.append_left [x, x])).trans hbetween).trans List.perm_append_comm

end Distinct
