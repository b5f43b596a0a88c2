import Mathlib.Data.BitVec

/-!
# Flag words

A machine word used as a set of flags. `w.has m` is the C condition `w & m`; setting
is `w ||| m` and clearing is `w &&& ~~~m`. Everything is derived from `has_iff`, which
reads the condition bit by bit. The rules decide `has` after a set or a clear when the
two masks have no bit in common, a side condition that is always a closed fact about
two constants.
-/

namespace BitVec

variable {n : Nat}

/-- The C condition `w & m`: some bit of the mask is set. -/
def has (w m : BitVec n) : Bool := w &&& m != 0#n

theorem eq_zero_iff_bits {w : BitVec n} : w = 0#n ↔ ∀ i, w.getLsbD i = false := by
  constructor
  · intro h i; rw [h, getLsbD_zero]
  · intro h; exact eq_of_getLsbD_eq (fun i _ => by rw [h i, getLsbD_zero])

/-- `w & m` holds when the two words share a bit. -/
theorem has_iff {w m : BitVec n} : w.has m = true ↔ ∃ i, w.getLsbD i = true ∧ m.getLsbD i = true := by
  unfold has
  rw [bne_iff_ne, ne_eq, eq_zero_iff_bits]
  simp [getLsbD_and]

theorem has_false_iff {w m : BitVec n} :
    w.has m = false ↔ ∀ i, w.getLsbD i = true → m.getLsbD i = false := by
  rw [← Bool.not_eq_true, has_iff]
  simp

@[simp] theorem zero_has (m : BitVec n) : (0#n).has m = false := by
  simp [has_false_iff]

theorem has_comm (w m : BitVec n) : w.has m = m.has w := by
  unfold has; rw [and_comm]

/-- Disjointness of two masks, as a closed fact. -/
theorem disjoint_iff {v m : BitVec n} : v &&& m = 0#n ↔ v.has m = false := by
  simp [has]

theorem or_has (w v m : BitVec n) : (w ||| v).has m = (w.has m || v.has m) := by
  rw [Bool.eq_iff_iff, Bool.or_eq_true, has_iff, has_iff, has_iff]
  simp only [getLsbD_or, Bool.or_eq_true]
  constructor
  · rintro ⟨i, h | h, hm⟩
    · exact Or.inl ⟨i, h, hm⟩
    · exact Or.inr ⟨i, h, hm⟩
  · rintro (⟨i, h, hm⟩ | ⟨i, h, hm⟩)
    · exact ⟨i, Or.inl h, hm⟩
    · exact ⟨i, Or.inr h, hm⟩

/-- Setting a mask leaves a disjoint one alone. -/
theorem or_has_of_disjoint {w v m : BitVec n} (h : v &&& m = 0#n) :
    (w ||| v).has m = w.has m := by
  rw [or_has, disjoint_iff.mp h, Bool.or_false]

/-- Of masks set one after the other, a word has what it had and what any of them has. -/
theorem foldl_or_has {α : Type*} (g : α → BitVec n) (xs : List α) (w m : BitVec n) :
    (xs.foldl (fun w x => w ||| g x) w).has m = (w.has m || xs.any fun x => (g x).has m) := by
  induction xs generalizing w with
  | nil => rw [List.foldl_nil, List.any_nil, Bool.or_false]
  | cons x xs ih => rw [List.foldl_cons, ih, or_has, List.any_cons, Bool.or_assoc]

theorem or_has_self {w m : BitVec n} (h : m ≠ 0#n) : (w ||| m).has m = true := by
  have hm : m.has m = true := by simpa [has] using h
  rw [or_has, hm, Bool.or_true]

/-- Clearing a mask leaves a disjoint one alone. -/
theorem clear_has_of_disjoint {w v m : BitVec n} (h : v &&& m = 0#n) :
    (w &&& ~~~v).has m = w.has m := by
  have hd := has_false_iff.mp (disjoint_iff.mp h)
  rw [Bool.eq_iff_iff, has_iff, has_iff]
  refine exists_congr fun i => and_congr_left fun hm => ?_
  have hv : v.getLsbD i = false := by
    by_contra hv
    have := hd i (by simpa using hv)
    rw [hm] at this; exact Bool.noConfusion this
  rw [getLsbD_and, getLsbD_not, hv]
  have hi : i < n := lt_of_getLsbD hm
  simp [hi]

@[simp] theorem clear_has_self (w m : BitVec n) : (w &&& ~~~m).has m = false := by
  rw [has_false_iff]
  intro i h
  rw [getLsbD_and, getLsbD_not] at h
  by_contra hm
  have hm' : m.getLsbD i = true := by simpa using hm
  simp [hm'] at h

/-- Clearing a mask clears every flag inside it. -/
theorem clear_has_of_within {w v m : BitVec n} (h : m &&& ~~~v = 0#n) :
    (w &&& ~~~v).has m = false := by
  rw [has_false_iff]
  intro i hi
  rw [getLsbD_and, getLsbD_not] at hi
  have hm := eq_zero_iff_bits.mp h i
  rw [getLsbD_and, getLsbD_not] at hm
  by_contra hc
  have hc' : m.getLsbD i = true := by simpa using hc
  have hin : i < n := lt_of_getLsbD hc'
  simp [hin, hc'] at hm hi
  rw [hm] at hi
  exact Bool.noConfusion hi.2

/-- Clearing a mask that a word has nothing of changes nothing. -/
theorem clear_of_not_has {w m : BitVec n} (h : w.has m = false) : w &&& ~~~m = w := by
  refine eq_of_getLsbD_eq fun i hi => ?_
  rw [getLsbD_and, getLsbD_not]
  cases hw : w.getLsbD i with
  | true =>
    rw [has_false_iff.mp h i hw]
    simp [hi]
  | false => rfl

/-- Masking a word with another sets nothing new. -/
theorem has_of_and_has {w v m : BitVec n} (h : (w &&& v).has m = true) : w.has m = true := by
  obtain ⟨i, hi, hm⟩ := has_iff.mp h
  rw [getLsbD_and, Bool.and_eq_true] at hi
  exact has_iff.mpr ⟨i, hi.1, hm⟩

theorem and_has_false {w v m : BitVec n} (h : w.has m = false) : (w &&& v).has m = false := by
  by_contra hc
  rw [has_of_and_has (by simpa using hc)] at h
  exact Bool.noConfusion h

/-- A word kept inside a set of allowed bits has no flag outside it. -/
theorem has_false_of_within {w a m : BitVec n} (h : w &&& ~~~a = 0#n) (hd : a &&& m = 0#n) :
    w.has m = false := by
  rw [has_false_iff]
  intro i hw
  have hi : i < n := lt_of_getLsbD hw
  have h1 := eq_zero_iff_bits.mp h i
  rw [getLsbD_and, getLsbD_not, hw] at h1
  have ha : a.getLsbD i = true := by simpa [hi] using h1
  exact has_false_iff.mp (disjoint_iff.mp hd) i ha

/-! ## Words that differ inside a mask -/

/-- Outside the mask the two words are the same. -/
def SameOff (v w w' : BitVec n) : Prop := ∀ m, v &&& m = 0#n → w'.has m = w.has m

namespace SameOff

variable {v a w w' w'' : BitVec n}

theorem refl (v w : BitVec n) : SameOff v w w := fun _ _ => rfl

theorem trans (h : SameOff v w w') (h' : SameOff v w' w'') : SameOff v w w'' := fun m hm =>
  (h' m hm).trans (h m hm)

theorem disjoint_of_within {m : BitVec n} (ha : a &&& ~~~v = 0#n) (hm : v &&& m = 0#n) :
    a &&& m = 0#n := disjoint_iff.mpr (has_false_of_within ha hm)

theorem mono (h : SameOff a w w') (ha : a &&& ~~~v = 0#n) : SameOff v w w' := fun m hm =>
  h m (disjoint_of_within ha hm)

theorem or (w : BitVec n) (ha : a &&& ~~~v = 0#n) : SameOff v w (w ||| a) := fun _ hm =>
  or_has_of_disjoint (disjoint_of_within ha hm)

theorem clear (w : BitVec n) (ha : a &&& ~~~v = 0#n) : SameOff v w (w &&& ~~~a) := fun _ hm =>
  clear_has_of_disjoint (disjoint_of_within ha hm)

end SameOff

theorem within_or {w v a : BitVec n} (hw : w &&& ~~~a = 0#n) (hv : v &&& ~~~a = 0#n) :
    (w ||| v) &&& ~~~a = 0#n := by
  rw [eq_zero_iff_bits] at *
  intro i
  have h1 := hw i
  have h2 := hv i
  rw [getLsbD_and] at h1 h2 ⊢
  rw [getLsbD_or, Bool.and_or_distrib_right, h1, h2]; rfl

theorem within_and {w a : BitVec n} (v : BitVec n) (hw : w &&& ~~~a = 0#n) :
    (w &&& v) &&& ~~~a = 0#n := by
  rw [and_assoc, and_comm v, ← and_assoc, hw, zero_and]

/-- A word inside a set of allowed bits is zero if it has none of them. -/
theorem eq_zero_of_within {w a : BitVec n} (h : w &&& ~~~a = 0#n) (ha : w.has a = false) :
    w = 0#n := by
  rw [eq_zero_iff_bits]
  intro i
  by_contra hc
  have hw : w.getLsbD i = true := by simpa using hc
  have hout := has_false_iff.mp ha i hw
  have h1 := eq_zero_iff_bits.mp h i
  rw [getLsbD_and, getLsbD_not, hw, hout] at h1
  have hi : i < n := lt_of_getLsbD hw
  simp [hi] at h1

theorem has_or (w v m : BitVec n) : w.has (v ||| m) = (w.has v || w.has m) := by
  rw [has_comm, or_has, has_comm v, has_comm m]

/-- A mask that two words have nothing of can be taken away again. -/
theorem or_right_cancel {v w m : BitVec n} (hv : v.has m = false) (hw : w.has m = false)
    (h : v ||| m = w ||| m) : v = w := by
  refine eq_of_getLsbD_eq fun i _ => ?_
  have hi : (v ||| m).getLsbD i = (w ||| m).getLsbD i := by rw [h]
  rw [getLsbD_or, getLsbD_or] at hi
  cases hm : m.getLsbD i with
  | true =>
    have hvi : v.getLsbD i = false := by
      by_contra hc
      rw [has_false_iff.mp hv i (by simpa using hc)] at hm
      cases hm
    have hwi : w.getLsbD i = false := by
      by_contra hc
      rw [has_false_iff.mp hw i (by simpa using hc)] at hm
      cases hm
    rw [hvi, hwi]
  | false => simpa [hm] using hi

/-! ## Masks of one bit -/

/-- The word `1 << i` has the bit at `i`, and no other one. -/
theorem getLsbD_one_shiftLeft (i k : Nat) :
    (1#n <<< i).getLsbD k = decide (k < n ∧ k = i) := by
  rw [getLsbD_shiftLeft, getLsbD_one, Bool.eq_iff_iff]
  simp only [Bool.and_eq_true, decide_eq_true_eq, Bool.not_eq_true', decide_eq_false_iff_not]
  omega

/-- Testing a mask of one bit is reading that bit. -/
theorem has_one_shiftLeft {w : BitVec n} {i : Nat} (hi : i < n) :
    w.has (1#n <<< i) = w.getLsbD i := by
  rw [Bool.eq_iff_iff, has_iff]
  constructor
  · rintro ⟨k, hk, hm⟩
    rw [getLsbD_one_shiftLeft, decide_eq_true_eq] at hm
    rwa [hm.2] at hk
  · intro h
    exact ⟨i, h, by rw [getLsbD_one_shiftLeft, decide_eq_true_eq]; exact ⟨hi, rfl⟩⟩

end BitVec
