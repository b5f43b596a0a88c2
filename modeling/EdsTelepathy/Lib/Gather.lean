import Mathlib.Data.Set.Basic
import Mathlib.Logic.Function.Basic

/-!
# Gathering by key

Items are kept under keys, and every item has a load. What is gathered under a key is all
that the items under it have, however many they are. When an item moves to another key, its
load moves with it: what was gathered under the new key grows by it, and if the item was
alone under the old key nothing is left there.
-/

universe u v w

variable {ι : Type u} {κ : Type v} {α : Type w}

/-- What the items of `s` that are under `k` have. -/
def gathered (s : Set ι) (key : ι → κ) (load : ι → Set α) (k : κ) : Set α :=
  {a | ∃ i ∈ s, key i = k ∧ a ∈ load i}

/-- An item that is alone under its key is all there is. -/
theorem gathered_alone {s : Set ι} {key : ι → κ} {i : ι} (hi : i ∈ s)
    (halone : ∀ j ∈ s, key j = key i → j = i) (load : ι → Set α) :
    gathered s key load (key i) = load i := by
  ext a
  constructor
  · rintro ⟨j, hj, hk, ha⟩
    rw [halone j hj hk] at ha
    exact ha
  · exact fun ha => ⟨i, hi, rfl, ha⟩

section Move

variable [DecidableEq ι]

/-- Where an item goes, its load is added. -/
theorem gathered_move_self {s : Set ι} {key : ι → κ} {i : ι} (hi : i ∈ s) (load : ι → Set α)
    (k : κ) :
    gathered s (Function.update key i k) load k = gathered s key load k ∪ load i := by
  ext a
  constructor
  · rintro ⟨j, hj, hk, ha⟩
    by_cases he : j = i
    · subst he
      exact .inr ha
    · rw [Function.update_of_ne he] at hk
      exact .inl ⟨j, hj, hk, ha⟩
  · rintro (⟨j, hj, hk, ha⟩ | ha)
    · refine ⟨j, hj, ?_, ha⟩
      by_cases he : j = i
      · subst he
        exact Function.update_self ..
      · rw [Function.update_of_ne he]
        exact hk
    · exact ⟨i, hi, Function.update_self .., ha⟩

/-- Under a key that the item neither leaves nor goes to nothing changes. -/
theorem gathered_move_of_ne {s : Set ι} {key : ι → κ} {i : ι} {k k' : κ} (hold : k' ≠ key i)
    (hnew : k' ≠ k) (load : ι → Set α) :
    gathered s (Function.update key i k) load k' = gathered s key load k' := by
  ext a
  constructor
  · rintro ⟨j, hj, hk, ha⟩
    by_cases he : j = i
    · subst he
      rw [Function.update_self] at hk
      exact absurd hk.symm hnew
    · rw [Function.update_of_ne he] at hk
      exact ⟨j, hj, hk, ha⟩
  · rintro ⟨j, hj, hk, ha⟩
    refine ⟨j, hj, ?_, ha⟩
    rw [Function.update_of_ne]
    · exact hk
    · rintro rfl
      exact hold hk.symm

end Move
