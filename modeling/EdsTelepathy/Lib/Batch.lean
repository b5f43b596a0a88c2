import Mathlib.Data.List.Basic
import Mathlib.Data.Option.Basic

/-!
# Calls one after the other

A batch is worked through by one call for each of its elements, and a call that fails ends
it. What was done is the list of the calls that were made, each with the element and the
outcome; the batch is served if there is one for every element and none of them failed.
-/

namespace Batch

variable {σ α β : Type}

/-- The calls that are made for a batch. -/
def calls (f : σ → α → Option β × σ) : σ → List α → List (α × Option β)
  | _, [] => []
  | s, x :: xs =>
    match f s x with
    | (some y, s) => (x, some y) :: calls f s xs
    | (none, _) => [(x, none)]

/-- The calls serve the elements `xs`, the `k`-th of them with the `k`-th of `ys`. -/
structure Served (cs : List (α × Option β)) (xs : List α) (ys : List β) : Prop where
  inputs : cs.map Prod.fst = xs
  outcomes : cs.map Prod.snd = ys.map some

theorem served_nil {xs : List α} {ys : List β} : Served [] xs ys ↔ xs = [] ∧ ys = [] := by
  constructor
  · rintro ⟨hx, hy⟩
    exact ⟨hx.symm, List.map_eq_nil_iff.mp hy.symm⟩
  · rintro ⟨rfl, rfl⟩
    exact ⟨rfl, rfl⟩

theorem Served.cons {cs : List (α × Option β)} {xs : List α} {ys : List β} (h : Served cs xs ys)
    (x : α) (y : β) : Served ((x, some y) :: cs) (x :: xs) (y :: ys) :=
  ⟨by rw [List.map_cons, h.inputs], by rw [List.map_cons, List.map_cons, h.outcomes]⟩

/-- The same calls serve the batch that was turned around. -/
theorem Served.reverse {cs : List (α × Option β)} {xs : List α} {ys : List β}
    (h : Served cs xs ys) : Served cs.reverse xs.reverse ys.reverse :=
  ⟨by rw [List.map_reverse, h.inputs], by rw [List.map_reverse, List.map_reverse, h.outcomes]⟩

/-- **A batch is served exactly if no call for it fails.** -/
theorem exists_served_iff (f : σ → α → Option β × σ) (s : σ) (xs : List α) :
    (∃ ys, Served (calls f s xs) xs ys) ↔ ∀ c ∈ calls f s xs, c.2 ≠ none := by
  constructor
  · rintro ⟨ys, h⟩ c hc hnone
    have hmem : c.2 ∈ (calls f s xs).map Prod.snd := List.mem_map.mpr ⟨c, hc, rfl⟩
    rw [h.outcomes, hnone] at hmem
    obtain ⟨y, -, hy⟩ := List.mem_map.mp hmem
    cases hy
  · induction xs generalizing s with
    | nil => exact fun _ => ⟨[], rfl, rfl⟩
    | cons x xs ih =>
      intro h
      unfold calls at h ⊢
      rcases hf : f s x with ⟨_ | y, s'⟩
      · rw [hf] at h
        exact absurd rfl (h _ List.mem_cons_self)
      · rw [hf] at h
        obtain ⟨ys, hys⟩ := ih s' fun c hc => h c (List.mem_cons_of_mem _ hc)
        exact ⟨y :: ys, hys.cons x y⟩

end Batch
