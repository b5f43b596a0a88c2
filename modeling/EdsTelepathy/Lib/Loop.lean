import Mathlib.Data.Option.Basic

/-!
# While loops

A loop tests its state, and where the test is met it goes through its body and tests again. The
body may have no result, and nothing need bound the number of turns, so the loop is given the
number of tests it may make at most. If the states it goes through are known, so is its end:
the first of them that does not meet the test.
-/

namespace Loop

variable {σ : Type}

/-- `while (busy s) s = body s;` with at most `fuel` tests. -/
def whileLoop (busy : σ → Bool) (body : σ → Option σ) : Nat → σ → Option σ
  | 0, _ => none
  | fuel + 1, s => if busy s then (body s).bind (whileLoop busy body fuel) else some s

/-- A loop ends with the first state of its trace `t` that does not meet the test. -/
theorem whileLoop_trace {busy : σ → Bool} {body : σ → Option σ} {t : Nat → σ} {n fuel : Nat}
    (hbody : ∀ i < n, body (t i) = some (t (i + 1))) (hbusy : ∀ i < n, busy (t i) = true)
    (hend : busy (t n) = false) (hfuel : n < fuel) :
    whileLoop busy body fuel (t 0) = some (t n) := by
  induction n generalizing fuel t with
  | zero =>
    obtain ⟨fuel, rfl⟩ : ∃ k, fuel = k + 1 := ⟨fuel - 1, by omega⟩
    rw [whileLoop, hend]
    rfl
  | succ n ih =>
    obtain ⟨fuel, rfl⟩ : ∃ k, fuel = k + 1 := ⟨fuel - 1, by omega⟩
    have hrest : whileLoop busy body fuel (t (0 + 1)) = some (t (n + 1)) :=
      ih (t := fun i => t (i + 1)) (fun i hi => hbody (i + 1) (by omega))
        (fun i hi => hbusy (i + 1) (by omega)) hend (by omega)
    rw [whileLoop, if_pos (hbusy 0 (by omega)), hbody 0 (by omega)]
    exact hrest

end Loop
