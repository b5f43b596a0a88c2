import EdsTelepathy.Lib.Run
import Mathlib.Order.WellFounded

/-!
# Machines that come to rest

Some events come from outside, others are the machine's own work. Left to the latter, a machine
settles if no run of them goes on for ever. That is shown by a rank that every such event lowers;
if besides something can be done wherever the machine is not at rest, every state leads to one in
which it is.
-/

universe u v w

namespace Machine

variable {σ : Type u} {ε : Type v} (M : Machine σ ε) (P : ε → Prop)

/-- `s'` comes right after `s`, by an event that `P` allows. -/
def Follows (s' s : σ) : Prop := ∃ e, P e ∧ M.step s e = some s'

/-- No run of events that `P` allows goes on for ever. -/
def Settles : Prop := WellFounded (M.Follows P)

variable {M P}

/-- **The rank rule.** -/
theorem settles_of_rank {α : Type w} [Preorder α] [WellFoundedLT α] (r : σ → α)
    (h : ∀ s e s', P e → M.step s e = some s' → r s' < r s) : M.Settles P := by
  refine Subrelation.wf ?_ (InvImage.wf r wellFounded_lt)
  rintro s' s ⟨e, he, hs⟩
  exact h s e s' he hs

/-- A machine that settles has no infinite run. -/
theorem Settles.not_infinite (h : M.Settles P) (s : ℕ → σ) :
    ¬ ∀ n, ∃ e, P e ∧ M.step (s n) e = some (s (n + 1)) := by
  intro hrun
  obtain ⟨_, ⟨n, rfl⟩, hmin⟩ := h.has_min (Set.range s) ⟨s 0, 0, rfl⟩
  exact hmin _ ⟨n + 1, rfl⟩ (hrun n)

/--
A machine that settles and can always go on unless it rests, comes to rest. Where it can go on only
by some events, an invariant that these keep may be used.
-/
theorem Settles.exists_rest (h : M.Settles P) {Ok : σ → ε → Prop} {I Rest : σ → Prop}
    (hP : ∀ s e, Ok s e → P e) (hstep : ∀ s e s', I s → Ok s e → M.step s e = some s' → I s')
    (hgo : ∀ s, I s → ¬ Rest s → ∃ e s', Ok s e ∧ M.step s e = some s') {s : σ} (hs : I s) :
    ∃ es s', M.Guarded Ok s es s' ∧ Rest s' := by
  induction s using h.induction with
  | _ s ih =>
    by_cases hrest : Rest s
    · exact ⟨[], s, .nil, hrest⟩
    · obtain ⟨e, s₁, he, hst⟩ := hgo s hs hrest
      obtain ⟨es, s', hrun, hs'⟩ := ih s₁ ⟨e, hP s e he, hst⟩ (hstep s e s₁ hs he hst)
      exact ⟨e :: es, s', .cons he hst hrun, hs'⟩

end Machine
