import EdsTelepathy.Cl.Walk
import EdsTelepathy.Cl.Members

/-!
# List flags and standings

What the flags word of a roster contact means: for every list at most one of three bits,
the standing of the handle on that list. The signal handler replaces the three bits of a
list as a block, which is the update of one standing.
-/

namespace EdsTelepathy

/-- The standings of one handle on the five lists. -/
abbrev Standings := ListId → Option Standing

/-- The word has, for every list, exactly the bit of the standing on it, and no other bit. -/
def FlagsOf (w : Flags) (f : Standings) : Prop :=
  w &&& ~~~allListFlags = 0#32 ∧ ∀ l s, w.has (l.flag s) = true ↔ f l = some s

theorem flag_within (l : ListId) (s : Standing) : l.flag s &&& ~~~allListFlags = 0#32 := by
  cases l <;> cases s <;> decide

theorem flag_has_flag (l l' : ListId) (s s' : Standing) :
    (l.flag s).has (l'.flag s') = decide (l = l' ∧ s = s') := by
  cases l <;> cases s <;> cases l' <;> cases s' <;> decide

theorem flag_within_all (l : ListId) (s : Standing) : l.flag s &&& ~~~l.allFlags = 0#32 := by
  cases l <;> cases s <;> decide

theorem allFlags_disjoint {l l' : ListId} (s : Standing) (h : l ≠ l') :
    l.allFlags &&& l'.flag s = 0#32 := by
  cases l <;> cases l' <;> first | exact absurd rfl h | (cases s <;> decide)

/-- A list bit is the bit of a standing. -/
theorem has_allListFlags {w : Flags} (h : w.has allListFlags = true) :
    ∃ l s, w.has (ListId.flag l s) = true := by
  have hlist : ∀ l : ListId, w.has l.allFlags = true → ∃ l s, w.has (ListId.flag l s) = true := by
    intro l hl
    unfold ListId.allFlags at hl
    rw [BitVec.has_or, BitVec.has_or, Bool.or_eq_true, Bool.or_eq_true] at hl
    rcases hl with (hl | hl) | hl
    · exact ⟨l, _, hl⟩
    · exact ⟨l, _, hl⟩
    · exact ⟨l, _, hl⟩
  unfold allListFlags at h
  rw [BitVec.has_or, BitVec.has_or, BitVec.has_or, BitVec.has_or, Bool.or_eq_true,
    Bool.or_eq_true, Bool.or_eq_true, Bool.or_eq_true] at h
  rcases h with (((h | h) | h) | h) | h
  · exact hlist _ h
  · exact hlist _ h
  · exact hlist _ h
  · exact hlist _ h
  · exact hlist _ h

/-- The word is zero when the handle is on no list. -/
theorem flagsOf_eq_zero {w : Flags} {f : Standings} (h : FlagsOf w f) :
    w = 0 ↔ ∀ l, f l = none := by
  constructor
  · intro hw l
    cases hf : f l with
    | none => rfl
    | some s =>
      have := (h.2 l s).mpr hf
      rw [hw] at this
      have hz : (0 : Flags).has (l.flag s) = false := BitVec.zero_has _
      rw [hz] at this; cases this
  · intro hnone
    refine BitVec.eq_zero_of_within h.1 ?_
    by_contra hc
    obtain ⟨l, s, hls⟩ := has_allListFlags (by simpa using hc)
    have := (h.2 l s).mp hls
    rw [hnone l] at this; cases this

theorem flagsOf_set {w : Flags} {f : Standings} (l : ListId) (s : Standing) (h : FlagsOf w f) :
    FlagsOf ((w &&& ~~~l.allFlags) ||| l.flag s) (Function.update f l (some s)) := by
  refine ⟨BitVec.within_or (BitVec.within_and _ h.1) (flag_within l s), fun l' s' => ?_⟩
  rw [BitVec.or_has, flag_has_flag]
  by_cases hl : l = l'
  · subst hl
    rw [Function.update_self, BitVec.clear_has_of_within (flag_within_all l s')]
    simp
  · rw [BitVec.clear_has_of_disjoint (allFlags_disjoint s' hl),
      Function.update_of_ne (Ne.symm hl), ← h.2 l' s']
    simp [hl]

theorem flagsOf_clear {w : Flags} {f : Standings} (l : ListId) (h : FlagsOf w f) :
    FlagsOf (w &&& ~~~l.allFlags) (Function.update f l none) := by
  refine ⟨BitVec.within_and _ h.1, fun l' s' => ?_⟩
  by_cases hl : l = l'
  · subst hl
    rw [Function.update_self, BitVec.clear_has_of_within (flag_within_all l s')]
    simp
  · rw [BitVec.clear_has_of_disjoint (allFlags_disjoint s' hl),
      Function.update_of_ne (Ne.symm hl)]
    exact h.2 l' s'

/-- A handle that was on no list and is put on one. -/
theorem flagsOf_new {f : Standings} (l : ListId) (s : Standing) (h : ∀ l, f l = none) :
    FlagsOf (l.flag s) (Function.update f l (some s)) := by
  refine ⟨flag_within l s, fun l' s' => ?_⟩
  rw [flag_has_flag]
  by_cases hl : l = l'
  · subst hl
    simp
  · rw [Function.update_of_ne (Ne.symm hl), h l']
    simp [hl]

end EdsTelepathy
