import Mathlib.Data.List.Nodup

/-!
# Wishes about memberships

A *wish* names a place and says whether one wants to be there. A list of wishes turns the
set of places one is at into the set one wants to be at, and comparing the two sets gives
the steps to take: the places to join and the places to leave.

The last section is about a wanted set that was computed from one set and is compared with
another one later. It asks for no step beyond the wishes exactly when the two sets agree
everywhere else.
-/

namespace Wish

variable {ι : Type} [DecidableEq ι]

/-- The places wanted after some wishes, the later ones winning. -/
def wanted (F : ι → Bool) (ws : List (ι × Bool)) : ι → Bool :=
  ws.foldl (fun G w => Function.update G w.1 w.2) F

/-- The wishes that differ from where one is. -/
def changes (F : ι → Bool) (ws : List (ι × Bool)) : List (ι × Bool) :=
  ws.filter fun w => w.2 != F w.1

omit [DecidableEq ι] in
@[simp] theorem mem_changes {F : ι → Bool} {ws : List (ι × Bool)} {w : ι × Bool} :
    w ∈ changes F ws ↔ w ∈ ws ∧ w.2 ≠ F w.1 := by
  simp [changes]

omit [DecidableEq ι] in
theorem changes_append (F : ι → Bool) (ws vs : List (ι × Bool)) :
    changes F (ws ++ vs) = changes F ws ++ changes F vs := List.filter_append ..

omit [DecidableEq ι] in
@[simp] theorem changes_changes (F : ι → Bool) (ws : List (ι × Bool)) :
    changes F (changes F ws) = changes F ws := by
  simp [changes, List.filter_filter]

omit [DecidableEq ι] in
theorem nodup_changes {F : ι → Bool} {ws : List (ι × Bool)} (h : (ws.map Prod.fst).Nodup) :
    ((changes F ws).map Prod.fst).Nodup :=
  h.sublist (List.filter_sublist.map Prod.fst)

omit [DecidableEq ι] in
/-- Nor does the wish for a place come back. -/
theorem notMem_tail_of_nodup {pre post : List (ι × Bool)} {i : ι} {b b' : Bool}
    (h : ((pre ++ (i, b) :: post).map Prod.fst).Nodup) : (i, b') ∉ post := by
  intro hmem
  rw [List.map_append, List.map_cons] at h
  have hcons := (List.nodup_append.mp h).2.1
  exact (List.nodup_cons.mp hcons).1 (List.mem_map.mpr ⟨(i, b'), hmem, rfl⟩)

/-- Where no wish differs from where one is, nothing changes. -/
theorem wanted_of_forall {F : ι → Bool} {ws : List (ι × Bool)} {i : ι}
    (h : ∀ b, (i, b) ∈ ws → b = F i) : wanted F ws i = F i := by
  unfold wanted
  induction ws generalizing F with
  | nil => rfl
  | cons w ws ih =>
    have hw : Function.update F w.1 w.2 i = F i := by
      by_cases hi : i = w.1
      · subst hi
        rw [Function.update_self]
        exact h w.2 List.mem_cons_self
      · exact Function.update_of_ne hi _ _
    rw [List.foldl_cons, ih fun b hb => (h b (List.mem_cons_of_mem w hb)).trans hw.symm]
    exact hw

/-- A place nobody wished for changes nothing. -/
theorem wanted_of_notMem_changes {F : ι → Bool} {ws : List (ι × Bool)} {i : ι}
    (h : ∀ b, (i, b) ∉ changes F ws) : wanted F ws i = F i := by
  refine wanted_of_forall fun b hb => ?_
  by_contra hne
  exact h b (mem_changes.mpr ⟨hb, hne⟩)

/-- The only wish for a place comes true. -/
theorem wanted_of_mem {F : ι → Bool} {ws : List (ι × Bool)} (h : (ws.map Prod.fst).Nodup) {i : ι}
    {b : Bool} (hb : (i, b) ∈ ws) : wanted F ws i = b := by
  obtain ⟨pre, post, rfl⟩ := List.append_of_mem hb
  unfold wanted
  rw [List.foldl_append, List.foldl_cons]
  refine (wanted_of_forall fun b' hb' => ?_).trans (Function.update_self ..)
  exact absurd hb' (notMem_tail_of_nodup h)

/-- The wishes that differ are enough. -/
theorem wanted_changes {F : ι → Bool} {ws : List (ι × Bool)} (h : (ws.map Prod.fst).Nodup) (i : ι) :
    wanted F (changes F ws) i = wanted F ws i := by
  by_cases hc : ∃ b, (i, b) ∈ changes F ws
  · obtain ⟨b, hb⟩ := hc
    rw [wanted_of_mem (nodup_changes h) hb, wanted_of_mem h (mem_changes.mp hb).1]
  · push Not at hc
    rw [wanted_of_notMem_changes hc, wanted_of_forall fun b hb => absurd hb (hc b)]

/-- Wishes to be somewhere only add places. -/
theorem wanted_of_joining {F : ι → Bool} {ws : List (ι × Bool)} (h : ∀ w ∈ ws, w.2 = true) (i : ι) :
    wanted F ws i = true ↔ F i = true ∨ (i, true) ∈ ws := by
  unfold wanted
  induction ws generalizing F with
  | nil => simp
  | cons w ws ih =>
    obtain ⟨j, b⟩ := w
    obtain rfl : b = true := h (j, b) List.mem_cons_self
    rw [List.foldl_cons, ih fun w hw => h w (List.mem_cons_of_mem _ hw), Function.update_apply,
      List.mem_cons, Prod.mk.injEq]
    split
    · rename_i hi; simp [hi]
    · rename_i hi; simp [hi]

/-! ## The steps to take -/

/-- One is not there and wants to be. -/
def joins (F G : ι → Bool) (i : ι) : Bool := G i && !F i

/-- One is there and does not want to be. -/
def leaves (F G : ι → Bool) (i : ι) : Bool := F i && !G i

omit [DecidableEq ι] in
@[simp] theorem joins_iff {F G : ι → Bool} {i : ι} :
    joins F G i = true ↔ G i = true ∧ F i = false := by
  simp [joins]

omit [DecidableEq ι] in
@[simp] theorem leaves_iff {F G : ι → Bool} {i : ι} :
    leaves F G i = true ↔ F i = true ∧ G i = false := by
  simp [leaves]

/-- With one wish for each place, one joins exactly the places wished for where one is not. -/
theorem joins_wanted {F : ι → Bool} {ws : List (ι × Bool)} (h : (ws.map Prod.fst).Nodup) (i : ι) :
    joins F (wanted F ws) i = true ↔ (i, true) ∈ ws ∧ F i = false := by
  rw [joins_iff]
  refine ⟨fun ⟨hG, hF⟩ => ⟨?_, hF⟩, fun ⟨hmem, hF⟩ => ⟨wanted_of_mem h hmem, hF⟩⟩
  by_contra hno
  have hkept : wanted F ws i = F i := wanted_of_forall fun b hb => by
    cases b with
    | true => exact absurd hb hno
    | false => exact hF.symm
  rw [hkept, hF] at hG
  cases hG

/-- And one leaves exactly the places one is at and does not want to be. -/
theorem leaves_wanted {F : ι → Bool} {ws : List (ι × Bool)} (h : (ws.map Prod.fst).Nodup) (i : ι) :
    leaves F (wanted F ws) i = true ↔ (i, false) ∈ ws ∧ F i = true := by
  rw [leaves_iff]
  refine ⟨fun ⟨hF, hG⟩ => ⟨?_, hF⟩, fun ⟨hmem, hF⟩ => ⟨hF, wanted_of_mem h hmem⟩⟩
  by_contra hno
  have hkept : wanted F ws i = F i := wanted_of_forall fun b hb => by
    cases b with
    | true => exact hF.symm
    | false => exact absurd hb hno
  rw [hkept, hF] at hG
  cases hG

omit [DecidableEq ι] in
/-- There is a step to take exactly where the two sets differ. -/
theorem joins_or_leaves {F G : ι → Bool} {i : ι} :
    joins F G i = true ∨ leaves F G i = true ↔ G i ≠ F i := by
  rw [joins_iff, leaves_iff]
  cases F i <;> cases G i <;> simp

/-! ## Replaying wishes later -/

/--
**A set computed from `F₀` and compared with `F₁` asks, among the places `P`, for the wished
changes only, exactly when `F₀` and `F₁` agree on every other one of them.**
-/
theorem replay_iff {F₀ F₁ : ι → Bool} {ws : List (ι × Bool)} {P : ι → Prop} :
    (∀ i, P i → joins F₁ (wanted F₀ ws) i = true ∨ leaves F₁ (wanted F₀ ws) i = true →
        ∃ b, (i, b) ∈ changes F₀ ws)
      ↔ ∀ i, P i → (∀ b, (i, b) ∉ changes F₀ ws) → F₀ i = F₁ i := by
  constructor
  · intro h i hi hno
    by_contra hne
    obtain ⟨b, hb⟩ := h i hi (joins_or_leaves.mpr (by rwa [wanted_of_notMem_changes hno]))
    exact hno b hb
  · intro h i hi hstep
    by_contra hno
    have hno' : ∀ b, (i, b) ∉ changes F₀ ws := fun b hb => hno ⟨b, hb⟩
    refine joins_or_leaves.mp hstep ?_
    rw [wanted_of_notMem_changes hno', h i hi hno']

end Wish
