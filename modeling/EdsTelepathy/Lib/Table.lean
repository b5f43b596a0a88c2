import Mathlib.Data.List.AList
import Mathlib.Data.List.Perm.Subperm

/-!
# Tables

A finite table from keys to values, as a hash table behaves: inserting under a
key that is present replaces its value, removing an absent key changes nothing,
and the order in which the values are listed is not part of the meaning.

The representation is Mathlib's association list without duplicate keys, so no
key can be bound twice. What is added here is the list of values and the
rewriting rules that decide a lookup by comparing keys.
-/

/-- A hash table from `κ` to `ν`. -/
abbrev Table (κ ν : Type) := AList (fun _ : κ => ν)

namespace Table

variable {κ ν : Type} [DecidableEq κ]

/-- The values, in table order. -/
def values (t : Table κ ν) : List ν := t.entries.map Sigma.snd

/-- The number of entries. -/
def size (t : Table κ ν) : Nat := t.entries.length

omit [DecidableEq κ] in
theorem isEmpty_entries {t : Table κ ν} : t.entries.isEmpty = true ↔ t = ∅ := by
  rw [List.isEmpty_iff]
  exact ⟨fun h => AList.ext h, fun h => by rw [h]; rfl⟩

/-- Whether a table is empty can be seen without comparing any entries. -/
instance (t : Table κ ν) : Decidable (t = ∅) := decidable_of_iff _ isEmpty_entries

theorem lookup_insert_ite (t : Table κ ν) (k k' : κ) (v : ν) :
    (t.insert k v).lookup k' = if k' = k then some v else t.lookup k' := by
  split
  · rename_i h; subst h; exact AList.lookup_insert t
  · rename_i h; exact AList.lookup_insert_ne h

theorem lookup_erase_ite (t : Table κ ν) (k k' : κ) :
    (t.erase k).lookup k' = if k' = k then none else t.lookup k' := by
  split
  · rename_i h; subst h; exact AList.lookup_erase _ t
  · rename_i h; exact AList.lookup_erase_ne h

/-- A binding found after an insertion is the new one or an old one under another key. -/
theorem lookup_insert_eq_some {t : Table κ ν} {k k' : κ} {v v' : ν} :
    (t.insert k v).lookup k' = some v' ↔ (k' = k ∧ v = v') ∨ (k' ≠ k ∧ t.lookup k' = some v') := by
  rw [lookup_insert_ite]
  split
  · rename_i h; simp [h]
  · rename_i h; simp [h]

/-- A binding found after a removal was there before, under another key. -/
theorem lookup_erase_eq_some {t : Table κ ν} {k k' : κ} {v' : ν} :
    (t.erase k).lookup k' = some v' ↔ k' ≠ k ∧ t.lookup k' = some v' := by
  rw [lookup_erase_ite]
  split
  · rename_i h; simp [h]
  · rename_i h; simp [h]

/-! ## Entering and removing many keys -/

/-- Values entered one after the other, each under its key. -/
def insertAll (t : Table κ ν) (key : ν → κ) (vs : List ν) : Table κ ν :=
  vs.foldl (fun t v => t.insert (key v) v) t

/-- Keys removed one after the other. -/
def eraseAll (t : Table κ ν) (key : ν → κ) (vs : List ν) : Table κ ν :=
  vs.foldl (fun t v => t.erase (key v)) t

/-- A binding found after entering many values is one of them, or old under none of their keys. -/
theorem lookup_insertAll {t : Table κ ν} {key : ν → κ} {vs : List ν} {k : κ} {v : ν}
    (h : (insertAll t key vs).lookup k = some v) :
    (v ∈ vs ∧ key v = k) ∨ (t.lookup k = some v ∧ ∀ v' ∈ vs, key v' ≠ k) := by
  induction vs generalizing t with
  | nil => exact .inr ⟨h, by simp⟩
  | cons x xs ih =>
    rcases ih (t := t.insert (key x) x) h with ⟨hmem, hk⟩ | ⟨hold, hne⟩
    · exact .inl ⟨List.mem_cons_of_mem x hmem, hk⟩
    · rcases lookup_insert_eq_some.mp hold with ⟨rfl, rfl⟩ | ⟨hkx, hold'⟩
      · exact .inl ⟨List.mem_cons_self, rfl⟩
      · refine .inr ⟨hold', fun v' hv' => ?_⟩
        rcases List.mem_cons.mp hv' with rfl | hv'
        · exact fun he => hkx he.symm
        · exact hne v' hv'

/-- A key that is present, or is one of those entered, is present afterwards. -/
theorem lookup_insertAll_isSome {t : Table κ ν} {key : ν → κ} {vs : List ν} {k : κ}
    (h : (t.lookup k).isSome = true ∨ ∃ v ∈ vs, key v = k) :
    ((insertAll t key vs).lookup k).isSome = true := by
  induction vs generalizing t with
  | nil =>
    rcases h with h | ⟨v, hv, -⟩
    · exact h
    · cases hv
  | cons x xs ih =>
    refine ih (t := t.insert (key x) x) ?_
    rcases h with h | ⟨v, hv, hk⟩
    · left
      rw [lookup_insert_ite]
      split
      · rfl
      · exact h
    · rcases List.mem_cons.mp hv with rfl | hv
      · left
        rw [lookup_insert_ite, if_pos hk.symm]; rfl
      · exact .inr ⟨v, hv, hk⟩

theorem lookup_eraseAll {t : Table κ ν} {key : ν → κ} {vs : List ν} {k : κ} {v : ν} :
    (eraseAll t key vs).lookup k = some v ↔ t.lookup k = some v ∧ ∀ v' ∈ vs, key v' ≠ k := by
  induction vs generalizing t with
  | nil => simp [eraseAll]
  | cons x xs ih =>
    have hstep : (eraseAll t key (x :: xs)).lookup k
        = (eraseAll (t.erase (key x)) key xs).lookup k := rfl
    rw [hstep, ih, lookup_erase_eq_some]
    constructor
    · rintro ⟨⟨hne, hold⟩, hrest⟩
      refine ⟨hold, fun v' hv' => ?_⟩
      rcases List.mem_cons.mp hv' with rfl | hv'
      · exact fun he => hne he.symm
      · exact hrest v' hv'
    · rintro ⟨hold, hall⟩
      exact ⟨⟨fun he => hall x List.mem_cons_self he.symm, hold⟩,
        fun v' hv' => hall v' (List.mem_cons_of_mem x hv')⟩

theorem mem_values {t : Table κ ν} {v : ν} : v ∈ values t ↔ ∃ k, t.lookup k = some v := by
  unfold values
  constructor
  · intro h
    obtain ⟨⟨k, v'⟩, hmem, rfl⟩ := List.mem_map.mp h
    exact ⟨k, AList.mem_lookup_iff.mpr hmem⟩
  · rintro ⟨k, hk⟩
    exact List.mem_map.mpr ⟨⟨k, v⟩, AList.mem_lookup_iff.mp hk, rfl⟩

/-- What holds of every binding holds of every entry, and the other way round. -/
theorem forall_lookup {t : Table κ ν} {P : κ → ν → Prop} :
    (∀ e ∈ t.entries, P e.1 e.2) ↔ ∀ k v, t.lookup k = some v → P k v :=
  ⟨fun h k v hv => h ⟨k, v⟩ (AList.mem_lookup_iff.mp hv),
    fun h e he => h e.1 e.2 (AList.mem_lookup_iff.mpr he)⟩

/-! ## Properties of all values -/

/-- Every value of the table has the property. -/
def All (P : ν → Prop) (t : Table κ ν) : Prop := ∀ k v, t.lookup k = some v → P v

theorem all_empty (P : ν → Prop) : All P (∅ : Table κ ν) := fun _ _ h => by cases h

theorem All.mono {P Q : ν → Prop} {t : Table κ ν} (h : All P t) (hpq : ∀ v, P v → Q v) : All Q t :=
  fun k v hv => hpq v (h k v hv)

theorem All.insert {P : ν → Prop} {t : Table κ ν} (h : All P t) (k : κ) {v : ν} (hv : P v) :
    All P (t.insert k v) := by
  intro k' v' h'
  rcases lookup_insert_eq_some.mp h' with ⟨-, rfl⟩ | ⟨-, hold⟩
  · exact hv
  · exact h k' v' hold

theorem All.erase {P : ν → Prop} {t : Table κ ν} (h : All P t) (k : κ) : All P (t.erase k) :=
  fun k' v' h' => h k' v' (lookup_erase_eq_some.mp h').2

omit [DecidableEq κ] in
theorem length_keys (t : Table κ ν) : t.keys.length = size t := List.length_map ..

/-- Of more keys than there are entries, one is free. -/
theorem exists_lookup_eq_none (t : Table κ ν) {f : Nat → κ} (hf : Function.Injective f) :
    ∃ i ≤ size t, t.lookup (f i) = none := by
  by_contra hc
  push Not at hc
  have hsub : (List.range (size t + 1)).map f ⊆ t.keys := by
    intro k hk
    obtain ⟨i, hi, rfl⟩ := List.mem_map.mp hk
    have hne := hc i (by rw [List.mem_range] at hi; omega)
    exact AList.mem_keys.mp (AList.lookup_isSome.mp (Option.isSome_iff_ne_none.mpr hne))
  have hnd : ((List.range (size t + 1)).map f).Nodup := List.nodup_range.map hf
  have hlen := (hnd.subperm hsub).length_le
  rw [List.length_map, List.length_range, length_keys] at hlen
  omega

end Table
