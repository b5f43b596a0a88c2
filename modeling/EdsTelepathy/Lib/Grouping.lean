import EdsTelepathy.Lib.Table

/-!
# Grouping through a table

Items with keys are put together in a table: the first item under a key makes the entry, and
those that come later are added to it. Then the table is listed, in whatever order. What is
listed for a key depends on the items under it alone, and on the order in which they came.
-/

namespace Table

variable {κ ν : Type} [DecidableEq κ]

/-- The values as an iteration may list them: in this order, if it is an order of them. -/
def listed [DecidableEq ν] (order : List ν) (t : Table κ ν) : List ν :=
  if order.isPerm (values t) then order else values t

omit [DecidableEq κ] in
theorem listed_perm [DecidableEq ν] (order : List ν) (t : Table κ ν) :
    (listed order t).Perm (values t) := by
  unfold listed
  split
  · rename_i h
    exact List.isPerm_iff.mp h
  · exact .refl _

/-- Of values that know their keys, those of one key are what a lookup finds. -/
theorem filter_values {t : Table κ ν} (keyOf : ν → κ)
    (hkey : ∀ k v, t.lookup k = some v → keyOf v = k) (k : κ) :
    (values t).filter (fun v => keyOf v = k) = (t.lookup k).toList := by
  rw [← forall_lookup (P := fun k v => keyOf v = k)] at hkey
  obtain ⟨entries, hnd⟩ := t
  unfold values
  show _ = (entries.dlookup k).toList
  induction entries with
  | nil => rfl
  | cons e rest ih =>
    obtain ⟨hnot, hrest⟩ := List.nodupKeys_cons.mp hnd
    have ih := ih hrest fun e' he' => hkey e' (List.mem_cons_of_mem e he')
    have he : keyOf e.2 = e.1 := hkey e List.mem_cons_self
    rw [List.map_cons]
    by_cases hk : e.1 = k
    · subst hk
      rw [List.filter_cons_of_pos (by simpa using he), ih, List.dlookup_eq_none.mpr hnot,
        List.dlookup_cons_eq]
      rfl
    · rw [List.filter_cons_of_neg (by rw [he]; simpa using hk), ih,
        List.dlookup_cons_ne _ _ fun h => hk h.symm]

theorem filter_listed [DecidableEq ν] {t : Table κ ν} (keyOf : ν → κ)
    (hkey : ∀ k v, t.lookup k = some v → keyOf v = k) (order : List ν) (k : κ) :
    (listed order t).filter (fun v => keyOf v = k) = (t.lookup k).toList := by
  have hperm := (listed_perm order t).filter fun v => keyOf v = k
  rw [filter_values keyOf hkey] at hperm
  -- one value at most, so there is only one order
  cases hlook : t.lookup k with
  | none =>
    rw [hlook] at hperm
    exact List.perm_nil.mp hperm
  | some v =>
    rw [hlook] at hperm
    exact List.perm_singleton.mp hperm

end Table

namespace Grouping

variable {κ β ν : Type} [DecidableEq κ]

/-- Add an item to the entry under its key, or to a new one. -/
def put (fresh : κ → ν) (add : ν → β → ν) (t : Table κ ν) (k : κ) (x : β) : Table κ ν :=
  match t.lookup k with
  | some v => t.insert k (add v x)
  | none => t.insert k (add (fresh k) x)

/-- All items, one after the other. -/
def putAll (fresh : κ → ν) (add : ν → β → ν) (t : Table κ ν) (items : List (κ × β)) : Table κ ν :=
  items.foldl (fun t i => put fresh add t i.1 i.2) t

/-- The items under a key, in the order in which they come. -/
def under (items : List (κ × β)) (k : κ) : List β := (items.filter fun i => i.1 = k).map Prod.snd

@[simp] theorem under_nil (k : κ) : under ([] : List (κ × β)) k = [] := rfl

theorem under_cons_self (k : κ) (x : β) (items : List (κ × β)) :
    under ((k, x) :: items) k = x :: under items k := by
  unfold under
  rw [List.filter_cons_of_pos (by simp), List.map_cons]

theorem under_cons_of_ne {i : κ × β} {k : κ} (h : i.1 ≠ k) (items : List (κ × β)) :
    under (i :: items) k = under items k := by
  unfold under
  rw [List.filter_cons_of_neg (by simpa using h)]

theorem lookup_put_self (fresh : κ → ν) (add : ν → β → ν) (t : Table κ ν) (k : κ) (x : β) :
    (put fresh add t k x).lookup k = some (add ((t.lookup k).getD (fresh k)) x) := by
  unfold put
  split
  · rename_i v hv
    rw [hv]
    exact AList.lookup_insert t
  · rename_i hv
    rw [hv]
    exact AList.lookup_insert t

theorem lookup_put_of_ne {fresh : κ → ν} {add : ν → β → ν} {t : Table κ ν} {k k' : κ}
    (h : k ≠ k') (x : β) : (put fresh add t k' x).lookup k = t.lookup k := by
  unfold put
  split
  · exact AList.lookup_insert_ne h
  · exact AList.lookup_insert_ne h

/-- **The entry under a key has the items under it added, in their order.** -/
theorem lookup_putAll (fresh : κ → ν) (add : ν → β → ν) (t : Table κ ν) (items : List (κ × β))
    (k : κ) :
    (putAll fresh add t items).lookup k =
      if under items k = [] then t.lookup k
      else some ((under items k).foldl add ((t.lookup k).getD (fresh k))) := by
  induction items generalizing t with
  | nil => rfl
  | cons i items ih =>
    obtain ⟨k', x⟩ := i
    have hstep : (putAll fresh add t ((k', x) :: items)).lookup k
        = (putAll fresh add (put fresh add t k' x) items).lookup k := rfl
    rw [hstep, ih]
    by_cases hk : k' = k
    · subst hk
      rw [under_cons_self, if_neg (List.cons_ne_nil _ _), lookup_put_self, List.foldl_cons]
      split
      · rename_i hnone
        rw [hnone]
        rfl
      · rfl
    · rw [under_cons_of_ne hk, lookup_put_of_ne fun h => hk h.symm]

end Grouping
