import Mathlib.Data.List.Sort
import Mathlib.Data.List.Pairwise

/-!
# Joining two sorted lists

A list of items with distinct keys in increasing order is joined with a list of rows in
the order of their keys: for each row the items whose key is too small are passed, and if
the next item has the key of the row, the row is added to it. Rows whose key no item has
are dropped. In the end every item has exactly the rows of its own key.
-/

universe u v w

namespace Join

variable {κ : Type u} {α : Type v} {β : Type w} [LinearOrder κ]

/-- The inner loop: pass the items with a smaller key. -/
def advance (key : α → κ) (k : κ) : List α → List α → List α × List α
  | passed, [] => (passed, [])
  | passed, x :: rest =>
    if key x < k then advance key k (passed ++ [x]) rest else (passed, x :: rest)

/-- The outer loop, for one row. -/
def addRow (key : α → κ) (add : α → β → α) (st : List α × List α) (row : κ × β) :
    List α × List α :=
  match advance key row.1 st.1 st.2 with
  | (passed, x :: rest) =>
    if row.1 = key x then (passed, add x row.2 :: rest) else (passed, x :: rest)
  | (passed, []) => (passed, [])

/-- The join: the items as the rows leave them. -/
def addRows (key : α → κ) (add : α → β → α) (xs : List α) (rows : List (κ × β)) : List α :=
  let st := rows.foldl (addRow key add) ([], xs)
  st.1 ++ st.2

/-- An item with the rows of its own key. -/
def withRows (key : α → κ) (add : α → β → α) (rows : List (κ × β)) (x : α) : α :=
  (rows.filter (fun r => r.1 = key x)).foldl (fun x r => add x r.2) x

/-- Passing items loses none of them, and stops before the first key that is not smaller. -/
theorem advance_spec (key : α → κ) (k : κ) (passed rest : List α) :
    (advance key k passed rest).1 ++ (advance key k passed rest).2 = passed ++ rest ∧
      (∀ x ∈ (advance key k passed rest).1, x ∈ passed ∨ key x < k) ∧
      ∀ x xs, (advance key k passed rest).2 = x :: xs → k ≤ key x := by
  induction rest generalizing passed with
  | nil => exact ⟨rfl, fun x hx => .inl hx, fun x xs h => by cases h⟩
  | cons y rest ih =>
    rw [advance]
    split
    · rename_i hlt
      obtain ⟨hall, hpassed, hnext⟩ := ih (passed ++ [y])
      refine ⟨by rw [hall, List.append_assoc]; rfl, fun x hx => ?_, hnext⟩
      rcases hpassed x hx with hx | hx
      · rcases List.mem_append.mp hx with hx | hx
        · exact .inl hx
        · rw [List.mem_singleton] at hx
          exact .inr (hx ▸ hlt)
      · exact .inr hx
    · rename_i hge
      refine ⟨rfl, fun x hx => .inl hx, fun x xs h => ?_⟩
      cases h
      exact not_lt.mp hge

theorem withRows_of_ne {key : α → κ} {add : α → β → α} {row : κ × β} {x : α}
    (h : key x ≠ row.1) : withRows key add [row] x = x := by
  have hne : ¬ row.1 = key x := fun he => h he.symm
  simp [withRows, hne]

theorem withRows_cons {key : α → κ} {add : α → β → α} (hadd : ∀ x r, key (add x r) = key x)
    (row : κ × β) (rows : List (κ × β)) (x : α) :
    withRows key add (row :: rows) x = withRows key add rows (withRows key add [row] x) := by
  by_cases h : row.1 = key x
  · simp [withRows, h, hadd]
  · rw [withRows_of_ne (fun he => h he.symm)]
    simp [withRows, h]

theorem key_withRows (key : α → κ) (add : α → β → α) (hadd : ∀ x r, key (add x r) = key x)
    (rows : List (κ × β)) (x : α) : key (withRows key add rows x) = key x := by
  unfold withRows
  induction rows.filter (fun r => r.1 = key x) generalizing x with
  | nil => rfl
  | cons r rs ih => exact (ih (add x r.2)).trans (hadd x r.2)

/-- The other items are left alone. -/
theorem map_withRows_of_ne {key : α → κ} (add : α → β → α) {row : κ × β} {xs : List α}
    (h : ∀ x ∈ xs, key x ≠ row.1) : xs.map (withRows key add [row]) = xs := by
  conv_rhs => rw [← List.map_id xs]
  exact List.map_congr_left fun x hx => withRows_of_ne (h x hx)

/-- One row: it is added to the item of its key, and to no other. -/
theorem addRow_spec {key : α → κ} (add : α → β → α) {passed rest : List α}
    (hsorted : (passed ++ rest).Pairwise (fun x y => key x < key y)) {row : κ × β}
    (hpassed : ∀ x ∈ passed, key x < row.1) :
    (addRow key add (passed, rest) row).1 ++ (addRow key add (passed, rest) row).2
        = (passed ++ rest).map (withRows key add [row]) ∧
      ∀ x ∈ (addRow key add (passed, rest) row).1, key x < row.1 := by
  obtain ⟨hall, hlt, hnext⟩ := advance_spec key row.1 passed rest
  have hbefore : ∀ x ∈ (advance key row.1 passed rest).1, key x < row.1 := by
    intro x hx
    rcases hlt x hx with h | h
    · exact hpassed x h
    · exact h
  rw [← hall] at hsorted ⊢
  rw [addRow]
  revert hsorted hbefore hnext
  generalize advance key row.1 passed rest = st
  obtain ⟨before, after⟩ := st
  intro hsorted hnext hbefore
  have hkeep := map_withRows_of_ne add (fun x hx => ne_of_lt (hbefore x hx))
  rw [List.map_append, hkeep]
  cases after with
  | nil => exact ⟨rfl, hbefore⟩
  | cons x xs =>
    have hge := hnext x xs rfl
    -- the items behind the next one have larger keys still
    have hxs : ∀ y ∈ xs, key y ≠ row.1 := fun y hy =>
      (lt_of_le_of_lt hge ((List.pairwise_cons.mp (List.pairwise_append.mp hsorted).2.1).1 y hy)).ne'
    rw [List.map_cons, map_withRows_of_ne add hxs]
    dsimp only
    split
    · rename_i he
      refine ⟨?_, hbefore⟩
      simp [withRows, he]
    · rename_i hne
      rw [withRows_of_ne (fun he => hne he.symm)]
      exact ⟨rfl, hbefore⟩

theorem foldl_addRow {key : α → κ} {add : α → β → α} (hadd : ∀ x r, key (add x r) = key x)
    {rows : List (κ × β)} (hrows : rows.Pairwise (fun r s => r.1 ≤ s.1)) {s : List α × List α}
    (hsorted : (s.1 ++ s.2).Pairwise (fun x y => key x < key y))
    (hpassed : ∀ r ∈ rows, ∀ x ∈ s.1, key x < r.1) :
    (rows.foldl (addRow key add) s).1 ++ (rows.foldl (addRow key add) s).2
      = (s.1 ++ s.2).map (withRows key add rows) := by
  induction rows generalizing s with
  | nil => exact (List.map_id _).symm
  | cons row rows ih =>
    obtain ⟨hle, hrest⟩ := List.pairwise_cons.mp hrows
    obtain ⟨hone, hlt⟩ := addRow_spec add hsorted (hpassed row List.mem_cons_self)
    have hkeys : ((addRow key add s row).1 ++ (addRow key add s row).2).Pairwise
        (fun x y => key x < key y) := by
      rw [hone, List.pairwise_map]
      exact hsorted.imp fun h => by rwa [key_withRows key add hadd, key_withRows key add hadd]
    rw [List.foldl_cons, ih hrest hkeys
      (fun r hr x hx => lt_of_lt_of_le (hlt x hx) (hle r hr)), hone, List.map_map]
    exact List.map_congr_left fun x _ => (withRows_cons hadd row rows x).symm

/-- **The join gives every item the rows of its own key.** -/
theorem addRows_eq {key : α → κ} {add : α → β → α} (hadd : ∀ x r, key (add x r) = key x)
    {xs : List α} (hxs : xs.Pairwise (fun x y => key x < key y)) {rows : List (κ × β)}
    (hrows : rows.Pairwise (fun r s => r.1 ≤ s.1)) :
    addRows key add xs rows = xs.map (withRows key add rows) :=
  foldl_addRow hadd hrows (s := ([], xs)) hxs (fun _ _ _ hx => by cases hx)

/-- What the rows of a key carry. -/
theorem exists_row {rows : List (κ × β)} {k : κ} {y : β} :
    (∃ r ∈ rows.filter (fun r => r.1 = k), r.2 = y) ↔ (k, y) ∈ rows := by
  constructor
  · rintro ⟨⟨k', y'⟩, hr, rfl⟩
    obtain ⟨hmem, hk⟩ := List.mem_filter.mp hr
    have hk' : k' = k := of_decide_eq_true hk
    exact hk' ▸ hmem
  · intro h
    exact ⟨(k, y), List.mem_filter.mpr ⟨h, decide_eq_true rfl⟩, rfl⟩

end Join
