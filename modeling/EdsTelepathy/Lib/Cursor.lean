import EdsTelepathy.Lib.Join

/-!
# A join with an index

How a program joins the two lists of `Join` in place. The items are in an array that ends with
a terminator. A cursor goes over it once: an index, the element that was read there, and the
result of the last comparison, which keeps its value from one row to the next and is not set in
the beginning. The loops are given as they run, with a bound on their turns, and everything
that could go wrong is a `Fault`; on sorted lists nothing does, and what comes out is what
`Join.addRows` says.
-/

universe u v w

namespace Cursor

/-- What can go wrong. -/
inductive Fault where
  /-- An index behind the terminator is read. -/
  | outOfBounds
  /-- The result of a comparison is read before there was one. -/
  | unset
  /-- The bound on the turns of a loop is reached. -/
  | unfinished
  deriving DecidableEq

/-- The variables of the loops. -/
structure State where
  i : Nat := 0
  /-- The element that was read at `i`, by its place; the terminator is none. -/
  item : Option Nat := none
  cmp : Option Int := none

/-- Read the element at an index of an array with a terminator. -/
def readAt (length k : Nat) : Except Fault (Option Nat) :=
  if k < length then .ok (some k) else if k = length then .ok none else .error .outOfBounds

variable {κ : Type u} {α : Type v} {β : Type w} [LinearOrder κ]

/-- A comparison that answers with a sign. -/
def order (a b : κ) : Int := if a < b then -1 else if a = b then 0 else 1

/-- The inner loop: go on while there is an item whose key is smaller than that of the row. -/
def seek (key : α → κ) (xs : List α) (k : κ) : Nat → State → Except Fault State
  | 0, _ => .error .unfinished
  | fuel + 1, s =>
    match s.item with
    | none => .ok s
    | some p =>
      match xs[p]? with
      | none => .error .outOfBounds
      | some x =>
        if 0 < order k (key x) then
          if s.i < xs.length then
            match readAt xs.length (s.i + 1) with
            | .error e => .error e
            | .ok item =>
              seek key xs k fuel { i := s.i + 1, item := item, cmp := some (order k (key x)) }
          else seek key xs k fuel { s with cmp := some (order k (key x)) }
        else .ok { s with cmp := some (order k (key x)) }

/-- The outer loop, for one row. -/
def visit (key : α → κ) (add : α → β → α) (fuel : Nat) (st : List α × State) (row : κ × β) :
    Except Fault (List α × State) :=
  match seek key st.1 row.1 fuel st.2 with
  | .error e => .error e
  | .ok s =>
    match s.item, s.cmp with
    | none, _ => .ok (st.1, s)
    | some _, none => .error .unset
    | some p, some cmp => .ok (if cmp = 0 then st.1.modify p (fun x => add x row.2) else st.1, s)

/-- The join: the items as the rows leave them. -/
def scan (key : α → κ) (add : α → β → α) (fuel : Nat) (xs : List α) (rows : List (κ × β)) :
    Except Fault (List α) :=
  match readAt xs.length 0 with
  | .error e => .error e
  | .ok item => (rows.foldlM (visit key add fuel) (xs, { item := item })).map Prod.fst

/-- The cursor is between the items that were passed and the others. -/
structure At (passed rest : List α) (s : State) : Prop where
  index : s.i = passed.length
  item : s.item = if rest = [] then none else some passed.length

theorem readAt_append (passed rest : List α) : readAt (passed ++ rest).length passed.length
    = .ok (if rest = [] then none else some passed.length) := by
  unfold readAt
  cases rest with
  | nil => simp
  | cons x rest => simp

theorem order_pos {a b : κ} : 0 < order a b ↔ b < a := by
  unfold order
  by_cases hlt : a < b
  · simp [hlt, not_lt.mpr hlt.le]
  · by_cases heq : a = b
    · simp [heq]
    · simp [hlt, heq, lt_of_le_of_ne (not_lt.mp hlt) (Ne.symm heq)]

theorem order_zero {a b : κ} : order a b = 0 ↔ a = b := by
  unfold order
  by_cases hlt : a < b
  · simp [hlt, hlt.ne]
  · by_cases heq : a = b
    · simp [heq]
    · simp [hlt, heq]

/-- The inner loop passes what the join passes, and its last comparison is with the next item. -/
theorem seek_spec (key : α → κ) (k : κ) {passed rest : List α} {s : State} (hs : At passed rest s)
    {fuel : Nat} (hfuel : rest.length < fuel) :
    ∃ s', seek key (passed ++ rest) k fuel s = .ok s'
      ∧ At (Join.advance key k passed rest).1 (Join.advance key k passed rest).2 s'
      ∧ ∀ x xs, (Join.advance key k passed rest).2 = x :: xs → s'.cmp = some (order k (key x)) := by
  induction rest generalizing passed s fuel with
  | nil =>
    obtain ⟨fuel, rfl⟩ : ∃ n, fuel = n + 1 := ⟨fuel - 1, by simp at hfuel; omega⟩
    have hitem : s.item = none := hs.item
    refine ⟨s, ?_, hs, fun x xs h => by cases h⟩
    rw [seek, hitem]
  | cons y rest ih =>
    obtain ⟨fuel, rfl⟩ : ∃ n, fuel = n + 1 := ⟨fuel - 1, by simp at hfuel; omega⟩
    have hitem : s.item = some passed.length := hs.item
    have hread : (passed ++ y :: rest)[passed.length]? = some y := by simp
    have hinside : s.i < (passed ++ y :: rest).length := by
      rw [hs.index]
      simp
    rw [seek, hitem]
    dsimp only
    rw [hread]
    dsimp only
    by_cases hlt : key y < k
    · rw [if_pos (order_pos.mpr hlt), if_pos hinside, Join.advance, if_pos hlt, hs.index]
      -- the element is one more that is passed
      have hsplit : passed ++ y :: rest = (passed ++ [y]) ++ rest := by simp
      have hlen : passed.length + 1 = (passed ++ [y]).length := by simp
      have hnext := readAt_append (passed ++ [y]) rest
      rw [hsplit, hlen, hnext]
      exact ih ⟨rfl, rfl⟩ (by simpa using hfuel)
    · rw [if_neg fun h => hlt (order_pos.mp h), Join.advance, if_neg hlt]
      refine ⟨_, rfl, ⟨hs.index, rfl⟩, fun x xs h => ?_⟩
      obtain ⟨rfl, rfl⟩ := List.cons.inj h
      rfl

/-- One row of the loop is one row of the join. -/
theorem visit_spec (key : α → κ) (add : α → β → α) {passed rest : List α} {s : State}
    (hs : At passed rest s) {fuel : Nat} (hfuel : rest.length < fuel) (row : κ × β) :
    ∃ s', visit key add fuel (passed ++ rest, s) row
        = .ok ((Join.addRow key add (passed, rest) row).1
          ++ (Join.addRow key add (passed, rest) row).2, s')
      ∧ At (Join.addRow key add (passed, rest) row).1 (Join.addRow key add (passed, rest) row).2 s' := by
  obtain ⟨s', hseek, hat, hcmp⟩ := seek_spec key row.1 hs hfuel
  obtain ⟨hall, -, -⟩ := Join.advance_spec key row.1 passed rest
  unfold visit Join.addRow
  rw [hseek, ← hall]
  dsimp only
  revert hat hcmp
  generalize Join.advance key row.1 passed rest = st
  obtain ⟨before, after⟩ := st
  intro hat hcmp
  cases after with
  | nil =>
    have hitem : s'.item = none := hat.item
    rw [hitem]
    exact ⟨s', rfl, hat⟩
  | cons x xs =>
    have hitem : s'.item = some before.length := hat.item
    rw [hitem, hcmp x xs rfl]
    dsimp only
    by_cases heq : row.1 = key x
    · rw [if_pos (order_zero.mpr heq), if_pos heq]
      refine ⟨s', ?_, hat.index, hitem⟩
      rw [List.modify_eq_take_cons_drop (by simp)]
      simp
    · rw [if_neg fun h => heq (order_zero.mp h), if_neg heq]
      exact ⟨s', rfl, hat⟩

theorem addRow_length (key : α → κ) (add : α → β → α) (passed rest : List α) (row : κ × β) :
    (Join.addRow key add (passed, rest) row).2.length ≤ rest.length := by
  have hadvance : ∀ passed : List α, (Join.advance key row.1 passed rest).2.length ≤ rest.length := by
    induction rest with
    | nil => exact fun _ => Nat.le_refl _
    | cons y rest ih =>
      intro passed
      rw [Join.advance]
      split
      · exact (ih _).trans (by simp)
      · exact Nat.le_refl _
  have hlen := hadvance passed
  rw [Join.addRow]
  dsimp only
  generalize Join.advance key row.1 passed rest = st at hlen
  obtain ⟨before, _ | ⟨x, xs⟩⟩ := st
  · exact hlen
  · dsimp only at hlen ⊢
    split <;> exact hlen

theorem foldlM_visit (key : α → κ) (add : α → β → α) (rows : List (κ × β)) {passed rest : List α}
    {s : State} (hs : At passed rest s) {fuel : Nat} (hfuel : rest.length < fuel) :
    (rows.foldlM (visit key add fuel) (passed ++ rest, s)).map Prod.fst
      = .ok ((rows.foldl (Join.addRow key add) (passed, rest)).1
        ++ (rows.foldl (Join.addRow key add) (passed, rest)).2) := by
  induction rows generalizing passed rest s with
  | nil => rfl
  | cons row rows ih =>
    obtain ⟨s', hvisit, hat⟩ := visit_spec key add hs hfuel row
    rw [List.foldlM_cons, hvisit, List.foldl_cons]
    exact ih hat (lt_of_le_of_lt (addRow_length key add passed rest row) hfuel)

/-- **The loop with the cursor is the join**, if each inner loop may pass all items and stop. -/
theorem scan_eq (key : α → κ) (add : α → β → α) {xs : List α} {fuel : Nat} (hfuel : xs.length < fuel)
    (rows : List (κ × β)) : scan key add fuel xs rows = .ok (Join.addRows key add xs rows) := by
  have hstart := readAt_append [] xs
  rw [List.nil_append, List.length_nil] at hstart
  unfold scan
  rw [hstart]
  have hat : At ([] : List α) xs { item := if xs = [] then none else some 0 } := ⟨rfl, rfl⟩
  exact foldlM_visit key add rows hat hfuel

end Cursor
