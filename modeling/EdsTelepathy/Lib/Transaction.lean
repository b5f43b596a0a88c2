import EdsTelepathy.Lib.Run

/-!
# Transactions

A connection to a store has a committed state and, while a transaction is open, a second
one that only it sees. Statements act on the second one if there is one, and otherwise
are committed at once. The engine may refuse any step: a refused statement changes
nothing, and a refused `COMMIT` or `ROLLBACK` leaves the transaction open.

The pattern every user of such a store writes is `transact`: begin, run the statements up
to the first that fails, then commit or roll back. The rule at the end says exactly when
that is atomic and when its answer is true, for a caller who does not look at what
`BEGIN`, `COMMIT` and `ROLLBACK` return.
-/

universe u

/-- A statement: the new state, or `none` where a constraint fails. -/
abbrev Statement (σ : Type u) := σ → Option σ

/-- A connection, with the engine's decisions on the statements still to come. -/
structure Connection (σ : Type u) where
  committed : σ
  /-- What the open transaction has made of the committed state, if one is open. -/
  working : Option σ := none
  /-- A statement that is not listed is not refused. -/
  oks : List Bool := []

/-- What the engine decides about one call: its `BEGIN`, its statements, and what ends it. -/
structure Pattern where
  begins : Bool := true
  statements : List Bool := []
  ends : Bool := true
  deriving DecidableEq

namespace Connection

variable {σ : Type u}

/-- The state that the statements of this connection see. -/
def visible (c : Connection σ) : σ := c.working.getD c.committed

/-- No transaction is open. -/
def Closed (c : Connection σ) : Prop := c.working = none

/-- `BEGIN`, which is also refused inside a transaction. -/
def start (c : Connection σ) (ok : Bool) : Bool × Connection σ :=
  if ok && c.working.isNone then (true, { c with working := some c.committed }) else (false, c)

/-- `COMMIT`, which is also refused outside a transaction. -/
def commit (c : Connection σ) (ok : Bool) : Bool × Connection σ :=
  match c.working with
  | some s => if ok then (true, { c with committed := s, working := none }) else (false, c)
  | none => (false, c)

/-- `ROLLBACK`, which is also refused outside a transaction. -/
def rollback (c : Connection σ) (ok : Bool) : Bool × Connection σ :=
  match c.working with
  | some _ => if ok then (true, { c with working := none }) else (false, c)
  | none => (false, c)

/-- The state after a statement: in the transaction, or committed at once. -/
def put (c : Connection σ) (s : σ) : Connection σ :=
  match c.working with
  | some _ => { c with working := some s }
  | none => { c with committed := s }

/-- Run one statement. -/
def exec (c : Connection σ) (f : Statement σ) : Bool × Connection σ :=
  let ok := c.oks.headD true
  let c := { c with oks := c.oks.tail }
  match if ok then f c.visible else none with
  | some s => (true, c.put s)
  | none => (false, c)

/-- One thing after another: the second only if the first succeeded. -/
def andThen (r : Bool × Connection σ) (k : Connection σ → Bool × Connection σ) :
    Bool × Connection σ :=
  match r with
  | (true, c) => k c
  | (false, c) => (false, c)

/-- A loop that is left at the first failure. -/
def forEach {α : Type u} (body : Connection σ → α → Bool × Connection σ) :
    Connection σ → List α → Bool × Connection σ
  | c, [] => (true, c)
  | c, x :: xs => andThen (body c x) (forEach body · xs)

/-- Run statements up to the first that fails. -/
def execAll (c : Connection σ) (fs : List (Statement σ)) : Bool × Connection σ := forEach exec c fs

/-- Commit what succeeded and roll back what failed; what comes of that is not looked at. -/
def finish (ok : Bool) : Bool × Connection σ → Bool × Connection σ
  | (true, c) => (true, (c.commit ok).2)
  | (false, c) => (false, (c.rollback ok).2)

/-- Begin, do the work, then commit or roll back; only the work decides the answer. -/
def transact (c : Connection σ) (p : Pattern) (work : Connection σ → Bool × Connection σ) :
    Bool × Connection σ :=
  finish p.ends (work (({ c with oks := p.statements } : Connection σ).start p.begins).2)

theorem execAll_append (c : Connection σ) (fs gs : List (Statement σ)) :
    c.execAll (fs ++ gs) = andThen (c.execAll fs) (execAll · gs) := by
  induction fs generalizing c with
  | nil => rfl
  | cons f fs ih =>
    rw [List.cons_append, execAll, forEach, execAll, forEach]
    cases hf : c.exec f with
    | mk ok d =>
      cases ok with
      | true => exact ih d
      | false => rfl

/-- A loop whose body runs statements runs all of them in a row. -/
theorem forEach_execAll {α : Type u} (f : α → List (Statement σ)) (c : Connection σ)
    (xs : List α) : forEach (fun c x => c.execAll (f x)) c xs = c.execAll (xs.flatMap f) := by
  induction xs generalizing c with
  | nil => rfl
  | cons x xs ih =>
    rw [forEach, List.flatMap_cons, execAll_append]
    congr 1
    funext d
    exact ih d

theorem execAll_singleton (c : Connection σ) (f : Statement σ) : c.execAll [f] = c.exec f := by
  rw [execAll, forEach]
  cases hf : c.exec f with
  | mk ok d => cases ok <;> rfl

/-- A loop whose body is one statement. -/
theorem forEach_exec {α : Type u} (f : α → Statement σ) (c : Connection σ) (xs : List α) :
    forEach (fun c x => c.exec (f x)) c xs = c.execAll (xs.map f) := by
  rw [List.map_eq_flatMap, ← forEach_execAll]
  congr 1
  funext c x
  exact (execAll_singleton c (f x)).symm

/-! ## What the statements come to -/

/-- Apply statements up to the first that is refused or fails; whether none was, and the state. -/
def attempt : List (Statement σ) → List Bool → σ → Bool × σ
  | [], _, s => (true, s)
  | f :: fs, oks, s =>
    match if oks.headD true then f s else none with
    | some s => attempt fs oks.tail s
    | none => (false, s)

/-- All the statements, if none fails. -/
def applyAll (fs : List (Statement σ)) (s : σ) : Option σ := fs.foldlM (fun s f => f s) s

theorem applyAll_singleton (f : Statement σ) (s : σ) : applyAll [f] s = f s := by
  rw [applyAll, List.foldlM_cons]
  cases f s <;> rfl

theorem applyAll_append (fs gs : List (Statement σ)) (s : σ) :
    applyAll (fs ++ gs) s = (applyAll fs s).bind (applyAll gs) := List.foldlM_append ..

theorem applyAll_flatMap {α : Type u} (f : α → List (Statement σ)) (xs : List α) (s : σ) :
    applyAll (xs.flatMap f) s = xs.foldlM (fun s x => applyAll (f x) s) s := by
  induction xs generalizing s with
  | nil => rfl
  | cons x xs ih =>
    rw [List.flatMap_cons, applyAll_append, List.foldlM_cons]
    congr 1
    funext t
    exact ih t

theorem applyAll_of_attempt {fs : List (Statement σ)} {oks : List Bool} {s : σ}
    (h : (attempt fs oks s).1 = true) : applyAll fs s = some (attempt fs oks s).2 := by
  induction fs generalizing oks s with
  | nil => rfl
  | cons f fs ih =>
    rw [attempt] at h ⊢
    split at h
    · rename_i s' hs'
      split at hs'
      · rw [applyAll, List.foldlM_cons, hs']
        exact ih h
      · cases hs'
    · cases h

/-- What every statement keeps, a row of them keeps, wherever it stops. -/
theorem attempt_inv {I : σ → Prop} {fs : List (Statement σ)}
    (hf : ∀ f ∈ fs, ∀ s s', f s = some s' → I s → I s') (oks : List Bool) {s : σ} (hs : I s) :
    I (attempt fs oks s).2 := by
  induction fs generalizing oks s with
  | nil => exact hs
  | cons f fs ih =>
    rw [attempt]
    split
    · rename_i s' h
      split at h
      · exact ih (fun g hg => hf g (List.mem_cons_of_mem f hg)) oks.tail
          (hf f List.mem_cons_self s s' h hs)
      · cases h
    · exact hs

/-- What running statements leaves of a connection. -/
structure Ran (c : Connection σ) (a : Bool × σ) (r : Bool × Connection σ) : Prop where
  answer : r.1 = a.1
  visible : r.2.visible = a.2
  open_iff : r.2.working.isSome = c.working.isSome
  committed : c.working.isSome = true → r.2.committed = c.committed

theorem put_ran (c : Connection σ) (s : σ) : Ran c (true, s) (true, c.put s) := by
  unfold put
  cases hw : c.working with
  | none => exact ⟨rfl, by simp [visible], by simp [hw], fun h => by simp [hw] at h⟩
  | some w => exact ⟨rfl, rfl, by simp [hw], fun _ => rfl⟩

theorem Ran.trans {c : Connection σ} {s : σ} {a : Bool × σ} {c' : Connection σ}
    {r : Bool × Connection σ} (h : Ran c (true, s) (true, c')) (h' : Ran c' a r) : Ran c a r where
  answer := h'.answer
  visible := h'.visible
  open_iff := h'.open_iff.trans h.open_iff
  committed ho := (h'.committed (h.open_iff.trans ho)).trans (h.committed ho)

theorem execAll_ran (c : Connection σ) (fs : List (Statement σ)) :
    Ran c (attempt fs c.oks c.visible) (c.execAll fs) := by
  induction fs generalizing c with
  | nil => exact ⟨rfl, rfl, rfl, fun _ => rfl⟩
  | cons f fs ih =>
    rw [attempt, execAll, forEach, exec]
    have hv : ({ c with oks := c.oks.tail } : Connection σ).visible = c.visible := rfl
    rw [hv]
    split
    · rename_i s hs
      rw [andThen]
      have hput := put_ran { c with oks := c.oks.tail } s
      have hrest := ih (({ c with oks := c.oks.tail } : Connection σ).put s)
      have hoks : (({ c with oks := c.oks.tail } : Connection σ).put s).oks = c.oks.tail := by
        unfold put
        split <;> rfl
      rw [hoks, hput.visible] at hrest
      exact ⟨(hput.trans hrest).answer, (hput.trans hrest).visible, (hput.trans hrest).open_iff,
        (hput.trans hrest).committed⟩
    · exact ⟨rfl, rfl, rfl, fun _ => rfl⟩

/-! ## When a call is atomic -/

/-- The answer is the truth about all the changes, and no transaction is left open. -/
structure Truthful (c : Connection σ) (fs : List (Statement σ)) (r : Bool × Connection σ) :
    Prop where
  done : r.1 = true → applyAll fs c.visible = some r.2.committed
  undone : r.1 = false → r.2.committed = c.committed
  closed : r.2.Closed

/--
What the engine may decide: either `BEGIN` and what ends the transaction both pass, or
`BEGIN` is refused and then either no statement fails or those before it changed nothing.
-/
def Harmless (fs : List (Statement σ)) (p : Pattern) (s : σ) : Prop :=
  p.begins = true ∧ p.ends = true ∨
    p.begins = false ∧
      ((attempt fs p.statements s).1 = true ∨ (attempt fs p.statements s).2 = s)

/-- What ends an open transaction: it is committed, undone, or left open. -/
theorem finish_open {r : Bool × Connection σ} {w : σ} (hw : r.2.working = some w) (ok : Bool) :
    (finish ok r).1 = r.1 ∧
      if ok = true then
        (finish ok r).2.Closed ∧
          (finish ok r).2.committed = if r.1 = true then w else r.2.committed
      else ¬ (finish ok r).2.Closed := by
  obtain ⟨done, c⟩ := r
  have hw' : c.working = some w := hw
  cases done <;> cases ok <;> simp [finish, commit, rollback, hw', Closed]

/-- Where no transaction is open there is nothing to end. -/
theorem finish_closed {r : Bool × Connection σ} (hw : r.2.working = none) (ok : Bool) :
    finish ok r = r := by
  obtain ⟨done, c⟩ := r
  have hw' : c.working = none := hw
  cases done <;> simp [finish, commit, rollback, hw']

/-- A transaction that begins: it is committed, undone, or left open. -/
theorem transact_begun {c : Connection σ} (hc : c.Closed) {p : Pattern} (hp : p.begins = true)
    (fs : List (Statement σ)) :
    (c.transact p (execAll · fs)).1 = (attempt fs p.statements c.committed).1 ∧
      if p.ends = true then
        (c.transact p (execAll · fs)).2.Closed ∧
          (c.transact p (execAll · fs)).2.committed =
            if (attempt fs p.statements c.committed).1 = true then
              (attempt fs p.statements c.committed).2
            else c.committed
      else ¬ (c.transact p (execAll · fs)).2.Closed := by
  have hw : c.working = none := hc
  have hstart : (({ c with oks := p.statements } : Connection σ).start p.begins).2
      = { committed := c.committed, working := some c.committed, oks := p.statements } := by
    simp [start, hp, hw]
  have hran := execAll_ran
    { committed := c.committed, working := some c.committed, oks := p.statements } fs
  obtain ⟨w, hopen⟩ := Option.isSome_iff_exists.mp hran.open_iff
  have hwa : w = (attempt fs p.statements c.committed).2 := by
    have hvis := hran.visible
    rw [visible, hopen] at hvis
    exact hvis
  have hfin := finish_open hopen p.ends
  rw [hran.answer, hran.committed rfl, hwa] at hfin
  unfold transact
  rw [hstart]
  exact hfin

/-- A transaction that does not begin: what ran is committed, and there is nothing to end. -/
theorem transact_refused {c : Connection σ} (hc : c.Closed) {p : Pattern} (hp : p.begins = false)
    (fs : List (Statement σ)) :
    (c.transact p (execAll · fs)).1 = (attempt fs p.statements c.committed).1 ∧
      (c.transact p (execAll · fs)).2.Closed ∧
      (c.transact p (execAll · fs)).2.committed = (attempt fs p.statements c.committed).2 := by
  have hw : c.working = none := hc
  have hstart : (({ c with oks := p.statements } : Connection σ).start p.begins).2
      = { c with oks := p.statements } := by simp [start, hp]
  have hran := execAll_ran ({ c with oks := p.statements } : Connection σ) fs
  have hseen : ({ c with oks := p.statements } : Connection σ).visible = c.committed := by
    simp [visible, hw]
  have hclosed : (execAll ({ c with oks := p.statements } : Connection σ) fs).2.working = none := by
    rw [← Option.not_isSome_iff_eq_none, hran.open_iff]
    simp [hw]
  have hcom := hran.visible
  rw [visible, hclosed, hseen] at hcom
  have hans := hran.answer
  rw [hseen] at hans
  unfold transact
  rw [hstart, finish_closed hclosed]
  exact ⟨hans, hclosed, hcom⟩

/-- **A call is truthful and atomic exactly where the engine's decisions are harmless.** -/
theorem transact_truthful_iff {c : Connection σ} (hc : c.Closed) (p : Pattern)
    (fs : List (Statement σ)) :
    Truthful c fs (c.transact p (execAll · fs)) ↔ Harmless fs p c.committed := by
  have hvis : c.visible = c.committed := by
    have hw : c.working = none := hc
    simp [visible, hw]
  cases hb : p.begins with
  | true =>
    obtain ⟨hans, hrest⟩ := transact_begun hc hb fs
    cases he : p.ends with
    | false =>
      -- a transaction that is not ended stays open, whatever the answer was
      rw [he, if_neg (by decide)] at hrest
      constructor
      · intro h
        exact absurd h.closed hrest
      · rintro (⟨-, h⟩ | ⟨h, -⟩)
        · rw [he] at h; cases h
        · rw [hb] at h; cases h
    | true =>
      rw [he, if_pos rfl] at hrest
      refine ⟨fun _ => .inl ⟨hb, he⟩, fun _ => ⟨fun h => ?_, fun h => ?_, hrest.1⟩⟩
      · rw [hans] at h
        rw [hrest.2, if_pos h, hvis]
        exact applyAll_of_attempt h
      · rw [hans] at h
        rw [hrest.2, if_neg (by simp [h])]
  | false =>
    -- without a beginning each statement is committed on its own
    obtain ⟨hans, hclosed, hcom⟩ := transact_refused hc hb fs
    constructor
    · intro h
      refine .inr ⟨hb, ?_⟩
      cases ha : (attempt fs p.statements c.committed).1 with
      | true => exact .inl rfl
      | false => exact .inr (hcom.symm.trans (h.undone (hans.trans ha)))
    · rintro (⟨h, -⟩ | ⟨-, h⟩)
      · rw [hb] at h; cases h
      refine ⟨fun ht => ?_, fun hf => ?_, hclosed⟩
      · rw [hans] at ht
        rw [hcom, hvis]
        exact applyAll_of_attempt ht
      · rw [hans] at hf
        rcases h with h | h
        · rw [hf] at h; cases h
        · exact hcom.trans h

end Connection
