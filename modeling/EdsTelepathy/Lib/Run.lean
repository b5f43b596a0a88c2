/-!
# Guarded runs

A machine takes events one at a time; an event that is not enabled gives no next
state. A *guarded* run is one in which every event also meets a side condition on
the state it arrives in. An invariant that every guarded step keeps holds in every
state a guarded run visits, which is how each "in every run in which ..." statement
of the development is proved.
-/

universe u v

/-- A machine: what a state does with an event, if the event is enabled in it. -/
structure Machine (σ : Type u) (ε : Type v) where
  /-- The next state, or `none` where the event cannot occur. -/
  step : σ → ε → Option σ

namespace Machine

variable {σ : Type u} {ε : Type v} (M : Machine σ ε)

/-- Take the events of a list in order. -/
def run : σ → List ε → Option σ
  | s, [] => some s
  | s, e :: es => (M.step s e).bind (run · es)

/-- `Guarded Ok s es s'`: the events lead from `s` to `s'`, each meeting `Ok` where it occurs. -/
inductive Guarded (Ok : σ → ε → Prop) : σ → List ε → σ → Prop where
  | nil {s : σ} : Guarded Ok s [] s
  | cons {s s' s'' : σ} {e : ε} {es : List ε} :
      Ok s e → M.step s e = some s' → Guarded Ok s' es s'' → Guarded Ok s (e :: es) s''

/-- The states that can be reached from `s`, whatever the events. -/
def Reaches (s s' : σ) : Prop := ∃ es, M.run s es = some s'

variable {M}

/-- **The invariant rule.** What guarded steps keep, guarded runs keep. -/
theorem Guarded.inv {Ok : σ → ε → Prop} {I : σ → Prop}
    (hstep : ∀ s e s', I s → Ok s e → M.step s e = some s' → I s')
    {s s' : σ} {es : List ε} (h : M.Guarded Ok s es s') (hs : I s) : I s' := by
  induction h with
  | nil => exact hs
  | cons hok hst _ ih => exact ih (hstep _ _ _ hs hok hst)

/-- What guarded steps keep of a state and of the events that led to it, guarded runs keep. -/
theorem Guarded.inv_past {Ok : σ → ε → Prop} {I : List ε → σ → Prop}
    (hstep : ∀ past s e s', I past s → Ok s e → M.step s e = some s' → I (past ++ [e]) s')
    (past : List ε) {es : List ε} {s s' : σ} (h : M.Guarded Ok s es s') (hs : I past s) :
    I (past ++ es) s' := by
  induction h generalizing past with
  | nil =>
    rw [List.append_nil]
    exact hs
  | cons hok hst _ ih =>
    have hnext := ih _ (hstep _ _ _ _ hs hok hst)
    rw [List.append_assoc] at hnext
    exact hnext

/-- A run that begins outside `P` and ends in it enters `P` with one of its events. -/
theorem Guarded.enters {Ok : σ → ε → Prop} {P : σ → Prop} {s s' : σ} {es : List ε}
    (h : M.Guarded Ok s es s') (hs : ¬ P s) (hs' : P s') :
    ∃ before e after m m', es = before ++ e :: after ∧ M.Guarded Ok s before m ∧ ¬ P m ∧ Ok m e
      ∧ M.step m e = some m' ∧ P m' ∧ M.Guarded Ok m' after s' := by
  induction h with
  | nil => exact absurd hs' hs
  | @cons s s₁ s'' e es hok hst hrest ih =>
    by_cases hP : P s₁
    · exact ⟨[], e, es, s, s₁, rfl, .nil, hs, hok, hst, hP, hrest⟩
    · obtain ⟨before, e', after, m, m', rfl, hbefore, hin⟩ := ih hP hs'
      exact ⟨e :: before, e', after, m, m', rfl, .cons hok hst hbefore, hin⟩

/-- What the guard says of an event alone is true of all events of the run. -/
theorem Guarded.forall_mem {Ok : σ → ε → Prop} {P : ε → Prop} (hok : ∀ s e, Ok s e → P e) {s s' : σ}
    {es : List ε} (h : M.Guarded Ok s es s') : ∀ e ∈ es, P e := by
  induction h with
  | nil => exact fun e he => absurd he List.not_mem_nil
  | cons h1 _ _ ih => exact List.forall_mem_cons.mpr ⟨hok _ _ h1, ih⟩

/-- A guarded run is a run. -/
theorem Guarded.run_eq {Ok : σ → ε → Prop} {s s' : σ} {es : List ε}
    (h : M.Guarded Ok s es s') : M.run s es = some s' := by
  induction h with
  | nil => rfl
  | cons _ hst _ ih => rw [run, hst]; exact ih

/-- A run whose guard is always true is just a run. -/
theorem guarded_true {s s' : σ} {es : List ε} (h : M.run s es = some s') :
    M.Guarded (fun _ _ => True) s es s' := by
  induction es generalizing s with
  | nil => cases h; exact .nil
  | cons e es ih =>
    rw [run] at h
    obtain ⟨m, hm, hrest⟩ := Option.bind_eq_some_iff.mp h
    exact .cons trivial hm (ih hrest)

/-- What every step keeps, every run keeps. -/
theorem run_inv {I : σ → Prop} (hstep : ∀ s e s', I s → M.step s e = some s' → I s')
    {s s' : σ} {es : List ε} (h : M.run s es = some s') (hs : I s) : I s' :=
  (guarded_true h).inv (fun s e s' hI _ hst => hstep s e s' hI hst) hs

/-- What every step keeps of a state and of the events that led to it, every run keeps. -/
theorem run_inv_past {I : List ε → σ → Prop}
    (hstep : ∀ past s e s', I past s → M.step s e = some s' → I (past ++ [e]) s')
    {past es : List ε} {s s' : σ} (h : M.run s es = some s') (hs : I past s) : I (past ++ es) s' := by
  induction es generalizing past s with
  | nil =>
    cases h
    rw [List.append_nil]
    exact hs
  | cons e es ih =>
    rw [run] at h
    obtain ⟨m, hm, hrest⟩ := Option.bind_eq_some_iff.mp h
    have hnext := ih hrest (hstep past s e m hs hm)
    rw [List.append_assoc] at hnext
    exact hnext

theorem run_append (s : σ) (es es' : List ε) :
    M.run s (es ++ es') = (M.run s es).bind (M.run · es') := by
  induction es generalizing s with
  | nil => rfl
  | cons e es ih =>
    rw [List.cons_append, run, run, Option.bind_assoc]
    exact congrArg _ (funext ih)

/-- One step more. -/
theorem Reaches.step {s s' s'' : σ} {e : ε} (h : M.Reaches s s') (hst : M.step s' e = some s'') :
    M.Reaches s s'' := by
  obtain ⟨es, hes⟩ := h
  refine ⟨es ++ [e], ?_⟩
  rw [run_append, hes, Option.bind_some, run, hst]
  rfl

/-- What a guarded run comes to from a state that is reached is reached. -/
theorem Reaches.guarded {Ok : σ → ε → Prop} {s s' s'' : σ} {es : List ε} (h : M.Reaches s s')
    (hrun : M.Guarded Ok s' es s'') : M.Reaches s s'' := by
  obtain ⟨past, hpast⟩ := h
  refine ⟨past ++ es, ?_⟩
  rw [run_append, hpast]
  exact hrun.run_eq

/-- Guards can be weakened along a run. -/
theorem Guarded.mono {Ok Ok' : σ → ε → Prop} (hok : ∀ s e, Ok s e → Ok' s e)
    {s s' : σ} {es : List ε} (h : M.Guarded Ok s es s') : M.Guarded Ok' s es s' := by
  induction h with
  | nil => exact .nil
  | cons h1 h2 _ ih => exact .cons (hok _ _ h1) h2 ih

/-- What is true of every event of a run can be added to its guard. -/
theorem Guarded.and_mem {Ok : σ → ε → Prop} {P : ε → Prop} {s s' : σ} {es : List ε}
    (h : M.Guarded Ok s es s') (hes : ∀ e ∈ es, P e) :
    M.Guarded (fun s e => Ok s e ∧ P e) s es s' := by
  induction h with
  | nil => exact .nil
  | cons h1 h2 _ ih =>
    obtain ⟨he, hrest⟩ := List.forall_mem_cons.mp hes
    exact .cons ⟨h1, he⟩ h2 (ih hrest)

/-- Along a run, an invariant can be used to weaken a guard. -/
theorem Guarded.mono_inv {Ok Ok' : σ → ε → Prop} {I : σ → Prop}
    (hstep : ∀ s e s', I s → Ok s e → M.step s e = some s' → I s')
    (hok : ∀ s e, I s → Ok s e → Ok' s e) {s s' : σ} {es : List ε} (h : M.Guarded Ok s es s')
    (hs : I s) : M.Guarded Ok' s es s' := by
  induction h with
  | nil => exact .nil
  | cons h1 h2 _ ih => exact .cons (hok _ _ hs h1) h2 (ih (hstep _ _ _ hs h1 h2))

/-- Take the events in order while a check passes. -/
def runChecked (M : Machine σ ε) (check : σ → ε → Bool) : σ → List ε → Option σ
  | s, [] => some s
  | s, e :: es => if check s e then (M.step s e).bind (M.runChecked check · es) else none

/-- A run that passes the check is guarded by whatever the check implies. -/
theorem guarded_of_runChecked {Ok : σ → ε → Prop} {check : σ → ε → Bool}
    (hcheck : ∀ s e, check s e = true → Ok s e) {s s' : σ} {es : List ε}
    (h : M.runChecked check s es = some s') : M.Guarded Ok s es s' := by
  induction es generalizing s with
  | nil => cases h; exact .nil
  | cons e es ih =>
    rw [runChecked] at h
    split at h
    · rename_i hc
      obtain ⟨m, hm, hrest⟩ := Option.bind_eq_some_iff.mp h
      exact .cons (hcheck s e hc) hm (ih hrest)
    · cases h

end Machine

/-! ## Handlers that walk over a list -/

section Walk

variable {σ : Type u} {α : Type v}

/-- `P` holds of every element in the state the walk `f` meets it in. -/
def AllAlong (f : σ → α → σ) (P : σ → α → Prop) : σ → List α → Prop
  | _, [] => True
  | s, x :: xs => P s x ∧ AllAlong f P (f s x) xs

/-- What the body of the walk keeps where `P` holds, the walk keeps. -/
theorem AllAlong.foldl_inv {f : σ → α → σ} {P : σ → α → Prop} {I : σ → Prop}
    (hbody : ∀ s x, I s → P s x → I (f s x)) :
    ∀ {xs : List α} {s : σ}, AllAlong f P s xs → I s → I (xs.foldl f s) := by
  intro xs
  induction xs with
  | nil => intro s _ hs; exact hs
  | cons x xs ih => intro s h hs; exact ih h.2 (hbody s x hs h.1)

theorem AllAlong.append {f : σ → α → σ} {P : σ → α → Prop} {s : σ} {xs ys : List α}
    (h : AllAlong f P s xs) (h' : AllAlong f P (xs.foldl f s) ys) :
    AllAlong f P s (xs ++ ys) := by
  induction xs generalizing s with
  | nil => exact h'
  | cons x xs ih => exact ⟨h.1, ih h.2 h'⟩

/-- What holds along a walk holds along both parts of it. -/
theorem AllAlong.of_append {f : σ → α → σ} {P : σ → α → Prop} {s : σ} {xs ys : List α}
    (h : AllAlong f P s (xs ++ ys)) : AllAlong f P s xs ∧ AllAlong f P (xs.foldl f s) ys := by
  induction xs generalizing s with
  | nil => exact ⟨trivial, h⟩
  | cons x xs ih => exact ⟨⟨h.1, (ih h.2).1⟩, (ih h.2).2⟩

theorem AllAlong.mono {f : σ → α → σ} {P Q : σ → α → Prop} (hpq : ∀ s x, P s x → Q s x) {s : σ}
    {xs : List α} (h : AllAlong f P s xs) : AllAlong f Q s xs := by
  induction xs generalizing s with
  | nil => trivial
  | cons x xs ih => exact ⟨hpq s x h.1, ih h.2⟩

theorem AllAlong.and {f : σ → α → σ} {P Q : σ → α → Prop} {s : σ} {xs : List α}
    (h : AllAlong f P s xs) (h' : AllAlong f Q s xs) : AllAlong f (fun s x => P s x ∧ Q s x) s xs := by
  induction xs generalizing s with
  | nil => trivial
  | cons x xs ih => exact ⟨⟨h.1, h'.1⟩, ih h.2 h'.2⟩

/-- An invariant of the body holds wherever the walk meets an element. -/
theorem AllAlong.with_inv {f : σ → α → σ} {P : σ → α → Prop} {I : σ → Prop}
    (hbody : ∀ s x, I s → P s x → I (f s x)) {s : σ} {xs : List α} (h : AllAlong f P s xs)
    (hs : I s) : AllAlong f (fun s x => I s ∧ P s x) s xs := by
  induction xs generalizing s with
  | nil => trivial
  | cons x xs ih => exact ⟨⟨hs, h.1⟩, ih h.2 (hbody s x hs h.1)⟩

/-- Two properties that mean the same wherever an invariant holds, and that keep it, mean the
same along a walk. -/
theorem AllAlong.congr_inv {f : σ → α → σ} {P Q : σ → α → Prop} {I : σ → Prop}
    (hpq : ∀ s x, I s → (P s x ↔ Q s x)) (hbody : ∀ s x, I s → P s x → I (f s x)) {s : σ}
    (hs : I s) (xs : List α) : AllAlong f P s xs ↔ AllAlong f Q s xs := by
  induction xs generalizing s with
  | nil => exact Iff.rfl
  | cons x xs ih =>
    constructor
    · rintro ⟨hx, hxs⟩
      exact ⟨(hpq s x hs).mp hx, (ih (hbody s x hs hx)).mp hxs⟩
    · rintro ⟨hx, hxs⟩
      have hp := (hpq s x hs).mpr hx
      exact ⟨hp, (ih (hbody s x hs hp)).mpr hxs⟩

/-- What holds of the elements in every state holds of them along a walk. -/
theorem allAlong_of_forall {f : σ → α → σ} {P : σ → α → Prop} {xs : List α}
    (h : ∀ x ∈ xs, ∀ s, P s x) (s : σ) : AllAlong f P s xs := by
  induction xs generalizing s with
  | nil => trivial
  | cons x xs ih =>
    exact ⟨h x List.mem_cons_self s, ih (fun y hy => h y (List.mem_cons_of_mem x hy)) _⟩

instance AllAlong.decidable {f : σ → α → σ} {P : σ → α → Prop} [∀ s, DecidablePred (P s)] :
    ∀ (s : σ) (xs : List α), Decidable (AllAlong f P s xs)
  | _, [] => .isTrue trivial
  | s, x :: xs =>
    have := AllAlong.decidable (f := f) (P := P) (f s x) xs
    inferInstanceAs (Decidable (P s x ∧ AllAlong f P (f s x) xs))

/-- What the body of a walk always keeps, the walk keeps. -/
theorem foldl_inv {f : σ → α → σ} {I : σ → Prop} (hbody : ∀ s x, I s → I (f s x)) :
    ∀ (xs : List α) {s : σ}, I s → I (xs.foldl f s) := by
  intro xs
  induction xs with
  | nil => intro s hs; exact hs
  | cons x xs ih => intro s hs; exact ih (hbody s x hs)

/-- Two loops that may fail, whose bodies go together, go together: both fail or neither does. -/
theorem foldlM_rel {τ : Type u} {R : σ → τ → Prop} {f : σ → α → Option σ} {g : τ → α → Option τ}
    (hbody : ∀ s t x, R s t → Option.Rel R (f s x) (g t x)) (xs : List α) {s : σ} {t : τ}
    (h : R s t) : Option.Rel R (xs.foldlM f s) (xs.foldlM g t) := by
  induction xs generalizing s t with
  | nil => exact .some h
  | cons x xs ih =>
    rw [List.foldlM_cons, List.foldlM_cons]
    have hx := hbody s t x h
    revert hx
    generalize f s x = s'
    generalize g t x = t'
    intro hx
    cases hx with
    | some h' => exact ih h'
    | none => exact .none

end Walk
