import EdsTelepathy.Proof.Copies

/-!
# From one copy to the other

The signals of a step are handled one after the other, and what is still to be handled
excuses the difference that there is. So the handlers bring the address book up to date with
the roster, provided that the signals carry the roster's own records and come in the right
order: a contact is announced before its presence is passed on, and leaves after that.
-/

namespace EdsTelepathy

namespace Signal

/-- The field that a signal carries, if it only carries a field. -/
def carries : Signal → Option Carried
  | flagsChanged _ => some .flags
  | aliasesChanged _ => some .aliasName
  | presencesChanged _ => some .presence
  | avatarTokensChanged _ => some .avatarToken
  | capabilitiesChanged _ => some .capabilities
  | contactInfoChanged _ => some .contactInfo
  | avatarDataChanged _ => some .avatarData
  | _ => none

end Signal

namespace Cl

/-- One of the signals carries the field for the handle. -/
def Told (ss : List Signal) (f : Carried) (x : Nat) : Prop :=
  ∃ s ∈ ss, s.carries = some f ∧ ∃ c ∈ s.contacts, c.handle = x

/-- One of the signals says that the contact of the handle has left. -/
def Left (ss : List Signal) (x : Nat) : Prop :=
  ∃ cs, .contactsRemoved cs ∈ ss ∧ ∃ c ∈ cs, c.handle = x

theorem Told.tail {s : Signal} {ss : List Signal} {f : Carried} {x : Nat} (h : Told (s :: ss) f x)
    (hs : s.carries ≠ some f) : Told ss f x := by
  obtain ⟨s', hin, hf, hc⟩ := h
  rcases List.mem_cons.mp hin with rfl | hin
  · exact absurd hf hs
  · exact ⟨s', hin, hf, hc⟩

theorem Left.tail {s : Signal} {ss : List Signal} {x : Nat} (h : Left (s :: ss) x)
    (hs : ∀ cs, s ≠ .contactsRemoved cs) : Left ss x := by
  obtain ⟨cs, hin, hc⟩ := h
  rcases List.mem_cons.mp hin with rfl | hin
  · exact absurd rfl (hs cs)
  · exact ⟨cs, hin, hc⟩

/-- What a signal of the roster has to be like, given those that follow it. -/
def Relays (cl : Cl) (named : List Nat) (ss : List Signal) : Signal → Prop
  | .contactsAdded cs => ∀ c ∈ cs, cl.Own c
    ∧ ((cl.lookup c.handle).isSome = true ∨ Left ss c.handle)
    ∧ (c.handle ∈ named → Told ss .presence c.handle)
  | .getMembersDone (some cs) => ∀ c ∈ cs, cl.Own c ∧ (cl.lookup c.handle).isSome = true
    ∧ ∀ f, f = .aliasName ∨ f = .presence ∨ f = .flags → Told ss f c.handle
  | .getMembersDone none => True
  | .contactsRemoved _ => True
  | .statusChanged st => st = .online
  | .flagsChanged cs => ∀ c ∈ cs, cl.Own c
  | .aliasesChanged cs => ∀ c ∈ cs, cl.Own c
  | .presencesChanged cs => ∀ c ∈ cs, cl.Own c
  | .avatarTokensChanged cs => ∀ c ∈ cs, cl.Own c
  | .capabilitiesChanged cs => ∀ c ∈ cs, cl.Own c
  | .contactInfoChanged cs => ∀ c ∈ cs, cl.Own c
  | .avatarDataChanged c => cl.Own c

/-- Every signal is as it has to be. -/
def RelaysAll (cl : Cl) (named : List Nat) : List Signal → Prop
  | [] => True
  | s :: ss => cl.Relays named ss s ∧ cl.RelaysAll named ss

end Cl

namespace Backend

open Cl

variable {cl : Cl} {E : Carried → Nat → Prop} {G : Nat → Prop} {rep named : List Nat}

/-- A signal that carries a field is a loop over its contacts. -/
theorem signalEdits_carries {b : Backend} (hm : b.membersReady = true) {s : Signal} {f : Carried}
    (hf : s.carries = some f) : b.signalEdits s = s.contacts.map (.mergeByHandle f) := by
  have hite : ∀ {es : List Edit}, (if b.membersReady then es else []) = es := fun {es} => if_pos hm
  cases s <;> simp only [Signal.carries, Option.some.injEq, reduceCtorEq] at hf
  all_goals subst hf; exact hite

/-- The excuses of the signals that are left, after one that carries a field. -/
theorem mirrors_carried {s : Signal} {ss : List Signal} {f : Carried} (hf : s.carries = some f)
    {b : Book} (h : Book.Mirrors cl (fun g x => E g x ∨ Told (s :: ss) g x)
      (fun x => G x ∨ Left (s :: ss) x) b)
    (hown : ∀ c ∈ s.contacts, cl.Own c) :
    Book.Mirrors cl (fun g x => E g x ∨ Told ss g x) (fun x => G x ∨ Left ss x)
      ((s.contacts.map (Edit.mergeByHandle f)).foldl Book.apply b) := by
  rw [List.foldl_map]
  refine Book.Mirrors.merges (h.excused (fun g x y r _ _ he => .inr ?_) fun x r _ hg => .inr ?_) hown
  · rcases he with he | ⟨s', hin, hf', hc⟩
    · exact .inl (.inl he)
    · rcases List.mem_cons.mp hin with rfl | hin
      · exact .inr ⟨Option.some.inj (hf'.symm.trans hf), hc⟩
      · exact .inl (.inr ⟨s', hin, hf', hc⟩)
  · refine hg.imp_right fun hl => hl.tail fun cs he => ?_
    rw [he] at hf
    cases hf

/-- **One signal**: its handler makes the excuse unnecessary that it was. -/
theorem mirrors_signal {b : Backend} (hm : b.membersReady = true) {s : Signal} {ss : List Signal}
    (h : Book.Mirrors cl (fun g x => E g x ∨ Told (s :: ss) g x)
      (fun x => G x ∨ Left (s :: ss) x) b.book)
    (hrep : ∀ x, x ∉ rep → E .contactInfo x) (hs : cl.Relays named ss s)
    (hok : AllAlong Book.apply (fun book ed => book.Allocated ∧ ed.KeepsCopies rep named book) b.book
      (b.signalEdits s)) :
    Book.Mirrors cl (fun g x => E g x ∨ Told ss g x) (fun x => G x ∨ Left ss x)
      (b.onSignal s).book := by
  have hite : ∀ {es : List Edit}, (if b.membersReady then es else []) = es := fun {es} => if_pos hm
  -- a signal that carries nothing excuses nothing that the rest does not
  have hrest : s.carries = none → (∀ cs, s ≠ .contactsRemoved cs) →
      Book.Mirrors cl (fun g x => E g x ∨ Told ss g x) (fun x => G x ∨ Left ss x) b.book :=
    fun hnone hne => h.excused
      (fun g x y r _ _ he => .inr (he.imp_right fun ht => ht.tail (by rw [hnone]; exact nofun)))
      fun x r _ hg => .inr (hg.imp_right fun hl => hl.tail hne)
  rw [onSignal_book]
  by_cases hcarries : ∃ f, s.carries = some f
  · obtain ⟨f, hf⟩ := hcarries
    rw [signalEdits_carries hm hf]
    refine mirrors_carried hf h fun c hc => ?_
    cases s <;> simp only [Signal.carries, reduceCtorEq] at hf
    case avatarDataChanged => rw [List.mem_singleton.mp hc]; exact hs
    all_goals exact hs c hc
  · cases s with
    | flagsChanged cs => exact absurd ⟨_, rfl⟩ hcarries
    | aliasesChanged cs => exact absurd ⟨_, rfl⟩ hcarries
    | presencesChanged cs => exact absurd ⟨_, rfl⟩ hcarries
    | avatarTokensChanged cs => exact absurd ⟨_, rfl⟩ hcarries
    | capabilitiesChanged cs => exact absurd ⟨_, rfl⟩ hcarries
    | contactInfoChanged cs => exact absurd ⟨_, rfl⟩ hcarries
    | avatarDataChanged c => exact absurd ⟨_, rfl⟩ hcarries
    | statusChanged st =>
      have hst : st = .online := hs
      subst hst
      exact hrest rfl nofun
    | getMembersDone result =>
      cases result with
      | none => exact hrest rfl nofun
      | some cs =>
        -- each of the contacts is reported on its own, and all that follow find the table it left
        have hloop := (allAlong_of_forall (f := Book.apply)
          (P := fun _ ed => ∃ c ∈ cs, ed = Edit.memberReported b.pathSuffix c)
          (fun ed hed _ => by
            obtain ⟨c, hc, rfl⟩ := List.mem_map.mp hed
            exact ⟨c, hc, rfl⟩) b.book).and hok
        refine hloop.foldl_inv (fun book ed hI hP => ?_) (hrest rfl nofun)
        obtain ⟨⟨c, hc, rfl⟩, halloc, hkeeps⟩ := hP
        obtain ⟨hown, hin, htold⟩ := hs c hc
        exact Book.mirrors_memberReported hI halloc hown (.inl hin) (fun f hf => .inr (htold f hf))
          (fun hx => .inl (hrep _ hx)) hkeeps
    | contactsAdded cs =>
      have hedits : b.signalEdits (.contactsAdded cs) = cs.map (Edit.contactAdded b.pathSuffix) := hite
      rw [hedits] at hok ⊢
      have hloop := (allAlong_of_forall (f := Book.apply)
        (P := fun _ ed => ∃ c ∈ cs, ed = Edit.contactAdded b.pathSuffix c)
        (fun ed hed _ => by
          obtain ⟨c, hc, rfl⟩ := List.mem_map.mp hed
          exact ⟨c, hc, rfl⟩) b.book).and hok
      refine hloop.foldl_inv (fun book ed hI hP => ?_) (hrest rfl nofun)
      obtain ⟨⟨c, hc, rfl⟩, halloc, hkeeps⟩ := hP
      obtain ⟨hown, hin, htold⟩ := hs c hc
      exact Book.mirrors_contactAdded hI halloc hown (hin.imp_right .inr) (fun hn => .inr (htold hn))
        (fun hx => .inl (hrep _ hx)) hkeeps
    | contactsRemoved cs =>
      have hedits : b.signalEdits (.contactsRemoved cs)
          = (b.book.byHandle cs).map (Edit.touch · .clearDelete)
            ++ [Edit.deleteContacts (b.book.byHandle cs)] := hite
      rw [hedits, List.foldl_append, List.foldl_map]
      refine Book.mirrors_contactsRemoved (h.excused (fun g x y r _ _ he => .inr ?_)
        fun x r _ hg => .inr ?_)
      · exact he.imp_right fun ht => ht.tail nofun
      · -- whoever left by an earlier signal of the run is excused by that one
        rcases hg with hg | ⟨cs', hin, hc⟩
        · exact .inl (.inl hg)
        · rcases List.mem_cons.mp hin with he | hin
          · cases he
            exact .inr hc
          · exact .inl (.inr ⟨cs', hin, hc⟩)

/-- **All signals**: nothing is left to excuse but what `E` does. -/
theorem mirrors_signals {b : Backend} (hm : b.membersReady = true) {ss : List Signal}
    (h : Book.Mirrors cl (fun g x => E g x ∨ Told ss g x) (Left ss) b.book)
    (hrep : ∀ x, x ∉ rep → E .contactInfo x) (hs : cl.RelaysAll named ss)
    (hok : AllAlong Book.apply (fun book ed => book.Allocated ∧ ed.KeepsCopies rep named book) b.book
      (b.signalsEdits ss)) :
    Book.Mirrors cl E (fun _ => False) (ss.foldl onSignal b).book := by
  have hrun : ∀ (ss : List Signal) {b : Backend}, b.membersReady = true →
      Book.Mirrors cl (fun g x => E g x ∨ Told ss g x) (fun x => False ∨ Left ss x) b.book →
      cl.RelaysAll named ss →
      AllAlong Book.apply (fun book ed => book.Allocated ∧ ed.KeepsCopies rep named book) b.book
        (b.signalsEdits ss) →
      Book.Mirrors cl E (fun _ => False) (ss.foldl onSignal b).book := by
    intro ss
    induction ss with
    | nil =>
      intro b _ h _ _
      refine h.excused (fun g x y r _ _ he => .inr ?_) fun x r _ hg => .inr ?_
      · exact he.resolve_right fun ⟨s, hin, _⟩ => (by cases hin)
      · exact hg.resolve_right fun ⟨cs, hin, _⟩ => (by cases hin)
    | cons s ss ih =>
      intro b hm h hs hok
      unfold signalsEdits at hok
      obtain ⟨hfirst, hrest⟩ := hok.of_append
      rw [← onSignal_book] at hrest
      have hm' : (b.onSignal s).membersReady = true := (sameAgenda_onSignal b s).ready.trans hm
      exact ih hm' (mirrors_signal hm h hrep hs.1 hfirst) hs.2 hrest
  exact hrun ss hm (h.excused (fun _ _ _ _ _ _ he => .inr he) fun _ _ _ hg => .inr (.inr hg)) hs hok

end Backend

end EdsTelepathy
