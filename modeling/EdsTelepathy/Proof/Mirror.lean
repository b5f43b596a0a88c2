import EdsTelepathy.Proof.Passing
import EdsTelepathy.Proof.Indexes

/-!
# The address book mirrors the roster

The roster layer's record of a contact and the address book's are both found by the handle.
Every step of the roster layer tells the address book what it changes, or leaves that to a
closure that is still to run; the other events leave alone what is compared. So the two
agree whenever no closure is left, provided that nothing gets lost on the way.

Information is compared from the time on that it was reported. The run therefore carries
the handles for which that has happened on the present connection.
-/

namespace EdsTelepathy

namespace Cl

/-- What may still be different: lists that are to be passed on, and information not reported. -/
def Excuse (cl : Cl) (rep : List Nat) (f : Carried) (x : Nat) : Prop :=
  (f = .flags ∧ cl.Pending x) ∨ (f = .contactInfo ∧ x ∉ rep)

end Cl

namespace Book

variable {cl : Cl} {G : Nat → Prop}

/-- **One step of the roster**: what it changes is told, or excused afterwards. -/
theorem Mirrors.tells {A C : Nat → Prop} {named rep rep' reports : List Nat}
    {r : Cl × List Signal} {b : Book} (h : Mirrors cl (cl.Excuse rep) (fun _ => False) b)
    (ht : Cl.Tells cl A C named reports r)
    (hgone : ∀ x, (cl.lookup x).isSome = true → r.1.lookup x = none → Cl.Left r.2 x)
    (hA : ∀ x, A x → ∀ y ∈ cl.lookup x, ∀ z ∈ b.handleToContact.lookup x,
      (b.contacts z).flags = (cl.contacts y).flags)
    (hC : ∀ x, C x → ∀ z ∈ b.handleToContact.lookup x, (b.contacts z).contactInfo = none)
    (hrep : ∀ x ∈ rep', x ∈ rep ∨ x ∈ reports) :
    Mirrors r.1 (fun f x => r.1.Excuse rep' f x ∨ Cl.Told r.2 f x) (Cl.Left r.2) b where
  keyed := h.keyed
  within := fun x z hz => by
    -- nobody leaves without being told of
    have hin := (h.within x z hz).resolve_right not_false
    cases hl : r.1.lookup x with
    | some y => exact .inl rfl
    | none => exact .inr (hgone x hin hl)
  agree := fun f x y z hy hz => by
    have hin := (h.within x z hz).resolve_right not_false
    have hold : cl.lookup x = some y := ht.kept x y hin hy
    by_cases hff : f = .flags
    · subst hff
      rcases ht.flags x y hold hy with htold | hp | ⟨hsame, hA'⟩
      · exact .inr (.inr htold)
      · exact .inr (.inl (.inl ⟨rfl, hp⟩))
      · -- the flags are what they were, so the excuse of before is void or still there
        left
        refine Eq.trans ?_ hsame
        rcases h.agree .flags x y z hold hz with ha | ⟨-, hp⟩ | ⟨hno, -⟩
        · exact ha
        · exact hA x (hA' hp) y hold z hz
        · cases hno
    · by_cases hfi : f = .contactInfo
      · -- information that is taken back is not told, and then there is none
        subst hfi
        rcases ht.info x y hold hy with htold | ⟨hnone, hc⟩ | ⟨hsame, hnot⟩
        · exact .inr (.inr htold)
        · exact .inl ((hC x hc z hz).trans hnone.symm)
        · rcases h.agree .contactInfo x y z hold hz with ha | ⟨hno, -⟩ | ⟨-, hnew⟩
          · exact .inl (Eq.trans ha hsame)
          · cases hno
          · refine .inr (.inl (.inr ⟨rfl, fun hin' => ?_⟩))
            exact (hrep x hin').elim hnew hnot
      · rcases ht.fields f x y hff hfi hold hy with htold | ha
        · exact .inr (.inr htold)
        · refine .inl (ha.trans ?_)
          rcases h.agree f x y z hold hz with hb | ⟨hno, -⟩ | ⟨hno, -⟩
          · exact hb
          · exact absurd hno hff
          · exact absurd hno hfi

/-- The calls of a walk do not make anything different that was the same. -/
theorem Mirrors.walkOnly {cl' : Cl} {rep : List Nat} {b : Book}
    (h : Mirrors cl (cl.Excuse rep) G b) (hw : Cl.WalkOnly cl cl') :
    Mirrors cl' (cl'.Excuse rep) G b := by
  obtain ⟨calls, rfl, -⟩ := hw
  refine ⟨h.keyed, h.within, fun f x y z hy hz => (h.agree f x y z hy hz).imp_right fun he => ?_⟩
  exact he.imp_left fun ⟨hf, hp⟩ => ⟨hf, hp.append rfl ⟨calls, rfl⟩⟩

end Book

namespace Backend

/-! ## The condition -/

/-- The flags are the same in both copies. -/
def SameLists (b : Backend) (x : Nat) : Prop :=
  ∀ y ∈ b.tpcl.lookup x, ∀ z ∈ b.book.handleToContact.lookup x,
    (b.book.contacts z).flags = (b.tpcl.contacts y).flags

/-- The address book has no information about the contact. -/
def Uninformed (b : Backend) (x : Nat) : Prop :=
  ∀ z ∈ b.book.handleToContact.lookup x, (b.book.contacts z).contactInfo = none

instance (b : Backend) : DecidablePred b.SameLists := fun x =>
  inferInstanceAs (Decidable (∀ y ∈ b.tpcl.lookup x, ∀ z ∈ b.book.handleToContact.lookup x,
    (b.book.contacts z).flags = (b.tpcl.contacts y).flags))

instance (b : Backend) : DecidablePred b.Uninformed := fun x =>
  inferInstanceAs (Decidable (∀ z ∈ b.book.handleToContact.lookup x,
    (b.book.contacts z).contactInfo = none))

/-- The handles whose information has been reported on this connection, after the event. -/
def reportedAfter (b : Backend) (rep : List Nat) : Event → List Nat
  | .cl (.connectionStatusChanged none) => []
  | .cl e => rep ++ b.tpcl.informedBy e
  | _ => rep

/-- The handles that the event names together with their details. -/
def Event.named : Event → List Nat
  | .cl e => e.named
  | _ => []

/-- The roster layer loses nothing that it has to pass on. -/
def PassesOn (b : Backend) : Event → Prop
  | .cl e => b.tpcl.PassesOn b.SameLists b.Uninformed e
  | _ => True

instance (b : Backend) : DecidablePred b.PassesOn
  | .cl e => inferInstanceAs (Decidable (b.tpcl.PassesOn b.SameLists b.Uninformed e))
  | .phase0 => .isTrue trivial
  | .phase2 => .isTrue trivial
  | .phase3 _ => .isTrue trivial
  | .phase3Next _ => .isTrue trivial
  | .createContact _ => .isTrue trivial
  | .modifyContact _ => .isTrue trivial
  | .removeContact _ => .isTrue trivial
  | .updateContactsIdle => .isTrue trivial
  | .startView _ => .isTrue trivial
  | .stopView _ => .isTrue trivial
  | .inactivity _ => .isTrue trivial
  | .avatarDataSaved _ _ => .isTrue trivial
  | .getContact => .isTrue trivial

/-- The backend, with the handles whose information has been reported on this connection. -/
def informedMachine : Machine (Backend × List Nat) Input where
  step s i := (s.1.step i).map fun b => (b, s.1.reportedAfter s.2 i.event)

/--
The condition on a step: the roster layer loses nothing, and the edits of the address book
keep the entries of the handle index and what the two copies have in common.
-/
def KeepsMirror (s : Backend × List Nat) (i : Input) : Prop :=
  s.1.PassesOn i.event
    ∧ EditsMeet (Edit.KeepsCopies (s.1.reportedAfter s.2 i.event) i.event.named) s.1 i

instance (s : Backend × List Nat) : DecidablePred (KeepsMirror s) := fun _ =>
  inferInstanceAs (Decidable (_ ∧ _))

/-! ## The invariant -/

/-- The two copies agree but for what is excused; before the import nobody has an entry. -/
structure Mirroring (b : Backend) (rep : List Nat) : Prop where
  byHandle : b.tpcl.ByHandle
  early : b.membersReady = false → b.book.handleToContact = ∅ ∧ Unsynced b
  mirrors : Book.Mirrors b.tpcl (b.tpcl.Excuse rep) (fun _ => False) b.book

theorem mirroring_boot (pathSuffix vcardField : String) (db : Db) :
    Mirroring (boot pathSuffix vcardField db) [] where
  byHandle := Cl.byHandle_init
  early := fun _ => ⟨rfl, rfl, rfl, rfl, rfl⟩
  mirrors := Book.mirrors_empty rfl

theorem Mirroring.load {b : Backend} {rep : List Nat} (h : Mirroring b rep) (env : Env) :
    Mirroring (b.load env) rep :=
  ⟨h.byHandle, fun hm => ⟨(h.early hm).1, (h.early hm).2.1, (h.early hm).2.2, (h.early hm).2.3,
    (h.early hm).2.4⟩, h.mirrors⟩

theorem reportedAfter_stay {b : Backend} {rep : List Nat} {e : Cl.Event} {x : Nat}
    (h : x ∈ b.reportedAfter rep (.cl e)) : x ∈ rep ∨ x ∈ b.tpcl.informedBy e := by
  unfold reportedAfter at h
  split at h
  · cases h
  · rename_i heq
    cases heq
    exact List.mem_append.mp h
  · exact .inl h

/-- A disconnect takes the entries with it. -/
theorem handles_disconnect {b : Backend} (hm : b.membersReady = true) (cs : List Contact) :
    ((Cl.farewell cs).foldl onSignal b).book.handleToContact = ∅ := by
  unfold Cl.farewell
  rw [List.foldl_append]
  have hready := (sameAgenda_onSignals b
    (if cs = [] then [] else [.presencesChanged cs, .capabilitiesChanged cs])).ready.trans hm
  generalize List.foldl onSignal b _ = b₁ at hready ⊢
  have heq : b₁.onSignal (.statusChanged .offline) = b₁.tpClStatusChangedCb .offline := if_pos hready
  show (b₁.onSignal (.statusChanged .offline)).book.handleToContact = ∅
  rw [heq]
  rfl

/-- **A step of the roster layer.** -/
theorem mirroring_cl {b : Backend} {rep : List Nat} {e : Cl.Event} {cl : Cl} {signals : List Signal}
    (hsane : Sane b) (h : Mirroring b rep) (hpass : b.PassesOn (.cl e))
    (hok : AllAlong Book.apply (Edit.KeepsCopies (b.reportedAfter rep (.cl e)) e.named) b.book
      (b.edits (.cl e))) (hstep : b.tpcl.step e = some (cl, signals)) :
    Mirroring (signals.foldl onSignal { b with tpcl := cl }) (b.reportedAfter rep (.cl e)) := by
  obtain ⟨hend, hcase⟩ := Cl.handles_step h.byHandle hstep
  have hwalk := walkOnly_onSignals { b with tpcl := cl } signals
  have hby := hend.byHandle.walkOnly hwalk
  have hready := (sameAgenda_onSignals { b with tpcl := cl } signals).ready
  by_cases hm : b.membersReady = true
  · have hearly : ∀ hm' : (signals.foldl onSignal { b with tpcl := cl }).membersReady = false,
        (signals.foldl onSignal { b with tpcl := cl }).book.handleToContact = ∅
          ∧ Unsynced (signals.foldl onSignal { b with tpcl := cl }) := fun hm' =>
      absurd ((hready.trans hm).symm.trans hm') nofun
    refine ⟨hby, hearly, ?_⟩
    -- a disconnect empties both tables, else the step tells what it changed
    by_cases hstay : e = .connectionStatusChanged none ∧ b.tpcl.status = .online
    · obtain ⟨rfl, hon⟩ := hstay
      have hpair : b.tpcl.connectionStatusChangedCb none = (cl, signals) := Option.some.inj hstep
      obtain ⟨cs, hfarewell, -⟩ := Cl.disconnect_online h.byHandle hon
      rw [hpair] at hfarewell
      dsimp only at hfarewell
      subst hfarewell
      exact Book.mirrors_empty (handles_disconnect (b := { b with tpcl := cl }) hm cs)
    · have htells := Cl.tells_step h.byHandle hpass hstay hstep
      have hgone : ∀ x, (b.tpcl.lookup x).isSome = true → cl.lookup x = none → Cl.Left signals x := by
        intro x hx hnone
        obtain ⟨before, cs, after, heq, hc, -⟩ := hcase.resolve_left hstay x hx hnone
        refine ⟨cs, ?_, hc⟩
        have heq' : signals = before ++ .contactsRemoved cs :: after := heq
        rw [heq']
        exact List.mem_append_right _ List.mem_cons_self
      have htold := h.mirrors.tells htells hgone (fun _ ha => ha) (fun _ hc => hc)
        fun _ hx => reportedAfter_stay hx
      have halong := (edits_allocated hsane (.cl e)).and hok
      unfold edits at halong
      dsimp only at halong
      rw [hstep] at halong
      refine Book.Mirrors.walkOnly (mirrors_signals (b := { b with tpcl := cl }) hm htold
        (fun x hx => .inr ⟨rfl, hx⟩) htells.relays ?_) hwalk
      exact halong.mono fun _ _ hP => ⟨hP.1.1.1, hP.2⟩
  · -- nobody listens before the import, and there are no entries by handle
    have hm : b.membersReady = false := Bool.not_eq_true _ ▸ hm
    obtain ⟨ht, hunsynced⟩ := h.early hm
    obtain ⟨heq, hunsynced'⟩ := unsynced_cl hunsynced hm hstep
    rw [heq]
    exact ⟨hend.byHandle, fun _ => ⟨ht, hunsynced'⟩, Book.mirrors_empty ht⟩

/-- **Any other step** leaves alone what is compared. -/
theorem mirroring_request {b b' : Backend} {rep named : List Nat} {e : Event} (hsane : Sane b)
    (h : Mirroring b rep) (he : ∀ ce, e ≠ .cl ce)
    (hok : AllAlong Book.apply (Edit.KeepsCopies rep named) b.book (b.edits e))
    (hs : b.take e = some b') : Mirroring b' rep := by
  have hwalk := walkOnly_take he hs
  have hmirrors : Book.Mirrors b.tpcl (b.tpcl.Excuse rep) (fun _ => False) b'.book :=
    take_book_inv (I := Book.Mirrors b.tpcl (b.tpcl.Excuse rep) fun _ => False)
      (P := fun book ed => ed.Requested b.canMerge book ∧ ed.KeepsCopies rep named book)
      (fun _ _ hI halloc _ hP _ => hI.request halloc hP.1 hP.2) hsane h.mirrors
      ((edits_requested he).and hok) hs
  refine ⟨h.byHandle.walkOnly hwalk, fun hm => ?_, hmirrors.walkOnly hwalk⟩
  have hm₀ : b.membersReady = false := by
    cases hr : b.membersReady with
    | false => rfl
    | true => rw [ready_take hs hr] at hm; cases hm
  obtain ⟨ht, hunsynced⟩ := h.early hm₀
  have hquiet : b.canMerge = false := by
    unfold canMerge
    rw [hunsynced.running, List.isEmpty_nil, Bool.not_true, Bool.and_false]
  refine ⟨?_, (unsynced_take hunsynced hm₀ hs).resolve_left (by rw [hm]; exact nofun)⟩
  refine take_book_inv (I := fun book : Book => book.handleToContact = ∅)
    (P := Edit.Requested b.canMerge) (fun book ed hI _ _ hP _ => ?_) hsane ht (edits_requested he) hs
  rw [hquiet] at hP
  exact Book.handles_requested hI hP

theorem mirroring_step {b b' : Backend} {rep : List Nat} {i : Input} (hsane : Sane b)
    (h : Mirroring b rep) (hok : KeepsMirror (b, rep) i) (hs : b.step i = some b') :
    Mirroring b' (b.reportedAfter rep i.event) := by
  obtain ⟨hpass, hedits⟩ := hok
  unfold EditsMeet at hedits
  have hs' : (b.load i.env).take i.event = some b' := hs
  generalize i.event = event at hpass hedits hs' ⊢
  by_cases hcl : ∃ e, event = .cl e
  · obtain ⟨e, rfl⟩ := hcl
    obtain ⟨⟨cl, signals⟩, hstep, rfl⟩ := Option.map_eq_some_iff.mp hs'
    exact mirroring_cl (hsane.load i.env) (h.load i.env) hpass hedits hstep
  · have hsame : b.reportedAfter rep event = rep := by
      cases event with
      | cl e => exact absurd ⟨e, rfl⟩ hcl
      | _ => rfl
    have hedits' : AllAlong Book.apply (Edit.KeepsCopies rep event.named) b.book
        ((b.load i.env).edits event) := by
      dsimp only at hedits
      rw [hsame] at hedits
      exact hedits
    rw [hsame]
    exact mirroring_request (hsane.load i.env) (h.load i.env) (fun e he => hcl ⟨e, he⟩) hedits' hs'

/-! ## Runs -/

/-- No closure is pending, of `MembersChanged` or of a reading of the roster. -/
def Settled (b : Backend) : Prop := ∀ p ∈ b.tpcl.calls, p.2.isWalk = false ∧ p.2.closure = none

instance (b : Backend) : Decidable b.Settled :=
  inferInstanceAs (Decidable (∀ p ∈ b.tpcl.calls, _ ∧ _))

/-- The address book has what the roster has, of every contact that both have under a handle. -/
structure Mirrored (b : Backend) (rep : List Nat) : Prop where
  agree : ∀ x y z, b.tpcl.lookup x = some y → b.book.handleToContact.lookup x = some z →
    ∀ f : Carried, (f = .contactInfo → x ∈ rep) → f.Agrees (b.tpcl.contacts y) (b.book.contacts z)
  within : ∀ x z, b.book.handleToContact.lookup x = some z → (b.tpcl.lookup x).isSome = true

/--
**The two copies of the contact list agree.**

In every run that loses nothing on the way, whenever no closure is pending: under every handle
that both have, the copies have the same alias, presence, list flags and capabilities, and the
same information once that was reported; and every handle of the address book is in the roster.
-/
theorem copies_agree {pathSuffix vcardField : String} {db : Db} {is : List Input} {b : Backend}
    {rep : List Nat}
    (hrun : informedMachine.Guarded KeepsMirror (boot pathSuffix vcardField db, []) is (b, rep))
    (hsettled : b.Settled) : b.Mirrored rep := by
  have hinv : Sane b ∧ Mirroring b rep :=
    hrun.inv (I := fun s => Sane s.1 ∧ Mirroring s.1 s.2) (fun s i s' hI hok hs => by
      obtain ⟨b', hstep, rfl⟩ := Option.map_eq_some_iff.mp hs
      exact ⟨sane_step hI.1 hstep, mirroring_step hI.1 hI.2 hok hstep⟩)
      ⟨sane_boot pathSuffix vcardField db, mirroring_boot pathSuffix vcardField db⟩
  have hm := hinv.2.mirrors
  have hquiet : ∀ x, ¬ b.tpcl.Pending x := by
    rintro x (howed | ⟨r, -, p, hp, k, hk, -⟩)
    · obtain ⟨p, hp, hw⟩ := List.countP_pos_iff.mp howed
      rw [(hsettled p hp).1] at hw
      cases hw
    · rw [(hsettled p hp).2] at hk
      cases hk
  refine ⟨fun x y z hy hz f hf => ?_, fun x z hz => (hm.within x z hz).resolve_right not_false⟩
  rcases hm.agree f x y z hy hz with ha | ⟨-, hp⟩ | ⟨hfi, hnot⟩
  · exact ha
  · exact absurd hp (hquiet x)
  · exact absurd (hf hfi) hnot

/-- One contact: its alias and its information change, and it goes onto another list. -/
def annChanges : List Input :=
  firstSync ++
    [{ event := .cl (.details (.aliasesChanged [(7, "Ann")])) },
     { event := .cl (.details (.contactInfoChanged 7 (some "NOTE:x"))) },
     { event := .cl (.membersChanged .publish [7] [] [] []) },
     { event := .cl (.done 4 true) }]

theorem copies_agree_ann :
    ∃ b rep, informedMachine.Guarded KeepsMirror (boot "acct" "X-JABBER" {}, []) annChanges (b, rep)
      ∧ b.Settled ∧ b.tpcl.lookup 7 = some 0 ∧ b.book.handleToContact.lookup 7 = some 0 ∧ rep = [7]
      ∧ b.Mirrored rep := by
  have hrun : ((informedMachine.runChecked (fun s i => decide (KeepsMirror s i))
      (boot "acct" "X-JABBER" {}, []) annChanges).map fun s => decide (s.1.Settled
        ∧ s.1.tpcl.lookup 7 = some 0 ∧ s.1.book.handleToContact.lookup 7 = some 0
        ∧ s.2 = [7])) = some true := by decide +kernel
  obtain ⟨⟨b, rep⟩, hb, hfacts⟩ := Option.map_eq_some_iff.mp hrun
  obtain ⟨hsettled, hroster, hbook, hrep⟩ := of_decide_eq_true hfacts
  have hg : informedMachine.Guarded KeepsMirror _ _ (b, rep) :=
    Machine.guarded_of_runChecked (fun _ _ hc => of_decide_eq_true hc) hb
  exact ⟨b, rep, hg, hsettled, hroster, hbook, hrep, copies_agree hg hsettled⟩

/-- The information about a contact is reported, and taken back. -/
def infoTakenBack : List Input :=
  firstSync ++
    [{ event := .cl (.details (.contactInfoChanged 7 (some "NOTE:x"))) },
     { event := .cl (.details (.contactInfoChanged 7 none)) }]

/-- The address book keeps it. -/
theorem info_taken_back_kept :
    ∃ b rep, informedMachine.run (boot "acct" "X-JABBER" {}, []) infoTakenBack = some (b, rep)
      ∧ b.Settled ∧ b.tpcl.isConnected = true ∧ 7 ∈ rep
      ∧ b.tpcl.lookup 7 = some 0 ∧ b.book.handleToContact.lookup 7 = some 0
      ∧ (b.tpcl.contacts 0).contactInfo = none
      ∧ (b.book.contacts 0).contactInfo = some "NOTE:x" := by
  have hrun : ((informedMachine.run (boot "acct" "X-JABBER" {}, []) infoTakenBack).map fun s =>
      decide (s.1.Settled ∧ s.1.tpcl.isConnected = true ∧ 7 ∈ s.2
        ∧ s.1.tpcl.lookup 7 = some 0 ∧ s.1.book.handleToContact.lookup 7 = some 0
        ∧ (s.1.tpcl.contacts 0).contactInfo = none
        ∧ (s.1.book.contacts 0).contactInfo = some "NOTE:x")) = some true := by decide +kernel
  obtain ⟨⟨b, rep⟩, hb, hfacts⟩ := Option.map_eq_some_iff.mp hrun
  exact ⟨b, rep, hb, of_decide_eq_true hfacts⟩

end Backend

end EdsTelepathy
