import EdsTelepathy.Proof.Readded
import EdsTelepathy.Proof.Waiting

/-!
# What phase 3 asks for

Phase 3 asks the server to put a contact on lists that are pending for it, to take it off lists
that an update does not name, and, where its removal waits, to take it off all of them. Between
two requests of the address book no list becomes pending for a contact and no update does, so
what phase 3 will never ask for can be read off the contact when the request is done. What it
asks for a contact names the handle that the contact has or gets, and no other; and nothing but
phase 3 changes the lists then.
-/

namespace EdsTelepathy

/-- The request asks to put the handle on one of these lists. -/
def Request.Adds (h : Nat) : Request → Prop
  | .addMembers l hs => l ∈ rosterLists ∧ h ∈ hs
  | _ => False

/-- The request asks to take the handle off one of these lists. -/
def Request.Removes (h : Nat) : Request → Prop
  | .removeMembers l hs => l ∈ rosterLists ∧ h ∈ hs
  | _ => False

/-! ## Pending bits that only calm down -/

/-- No list is pending and no update is that was not; and an update asks for as many lists. -/
structure Calmer (p p' : Flags) : Prop where
  update : p'.has scheduleUpdateFlags = true → p.has scheduleUpdateFlags = true
  lists : ∀ l ∈ rosterLists, memberships p' l = true → memberships p l = true
  kept : p'.has scheduleUpdateFlags = true →
    ∀ l ∈ rosterLists, memberships p l = true → memberships p' l = true

namespace Calmer

theorem refl (p : Flags) : Calmer p p := ⟨id, fun _ _ => id, fun _ _ _ => id⟩

theorem trans {p p' p'' : Flags} (h : Calmer p p') (h' : Calmer p' p'') : Calmer p p'' :=
  ⟨fun hu => h.update (h'.update hu), fun l hl hm => h.lists l hl (h'.lists l hl hm),
    fun hu l hl hm => h'.kept hu l hl (h.kept (h'.update hu) l hl hm)⟩

/-- Only other bits differ. -/
theorem of_sameOff {v p p' : Flags} (h : BitVec.SameOff v p p')
    (hu : v &&& scheduleUpdateFlags = 0#32) (hl : ∀ l ∈ rosterLists, v &&& l.flag .current = 0#32) :
    Calmer p p' :=
  ⟨(h _ hu).symm.trans, fun l hin => (h _ (hl l hin)).symm.trans, fun _ l hin => (h _ (hl l hin)).trans⟩

/-- No update is pending any more. -/
theorem of_done {p p' : Flags} (hu : p'.has scheduleUpdateFlags = false)
    (hl : ∀ l ∈ rosterLists, memberships p' l = true → memberships p l = true) : Calmer p p' :=
  ⟨fun h => absurd (hu.symm.trans h) Bool.false_ne_true, hl,
    fun h => absurd (hu.symm.trans h) Bool.false_ne_true⟩

end Calmer

namespace Contact

theorem calmer_updated (c : Contact) (unblocked : Bool) :
    Calmer c.pendingFlags (c.updated unblocked).pendingFlags :=
  .of_done (c.updated_asks_nothing unblocked) fun l _ =>
    (c.sameOff_updated unblocked _ (by cases l <;> decide)).symm.trans

theorem calmer_resubmitted (e c : Contact) (unblocked : Bool) :
    Calmer e.pendingFlags ((e.mergeSubmitted c).updated unblocked).pendingFlags := by
  have hother : ∀ l ∈ rosterLists, (mergeBits ||| deny) &&& l.flag .current = 0#32 := by decide
  exact .of_done ((e.mergeSubmitted c).updated_asks_nothing unblocked) fun l hl hm =>
    (e.sameOff_mergeSubmitted c _ (hother l hl)).symm.trans
      (((e.mergeSubmitted c).calmer_updated unblocked).lists l hl hm)

end Contact

theorem Touch.calmer (t : Touch) (c : Contact) : Calmer c.pendingFlags (t.apply c).pendingFlags := by
  cases t with
  | clearDelete =>
    exact .of_sameOff (.clear _ (a := scheduleDelete) (v := scheduleDelete) (by decide)) (by decide)
      (by decide)
  | updated unblocked => exact c.calmer_updated unblocked
  | submitted c' unblocked => exact c.calmer_resubmitted c' unblocked
  | removeTokens tokens => exact .of_sameOff (c.sameOff_removeTokens tokens) (by decide) (by decide)
  | masterUidsStored =>
    exact .of_sameOff (.clear _ (a := scheduleUpdateMasterUid) (v := scheduleUpdateMasterUid)
      (by decide)) (by decide) (by decide)
  | nothingPending =>
    have hnone : ∀ m, c.nothingPending.pendingFlags.has m = false := BitVec.zero_has
    exact .of_done (hnone _) fun l _ hm => absurd ((hnone _).symm.trans hm) Bool.false_ne_true

/-! ## What the server makes of a request to add -/

/-- The request to add a contact sets its handle and updates its name, at most. -/
theorem Cl.runAddContact_contact (cl : Cl) (c : Contact) (w : Wire) :
    ∃ h n, (cl.runAddContact c w).2.1 = ({ c with handle := h } : Contact).updateName n := by
  have hsame : c = ({ c with handle := c.handle } : Contact).updateName none := rfl
  unfold runAddContact
  dsimp only
  split
  · split
    · split
      · split
        · exact ⟨_, _, rfl⟩
        · exact ⟨_, none, rfl⟩
      · exact ⟨_, none, hsame⟩
    · exact ⟨_, none, hsame⟩
  · exact ⟨_, none, hsame⟩

namespace Contact

theorem sameOff_updateName (c : Contact) (n : Option String) :
    BitVec.SameOff scheduleUpdateVariants c.pendingFlags (c.updateName n).pendingFlags := by
  unfold updateName
  split
  · exact .refl _ _
  · split
    · exact .refl _ _
    · split
      · exact .or _ (by decide)
      · exact .refl _ _

theorem memberships_updateName (c : Contact) (n : Option String) (l : ListId) :
    memberships (c.updateName n).pendingFlags l = memberships c.pendingFlags l :=
  c.sameOff_updateName n _ (by cases l <;> decide)

theorem calmer_markInvalid (c : Contact) : Calmer c.pendingFlags c.markInvalid.pendingFlags := by
  refine .of_done (BitVec.and_has_false (BitVec.clear_has_self _ _)) fun l _ hm => ?_
  exact BitVec.has_of_and_has (BitVec.has_of_and_has hm)

end Contact

theorem Backend.calmer_runAddContact (b : Backend) (c : Contact) :
    Calmer c.pendingFlags (b.runAddContact c).2.1.pendingFlags := by
  obtain ⟨h, n, hcl⟩ := b.tpcl.runAddContact_contact c b.wire
  have hcalm : Calmer c.pendingFlags (b.tpcl.runAddContact c b.wire).2.1.pendingFlags := by
    rw [hcl]
    exact .of_sameOff (({ c with handle := h } : Contact).sameOff_updateName n) (by decide) (by decide)
  unfold runAddContact
  split
  · exact .refl _
  · generalize b.tpcl.runAddContact c b.wire = p at hcalm
    obtain ⟨_ | ⟨_ | _⟩, c', w⟩ := p
    · exact hcalm
    · exact hcalm
    · exact hcalm.trans c'.calmer_markInvalid

/-! ## One edit -/

/-- What a completed or failed request leaves asks for no more than the contact did. -/
def Edit.CalmAnswer (b : Book) : Edit → Prop
  | .addDone r c => Calmer (b.contacts r).pendingFlags c.pendingFlags
  | .addFailed r c => Calmer (b.contacts r).pendingFlags c.pendingFlags
  | .modified _ _ _ _ _ => False
  | _ => True

namespace Book

theorem calmer_modify {b : Book} {x r : Nat} {f : Contact → Contact}
    (hf : Calmer (b.contacts r).pendingFlags (f (b.contacts r)).pendingFlags) :
    Calmer (b.contacts x).pendingFlags ((b.modify r f).contacts x).pendingFlags := by
  by_cases he : x = r
  · subst he
    rw [modify_contacts_self]
    exact hf
  · rw [modify_contacts_of_ne he]
    exact .refl _

/-- **An edit that is no modification makes no list pending**, and no update of the lists. -/
theorem calmer_apply {b : Book} {e : Edit} (hok : e.CalmAnswer b) {x : Nat} (hx : x < b.next) :
    Calmer (b.contacts x).pendingFlags ((b.apply e).contacts x).pendingFlags := by
  have hclear : ∀ c : Contact, Calmer c.pendingFlags c.clearAdd.pendingFlags := fun c =>
    .of_sameOff (.clear _ (a := scheduleAdd) (v := scheduleAdd) (by decide)) (by decide) (by decide)
  rcases contacts_apply e hx with heq | hw
  · rw [heq]
    exact .refl _
  generalize (b.apply e).contacts x = c' at hw
  cases hw with
  | seen _ => exact .refl _
  | confirmed _ => exact hclear (b.contacts x)
  | @copied f cIn _ =>
    rw [(f.sameEntry cIn _).pendingFlags]
    exact .refl _
  | touched t => exact t.calmer _
  | modified ec vcardField sent stored => exact hok.elim
  -- the removal is all that is pending afterwards
  | scheduled =>
    have hnone : ∀ m, scheduleDelete &&& m = 0#32 →
        (b.contacts x).nothingPending.markDelete.pendingFlags.has m = false := fun m hm =>
      (BitVec.or_has_of_disjoint hm).trans (BitVec.zero_has m)
    refine .of_done (hnone _ (by decide)) fun l _ hm => ?_
    exact absurd ((hnone _ (by cases l <;> decide)).symm.trans hm) Bool.false_ne_true
  | added c =>
    have hc : Calmer (b.contacts x).pendingFlags c.pendingFlags := hok
    exact hc.trans (hclear c)
  | @mergedInto r c _ =>
    have hc : Calmer (b.contacts r).pendingFlags c.pendingFlags := hok
    exact (calmer_modify (f := fun _ => c.clearAdd) (hc.trans (hclear c))).trans
      (.of_sameOff (Contact.sameOff_mergeFrom _ _) (by decide) (by decide))
  | failed c => exact hok
  | removed =>
    exact .of_sameOff (.clear _ (a := scheduleDelete) (v := scheduleDelete) (by decide)) (by decide)
      (by decide)

end Book

namespace Backend

theorem calmAnswer_phase3 (b : Backend) (p : Phase3) :
    AllAlong Book.apply Edit.CalmAnswer b.book (b.phase3Edits p) := by
  unfold phase3Edits
  split
  · exact ⟨trivial, trivial⟩
  · rename_i r _ _ _
    have hcalm := b.calmer_runAddContact (b.book.contacts r)
    generalize b.runAddContact (b.book.contacts r) = q at hcalm
    obtain ⟨_ | _, c, w⟩ := q
    · exact ⟨hcalm, trivial⟩
    · exact ⟨hcalm, trivial⟩
  · split
    · exact ⟨trivial, trivial⟩
    · trivial
  · trivial

theorem calmAnswer_edits {b : Backend} {e : Event} (he : e.NoRequest) :
    AllAlong Book.apply Edit.CalmAnswer b.book (b.edits e) := by
  by_cases hnext : ∃ order, e = .phase3Next order
  · obtain ⟨order, rfl⟩ := hnext
    unfold edits
    dsimp only
    split
    · exact calmAnswer_phase3 b _
    · trivial
  · refine allAlong_of_forall (fun ed hed book => ?_) _
    -- the answer to a request to add comes in phase 3 only
    have hstaged : Edit.Staged ed → ∃ c, ed = .importContact c := fun hst => by
      rcases mem_edits hed hst with ⟨-, c, -, rfl⟩ | ⟨_, _, _, _, _, rfl, -⟩ | ⟨order, _, _, rfl, -⟩
      · exact ⟨c, rfl⟩
      · exact he.elim
      · exact absurd ⟨order, rfl⟩ hnext
    cases ed with
    | addDone r c => obtain ⟨_, h⟩ := hstaged trivial; cases h
    | addFailed r c => obtain ⟨_, h⟩ := hstaged trivial; cases h
    | modified r ec vcardField sent stored => obtain ⟨_, h⟩ := hstaged trivial; cases h
    | _ => trivial

/-- **Without a request no list becomes pending for a contact**, and no update of the lists. -/
theorem calmer_step {b b' : Backend} {i : Input} (hsane : Sane b) (hi : i.event.NoRequest)
    (hs : b.step i = some b') {r : Nat} (hr : r < b.book.next) :
    Calmer (b.book.contacts r).pendingFlags (b'.book.contacts r).pendingFlags := by
  have hinv : r < b'.book.next
      ∧ Calmer (b.book.contacts r).pendingFlags (b'.book.contacts r).pendingFlags :=
    take_book_inv (b := b.load i.env)
      (I := fun book => r < book.next
        ∧ Calmer (b.book.contacts r).pendingFlags (book.contacts r).pendingFlags)
      (fun book ed hI _ _ hok _ => ⟨Nat.lt_of_lt_of_le hI.1 (Book.next_apply book ed),
        hI.2.trans (Book.calmer_apply hok hI.1)⟩)
      (hsane.load i.env) ⟨hr, .refl _⟩ (calmAnswer_edits (b := b.load i.env) hi) hs
  exact hinv.2

end Backend

/-! ## What a stage finds -/

namespace Backend

/-- Whatever stage the object waits for, it is as the stage is to find it. -/
def Meets (Q : Phase3Stage → Contact → Prop) (b : Backend) (x : Nat) : Prop :=
  ∀ stage, b.book.Waits b.tasks stage x → Q stage (b.book.contacts x)

/-- **Until the next request nobody waits for a stage that finds him worse**, if calmer is better. -/
theorem meets_run {Q : Phase3Stage → Contact → Prop}
    (hQ : ∀ stage c c', Q stage c → Calmer c.pendingFlags c'.pendingFlags → Q stage c')
    {b b' : Backend} {is : List Input} {x : Nat} (hsane : Sane b) (himported : b.phase0Queued = false)
    (h : b.Meets Q x) (hrun : machine.Guarded (fun _ i => i.event.NoRequest) b is b') :
    b'.Meets Q x := by
  have hinv : Sane b' ∧ b'.phase0Queued = false ∧ b'.Meets Q x := by
    refine hrun.inv (I := fun s => Sane s ∧ s.phase0Queued = false ∧ s.Meets Q x)
      (fun s i s' hI hok hs => ?_) ⟨hsane, himported, h⟩
    obtain ⟨hsane, himported, h⟩ := hI
    have himport : i.event ≠ .phase0 := by
      intro he
      have htake : (s.load i.env).take i.event = some s' := hs
      rw [he] at htake
      unfold take at htake
      rw [if_neg (show ¬ (s.load i.env).phase0Queued = true from himported ▸ Bool.false_ne_true)] at htake
      cases htake
    refine ⟨sane_step hsane hs, (ready_eq_take hs himport).2.trans himported, fun stage hw => ?_⟩
    -- who waits has waited before, so he was in the book
    have hbefore := waits_step hsane hok himport hs hw
    exact hQ stage _ _ (h stage hbefore) (calmer_step hsane hok hs (waits_lt hsane hbefore))
  exact hinv.2.2

end Backend

/-! ## What a stage asks for -/

namespace Contact

/-- No list is pending and no update of the lists. -/
structure Idle (c : Contact) : Prop where
  update : c.pendingFlags.has scheduleUpdateFlags = false
  lists : ∀ l ∈ rosterLists, memberships c.pendingFlags l = false

/-- If an update is pending, all the lists are. -/
def Steady (c : Contact) : Prop :=
  c.pendingFlags.has scheduleUpdateFlags = true → ∀ l ∈ rosterLists, memberships c.pendingFlags l = true

/-- The lists that a stage of phase 3 asks to put the contact on. -/
def AsksToAdd (c : Contact) : Phase3Stage → ListId → Prop
  | .update, l => c.pendingFlags.has scheduleUpdateFlags = true ∧ memberships c.pendingFlags l = true
  | .add, l => memberships c.pendingFlags l = true
  | .delete, _ => False

/-- The lists that a stage of phase 3 asks to take the contact off. -/
def AsksToRemove (c : Contact) : Phase3Stage → ListId → Prop
  | .update, l => c.pendingFlags.has scheduleUpdateFlags = true ∧ memberships c.pendingFlags l = false
  | .add, _ => False
  | .delete, _ => True

/-- At this stage phase 3 puts the contact on none of the lists. -/
def AddsNothing (stage : Phase3Stage) (c : Contact) : Prop := ∀ l ∈ rosterLists, ¬ c.AsksToAdd stage l

/-- At this stage phase 3 takes the contact off none of the lists. -/
def LosesNothing (stage : Phase3Stage) (c : Contact) : Prop :=
  ∀ l ∈ rosterLists, ¬ c.AsksToRemove stage l

theorem Idle.addsNothing {c : Contact} (h : c.Idle) (stage : Phase3Stage) : AddsNothing stage c := by
  intro l hl hasks
  cases stage with
  | update => exact absurd ((h.lists l hl).symm.trans hasks.2) Bool.false_ne_true
  | add => exact absurd ((h.lists l hl).symm.trans hasks) Bool.false_ne_true
  | delete => exact hasks

theorem Steady.losesNothing {c : Contact} (h : c.Steady) {stage : Phase3Stage} (hs : stage ≠ .delete) :
    LosesNothing stage c := by
  intro l hl hasks
  cases stage with
  | update => exact absurd (hasks.2.symm.trans (h hasks.1 l hl)) Bool.false_ne_true
  | add => exact hasks
  | delete => exact hs rfl

theorem Idle.calmer {c c' : Contact} (h : c.Idle) (hc : Calmer c.pendingFlags c'.pendingFlags) :
    c'.Idle := by
  refine ⟨?_, fun l hl => ?_⟩
  · rw [← Bool.not_eq_true]
    exact fun hu => absurd (h.update.symm.trans (hc.update hu)) Bool.false_ne_true
  · rw [← Bool.not_eq_true]
    exact fun hm => absurd ((h.lists l hl).symm.trans (hc.lists l hl hm)) Bool.false_ne_true

theorem addsNothing_calmer (stage : Phase3Stage) (c c' : Contact) (h : AddsNothing stage c)
    (hc : Calmer c.pendingFlags c'.pendingFlags) : AddsNothing stage c' := by
  intro l hl hasks
  refine h l hl ?_
  cases stage with
  | update => exact ⟨hc.update hasks.1, hc.lists l hl hasks.2⟩
  | add => exact hc.lists l hl hasks
  | delete => exact hasks

theorem losesNothing_calmer (stage : Phase3Stage) (c c' : Contact) (h : LosesNothing stage c)
    (hc : Calmer c.pendingFlags c'.pendingFlags) : LosesNothing stage c' := by
  intro l hl hasks
  refine h l hl ?_
  cases stage with
  | update =>
    refine ⟨hc.update hasks.1, ?_⟩
    rw [← Bool.not_eq_true]
    exact fun hm => absurd (hasks.2.symm.trans (hc.kept hasks.1 l hl hm)) Bool.false_ne_true
  | add => exact hasks
  | delete => exact hasks

end Contact

/-! ## What is sent -/

/-- A request that a stage of phase 3 makes: on these lists it asks what the stage is for. -/
def Request.Serves (stage : Phase3Stage) (c : Contact) (mine : Nat → Prop) : Request → Prop
  | .addMembers l hs => l ∈ rosterLists → ∀ h ∈ hs, mine h ∧ c.AsksToAdd stage l
  | .removeMembers l hs => l ∈ rosterLists → ∀ h ∈ hs, mine h ∧ c.AsksToRemove stage l
  | _ => True

theorem Request.serves_other {stage : Phase3Stage} {c : Contact} {mine : Nat → Prop} {q : Request}
    (hadd : ∀ l hs, q ≠ .addMembers l hs) (hremove : ∀ l hs, q ≠ .removeMembers l hs) :
    q.Serves stage c mine := by
  cases q with
  | addMembers l hs => exact absurd rfl (hadd l hs)
  | removeMembers l hs => exact absurd rfl (hremove l hs)
  | _ => trivial

/-- Only requests of this kind are sent. -/
def Wire.SendsOnly (P : Request → Prop) (w w' : Wire) : Prop := ∀ q ∈ w'.sent, q ∈ w.sent ∨ P q

namespace Wire.SendsOnly

variable {P : Request → Prop}

theorem refl (w : Wire) : SendsOnly P w w := fun _ hq => .inl hq

theorem trans {w w' w'' : Wire} (h : SendsOnly P w w') (h' : SendsOnly P w' w'') :
    SendsOnly P w w'' := fun q hq => (h' q hq).elim (h q) .inr

theorem ask (w : Wire) {q : Request} (hq : P q) : SendsOnly P w (w.ask q).2 := by
  intro x hx
  rcases List.mem_append.mp hx with hold | hnew
  · exact .inl hold
  · rw [List.mem_singleton.mp hnew]
    exact .inr hq

theorem all {w w' : Wire} (h : SendsOnly P w w') (hnone : w.sent = []) : ∀ q ∈ w'.sent, P q :=
  fun q hq => (h q hq).resolve_left (hnone ▸ List.not_mem_nil)

end Wire.SendsOnly

namespace Cl

theorem mem_handleIf {p : Bool} {h k : Nat} (hk : k ∈ handleIf p h) : p = true ∧ k = h := by
  unfold handleIf at hk
  split at hk
  · exact ⟨‹_›, List.mem_singleton.mp hk⟩
  · cases hk

variable {P : Request → Prop}

theorem sendsOnly_addContactLoop {c : Contact} (hflags : ∀ l, P (.getGroupFlags l))
    (hadd : ∀ l, memberships c.pendingFlags l = true → P (.addMembers l [c.handle]))
    (channels : ListId → Bool) (ls : List ListId) (connected : Bool) (w : Wire) :
    w.SendsOnly P (addContactLoop channels c ls connected w).2 := by
  induction ls generalizing connected w with
  | nil => exact .refl w
  | cons l ls ih =>
    unfold addContactLoop
    dsimp only
    split
    · rename_i hgo
      have hlist : memberships c.pendingFlags l = true := (Bool.and_eq_true_iff.mp hgo).1
      have hasked : w.SendsOnly P (w.ask (.getGroupFlags l)).2 := .ask w (hflags l)
      split
      · split
        · have hadded := hasked.trans (.ask (w.ask (.getGroupFlags l)).2 (hadd l hlist))
          split
          · exact hadded.trans (ih _ _)
          · exact hadded
        · exact hasked.trans (ih _ _)
      · exact hasked
    · exact ih _ _

/-- Whoever is asked to be put on a list has the handle that the contact is left with. -/
theorem sendsOnly_runAddContact {c : Contact} {mine : Nat → Prop} {cl : Cl} {w : Wire}
    (hmine : mine (cl.runAddContact c w).2.1.handle)
    (hother : ∀ q, (∀ l hs, q ≠ .addMembers l hs) → (∀ l hs, q ≠ .removeMembers l hs) → P q)
    (hadd : ∀ l h, memberships c.pendingFlags l = true → mine h → P (.addMembers l [h])) :
    w.SendsOnly P (cl.runAddContact c w).2.2 := by
  have hhandles : w.SendsOnly P (w.ask (.requestHandles c.name)).2 :=
    .ask w (hother _ (fun _ _ h => by cases h) (fun _ _ h => by cases h))
  unfold runAddContact at hmine ⊢
  dsimp only at hmine ⊢
  by_cases hconn : cl.isConnected
  · rw [if_pos hconn] at hmine ⊢
    by_cases hok : (w.ask (.requestHandles c.name)).1.ok
    · rw [if_pos hok] at hmine ⊢
      by_cases hstill : (w.ask (.requestHandles c.name)).1.connected
      · rw [if_pos hstill] at hmine ⊢
        have hinspected := hhandles.trans (.ask (w.ask (.requestHandles c.name)).2
          (q := .inspectHandles (w.ask (.requestHandles c.name)).1.handle)
          (hother _ (fun _ _ h => by cases h) (fun _ _ h => by cases h)))
        split at hmine
        · rename_i hnamed
          rw [if_pos hnamed]
          refine hinspected.trans (sendsOnly_addContactLoop (fun l => hother _
            (fun _ _ h => by cases h) (fun _ _ h => by cases h)) (fun l hl => hadd l _ ?_ hmine) _ _ _ _)
          rw [Contact.memberships_updateName] at hl
          exact hl
        · rename_i hnamed
          rw [if_neg hnamed]
          exact hinspected
      · rw [if_neg hstill]
        exact hhandles
    · rw [if_neg hok]
      exact hhandles
  · rw [if_neg hconn]
    exact .refl w

theorem sendsOnly_updateFlagsLoop {wanted : Flags} {contact : Contact}
    (hadd : ∀ l, P (.addMembers l (handleIf (wanted.has (l.flag .current)
      && !contact.flags.has (l.flag .current)) contact.handle)))
    (hremove : ∀ l, P (.removeMembers l (handleIf (contact.flags.has (l.flag .current)
      && !wanted.has (l.flag .current)) contact.handle)))
    (channels : ListId → Bool) (ls : List ListId) (connected : Bool) (w : Wire) :
    w.SendsOnly P (updateFlagsLoop channels wanted contact ls connected w).2 := by
  induction ls generalizing connected w with
  | nil => exact .refl w
  | cons l ls ih =>
    unfold updateFlagsLoop
    dsimp only
    split
    · have hadded : w.SendsOnly P (w.ask (.addMembers l (handleIf (wanted.has (l.flag .current)
          && !contact.flags.has (l.flag .current)) contact.handle))).2 := .ask w (hadd l)
      split
      · exact (hadded.trans (.ask _ (hremove l))).trans (ih _ _)
      · exact hadded
    · exact ih _ _

theorem sendsOnly_runUnblockContact (hflags : P (.getGroupFlags .deny))
    (hremove : ∀ hs, P (.removeMembers .deny hs)) (cl : Cl) (c : Contact) (w : Wire) :
    w.SendsOnly P (cl.runUnblockContact c w).2 := by
  have hasked : w.SendsOnly P (w.ask (.getGroupFlags .deny)).2 := .ask w hflags
  unfold runUnblockContact
  dsimp only
  split
  · split
    · split
      · split
        · split
          · exact hasked.trans (.ask _ (hremove _))
          · exact hasked
        · exact hasked
      · exact .refl w
    · exact .refl w
  · exact .refl w

theorem sendsOnly_removeContactLoop {contact : Contact} (hflags : ∀ l, P (.getGroupFlags l))
    (hremove : ∀ l, P (.removeMembers l [contact.handle])) (channels : ListId → Bool) (ls : List ListId)
    (connected : Bool) (w : Wire) :
    w.SendsOnly P (removeContactLoop channels contact ls connected w).2 := by
  induction ls generalizing connected w with
  | nil => exact .refl w
  | cons l ls ih =>
    unfold removeContactLoop
    dsimp only
    split
    · have hasked : w.SendsOnly P (w.ask (.getGroupFlags l)).2 := .ask w (hflags l)
      split
      · split
        · have hremoved := hasked.trans (.ask (w.ask (.getGroupFlags l)).2 (hremove l))
          split
          · exact hremoved.trans (ih _ _)
          · exact hremoved
        · exact hasked.trans (ih _ _)
      · exact hasked
    · exact ih _ _

end Cl

namespace Backend

/-- The bus after what a stage of phase 3 does for a contact. -/
def stageWire (b : Backend) (r : Nat) : Phase3Stage → Wire
  | .update => (b.runUpdateContact r).2.wire
  | .add => (b.runAddContact (b.book.contacts r)).2.2
  | .delete => (b.tpcl.runRemoveContact (b.book.contacts r) b.wire).2

theorem phase3_wire {b b' : Backend} {p : Phase3} {r : Nat} {todo order : List Nat}
    (htodo : p.todo = r :: todo) (h : b.stepPhase3 p order = some b') :
    b'.wire = b.stageWire r p.stage := by
  have hrenamed : ∀ (b₁ : Backend) (old : Option String), (b₁.phase3Added r old).2.wire = b₁.wire := by
    intro b₁ old
    unfold phase3Added
    split
    · rfl
    · unfold phase3Renamed
      dsimp only
      split <;> rfl
  obtain ⟨stage, todo', inDb⟩ := p
  obtain rfl : todo' = r :: todo := htodo
  cases stage with
  | update =>
    cases h
    unfold phase3Update stageWire
    dsimp only
    generalize b.runUpdateContact r = q
    obtain ⟨_ | _, b₁⟩ := q <;> rfl
  | add =>
    cases h
    unfold phase3Add stageWire
    dsimp only
    generalize b.runAddContact (b.book.contacts r) = q
    obtain ⟨_ | _, c, w⟩ := q
    · rfl
    · exact hrenamed _ _
  | delete =>
    cases h
    unfold phase3Delete stageWire
    dsimp only
    generalize b.tpcl.runRemoveContact (b.book.contacts r) b.wire = q
    obtain ⟨_ | _, w⟩ := q <;> rfl

theorem runUpdateContact_serves {b : Backend} {r : Nat} {mine : Nat → Prop} (hby : b.tpcl.ByHandle)
    (hmine : mine (b.book.contacts r).handle) :
    b.wire.SendsOnly (Request.Serves .update (b.book.contacts r) mine) (b.runUpdateContact r).2.wire := by
  have hupdate : b.wire.SendsOnly (Request.Serves .update (b.book.contacts r) mine)
      (if (b.book.contacts r).pendingFlags.has scheduleUpdateFlags then
        (b.tpcl.runUpdateFlags (b.book.contacts r) b.wire).2 else b.wire) := by
    split
    · rename_i hu
      unfold Cl.runUpdateFlags
      split
      · split
        · split
          · rename_i x hx
            -- the server is asked about its own copy of the contact, which has the same handle
            have hcopy : (b.tpcl.contacts x).handle = (b.book.contacts r).handle := (hby.entry _ x hx).2
            refine Cl.sendsOnly_updateFlagsLoop (fun l hl h hh => ?_) (fun l hl h hh => ?_) _ _ _ _
            · obtain ⟨hgo, rfl⟩ := Cl.mem_handleIf hh
              exact ⟨hcopy ▸ hmine, hu, (Bool.and_eq_true_iff.mp hgo).1⟩
            · obtain ⟨hgo, rfl⟩ := Cl.mem_handleIf hh
              exact ⟨hcopy ▸ hmine, hu, (Bool.not_eq_true' _).mp (Bool.and_eq_true_iff.mp hgo).2⟩
          · exact .refl _
        · exact .refl _
      · exact .refl _
    · exact .refl _
  unfold runUpdateContact
  dsimp only
  split
  · exact hupdate.trans (Cl.sendsOnly_runUnblockContact trivial
      (fun _ hl => absurd hl (by decide)) _ _ _)
  · exact hupdate

theorem runAddContact_serves {b : Backend} {c : Contact} {mine : Nat → Prop}
    (hmine : mine (b.runAddContact c).2.1.handle) :
    b.wire.SendsOnly (Request.Serves .add c mine) (b.runAddContact c).2.2 := by
  unfold runAddContact at hmine ⊢
  by_cases hinvalid : c.flags.has contactInvalid
  · rw [if_pos hinvalid]
    exact .refl _
  · rw [if_neg hinvalid] at hmine ⊢
    have hsends : mine (b.tpcl.runAddContact c b.wire).2.1.handle →
        b.wire.SendsOnly (Request.Serves .add c mine) (b.tpcl.runAddContact c b.wire).2.2 :=
      fun hm => Cl.sendsOnly_runAddContact hm (fun _ => Request.serves_other) fun l h hl hh _ h' hin =>
        ⟨List.mem_singleton.mp hin ▸ hh, hl⟩
    generalize b.tpcl.runAddContact c b.wire = q at hmine hsends
    obtain ⟨_ | ⟨_ | _⟩, c', w⟩ := q <;> exact hsends hmine

theorem runRemoveContact_serves {cl : Cl} {c : Contact} {mine : Nat → Prop} (hby : cl.ByHandle)
    (hmine : mine c.handle) (w : Wire) :
    w.SendsOnly (Request.Serves .delete c mine) (cl.runRemoveContact c w).2 := by
  unfold Cl.runRemoveContact
  split
  · split
    · rename_i x hx
      have hcopy : (cl.contacts x).handle = c.handle := (hby.entry _ x hx).2
      refine Cl.sendsOnly_removeContactLoop (fun _ => trivial) (fun l _ h hh => ?_) _ _ _ _
      rw [List.mem_singleton.mp hh, hcopy]
      exact ⟨hmine, trivial⟩
    · exact .refl w
  · exact .refl w

/-- A request to add leaves the contact with the handle that it was asked about. -/
theorem handle_addDone (b : Book) (r : Nat) (c : Contact) :
    ((b.addDone r c).contacts r).handle = c.handle := by
  have hself : ((b.modify r fun _ => c.clearAdd).contacts r).handle = c.handle := by
    rw [Book.modify_contacts_self]
    rfl
  rcases b.addDone_contacts r c with hsame | ⟨dest, -, hmerged⟩
  · rw [hsame]
    exact hself
  · rw [hmerged]
    by_cases he : r = dest
    · subst he
      rw [Book.modify_contacts_self]
      exact (Contact.sameKeys_mergeFrom _ _).2.2.trans hself
    · rw [Book.modify_contacts_of_ne he]
      exact hself

/-! ## Who asks the server -/

theorem SyncOnly.wire {b b' : Backend} (h : SyncOnly b b') : b'.wire = b.wire := by
  obtain ⟨_, _, _, _, -, rfl⟩ := h
  rfl

theorem mergeByHandle_wire (b : Backend) (f : Contact → Contact → Contact) (db : Bool)
    (cs : List Contact) : (b.mergeByHandle f db cs).wire = b.wire := by
  unfold mergeByHandle
  dsimp only

/-- No handler of a signal waits for an answer of the server. -/
theorem onSignal_wire (b : Backend) (s : Signal) : (b.onSignal s).wire = b.wire := by
  have hite : ∀ {b' : Backend}, b'.wire = b.wire → (if b.membersReady then b' else b).wire = b.wire := by
    intro b' h
    split
    · exact h
    · rfl
  cases s with
  | getMembersDone result =>
    cases result with
    | none => exact (syncOnly_finishOnlineInitialization b).wire
    | some cs => rfl
  | statusChanged st =>
    cases st with
    | online => exact hite (syncOnly_syncPhase1 b).wire
    | offline => exact hite rfl
  | contactsAdded cs =>
    refine hite ?_
    unfold tpClContactsAdded
    dsimp only
  | contactsRemoved cs =>
    refine hite ?_
    unfold tpClContactsRemoved
    dsimp only
    split <;> rfl
  | flagsChanged cs => exact hite (mergeByHandle_wire b _ _ cs)
  | aliasesChanged cs => exact hite (mergeByHandle_wire b _ _ cs)
  | presencesChanged cs => exact hite (mergeByHandle_wire b _ _ cs)
  | avatarTokensChanged cs =>
    refine hite ?_
    unfold tpClAvatarTokensChangedCb
    dsimp only
  | capabilitiesChanged cs => exact hite (mergeByHandle_wire b _ _ cs)
  | contactInfoChanged cs => exact hite (mergeByHandle_wire b _ _ cs)
  | avatarDataChanged c =>
    refine hite ?_
    unfold tpClAvatarDataChangedCb
    dsimp only
    split <;> rfl

/-- **Without a request only phase 3 waits for the server**, over the contact that it comes to. -/
theorem take_wire {b b' : Backend} {e : Event} (he : e.NoRequest) (hs : b.take e = some b') :
    b'.wire = b.wire ∨ ∃ order stage r, e = .phase3Next order ∧ b.ComesTo stage r := by
  cases take_taken hs with
  | @cl e cl signals _ =>
    exact .inl (foldl_inv (I := fun b₁ : Backend => b₁.wire = b.wire)
      (fun b₁ s h => (onSignal_wire b₁ s).trans h) signals rfl)
  | phase0 _ =>
    refine .inl ?_
    unfold syncPhase0IdleCb tpReadyCb
    dsimp only
    split
    · exact (syncOnly_syncPhase1 _).wire
    · rfl
  | phase2 _ =>
    refine .inl ?_
    unfold syncPhase2IdleCb
    dsimp only
    split <;> rfl
  | phase3 _ _ =>
    refine .inl ?_
    unfold beginPhase3
    split
    · rfl
    · exact (syncOnly_finishOnlineInitialization _).wire
  | @phase3Next order p rest _ hp hstep =>
    have hcomes : ∀ {r todo}, p.todo = r :: todo → b.ComesTo p.stage r := fun htodo =>
      ⟨p, rest, _, hp, rfl, htodo⟩
    cases stepPhase3_turn hstep with
    | update _ ht => exact .inr ⟨order, _, _, rfl, hcomes ht⟩
    | add _ ht => exact .inr ⟨order, _, _, rfl, hcomes ht⟩
    | delete _ ht => exact .inr ⟨order, _, _, rfl, hcomes ht⟩
    | snapshot _ _ _ => exact .inl rfl
    | ended _ =>
      obtain ⟨out, heq⟩ := endPhase3_eq { b with phase3 := rest } p
      refine .inl ?_
      rw [heq]
      exact (syncOnly_finishOnlineInitialization _).wire
  | createContact _ => exact he.elim
  | modifyContact _ => exact he.elim
  | removeContact _ => exact he.elim
  | updateContactsIdle => exact .inl rfl
  | startView _ => exact .inl rfl
  | stopView _ => exact .inl rfl
  | inactivity _ => exact .inl rfl
  | avatarDataSaved ok _ =>
    refine .inl ?_
    unfold avatarDataSavedCb
    split <;> rfl
  | getContact => exact .inl rfl

/-- **What phase 3 sends for a contact** is what the stage asks for, about the handle it has or gets. -/
theorem comesTo_serves {b b' : Backend} {r : Nat} {stage : Phase3Stage} {order : List Nat} {env : Env}
    (hby : b.tpcl.ByHandle) (hcomes : b.ComesTo stage r)
    (hs : b.step { event := .phase3Next order, env := env } = some b') :
    ∀ q ∈ b'.wire.sent, q.Serves stage (b.book.contacts r) fun h =>
      h = (b.book.contacts r).handle ∨ h = (b'.book.contacts r).handle := by
  obtain ⟨⟨stage, todo', inDb⟩, rest, todo, hp, rfl, htodo⟩ := hcomes
  obtain rfl : todo' = r :: todo := htodo
  generalize hpiece : ({ stage := stage, todo := r :: todo, contactsToUpdateInDb := inDb } : Phase3) = p
    at hp
  have hp' : (b.load env).phase3 = p :: rest := hp
  have htake : (b.load env).take (.phase3Next order) = some b' := hs
  have hafter : b'.book = ((b.load env).phase3Edits p).foldl Book.apply b.book := by
    have hbook := take_book htake
    unfold edits at hbook
    dsimp only at hbook
    rw [hp'] at hbook
    exact hbook
  have hwire : b'.wire = (b.load env).stageWire r p.stage := by
    unfold take at htake
    dsimp only at htake
    rw [hp'] at htake
    exact phase3_wire (b := { b.load env with phase3 := rest }) (by rw [← hpiece]) htake
  rw [hwire]
  refine Wire.SendsOnly.all (w := (b.load env).wire) ?_ rfl
  subst hpiece
  unfold stageWire
  cases stage with
  | update => exact runUpdateContact_serves (b := b.load env) hby (.inl rfl)
  | add =>
    refine runAddContact_serves (.inr ?_)
    rw [hafter]
    unfold phase3Edits
    dsimp only
    have hbook : (b.load env).book = b.book := rfl
    rw [hbook]
    generalize (b.load env).runAddContact (b.book.contacts r) = q
    obtain ⟨_ | _, c, w⟩ := q
    · exact (congrArg Contact.handle (Book.modify_contacts_self b.book r fun _ => c)).symm
    · exact (handle_addDone b.book r c).symm
  | delete => exact runRemoveContact_serves hby (.inl rfl) _

/-- Whatever a step without a request sends serves the contact that phase 3 comes to. -/
theorem sent_serves {b b' : Backend} {i : Input} (hby : b.tpcl.ByHandle) (hi : i.event.NoRequest)
    (hs : b.step i = some b') {q : Request} (hq : q ∈ b'.wire.sent) :
    ∃ order stage x, i.event = .phase3Next order ∧ b.ComesTo stage x
      ∧ q.Serves stage (b.book.contacts x) fun h =>
        h = (b.book.contacts x).handle ∨ h = (b'.book.contacts x).handle := by
  rcases take_wire (b := b.load i.env) hi hs with hsame | ⟨order, stage, x, he, hcomes⟩
  · rw [hsame] at hq
    cases hq
  · obtain ⟨event, env⟩ := i
    dsimp only at he
    subst he
    exact ⟨order, stage, x, rfl, hcomes, comesTo_serves hby hcomes hs q hq⟩

/--
Until the next request no step asks the server anything of the kind about a handle, unless it deals
in phase 3 with another contact which has this handle or gets it.
-/
def NeverAsks (P : Nat → Request → Prop) (b : Backend) (mine : Nat → Prop) : Prop :=
  ∀ is s i s' h, machine.Guarded (fun _ i => i.event.NoRequest) b is s → i.event.NoRequest →
    s.step i = some s' →
    (∀ order stage x, i.event = .phase3Next order → s.ComesTo stage x →
      mine x ∨ h ≠ (s.book.contacts x).handle ∧ h ≠ (s'.book.contacts x).handle) →
    ∀ q ∈ s'.wire.sent, ¬ P h q

/-- The run lemma for what is added: it can be read off the state after the request. -/
theorem neverAsks_adds {pathSuffix vcardField : String} {db : Db} {b : Backend} {mine : Nat → Prop}
    (hreach : ReachableFrom pathSuffix vcardField db b) (himported : b.phase0Queued = false)
    (h : ∀ x, mine x → b.Meets Contact.AddsNothing x) : b.NeverAsks Request.Adds mine := by
  intro is s i s' k hrun hi hs hmine q hq hadds
  obtain ⟨order, stage, x, he, hcomes, hserves⟩ :=
    sent_serves (reachable_byHandle (Machine.Reaches.guarded hreach hrun)) hi hs hq
  cases q with
  | addMembers l hs =>
    obtain ⟨hhandle, hasks⟩ := hserves hadds.1 k hadds.2
    rcases hmine order stage x he hcomes with hx | ⟨hne, hne'⟩
    · exact meets_run Contact.addsNothing_calmer (sane_reachable hreach) himported (h x hx) hrun stage
        hcomes.waits l hadds.1 hasks
    · exact hhandle.elim hne hne'
  | _ => exact hadds

/-- The run lemma for what is removed. -/
theorem neverAsks_removes {pathSuffix vcardField : String} {db : Db} {b : Backend} {mine : Nat → Prop}
    (hreach : ReachableFrom pathSuffix vcardField db b) (himported : b.phase0Queued = false)
    (h : ∀ x, mine x → b.Meets Contact.LosesNothing x) : b.NeverAsks Request.Removes mine := by
  intro is s i s' k hrun hi hs hmine q hq hremoves
  obtain ⟨order, stage, x, he, hcomes, hserves⟩ :=
    sent_serves (reachable_byHandle (Machine.Reaches.guarded hreach hrun)) hi hs hq
  cases q with
  | removeMembers l hs =>
    obtain ⟨hhandle, hasks⟩ := hserves hremoves.1 k hremoves.2
    rcases hmine order stage x he hcomes with hx | ⟨hne, hne'⟩
    · exact meets_run Contact.losesNothing_calmer (sane_reachable hreach) himported (h x hx) hrun stage
        hcomes.waits l hremoves.1 hasks
    · exact hhandle.elim hne hne'
  | _ => exact hremoves

end Backend

end EdsTelepathy
