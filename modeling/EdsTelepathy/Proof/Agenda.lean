import EdsTelepathy.Proof.Held
import EdsTelepathy.Proof.Seen

/-!
# The agenda of phase 3

What an event leaves alone outside the book, and what it does to the snapshots that phase
3 is working through: apart from the event that starts phase 3 and the one that takes it a
contact further, nothing touches them. Together with the edits this is enough for the
first invariant of a whole run: whatever a table or a snapshot refers to is a contact
object that has been allocated.
-/

namespace EdsTelepathy

namespace Backend

/-! ## What a handler leaves alone -/

/-- `b'` has the queues of idle sources, the snapshots and the roster contacts of `b`. -/
structure SameAgenda (b b' : Backend) : Prop where
  suffix : b'.pathSuffix = b.pathSuffix
  field : b'.vcardField = b.vcardField
  contacts : b'.tpcl.contacts = b.tpcl.contacts
  imported : b'.phase0Queued = b.phase0Queued
  ready : b'.membersReady = b.membersReady
  phase3 : b'.phase3 = b.phase3

theorem SameAgenda.refl (b : Backend) : SameAgenda b b := ⟨rfl, rfl, rfl, rfl, rfl, rfl⟩

theorem SameAgenda.trans {b b' b'' : Backend} (h : SameAgenda b b') (h' : SameAgenda b' b'') :
    SameAgenda b b'' :=
  ⟨h'.suffix.trans h.suffix, h'.field.trans h.field, h'.contacts.trans h.contacts,
    h'.imported.trans h.imported, h'.ready.trans h.ready, h'.phase3.trans h.phase3⟩

theorem DataOnly.sameAgenda {b b' : Backend} (h : DataOnly b b') : SameAgenda b b' := by
  obtain ⟨_, _, _, _, rfl⟩ := h
  exact ⟨rfl, rfl, rfl, rfl, rfl, rfl⟩

theorem SyncOnly.sameAgenda {b b' : Backend} (h : SyncOnly b b') : SameAgenda b b' := by
  obtain ⟨_, _, _, _, -, rfl⟩ := h
  exact ⟨rfl, rfl, rfl, rfl, rfl, rfl⟩

theorem sameAgenda_onSignal (b : Backend) (s : Signal) : SameAgenda b (b.onSignal s) := by
  have hite : ∀ {b' : Backend}, SameAgenda b b' →
      SameAgenda b (if b.membersReady then b' else b) := by
    intro b' h
    split
    · exact h
    · exact .refl b
  cases s with
  | getMembersDone result =>
    cases result with
    | none => exact (syncOnly_finishOnlineInitialization b).sameAgenda
    | some cs => exact ⟨rfl, rfl, rfl, rfl, rfl, rfl⟩
  | statusChanged st =>
    cases st with
    | online => exact hite (syncOnly_syncPhase1 b).sameAgenda
    | offline => exact hite ⟨rfl, rfl, rfl, rfl, rfl, rfl⟩
  | contactsAdded cs => exact hite (dataOnly_contactsAdded b cs).sameAgenda
  | contactsRemoved cs => exact hite (dataOnly_contactsRemoved b cs).sameAgenda
  | flagsChanged cs => exact hite (dataOnly_mergeByHandle b _ _ cs).sameAgenda
  | aliasesChanged cs => exact hite (dataOnly_mergeByHandle b _ _ cs).sameAgenda
  | presencesChanged cs => exact hite (dataOnly_mergeByHandle b _ _ cs).sameAgenda
  | avatarTokensChanged cs => exact hite (dataOnly_avatarTokensChanged b cs).sameAgenda
  | capabilitiesChanged cs => exact hite (dataOnly_mergeByHandle b _ _ cs).sameAgenda
  | contactInfoChanged cs => exact hite (dataOnly_mergeByHandle b _ _ cs).sameAgenda
  | avatarDataChanged c => exact hite (dataOnly_avatarDataChanged b c).sameAgenda

theorem sameAgenda_onSignals (b : Backend) (ss : List Signal) :
    SameAgenda b (ss.foldl onSignal b) :=
  foldl_inv (I := SameAgenda b) (fun b' s h => h.trans (sameAgenda_onSignal b' s)) ss (.refl b)

/-- A signal that is not the callback of `get_members` is not handled before the import. -/
theorem onSignals_unready {b : Backend} {ss : List Signal} (hm : b.membersReady = false)
    (hd : Cl.dones ss = 0) : ss.foldl onSignal b = b := by
  induction ss with
  | nil => rfl
  | cons s ss ih =>
    have hno : s.isDone = false := by
      unfold Cl.dones at hd
      exact (by simpa using List.countP_eq_zero.mp hd s List.mem_cons_self)
    have hrest : Cl.dones ss = 0 := by
      unfold Cl.dones at hd ⊢
      rw [List.countP_cons] at hd
      omega
    have hone : b.onSignal s = b := by
      cases s with
      | getMembersDone result => cases hno
      | _ => exact if_neg (by rw [hm]; exact Bool.false_ne_true)
    rw [List.foldl_cons, hone]
    exact ih hrest

/-! ## What phase 3 does with its snapshots -/

/-- What becomes of the local variables of phase 3 when it takes a step. -/
inductive Advances (b : Backend) (p : Phase3) : List Phase3 → Prop where
  /-- The first contact of the snapshot is dealt with. -/
  | next {r : Nat} {p' : Phase3} :
      p.todo = r :: p'.todo → p'.stage = p.stage → Advances b p [p']
  /-- The next table is copied. -/
  | snapshot {p' : Phase3} :
      p.todo = [] → p'.todo.Perm (Table.values (workTable b.book p'.stage)) → Advances b p [p']
  | ended : Phase3.Ended p → Advances b p []

theorem advances_stepPhase3 {b b' : Backend} {p : Phase3} {order : List Nat}
    (h : b.stepPhase3 p order = some b') :
    ∃ ps, Advances b p ps ∧ b'.phase3 = ps ++ b.phase3 ∧ b'.tpcl.contacts = b.tpcl.contacts
      ∧ b'.phase0Queued = b.phase0Queued ∧ b'.membersReady = b.membersReady
      ∧ b'.pathSuffix = b.pathSuffix ∧ b'.vcardField = b.vcardField := by
  have hgo : ∀ {b₁ : Backend} {p' : Phase3}, DataOnly b b₁ → Advances b p [p'] →
      ∃ ps, Advances b p ps ∧ (b₁.continuePhase3 p').phase3 = ps ++ b.phase3
        ∧ (b₁.continuePhase3 p').tpcl.contacts = b.tpcl.contacts
        ∧ (b₁.continuePhase3 p').phase0Queued = b.phase0Queued
        ∧ (b₁.continuePhase3 p').membersReady = b.membersReady
        ∧ (b₁.continuePhase3 p').pathSuffix = b.pathSuffix
        ∧ (b₁.continuePhase3 p').vcardField = b.vcardField := by
    rintro b₁ p' ⟨_, _, _, _, rfl⟩ hadv
    exact ⟨[p'], hadv, rfl, rfl, rfl, rfl, rfl, rfl⟩
  cases stepPhase3_turn h with
  | @update r todo _ ht =>
    have hrun := dataOnly_runUpdateContact b r
    unfold phase3Update
    generalize b.runUpdateContact r = q at hrun
    obtain ⟨_ | _, b₁⟩ := q
    · exact hgo hrun (.next ht rfl)
    · exact hgo hrun (.next ht rfl)
  | @add r todo _ ht =>
    unfold phase3Add
    dsimp only
    generalize b.runAddContact (b.book.contacts r) = q
    obtain ⟨_ | _, c, w⟩ := q
    · exact hgo ⟨_, b.out, w, _, rfl⟩ (.next ht rfl)
    · have hadded := dataOnly_phase3Added
        { b.modify r (fun _ => c.clearAdd) with wire := w } r (b.book.contacts r).name
      exact hgo (.trans (.trans ⟨_, b.out, w, _, rfl⟩ hadded) ⟨_, _, _, _, rfl⟩) (.next ht rfl)
  | @delete r todo _ ht =>
    unfold phase3Delete
    generalize b.tpcl.runRemoveContact (b.book.contacts r) b.wire = q
    obtain ⟨_ | _, w⟩ := q
    · exact hgo (dataOnly_wire b w) (.next ht rfl)
    · exact hgo ⟨_, b.out, w, _, rfl⟩ (.next ht rfl)
  | snapshot _ ht hperm => exact hgo (.refl b) (.snapshot ht hperm)
  | ended hend =>
    obtain ⟨out, heq⟩ := endPhase3_eq b p
    rw [heq]
    have hsync := (syncOnly_finishOnlineInitialization { b with out := out }).sameAgenda
    exact ⟨[], .ended hend, hsync.phase3, hsync.contacts, hsync.imported, hsync.ready,
      hsync.suffix, hsync.field⟩

/-- What an event does to the snapshots, and what it keeps. -/
inductive Agenda (b : Backend) : Event → List Phase3 → Prop where
  | same {e : Event} : (∀ order, e ≠ .phase3Next order) → Agenda b e b.phase3
  | begins {order : List Nat} :
      order.Perm (Table.values b.book.contactsToUpdate) →
      Agenda b (.phase3 order) ({ todo := order } :: b.phase3)
  | advances {order : List Nat} {p : Phase3} {rest ps : List Phase3} :
      b.phase3 = p :: rest → Advances b p ps → Agenda b (.phase3Next order) (ps ++ rest)

theorem take_agenda {b b' : Backend} {e : Event} (h : b.take e = some b') :
    Agenda b e b'.phase3 := by
  cases take_taken h with
  | cl hstep =>
    rw [(sameAgenda_onSignals _ _).phase3]
    exact .same nofun
  | phase0 _ =>
    obtain ⟨views, hsync⟩ := tpReadyCb_spec
      { b with
        book := b.out.db.fetchContacts.foldl Book.importContact b.book
        phase0Queued := false }
    have hsame : b.syncPhase0IdleCb.phase3 = b.phase3 := hsync.phase3
    rw [hsame]
    exact .same nofun
  | @phase2 closure rest _ =>
    have hsame : ({ b with phase2Queued := rest }.syncPhase2IdleCb closure).phase3 = b.phase3 := by
      unfold syncPhase2IdleCb
      dsimp only
      split <;> rfl
    rw [hsame]
    exact .same nofun
  | phase3 _ hperm =>
    -- phase 3 begins here or there is nothing for it to do
    unfold beginPhase3
    split
    · exact .begins hperm
    · rw [(syncOnly_finishOnlineInitialization _).phase3]
      exact .same nofun
  | phase3Next hp hstep =>
    obtain ⟨ps, hadv, heq, -⟩ := advances_stepPhase3 hstep
    rw [heq]
    refine .advances hp ?_
    cases hadv with
    | next h1 h2 => exact .next h1 h2
    | snapshot h1 h2 => exact .snapshot h1 h2
    | ended h => exact .ended h
  | createContact ec =>
    rw [(dataOnly_createContact b ec).sameAgenda.phase3]
    exact .same nofun
  | modifyContact ec =>
    rw [(dataOnly_modifyContact b ec).sameAgenda.phase3]
    exact .same nofun
  | removeContact id =>
    rw [(dataOnly_removeContact b id).sameAgenda.phase3]
    exact .same nofun
  | updateContactsIdle => exact .same nofun
  | startView id => exact .same nofun
  | stopView id => exact .same nofun
  | inactivity on => exact .same nofun
  | avatarDataSaved ok _ =>
    rw [(dataOnly_avatarDataSaved _ _ ok).sameAgenda.phase3]
    exact .same nofun
  | getContact => exact .same nofun

end Backend

/-! ## Addresses -/

namespace Book

/-- Every address that a table refers to has been allocated. -/
structure Allocated (b : Book) : Prop where
  handle : Table.All (· < b.next) b.handleToContact
  name : Table.All (· < b.next) b.nameToContact
  uid : Table.All (· < b.next) b.uidToContact
  toDelete : Table.All (· < b.next) b.contactsToDelete
  toUpdate : Table.All (· < b.next) b.contactsToUpdate
  toAdd : Table.All (· < b.next) b.contactsToAdd

theorem allocated_empty : Allocated {} :=
  ⟨Table.all_empty _, Table.all_empty _, Table.all_empty _, Table.all_empty _,
    Table.all_empty _, Table.all_empty _⟩

/-- One more object has been allocated. -/
theorem Allocated.alloc {b : Book} (h : b.Allocated) (c : Contact) : (b.alloc c).Allocated := by
  have hlt : ∀ {κ : Type} [DecidableEq κ] {t : Table κ Nat}, Table.All (· < b.next) t →
      Table.All (· < b.next + 1) t := fun ht => ht.mono fun _ hv => Nat.lt_succ_of_lt hv
  exact ⟨hlt h.handle, hlt h.name, hlt h.uid, hlt h.toDelete, hlt h.toUpdate, hlt h.toAdd⟩

theorem all_importInto {t : Table String Nat} {n : Nat} (h : Table.All (· < n) t) (due : Bool)
    (uid : String) {r : Nat} (hr : r < n) : Table.All (· < n) (importInto t due uid r) := by
  unfold importInto
  split
  · exact h.insert uid hr
  · exact h

theorem allocated_importContact {b : Book} (h : b.Allocated) (c : Contact) :
    (b.importContact c).Allocated := by
  have ha := h.alloc c.imported
  have hr : b.next < (b.alloc c.imported).next := Nat.lt_succ_self _
  exact ⟨ha.handle, ha.name.insert _ hr, ha.uid.insert _ hr, all_importInto ha.toDelete _ _ hr,
    all_importInto ha.toUpdate _ _ hr, all_importInto ha.toAdd _ _ hr⟩

theorem allocated_enterHandle {b : Book} (h : b.Allocated) (x : Nat) {r : Nat} (hr : r < b.next) :
    (b.enterHandle x r).Allocated := by
  unfold enterHandle
  split
  · exact h
  · exact ⟨h.handle.insert x hr, h.name, h.uid, h.toDelete, h.toUpdate, h.toAdd⟩

theorem allocated_memberReported {b : Book} (h : b.Allocated) (pathSuffix : String)
    (cIn : Contact) : (b.memberReported pathSuffix cIn).Allocated := by
  unfold memberReported
  split
  · rename_i r hr
    have hmod : (b.modify r cIn.seen).Allocated := ⟨h.handle, h.name, h.uid, h.toDelete, h.toUpdate, h.toAdd⟩
    exact allocated_enterHandle hmod _ (h.name _ _ hr)
  · have ha := h.alloc { cIn.dup with uid := generateUid pathSuffix b.uidToContact cIn.name }
    have hr : b.next < b.next + 1 := Nat.lt_succ_self _
    have hfound : (b.memberFound pathSuffix cIn).Allocated :=
      ⟨ha.handle, ha.name.insert _ hr, ha.uid.insert _ hr, ha.toDelete, ha.toUpdate, ha.toAdd⟩
    exact allocated_enterHandle hfound _ hr

theorem allocated_enterAdded {b : Book} (h : b.Allocated) {r : Nat} (hr : r < b.next) :
    (b.enterAdded r).Allocated :=
  ⟨h.handle.insert _ hr, h.name, h.uid.insert _ hr, h.toDelete, h.toUpdate, h.toAdd⟩

theorem allocated_contactAdded {b : Book} (h : b.Allocated) (pathSuffix : String)
    (cIn : Contact) : (b.contactAdded pathSuffix cIn).Allocated := by
  unfold contactAdded
  split
  · rename_i r hr
    have hmod : (b.contactConfirmed r cIn).Allocated :=
      ⟨h.handle, h.name, h.uid, h.toDelete, h.toUpdate, h.toAdd⟩
    exact allocated_enterAdded hmod (h.name _ _ hr)
  · have ha := h.alloc { cIn.dup with uid := generateUid pathSuffix b.uidToContact cIn.name }
    have hr : b.next < b.next + 1 := Nat.lt_succ_self _
    have hfound : (b.contactFound pathSuffix cIn).Allocated :=
      ⟨ha.handle, ha.name.insert _ hr, ha.uid, ha.toDelete, ha.toUpdate, ha.toAdd⟩
    exact allocated_enterAdded hfound hr

theorem allocated_deleteContact {b : Book} (h : b.Allocated) (r : Nat) :
    (b.deleteContact r).Allocated := by
  unfold deleteContact
  dsimp only
  split
  · exact ⟨h.handle.erase _, h.name.erase _, h.uid.erase _, h.toDelete, h.toUpdate, h.toAdd⟩
  · exact ⟨h.handle, h.name.erase _, h.uid.erase _, h.toDelete, h.toUpdate, h.toAdd⟩

theorem next_deleteContact (b : Book) (r : Nat) : (b.deleteContact r).next = b.next := by
  unfold deleteContact
  dsimp only
  split <;> rfl

theorem allocated_createContact {b : Book} (h : b.Allocated) (c : Contact) :
    (b.createContact c).Allocated := by
  have ha := h.alloc c
  have hr : b.next < b.next + 1 := Nat.lt_succ_self _
  unfold createContact
  dsimp only
  split
  · exact ⟨ha.handle, ha.name.insert _ hr, ha.uid.insert _ hr, ha.toDelete, ha.toUpdate,
      ha.toAdd.insert _ hr⟩
  · exact ⟨ha.handle, ha.name.insert _ hr, ha.uid.insert _ hr, ha.toDelete, ha.toUpdate, ha.toAdd⟩

theorem allocated_modified {b : Book} (h : b.Allocated) {r : Nat} (hr : r < b.next)
    (ec : Contact.EVCard) (vcardField : String) (sent stored : Bool) :
    (b.modified r ec vcardField sent stored).Allocated := by
  unfold modified
  dsimp only
  split
  · have hup : Table.All (· < b.next) (b.contactsToUpdate) := h.toUpdate
    cases sent <;> cases stored <;>
      exact ⟨h.handle, h.name, h.uid, h.toDelete, hup.insert _ hr, h.toAdd⟩
  · exact ⟨h.handle, h.name, h.uid, h.toDelete, h.toUpdate, h.toAdd⟩

theorem allocated_mergeContacts {b : Book} (h : b.Allocated) {dest : Nat} (hd : dest < b.next)
    (src : Nat) : (b.mergeContacts dest src).Allocated := by
  have hmod : (b.modify dest fun d => d.mergeFrom (b.contacts src)).Allocated :=
    ⟨h.handle, h.name, h.uid, h.toDelete, h.toUpdate, h.toAdd⟩
  have hdel := allocated_deleteContact hmod src
  have hlt : dest < ((b.modify dest fun d => d.mergeFrom (b.contacts src)).deleteContact src).next := by
    rw [next_deleteContact]; exact hd
  exact ⟨hdel.handle.insert _ hlt, hdel.name.insert _ hlt, hdel.uid.insert _ hlt, hdel.toDelete,
    hdel.toUpdate, hdel.toAdd⟩

theorem next_mergeContacts (b : Book) (dest src : Nat) :
    (b.mergeContacts dest src).next = b.next := next_deleteContact _ _

theorem allocated_renamed {b : Book} (h : b.Allocated) {r : Nat} (hr : r < b.next)
    (oldName : Option String) : (b.renamed r oldName).Allocated := by
  have hforget : (b.forgetName oldName).Allocated :=
    ⟨h.handle, h.name.erase _, h.uid, h.toDelete, h.toUpdate, h.toAdd⟩
  unfold renamed
  dsimp only
  split
  · rename_i existing he
    exact allocated_mergeContacts hforget (hforget.name _ _ he) r
  · exact ⟨hforget.handle, hforget.name.insert _ hr, hforget.uid, hforget.toDelete,
      hforget.toUpdate, hforget.toAdd⟩

theorem allocated_addDone {b : Book} (h : b.Allocated) {r : Nat} (hr : r < b.next) (c : Contact) :
    (b.addDone r c).Allocated := by
  have hmod : (b.modify r fun _ => c.clearAdd).Allocated :=
    ⟨h.handle, h.name, h.uid, h.toDelete, h.toUpdate, h.toAdd⟩
  have hend : ∀ {b' : Book}, b'.Allocated → (b'.unscheduleAdd r).Allocated := fun h' =>
    ⟨h'.handle, h'.name, h'.uid, h'.toDelete, h'.toUpdate, h'.toAdd.erase _⟩
  unfold addDone
  dsimp only
  split
  · exact hend hmod
  · exact hend (allocated_renamed hmod hr _)

theorem next_renamed (b : Book) (r : Nat) (oldName : Option String) :
    (b.renamed r oldName).next = b.next := by
  unfold renamed
  dsimp only
  split
  · exact next_mergeContacts _ _ _
  · rfl

theorem next_addDone (b : Book) (r : Nat) (c : Contact) : (b.addDone r c).next = b.next := by
  unfold addDone
  dsimp only
  split
  · rfl
  · exact next_renamed _ _ _

theorem next_modified (b : Book) (r : Nat) (ec : Contact.EVCard) (vcardField : String)
    (sent stored : Bool) : (b.modified r ec vcardField sent stored).next = b.next := by
  unfold modified
  dsimp only
  split
  · cases sent <;> cases stored <;> rfl
  · rfl

/-- An edit allocates, and never frees. -/
theorem next_apply (b : Book) (e : Edit) : b.next ≤ (b.apply e).next := by
  cases e with
  | importContact c => exact Nat.le_succ _
  | memberReported pathSuffix cIn => exact memberReported_next pathSuffix b cIn
  | contactAdded pathSuffix cIn =>
    unfold apply contactAdded
    dsimp only
    split
    · exact Nat.le_refl _
    · exact Nat.le_succ _
  | mergeByHandle f cIn =>
    unfold apply mergeByHandle
    dsimp only
    split <;> exact Nat.le_refl _
  | deleteContacts rs =>
    refine foldl_inv (I := fun b' : Book => b.next ≤ b'.next) (fun b' r hb' => ?_) rs (Nat.le_refl _)
    rw [next_deleteContact]; exact hb'
  | createContact c => exact (Nat.le_succ b.next).trans_eq (createContact_next b c).symm
  | modified r ec vcardField sent stored =>
    exact Nat.le_of_eq (next_modified b r ec vcardField sent stored).symm
  | addDone r c => exact Nat.le_of_eq (next_addDone b r c).symm
  | forgetHandles => exact Nat.le_refl _
  | touch r t => exact Nat.le_refl _
  | scheduleRemoval r => exact Nat.le_refl _
  | addFailed r c => exact Nat.le_refl _
  | removalDone r => exact Nat.le_refl _

/-- **A proper edit keeps every address allocated.** -/
theorem allocated_apply {b : Book} {e : Edit} (h : b.Allocated) (hp : e.Proper b)
    (hr : ∀ r c, e = .addDone r c → r < b.next) : (b.apply e).Allocated := by
  cases e with
  | importContact c => exact allocated_importContact h c
  | memberReported pathSuffix cIn => exact allocated_memberReported h pathSuffix cIn
  | contactAdded pathSuffix cIn => exact allocated_contactAdded h pathSuffix cIn
  | mergeByHandle f cIn =>
    unfold apply mergeByHandle
    dsimp only
    split
    · exact ⟨h.handle, h.name, h.uid, h.toDelete, h.toUpdate, h.toAdd⟩
    · exact h
  | forgetHandles => exact ⟨Table.all_empty _, h.name, h.uid, h.toDelete, h.toUpdate, h.toAdd⟩
  | touch r t => exact ⟨h.handle, h.name, h.uid, h.toDelete, h.toUpdate, h.toAdd⟩
  | deleteContacts rs =>
    exact foldl_inv (I := Allocated) (fun _ r hb' => allocated_deleteContact hb' r) rs h
  | createContact c => exact allocated_createContact h c
  | modified r ec vcardField sent stored =>
    obtain ⟨k, hk⟩ := hp
    exact allocated_modified h (h.uid k r hk) ec vcardField sent stored
  | scheduleRemoval r =>
    obtain ⟨k, hk⟩ := hp
    exact ⟨h.handle, h.name, h.uid, h.toDelete.insert _ (h.uid k r hk), h.toUpdate, h.toAdd⟩
  | addDone r c => exact allocated_addDone h (hr r c rfl) c
  | addFailed r c => exact ⟨h.handle, h.name, h.uid, h.toDelete, h.toUpdate, h.toAdd⟩
  | removalDone r =>
    exact ⟨h.handle, h.name, h.uid, h.toDelete.erase _, h.toUpdate, h.toAdd⟩

end Book

namespace Backend

/-- What every state has: plain roster contacts, and no address that is not allocated. -/
structure Sane (b : Backend) : Prop where
  plain : b.tpcl.Plain
  allocated : b.book.Allocated
  todo : ∀ p ∈ b.phase3, ∀ r ∈ p.todo, r < b.book.next

theorem sane_boot (pathSuffix vcardField : String) (db : Db) :
    Sane (boot pathSuffix vcardField db) where
  plain := Cl.plain_init
  allocated := Book.allocated_empty
  todo := fun p hp => by cases hp

theorem Sane.load {b : Backend} (h : Sane b) (env : Env) : Sane (b.load env) :=
  ⟨h.plain, h.allocated, h.todo⟩

theorem take_plain {b b' : Backend} {e : Event} (hplain : b.tpcl.Plain) (h : b.take e = some b') :
    b'.tpcl.Plain := by
  have hsame : ∀ {c c' : Backend}, SameAgenda c c' → c.tpcl.Plain → c'.tpcl.Plain := by
    intro c c' hs hc r
    rw [hs.contacts]; exact hc r
  cases take_taken h with
  | cl hstep => exact hsame (sameAgenda_onSignals _ _) (Cl.plain_step hplain hstep).1
  | phase0 _ =>
    obtain ⟨views, hsync⟩ := tpReadyCb_spec
      { b with
        book := b.out.db.fetchContacts.foldl Book.importContact b.book
        phase0Queued := false }
    exact hsame hsync.sameAgenda hplain
  | phase2 _ =>
    unfold syncPhase2IdleCb
    dsimp only
    split <;> exact hplain
  | phase3 _ _ =>
    unfold beginPhase3
    split
    · exact hplain
    · exact hsame (syncOnly_finishOnlineInitialization _).sameAgenda hplain
  | phase3Next _ hstep =>
    obtain ⟨ps, -, -, hcontacts, -⟩ := advances_stepPhase3 hstep
    intro r
    rw [hcontacts]; exact hplain r
  | createContact ec => exact hsame (dataOnly_createContact b ec).sameAgenda hplain
  | modifyContact ec => exact hsame (dataOnly_modifyContact b ec).sameAgenda hplain
  | removeContact id => exact hsame (dataOnly_removeContact b id).sameAgenda hplain
  | updateContactsIdle => exact hplain
  | startView id => exact hplain
  | stopView id => exact hplain
  | inactivity on => exact hplain
  | avatarDataSaved ok _ => exact hsame (dataOnly_avatarDataSaved _ _ ok).sameAgenda hplain
  | getContact => exact hplain

/-- An edit of phase 3 is about the contact it has come to. -/
theorem mem_phase3Edits {b : Backend} {p : Phase3} {e : Edit} (he : e ∈ b.phase3Edits p) :
    ∃ r todo, p.todo = r :: todo
      ∧ ((p.stage = .update ∧ e = .touch r (.updated (b.unblocks r)))
        ∨ (p.stage = .add ∧ ∃ c, e = .addDone r c ∨ e = .addFailed r c)
        ∨ (p.stage = .delete ∧ e = .removalDone r)) := by
  obtain ⟨stage, todo, inDb⟩ := p
  cases todo with
  | nil => cases stage <;> cases he
  | cons r todo =>
    refine ⟨r, todo, rfl, ?_⟩
    unfold phase3Edits at he
    cases stage with
    | update => exact .inl ⟨rfl, List.mem_singleton.mp he⟩
    | add =>
      dsimp only at he
      generalize b.runAddContact (b.book.contacts r) = q at he
      obtain ⟨_ | _, c, w⟩ := q
      · exact .inr (.inl ⟨rfl, c, .inr (List.mem_singleton.mp he)⟩)
      · exact .inr (.inl ⟨rfl, c, .inl (List.mem_singleton.mp he)⟩)
    | delete =>
      dsimp only at he
      split at he
      · exact .inr (.inr ⟨rfl, List.mem_singleton.mp he⟩)
      · cases he

/-- An edit that only the import, a modification or phase 3 makes. -/
def Edit.Staged : Edit → Prop
  | .importContact _ => True
  | .modified _ _ _ _ _ => True
  | .touch _ (.updated _) => True
  | .addDone _ _ => True
  | .addFailed _ _ => True
  | .removalDone _ => True
  | _ => False

/-- The handler of a signal makes none of these edits. -/
theorem not_mem_signalEdits {ed : Edit} (b : Backend) (s : Signal) (hs : Edit.Staged ed) :
    ed ∉ b.signalEdits s := by
  intro h
  have hmap : ∀ {f : Contact → Edit} {cs : List Contact}, ed ∈ cs.map f →
      (∀ c, ¬ Edit.Staged (f c)) → False := by
    intro f cs hin hf
    obtain ⟨c, -, rfl⟩ := List.mem_map.mp hin
    exact hf c hs
  unfold signalEdits at h
  cases s with
  | getMembersDone result =>
    cases result with
    | none => cases h
    | some cs => exact hmap h fun _ hc => hc
  | statusChanged st =>
    cases st with
    | online => cases h
    | offline =>
      dsimp only at h
      split at h
      · rw [List.mem_singleton] at h
        subst h
        exact hs
      · cases h
  | contactsRemoved cs =>
    dsimp only at h
    split at h
    · rcases List.mem_append.mp h with h | h
      · obtain ⟨r, -, rfl⟩ := List.mem_map.mp h
        exact hs
      · rw [List.mem_singleton] at h
        subst h
        exact hs
    · cases h
  | avatarDataChanged c =>
    dsimp only at h
    split at h
    · rw [List.mem_singleton] at h
      subst h
      exact hs
    · cases h
  | _ cs =>
    dsimp only at h
    split at h
    · exact hmap h fun _ hc => hc
    · cases h

/-- The import, a modification and phase 3 make the edits that are theirs. -/
theorem mem_edits {b : Backend} {e : Event} {ed : Edit} (hed : ed ∈ b.edits e) (hs : Edit.Staged ed) :
    (e = .phase0 ∧ ∃ c ∈ b.out.db.fetchContacts, ed = .importContact c)
      ∨ (∃ ec r vcardField sent stored, e = .modifyContact ec
        ∧ ed = .modified r ec vcardField sent stored)
      ∨ ∃ order p rest, e = .phase3Next order ∧ b.phase3 = p :: rest ∧ ed ∈ b.phase3Edits p := by
  -- no signal makes an edit of these kinds, so a run of them makes none
  have hsignals : ∀ (ss : List Signal) (b : Backend), ed ∉ b.signalsEdits ss := by
    intro ss
    induction ss with
    | nil => intro b h; cases h
    | cons s ss ih =>
      intro b h
      rcases List.mem_append.mp h with h | h
      · exact not_mem_signalEdits b s hs h
      · exact ih _ h
  have hone : ∀ {x : Edit}, ed ∈ [x] → ¬ Edit.Staged x → False := by
    intro x hin hx
    rw [List.mem_singleton] at hin
    subst hin
    exact hx hs
  have henter : ∀ (b : Backend) (c : Contact), ed ∉ b.enterEdits c := by
    intro b c h
    unfold enterEdits at h
    split at h
    · exact hone h fun hc => hc
    · exact hone h fun hc => hc
  unfold edits at hed
  cases e with
  | cl e =>
    dsimp only at hed
    split at hed
    · exact absurd hed (hsignals _ _)
    · cases hed
  | phase0 =>
    obtain ⟨c, hc, rfl⟩ := List.mem_map.mp hed
    exact .inl ⟨rfl, c, hc, rfl⟩
  | phase2 => exact (hone hed fun hc => hc).elim
  | phase3Next order =>
    -- phase 3 makes the edits of the contact that is at the front
    dsimp only at hed
    split at hed
    · rename_i p rest hp
      exact .inr (.inr ⟨order, p, rest, rfl, hp, hed⟩)
    · cases hed
  | createContact ec =>
    dsimp only at hed
    unfold createEdits at hed
    split at hed
    · cases hed
    · dsimp only at hed
      split at hed
      · split at hed
        · exact absurd hed (henter _ _)
        · cases hed
      · exact absurd hed (henter _ _)
  | modifyContact ec =>
    dsimp only at hed
    unfold modifyEdits at hed
    split at hed
    · cases hed
    · exact .inr (.inl ⟨ec, _, _, _, _, rfl, List.mem_singleton.mp hed⟩)
  | removeContact id =>
    dsimp only at hed
    unfold removeEdits removeFoundEdits removalEdits at hed
    split at hed
    · cases hed
    · split at hed
      · cases hed
      · dsimp only at hed
        rcases List.mem_cons.mp hed with rfl | hed
        · exact hs.elim
        · split at hed
          · split at hed
            · rcases List.mem_cons.mp hed with rfl | hed
              · exact hs.elim
              · exact (hone hed fun hc => hc).elim
            · split at hed <;> exact (hone hed fun hc => hc).elim
          · split at hed
            · exact (hone hed fun hc => hc).elim
            · cases hed
  | _ => cases hed

/-- Only phase 3 finishes the request of a contact, and only of the one it has come to. -/
theorem addDone_mem_edits {b : Backend} {e : Event} {r : Nat} {c : Contact}
    (he : .addDone r c ∈ b.edits e) :
    ∃ p rest todo, b.phase3 = p :: rest ∧ p.stage = .add ∧ p.todo = r :: todo := by
  rcases mem_edits he trivial with ⟨-, c', -, h⟩ | ⟨_, _, _, _, _, -, h⟩ | ⟨order, p, rest, -, hp, hin⟩
  · cases h
  · cases h
  · obtain ⟨r', todo, htodo, ⟨-, h⟩ | ⟨hs, c', h | h⟩ | ⟨-, h⟩⟩ := mem_phase3Edits hin
    · cases h
    · cases h
      exact ⟨p, rest, todo, hp, hs, htodo⟩
    · cases h
    · cases h

/-- Only what is in the database is imported. -/
theorem importContact_mem_edits {b : Backend} {e : Event} {c : Contact}
    (he : .importContact c ∈ b.edits e) : c ∈ b.out.db.fetchContacts := by
  rcases mem_edits he trivial with ⟨-, c', hc, h⟩ | ⟨_, _, _, _, _, -, h⟩ | ⟨order, p, rest, -, -, hin⟩
  · cases h
    exact hc
  · cases h
  · obtain ⟨r, todo, -, ⟨-, h⟩ | ⟨-, c', h | h⟩ | ⟨-, h⟩⟩ := mem_phase3Edits hin <;> cases h

/-- Every edit of an event is proper, and made in a book whose addresses are allocated. -/
theorem edits_allocated {b : Backend} (h : Sane b) (e : Event) :
    AllAlong Book.apply (fun book ed => (book.Allocated ∧ b.book.next ≤ book.next)
      ∧ ed.Proper book ∧ ∀ r c, ed = .addDone r c → r < b.book.next) b.book (b.edits e) := by
  have hdone : AllAlong Book.apply (fun _ ed => ∀ r c, ed = .addDone r c → r < b.book.next) b.book
      (b.edits e) := by
    refine allAlong_of_forall (fun ed hed _ r c heq => ?_) b.book
    subst heq
    obtain ⟨p, rest, todo, hp, -, ht⟩ := addDone_mem_edits hed
    exact h.todo p (by rw [hp]; exact List.mem_cons_self) r (by rw [ht]; exact List.mem_cons_self)
  refine ((edits_proper h.plain e).and hdone).with_inv (fun book ed hI hP => ⟨?_, ?_⟩)
    ⟨h.allocated, Nat.le_refl _⟩
  · exact Book.allocated_apply hI.1 hP.1 fun r c heq => Nat.lt_of_lt_of_le (hP.2 r c heq) hI.2
  · exact Nat.le_trans hI.2 (Book.next_apply book ed)

/-- **The invariant rule for the book.** What every proper edit keeps, every event keeps. -/
theorem take_book_inv {I : Book → Prop} {P : Book → Edit → Prop}
    (hedit : ∀ (book : Book) (ed : Edit), I book → book.Allocated → ed.Proper book → P book ed →
      (∀ r c, ed = .addDone r c → r < book.next) → I (book.apply ed))
    {b b' : Backend} {e : Event} (h : Sane b) (hI : I b.book)
    (hok : AllAlong Book.apply P b.book (b.edits e)) (hs : b.take e = some b') : I b'.book := by
  rw [take_book hs]
  refine AllAlong.foldl_inv (fun book ed hb hp => ?_) ((edits_allocated h e).and hok) hI
  obtain ⟨⟨⟨hall, hle⟩, hproper, hlt⟩, hP⟩ := hp
  exact hedit book ed hb hall hproper hP fun r c heq => Nat.lt_of_lt_of_le (hlt r c heq) hle

/-- No address is given out twice. -/
theorem next_take {b b' : Backend} {e : Event} (h : Sane b) (hs : b.take e = some b') :
    b.book.next ≤ b'.book.next :=
  take_book_inv (I := fun book : Book => b.book.next ≤ book.next) (P := fun _ _ => True)
    (fun book ed hI _ _ _ _ => Nat.le_trans hI (Book.next_apply book ed)) h (Nat.le_refl _)
    (allAlong_of_forall (fun _ _ _ => trivial) _) hs

/-- **Every state of a process is sane.** -/
theorem sane_take {b b' : Backend} {e : Event} (h : Sane b) (hs : b.take e = some b') :
    Sane b' := by
  have hallocated : b'.book.Allocated :=
    take_book_inv (I := Book.Allocated) (P := fun _ _ => True)
      (fun _ _ hI _ hp _ hlt => Book.allocated_apply hI hp hlt) h h.allocated
      (allAlong_of_forall (fun _ _ _ => trivial) _) hs
  have hle : ∀ {r}, r < b.book.next → r < b'.book.next := fun hr =>
    Nat.lt_of_lt_of_le hr (next_take h hs)
  refine ⟨take_plain h.plain hs, hallocated, ?_⟩
  have hagenda := take_agenda hs
  generalize b'.phase3 = ps at hagenda
  cases hagenda with
  | same _ => exact fun p hp r hr => hle (h.todo p hp r hr)
  | begins hperm =>
    intro p hp r hr
    rcases List.mem_cons.mp hp with rfl | hp
    · obtain ⟨k, hk⟩ := Table.mem_values.mp (hperm.subset hr)
      exact hle (h.allocated.toUpdate k r hk)
    · exact hle (h.todo p hp r hr)
  | @advances order p rest qs hb hadv =>
    have hrest : ∀ q ∈ rest, ∀ r ∈ q.todo, r < b'.book.next := fun q hq r hr =>
      hle (h.todo q (by rw [hb]; exact List.mem_cons_of_mem p hq) r hr)
    intro q hq r hr
    rcases List.mem_append.mp hq with hq | hq
    · cases hadv with
      | @next r' p' htodo hstage =>
        rw [List.mem_singleton] at hq
        subst hq
        exact hle (h.todo p (by rw [hb]; exact List.mem_cons_self) r
          (by rw [htodo]; exact List.mem_cons_of_mem r' hr))
      | @snapshot p' htodo hperm =>
        rw [List.mem_singleton] at hq
        subst hq
        obtain ⟨k, hk⟩ := Table.mem_values.mp (hperm.subset hr)
        have hall : Table.All (· < b.book.next) (workTable b.book q.stage) := by
          cases q.stage
          · exact h.allocated.toUpdate
          · exact h.allocated.toAdd
          · exact h.allocated.toDelete
        exact hle (hall k r hk)
      | ended _ => cases hq
    · exact hrest q hq r hr

theorem sane_step {b b' : Backend} {i : Input} (h : Sane b) (hs : b.step i = some b') : Sane b' :=
  sane_take (h.load i.env) hs

theorem sane_reachable {pathSuffix vcardField : String} {db : Db} {b : Backend}
    (h : ReachableFrom pathSuffix vcardField db b) : Sane b := by
  obtain ⟨is, hrun⟩ := h
  exact Machine.run_inv (M := machine) (I := Sane) (fun _ _ _ hI hs => sane_step hI hs) hrun
    (sane_boot pathSuffix vcardField db)

/-! ## Guarded runs -/

/-- Every edit of the event meets the condition in the book that it is made in. -/
def EditsMeet (P : Book → Edit → Prop) (b : Backend) (i : Input) : Prop :=
  AllAlong Book.apply P b.book ((b.load i.env).edits i.event)

instance (P : Book → Edit → Prop) [∀ book, DecidablePred (P book)] (b : Backend) :
    DecidablePred (EditsMeet P b) := fun i =>
  AllAlong.decidable b.book ((b.load i.env).edits i.event)

/-- **The invariant rule for runs.** -/
theorem guarded_book_inv {I : Book → Prop} {P : Book → Edit → Prop}
    (hedit : ∀ (book : Book) (ed : Edit), I book → book.Allocated → ed.Proper book → P book ed →
      (∀ r c, ed = .addDone r c → r < book.next) → I (book.apply ed))
    {b b' : Backend} {is : List Input} (hrun : machine.Guarded (EditsMeet P) b is b') (h : Sane b)
    (hI : I b.book) : Sane b' ∧ I b'.book := by
  refine hrun.inv (I := fun b => Sane b ∧ I b.book) (fun b i b' hb hok hs => ⟨?_, ?_⟩) ⟨h, hI⟩
  · exact sane_step hb.1 hs
  · exact take_book_inv (b := b.load i.env) hedit (hb.1.load i.env) hb.2 hok hs

end Backend

end EdsTelepathy
