import EdsTelepathy.Proof.Calls
import EdsTelepathy.Proof.Frame

/-!
# How an event changes the book

Every event changes the contact objects and the tables by a list of *edits*: the bodies
of the handlers' loops and the table operations of the requests, each with the answers it
depended on filled in. The list is computed here from the state, and `take_book` says
that carrying it out is what the event does. An invariant of the book is then a matter of
the thirteen edits, whatever the events are that make them.
-/

namespace EdsTelepathy

/-- The fields that the handlers of changed contacts copy by handle. -/
inductive Carried where
  | aliasName | presence | flags | capabilities | avatarToken | avatarData | contactInfo
  deriving DecidableEq

/-- What the handler of these fields makes of a contact. -/
def Carried.copy : Carried → Contact → Contact → Contact
  | .aliasName, src, c => { c with aliasName := src.aliasName }
  | .presence, src, c =>
    { c with
      genericStatus := src.genericStatus
      status := src.status
      statusMessage := src.statusMessage }
  | .flags, src, c => { c with flags := src.flags }
  | .capabilities, src, c => { c with capabilities := src.capabilities }
  | .avatarToken, src, c => src.avatarTokenFrom c
  | .avatarData, src, c => src.avatarDataFrom c
  | .contactInfo, src, c => { c with contactInfo := src.contactInfo }

/-- The two records are of the same contact with the same work to be done for it. -/
structure Contact.SameEntry (c c' : Contact) : Prop where
  uid : c'.uid = c.uid
  name : c'.name = c.name
  handle : c'.handle = c.handle
  pendingFlags : c'.pendingFlags = c.pendingFlags
  masterUids : c'.masterUids = c.masterUids
  variants : c'.variants = c.variants

theorem Contact.avatarTokenFrom_eq (src c : Contact) :
    ∃ token, src.avatarTokenFrom c = { c with avatarToken := token } := by
  unfold avatarTokenFrom
  split
  · exact ⟨c.avatarToken, rfl⟩
  · exact ⟨src.avatarToken, rfl⟩

theorem Carried.sameEntry (f : Carried) (src c : Contact) :
    Contact.SameEntry c (f.copy src c) := by
  obtain ⟨token, htoken⟩ := Contact.avatarTokenFrom_eq src c
  cases f with
  | avatarToken =>
    show Contact.SameEntry c (src.avatarTokenFrom c)
    rw [htoken]
    exact ⟨rfl, rfl, rfl, rfl, rfl, rfl⟩
  | avatarData =>
    show Contact.SameEntry c (src.avatarDataFrom c)
    unfold Contact.avatarDataFrom
    rw [htoken]
    exact ⟨rfl, rfl, rfl, rfl, rfl, rfl⟩
  | _ => exact ⟨rfl, rfl, rfl, rfl, rfl, rfl⟩

/-- Only the handler of changed flags copies them. -/
theorem Carried.copy_flags {f : Carried} (hf : f ≠ .flags) (src c : Contact) :
    (f.copy src c).flags = c.flags := by
  obtain ⟨token, htoken⟩ := Contact.avatarTokenFrom_eq src c
  cases f with
  | flags => exact absurd rfl hf
  | avatarToken =>
    show (src.avatarTokenFrom c).flags = c.flags
    rw [htoken]
  | avatarData =>
    show (src.avatarTokenFrom c).flags = c.flags
    rw [htoken]
  | _ => rfl

/-- What is done to a single contact object while the tables stay as they are. -/
inductive Touch where
  | clearDelete
  | updated (unblocked : Bool)
  | submitted (c : Contact) (unblocked : Bool)
  | removeTokens (tokens : List String)
  | masterUidsStored
  | nothingPending

def Touch.apply : Touch → Contact → Contact
  | .clearDelete, e => e.clearDelete
  | .updated unblocked, e => e.updated unblocked
  | .submitted c unblocked, e => (e.mergeSubmitted c).updated unblocked
  | .removeTokens tokens, e => (e.removeTokens tokens).1
  | .masterUidsStored, e => e.masterUidsStored
  | .nothingPending, e => e.nothingPending

/-- One change of the book. -/
inductive Edit where
  | importContact (c : Contact)
  | memberReported (pathSuffix : String) (cIn : Contact)
  | contactAdded (pathSuffix : String) (cIn : Contact)
  | mergeByHandle (f : Carried) (cIn : Contact)
  | forgetHandles
  | touch (r : Nat) (t : Touch)
  | deleteContacts (rs : List Nat)
  | createContact (c : Contact)
  | modified (r : Nat) (ec : Contact.EVCard) (vcardField : String) (sent stored : Bool)
  | scheduleRemoval (r : Nat)
  | addDone (r : Nat) (c : Contact)
  | addFailed (r : Nat) (c : Contact)
  | removalDone (r : Nat)

namespace Book

/-- `modify_contact_idle_cb`, given whether the flags were sent and the contact was stored. -/
def modified (b : Book) (r : Nat) (ec : Contact.EVCard) (vcardField : String)
    (sent stored : Bool) : Book :=
  let b := b.modify r (fun c => (c.updateFromEcontact ec vcardField).2)
  if (b.contacts r).needsUpdate then
    let b := if sent then b.modify r Contact.flagsAsked else b
    let b := b.scheduleUpdate r
    if stored then b.modify r Contact.bookkeepingDone else b
  else b

/-- `merge_contacts`. -/
def mergeContacts (b : Book) (dest src : Nat) : Book :=
  ((b.modify dest (fun d => d.mergeFrom (b.contacts src))).deleteContact src).reenter dest

/-- The second loop of phase 3 where the server normalised the name. -/
def renamed (b : Book) (r : Nat) (oldName : Option String) : Book :=
  let b := b.forgetName oldName
  match b.nameToContact.lookup (b.contacts r).name with
  | some existing => b.mergeContacts existing r
  | none => b.enterName r

/-- The second loop of phase 3 where the request left the contact as `c` and succeeded. -/
def addDone (b : Book) (r : Nat) (c : Contact) : Book :=
  let oldName := (b.contacts r).name
  let b := b.modify r (fun _ => c.clearAdd)
  (if oldName = (b.contacts r).name then b else b.renamed r oldName).unscheduleAdd r

/-- Carry out one edit. -/
def apply (b : Book) : Edit → Book
  | .importContact c => b.importContact c
  | .memberReported pathSuffix cIn => b.memberReported pathSuffix cIn
  | .contactAdded pathSuffix cIn => b.contactAdded pathSuffix cIn
  | .mergeByHandle f cIn => b.mergeByHandle f.copy cIn
  | .forgetHandles => { b with handleToContact := ∅ }
  | .touch r t => b.modify r t.apply
  | .deleteContacts rs => rs.foldl deleteContact b
  | .createContact c => b.createContact c
  | .modified r ec vcardField sent stored => b.modified r ec vcardField sent stored
  | .scheduleRemoval r => (b.modify r Contact.nothingPending).scheduleRemoval r
  | .addDone r c => b.addDone r c
  | .addFailed r c => b.modify r (fun _ => c)
  | .removalDone r => (b.modify r Contact.clearDelete).unscheduleDelete r

@[simp] theorem deleteContact_contacts (b : Book) (r : Nat) :
    (b.deleteContact r).contacts = b.contacts := by
  unfold deleteContact
  dsimp only
  split <;> rfl

@[simp] theorem deleteContact_name (b : Book) (r : Nat) :
    (b.deleteContact r).nameToContact = b.nameToContact.erase (b.contacts r).name := by
  unfold deleteContact
  dsimp only
  split <;> rfl

@[simp] theorem deleteContact_uid (b : Book) (r : Nat) :
    (b.deleteContact r).uidToContact = b.uidToContact.erase (b.contacts r).uid := by
  unfold deleteContact
  dsimp only
  split <;> rfl

theorem foldl_deleteContact_contacts (rs : List Nat) (b : Book) :
    (rs.foldl deleteContact b).contacts = b.contacts := by
  induction rs generalizing b with
  | nil => rfl
  | cons r rs ih => rw [List.foldl_cons, ih, deleteContact_contacts]

@[simp] theorem deleteContact_toAdd (b : Book) (r : Nat) :
    (b.deleteContact r).contactsToAdd = b.contactsToAdd := by
  unfold deleteContact
  dsimp only
  split <;> rfl

@[simp] theorem deleteContact_toDelete (b : Book) (r : Nat) :
    (b.deleteContact r).contactsToDelete = b.contactsToDelete := by
  unfold deleteContact
  dsimp only
  split <;> rfl

@[simp] theorem deleteContact_toUpdate (b : Book) (r : Nat) :
    (b.deleteContact r).contactsToUpdate = b.contactsToUpdate := by
  unfold deleteContact
  dsimp only
  split <;> rfl

/-- Deleting contacts enters nobody in the uid index. -/
theorem foldl_deleteContact_uid {rs : List Nat} {b : Book} {k : String} {r : Nat}
    (h : (rs.foldl deleteContact b).uidToContact.lookup k = some r) :
    b.uidToContact.lookup k = some r := by
  induction rs generalizing b with
  | nil => exact h
  | cons x rs ih =>
    have hx := ih h
    rw [deleteContact_uid] at hx
    exact (Table.lookup_erase_eq_some.mp hx).2

/-- Deleting contacts leaves the entries under other uids alone. -/
theorem lookup_uid_deleteContacts {b : Book} {rs : List Nat} {k : String}
    (h : ∀ x ∈ rs, (b.contacts x).uid ≠ k) :
    (rs.foldl deleteContact b).uidToContact.lookup k = b.uidToContact.lookup k := by
  induction rs generalizing b with
  | nil => rfl
  | cons x rs ih =>
    refine (ih (b := b.deleteContact x) fun y hy => ?_).trans ?_
    · rw [deleteContact_contacts]; exact h y (List.mem_cons_of_mem x hy)
    · rw [deleteContact_uid]
      exact AList.lookup_erase_ne fun heq => h x List.mem_cons_self heq.symm

/-- Deleting contacts leaves the work tables alone. -/
theorem foldl_deleteContact_work (rs : List Nat) (b : Book) :
    (rs.foldl deleteContact b).contactsToAdd = b.contactsToAdd
      ∧ (rs.foldl deleteContact b).contactsToDelete = b.contactsToDelete
      ∧ (rs.foldl deleteContact b).contactsToUpdate = b.contactsToUpdate := by
  induction rs generalizing b with
  | nil => exact ⟨rfl, rfl, rfl⟩
  | cons r rs ih =>
    obtain ⟨h1, h2, h3⟩ := ih (b.deleteContact r)
    exact ⟨h1.trans (deleteContact_toAdd b r), h2.trans (deleteContact_toDelete b r),
      h3.trans (deleteContact_toUpdate b r)⟩

theorem modify_modify (b : Book) (r : Nat) (f g : Contact → Contact) :
    (b.modify r f).modify r g = b.modify r (fun c => g (f c)) := by
  unfold modify
  simp only [Function.update_self, Function.update_idem]

/-- A request to remove leaves the removal pending, and nothing else. -/
theorem contacts_scheduleRemoval (b : Book) (r : Nat) :
    (b.apply (.scheduleRemoval r)).contacts
      = (b.modify r fun c => c.nothingPending.markDelete).contacts := by
  rw [← modify_modify]
  rfl

/-! ## The ends of a completed request -/

section

variable {b : Book} {r : Nat} {c : Contact}

/-- The name is what it was. -/
theorem addDone_same (heq : c.name = (b.contacts r).name) :
    b.addDone r c = (b.modify r fun _ => c.clearAdd).unscheduleAdd r := by
  have hname : ((b.modify r fun _ => c.clearAdd).contacts r).name = c.name := by
    rw [modify_contacts_self]
    rfl
  unfold addDone
  dsimp only
  rw [hname, if_pos heq.symm]

/-- The old name is forgotten first, and the new one is another. -/
theorem lookup_newName (hne : c.name ≠ (b.contacts r).name) :
    ((b.modify r fun _ => c.clearAdd).forgetName (b.contacts r).name).nameToContact.lookup
        (((b.modify r fun _ => c.clearAdd).forgetName (b.contacts r).name).contacts r).name
      = b.nameToContact.lookup c.name := by
  unfold forgetName
  dsimp only
  rw [modify_contacts_self]
  exact AList.lookup_erase_ne hne

theorem addDone_renamed (hne : c.name ≠ (b.contacts r).name) :
    b.addDone r c
      = ((b.modify r fun _ => c.clearAdd).renamed r (b.contacts r).name).unscheduleAdd r := by
  have hname : ((b.modify r fun _ => c.clearAdd).contacts r).name = c.name := by
    rw [modify_contacts_self]
    rfl
  unfold addDone
  dsimp only
  rw [hname, if_neg fun he => hne he.symm]

/-- The name is another one that nobody has. -/
theorem addDone_free (hne : c.name ≠ (b.contacts r).name)
    (hfree : b.nameToContact.lookup c.name = none) :
    b.addDone r c
      = (((b.modify r fun _ => c.clearAdd).forgetName (b.contacts r).name).enterName r).unscheduleAdd
          r := by
  rw [addDone_renamed hne]
  unfold renamed
  dsimp only
  rw [lookup_newName hne, hfree]

/-- The name is the one of another contact, which the contact is merged into. -/
theorem addDone_merged (hne : c.name ≠ (b.contacts r).name) {dest : Nat}
    (hdest : b.nameToContact.lookup c.name = some dest) :
    b.addDone r c
      = (((b.modify r fun _ => c.clearAdd).forgetName (b.contacts r).name).mergeContacts dest
          r).unscheduleAdd r := by
  rw [addDone_renamed hne]
  unfold renamed
  dsimp only
  rw [lookup_newName hne, hdest]

/-- The contact merged into takes over what the other one is after the request. -/
theorem mergeContacts_contacts (b : Book) (r dest : Nat) (c : Contact) (oldName : Option String) :
    (((b.modify r fun _ => c.clearAdd).forgetName oldName).mergeContacts dest r).contacts
      = ((b.modify r fun _ => c.clearAdd).modify dest fun d => d.mergeFrom c.clearAdd).contacts := by
  unfold mergeContacts reenter
  dsimp only
  rw [deleteContact_contacts]
  show ((b.modify r fun _ => c.clearAdd).modify dest
    fun d => d.mergeFrom ((b.modify r fun _ => c.clearAdd).contacts r)).contacts = _
  rw [modify_contacts_self]

end

end Book

namespace Backend

/-! ## The edits of an event -/

/-- The edits of the handler of a signal. -/
def signalEdits (b : Backend) : Signal → List Edit
  | .getMembersDone none => []
  | .getMembersDone (some cs) => cs.map (.memberReported b.pathSuffix)
  | .statusChanged .online => []
  | .statusChanged .offline => if b.membersReady then [.forgetHandles] else []
  | .contactsAdded cs => if b.membersReady then cs.map (.contactAdded b.pathSuffix) else []
  | .contactsRemoved cs =>
    if b.membersReady then
      (b.book.byHandle cs).map (.touch · .clearDelete) ++ [.deleteContacts (b.book.byHandle cs)]
    else []
  | .flagsChanged cs => if b.membersReady then cs.map (.mergeByHandle .flags) else []
  | .aliasesChanged cs => if b.membersReady then cs.map (.mergeByHandle .aliasName) else []
  | .presencesChanged cs => if b.membersReady then cs.map (.mergeByHandle .presence) else []
  | .avatarTokensChanged cs =>
    if b.membersReady then cs.map (.mergeByHandle .avatarToken) else []
  | .capabilitiesChanged cs =>
    if b.membersReady then cs.map (.mergeByHandle .capabilities) else []
  | .contactInfoChanged cs =>
    if b.membersReady then cs.map (.mergeByHandle .contactInfo) else []
  | .avatarDataChanged c => if b.membersReady then [.mergeByHandle .avatarData c] else []

/-- The edits of the handlers of several signals, one after the other. -/
def signalsEdits : Backend → List Signal → List Edit
  | _, [] => []
  | b, s :: ss => b.signalEdits s ++ (b.onSignal s).signalsEdits ss

/-- Whether `run_update_contact` unblocks the contact. -/
def unblocks (b : Backend) (r : Nat) : Bool :=
  let c := b.book.contacts r
  let w :=
    if c.pendingFlags.has scheduleUpdateFlags then (b.tpcl.runUpdateFlags c b.wire).2 else b.wire
  c.pendingFlags.has scheduleUnblock && (b.tpcl.runUnblockContact c w).1

/-- The edits of `run_create_contact` from the lookup by name on. -/
def enterEdits (b : Backend) (c : Contact) : List Edit :=
  match b.book.nameToContact.lookup c.name with
  | some r => [.touch r (.submitted c ((b.modify r (fun e => e.mergeSubmitted c)).unblocks r))]
  | none => [.createContact c]

/-- The edits of `create_contacts_idle_cb`. -/
def createEdits (b : Backend) (ec : Contact.EVCard) : List Edit :=
  match Contact.new.updateFromEcontact ec b.vcardField with
  | (false, _) => []
  | (true, c) =>
    let c := c.submitted (generateUid b.pathSuffix b.book.uidToContact c.name)
    if b.tpcl.status = .online then
      match b.runAddContact c with
      | (true, c, w) => { b with wire := w }.enterEdits c
      | (false, _, _) => []
    else b.enterEdits c

/-- Whether `modify_contact_idle_cb` sends the flags at once. -/
def sendsFlags (b : Backend) (r : Nat) : Bool :=
  decide (b.tpcl.status = .online) && (b.book.contacts r).pendingFlags.has scheduleUpdateFlags
    && (b.tpcl.runUpdateFlags (b.book.contacts r) b.wire).1

/-- The edits of `modify_contact_idle_cb`. -/
def modifyEdits (b : Backend) (ec : Contact.EVCard) : List Edit :=
  match (Contact.cardUid ec).bind b.book.uidToContact.lookup with
  | none => []
  | some r =>
    let b' := b.flush.modify r (fun c => (c.updateFromEcontact ec b.vcardField).2)
    [.modified r ec b.vcardField (b'.sendsFlags r)
      (((b'.sendFlags r).scheduleUpdate r).dbUpdateContact r).1]

/--
The edits of `run_remove_contact` where the contact itself goes. To put the removal off is
one edit: the pending bits are cleared and the one for a removal is set.
-/
def removalEdits (b : Backend) (r : Nat) : List Edit :=
  if (b.book.contacts r).flags.has contactInvalid then
    [.touch r .nothingPending, .deleteContacts [r]]
  else if b.tpcl.status = .online ∧ (b.tpcl.runRemoveContact (b.book.contacts r) b.wire).1 then
    [.touch r .nothingPending]
  else [.scheduleRemoval r]

/-- The edits of `remove_contacts_idle_cb` for a contact that was found. -/
def removeFoundEdits (b : Backend) (r : Nat) (tokens : List String) : List Edit :=
  let b' := b.modify r fun c => (c.removeTokens tokens).1
  .touch r (.removeTokens tokens) ::
    if ((b.book.contacts r).removeTokens tokens).2 then b'.removalEdits r
    else if (b'.book.contacts r).pendingFlags.has scheduleUpdateMasterUid
        ∧ (b'.dbUpdateContact r).1 then [.touch r .masterUidsStored]
    else []

/-- The edits of `remove_contacts_idle_cb`. -/
def removeEdits (b : Backend) (id : String) : List Edit :=
  match splitId id with
  | [] => []
  | uid :: tokens =>
    match b.book.uidToContact.lookup uid with
    | none => []
    | some r => b.flush.removeFoundEdits r tokens

/-- The edits of a piece of phase 3. -/
def phase3Edits (b : Backend) (p : Phase3) : List Edit :=
  match p.stage, p.todo with
  | .update, r :: _ => [.touch r (.updated (b.unblocks r))]
  | .add, r :: _ =>
    match b.runAddContact (b.book.contacts r) with
    | (true, c, _) => [.addDone r c]
    | (false, c, _) => [.addFailed r c]
  | .delete, r :: _ =>
    if (b.tpcl.runRemoveContact (b.book.contacts r) b.wire).1 then [.removalDone r] else []
  | _, [] => []

/-- The edits of an event. -/
def edits (b : Backend) : Event → List Edit
  | .cl e =>
    match b.tpcl.step e with
    | some (cl, signals) => { b with tpcl := cl }.signalsEdits signals
    | none => []
  | .phase0 => b.out.db.fetchContacts.map .importContact
  | .phase2 => [.deleteContacts (unseen b.book)]
  | .phase3Next _ =>
    match b.phase3 with
    | p :: _ => b.phase3Edits p
    | [] => []
  | .createContact ec => b.flush.createEdits ec
  | .modifyContact ec => b.modifyEdits ec
  | .removeContact id => b.removeEdits id
  | .phase3 _ => []
  | .updateContactsIdle => []
  | .startView _ => []
  | .stopView _ => []
  | .inactivity _ => []
  | .avatarDataSaved _ _ => []
  | .getContact => []

/-! ## The synchronisation stays clear of the book -/

/-- `b'` differs from `b` in the walk in flight and the bookkeeping of the synchronisation. -/
def SyncOnly (b b' : Backend) : Prop :=
  ∃ calls isLoading reload queued, (∀ k ∈ queued, k = {})
    ∧ b' = { b with
        tpcl := { b.tpcl with calls := calls }
        isLoading := isLoading
        needContactsReload := reload
        phase2Queued := b.phase2Queued ++ queued }

theorem SyncOnly.refl (b : Backend) : SyncOnly b b :=
  ⟨b.tpcl.calls, b.isLoading, b.needContactsReload, [], by simp, by rw [List.append_nil]⟩

theorem SyncOnly.trans {b b' b'' : Backend} (h : SyncOnly b b') (h' : SyncOnly b' b'') :
    SyncOnly b b'' := by
  obtain ⟨c, l, n, q, hq, rfl⟩ := h
  obtain ⟨c', l', n', q', hq', rfl⟩ := h'
  refine ⟨c', l', n', q ++ q', fun k hk => ?_, by rw [List.append_assoc]⟩
  rcases List.mem_append.mp hk with hk | hk
  · exact hq k hk
  · exact hq' k hk

theorem SyncOnly.book {b b' : Backend} (h : SyncOnly b b') : b'.book = b.book := by
  obtain ⟨_, _, _, _, -, rfl⟩ := h; rfl

theorem SyncOnly.out {b b' : Backend} (h : SyncOnly b b') : b'.out = b.out := by
  obtain ⟨_, _, _, _, -, rfl⟩ := h; rfl

theorem SyncOnly.phase3 {b b' : Backend} (h : SyncOnly b b') : b'.phase3 = b.phase3 := by
  obtain ⟨_, _, _, _, -, rfl⟩ := h; rfl

/-- The flags of the synchronisation can be set at will. -/
theorem syncOnly_flags (b : Backend) (isLoading reload : Bool) :
    SyncOnly b { b with isLoading := isLoading, needContactsReload := reload } :=
  ⟨b.tpcl.calls, isLoading, reload, [], by simp, by rw [List.append_nil]⟩

theorem syncOnly_finishWith {sync : Backend → Backend} (hsync : ∀ b, SyncOnly b (sync b))
    (b : Backend) : SyncOnly b (b.finishWith sync) := by
  unfold finishWith
  dsimp only
  split
  · exact (syncOnly_flags b false false).trans (hsync _)
  · exact syncOnly_flags b false b.needContactsReload

theorem syncOnly_syncPhase1Fuel (fuel : Nat) (b : Backend) :
    SyncOnly b (syncPhase1Fuel fuel b) := by
  induction fuel generalizing b with
  | zero => exact .refl b
  | succ fuel ih =>
    unfold syncPhase1Fuel
    split
    · exact syncOnly_flags b b.isLoading true
    · obtain ⟨calls, hcl⟩ := Cl.getMembers_eq b.tpcl
      have hget : SyncOnly b { b with isLoading := true, tpcl := b.tpcl.getMembers.1 } :=
        ⟨calls, true, b.needContactsReload, [], by simp, by rw [hcl, List.append_nil]⟩
      dsimp only
      split
      · exact hget.trans (syncOnly_finishWith ih _)
      · rename_i cs _ heq
        -- a roster that is there at once is empty
        obtain rfl := Cl.getMembers_done (by rw [heq]; exact List.mem_cons_self)
        exact hget.trans ⟨_, true, b.needContactsReload, [{}], by simp, rfl⟩
      · exact hget

theorem syncOnly_syncPhase1 (b : Backend) : SyncOnly b b.syncPhase1 :=
  syncOnly_syncPhase1Fuel 2 b

theorem syncOnly_finishOnlineInitialization (b : Backend) :
    SyncOnly b b.finishOnlineInitialization :=
  syncOnly_finishWith syncOnly_syncPhase1 b

/-! ## The edits are what the event does -/

theorem runUpdateContact_book (b : Backend) (r : Nat) :
    (b.runUpdateContact r).2.book = b.book.apply (.touch r (.updated (b.unblocks r))) := by
  unfold runUpdateContact unblocks Book.apply Touch.apply
  dsimp only
  split
  · rename_i h
    rw [h, Bool.true_and]; rfl
  · rename_i h
    have h' : (b.book.contacts r).pendingFlags.has scheduleUnblock = false := by simpa using h
    rw [h', Bool.false_and]; rfl

theorem mergeByHandle_book (b : Backend) (f : Carried) (db : Bool) (cs : List Contact) :
    (b.mergeByHandle f.copy db cs).book
      = (cs.map (Edit.mergeByHandle f)).foldl Book.apply b.book := by
  rw [List.foldl_map]; rfl

theorem fst_foldl_contactAddedInto (pathSuffix : String) (cs : List Contact)
    (st : Book × Book.AddedArrays) :
    (cs.foldl (Book.contactAddedInto pathSuffix) st).1
      = cs.foldl (Book.contactAdded pathSuffix) st.1 := by
  induction cs generalizing st with
  | nil => rfl
  | cons c cs ih => exact ih _

theorem fst_foldl_memberReportedInto (pathSuffix : String) (cs : List Contact)
    (st : Book × GetMembersClosure) :
    (cs.foldl (Book.memberReportedInto pathSuffix) st).1
      = cs.foldl (Book.memberReported pathSuffix) st.1 := by
  induction cs generalizing st with
  | nil => rfl
  | cons c cs ih => exact ih _

theorem fst_foldl_avatarTokenInto (files : List String) (cs : List Contact)
    (st : Book × List Nat) :
    (cs.foldl (Book.avatarTokenInto files) st).1
      = cs.foldl (Book.mergeByHandle Contact.avatarTokenFrom) st.1 := by
  induction cs generalizing st with
  | nil => rfl
  | cons c cs ih => exact ih _

theorem tpClAvatarTokensChangedCb_book (b : Backend) (cs : List Contact) :
    (b.tpClAvatarTokensChangedCb cs).book
      = (cs.map (Edit.mergeByHandle .avatarToken)).foldl Book.apply b.book := by
  rw [List.foldl_map]
  exact fst_foldl_avatarTokenInto b.avatarFiles cs (b.book, [])

theorem tpClAvatarDataChangedCb_book (b : Backend) (c : Contact) :
    (b.tpClAvatarDataChangedCb c).book
      = [Edit.mergeByHandle .avatarData c].foldl Book.apply b.book := by
  show _ = b.book.mergeByHandle _ c
  unfold tpClAvatarDataChangedCb Book.mergeByHandle
  split <;> rfl

theorem avatarDataSavedCb_book (b : Backend) (r : Nat) (ok : Bool) :
    (b.avatarDataSavedCb r ok).book = b.book := by
  unfold avatarDataSavedCb
  split <;> rfl

theorem tpClContactsAdded_book (b : Backend) (cs : List Contact) :
    (b.tpClContactsAdded cs).book
      = (cs.map (Edit.contactAdded b.pathSuffix)).foldl Book.apply b.book := by
  rw [List.foldl_map]
  exact fst_foldl_contactAddedInto b.pathSuffix cs (b.book, {})

theorem rosterReceived_book (b : Backend) (cs : List Contact) :
    (b.rosterReceived cs).book
      = (cs.map (Edit.memberReported b.pathSuffix)).foldl Book.apply b.book := by
  rw [List.foldl_map]
  exact fst_foldl_memberReportedInto b.pathSuffix cs (b.book, {})

theorem tpClContactsRemoved_book (b : Backend) (cs : List Contact) :
    (b.tpClContactsRemoved cs).book
      = ((b.book.byHandle cs).map (Edit.touch · .clearDelete)
          ++ [Edit.deleteContacts (b.book.byHandle cs)]).foldl Book.apply b.book := by
  have hclear : (b.book.byHandle cs).foldl (fun book r => book.modify r Contact.clearDelete) b.book
      = ((b.book.byHandle cs).map (Edit.touch · .clearDelete)).foldl Book.apply b.book := by
    rw [List.foldl_map]; rfl
  rw [List.foldl_append, ← hclear]
  unfold tpClContactsRemoved
  dsimp only
  split
  · rename_i hnil
    rw [hnil]; rfl
  · rfl

/-- The handler of a signal carries out the edits of the signal. -/
theorem onSignal_book (b : Backend) (s : Signal) :
    (b.onSignal s).book = (b.signalEdits s).foldl Book.apply b.book := by
  have hite : ∀ {b' : Backend} {es : List Edit}, b'.book = es.foldl Book.apply b.book →
      (if b.membersReady then b' else b).book
        = (if b.membersReady then es else []).foldl Book.apply b.book := by
    intro b' es h
    split
    · exact h
    · rfl
  cases s with
  | getMembersDone result =>
    cases result with
    | none => exact (syncOnly_finishOnlineInitialization b).book
    | some cs => exact rosterReceived_book b cs
  | statusChanged st =>
    cases st with
    | online =>
      unfold onSignal signalEdits tpClStatusChangedCb
      dsimp only
      split
      · exact (syncOnly_syncPhase1 b).book
      · rfl
    | offline => exact hite rfl
  | contactsAdded cs => exact hite (tpClContactsAdded_book b cs)
  | contactsRemoved cs => exact hite (tpClContactsRemoved_book b cs)
  | flagsChanged cs => exact hite (mergeByHandle_book b .flags true cs)
  | aliasesChanged cs => exact hite (mergeByHandle_book b .aliasName true cs)
  | presencesChanged cs => exact hite (mergeByHandle_book b .presence false cs)
  | avatarTokensChanged cs => exact hite (tpClAvatarTokensChangedCb_book b cs)
  | capabilitiesChanged cs => exact hite (mergeByHandle_book b .capabilities false cs)
  | contactInfoChanged cs => exact hite (mergeByHandle_book b .contactInfo true cs)
  | avatarDataChanged c => exact hite (tpClAvatarDataChangedCb_book b c)

theorem onSignals_book (b : Backend) (ss : List Signal) :
    (ss.foldl onSignal b).book = (b.signalsEdits ss).foldl Book.apply b.book := by
  induction ss generalizing b with
  | nil => rfl
  | cons s ss ih =>
    unfold signalsEdits
    rw [List.foldl_append, ← onSignal_book]
    exact ih (b.onSignal s)

/-! ### Requests -/

theorem createExisting_book (b : Backend) (r : Nat) (c : Contact) :
    (b.createExisting r c).book
      = b.book.apply (.touch r
          (.submitted c ((b.modify r (fun e => e.mergeSubmitted c)).unblocks r))) := by
  have hrun := runUpdateContact_book (b.modify r (fun e => e.mergeSubmitted c)) r
  have hbook : (b.createExisting r c).book
      = ((b.modify r (fun e => e.mergeSubmitted c)).runUpdateContact r).2.book := by
    unfold createExisting
    dsimp only
    split
    · rename_i heq
      rw [heq]; rfl
    · rename_i heq
      rw [heq]
  rw [hbook, hrun]
  exact Book.modify_modify b.book r _ _

theorem createNew_book (b : Backend) (c : Contact) :
    (b.createNew c).2.book = b.book.apply (.createContact c) := by
  unfold createNew
  dsimp only
  split <;> rfl

theorem enterCreated_book (b : Backend) (c : Contact) :
    (b.enterCreated c).2.book = (b.enterEdits c).foldl Book.apply b.book := by
  unfold enterCreated enterEdits
  cases b.book.nameToContact.lookup c.name with
  | some r => exact createExisting_book b r c
  | none => exact createNew_book b c

theorem createContact_book (b : Backend) (ec : Contact.EVCard) :
    (b.createContact ec).book = (b.flush.createEdits ec).foldl Book.apply b.book := by
  have hflush : b.book = b.flush.book := rfl
  rw [hflush]
  unfold createContact runCreateContact createEdits
  rcases Contact.new.updateFromEcontact ec b.flush.vcardField with ⟨_ | _, c⟩
  · rfl
  · dsimp only
    split
    · rcases b.flush.runAddContact _ with ⟨_ | _, c', w⟩
      · rfl
      · exact enterCreated_book { b.flush with wire := w } c'
    · exact enterCreated_book _ _

/-- What a request does to the book when the flags are sent, or not. -/
theorem sendFlags_book (b : Backend) (r : Nat) :
    (b.sendFlags r).book
      = if b.sendsFlags r then b.book.modify r Contact.flagsAsked else b.book := by
  unfold sendFlags sendsFlags
  by_cases hon : b.tpcl.status = .online
    ∧ (b.book.contacts r).pendingFlags.has scheduleUpdateFlags = true
  · rw [if_pos hon, hon.2, decide_eq_true hon.1]
    split
    · rename_i heq
      rw [heq]; rfl
    · rename_i heq
      rw [heq]; rfl
  · rw [if_neg hon, if_neg]
    intro h
    simp only [Bool.and_eq_true, decide_eq_true_eq] at h
    exact hon h.1

theorem storeModification_book (b : Backend) (r : Nat) :
    (b.storeModification r).book
      = if (b.dbUpdateContact r).1 then b.book.modify r Contact.bookkeepingDone else b.book := by
  unfold storeModification
  split
  · rename_i heq
    have hb := congrArg (fun p => p.2.book) heq
    rw [heq, if_pos rfl]
    dsimp only at hb
    unfold notifyUpdatedContact modify
    dsimp only
    rw [← hb]; rfl
  · rename_i heq
    have hb := congrArg (fun p => p.2.book) heq
    rw [heq, if_neg Bool.false_ne_true]
    exact hb.symm

theorem modifyContact_book (b : Backend) (ec : Contact.EVCard) :
    (b.modifyContact ec).book = (b.modifyEdits ec).foldl Book.apply b.book := by
  unfold modifyContact modifyEdits
  dsimp only
  have hflush : b.flush.book = b.book := rfl
  have hvf : b.flush.vcardField = b.vcardField := rfl
  rw [hflush, hvf]
  cases (Contact.cardUid ec).bind b.book.uidToContact.lookup with
  | none => rfl
  | some r =>
    dsimp only [List.foldl_cons, List.foldl_nil]
    have hbook : (b.flush.modify r fun c => (c.updateFromEcontact ec b.vcardField).2).book
        = b.book.modify r fun c => (c.updateFromEcontact ec b.vcardField).2 := rfl
    have hsch : ∀ b' : Backend, (b'.scheduleUpdate r).book = b'.book.scheduleUpdate r :=
      fun _ => rfl
    unfold Book.apply Book.modified
    dsimp only
    rw [hbook]
    split
    · unfold commitModification
      rw [storeModification_book, hsch, sendFlags_book, hbook]
    · exact hbook

theorem removeMasterUids_book (b : Backend) (r : Nat) :
    (b.removeMasterUids r).book
      = if (b.book.contacts r).pendingFlags.has scheduleUpdateMasterUid ∧ (b.dbUpdateContact r).1
        then b.book.modify r Contact.masterUidsStored else b.book := by
  unfold removeMasterUids
  split
  · rename_i hp
    split
    · rename_i heq
      have hb := congrArg (fun p => p.2.book) heq
      dsimp only at hb
      rw [heq, if_pos ⟨hp, rfl⟩]
      unfold notifyUpdatedContact modify
      dsimp only
      rw [← hb]; rfl
    · rename_i heq
      have hb := congrArg (fun p => p.2.book) heq
      rw [heq, if_neg (by rintro ⟨-, h⟩; cases h)]
      exact hb.symm
  · rename_i hp
    rw [if_neg fun h => hp h.1]

theorem reallyRemove_book (b : Backend) (r : Nat) :
    (b.reallyRemove r).book = (b.removalEdits r).foldl Book.apply b.book := by
  have hself : (b.modify r Contact.nothingPending).book.contacts r
      = (b.book.contacts r).nothingPending := Book.modify_contacts_self b.book r _
  -- the request looks at the handle of the contact only
  have hasks : (b.modify r Contact.nothingPending).tpcl.runRemoveContact
        (b.book.contacts r).nothingPending (b.modify r Contact.nothingPending).wire
      = b.tpcl.runRemoveContact (b.book.contacts r) b.wire := rfl
  unfold reallyRemove requestRemoval removalEdits
  rw [hself]
  show (if (b.book.contacts r).flags.has contactInvalid then _ else _ : Backend).book = _
  split
  · rfl
  · by_cases hon : b.tpcl.status = .online
    · rw [if_pos (show (b.modify r Contact.nothingPending).tpcl.status = .online from hon), hasks]
      rcases b.tpcl.runRemoveContact (b.book.contacts r) b.wire with ⟨_ | _, w⟩
      · rw [if_neg (by rintro ⟨-, h⟩; cases h)]
        rfl
      · rw [if_pos ⟨hon, rfl⟩]
        rfl
    · rw [if_neg (show ¬ (b.modify r Contact.nothingPending).tpcl.status = .online from hon),
        if_neg fun h => hon h.1]
      rfl

theorem removeContact_book (b : Backend) (id : String) :
    (b.removeContact id).book = (b.removeEdits id).foldl Book.apply b.book := by
  unfold removeContact removeEdits
  dsimp only
  have hflush : b.flush.book = b.book := rfl
  rw [hflush]
  cases splitId id with
  | nil => rfl
  | cons uid tokens =>
    dsimp only
    cases b.book.uidToContact.lookup uid with
    | none => rfl
    | some r =>
      unfold removeFoundEdits
      dsimp only
      rw [hflush, List.foldl_cons]
      split
      · exact reallyRemove_book _ r
      · rw [removeMasterUids_book]
        split
        · rfl
        · rfl

/-! ### Phase 3 -/

theorem phase3Renamed_book (b : Backend) (r : Nat) (oldName : Option String) :
    (b.phase3Renamed r oldName).2.book = b.book.renamed r oldName := by
  unfold phase3Renamed Book.renamed
  dsimp only
  cases (b.book.forgetName oldName).nameToContact.lookup
      ((b.book.forgetName oldName).contacts r).name with
  | some existing => rfl
  | none => rfl

theorem phase3Added_book (b : Backend) (r : Nat) (oldName : Option String) :
    (b.phase3Added r oldName).2.book
      = if oldName = (b.book.contacts r).name then b.book else b.book.renamed r oldName := by
  unfold phase3Added
  split
  · rfl
  · exact phase3Renamed_book b r oldName

/-- Phase 3 carries out its edits, and goes on or ends. -/
theorem stepPhase3_book {b b' : Backend} {p : Phase3} {order : List Nat}
    (h : b.stepPhase3 p order = some b') :
    b'.book = (b.phase3Edits p).foldl Book.apply b.book := by
  unfold phase3Edits
  cases stepPhase3_turn h with
  | @update r todo hs ht =>
    rw [hs, ht]
    have hrun := runUpdateContact_book b r
    unfold phase3Update
    rcases heq : b.runUpdateContact r with ⟨_ | _, b₁⟩
    · rw [heq] at hrun; exact hrun
    · rw [heq] at hrun; exact hrun
  | @add r todo hs ht =>
    rw [hs, ht]
    unfold phase3Add
    dsimp only
    rcases b.runAddContact (b.book.contacts r) with ⟨_ | _, c, w⟩
    · rfl
    · have hadded := phase3Added_book { b.modify r (fun _ => c.clearAdd) with wire := w } r
        (b.book.contacts r).name
      exact congrArg (fun book => Book.unscheduleAdd book r) hadded
  | @delete r todo hs ht =>
    rw [hs, ht]
    unfold phase3Delete
    dsimp only
    rcases b.tpcl.runRemoveContact (b.book.contacts r) b.wire with ⟨_ | _, w⟩
    · rfl
    · rfl
  | snapshot _ ht _ =>
    rw [ht]
    cases p.stage <;> rfl
  | ended hend =>
    rw [hend.1, hend.2]
    exact (syncOnly_finishOnlineInitialization _).book

theorem tpReadyCb_spec (b : Backend) :
    ∃ views, SyncOnly
      { b with out := { b.out with views := views }, membersReady := true } b.tpReadyCb := by
  unfold tpReadyCb
  dsimp only
  split
  · exact ⟨_, syncOnly_syncPhase1 _⟩
  · exact ⟨_, .refl _⟩

theorem syncPhase0IdleCb_book (b : Backend) :
    b.syncPhase0IdleCb.book
      = (b.out.db.fetchContacts.map Edit.importContact).foldl Book.apply b.book := by
  obtain ⟨views, hsync⟩ := tpReadyCb_spec
    { b with
      book := b.out.db.fetchContacts.foldl Book.importContact b.book
      phase0Queued := false }
  rw [List.foldl_map]
  exact hsync.book

theorem syncPhase2IdleCb_book (b : Backend) (closure : GetMembersClosure) :
    (b.syncPhase2IdleCb closure).book
      = [Edit.deleteContacts (unseen b.book)].foldl Book.apply b.book := by
  unfold syncPhase2IdleCb
  dsimp only
  split
  · rename_i hnil
    rw [hnil]; rfl
  · rfl

/-- **What an event does to the book is to carry out its edits.** -/
theorem take_book {b b' : Backend} {e : Event} (h : b.take e = some b') :
    b'.book = (b.edits e).foldl Book.apply b.book := by
  cases take_taken h with
  | @cl e cl signals hstep =>
    unfold edits
    dsimp only
    rw [hstep]
    exact onSignals_book { b with tpcl := cl } signals
  | phase0 _ => exact syncPhase0IdleCb_book b
  | phase2 _ => exact syncPhase2IdleCb_book _ _
  | phase3 _ _ =>
    unfold beginPhase3
    split
    · rfl
    · exact (syncOnly_finishOnlineInitialization _).book
  | @phase3Next _ p rest _ hp hstep =>
    have hedits : { b with phase3 := rest }.phase3Edits p = b.phase3Edits p := rfl
    unfold edits
    dsimp only
    rw [hp]
    dsimp only
    rw [← hedits]
    exact stepPhase3_book (b := { b with phase3 := rest }) hstep
  | createContact ec => exact createContact_book b ec
  | modifyContact ec => exact modifyContact_book b ec
  | removeContact id => exact removeContact_book b id
  | updateContactsIdle => rfl
  | startView id => rfl
  | stopView id => rfl
  | inactivity on => rfl
  | avatarDataSaved ok _ => exact avatarDataSavedCb_book _ _ ok
  | getContact => rfl

end Backend

end EdsTelepathy
