import EdsTelepathy.Backend.Signals

/-!
# Requests of the address book

Creating, modifying and removing a contact, and the three functions of phase 3 that do
the same for a contact whose request was put off. Each decides what it can at once, asks
the contact list layer if the account is online, and leaves in the pending flags and the
work tables what could not be done.

What the requests do to a single contact is defined apart from the tables, on `Contact`,
with the answers of the connection manager as arguments.
-/

namespace EdsTelepathy

namespace Contact

/-! ## The contact itself -/

/-- The first part of `run_update_contact`: whatever came of it, the flags are not sent again. -/
def flagsAsked (c : Contact) : Contact :=
  { c with pendingFlags := c.pendingFlags &&& ~~~scheduleUpdateFlags }

/-- The second part: an unblock that failed stays queued, and the contact is shown meanwhile. -/
def unblockAsked (c : Contact) (unblocked : Bool) : Contact :=
  if c.pendingFlags.has scheduleUnblock then
    if unblocked then { c with pendingFlags := c.pendingFlags &&& ~~~scheduleUnblock }
    else { c with flags := c.flags &&& ~~~deny }
  else c

/-- The third part: master UIDs and variants are about to be written. -/
def bookkeepingDone (c : Contact) : Contact :=
  { c with
    pendingFlags := (c.pendingFlags &&& ~~~scheduleUpdateMasterUid) &&& ~~~scheduleUpdateVariants }

/-- What `run_update_contact` makes of the contact. -/
def updated (c : Contact) (unblocked : Bool) : Contact :=
  (c.flagsAsked.unblockAsked unblocked).bookkeepingDone

/--
Whether `run_update_contact` has something to do, which is what it returns;
`modify_contact_idle_cb` asks the same after it took a vcard over.
-/
def needsUpdate (c : Contact) : Bool :=
  c.pendingFlags.has scheduleUpdateFlags || c.pendingFlags.has scheduleUnblock
    || c.pendingFlags.has scheduleUpdateMasterUid || c.pendingFlags.has scheduleUpdateVariants

/-- `run_add_contact` where the connection manager calls the name invalid. -/
def markInvalid (c : Contact) : Contact :=
  { c with
    flags := c.flags ||| contactInvalid
    pendingFlags := (c.pendingFlags &&& ~~~scheduleUpdateFlags) &&& ~~~allListFlags }

/-- `run_create_contact` up to the request: the contact of a vcard with its new uid. -/
def submitted (c : Contact) (uid : String) : Contact :=
  { c with
    uid := uid
    pendingFlags := c.pendingFlags ||| scheduleAdd ||| (subscribe ||| publish ||| stored) }

/-- `run_create_contact` where the name is known: what the known contact takes over. -/
def mergeSubmitted (e c : Contact) : Contact :=
  let e := (e.updateMasterUids c.masterUids).addVariantsFromContact c
  if e.flags.has deny then
    { e with pendingFlags := (e.pendingFlags &&& ~~~deny) ||| scheduleUnblock }
  else e

/-- The beginning of `merge_contacts`: what `dest` takes over from `src`. -/
def mergeFrom (dest src : Contact) : Contact :=
  let dest := (dest.addVariantsFromContact src).updateMasterUids src.masterUids
  if src.pendingFlags.has scheduleUnblock then
    { dest with pendingFlags := dest.pendingFlags ||| scheduleUnblock }
  else dest

/-- `pending_flags = 0`. -/
def nothingPending (c : Contact) : Contact := { c with pendingFlags := 0 }

/-- `pending_flags |= SCHEDULE_DELETE`. -/
def markDelete (c : Contact) : Contact :=
  { c with pendingFlags := c.pendingFlags ||| scheduleDelete }

/-- `pending_flags &= ~SCHEDULE_UPDATE_MASTER_UID`. -/
def masterUidsStored (c : Contact) : Contact :=
  { c with pendingFlags := c.pendingFlags &&& ~~~scheduleUpdateMasterUid }

/-- One further part of the id of a remove request. -/
def removeToken (st : Contact × Bool) (token : String) : Contact × Bool :=
  if token = "preserve" then (st.1, false)
  else if token = "if-unused" then st
  else (st.1.removeMasterUid token, st.2)

/-- The special cases of `run_remove_contact`, and `really_remove`. -/
def removeTokens (c : Contact) (tokens : List String) : Contact × Bool :=
  match tokens with
  | [] => (c, true)
  | "*" :: _ => (c.removeAllMasterUids, false)
  | _ =>
    let (c, really) := tokens.foldl removeToken (c, true)
    (c, really && c.masterUids.isEmpty)

end Contact

/-! ## Tables -/

namespace Book

/-- Enter a contact that a create request brought under its uid and name. -/
def createContact (b : Book) (c : Contact) : Book :=
  let r := b.next
  let b := b.alloc c
  let b := { b with
    uidToContact := b.uidToContact.insert c.uid r
    nameToContact := b.nameToContact.insert c.name r }
  if c.pendingFlags.has scheduleAdd then
    { b with contactsToAdd := b.contactsToAdd.insert c.uid r }
  else b

/-- A contact that is created is entered in three tables at most. -/
theorem createContact_eq (b : Book) (c : Contact) :
    b.createContact c = { b.alloc c with
      uidToContact := b.uidToContact.insert c.uid b.next
      nameToContact := b.nameToContact.insert c.name b.next
      contactsToAdd := if c.pendingFlags.has scheduleAdd then b.contactsToAdd.insert c.uid b.next
        else b.contactsToAdd } := by
  unfold createContact
  dsimp only
  split <;> rfl

theorem createContact_contacts (b : Book) (c : Contact) :
    (b.createContact c).contacts = (b.alloc c).contacts := by rw [createContact_eq]

theorem createContact_contacts_next (b : Book) (c : Contact) :
    (b.createContact c).contacts b.next = c := by
  rw [createContact_contacts, alloc_contacts_next]

theorem createContact_contacts_of_ne {b : Book} {c : Contact} {r : Nat} (h : r ≠ b.next) :
    (b.createContact c).contacts r = b.contacts r := by
  rw [createContact_contacts, alloc_contacts_of_ne h]

theorem createContact_uidToContact (b : Book) (c : Contact) :
    (b.createContact c).uidToContact = b.uidToContact.insert c.uid b.next := by
  rw [createContact_eq]

theorem createContact_nameToContact (b : Book) (c : Contact) :
    (b.createContact c).nameToContact = b.nameToContact.insert c.name b.next := by
  rw [createContact_eq]

theorem createContact_handleToContact (b : Book) (c : Contact) :
    (b.createContact c).handleToContact = b.handleToContact := by
  rw [createContact_eq]
  rfl

theorem createContact_next (b : Book) (c : Contact) : (b.createContact c).next = b.next + 1 := by
  rw [createContact_eq]
  rfl

/-- One that is marked to be added is entered in all three. -/
theorem createContact_added (b : Book) {c : Contact} (h : c.pendingFlags.has scheduleAdd = true) :
    b.createContact c = { b.alloc c with
      uidToContact := b.uidToContact.insert c.uid b.next
      nameToContact := b.nameToContact.insert c.name b.next
      contactsToAdd := b.contactsToAdd.insert c.uid b.next } := by
  rw [createContact_eq, if_pos h]

/-- Enter a contact in `contacts_to_update`. -/
def scheduleUpdate (b : Book) (r : Nat) : Book :=
  { b with contactsToUpdate := b.contactsToUpdate.insert (b.contacts r).uid r }

/-- Mark a contact for removal and enter it in `contacts_to_delete`. -/
def scheduleRemoval (b : Book) (r : Nat) : Book :=
  let b := b.modify r Contact.markDelete
  { b with contactsToDelete := b.contactsToDelete.insert (b.contacts r).uid r }

/-- The end of `merge_contacts`: be sure that `dest` is in all the indexes. -/
def reenter (b : Book) (dest : Nat) : Book :=
  let c := b.contacts dest
  { b with
    handleToContact := b.handleToContact.insert c.handle dest
    nameToContact := b.nameToContact.insert c.name dest
    uidToContact := b.uidToContact.insert c.uid dest }

end Book

namespace Backend

/-- Change the contact object at an address. -/
def modify (b : Backend) (r : Nat) (f : Contact → Contact) : Backend :=
  { b with book := b.book.modify r f }

/-- The start of every request: tell the views what they do not know, write what is queued. -/
def flush (b : Backend) : Backend :=
  let heap := b.book.contacts
  { b with out := (b.out.notifyRemotelyUpdatedContactsAndComplete heap).flushDbUpdates heap }

/-- `e_book_backend_tp_db_update_contact`, and whether it succeeded. -/
def dbUpdateContact (b : Backend) (r : Nat) : Bool × Backend :=
  let (ok, out) := b.out.transaction (fun db => db.updateContacts [b.book.contacts r])
  (ok, { b with out := out })

/-- `notify_updated_contact`. -/
def notifyUpdatedContact (b : Backend) (r : Nat) : Backend :=
  { b with out := b.out.notifyUpdatedContact b.book.contacts r }

/-! ## Requests that phase 3 shares -/

/-- `run_update_contact`. -/
def runUpdateContact (b : Backend) (r : Nat) : Bool × Backend :=
  let c := b.book.contacts r
  let w :=
    if c.pendingFlags.has scheduleUpdateFlags then (b.tpcl.runUpdateFlags c b.wire).2 else b.wire
  let (unblocked, w) :=
    if c.pendingFlags.has scheduleUnblock then b.tpcl.runUnblockContact c w else (false, w)
  (c.needsUpdate, { b.modify r (fun c => c.updated unblocked) with wire := w })

/-- `run_add_contact`: the answer, and the contact as the request leaves it. -/
def runAddContact (b : Backend) (c : Contact) : Bool × Contact × Wire :=
  if c.flags.has contactInvalid then (true, c, b.wire)
  else
    match b.tpcl.runAddContact c b.wire with
    | (.success, c, w) => (true, c, w)
    | (.failure true, c, w) => (true, c.markInvalid, w)
    | (.failure false, c, w) => (false, c, w)

/-- `merge_contacts`. -/
def mergeContacts (b : Backend) (dest src : Nat) : Backend :=
  let b := b.modify dest (fun d => d.mergeFrom (b.book.contacts src))
  let out :=
    if b.out.views = [] then b.out
    else (b.out.notify (.update (b.book.contacts dest))).notifyCompleteAllViews
  let b := { b with out := out }.deleteContacts [src]
  { b with book := b.book.reenter dest }

/-! ## Create -/

/-- `run_create_contact` where the name is known. -/
def createExisting (b : Backend) (r : Nat) (c : Contact) : Backend :=
  let b := b.modify r (fun e => e.mergeSubmitted c)
  match b.runUpdateContact r with
  | (true, b) => (b.dbUpdateContact r).2.notifyUpdatedContact r
  | (false, b) => b

/-- `run_create_contact` where the name is new; a failing insert leaves the tables changed. -/
def createNew (b : Backend) (c : Contact) : Option Nat × Backend :=
  let r := b.book.next
  let b := { b with book := b.book.createContact c }
  if c.pendingFlags.has scheduleAdd then
    let (ok, out) := b.out.transaction (fun db => db.addContacts [b.book.contacts r])
    (if ok then some r else none, { b with out := out })
  else (some r, b)

/-- `run_create_contact` from the lookup by name on. -/
def enterCreated (b : Backend) (c : Contact) : Option Nat × Backend :=
  match b.book.nameToContact.lookup c.name with
  | some r => (some r, b.createExisting r c)
  | none => b.createNew c

/-- `run_create_contact`: the contact it returns, or `NULL`. -/
def runCreateContact (b : Backend) (ec : Contact.EVCard) : Option Nat × Backend :=
  match Contact.new.updateFromEcontact ec b.vcardField with
  | (false, _) => (none, b)
  | (true, c) =>
    let c := c.submitted (generateUid b.pathSuffix b.book.uidToContact c.name)
    if b.tpcl.status = .online then
      match b.runAddContact c with
      | (true, c, w) => { b with wire := w }.enterCreated c
      | (false, _, w) => (none, { b with wire := w })
    else b.enterCreated c

/--
`create_contacts_idle_cb`, for a batch of one, and as one step: the main loop that runs while the
server is asked is in `Interrupted`.
-/
def createContact (b : Backend) (ec : Contact.EVCard) : Backend := (b.flush.runCreateContact ec).2

/-! ## Modify -/

/-- `modify_contact_idle_cb`: send the flags now if the account is online. -/
def sendFlags (b : Backend) (r : Nat) : Backend :=
  if b.tpcl.status = .online ∧ (b.book.contacts r).pendingFlags.has scheduleUpdateFlags then
    match b.tpcl.runUpdateFlags (b.book.contacts r) b.wire with
    | (true, w) => { b.modify r Contact.flagsAsked with wire := w }
    | (false, w) => { b with wire := w }
  else b

/-- `modify_contact_idle_cb`: write the contact and tell the views. -/
def storeModification (b : Backend) (r : Nat) : Backend :=
  match b.dbUpdateContact r with
  | (true, b) => (b.modify r Contact.bookkeepingDone).notifyUpdatedContact r
  | (false, b) => b.notifyUpdatedContact r

/-- Put a contact in `contacts_to_update`. -/
def scheduleUpdate (b : Backend) (r : Nat) : Backend :=
  { b with book := b.book.scheduleUpdate r }

/-- `modify_contact_idle_cb` once the contact has taken the vcard over. -/
def commitModification (b : Backend) (r : Nat) : Backend :=
  ((b.sendFlags r).scheduleUpdate r).storeModification r

/-- `modify_contact_idle_cb`, as one step: the main loop that it may run is in `Interrupted`. -/
def modifyContact (b : Backend) (ec : Contact.EVCard) : Backend :=
  let b := b.flush
  match (Contact.cardUid ec).bind b.book.uidToContact.lookup with
  | none => b
  | some r =>
    let b := b.modify r (fun c => (c.updateFromEcontact ec b.vcardField).2)
    if (b.book.contacts r).needsUpdate then b.commitModification r else b

/-! ## Remove -/

/-- The splitting loop of `g_strsplit (_, ";", -1)`. -/
def splitSemicolons : List Char → List (List Char)
  | [] => [[]]
  | c :: cs =>
    if c = ';' then [] :: splitSemicolons cs
    else
      match splitSemicolons cs with
      | [] => [[c]]
      | t :: ts => (c :: t) :: ts

/--
`g_strsplit (uid, ";", -1)`, for an id that is not empty. The empty one has no parts at all, and the
lookup of the first of them crashes; here it has one, which is empty and finds nobody.
-/
def splitId (id : String) : List String := (splitSemicolons id.toList).map String.ofList

/-- `run_remove_contact` where only master UIDs go. -/
def removeMasterUids (b : Backend) (r : Nat) : Backend :=
  if (b.book.contacts r).pendingFlags.has scheduleUpdateMasterUid then
    match b.dbUpdateContact r with
    | (true, b) =>
      (b.modify r Contact.masterUidsStored).notifyUpdatedContact r
    | (false, b) => b.notifyUpdatedContact r
  else b

/-- Put off the removal of a contact. -/
def scheduleRemoval (b : Backend) (r : Nat) : Backend :=
  { b with book := b.book.scheduleRemoval r }

/--
`run_remove_contact` once nothing is pending for the contact any more. Where the contact is invalid,
`delete_contacts` drops the references that the indexes hold, which may be the last ones, and what
the caller still reads and writes is freed memory; here it finds the contact as it was left.
-/
def requestRemoval (b : Backend) (r : Nat) : Backend :=
  if (b.book.contacts r).flags.has contactInvalid then b.deleteContacts [r]
  else if b.tpcl.status = .online then
    match b.tpcl.runRemoveContact (b.book.contacts r) b.wire with
    -- the rest happens when the roster layer says that the contact is gone
    | (true, w) => { b with wire := w }
    | (false, w) => { b with wire := w }.scheduleRemoval r
  else b.scheduleRemoval r

/-- `run_remove_contact` where the contact itself goes. -/
def reallyRemove (b : Backend) (r : Nat) : Backend :=
  (b.modify r Contact.nothingPending).requestRemoval r

/--
`remove_contacts_idle_cb` for a batch of one, `run_remove_contact` included, and as one step: the main
loop that runs while the server is asked is in `Interrupted`.
-/
def removeContact (b : Backend) (id : String) : Backend :=
  let b := b.flush
  match splitId id with
  | [] => b
  | uid :: tokens =>
    match b.book.uidToContact.lookup uid with
    | none => b
    | some r =>
      let really := ((b.book.contacts r).removeTokens tokens).2
      let b := b.modify r fun c => (c.removeTokens tokens).1
      if really then ((b.reallyRemove r).dbUpdateContact r).2 else b.removeMasterUids r

end Backend

end EdsTelepathy
