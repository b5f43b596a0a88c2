import EdsTelepathy.Backend.Requests

/-!
# The synchronisation

The four phases: the import of the cache, the roster read through `get_members`, the
database work with the removal of what was not seen, and the replay of what was put off.
Phase 3 runs the main loop while it waits for the answers, so other callbacks run between
its requests: it is cut here at each request, and the local variables it keeps across
them are the record `Phase3`. The order of a snapshot of a hash table is arbitrary and is
an argument.
-/

namespace EdsTelepathy

namespace Contact

/-- The contact of a row, marked unseen unless it is waiting to be added or invalid. -/
def imported (c : Contact) : Contact :=
  if !c.pendingFlags.has scheduleAdd && !c.flags.has contactInvalid then
    { c with flags := c.flags ||| contactUnseen }
  else c

/-- The string is replaced if it is missing or if there is a different new one. -/
def refresh (old new : Option String) : Option String :=
  match old, new with
  | none, _ => new
  | some _, none => old
  | some _, some n => some n

/-- Whether `refresh` counts as a change. -/
def refreshed (old new : Option String) : Bool :=
  match old, new with
  | none, _ => true
  | some _, none => false
  | some o, some n => o ≠ n

/-- What `tp_cl_get_members_cb` copies into a contact that is known by name. -/
def seen (cIn c : Contact) : Contact :=
  { c with
    aliasName := refresh c.aliasName cIn.aliasName
    genericStatus := cIn.genericStatus
    status := refresh c.status cIn.status
    statusMessage := refresh c.statusMessage cIn.statusMessage
    contactInfo := refresh c.contactInfo cIn.contactInfo
    handle := cIn.handle
    flags := c.flags &&& ~~~contactUnseen }

end Contact

namespace Book

/-! ## Phase 0 -/

/-- Enter a contact under its uid in a work table, if its pending bit is set. -/
def importInto (t : Table String Nat) (due : Bool) (uid : String) (r : Nat) : Table String Nat :=
  if due then t.insert uid r else t

/-- The loop body of `_sync_phase_0_idle_cb`. -/
def importContact (b : Book) (c : Contact) : Book :=
  let r := b.next
  { b.alloc c.imported with
    uidToContact := b.uidToContact.insert c.uid r
    nameToContact := b.nameToContact.insert c.name r
    contactsToDelete :=
      importInto b.contactsToDelete (c.pendingFlags.has scheduleDelete) c.uid r
    contactsToAdd :=
      importInto b.contactsToAdd (c.pendingFlags.has scheduleAdd) c.uid r
    contactsToUpdate :=
      importInto b.contactsToUpdate
        (c.pendingFlags.has scheduleUpdateFlags || c.pendingFlags.has scheduleUnblock) c.uid r }

/-! ## Phase 1 -/

/-- Enter a contact under a handle that has no contact yet. -/
def enterHandle (b : Book) (h r : Nat) : Book :=
  if (b.handleToContact.lookup h).isSome then b
  else { b with handleToContact := b.handleToContact.insert h r }

/-- The loop body of `tp_cl_get_members_cb` where the name is new. -/
def memberFound (pathSuffix : String) (b : Book) (cIn : Contact) : Book :=
  let c := { cIn.dup with uid := generateUid pathSuffix b.uidToContact cIn.name }
  { b.alloc c with
    uidToContact := b.uidToContact.insert c.uid b.next
    nameToContact := b.nameToContact.insert c.name b.next }

/-- The loop body of `tp_cl_get_members_cb`. -/
def memberReported (pathSuffix : String) (b : Book) (cIn : Contact) : Book :=
  match b.nameToContact.lookup cIn.name with
  | some r => (b.modify r cIn.seen).enterHandle cIn.handle r
  | none => (b.memberFound pathSuffix cIn).enterHandle cIn.handle b.next

/-- `memberReported` with the closure it fills. -/
def memberReportedInto (pathSuffix : String) (st : Book × GetMembersClosure) (cIn : Contact) :
    Book × GetMembersClosure :=
  (st.1.memberReported pathSuffix cIn,
    match st.1.nameToContact.lookup cIn.name with
    | some r =>
      if Contact.refreshed (st.1.contacts r).aliasName cIn.aliasName then
        { st.2 with contactsToUpdate := st.2.contactsToUpdate ++ [r] }
      else st.2
    | none => { st.2 with contactsToAdd := st.2.contactsToAdd ++ [st.1.next] })

/-! ## Phase 3 -/

/-- Take a name out of the name index. -/
def forgetName (b : Book) (name : Option String) : Book :=
  { b with nameToContact := b.nameToContact.erase name }

/-- Enter a contact under its name. -/
def enterName (b : Book) (r : Nat) : Book :=
  { b with nameToContact := b.nameToContact.insert (b.contacts r).name r }

/-- Take a contact out of `contacts_to_add`, under its uid. -/
def unscheduleAdd (b : Book) (r : Nat) : Book :=
  { b with contactsToAdd := b.contactsToAdd.erase (b.contacts r).uid }

/-- Take a contact out of `contacts_to_delete`, under its uid. -/
def unscheduleDelete (b : Book) (r : Nat) : Book :=
  { b with contactsToDelete := b.contactsToDelete.erase (b.contacts r).uid }

end Book

namespace Backend

/-- `tp_cl_get_members_cb` with the contacts. -/
def rosterReceived (b : Backend) (cs : List Contact) : Backend :=
  let (book, closure) := cs.foldl (Book.memberReportedInto b.pathSuffix) (b.book, {})
  { b with book := book, phase2Queued := b.phase2Queued ++ [closure] }

/-- `finish_online_initialization`, given what `_sync_phase_1` does. -/
def finishWith (sync : Backend → Backend) (b : Backend) : Backend :=
  let b := { b with isLoading := false }
  if b.needContactsReload then sync { b with needContactsReload := false } else b

/--
`_sync_phase_1`. The callback of `get_members` may run before the function returns, and
after an error it starts over if a reload is wanted; `fuel` bounds how often.
-/
def syncPhase1Fuel : Nat → Backend → Backend
  | 0, b => b
  | fuel + 1, b =>
    if b.isLoading then { b with needContactsReload := true }
    else
      let (cl, signals) := b.tpcl.getMembers
      let b := { b with isLoading := true, tpcl := cl }
      match signals with
      | .getMembersDone none :: _ => b.finishWith (syncPhase1Fuel fuel)
      | .getMembersDone (some cs) :: _ => b.rosterReceived cs
      | _ => b

/-- `_sync_phase_1`. The first start over finds no reload wanted, so there is no second. -/
def syncPhase1 (b : Backend) : Backend := syncPhase1Fuel 2 b

/-- `finish_online_initialization`. -/
def finishOnlineInitialization (b : Backend) : Backend := b.finishWith syncPhase1

theorem syncPhase1Fuel_eq (fuel : Nat) (b : Backend) :
    syncPhase1Fuel (fuel + 2) b = b.syncPhase1 := by
  unfold syncPhase1
  rw [syncPhase1Fuel, syncPhase1Fuel]
  split
  · rfl
  · dsimp only
    split
    · unfold finishWith
      dsimp only
      split
      · -- started over: the reload is no longer wanted, so a second error ends it
        rw [syncPhase1Fuel, syncPhase1Fuel]
        simp [finishWith]
      · rfl
    · rfl
    · rfl

/-- `tp_cl_get_members_cb`. -/
def tpClGetMembersCb (b : Backend) (result : Option (List Contact)) : Backend :=
  match result with
  | none => b.finishOnlineInitialization
  | some cs => b.rosterReceived cs

/-- `tp_cl_status_changed_cb`. -/
def tpClStatusChangedCb (b : Backend) (s : ClStatus) : Backend :=
  match s with
  | .online => b.syncPhase1
  | .offline => { b with book := { b.book with handleToContact := ∅ } }

/-- What the views are sent when the members are ready, or when they are started. -/
def population (b : Backend) : List Notice :=
  (((Table.values b.book.uidToContact).map b.book.contacts).filter Contact.isVisible).map
    Notice.update ++ [.complete]

/-- `tp_ready_cb`: from now on the signals of the contact list layer are handled. -/
def tpReadyCb (b : Backend) : Backend :=
  let out := { b.out with
    views := b.out.views.map fun v => { v with told := v.told ++ b.population } }
  let b := { b with out := out, membersReady := true }
  if b.tpcl.status = .online then b.syncPhase1 else b

/-- `_sync_phase_0_idle_cb`. -/
def syncPhase0IdleCb (b : Backend) : Backend :=
  { b with
    book := b.out.db.fetchContacts.foldl Book.importContact b.book
    phase0Queued := false }.tpReadyCb

/-- The contacts of the name table that no roster reply has mentioned. -/
def unseen (book : Book) : List Nat :=
  (Table.values book.nameToContact).filter fun r => (book.contacts r).flags.has contactUnseen

/-- `_sync_phase_2_idle_cb`. -/
def syncPhase2IdleCb (b : Backend) (closure : GetMembersClosure) : Backend :=
  let heap := b.book.contacts
  let (_, out) := b.out.transaction fun db => db.addContacts (closure.contactsToAdd.map heap)
  let (_, out) := out.transaction fun db => db.updateContacts (closure.contactsToUpdate.map heap)
  let b := { b with out := out }
  let rs := unseen b.book
  let b := if rs = [] then b else b.deleteContacts rs
  { b with phase3Queued := b.phase3Queued + 1 }

/-- The first part of `_sync_phase_3_idle_cb`. -/
def beginPhase3 (b : Backend) (todo : List Nat) : Backend :=
  if b.tpcl.status = .online then { b with phase3 := { todo := todo } :: b.phase3 }
  else b.finishOnlineInitialization

/-- Run phase 3 with these local variables from now on. -/
def continuePhase3 (b : Backend) (p : Phase3) : Backend := { b with phase3 := p :: b.phase3 }

/-- The body of the first loop of phase 3. -/
def phase3Update (b : Backend) (p : Phase3) (r : Nat) (todo : List Nat) : Backend :=
  match b.runUpdateContact r with
  | (true, b) =>
    b.continuePhase3 { p with todo := todo, contactsToUpdateInDb := p.contactsToUpdateInDb ++ [r] }
  | (false, b) => b.continuePhase3 { p with todo := todo }

/-- The second loop where the server normalised the name; the contact for the database. -/
def phase3Renamed (b : Backend) (r : Nat) (oldName : Option String) : Option Nat × Backend :=
  let b := { b with book := b.book.forgetName oldName }
  match b.book.nameToContact.lookup (b.book.contacts r).name with
  | some existing => (some existing, b.mergeContacts existing r)
  | none => (none, { b with book := b.book.enterName r })

/-- The second loop where the request succeeded; the contact for the database. -/
def phase3Added (b : Backend) (r : Nat) (oldName : Option String) : Option Nat × Backend :=
  if oldName = (b.book.contacts r).name then (some r, b) else b.phase3Renamed r oldName

/-- The body of the second loop of phase 3. -/
def phase3Add (b : Backend) (p : Phase3) (r : Nat) (todo : List Nat) : Backend :=
  match b.runAddContact (b.book.contacts r) with
  | (true, c, w) =>
    let (inDb, b') :=
      { b.modify r (fun _ => c.clearAdd) with wire := w }.phase3Added r (b.book.contacts r).name
    { b' with book := b'.book.unscheduleAdd r }.continuePhase3
      { p with todo := todo, contactsToUpdateInDb := p.contactsToUpdateInDb ++ inDb.toList }
  | (false, c, w) =>
    { b.modify r (fun _ => c) with wire := w }.continuePhase3 { p with todo := todo }

/-- The body of the third loop of phase 3. -/
def phase3Delete (b : Backend) (p : Phase3) (r : Nat) (todo : List Nat) : Backend :=
  match b.tpcl.runRemoveContact (b.book.contacts r) b.wire with
  | (true, w) =>
    { b with wire := w, book := (b.book.modify r Contact.clearDelete).unscheduleDelete r }.continuePhase3
      { p with todo := todo, contactsToUpdateInDb := p.contactsToUpdateInDb ++ [r] }
  | (false, w) => { b with wire := w }.continuePhase3 { p with todo := todo }

/-- The end of phase 3. -/
def endPhase3 (b : Backend) (p : Phase3) : Backend :=
  let out :=
    if p.contactsToUpdateInDb = [] then b.out
    else
      (b.out.transaction fun db =>
        db.updateContacts (p.contactsToUpdateInDb.map b.book.contacts)).2
  { b with out := out }.finishOnlineInitialization

/-- The values of the work table that a stage of phase 3 takes its snapshot of. -/
def workTable (b : Book) : Phase3Stage → Table String Nat
  | .update => b.contactsToUpdate
  | .add => b.contactsToAdd
  | .delete => b.contactsToDelete

/--
Phase 3 goes on: it deals with the next contact of its snapshot, or takes the snapshot of
the next table in the given order, or ends.
-/
def stepPhase3 (b : Backend) (p : Phase3) (order : List Nat) : Option Backend :=
  match p.stage, p.todo with
  | .update, r :: todo => some (b.phase3Update p r todo)
  | .update, [] =>
    if order.isPerm (Table.values (workTable b.book .add)) then
      some (b.continuePhase3 { p with stage := .add, todo := order })
    else none
  | .add, r :: todo => some (b.phase3Add p r todo)
  | .add, [] =>
    if order.isPerm (Table.values (workTable b.book .delete)) then
      some (b.continuePhase3 { p with stage := .delete, todo := order })
    else none
  | .delete, r :: todo => some (b.phase3Delete p r todo)
  | .delete, [] => some (b.endPhase3 p)

end Backend

end EdsTelepathy
