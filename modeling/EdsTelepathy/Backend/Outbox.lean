import EdsTelepathy.Backend.State

/-!
# The outbox

Writing queued contacts to the database and telling the views about changed ones. None
of these functions touches a contact or a table of the book: they read the contact
objects through the heap they are given.
-/

namespace EdsTelepathy

namespace Outbox

/-- Run one database call. It fails where a constraint fails or SQLite reports an error. -/
def transaction (o : Outbox) (f : Db → Option Db) : Bool × Outbox :=
  let ok := o.sql.headD true
  let o := { o with sql := o.sql.tail }
  if ok then
    match f o.db with
    | some db => (true, { o with db := db })
    | none => (false, o)
  else (false, o)

/-- Tell every view. -/
def notify (o : Outbox) (n : Notice) : Outbox :=
  { o with views := o.views.map fun v => { v with told := v.told ++ [n] } }

/-- `notify_complete_all_views`. -/
def notifyCompleteAllViews (o : Outbox) : Outbox := o.notify .complete

/-- `notify_remotely_updated_contacts`, with the number of contacts notified. -/
def notifyRemotelyUpdatedContacts (heap : Nat → Contact) (o : Outbox) : Nat × Outbox :=
  let o := { o with updateScheduled := false }
  if o.views = [] then (0, { o with contactsRemotelyChanged := ∅ })
  else
    let changed := (Table.values o.contactsRemotelyChanged).filter fun r => (heap r).isVisible
    let o := changed.foldl (fun o r => o.notify (.update (heap r))) o
    (changed.length, { o with contactsRemotelyChanged := ∅ })

/-- `notify_remotely_updated_contacts_and_complete`. -/
def notifyRemotelyUpdatedContactsAndComplete (heap : Nat → Contact) (o : Outbox) : Outbox :=
  let (n, o) := o.notifyRemotelyUpdatedContacts heap
  if 0 < n then o.notifyCompleteAllViews else o

/-- `notify_updated_contact`. -/
def notifyUpdatedContact (heap : Nat → Contact) (o : Outbox) (r : Nat) : Outbox :=
  if o.views = [] then o
  else
    let o := { o with contactsRemotelyChanged := o.contactsRemotelyChanged.erase (heap r).uid }
    let (_, o) := o.notifyRemotelyUpdatedContacts heap
    (o.notify (.update (heap r))).notifyCompleteAllViews

/-- `flush_db_updates`. -/
def flushDbUpdates (heap : Nat → Contact) (o : Outbox) : Outbox :=
  match Table.values o.contactsToUpdateInDb with
  | [] => o
  | rs =>
    let (_, o) := o.transaction (fun db => db.updateContacts (rs.map heap))
    { o with contactsToUpdateInDb := ∅ }

/-- The loop body of `update_contacts`. -/
def queueContact (heap : Nat → Contact) (updateDb : Bool) (o : Outbox) (r : Nat) : Outbox :=
  let uid := (heap r).uid
  let o :=
    if (o.contactsRemotelyChanged.lookup uid).isSome then o
    else { o with contactsRemotelyChanged := o.contactsRemotelyChanged.insert uid r }
  if updateDb && (o.contactsToUpdateInDb.lookup uid).isNone then
    { o with contactsToUpdateInDb := o.contactsToUpdateInDb.insert uid r }
  else o

/-- `update_contacts`. -/
def updateContacts (heap : Nat → Contact) (o : Outbox) (rs : List Nat) (updateDb : Bool) : Outbox :=
  { rs.foldl (queueContact heap updateDb) o with updateScheduled := true }

/-- `update_contacts_idle_cb`; 50 is `MAX_PENDING_CONTACTS`. -/
def updateContactsIdleCb (heap : Nat → Contact) (o : Outbox) : Outbox :=
  let o :=
    if !o.systemInactive || decide (50 < Table.size o.contactsRemotelyChanged) then
      o.notifyRemotelyUpdatedContactsAndComplete heap
    else o
  { o.flushDbUpdates heap with updateScheduled := false }

/-- `set_inactivity_status`. -/
def setInactivityStatus (heap : Nat → Contact) (o : Outbox) (inactivity : Bool) : Outbox :=
  if inactivity = o.systemInactive then o
  else
    let o := { o with systemInactive := inactivity }
    if !inactivity && decide (0 < Table.size o.contactsRemotelyChanged) then
      o.notifyRemotelyUpdatedContactsAndComplete heap
    else o

/-- The end of `delete_contacts`: flush, remove from the database, tell the views. -/
def announceRemoval (heap : Nat → Contact) (o : Outbox) (uids : List String) : Outbox :=
  let o := o.flushDbUpdates heap
  let (_, o) := o.notifyRemotelyUpdatedContacts heap
  let (_, o) := o.transaction (fun db => some (db.removeContacts uids))
  (uids.foldl (fun o uid => o.notify (.remove uid)) o).notifyCompleteAllViews

end Outbox

end EdsTelepathy
