import EdsTelepathy.Cl.Step
import EdsTelepathy.Cl.Requests
import EdsTelepathy.Db

/-!
# The state of the address book backend

`_EBookBackendTpPrivate`, in three parts that are changed by different functions: the
*book* (the contact objects, the three indexes and the three work tables), the *outbox*
(the database, the queue of database updates, the set of changed contacts and the views
to tell), and the bookkeeping of the synchronisation. A contact object is a heap cell
and the tables hold its address, since the code stores one object in several tables and
goes on using objects that it has removed from all of them.

A `NULL` name would crash in `g_str_hash`; here it is a key like any other, which only
adds behaviours.
-/

namespace EdsTelepathy

/-- The contact objects and the tables that refer to them. -/
structure Book where
  contacts : Nat → Contact := fun _ => Contact.new
  /-- The next free address. -/
  next : Nat := 0
  handleToContact : Table Nat Nat := ∅
  nameToContact : Table (Option String) Nat := ∅
  uidToContact : Table String Nat := ∅
  contactsToDelete : Table String Nat := ∅
  contactsToUpdate : Table String Nat := ∅
  contactsToAdd : Table String Nat := ∅

namespace Book

/-- Change the contact object at an address. -/
def modify (b : Book) (r : Nat) (f : Contact → Contact) : Book :=
  { b with contacts := Function.update b.contacts r (f (b.contacts r)) }

@[simp] theorem modify_contacts_self (b : Book) (r : Nat) (f : Contact → Contact) :
    (b.modify r f).contacts r = f (b.contacts r) := Function.update_self ..

theorem modify_contacts_of_ne {b : Book} {r r' : Nat} {f : Contact → Contact} (h : r' ≠ r) :
    (b.modify r f).contacts r' = b.contacts r' := Function.update_of_ne h ..

/-- Allocate a contact object; its address is the old `next`. -/
def alloc (b : Book) (c : Contact) : Book :=
  { b with contacts := Function.update b.contacts b.next c, next := b.next + 1 }

@[simp] theorem alloc_contacts_next (b : Book) (c : Contact) :
    (b.alloc c).contacts b.next = c := Function.update_self ..

theorem alloc_contacts_of_ne {b : Book} {c : Contact} {r : Nat} (h : r ≠ b.next) :
    (b.alloc c).contacts r = b.contacts r := Function.update_of_ne h ..

end Book

/-- A notification sent to a book view. -/
inductive Notice where
  | update (c : Contact)
  | remove (uid : String)
  | complete
  deriving DecidableEq

/-- An `EDataBookView` and what it has been told. -/
structure View where
  id : Nat
  told : List Notice := []
  deriving DecidableEq

/-- What leaves the backend: database writes and view notifications, done or still queued. -/
structure Outbox where
  db : Db := {}
  /-- The outcome of the database calls still to come; a call not listed succeeds. -/
  sql : List Bool := []
  contactsToUpdateInDb : Table String Nat := ∅
  contactsRemotelyChanged : Table String Nat := ∅
  /-- `contacts_remotely_changed_update_id != 0`. -/
  updateScheduled : Bool := false
  views : List View := []
  systemInactive : Bool := false

/-- `GetMembersClosure` of the synchronisation: contacts to add to and update in the database. -/
structure GetMembersClosure where
  contactsToAdd : List Nat := []
  contactsToUpdate : List Nat := []
  deriving DecidableEq

/-- Where phase 3 is: working through one of the three snapshots. -/
inductive Phase3Stage where
  | update | add | delete
  deriving DecidableEq

/-- The local variables of `_sync_phase_3_idle_cb` while it runs. -/
structure Phase3 where
  stage : Phase3Stage := .update
  /-- The rest of the snapshot of the work table. -/
  todo : List Nat := []
  contactsToUpdateInDb : List Nat := []
  deriving DecidableEq

/-- The backend. -/
structure Backend where
  /-- `tp_account_get_path_suffix (priv->account)`. -/
  pathSuffix : String := ""
  vcardField : String := ""
  book : Book := {}
  out : Outbox := {}
  tpcl : Cl := {}
  wire : Wire := {}
  isLoading : Bool := false
  needContactsReload : Bool := false
  membersReady : Bool := false
  /-- `_sync_phase_0_idle_cb` is queued: the account is open, the cache not yet imported. -/
  phase0Queued : Bool := true
  /-- The closures of the queued `_sync_phase_2_idle_cb`. -/
  phase2Queued : List GetMembersClosure := []
  /-- The number of queued `_sync_phase_3_idle_cb`. -/
  phase3Queued : Nat := 0
  /-- The running phase 3, innermost first. -/
  phase3 : List Phase3 := []
  /-- The contacts whose image is being written, which `avatar_data_saved_cb` waits for. -/
  avatarSaves : List Nat := []
  /-- The tokens of the images that are in the file system. -/
  avatarFiles : List String := []

/-- A process that has opened the account and its database, and has not imported it yet. -/
def Backend.boot (pathSuffix vcardField : String) (db : Db) : Backend :=
  { pathSuffix := pathSuffix, vcardField := vcardField, out := { db := db } }

end EdsTelepathy
