import EdsTelepathy.Db
import EdsTelepathy.Lib.Cursor
import EdsTelepathy.Lib.Transaction
import Mathlib.Data.String.Basic
import Mathlib.Order.WithBot

/-!
# The statements of the contact cache

`Db.lean` takes a call of `e-book-backend-tp-db.c` as one step. Here it is what the source
does: `real_begin`, the statements of each contact one after the other, then `real_commit`
or `real_rollback`, each of which may fail, and none of which is asked whether it did.
A prepared statement that was not reset after an error is reset by the next
`sqlite3_step`, so the resets that the error paths leave out make no difference.
-/

namespace EdsTelepathy

/-- The connection to the database. -/
abbrev Session := Connection Db

namespace Db

/-- `QUERY_INSERT_CONTACT`. -/
def insertContact (c : Contact) : Statement Db := fun db =>
  match c.name with
  | none => none
  | some n =>
    if (db.contacts.lookup c.uid).isSome then none
    else some { db with contacts := db.contacts.insert c.uid (rowOf c n) }

/-- `QUERY_UPDATE_CONTACT`. -/
def updateContactRow (c : Contact) : Statement Db := fun db => db.updateRow c

/-- `QUERY_DELETE_CONTACT`. -/
def deleteContactRow (uid : String) : Statement Db := fun db =>
  some { db with contacts := db.contacts.erase uid }

/-- `QUERY_INSERT_MASTER_UID`. -/
def insertMasterUidRow (uid : String) (m : Option String) : Statement Db := fun db =>
  some (db.insertMasterUid uid m)

/-- `QUERY_DELETE_MASTER_UIDS`. -/
def deleteMasterUidRows (uid : String) : Statement Db := fun db => some (db.deleteMasterUids uid)

/-- `QUERY_INSERT_VARIANT`. -/
def insertVariantRow (uid v : String) : Statement Db := fun db => some (db.insertVariant uid v)

/-- `QUERY_DELETE_VARIANTS`. -/
def deleteVariantRows (uid : String) : Statement Db := fun db => some (db.deleteVariants uid)

end Db

namespace Session

open Connection

/-- `e_book_backend_tp_db_add_master_uids`. -/
def addMasterUids (s : Session) (c : Contact) : Bool × Session :=
  forEach (fun s m => exec s (Db.insertMasterUidRow c.uid m)) s c.masterUids

/-- `e_book_backend_tp_db_add_variants`. -/
def addVariants (s : Session) (c : Contact) : Bool × Session :=
  forEach (fun s v => exec s (Db.insertVariantRow c.uid v)) s c.variants

/-- `e_book_backend_tp_db_real_add_contact`. -/
def realAddContact (s : Session) (c : Contact) : Bool × Session :=
  andThen (exec s (Db.insertContact c)) fun s =>
  andThen (addMasterUids s c) fun s => addVariants s c

/-- `e_book_backend_tp_db_delete_master_uids`. -/
def deleteMasterUids (s : Session) (uid : String) : Bool × Session :=
  exec s (Db.deleteMasterUidRows uid)

/-- `e_book_backend_tp_db_delete_variants`. -/
def deleteVariants (s : Session) (uid : String) : Bool × Session :=
  exec s (Db.deleteVariantRows uid)

/-- `e_book_backend_tp_db_real_update_contact`. -/
def realUpdateContact (s : Session) (c : Contact) : Bool × Session :=
  andThen (exec s (Db.updateContactRow c)) fun s =>
  andThen (deleteMasterUids s c.uid) fun s =>
  andThen (addMasterUids s c) fun s =>
  andThen (deleteVariants s c.uid) fun s => addVariants s c

/-- `e_book_backend_tp_db_real_delete_contact`. -/
def realDeleteContact (s : Session) (uid : String) : Bool × Session :=
  andThen (exec s (Db.deleteContactRow uid)) fun s =>
  andThen (deleteMasterUids s uid) fun s => deleteVariants s uid

/-- `e_book_backend_tp_db_add_contact`. -/
def addContact (s : Session) (p : Pattern) (c : Contact) : Bool × Session :=
  transact s p fun s => realAddContact s c

/-- `e_book_backend_tp_db_update_contact`. -/
def updateContact (s : Session) (p : Pattern) (c : Contact) : Bool × Session :=
  transact s p fun s => realUpdateContact s c

/-- `e_book_backend_tp_db_delete_contact`. -/
def deleteContact (s : Session) (p : Pattern) (uid : String) : Bool × Session :=
  transact s p fun s => realDeleteContact s uid

/-- `e_book_backend_tp_db_add_contacts`. -/
def addContacts (s : Session) (p : Pattern) (cs : List Contact) : Bool × Session :=
  transact s p fun s => forEach realAddContact s cs

/-- `e_book_backend_tp_db_update_contacts`. -/
def updateContacts (s : Session) (p : Pattern) (cs : List Contact) : Bool × Session :=
  transact s p fun s => forEach realUpdateContact s cs

/-- `e_book_backend_tp_db_remove_contacts`. -/
def removeContacts (s : Session) (p : Pattern) (uids : List String) : Bool × Session :=
  transact s p fun s => forEach realDeleteContact s uids

end Session

/-- A call of the database interface that writes. -/
inductive DbCall where
  | addContact (c : Contact)
  | addContacts (cs : List Contact)
  | updateContact (c : Contact)
  | updateContacts (cs : List Contact)
  | deleteContact (uid : String)
  | removeContacts (uids : List String)
  deriving DecidableEq

namespace DbCall

/-- Make the call: what it returns, and the connection after it. -/
def perform (s : Session) (p : Pattern) : DbCall → Bool × Session
  | addContact c => Session.addContact s p c
  | addContacts cs => Session.addContacts s p cs
  | updateContact c => Session.updateContact s p c
  | updateContacts cs => Session.updateContacts s p cs
  | deleteContact uid => Session.deleteContact s p uid
  | removeContacts uids => Session.removeContacts s p uids

/-- What the call does where it is one step. -/
def apply : DbCall → Db → Option Db
  | addContact c, db => db.addContacts [c]
  | addContacts cs, db => db.addContacts cs
  | updateContact c, db => db.updateContacts [c]
  | updateContacts cs, db => db.updateContacts cs
  | deleteContact uid, db => some (db.removeContacts [uid])
  | removeContacts uids, db => some (db.removeContacts uids)

end DbCall

/-! ## Reading -/

namespace Db

/-- `ORDER BY` the uid. SQLite and `strcmp` compare bytes, which is the order of the characters. -/
def ordered {α : Type} (rows : List (String × α)) : List (String × α) :=
  rows.insertionSort (fun a b => a.1 ≤ b.1)

/-- A contact with the columns of its row, before anything else is read. -/
def rowContact (uid : String) (row : ContactRow) : Contact :=
  { Contact.new with
    uid := uid
    name := some row.name
    aliasName := row.aliasName
    avatarToken := row.avatarToken
    flags := row.flags
    pendingFlags := row.pendingFlags
    contactInfo := row.contactInfo }

/-- `g_ptr_array_add (contact->master_uids, _)`. -/
def withMasterUid (c : Contact) (m : Option String) : Contact :=
  { c with masterUids := c.masterUids ++ [m] }

/-- `g_hash_table_insert (contact->variants, _, _)`. -/
def withVariant (c : Contact) (v : String) : Contact := { c with variants := c.variants.insert v }

/-- The first loop of `fetch_contacts`. -/
def fetchRows (db : Db) : List Contact :=
  (db.contacts.entries.insertionSort (fun a b => a.1 ≤ b.1)).map (fun e => rowContact e.1 e.2)

/-- `e_book_backend_tp_db_fetch_contacts` as it reads the three tables, one after the other. -/
def fetchJoined (db : Db) : List Contact :=
  Join.addRows Contact.uid withVariant
    (Join.addRows Contact.uid withMasterUid db.fetchRows (ordered db.masterUids))
    (ordered db.variants)

/--
`e_book_backend_tp_db_fetch_contacts` with its cursor, on the rows that the three queries return.
The `contact_uid` of a row may be `NULL`, which comes before all others; `fuel` bounds the turns of
each inner loop.
-/
def fetchScanned (fuel : Nat) (rows : List (String × ContactRow))
    (masterUids : List (WithBot String × Option String)) (variants : List (WithBot String × String)) :
    Except Cursor.Fault (List Contact) :=
  match Cursor.scan (fun c => (c.uid : WithBot String)) withMasterUid fuel
      (rows.map fun e => rowContact e.1 e.2) masterUids with
  | .error e => .error e
  | .ok contacts => Cursor.scan (fun c => (c.uid : WithBot String)) withVariant fuel contacts variants

end Db

end EdsTelepathy
