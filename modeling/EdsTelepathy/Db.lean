import EdsTelepathy.Contact
import EdsTelepathy.Lib.Table
import Mathlib.Data.List.Sort

/-!
# The contact cache

The three tables of `e-book-backend-tp-db.c` and the statements run on them. A public
call is one transaction: either every statement succeeds and all of them take effect,
or none does. A statement can fail by a constraint of the schema, which is decided
here, or because SQLite reports an error, which is a choice the caller passes in.
-/

namespace EdsTelepathy

/-- A row of `contacts`, less its key. `name` is declared `NOT NULL`. -/
structure ContactRow where
  name : String
  aliasName : Option String := none
  avatarToken : Option String := none
  flags : Flags := 0
  pendingFlags : Flags := 0
  contactInfo : Option String := none
  deriving DecidableEq

/-- The database: `contacts` by primary key, `master_uids` and `variants` as sets of pairs. -/
structure Db where
  contacts : Table String ContactRow := ∅
  masterUids : List (String × Option String) := []
  variants : List (String × String) := []

namespace Db

/-- `bind_add_update_contact_query`, for a contact that has a name. -/
def rowOf (c : Contact) (name : String) : ContactRow :=
  { name := name
    aliasName := c.aliasName
    avatarToken := c.avatarToken
    flags := c.flags
    pendingFlags := c.pendingFlags
    contactInfo := c.contactInfo }

/-- `INSERT OR IGNORE INTO master_uids`; two `NULL`s are different keys to SQLite. -/
def insertMasterUid (db : Db) (uid : String) (m : Option String) : Db :=
  if m ≠ none ∧ (uid, m) ∈ db.masterUids then db
  else { db with masterUids := db.masterUids ++ [(uid, m)] }

/-- `e_book_backend_tp_db_add_master_uids`. -/
def addMasterUids (db : Db) (c : Contact) : Db :=
  c.masterUids.foldl (fun db m => db.insertMasterUid c.uid m) db

/-- `INSERT OR IGNORE INTO variants`. -/
def insertVariant (db : Db) (uid v : String) : Db :=
  if (uid, v) ∈ db.variants then db else { db with variants := db.variants ++ [(uid, v)] }

/-- `e_book_backend_tp_db_add_variants`. -/
def addVariants (db : Db) (c : Contact) : Db :=
  c.variants.foldl (fun db v => db.insertVariant c.uid v) db

/-- `e_book_backend_tp_db_delete_master_uids`. -/
def deleteMasterUids (db : Db) (uid : String) : Db :=
  { db with masterUids := db.masterUids.filter (fun p => p.1 ≠ uid) }

/-- `e_book_backend_tp_db_delete_variants`. -/
def deleteVariants (db : Db) (uid : String) : Db :=
  { db with variants := db.variants.filter (fun p => p.1 ≠ uid) }

/-- `e_book_backend_tp_db_real_add_contact`: `none` where a constraint fails. -/
def realAddContact (db : Db) (c : Contact) : Option Db :=
  match c.name with
  | none => none
  | some n =>
    if (db.contacts.lookup c.uid).isSome then none
    else some ((({ db with contacts := db.contacts.insert c.uid (rowOf c n) }).addMasterUids c).addVariants c)

/-- The `UPDATE` statement: a row that is not there is not an error. -/
def updateRow (db : Db) (c : Contact) : Option Db :=
  match db.contacts.lookup c.uid, c.name with
  | none, _ => some db
  | some _, none => none
  | some _, some n => some { db with contacts := db.contacts.insert c.uid (rowOf c n) }

/-- `e_book_backend_tp_db_real_update_contact`. -/
def realUpdateContact (db : Db) (c : Contact) : Option Db :=
  (db.updateRow c).map fun db =>
    (((db.deleteMasterUids c.uid).addMasterUids c).deleteVariants c.uid).addVariants c

/-- `e_book_backend_tp_db_real_delete_contact`. -/
def realDeleteContact (db : Db) (uid : String) : Db :=
  (({ db with contacts := db.contacts.erase uid }).deleteMasterUids uid).deleteVariants uid

/-- `e_book_backend_tp_db_add_contacts`, and `_add_contact` for a single one. -/
def addContacts (db : Db) (cs : List Contact) : Option Db := cs.foldlM realAddContact db

/-- `e_book_backend_tp_db_update_contacts`, and `_update_contact` for a single one. -/
def updateContacts (db : Db) (cs : List Contact) : Option Db := cs.foldlM realUpdateContact db

/-- `e_book_backend_tp_db_remove_contacts`. -/
def removeContacts (db : Db) (uids : List String) : Db := uids.foldl realDeleteContact db

/--
A contact as `e_book_backend_tp_db_fetch_contacts` builds it from its rows. Master UIDs and variants
are in the order in which they were inserted here; SQLite answers the query from the index of the
primary key, so the program gets them sorted.
-/
def fetchContact (db : Db) (uid : String) (row : ContactRow) : Contact :=
  { Contact.new with
    uid := uid
    name := some row.name
    aliasName := row.aliasName
    avatarToken := row.avatarToken
    flags := row.flags
    pendingFlags := row.pendingFlags
    contactInfo := row.contactInfo
    masterUids := (db.masterUids.filter (fun p => p.1 = uid)).map Prod.snd
    variants := (db.variants.filter (fun p => p.1 = uid)).map Prod.snd }

/-- `e_book_backend_tp_db_fetch_contacts`: the contacts in the order of their uids. -/
def fetchContacts (db : Db) : List Contact :=
  (db.contacts.entries.insertionSort (fun a b => a.1 ≤ b.1)).map (fun e => db.fetchContact e.1 e.2)

end Db

end EdsTelepathy
