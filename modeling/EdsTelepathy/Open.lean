import EdsTelepathy.Sql

/-!
# Opening the contact cache

`e_book_backend_tp_db_open` and what it makes of the account's file. A database that the restore
of a backup has left takes the place of the one in use; a file that is not there is created with
its tables; one from before the name variants is given the table it lacks. Where this fails, the
file is deleted and all of it is tried once more.

A table is kept with the columns it was created with, since a statement is prepared as soon as
the table has the columns that the statement names. What the file system and SQLite answer is a
choice the caller passes in.
-/

namespace EdsTelepathy

/-- The tables of the schema. -/
inductive TableName where
  | contacts
  | masterUids
  | variants
  deriving DecidableEq

/-- The columns a table is created with. -/
def TableName.columns : TableName → List String
  | contacts => ["uid", "name", "alias", "avatar_token", "flags", "pending_flags", "contact_info"]
  | masterUids => ["contact_uid", "master_uid"]
  | variants => ["contact_uid", "variant"]

/-- A table in a file. -/
structure Sheet (ρ : Type) where
  columns : List String
  rows : ρ

/-- A database file. -/
structure DbFile where
  contacts : Option (Sheet (Table String ContactRow)) := none
  masterUids : Option (Sheet (List (String × Option String))) := none
  variants : Option (Sheet (List (String × String))) := none
  indexes : List String := []

/-- What a file can hold: a database, or something that SQLite does not take for one. -/
inductive Content where
  | database (f : DbFile)
  | foreign

/-! ## The schema -/

/-- A statement of the schema. -/
inductive SchemaStatement where
  | createTable (t : TableName)
  | createIndex (name : String) (t : TableName) (column : String)

/-- `VARIANTS_SCHEMA`. -/
def variantsSchema : List SchemaStatement :=
  [.createTable .variants, .createIndex "variants_i1" .variants "contact_uid"]

/-- `complete_schema`. -/
def completeSchema : List SchemaStatement :=
  [.createTable .contacts, .createTable .masterUids, .createIndex "contacts_i1" .contacts "uid",
    .createIndex "master_uids_i1" .masterUids "contact_uid"] ++ variantsSchema

namespace DbFile

/-- The columns of a table, where there is one of that name. -/
def columns (f : DbFile) : TableName → Option (List String)
  | .contacts => f.contacts.map Sheet.columns
  | .masterUids => f.masterUids.map Sheet.columns
  | .variants => f.variants.map Sheet.columns

/-- A new table, without rows. -/
def create (f : DbFile) (t : TableName) : DbFile :=
  match t with
  | .contacts => { f with contacts := some { columns := t.columns, rows := ∅ } }
  | .masterUids => { f with masterUids := some { columns := t.columns, rows := [] } }
  | .variants => { f with variants := some { columns := t.columns, rows := [] } }

/-- A name can be given once; an index wants its table and its column. -/
def execute (f : DbFile) : SchemaStatement → Option DbFile
  | .createTable t => if (f.columns t).isSome then none else some (f.create t)
  | .createIndex name t column =>
    if name ∉ f.indexes ∧ column ∈ (f.columns t).getD [] then
      some { f with indexes := f.indexes ++ [name] }
    else none

/-- `create_tables`: each statement is committed on its own, up to the first that fails. -/
def createTables (f : DbFile) (oks : List Bool) (schema : List SchemaStatement) : Bool × DbFile :=
  Connection.attempt (schema.map fun st f => f.execute st) oks f

/-- The rows. -/
def db (f : DbFile) : Db :=
  { contacts := f.contacts.elim ∅ Sheet.rows
    masterUids := f.masterUids.elim [] Sheet.rows
    variants := f.variants.elim [] Sheet.rows }

/-- The same tables with other rows. -/
def withDb (f : DbFile) (db : Db) : DbFile :=
  { f with
    contacts := f.contacts.map fun s => { s with rows := db.contacts }
    masterUids := f.masterUids.map fun s => { s with rows := db.masterUids }
    variants := f.variants.map fun s => { s with rows := db.variants } }

end DbFile

/-! ## The prepared statements -/

/-- `QueryType`. -/
inductive QueryType where
  | beginTransaction
  | commitTransaction
  | rollbackTransaction
  | fetchContacts
  | fetchMasterUids
  | insertContact
  | insertMasterUid
  | deleteContact
  | deleteMasterUids
  | updateContact
  | fetchVariants
  | insertVariant
  | deleteVariants
  deriving DecidableEq

namespace QueryType

/-- `queries`, by position. -/
def queries : List QueryType :=
  [beginTransaction, commitTransaction, rollbackTransaction, fetchContacts, fetchMasterUids,
    insertContact, insertMasterUid, deleteContact, deleteMasterUids, updateContact, fetchVariants,
    insertVariant, deleteVariants]

/-- The table of a query, and the columns that its text names. -/
def names : QueryType → Option (TableName × List String)
  | beginTransaction => none
  | commitTransaction => none
  | rollbackTransaction => none
  | fetchContacts => some (.contacts, ["uid"])
  | fetchMasterUids => some (.masterUids, ["contact_uid"])
  | insertContact => some (.contacts, ["uid", "name", "alias", "avatar_token", "flags",
      "pending_flags", "contact_info"])
  | insertMasterUid => some (.masterUids, ["contact_uid", "master_uid"])
  | deleteContact => some (.contacts, ["uid"])
  | deleteMasterUids => some (.masterUids, ["contact_uid"])
  | updateContact => some (.contacts, ["name", "alias", "avatar_token", "flags", "pending_flags",
      "contact_info", "uid"])
  | fetchVariants => some (.variants, ["contact_uid"])
  | insertVariant => some (.variants, ["contact_uid", "variant"])
  | deleteVariants => some (.variants, ["contact_uid"])

end QueryType

namespace Content

/-- Whether SQLite finds in the file what the query names. -/
def prepares (c : Content) (q : QueryType) : Bool :=
  match q.names with
  | none => true
  | some (t, cs) =>
    match c with
    | foreign => false
    | database f => (f.columns t).any fun columns => cs.all (· ∈ columns)

/-- `create_tables` on whatever the file is. -/
def createTables (c : Content) (oks : List Bool) (schema : List SchemaStatement) : Bool × Content :=
  match c with
  | foreign => (false, foreign)
  | database f => ((f.createTables oks schema).1, database (f.createTables oks schema).2)

/--
`prepare_statements`. Where the first query on the variants fails, their table is created, whatever
comes of that, and the query is tried once more. `oks` is for `sqlite3_prepare_v2`, `schema` for
the statements that create the table.
-/
def prepareStatements (schema : List Bool) : List Bool → Content → List QueryType → Bool × Content
  | _, c, [] => (true, c)
  | oks, c, q :: qs =>
    if oks.headD true && c.prepares q then prepareStatements schema oks.tail c qs
    else if q = .fetchVariants then
      let c := (c.createTables schema variantsSchema).2
      if oks.tail.headD true && c.prepares q then prepareStatements schema oks.tail.tail c qs
      else (false, c)
    else (false, c)

/-- The rows. -/
def db : Content → Db
  | database f => f.db
  | foreign => {}

end Content

/-! ## The file -/

/-- What `sqlite3_open_v2` returns, asked to open a file that is there for reading and writing. -/
inductive OpenResult where
  | ok
  /-- `SQLITE_CANTOPEN`, and what it returns for a file that is not there. -/
  | cantOpen
  | failed
  deriving DecidableEq

/-- What the file system and SQLite answer during one attempt. -/
structure Luck where
  /-- `g_mkdir_with_parents`. -/
  mkdir : Bool := true
  /-- `g_rename`, where there is something to rename. -/
  rename : Bool := true
  opens : OpenResult := .ok
  /-- `sqlite3_open_v2` with `SQLITE_OPEN_CREATE`. -/
  creates : Bool := true
  schema : List Bool := []
  prepares : List Bool := []
  migration : List Bool := []
  deriving DecidableEq

/-- The database of an account and the one that a restore has put beside it. -/
structure Disk where
  file : Option Content := none
  restore : Option Content := none

namespace Disk

/-- `g_rename` of the restored database; that it fails is not looked at. -/
def rename (d : Disk) (ok : Bool) : Disk :=
  match d.restore with
  | some c => if ok then { file := some c, restore := none } else d
  | none => d

/-- The second `sqlite3_open_v2`, and the tables. An error says what is left of the file. -/
def createFile (l : Luck) (file : Option Content) : Except (Option Content) Content :=
  if l.creates then
    match (file.getD (.database {})).createTables l.schema completeSchema with
    | (true, c) => .ok c
    | (false, c) => .error (some c)
  else .error file

/-- From the first `sqlite3_open_v2` to the unlocking of the mutex. -/
def openFile (l : Luck) (file : Option Content) : Except (Option Content) Content :=
  match l.opens, file with
  | .failed, _ => .error file
  | .cantOpen, _ => createFile l file
  | .ok, none => createFile l none
  | .ok, some c => .ok c

/-- `e_book_backend_tp_db_open_real`. -/
def openReal (d : Disk) (l : Luck) : Bool × Disk :=
  if l.mkdir then
    let d := d.rename l.rename
    match openFile l d.file with
    | .error file => (false, { d with file := file })
    | .ok c =>
      let r := c.prepareStatements l.migration l.prepares QueryType.queries
      (r.1, { d with file := some r.2 })
  else (false, d)

/-- `e_book_backend_tp_db_open`; `unlinks` is whether the `g_unlink` between the attempts works. -/
def openDb (d : Disk) (first second : Luck) (unlinks : Bool) : Bool × Disk :=
  match d.openReal first with
  | (true, d) => (true, d)
  | (false, d) => (if unlinks then { d with file := none } else d).openReal second

/-- The rows in the account's file. -/
def db (d : Disk) : Db := d.file.elim {} Content.db

/-- Other rows in the account's file. -/
def put (d : Disk) (db : Db) : Disk :=
  match d.file with
  | some (.database f) => { d with file := some (.database (f.withDb db)) }
  | _ => d

end Disk

/-! ## The life of the cache -/

/-- The file and the connection to it, while there is one. -/
structure Store where
  disk : Disk := {}
  session : Option Session := none

/-- What can happen to the cache of an account. -/
inductive StoreEvent where
  | opened (first second : Luck) (unlinks : Bool)
  | called (k : DbCall) (p : Pattern)
  /-- `e_book_backend_tp_db_close`, or the end of the process: an open transaction is undone. -/
  | ended
  /-- `eds-backend-telepathy-restore-compatibility.sh`, or the backup application itself. -/
  | restored (c : Content)

namespace Store

/-- The state after an event; a connection is opened once and used while it is open. -/
def step (s : Store) : StoreEvent → Option Store
  | .opened first second unlinks =>
    match s.session with
    | some _ => none
    | none =>
      let r := s.disk.openDb first second unlinks
      some { disk := r.2, session := if r.1 then some { committed := r.2.db } else none }
  | .called k p =>
    match s.session with
    | none => none
    | some c =>
      let r := k.perform c p
      some { disk := s.disk.put r.2.committed, session := some r.2 }
  | .ended => some { s with session := none }
  | .restored c => some { s with disk := { s.disk with restore := some c } }

/-- The machine of these steps. -/
def machine : Machine Store StoreEvent where
  step := step

end Store

end EdsTelepathy
