import EdsTelepathy.Lib.Path
import EdsTelepathy.Lib.Table
import Mathlib.Algebra.Group.Nat.Defs

/-!
# Databases of accounts that are gone

`e_book_backend_tp_db_cleanup_unused_dbs` lists the cache directory before it asks for the
accounts, so that a database made in the meantime is not taken for an unused one. What the
listing has and no account claims is deleted, unless it has changed since.

A path is its characters. `stat` is what `g_stat` says of the modification time, `none` where it
fails; it is asked twice, and the files may change in between.
-/

namespace EdsTelepathy

namespace Cleanup

open Path

/-- `get_db_directory`. -/
def getDbDirectory (home : List Char) : List Char :=
  buildFilename [home, ".osso-abook".toList, "db".toList, "tp-cache".toList]

/-- The account name as `db_filename_for_account` writes it: the first character is kept. -/
def convertedAccountName : List Char → List Char
  | [] => []
  | c :: cs => c :: cs.map fun ch => if ch = '/' then '_' else ch

/-- `db_filename_for_account`. -/
def dbFilenameForAccount (home : List Char) (accountName : String) : List Char :=
  buildFilename [getDbDirectory home, convertedAccountName accountName.toList]

/-- `RESTORE_DB_EXTENSION`. -/
def restoreDbExtension : List Char := ".restore".toList

/-- `get_restore_db_filename`. -/
def getRestoreDbFilename (dbName : List Char) : List Char := dbName ++ restoreDbExtension

/-- A modification time that has been through `GINT_TO_POINTER` and `GPOINTER_TO_INT`. -/
def throughPointer (mtime : Int) : Int := mtime.bmod (2 ^ 32)

/-- The loop body of `e_book_backend_tp_db_cleanup_unused_dbs`. -/
def listDb (home : List Char) (stat : List Char → Option Int) (accountDbs : Table (List Char) Int)
    (dbName : String) : Table (List Char) Int :=
  if restoreDbExtension <:+ dbName.toList then accountDbs
  else
    let dbPath := buildFilename [getDbDirectory home, dbName.toList]
    match stat dbPath with
    | some mtime => accountDbs.insert dbPath (throughPointer mtime)
    | none => accountDbs

/-- `e_book_backend_tp_db_cleanup_unused_dbs`: the files listed, with their times. -/
def listDbs (home : List Char) (stat : List Char → Option Int) (names : List String) :
    Table (List Char) Int :=
  names.foldl (listDb home stat) ∅

/-- `remove_accounts_from_hash_table`. -/
def removeAccountsFromHashTable (home : List Char) (accountDbs : Table (List Char) Int)
    (accounts : List String) : Table (List Char) Int :=
  accounts.foldl (fun t account => t.erase (dbFilenameForAccount home account)) accountDbs

/-- `am_prepared_cb`: the files that it deletes; `none` is the error of the account manager. -/
def amPreparedCb (home : List Char) (stat : List Char → Option Int)
    (accountDbs : Table (List Char) Int) (accounts : Option (List String)) : List (List Char) :=
  match accounts with
  | none => []
  | some accounts =>
    (((removeAccountsFromHashTable home accountDbs accounts).entries.filter fun entry =>
      stat entry.1 = some entry.2)).map Sigma.fst

/--
The clean-up: the directory is listed while `stat` tells the times, the accounts come later, and
then `later` tells them.
-/
def unlinked (home : List Char) (names : List String) (stat later : List Char → Option Int)
    (accounts : Option (List String)) : List (List Char) :=
  amPreparedCb home later (listDbs home stat names) accounts

end Cleanup

end EdsTelepathy
