import EdsTelepathy.Sql
import EdsTelepathy.Backend.Outbox

/-!
# When a database call is atomic

Each call is `transact` around a list of statements, and the statements applied in a row
are the one-step call of `Db.lean`. So the rule for `transact` says when the calls keep
the contract that `Db.lean` takes for granted: `BEGIN` and what ends the transaction must
pass, because nobody looks at their results. A `COMMIT` that fails is reported as success
and leaves a transaction open; after a `BEGIN` that fails, every statement is committed on
its own and a failure in the middle can not be undone.
-/

namespace EdsTelepathy

open Connection

namespace Db

/-- The statements of `real_add_contact`. -/
def addStatements (c : Contact) : List (Statement Db) :=
  [insertContact c] ++ (c.masterUids.map (insertMasterUidRow c.uid)
    ++ c.variants.map (insertVariantRow c.uid))

/-- The statements of `real_update_contact`. -/
def updateStatements (c : Contact) : List (Statement Db) :=
  [updateContactRow c] ++ ([deleteMasterUidRows c.uid] ++ (c.masterUids.map (insertMasterUidRow c.uid)
    ++ ([deleteVariantRows c.uid] ++ c.variants.map (insertVariantRow c.uid))))

/-- The statements of `real_delete_contact`. -/
def deleteStatements (uid : String) : List (Statement Db) :=
  [deleteContactRow uid] ++ ([deleteMasterUidRows uid] ++ [deleteVariantRows uid])

/-! ## In a row they are one step -/

theorem applyAll_insertMasterUids (uid : String) (ms : List (Option String)) (db : Db) :
    applyAll (ms.map (insertMasterUidRow uid)) db
      = some (ms.foldl (fun db m => db.insertMasterUid uid m) db) := by
  induction ms generalizing db with
  | nil => rfl
  | cons m ms ih => exact ih (db.insertMasterUid uid m)

theorem applyAll_insertVariants (uid : String) (vs : List String) (db : Db) :
    applyAll (vs.map (insertVariantRow uid)) db
      = some (vs.foldl (fun db v => db.insertVariant uid v) db) := by
  induction vs generalizing db with
  | nil => rfl
  | cons v vs ih => exact ih (db.insertVariant uid v)

theorem applyAll_addStatements (c : Contact) (db : Db) :
    applyAll (addStatements c) db = db.realAddContact c := by
  have hrest : ∀ d : Db, applyAll (c.masterUids.map (insertMasterUidRow c.uid)
      ++ c.variants.map (insertVariantRow c.uid)) d = some ((d.addMasterUids c).addVariants c) := by
    intro d
    rw [applyAll_append, applyAll_insertMasterUids, Option.bind_some, applyAll_insertVariants]
    rfl
  rw [addStatements, applyAll_append, applyAll_singleton]
  unfold insertContact realAddContact
  cases c.name with
  | none => rfl
  | some n =>
    cases (db.contacts.lookup c.uid).isSome with
    | true => rfl
    | false => exact hrest _

theorem applyAll_updateStatements (c : Contact) (db : Db) :
    applyAll (updateStatements c) db = db.realUpdateContact c := by
  have hrest : ∀ d : Db, applyAll ([deleteMasterUidRows c.uid]
      ++ (c.masterUids.map (insertMasterUidRow c.uid)
        ++ ([deleteVariantRows c.uid] ++ c.variants.map (insertVariantRow c.uid)))) d
      = some ((((d.deleteMasterUids c.uid).addMasterUids c).deleteVariants c.uid).addVariants c) := by
    intro d
    rw [applyAll_append]
    show applyAll _ (d.deleteMasterUids c.uid) = _
    rw [applyAll_append, applyAll_insertMasterUids, Option.bind_some, applyAll_append]
    show applyAll _ (((d.deleteMasterUids c.uid).addMasterUids c).deleteVariants c.uid) = _
    rw [applyAll_insertVariants]
    rfl
  rw [updateStatements, applyAll_append, applyAll_singleton]
  unfold updateContactRow realUpdateContact
  cases db.updateRow c with
  | none => rfl
  | some d => exact hrest d

end Db

namespace Session

theorem realAddContact_eq (s : Session) (c : Contact) :
    realAddContact s c = s.execAll (Db.addStatements c) := by
  have hm (s : Session) : addMasterUids s c = _ := forEach_exec (Db.insertMasterUidRow c.uid) s _
  have hv (s : Session) : addVariants s c = _ := forEach_exec (Db.insertVariantRow c.uid) s _
  simp only [realAddContact, Db.addStatements, execAll_append, execAll_singleton, hm, hv]

theorem realUpdateContact_eq (s : Session) (c : Contact) :
    realUpdateContact s c = s.execAll (Db.updateStatements c) := by
  have hm (s : Session) : addMasterUids s c = _ := forEach_exec (Db.insertMasterUidRow c.uid) s _
  have hv (s : Session) : addVariants s c = _ := forEach_exec (Db.insertVariantRow c.uid) s _
  simp only [realUpdateContact, Db.updateStatements, deleteMasterUids, deleteVariants,
    execAll_append, execAll_singleton, hm, hv]

theorem realDeleteContact_eq (s : Session) (uid : String) :
    realDeleteContact s uid = s.execAll (Db.deleteStatements uid) := by
  simp only [realDeleteContact, Db.deleteStatements, deleteMasterUids, deleteVariants,
    execAll_append, execAll_singleton]

end Session

namespace DbCall

/-- The statements of a call. -/
def statements : DbCall → List (Statement Db)
  | addContact c => Db.addStatements c
  | addContacts cs => cs.flatMap Db.addStatements
  | updateContact c => Db.updateStatements c
  | updateContacts cs => cs.flatMap Db.updateStatements
  | deleteContact uid => Db.deleteStatements uid
  | removeContacts uids => uids.flatMap Db.deleteStatements

theorem perform_eq (s : Session) (p : Pattern) (k : DbCall) :
    k.perform s p = s.transact p (execAll · k.statements) := by
  cases k with
  | addContact c =>
    exact congrArg (transact s p) (funext fun s => Session.realAddContact_eq s c)
  | addContacts cs =>
    show transact s p (fun s => forEach Session.realAddContact s cs) = _
    congr 1
    funext s
    rw [statements, ← forEach_execAll]
    congr 1
    funext s x
    exact Session.realAddContact_eq s x
  | updateContact c =>
    exact congrArg (transact s p) (funext fun s => Session.realUpdateContact_eq s c)
  | updateContacts cs =>
    show transact s p (fun s => forEach Session.realUpdateContact s cs) = _
    congr 1
    funext s
    rw [statements, ← forEach_execAll]
    congr 1
    funext s x
    exact Session.realUpdateContact_eq s x
  | deleteContact uid =>
    exact congrArg (transact s p) (funext fun s => Session.realDeleteContact_eq s uid)
  | removeContacts uids =>
    show transact s p (fun s => forEach Session.realDeleteContact s uids) = _
    congr 1
    funext s
    rw [statements, ← forEach_execAll]
    congr 1
    funext s x
    exact Session.realDeleteContact_eq s x

theorem applyAll_statements (k : DbCall) (db : Db) : applyAll k.statements db = k.apply db := by
  cases k with
  | addContact c =>
    rw [statements, Db.applyAll_addStatements, apply, Db.addContacts, List.foldlM_cons]
    cases db.realAddContact c <;> rfl
  | addContacts cs =>
    rw [statements, applyAll_flatMap]
    exact congrArg (List.foldlM · db cs) (funext₂ fun db c => Db.applyAll_addStatements c db)
  | updateContact c =>
    rw [statements, Db.applyAll_updateStatements, apply, Db.updateContacts, List.foldlM_cons]
    cases db.realUpdateContact c <;> rfl
  | updateContacts cs =>
    rw [statements, applyAll_flatMap]
    exact congrArg (List.foldlM · db cs) (funext₂ fun db c => Db.applyAll_updateStatements c db)
  | deleteContact uid => rfl
  | removeContacts uids =>
    rw [statements, applyAll_flatMap, apply, Db.removeContacts]
    induction uids generalizing db with
    | nil => rfl
    | cons uid uids ih => exact ih (db.realDeleteContact uid)

/-! ## The contract -/

/--
A call tells the truth and is atomic: it answers `TRUE` only if all its changes are
committed, `FALSE` only if nothing was, and leaves no transaction open.
-/
structure Truthful (s : Session) (k : DbCall) (r : Bool × Session) : Prop where
  done : r.1 = true → k.apply s.visible = some r.2.committed
  undone : r.1 = false → r.2.committed = s.committed
  closed : r.2.Closed

/-- A call, and what the engine decides about its steps. -/
abbrev Attempt := DbCall × Pattern

/-- The connection after a call. -/
def after (s : Session) (a : Attempt) : Session := (a.1.perform s a.2).2

/-- The call keeps the contract. -/
def Keeps (s : Session) (a : Attempt) : Prop := Truthful s a.1 (a.1.perform s a.2)

/-- What the engine decides about the call does no harm. -/
def Spared (s : Session) (a : Attempt) : Prop :=
  Connection.Harmless a.1.statements a.2 s.committed

theorem keeps_iff {s : Session} (hs : s.Closed) (a : Attempt) : Keeps s a ↔ Spared s a := by
  unfold Keeps Spared
  rw [perform_eq, ← Connection.transact_truthful_iff hs]
  constructor
  · intro h
    refine ⟨fun hr => ?_, h.undone, h.closed⟩
    rw [applyAll_statements]
    exact h.done hr
  · intro h
    refine ⟨fun hr => ?_, h.undone, h.closed⟩
    rw [← applyAll_statements]
    exact h.done hr

/--
**The calls of a run are atomic and truthful exactly where every failure is harmless.** For
any sequence of calls and any pattern of failing steps, from any database.
-/
theorem calls_truthful (db : Db) (as : List Attempt) :
    AllAlong after Keeps { committed := db } as ↔ AllAlong after Spared { committed := db } as := by
  have hclosed : ({ committed := db } : Session).Closed := rfl
  exact AllAlong.congr_inv (I := Connection.Closed) (fun _ a hs => keeps_iff hs a)
    (fun _ _ _ h => h.closed) hclosed as

/-- The row of a contact that is only a uid and a name. -/
def storedBob : Db := { contacts := (∅ : Table String ContactRow).insert "acct-bob" { name := "bob" } }

/-- A `COMMIT` that fails is reported as success, and the transaction stays open. -/
theorem commit_unnoticed :
    (perform { committed := storedBob } { ends := false } (deleteContact "acct-bob")).1 = true ∧
      ((perform { committed := storedBob } { ends := false }
          (deleteContact "acct-bob")).2.committed.contacts.lookup "acct-bob").isSome = true ∧
      ¬ AllAlong after Keeps { committed := storedBob }
          [(deleteContact "acct-bob", { ends := false })] := by
  refine ⟨by decide, by decide, fun h => ?_⟩
  cases h.1.closed

/-- Where `BEGIN` and the end of the transaction pass, a call is what `Outbox.transaction` is. -/
theorem perform_refines {s : Session} (hs : s.Closed) {p : Pattern} (hb : p.begins = true)
    (he : p.ends = true) (k : DbCall) (o : Outbox) (hdb : o.db = s.committed) :
    ∃ ok, (k.perform s p).1 = ({ o with sql := [ok] }.transaction k.apply).1 ∧
      (k.perform s p).2.committed = ({ o with sql := [ok] }.transaction k.apply).2.db := by
  obtain ⟨hans, hrest⟩ := transact_begun hs hb k.statements
  rw [he, if_pos rfl] at hrest
  rw [perform_eq]
  refine ⟨(attempt k.statements p.statements s.committed).1, ?_⟩
  rw [hans, hrest.2]
  cases ha : (attempt k.statements p.statements s.committed).1 with
  | true =>
    have hall := applyAll_of_attempt ha
    rw [applyAll_statements] at hall
    simp [Outbox.transaction, hdb, hall]
  | false => simp [Outbox.transaction, hdb]

end DbCall

end EdsTelepathy
