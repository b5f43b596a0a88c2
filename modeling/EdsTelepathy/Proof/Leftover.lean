import EdsTelepathy.Backend.Batch
import EdsTelepathy.Proof.Frame
import EdsTelepathy.Proof.Held

/-!
# What a failed create request leaves behind

`run_create_contact` fails in three places. A vcard without a name and a request that the
server turns down are noticed before anything is entered. A row that cannot be inserted is
noticed after the contact went into three tables, and that error path takes it out of none.

Whatever comes of it, the function begins by writing the updates that earlier callbacks
queued, so a call that fails early may still change rows.
-/

namespace EdsTelepathy

namespace Backend

/-- The `flush_db_updates` at the start of `run_create_contact`. -/
def flushed (b : Backend) : Backend := { b with out := b.out.flushDbUpdates b.book.contacts }

/-- `run_create_contact` from its first statement on. -/
def runCreate (b : Backend) (ec : Contact.EVCard) : Option Nat × Backend :=
  b.flushed.runCreateContact ec

/-- The turn of the loop over the vcards is this call. -/
theorem createOne_eq (s : Contact.Surroundings) (b : Backend) (ec : Contact.EVCard) :
    b.createOne s ec = ((b.runCreate ec).1.map fun r =>
      ((b.runCreate ec).2.book.contacts r).toEcontact s, (b.runCreate ec).2) := by
  unfold createOne runCreate flushed
  dsimp only
  generalize Backend.runCreateContact _ ec = created
  obtain ⟨_ | r, b'⟩ := created <;> rfl

/-- Nothing tells the two states apart but the wire and an address that was free. -/
structure NoTrace (b b' : Backend) : Prop where
  uids : b'.book.uidToContact = b.book.uidToContact
  names : b'.book.nameToContact = b.book.nameToContact
  adds : b'.book.contactsToAdd = b.book.contactsToAdd
  contacts : ∀ r, r ≠ b.book.next → b'.book.contacts r = b.book.contacts r
  rows : b'.out.db = b.out.db

/-! ## How far a request gets -/

/-- The contact for the lookup by name, if the request gets there. -/
def candidate (b : Backend) (ec : Contact.EVCard) : Option Contact :=
  match Contact.new.updateFromEcontact ec b.vcardField with
  | (false, _) => none
  | (true, c) =>
    let c := c.submitted (generateUid b.pathSuffix b.book.uidToContact c.name)
    if b.tpcl.status = .online then
      match b.runAddContact c with
      | (true, c, _) => some c
      | (false, _, _) => none
    else some c

/-- A request that does not get to the lookup fails, and has touched nothing. -/
theorem runCreateContact_stopped {b : Backend} {ec : Contact.EVCard} (h : b.candidate ec = none) :
    ∃ w, b.runCreateContact ec = (none, { b with wire := w }) := by
  unfold candidate at h
  unfold runCreateContact
  generalize Contact.new.updateFromEcontact ec b.vcardField = card at h
  obtain ⟨_ | _, c⟩ := card
  · exact ⟨b.wire, rfl⟩
  · dsimp only at h ⊢
    by_cases hon : b.tpcl.status = .online
    · rw [if_pos hon] at h
      rw [if_pos hon]
      generalize b.runAddContact _ = asked at h
      obtain ⟨_ | _, c', w⟩ := asked
      · exact ⟨w, rfl⟩
      · cases h
    · rw [if_neg hon] at h
      cases h

/-- One that does goes on with a contact that is marked to be added. -/
theorem runCreateContact_candidate {b : Backend} {ec : Contact.EVCard} {c : Contact}
    (h : b.candidate ec = some c) :
    c.Created ∧ ∃ w, b.runCreateContact ec = { b with wire := w }.enterCreated c := by
  have hcreated := Contact.created_submitted ec b.vcardField
  unfold candidate at h
  unfold runCreateContact
  generalize Contact.new.updateFromEcontact ec b.vcardField = card at h hcreated
  obtain ⟨_ | _, d⟩ := card
  · cases h
  · dsimp only at h hcreated ⊢
    have hd := hcreated (generateUid b.pathSuffix b.book.uidToContact d.name)
    by_cases hon : b.tpcl.status = .online
    · rw [if_pos hon] at h
      rw [if_pos hon]
      have hasked := asked_runAddContact b
        (d.submitted (generateUid b.pathSuffix b.book.uidToContact d.name))
      generalize b.runAddContact _ = asked at h hasked
      obtain ⟨_ | _, c', w⟩ := asked
      · cases h
      · obtain rfl := Option.some.inj h
        exact ⟨hd.asked hasked, w, rfl⟩
    · rw [if_neg hon] at h
      rw [if_neg hon]
      obtain rfl := Option.some.inj h
      exact ⟨hd, b.wire, rfl⟩

end Backend

/-! ## The insert -/

/-- The row of a contact can be inserted: no error of SQLite, no constraint in the way. -/
def Outbox.Insertable (o : Outbox) (c : Contact) : Prop :=
  o.sql.headD true = true ∧ c.name ≠ none ∧ o.db.contacts.lookup c.uid = none

theorem Db.addContacts_single (db : Db) (c : Contact) :
    (db.addContacts [c]).isSome = true ↔ c.name ≠ none ∧ db.contacts.lookup c.uid = none := by
  have hone : db.addContacts [c] = db.realAddContact c := by
    show (db.realAddContact c).bind some = _
    exact Option.bind_fun_some _
  rw [hone]
  unfold realAddContact
  cases c.name with
  | none => simp
  | some n =>
    cases hrow : db.contacts.lookup c.uid with
    | none => simp
    | some row => simp

theorem Outbox.transaction_insert (o : Outbox) (c : Contact) :
    (o.transaction fun db => db.addContacts [c]).1 = true ↔ o.Insertable c := by
  have hadd := o.db.addContacts_single c
  unfold transaction Insertable
  dsimp only
  by_cases hok : o.sql.headD true = true
  · rw [if_pos hok]
    cases hdb : o.db.addContacts [c] with
    | none =>
      rw [hdb] at hadd
      exact ⟨fun h => (nomatch h), fun h => absurd (hadd.mpr h.2) (by simp)⟩
    | some db =>
      rw [hdb] at hadd
      exact ⟨fun _ => ⟨hok, hadd.mp rfl⟩, fun _ => rfl⟩
  · rw [if_neg hok]
    exact ⟨fun h => (nomatch h), fun h => absurd h.1 hok⟩

namespace Backend

/-- A contact of a new name fails where its row cannot be inserted, and is in the tables then. -/
theorem createNew_failed {b : Backend} {c : Contact} (hadd : c.pendingFlags.has scheduleAdd = true) :
    (b.createNew c).1 = none ↔ ¬ b.out.Insertable c := by
  have hcontact : (b.book.createContact c).contacts b.book.next = c :=
    Book.createContact_contacts_next ..
  have hinsert := b.out.transaction_insert c
  unfold createNew
  dsimp only
  rw [if_pos hadd, hcontact, ← hinsert]
  generalize b.out.transaction _ = done
  obtain ⟨_ | _, o⟩ := done <;> simp

theorem createNew_name (b : Backend) (c : Contact) :
    (b.createNew c).2.book.nameToContact.lookup c.name = some b.book.next := by
  have hname : (b.book.createContact c).nameToContact.lookup c.name = some b.book.next := by
    rw [Book.createContact_nameToContact]
    exact AList.lookup_insert _
  unfold createNew
  dsimp only
  split <;> exact hname

theorem createExisting_returns (b : Backend) {r : Nat} {c : Contact}
    (hr : b.book.nameToContact.lookup c.name = some r) : (b.enterCreated c).1 = some r := by
  unfold enterCreated
  rw [hr]

/-! ## When nothing is left -/

/--
What keeps a request from leaving a trace: where it stops before the lookup by name, the rows
that were queued are what the database has already, and where the name is new, the row can be
inserted.
-/
def FailsCleanly (b : Backend) (ec : Contact.EVCard) : Prop :=
  match b.flushed.candidate ec with
  | none => b.flushed.out.db = b.out.db
  | some c => (b.book.nameToContact.lookup c.name).isSome = true ∨ b.flushed.out.Insertable c

/-- **A failed create request leaves no trace** where the insert is not what fails. -/
theorem failed_create_leaves_no_trace (b : Backend) (ec : Contact.EVCard) :
    ((b.runCreate ec).1 = none → b.NoTrace (b.runCreate ec).2) ↔ b.FailsCleanly ec := by
  have hbook : b.flushed.book = b.book := rfl
  unfold FailsCleanly runCreate
  cases hcandidate : b.flushed.candidate ec with
  | none =>
    obtain ⟨w, hrun⟩ := runCreateContact_stopped hcandidate
    rw [hrun]
    exact ⟨fun h => (h rfl).rows, fun h _ => ⟨rfl, rfl, rfl, fun _ _ => rfl, h⟩⟩
  | some c =>
    obtain ⟨hcreated, w, hrun⟩ := runCreateContact_candidate hcandidate
    rw [hrun]
    dsimp only
    cases hname : b.book.nameToContact.lookup c.name with
    | some r =>
      have hreturns := createExisting_returns { b.flushed with wire := w } hname
      refine ⟨fun _ => .inl rfl, fun _ hnone => ?_⟩
      rw [hreturns] at hnone
      cases hnone
    | none =>
      have henter : { b.flushed with wire := w }.enterCreated c
          = { b.flushed with wire := w }.createNew c := by
        unfold enterCreated
        dsimp only
        rw [hbook, hname]
      rw [henter]
      have hfailed := createNew_failed (b := { b.flushed with wire := w }) hcreated.add
      constructor
      · intro h
        right
        by_contra hno
        -- the name leads to the contact that could not be stored
        have hafter := createNew_name { b.flushed with wire := w } c
        rw [(h (hfailed.mpr hno)).names, hname] at hafter
        cases hafter
      · intro h hnone
        have hinsert := h.resolve_left (by simp)
        exact absurd hinsert (hfailed.mp hnone)

/-- The contact that cannot be stored. -/
def bobsCard : Contact.EVCard := [{ name := "X-JABBER", values := ["bob"] }]

/--
A contact that is not stored stays in the tables: the request is answered with an error, and the
contact is found under its uid and name and waits to be added.
-/
theorem failed_create_leaves_contact :
    ∃ b, ReachableFrom "acct" "X-JABBER" {} b
      ∧ ((b.load { sql := [false] }).runCreate bobsCard).1 = none
      ∧ b.book.uidToContact.lookup "acct-bob" = none
      ∧ ((b.load { sql := [false] }).runCreate bobsCard).2.book.uidToContact.lookup "acct-bob" = some 0
      ∧ ((b.load { sql := [false] }).runCreate bobsCard).2.book.contactsToAdd.lookup "acct-bob"
          = some 0
      ∧ ((b.load { sql := [false] }).runCreate bobsCard).2.out.db.contacts.lookup "acct-bob" = none
      ∧ ¬ (b.load { sql := [false] }).NoTrace ((b.load { sql := [false] }).runCreate bobsCard).2 := by
  have hrun : ((machine.run (boot "acct" "X-JABBER" {}) [{ event := .phase0 }]).map fun b =>
      decide (((b.load { sql := [false] }).runCreate bobsCard).1 = none
        ∧ b.book.uidToContact.lookup "acct-bob" = none
        ∧ ((b.load { sql := [false] }).runCreate bobsCard).2.book.uidToContact.lookup "acct-bob"
            = some 0
        ∧ ((b.load { sql := [false] }).runCreate bobsCard).2.book.contactsToAdd.lookup "acct-bob"
            = some 0
        ∧ ((b.load { sql := [false] }).runCreate bobsCard).2.out.db.contacts.lookup "acct-bob"
            = none)) = some true := by
    decide +kernel
  obtain ⟨b, hb, hfacts⟩ := Option.map_eq_some_iff.mp hrun
  obtain ⟨hnone, hbefore, hafter, hadd, hrow⟩ := of_decide_eq_true hfacts
  refine ⟨b, ⟨_, hb⟩, hnone, hbefore, hafter, hadd, hrow, fun h => ?_⟩
  have hsame : ((b.load { sql := [false] }).runCreate bobsCard).2.book.uidToContact
      = b.book.uidToContact := h.uids
  rw [hsame, hbefore] at hafter
  cases hafter

end Backend

end EdsTelepathy
