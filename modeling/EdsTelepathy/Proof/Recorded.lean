import EdsTelepathy.Proof.Asking
import EdsTelepathy.Proof.MasterUids

/-!
# What a request leaves in the database

A process that is started anew knows of a contact what its row recalls: the lists it is on,
and whether it is to be added or removed. A request that is made offline writes the contact it
is about, so where the row recalled the contact before, it does so after the request.
-/

namespace EdsTelepathy

/-! ## What a row recalls of its contact -/

/-- The pending bits that decide what phase 3 asks the server for. -/
def askingBits : List Flags := [scheduleDelete, scheduleUpdateFlags, subscribe, publish, stored]

/-- The row agrees with the contact on the lists, and on what phase 3 is to ask for. -/
structure ContactRow.Recalls (row : ContactRow) (c : Contact) : Prop where
  lists : row.flags &&& allListFlags = c.flags &&& allListFlags
  pending : ∀ m ∈ askingBits, row.pendingFlags.has m = c.pendingFlags.has m

-- the bits are gone through one by one, since the words are too many to be tried
instance (row : ContactRow) (c : Contact) : Decidable (row.Recalls c) :=
  decidable_of_iff (row.flags &&& allListFlags = c.flags &&& allListFlags
      ∧ (askingBits.all fun m => row.pendingFlags.has m == c.pendingFlags.has m) = true)
    ⟨fun h => ⟨h.1, fun m hm => beq_iff_eq.mp (List.all_eq_true.mp h.2 m hm)⟩,
      fun h => ⟨h.lists, List.all_eq_true.mpr fun m hm => beq_iff_eq.mpr (h.pending m hm)⟩⟩

theorem ContactRow.recalls_rowOf (c : Contact) (n : String) : (Db.rowOf c n).Recalls c :=
  ⟨rfl, fun _ _ => rfl⟩

/-- A row recalls the contact that it is imported as. -/
theorem ContactRow.recalls_imported (db : Db) (u : String) (row : ContactRow) :
    row.Recalls (db.fetchContact u row).imported := by
  unfold Contact.imported
  split
  · refine ⟨?_, fun _ _ => rfl⟩
    -- the mark of the import is no list
    show row.flags &&& allListFlags = (row.flags ||| contactUnseen) &&& allListFlags
    rw [BitVec.and_or_distrib_right, show contactUnseen &&& allListFlags = 0#32 by decide,
      BitVec.or_zero]
  · exact ⟨rfl, fun _ _ => rfl⟩

namespace Contact

/-- A creation leaves alone what is pending about removing the known contact. -/
theorem resubmitted_delete (e c : Contact) (unblocked : Bool) :
    ((e.mergeSubmitted c).updated unblocked).pendingFlags.has scheduleDelete
      = e.pendingFlags.has scheduleDelete :=
  ((e.mergeSubmitted c).sameOff_updated unblocked _ (by decide)).trans
    (e.sameOff_mergeSubmitted c _ (by decide))

/-- Where there is nothing to do for it, a creation leaves alone all that phase 3 is to ask for. -/
theorem resubmitted_asking {e c : Contact} (h : (e.mergeSubmitted c).needsUpdate = false)
    (unblocked : Bool) : ∀ m ∈ askingBits,
    ((e.mergeSubmitted c).updated unblocked).pendingFlags.has m = e.pendingFlags.has m := by
  have hmerged : ∀ m ∈ askingBits, (mergeBits ||| deny) &&& m = 0#32 := by
    simp only [askingBits, List.forall_mem_cons]
    exact ⟨by decide, by decide, by decide, by decide, by decide, List.forall_mem_nil _⟩
  have hupdated : ∀ m ∈ askingBits, m ≠ scheduleUpdateFlags →
      (mergeBits ||| scheduleUpdateFlags) &&& m = 0#32 := by
    simp only [askingBits, List.forall_mem_cons]
    exact ⟨fun _ => by decide, fun h => absurd rfl h, fun _ => by decide, fun _ => by decide,
      fun _ => by decide, List.forall_mem_nil _⟩
  intro m hm
  rw [← e.sameOff_mergeSubmitted c m (hmerged m hm)]
  by_cases hu : m = scheduleUpdateFlags
  · have hnone : (e.mergeSubmitted c).pendingFlags.has scheduleUpdateFlags = false := by
      unfold needsUpdate at h
      rw [Bool.or_eq_false_iff, Bool.or_eq_false_iff, Bool.or_eq_false_iff] at h
      exact h.1.1.1
    rw [hu, updated_asks_nothing, hnone]
  · exact (e.mergeSubmitted c).sameOff_updated unblocked m (hupdated m hm hu)

/-- It changes the lists only where it asks for an unblock, and then takes the deny list away. -/
theorem resubmitted_flags (e c : Contact) (unblocked : Bool) :
    ((e.mergeSubmitted c).updated unblocked).flags = e.flags
      ∨ ((e.mergeSubmitted c).updated unblocked).flags = e.flags &&& ~~~deny
        ∧ (e.mergeSubmitted c).needsUpdate = true := by
  have hsame := (mergeSubmitted_keeps e c).2
  have hflags : ((e.mergeSubmitted c).updated unblocked).flags
      = ((e.mergeSubmitted c).flagsAsked.unblockAsked unblocked).flags := rfl
  rw [hflags]
  unfold unblockAsked
  split
  · rename_i hpending
    split
    · exact .inl hsame
    · refine .inr ⟨congrArg (· &&& ~~~deny) hsame, ?_⟩
      have hbit : (e.mergeSubmitted c).pendingFlags.has scheduleUnblock = true := BitVec.has_of_and_has hpending
      unfold needsUpdate
      rw [hbit, Bool.or_true, Bool.true_or, Bool.true_or]
  · exact .inl hsame

end Contact

/-! ## What a request leaves in the database -/

namespace Outbox

theorem transaction_db (o : Outbox) (f : Db → Option Db) :
    (o.transaction f).2.db = o.db ∨ f o.db = some (o.transaction f).2.db := by
  unfold transaction
  dsimp only
  split
  · split
    · rename_i db hdb
      exact .inr hdb
    · exact .inl rfl
  · exact .inl rfl

/-- Where no error is reported, a call whose statements succeed is made. -/
theorem transaction_ok {o : Outbox} (h : o.NoError) {f : Db → Option Db} {db : Db}
    (hf : f o.db = some db) : (o.transaction f).2.db = db := by
  have hhead : o.sql.headD true = true := by
    cases hsql : o.sql with
    | nil => rfl
    | cons ok rest => exact h ok (by rw [hsql]; exact List.mem_cons_self)
  unfold transaction
  dsimp only
  rw [if_pos hhead, hf]

theorem row_flush (heap : Nat → Contact) (o : Outbox) (uid : String) :
    (o.flushDbUpdates heap).db.contacts.lookup uid = o.db.contacts.lookup uid
      ∨ ∃ r ∈ Table.values o.contactsToUpdateInDb, (heap r).uid = uid ∧ ∃ n, (heap r).name = some n
        ∧ (o.flushDbUpdates heap).db.contacts.lookup uid = some (Db.rowOf (heap r) n) := by
  unfold flushDbUpdates
  split
  · exact .inl rfl
  · dsimp only
    rcases transaction_db o fun db => db.updateContacts
      ((Table.values o.contactsToUpdateInDb).map heap) with hsame | hdone
    · exact .inl (congrArg (fun db : Db => db.contacts.lookup uid) hsame)
    · refine (Db.row_updateContacts hdone uid).imp_right ?_
      rintro ⟨c, hc, hu, hrow⟩
      obtain ⟨r, hr, rfl⟩ := List.mem_map.mp hc
      exact ⟨r, hr, hu, hrow⟩

theorem noError_notifyRemote {o : Outbox} (h : o.NoError) (heap : Nat → Contact) :
    (o.notifyRemotelyUpdatedContactsAndComplete heap).NoError := by
  rw [notifyRemotelyUpdatedContactsAndComplete_eq]
  exact h

end Outbox

namespace ContactRow.Recalls

variable {row : ContactRow} {c c' : Contact}

theorem delete (h : row.Recalls c) :
    row.pendingFlags.has scheduleDelete = c.pendingFlags.has scheduleDelete :=
  h.pending _ List.mem_cons_self

theorem update (h : row.Recalls c) :
    row.pendingFlags.has scheduleUpdateFlags = c.pendingFlags.has scheduleUpdateFlags :=
  h.pending _ (List.mem_cons_of_mem _ List.mem_cons_self)

theorem memberships_eq (h : row.Recalls c) {l : ListId} (hl : l ∈ rosterLists) :
    memberships row.pendingFlags l = memberships c.pendingFlags l := by
  have hbit : ∀ l ∈ rosterLists, l.flag .current ∈ askingBits := by decide
  exact h.pending _ (hbit l hl)

/-- Whether a contact is shown is recalled by its row. -/
theorem isVisible_eq (h : row.Recalls c) (h' : row.Recalls c') : c.isVisible = c'.isVisible := by
  rw [Bool.eq_iff_iff, Contact.isVisible_iff, Contact.isVisible_iff, ← h.lists, ← h'.lists,
    ← h.delete, ← h'.delete]

/-- So is what it asks for. -/
theorem steady (h : row.Recalls c) (h' : row.Recalls c') (hc : c.Steady) : c'.Steady := by
  intro hu l hl
  rw [← h'.memberships_eq hl, h.memberships_eq hl]
  exact hc (h.update.symm.trans (h'.update.trans hu)) l hl

theorem idle (h : row.Recalls c) (h' : row.Recalls c') (hc : c.Idle) : c'.Idle where
  update := h'.update.symm.trans (h.update.trans hc.update)
  lists := fun l hl => (h'.memberships_eq hl).symm.trans ((h.memberships_eq hl).trans (hc.lists l hl))

end ContactRow.Recalls

namespace Backend

/-- The contact with a name is in the database as far as a restart needs it, and nothing else is. -/
structure Recorded (n : String) (b : Backend) : Prop where
  row : ∀ r ∈ b.book.nameToContact.lookup (some n),
    ∃ row ∈ b.out.db.contacts.lookup (b.book.contacts r).uid,
      row.name = n ∧ row.Recalls (b.book.contacts r)
  sole : ∀ u ∈ b.out.db.contacts.keys, ∀ row ∈ b.out.db.contacts.lookup u, row.name = n →
    ∃ r ∈ b.book.nameToContact.lookup (some n), (b.book.contacts r).uid = u
  known : ∀ u ∈ b.out.db.contacts.keys, (b.book.uidToContact.lookup u).isSome = true
  queue : ∀ x ∈ Table.values b.out.contactsToUpdateInDb,
    ((b.book.contacts x).name = some n ∨ ∃ r ∈ b.book.nameToContact.lookup (some n),
      (b.book.contacts x).uid = (b.book.contacts r).uid) →
    b.book.nameToContact.lookup (some n) = some x

instance (n : String) (b : Backend) : Decidable (Recorded n b) :=
  decidable_of_iff ((∀ r ∈ b.book.nameToContact.lookup (some n),
        ∃ row ∈ b.out.db.contacts.lookup (b.book.contacts r).uid,
          row.name = n ∧ row.Recalls (b.book.contacts r))
      ∧ (∀ u ∈ b.out.db.contacts.keys, ∀ row ∈ b.out.db.contacts.lookup u, row.name = n →
        ∃ r ∈ b.book.nameToContact.lookup (some n), (b.book.contacts r).uid = u)
      ∧ (∀ u ∈ b.out.db.contacts.keys, (b.book.uidToContact.lookup u).isSome = true)
      ∧ ∀ x ∈ Table.values b.out.contactsToUpdateInDb,
        ((b.book.contacts x).name = some n ∨ ∃ r ∈ b.book.nameToContact.lookup (some n),
          (b.book.contacts x).uid = (b.book.contacts r).uid) →
        b.book.nameToContact.lookup (some n) = some x)
    ⟨fun h => ⟨h.1, h.2.1, h.2.2.1, h.2.2.2⟩, fun h => ⟨h.row, h.sole, h.known, h.queue⟩⟩

theorem mem_keys_of_row {b : Backend} {u : String}
    (h : (b.out.db.contacts.lookup u).isSome = true) : u ∈ b.out.db.contacts.keys :=
  AList.mem_keys.mp (AList.lookup_isSome.mp h)

theorem Recorded.within {n : String} {b : Backend} (h : Recorded n b) :
    b.out.db.Within fun u => (b.book.uidToContact.lookup u).isSome = true :=
  fun u hu => h.known u (mem_keys_of_row hu)

/-- Every row with the name is under the uid of the contact. -/
theorem Recorded.row_uid {n : String} {b : Backend} (h : Recorded n b) {u : String}
    {row : ContactRow} (hrow : b.out.db.contacts.lookup u = some row) (hn : row.name = n) :
    ∃ r, b.book.nameToContact.lookup (some n) = some r ∧ (b.book.contacts r).uid = u :=
  h.sole u (mem_keys_of_row (by rw [hrow]; rfl)) row hrow hn

theorem Recorded.sole_uid {n : String} {b : Backend} (h : Recorded n b) {r : Nat}
    (hr : b.book.nameToContact.lookup (some n) = some r) {u : String} {row : ContactRow}
    (hrow : b.out.db.contacts.lookup u = some row) (hn : row.name = n) :
    u = (b.book.contacts r).uid := by
  obtain ⟨r', hr', hu⟩ := h.row_uid hrow hn
  obtain rfl := Option.some.inj (hr.symm.trans hr')
  exact hu.symm

/-- The start of a request writes the contact as it is, if it writes it. -/
theorem Recorded.flush {n : String} {b : Backend} (hknown : b.book.KnownAs n) (h : Recorded n b) :
    Recorded n b.flush := by
  have hnotified : (b.out.notifyRemotelyUpdatedContactsAndComplete b.book.contacts).db = b.out.db :=
    Outbox.notifyRemotelyUpdatedContactsAndComplete_db ..
  have hqueue := Outbox.notifyRemote_toUpdate b.book.contacts b.out
  -- a row is what it was, or it was written from somebody who waited
  have hrows : ∀ u, b.flush.out.db.contacts.lookup u = b.out.db.contacts.lookup u
      ∨ ∃ x ∈ Table.values b.out.contactsToUpdateInDb, (b.book.contacts x).uid = u
        ∧ ∃ m, (b.book.contacts x).name = some m
          ∧ b.flush.out.db.contacts.lookup u = some (Db.rowOf (b.book.contacts x) m) := by
    intro u
    have hflush := Outbox.row_flush b.book.contacts
      (b.out.notifyRemotelyUpdatedContactsAndComplete b.book.contacts) u
    rw [hnotified, hqueue] at hflush
    exact hflush
  refine ⟨fun r hr => ?_, fun u hu row hrow hn => ?_, fun u hu => ?_, fun x hx => ?_⟩
  · have hr' : r ∈ b.book.nameToContact.lookup (some n) := hr
    rcases hrows (b.book.contacts r).uid with hsame | ⟨x, hx, hu, m, hm, hrow⟩
    · obtain ⟨row, hrow, hrecalls⟩ := h.row r hr'
      exact ⟨row, hsame.trans hrow, hrecalls⟩
    · obtain rfl : x = r := Option.some.inj ((h.queue x hx (.inr ⟨r, hr', hu⟩)).symm.trans hr')
      exact ⟨_, hrow, Option.some.inj (hm.symm.trans (hknown x hr').1), ContactRow.recalls_rowOf _ m⟩
  · rcases hrows u with hsame | ⟨x, hx, hu', m, hm, hrow'⟩
    · exact h.row_uid (hsame.symm.trans hrow) hn
    · obtain rfl := Option.some.inj (hrow'.symm.trans hrow)
      have hm' : m = n := hn
      rw [hm'] at hm
      exact ⟨x, h.queue x hx (.inl hm), hu'⟩
  · have hwithin := Outbox.within_flush (P := fun u => (b.book.uidToContact.lookup u).isSome = true)
      b.book.contacts (o := b.out.notifyRemotelyUpdatedContactsAndComplete b.book.contacts)
      (by rw [hnotified]; exact h.within)
    exact hwithin u (AList.lookup_isSome.mpr (AList.mem_keys.mpr hu))
  · have hempty : b.flush.out.contactsToUpdateInDb = ∅ := Outbox.flushDbUpdates_toUpdate ..
    rw [hempty] at hx
    cases hx

/-- Where no error is reported, a contact that has a row and a name is written. -/
theorem dbUpdateContact_row {b : Backend} {r : Nat} (hno : b.out.NoError)
    (hrow : b.out.db.HasRow (b.book.contacts r)) :
    ∃ m, (b.book.contacts r).name = some m
      ∧ (b.dbUpdateContact r).2.out.db.contacts.lookup (b.book.contacts r).uid
        = some (Db.rowOf (b.book.contacts r) m) := by
  have hrows : ∀ c ∈ [b.book.contacts r], b.out.db.HasRow c := by
    intro c hc
    rw [List.mem_singleton.mp hc]
    exact hrow
  have hnd : ([b.book.contacts r].map Contact.uid).Nodup := List.nodup_singleton _
  obtain ⟨db, hdb, hstored, -⟩ := Db.updateContacts_stores hnd hrows
  obtain ⟨m, hname, hm⟩ := (hstored _ (List.mem_singleton_self _)).row
  refine ⟨m, hname, ?_⟩
  show (b.out.transaction fun db => db.updateContacts [b.book.contacts r]).2.db.contacts.lookup _ = _
  rw [Outbox.transaction_ok hno hdb]
  exact hm

/-- The rows of the others stay as they are. -/
theorem dbUpdateContact_other (b : Backend) {r : Nat} {u : String} (hu : u ≠ (b.book.contacts r).uid) :
    (b.dbUpdateContact r).2.out.db.contacts.lookup u = b.out.db.contacts.lookup u := by
  show (b.out.transaction fun db => db.updateContacts [b.book.contacts r]).2.db.contacts.lookup u = _
  rcases Outbox.transaction_db b.out fun db => db.updateContacts [b.book.contacts r] with hsame | hdone
  · rw [hsame]
  · refine (Db.row_updateContacts hdone u).resolve_right ?_
    rintro ⟨c, hc, rfl, -⟩
    exact hu (congrArg Contact.uid (List.mem_singleton.mp hc))

theorem within_dbUpdateContact {P : String → Prop} {b : Backend} (h : b.out.db.Within P) (r : Nat) :
    (b.dbUpdateContact r).2.out.db.Within P := by
  show (b.out.transaction fun db => db.updateContacts [b.book.contacts r]).2.db.Within P
  exact Outbox.within_transaction h fun _ hs =>
    Db.Within.foldlM (fun _ _ _ _ hw hstep => hw.realUpdateContact hstep) h hs

/-- A contact that has a row is recorded once it is written, if no other row has its name. -/
theorem recorded_written {n : String} {b : Backend} {r : Nat}
    (hr : b.book.nameToContact.lookup (some n) = some r) (hname : (b.book.contacts r).name = some n)
    (hno : b.out.NoError) (hrow : (b.out.db.contacts.lookup (b.book.contacts r).uid).isSome = true)
    (hsole : ∀ u row, b.out.db.contacts.lookup u = some row → row.name = n →
      u = (b.book.contacts r).uid)
    (hknown : b.out.db.Within fun u => (b.book.uidToContact.lookup u).isSome = true)
    (hempty : b.out.contactsToUpdateInDb = ∅) : Recorded n (b.dbUpdateContact r).2 := by
  have hqueue : (b.dbUpdateContact r).2.out.contactsToUpdateInDb = ∅ :=
    (Outbox.transaction_queue b.out fun db => db.updateContacts [b.book.contacts r]).trans hempty
  refine ⟨fun x hx => ?_, fun u hu row hrow' hn => ⟨r, hr, ?_⟩, fun u hu => ?_, fun x hx => ?_⟩
  · obtain rfl : x = r := Option.some.inj (hx.symm.trans hr)
    obtain ⟨m, hm, hwritten⟩ := dbUpdateContact_row hno ⟨hname ▸ Option.some_ne_none n, hrow⟩
    exact ⟨_, hwritten, Option.some.inj (hm.symm.trans hname), ContactRow.recalls_rowOf _ m⟩
  · by_cases he : u = (b.book.contacts r).uid
    · exact he.symm
    · rw [dbUpdateContact_other b he] at hrow'
      exact (hsole u row hrow' hn).symm
  · exact within_dbUpdateContact hknown r u (AList.lookup_isSome.mpr (AList.mem_keys.mpr hu))
  · rw [hqueue] at hx
    cases hx

/-- Telling the views changes nothing about it. -/
theorem Recorded.notifyUpdatedContact {n : String} {b : Backend} (h : Recorded n b) (r : Nat) :
    Recorded n (b.notifyUpdatedContact r) := by
  have hdb : (b.notifyUpdatedContact r).out.db = b.out.db := Outbox.notifyUpdatedContact_db ..
  have hqueue : (b.notifyUpdatedContact r).out.contactsToUpdateInDb = b.out.contactsToUpdateInDb := by
    show (b.out.notifyUpdatedContact b.book.contacts r).contactsToUpdateInDb = _
    rw [Outbox.notifyUpdatedContact_eq]
    split <;> rfl
  refine ⟨?_, ?_, ?_, ?_⟩
  · rw [hdb]
    exact h.row
  · rw [hdb]
    exact h.sole
  · rw [hdb]
    exact h.known
  · rw [hqueue]
    exact h.queue

/-! ## Creating the contact -/

theorem recorded_createExisting {n : String} {b : Backend} {r : Nat} (h : Recorded n b)
    (hr : b.book.nameToContact.lookup (some n) = some r) (hname : (b.book.contacts r).name = some n)
    (hno : b.out.NoError) (hempty : b.out.contactsToUpdateInDb = ∅) (c : Contact) :
    Recorded n (b.createExisting r c) := by
  have hbook := runUpdateContact_book (b.modify r fun e => e.mergeSubmitted c) r
  have hout := runUpdateContact_out (b.modify r fun e => e.mergeSubmitted c) r
  have hdone : ((b.modify r fun e => e.mergeSubmitted c).runUpdateContact r).1
      = ((b.book.contacts r).mergeSubmitted c).needsUpdate :=
    congrArg Contact.needsUpdate (Book.modify_contacts_self b.book r fun e => e.mergeSubmitted c)
  obtain ⟨row, hrow, hrown, hrecalls⟩ := h.row r hr
  unfold createExisting
  dsimp only
  generalize (b.modify r fun e => e.mergeSubmitted c).unblocks r = unblocked at hbook
  generalize (b.modify r fun e => e.mergeSubmitted c).runUpdateContact r = q at hbook hout hdone
  obtain ⟨done, b₁⟩ := q
  dsimp only at hbook hout hdone
  have hself : b₁.book.contacts r = ((b.book.contacts r).mergeSubmitted c).updated unblocked := by
    rw [hbook]
    show ((b.book.modify r _).modify r _).contacts r = _
    rw [Book.modify_contacts_self, Book.modify_contacts_self]
    rfl
  have hkeys := (Contact.sameKeys_mergeSubmitted (b.book.contacts r) c).trans
    (Contact.sameKeys_updated _ unblocked)
  rw [← hself] at hkeys
  have hlook : b₁.book.nameToContact.lookup (some n) = some r := by rw [hbook]; exact hr
  have hindex : b₁.book.uidToContact = b.book.uidToContact := by rw [hbook]; rfl
  have hdb : b₁.out.db = b.out.db := congrArg Outbox.db hout
  have hqueue : b₁.out.contactsToUpdateInDb = ∅ :=
    (congrArg Outbox.contactsToUpdateInDb hout).trans hempty
  cases done with
  -- the row is written with the flags as they are now
  | true =>
    refine (recorded_written hlook (hkeys.2.1.trans hname) (by rw [hout]; exact hno) ?_ ?_ ?_
      hqueue).notifyUpdatedContact r
    · rw [hkeys.1, hdb, Option.mem_def.mp hrow]
      rfl
    · rw [hkeys.1, hdb]
      exact fun u row' hrow' hn => h.sole_uid hr hrow' hn
    · rw [hindex, hdb]
      exact h.within
  | false =>
    -- nothing was asked for that was not asked for before, so the old row is still right
    refine ⟨fun x hx => ?_, fun u hu row' hrow' hn => ⟨r, hlook, ?_⟩, fun u hu => ?_, fun y hy => ?_⟩
    · obtain rfl : x = r := Option.some.inj (hx.symm.trans hlook)
      refine ⟨row, by rw [hkeys.1, hdb]; exact hrow, hrown, ?_, fun m hm => ?_⟩
      · rw [hself]
        rcases Contact.resubmitted_flags (b.book.contacts x) c unblocked with hsame | ⟨-, hneeds⟩
        · rw [hsame]; exact hrecalls.lists
        · rw [← hdone] at hneeds
          cases hneeds
      · rw [hself, Contact.resubmitted_asking hdone.symm unblocked m hm]
        exact hrecalls.pending m hm
    · rw [hdb] at hrow'
      exact hkeys.1.trans (h.sole_uid hr hrow' hn).symm
    · rw [hindex]
      exact h.known u (by rw [← hdb]; exact hu)
    · rw [hqueue] at hy
      cases hy

theorem recorded_createNew {n : String} {b : Backend} {c : Contact} (h : Recorded n b)
    (hnone : b.book.nameToContact.lookup (some n) = none) (hname : c.name = some n)
    (hadd : c.pendingFlags.has scheduleAdd = true)
    (huid : b.book.uidToContact.lookup c.uid = none) (hno : b.out.NoError)
    (hempty : b.out.contactsToUpdateInDb = ∅) : Recorded n (b.createNew c).2 := by
  have hself : (b.book.createContact c).contacts b.book.next = c := by
    rw [Book.createContact_eq]
    exact Book.alloc_contacts_next b.book c
  -- there is no row in the way, since every row is of a contact that is known
  have hfree : b.out.db.contacts.lookup c.uid = none := by
    rw [← Option.not_isSome_iff_eq_none]
    intro hrow
    have hsome : (b.book.uidToContact.lookup c.uid).isSome = true := h.within c.uid hrow
    rw [huid] at hsome
    cases hsome
  obtain ⟨db, hdb⟩ : ∃ db, b.out.db.realAddContact c = some db := by
    rcases heq : b.out.db.realAddContact c with _ | db
    · have hfails := Db.realAddContact_eq_none.mp heq
      rw [hname, hfree] at hfails
      simp at hfails
    · exact ⟨db, rfl⟩
  obtain ⟨m, hm, hrows⟩ := (Db.realAddContact_added hdb).contacts
  unfold createNew
  dsimp only
  rw [if_pos hadd, hself]
  have hadded : b.out.db.addContacts [c] = some db := by
    unfold Db.addContacts
    rw [List.foldlM_cons, hdb]
    rfl
  have hdone : (b.out.transaction fun db => db.addContacts [c]).2.db = db :=
    Outbox.transaction_ok hno hadded
  have hqueue := Outbox.transaction_queue b.out fun db => db.addContacts [c]
  generalize b.out.transaction (fun db => db.addContacts [c]) = q at hdone hqueue
  obtain ⟨ok, out⟩ := q
  dsimp only at hdone hqueue ⊢
  subst hdone
  have hlook : (b.book.createContact c).nameToContact.lookup (some n) = some b.book.next := by
    rw [Book.createContact_eq, hname]
    exact AList.lookup_insert _
  refine ⟨fun x hx => ?_, fun u hu row hrow hn => ⟨b.book.next, hlook, ?_⟩, fun u hu => ?_,
    fun y hy => ?_⟩
  · obtain rfl : x = b.book.next := Option.some.inj (hx.symm.trans hlook)
    refine ⟨Db.rowOf c m, ?_, Option.some.inj (hm.symm.trans hname), ?_⟩
    · show out.db.contacts.lookup ((b.book.createContact c).contacts b.book.next).uid = _
      rw [hself, hrows]
      exact AList.lookup_insert _
    · show (Db.rowOf c m).Recalls ((b.book.createContact c).contacts b.book.next)
      rw [hself]
      exact ContactRow.recalls_rowOf c m
  · -- no other row has the name, since no contact is known by it
    have hrow' : out.db.contacts.lookup u = some row := hrow
    rw [hrows, Table.lookup_insert_ite] at hrow'
    show ((b.book.createContact c).contacts b.book.next).uid = u
    rw [hself]
    split at hrow'
    · rename_i heq
      exact heq.symm
    · obtain ⟨r, hr, -⟩ := h.row_uid hrow' hn
      rw [hnone] at hr
      cases hr
  · have hu' : u ∈ out.db.contacts.keys := hu
    rw [hrows, ← AList.mem_keys, AList.mem_insert] at hu'
    show ((b.book.createContact c).uidToContact.lookup u).isSome = true
    rw [Book.createContact_eq]
    show ((b.book.uidToContact.insert c.uid b.book.next).lookup u).isSome = true
    rw [Table.lookup_insert_ite]
    split
    · rfl
    · rename_i hne
      exact h.known u (AList.mem_keys.mpr (hu'.resolve_left hne))
  · have hy' : y ∈ Table.values out.contactsToUpdateInDb := hy
    rw [hqueue, hempty] at hy'
    cases hy'

/-! ## Removing the contact -/

theorem removalId_nil (uid : String) : removalId uid [] = uid := by
  unfold removalId
  simp

/-- A request to remove a contact by its uid alone removes the contact itself. -/
theorem removeContact_plain {b : Backend} {id : String} {r : Nat} (hid : ';' ∉ id.toList)
    (hr : b.book.uidToContact.lookup id = some r) :
    b.removeContact id = ((b.flush.reallyRemove r).dbUpdateContact r).2 := by
  have hresolve : resolve b.book.uidToContact id = some (r, []) := by
    have hnone : ∀ t ∈ ([] : List String), ';' ∉ t.toList := fun _ h => nomatch h
    have hfound := (resolve_removalId hr hnone).mpr hid
    rwa [removalId_nil] at hfound
  have hsame : (b.flush.modify r fun c => (c.removeTokens []).1) = b.flush := by
    unfold modify Book.modify
    dsimp only
    rw [show ((b.flush.book.contacts r).removeTokens []).1 = b.flush.book.contacts r from rfl,
      Function.update_eq_self]
  rw [removeContact_resolve, hresolve]
  dsimp only
  rw [hsame]
  rfl

/-- A request that finds no contact only writes what is queued. -/
theorem removeContact_unknown {b : Backend} {id : String} (hid : ';' ∉ id.toList)
    (hr : b.book.uidToContact.lookup id = none) : b.removeContact id = b.flush := by
  have hsplit : splitId id = [id] := by
    have hnone : ∀ t ∈ [id], ';' ∉ t.toList := by
      intro t ht
      rw [List.mem_singleton.mp ht]
      exact hid
    have hparts := splitId_removalId hnone
    rwa [removalId_nil] at hparts
  have hresolve : resolve b.book.uidToContact id = none := by
    unfold resolve
    rw [hsplit]
    dsimp only
    rw [hr]
    rfl
  rw [removeContact_resolve, hresolve]

/-- Offline the contact is deleted at once if it is invalid, and its removal put off otherwise. -/
theorem reallyRemove_offline {b : Backend} (hoff : b.tpcl.status ≠ .online) (r : Nat) :
    b.reallyRemove r = if (b.book.contacts r).flags.has contactInvalid then
        (b.modify r Contact.nothingPending).deleteContacts [r]
      else (b.modify r Contact.nothingPending).scheduleRemoval r := by
  have hself : (b.modify r Contact.nothingPending).book.contacts r
      = (b.book.contacts r).nothingPending := Book.modify_contacts_self b.book r _
  unfold reallyRemove requestRemoval
  rw [hself, if_neg (show ¬ (b.modify r Contact.nothingPending).tpcl.status = .online from hoff)]
  rfl

/-- The contact as it is left where its removal is put off. -/
theorem scheduleRemoval_self (b : Backend) (r : Nat) :
    ((b.modify r Contact.nothingPending).scheduleRemoval r).book.contacts r
      = (b.book.contacts r).nothingPending.markDelete := by
  show ((b.book.modify r Contact.nothingPending).modify r Contact.markDelete).contacts r = _
  rw [Book.modify_contacts_self, Book.modify_contacts_self]

/-- To delete a contact when nobody waits to be written puts no row in the database. -/
theorem row_deleteContacts {b : Backend} (hempty : b.out.contactsToUpdateInDb = ∅) {r : Nat}
    {u : String} {row : ContactRow}
    (h : (b.deleteContacts [r]).out.db.contacts.lookup u = some row) :
    b.out.db.contacts.lookup u = some row := by
  have hqueue : b.out.contactsToUpdateInDb.erase (b.book.contacts r).uid = ∅ := by
    rw [hempty]
    rfl
  have hdb := Outbox.announceRemoval_db b.book.contacts { b.out with
    contactsRemotelyChanged := b.out.contactsRemotelyChanged.erase (b.book.contacts r).uid
    contactsToUpdateInDb := b.out.contactsToUpdateInDb.erase (b.book.contacts r).uid }
    [(b.book.contacts r).uid]
  rw [Outbox.flushDbUpdates_of_empty hqueue] at hdb
  have hout : (b.deleteContacts [r]).out = Outbox.announceRemoval b.book.contacts { b.out with
    contactsRemotelyChanged := b.out.contactsRemotelyChanged.erase (b.book.contacts r).uid
    contactsToUpdateInDb := b.out.contactsToUpdateInDb.erase (b.book.contacts r).uid }
    [(b.book.contacts r).uid] := rfl
  rw [hout] at h
  rcases hdb with hsame | herased
  · rw [hsame] at h
    exact h
  · rw [herased] at h
    have h' : (b.out.db.contacts.erase (b.book.contacts r).uid).lookup u = some row := h
    rw [Table.lookup_erase_ite] at h'
    split at h'
    · cases h'
    · exact h'

/-- A contact that is deleted leaves nothing that would have to be recorded. -/
theorem recorded_deleted {n : String} {b : Backend} {r : Nat}
    (hname : (b.book.contacts r).name = some n) (hno : b.out.NoError)
    (hsole : ∀ u row, b.out.db.contacts.lookup u = some row → row.name = n →
      u = (b.book.contacts r).uid)
    (hknown : b.out.db.Within fun u => (b.book.uidToContact.lookup u).isSome = true)
    (hempty : b.out.contactsToUpdateInDb = ∅) :
    Recorded n ((b.deleteContacts [r]).dbUpdateContact r).2 := by
  have hbook : (b.deleteContacts [r]).book = b.book.deleteContact r := rfl
  have hrows : ∀ {u row}, (b.deleteContacts [r]).out.db.contacts.lookup u = some row →
      b.out.db.contacts.lookup u = some row := row_deleteContacts hempty
  have hwithin : (b.deleteContacts [r]).out.db.Within fun u =>
      (b.book.uidToContact.lookup u).isSome = true ∧ u ∉ [r].map fun r => (b.book.contacts r).uid :=
    within_deleteContacts hknown hno [r]
  have hqueue : (b.deleteContacts [r]).out.contactsToUpdateInDb = ∅ :=
    Outbox.deleteContacts_toUpdate ..
  generalize b.deleteContacts [r] = b₁ at hbook hrows hwithin hqueue
  have hbook' : (b₁.dbUpdateContact r).2.book = b.book.deleteContact r := hbook
  have hqueue' : (b₁.dbUpdateContact r).2.out.contactsToUpdateInDb = ∅ :=
    (Outbox.transaction_queue b₁.out fun db => db.updateContacts [b₁.book.contacts r]).trans hqueue
  have hgone : (b.book.deleteContact r).nameToContact.lookup (some n) = none := by
    rw [Book.deleteContact_name, hname]
    exact AList.lookup_erase _ _
  -- what is left is under other uids
  have hother : ∀ {u}, ((b₁.dbUpdateContact r).2.out.db.contacts.lookup u).isSome = true →
      (b.book.uidToContact.lookup u).isSome = true ∧ u ≠ (b.book.contacts r).uid := by
    intro u hu
    obtain ⟨hin, hne⟩ := within_dbUpdateContact hwithin r u hu
    exact ⟨hin, fun heq => hne (List.mem_singleton.mpr heq)⟩
  refine ⟨fun x hx => ?_, fun u hu row hrow hn => ?_, fun u hu => ?_, fun x hx => ?_⟩
  · rw [hbook', hgone] at hx
    cases hx
  · obtain ⟨-, hne⟩ := hother (AList.lookup_isSome.mpr (AList.mem_keys.mpr hu))
    have hsame := dbUpdateContact_other b₁ (r := r) (u := u) (by
      rw [hbook, Book.deleteContact_contacts]
      exact hne)
    exact absurd (hsole u row (hrows (hsame.symm.trans hrow)) hn) hne
  · obtain ⟨hin, hne⟩ := hother (AList.lookup_isSome.mpr (AList.mem_keys.mpr hu))
    rw [hbook', Book.deleteContact_uid, AList.lookup_erase_ne hne]
    exact hin
  · rw [hqueue'] at hx
    cases hx

theorem recorded_reallyRemove {n : String} {b : Backend} {r : Nat} (h : Recorded n b)
    (hoff : b.tpcl.status ≠ .online) (hr : b.book.nameToContact.lookup (some n) = some r)
    (hname : (b.book.contacts r).name = some n) (hno : b.out.NoError)
    (hempty : b.out.contactsToUpdateInDb = ∅) :
    Recorded n ((b.reallyRemove r).dbUpdateContact r).2 := by
  rw [reallyRemove_offline hoff]
  split
  · -- the contact leaves the book and the database
    have hself : ((b.modify r Contact.nothingPending).book.contacts r)
        = (b.book.contacts r).nothingPending := Book.modify_contacts_self b.book r _
    refine recorded_deleted (b := b.modify r Contact.nothingPending) ?_ hno ?_ h.within hempty
    · rw [hself]
      exact hname
    · rw [hself]
      exact fun u row hrow hn => h.sole_uid hr hrow hn
  · have hself := scheduleRemoval_self b r
    have huid : (((b.modify r Contact.nothingPending).scheduleRemoval r).book.contacts r).uid
        = (b.book.contacts r).uid := by
      rw [hself]
      rfl
    have hname' : (((b.modify r Contact.nothingPending).scheduleRemoval r).book.contacts r).name
        = some n := by
      rw [hself]
      exact hname
    -- the removal is put off, and the row is written with the mark
    obtain ⟨row, hrow, -⟩ := h.row r hr
    refine recorded_written hr hname' hno ?_ ?_ h.within hempty
    · rw [huid]
      show (b.out.db.contacts.lookup (b.book.contacts r).uid).isSome = true
      rw [Option.mem_def.mp hrow]
      rfl
    · rw [huid]
      exact fun u row' hrow' hn => h.sole_uid hr hrow' hn

end Backend

end EdsTelepathy
