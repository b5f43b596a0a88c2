import EdsTelepathy.Proof.Leftover
import EdsTelepathy.Proof.Sound

/-!
# What the cache can contain

Every handler leaves sound contacts and sound rows: it writes to the database only what
it has in memory at that moment. The one request that adds a mark, the one to add a
contact, is made for a contact that waits to be added, and such a contact is never marked
unseen. Both together are an invariant of a process, and so of any number of processes
that run one after the other on the same database.
-/

namespace EdsTelepathy

namespace Backend

/-- Every contact object and every row is sound. -/
structure Sound (b : Backend) : Prop where
  contacts : ∀ r, (b.book.contacts r).Sound
  db : b.out.db.Sound

/-- What happens outside the book and the database does not matter. -/
theorem Sound.of_same {b c : Backend} (h : b.Sound) (hc : c.book.contacts = b.book.contacts)
    (hd : c.out.db = b.out.db) : c.Sound :=
  ⟨fun r => by rw [hc]; exact h.contacts r, by rw [hd]; exact h.db⟩

/-- A change of one object that leaves it sound leaves all of them sound. -/
theorem sound_modify_contacts {b : Book} (h : ∀ r, (b.contacts r).Sound) {r : Nat}
    {f : Contact → Contact} (hf : (f (b.contacts r)).Sound) :
    ∀ r', ((b.modify r f).contacts r').Sound := by
  intro r'
  by_cases he : r' = r
  · subst he
    rw [Book.modify_contacts_self]; exact hf
  · rw [Book.modify_contacts_of_ne he]; exact h r'

/-- So does the allocation of a sound one. -/
theorem sound_alloc {b : Book} (h : ∀ r, (b.contacts r).Sound) {c : Contact} (hc : c.Sound) :
    ∀ r, ((b.alloc c).contacts r).Sound := by
  intro r
  by_cases he : r = b.next
  · subst he
    rw [Book.alloc_contacts_next]; exact hc
  · rw [Book.alloc_contacts_of_ne he]; exact h r

theorem Sound.modify {b : Backend} (h : b.Sound) {r : Nat} {f : Contact → Contact}
    (hf : (f (b.book.contacts r)).Sound) : (b.modify r f).Sound :=
  ⟨sound_modify_contacts h.contacts hf, h.db⟩

/-! ## The pieces of the requests -/

/-- The start of a request writes the queue, which holds contacts of the book. -/
theorem Sound.flush {b : Backend} (h : b.Sound) : b.flush.Sound := by
  refine ⟨h.contacts, Outbox.sound_flush ?_ h.contacts⟩
  rw [Outbox.notifyRemotelyUpdatedContactsAndComplete_db]
  exact h.db

theorem Sound.dbUpdateContact {b : Backend} (h : b.Sound) (r : Nat) :
    (b.dbUpdateContact r).2.Sound := by
  refine ⟨h.contacts, Outbox.sound_update h.db fun c hc => ?_⟩
  rw [List.mem_singleton] at hc
  subst hc
  exact h.contacts r

theorem Sound.notifyUpdatedContact {b : Backend} (h : b.Sound) (r : Nat) :
    (b.notifyUpdatedContact r).Sound :=
  h.of_same rfl (Outbox.notifyUpdatedContact_db b.book.contacts b.out r)

theorem Sound.runUpdateContact {b : Backend} (h : b.Sound) (r : Nat) :
    (b.runUpdateContact r).2.Sound := by
  refine ⟨?_, h.db⟩
  rw [runUpdateContact_book]
  exact sound_modify_contacts h.contacts ((h.contacts r).updated _)

/-- A deletion writes what is queued before it takes rows away. -/
theorem Sound.deleteContacts {b : Backend} (h : b.Sound) (rs : List Nat) :
    (b.deleteContacts rs).Sound := by
  refine ⟨fun r => ?_, ?_⟩
  · unfold Backend.deleteContacts
    dsimp only
    rw [Book.foldl_deleteContact_contacts]
    exact h.contacts r
  · unfold Backend.deleteContacts
    refine Outbox.sound_announceRemoval ?_ h.contacts _
    exact h.db

/-- A merge changes the contact that stays and deletes the other one. -/
theorem Sound.mergeContacts {b : Backend} (h : b.Sound) (dest src : Nat) :
    (b.mergeContacts dest src).Sound := by
  have hmod : (b.modify dest fun d => d.mergeFrom (b.book.contacts src)).Sound :=
    h.modify ((h.contacts dest).mergeFrom _)
  have hdel := (hmod.of_same (c := { b.modify dest fun d => d.mergeFrom (b.book.contacts src) with
    out := if b.out.views = [] then b.out
      else (b.out.notify (.update ((b.modify dest fun d =>
        d.mergeFrom (b.book.contacts src)).book.contacts dest))).notifyCompleteAllViews }) rfl
    (by dsimp only; split <;> rfl)).deleteContacts [src]
  exact hdel.of_same rfl rfl

/-! ## Create -/

/-- A known contact is asked for, written and told. -/
theorem Sound.createExisting {b : Backend} (h : b.Sound) (r : Nat) (c : Contact) :
    (b.createExisting r c).Sound := by
  have hrun := (h.modify (r := r) (f := fun e => e.mergeSubmitted c)
    ((h.contacts r).mergeSubmitted c)).runUpdateContact r
  unfold Backend.createExisting
  dsimp only
  generalize (b.modify r fun e => e.mergeSubmitted c).runUpdateContact r = p at hrun
  obtain ⟨_ | _, b'⟩ := p
  · exact hrun
  · exact (hrun.dbUpdateContact r).notifyUpdatedContact r

theorem Sound.createNew {b : Backend} (h : b.Sound) {c : Contact} (hc : c.Sound) :
    (b.createNew c).2.Sound := by
  have hcon : ∀ r, ((b.book.createContact c).contacts r).Sound := by
    rw [Book.createContact_contacts]
    exact sound_alloc h.contacts hc
  unfold Backend.createNew
  dsimp only
  split
  · refine ⟨hcon, Outbox.sound_add h.db fun c' hc' => ?_⟩
    rw [List.mem_singleton] at hc'
    subst hc'
    exact hcon _
  · exact ⟨hcon, h.db⟩

theorem Sound.enterCreated {b : Backend} (h : b.Sound) {c : Contact} (hc : c.Sound) :
    (b.enterCreated c).2.Sound := by
  unfold Backend.enterCreated
  split
  · exact h.createExisting _ c
  · exact h.createNew hc

/-- **The request to create a contact** enters one that was created, or updates a known one. -/
theorem Sound.createContact {b : Backend} (h : b.Sound) (ec : Contact.EVCard) :
    (b.createContact ec).Sound := by
  have hflush := h.flush
  unfold Backend.createContact
  cases hcandidate : b.flush.candidate ec with
  | none =>
    obtain ⟨w, hrun⟩ := runCreateContact_stopped hcandidate
    rw [hrun]
    exact hflush.of_same rfl rfl
  | some c =>
    obtain ⟨hcreated, w, hrun⟩ := runCreateContact_candidate hcandidate
    have hsent : Sound { b.flush with wire := w } := hflush.of_same rfl rfl
    rw [hrun]
    exact hsent.enterCreated hcreated.sound.1

/-! ## Modify -/

/-- **The request to modify a contact** takes over a vcard and sends, writes and tells it. -/
theorem Sound.modifyContact {b : Backend} (h : b.Sound) (ec : Contact.EVCard) :
    (b.modifyContact ec).Sound := by
  have hflush := h.flush
  unfold Backend.modifyContact
  dsimp only
  split
  · exact hflush
  · rename_i r _
    have hmod : (b.flush.modify r fun c => (c.updateFromEcontact ec b.flush.vcardField).2).Sound :=
      hflush.modify ((hflush.contacts r).decoded (Contact.decoded_updateFromEcontact _ ec _))
    generalize b.flush.modify r (fun c => (c.updateFromEcontact ec b.flush.vcardField).2) = b₁ at hmod
    split
    · have hsent : (b₁.sendFlags r).Sound := by
        unfold sendFlags
        split
        · split
          · exact (hmod.modify (f := Contact.flagsAsked) ((hmod.contacts r).clear _)).of_same rfl rfl
          · exact hmod.of_same rfl rfl
        · exact hmod
      have hscheduled : ((b₁.sendFlags r).scheduleUpdate r).Sound := hsent.of_same rfl rfl
      unfold commitModification storeModification
      have hdb := hscheduled.dbUpdateContact r
      generalize ((b₁.sendFlags r).scheduleUpdate r).dbUpdateContact r = q at hdb
      obtain ⟨_ | _, b₂⟩ := q
      · exact hdb.notifyUpdatedContact r
      · have hdone : (b₂.modify r Contact.bookkeepingDone).Sound :=
          hdb.modify ((hdb.contacts r).pending fun hp =>
            BitVec.has_of_and_has (BitVec.has_of_and_has hp))
        exact hdone.notifyUpdatedContact r
    · exact hmod

/-! ## Remove -/

/-- Where only master UIDs go, a pending bit goes with them. -/
theorem Sound.removeMasterUids {b : Backend} (h : b.Sound) (r : Nat) :
    (b.removeMasterUids r).Sound := by
  unfold Backend.removeMasterUids
  split
  · have hdb := h.dbUpdateContact r
    generalize b.dbUpdateContact r = q at hdb
    obtain ⟨_ | _, b₂⟩ := q
    · exact hdb.notifyUpdatedContact r
    · have hdone : (b₂.modify r Contact.masterUidsStored).Sound :=
        hdb.modify ((hdb.contacts r).clear _)
      exact hdone.notifyUpdatedContact r
  · exact h

theorem Sound.scheduleRemoval {b : Backend} (h : b.Sound) (r : Nat) : (b.scheduleRemoval r).Sound := by
  refine ⟨sound_modify_contacts h.contacts ?_, h.db⟩
  exact (h.contacts r).pending fun hp => (BitVec.or_has_of_disjoint (by decide)).symm.trans hp

/-- Where the contact goes, nothing is pending for it but its removal. -/
theorem Sound.reallyRemove {b : Backend} (h : b.Sound) (r : Nat) : (b.reallyRemove r).Sound := by
  have hmod : (b.modify r Contact.nothingPending).Sound :=
    h.modify (Touch.sound .nothingPending (h.contacts r))
  unfold Backend.reallyRemove requestRemoval
  split
  · exact hmod.deleteContacts [r]
  · split
    · split
      · exact hmod.of_same rfl rfl
      · rename_i w _
        exact (hmod.of_same (c := { b.modify r Contact.nothingPending with wire := w })
          rfl rfl).scheduleRemoval r
    · exact hmod.scheduleRemoval r

/-- **The request to remove a contact** does one of the two. -/
theorem Sound.removeContact {b : Backend} (h : b.Sound) (id : String) : (b.removeContact id).Sound := by
  have hflush := h.flush
  unfold Backend.removeContact
  dsimp only
  split
  · exact hflush
  · rename_i uid tokens _
    split
    · exact hflush
    · rename_i r _
      have hmod : (b.flush.modify r fun c => (c.removeTokens tokens).1).Sound :=
        hflush.modify ((hflush.contacts r).removeTokens tokens)
      split
      · exact (hmod.reallyRemove r).dbUpdateContact r
      · exact hmod.removeMasterUids r

/-! ## Signals -/

/-- A roster contact comes with list flags only. -/
theorem sound_contactAdded {b : Book} (h : ∀ r, (b.contacts r).Sound) (pathSuffix : String)
    {cIn : Contact} (hin : cIn.Plain) : ∀ r, ((b.contactAdded pathSuffix cIn).contacts r).Sound := by
  unfold Book.contactAdded
  split
  · exact sound_modify_contacts h (hin.sound _)
  · exact sound_alloc h (hin.dup.sound _)

/-- One that is known already loses the mark of the import. -/
theorem sound_memberReported {b : Book} (h : ∀ r, (b.contacts r).Sound) (pathSuffix : String)
    {cIn : Contact} (hin : cIn.Plain) : ∀ r, ((b.memberReported pathSuffix cIn).contacts r).Sound := by
  have henter : ∀ (b' : Book) (x r : Nat), (b'.enterHandle x r).contacts = b'.contacts := by
    intro b' x r
    unfold Book.enterHandle
    split <;> rfl
  intro r
  unfold Book.memberReported
  split
  · rw [henter]
    exact sound_modify_contacts h ((h _).seen cIn) r
  · rw [henter]
    exact sound_alloc h (c := { cIn.dup with uid := generateUid pathSuffix b.uidToContact cIn.name })
      (hin.dup.sound _) r

/-- A handler that copies fields copies flags of roster contacts at most. -/
theorem sound_mergeByHandle {b : Book} (h : ∀ r, (b.contacts r).Sound) (f : Carried)
    {cIn : Contact} (hin : cIn.Plain) : ∀ r, ((b.mergeByHandle f.copy cIn).contacts r).Sound := by
  unfold Book.mergeByHandle
  split
  · exact sound_modify_contacts h ((h _).copied f hin)
  · exact h

/-- What the body of a handler keeps, its loop keeps. -/
theorem sound_foldl {f : Book → Contact → Book}
    (hf : ∀ {b : Book} {c : Contact}, (∀ r, (b.contacts r).Sound) → c.Plain →
      ∀ r, ((f b c).contacts r).Sound) {cs : List Contact} (hcs : ∀ c ∈ cs, c.Plain) {b : Book}
    (h : ∀ r, (b.contacts r).Sound) : ∀ r, ((cs.foldl f b).contacts r).Sound := by
  induction cs generalizing b with
  | nil => exact h
  | cons c cs ih =>
    exact ih (fun c' hc' => hcs c' (List.mem_cons_of_mem c hc')) (hf h (hcs c List.mem_cons_self))

theorem Sound.mergeByHandle {b : Backend} (h : b.Sound) (f : Carried) (db : Bool)
    {cs : List Contact} (hcs : ∀ c ∈ cs, c.Plain) : (b.mergeByHandle f.copy db cs).Sound := by
  refine ⟨sound_foldl (fun hb hc => sound_mergeByHandle hb f hc) hcs h.contacts, ?_⟩
  unfold Backend.mergeByHandle
  dsimp only
  split
  · exact h.db
  · rw [Outbox.updateContacts_db]; exact h.db

theorem Sound.avatarTokensChanged {b : Backend} (h : b.Sound) {cs : List Contact}
    (hcs : ∀ c ∈ cs, c.Plain) : (b.tpClAvatarTokensChangedCb cs).Sound := by
  refine ⟨?_, ?_⟩
  · unfold tpClAvatarTokensChangedCb
    dsimp only
    rw [fst_foldl_avatarTokenInto]
    exact sound_foldl (fun hb hc => sound_mergeByHandle hb .avatarToken hc) hcs h.contacts
  · unfold tpClAvatarTokensChangedCb
    dsimp only
    split
    · exact h.db
    · rw [Outbox.updateContacts_db]; exact h.db

theorem Sound.avatarDataChanged {b : Backend} (h : b.Sound) {c : Contact} (hc : c.Plain) :
    (b.tpClAvatarDataChangedCb c).Sound := by
  unfold tpClAvatarDataChangedCb
  split
  · rename_i r _
    refine ⟨sound_modify_contacts h.contacts ((h.contacts r).copied .avatarData hc), ?_⟩
    dsimp only
    split
    · rw [Outbox.updateContacts_db]; exact h.db
    · exact h.db
  · exact h

theorem Sound.contactsAdded {b : Backend} (h : b.Sound) {cs : List Contact}
    (hcs : ∀ c ∈ cs, c.Plain) : (b.tpClContactsAdded cs).Sound := by
  have hbook : ∀ r, (((cs.foldl (Book.contactAddedInto b.pathSuffix) (b.book, {})).1).contacts r).Sound := by
    rw [fst_foldl_contactAddedInto]
    exact sound_foldl (fun hb hc => sound_contactAdded hb b.pathSuffix hc) hcs h.contacts
  refine ⟨hbook, ?_⟩
  unfold tpClContactsAdded
  dsimp only
  generalize cs.foldl (Book.contactAddedInto b.pathSuffix) (b.book, {}) = p at hbook
  obtain ⟨book, arrays⟩ := p
  have hflush := Outbox.sound_flush h.db hbook
  rw [Outbox.notifyRemotelyUpdatedContactsAndComplete_db]
  have hadd : (if arrays.toAdd = [] then b.out.flushDbUpdates book.contacts
      else ((b.out.flushDbUpdates book.contacts).transaction fun db =>
        db.addContacts (arrays.toAdd.map book.contacts)).2).db.Sound := by
    split
    · exact hflush
    · refine Outbox.sound_add hflush fun c hc => ?_
      obtain ⟨r, -, rfl⟩ := List.mem_map.mp hc
      exact hbook r
  split
  · exact hadd
  · rw [Outbox.updateContacts_db]; exact hadd

theorem Sound.contactsRemoved {b : Backend} (h : b.Sound) (cs : List Contact) :
    (b.tpClContactsRemoved cs).Sound := by
  have hclear : ∀ r, (((b.book.byHandle cs).foldl
      (fun book r => book.modify r Contact.clearDelete) b.book).contacts r).Sound :=
    foldl_inv (I := fun book : Book => ∀ r, (book.contacts r).Sound)
      (fun book r hb => sound_modify_contacts hb (f := Contact.clearDelete) ((hb r).clear _)) _
      h.contacts
  unfold tpClContactsRemoved
  dsimp only
  split
  · exact ⟨hclear, h.db⟩
  · refine Sound.deleteContacts ?_ _
    exact ⟨hclear, h.db⟩

theorem Sound.rosterReceived {b : Backend} (h : b.Sound) {cs : List Contact}
    (hcs : ∀ c ∈ cs, c.Plain) : (b.rosterReceived cs).Sound := by
  refine ⟨?_, h.db⟩
  unfold Backend.rosterReceived
  dsimp only
  rw [fst_foldl_memberReportedInto]
  exact sound_foldl (fun hb hc => sound_memberReported hb b.pathSuffix hc) hcs h.contacts

theorem Sound.syncOnly {b b' : Backend} (h : b.Sound) (hs : SyncOnly b b') : b'.Sound :=
  h.of_same (by rw [hs.book]) (by rw [hs.out])

theorem Sound.onSignal {b : Backend} (h : b.Sound) {s : Signal} (hs : ∀ c ∈ s.contacts, c.Plain) :
    (b.onSignal s).Sound := by
  have hite : ∀ {b' : Backend}, b'.Sound → (if b.membersReady then b' else b).Sound := by
    intro b' h'
    split
    · exact h'
    · exact h
  cases s with
  | getMembersDone result =>
    cases result with
    | none => exact h.syncOnly (syncOnly_finishOnlineInitialization b)
    | some cs => exact h.rosterReceived hs
  | statusChanged st =>
    cases st with
    | online => exact hite (h.syncOnly (syncOnly_syncPhase1 b))
    | offline => exact hite (h.of_same rfl rfl)
  | contactsAdded cs => exact hite (h.contactsAdded hs)
  | contactsRemoved cs => exact hite (h.contactsRemoved cs)
  | flagsChanged cs => exact hite (h.mergeByHandle .flags true hs)
  | aliasesChanged cs => exact hite (h.mergeByHandle .aliasName true hs)
  | presencesChanged cs => exact hite (h.mergeByHandle .presence false hs)
  | avatarTokensChanged cs => exact hite (h.avatarTokensChanged hs)
  | capabilitiesChanged cs => exact hite (h.mergeByHandle .capabilities false hs)
  | contactInfoChanged cs => exact hite (h.mergeByHandle .contactInfo true hs)
  | avatarDataChanged c => exact hite (h.avatarDataChanged (hs c List.mem_cons_self))

/-- An event may emit several signals, one after the other. -/
theorem Sound.onSignals {b : Backend} (h : b.Sound) {ss : List Signal}
    (hs : ∀ s ∈ ss, ∀ c ∈ s.contacts, c.Plain) : (ss.foldl Backend.onSignal b).Sound := by
  induction ss generalizing b with
  | nil => exact h
  | cons s ss ih =>
    exact ih (h.onSignal (hs s List.mem_cons_self)) fun s' h' => hs s' (List.mem_cons_of_mem s h')

end Backend

/-! ## Contacts that wait to be added -/

/-- The contacts that the edit imports are sound. -/
def Edit.ImportsSound : Edit → Prop
  | .importContact c => c.Sound
  | _ => True

namespace Book

/-- A modification puts nobody among those to be added. -/
theorem modified_toAdd (b : Book) (r : Nat) (ec : Contact.EVCard) (vcardField : String)
    (sent stored : Bool) : (b.modified r ec vcardField sent stored).contactsToAdd = b.contactsToAdd := by
  unfold modified
  dsimp only
  split
  · cases sent <;> cases stored <;> rfl
  · rfl

theorem renamed_toAdd (b : Book) (r : Nat) (oldName : Option String) :
    (b.renamed r oldName).contactsToAdd = b.contactsToAdd := by
  unfold renamed
  dsimp only
  split
  · unfold mergeContacts reenter
    dsimp only
    rw [deleteContact_toAdd]
    rfl
  · rfl

/-- Where the entries of `contacts_to_add` come from. -/
theorem toAdd_apply {b : Book} {e : Edit} (hp : e.Proper b) (hi : e.ImportsSound) {k : String}
    {r : Nat} (h : (b.apply e).contactsToAdd.lookup k = some r) :
    b.contactsToAdd.lookup k = some r
      ∨ (r = b.next ∧ ((b.apply e).contacts r).flags.has contactUnseen = false) := by
  cases e with
  | importContact c =>
    have hnew : (b.apply (.importContact c)).contacts b.next = c.imported := alloc_contacts_next b _
    by_cases hadd : c.pendingFlags.has scheduleAdd = true
    · have ht : (b.apply (.importContact c)).contactsToAdd = b.contactsToAdd.insert c.uid b.next :=
        if_pos hadd
      rw [ht] at h
      rcases Table.lookup_insert_eq_some.mp h with ⟨-, rfl⟩ | ⟨-, hold⟩
      · refine .inr ⟨rfl, ?_⟩
        rw [hnew]
        have hsound : c.imported.Sound := Contact.Sound.imported hi
        by_contra hu
        have hno := (hsound.unseen (by simpa using hu)).1
        have hsame : c.imported.pendingFlags = c.pendingFlags := by
          unfold Contact.imported
          split <;> rfl
        rw [hsame, hadd] at hno
        cases hno
      · exact .inl hold
    · have ht : (b.apply (.importContact c)).contactsToAdd = b.contactsToAdd := if_neg hadd
      rw [ht] at h
      exact .inl h
  | memberReported pathSuffix cIn =>
    unfold apply memberReported enterHandle at h
    dsimp only at h
    split at h <;> split at h <;> exact .inl h
  | contactAdded pathSuffix cIn =>
    unfold apply contactAdded at h
    dsimp only at h
    split at h <;> exact .inl h
  | mergeByHandle f cIn =>
    unfold apply mergeByHandle at h
    dsimp only at h
    split at h <;> exact .inl h
  | forgetHandles => exact .inl h
  | touch r t => exact .inl h
  | deleteContacts rs =>
    unfold apply at h
    rw [(foldl_deleteContact_work rs b).1] at h
    exact .inl h
  | createContact c =>
    obtain ⟨-, -, hc⟩ := hp
    have hnew : (b.apply (.createContact c)).contacts b.next = c := createContact_contacts_next b c
    have ht : (b.apply (.createContact c)).contactsToAdd = b.contactsToAdd.insert c.uid b.next :=
      congrArg Book.contactsToAdd (createContact_added b hc.add)
    rw [ht] at h
    rcases Table.lookup_insert_eq_some.mp h with ⟨-, rfl⟩ | ⟨-, hold⟩
    · refine .inr ⟨rfl, ?_⟩
      rw [hnew]
      exact hc.sound.2
    · exact .inl hold
  | modified r ec vcardField sent stored =>
    unfold apply at h
    rw [modified_toAdd] at h
    exact .inl h
  | scheduleRemoval r => exact .inl h
  | addDone r c =>
    unfold apply addDone at h
    dsimp only at h
    have hold := (Table.lookup_erase_eq_some.mp h).2
    split at hold
    · exact .inl hold
    · rw [renamed_toAdd] at hold
      exact .inl hold
  | addFailed r c => exact .inl h
  | removalDone r => exact .inl h

/-- No contact of `contacts_to_add` is marked unseen. -/
def AddsSeen (b : Book) : Prop :=
  Table.All (fun r => (b.contacts r).flags.has contactUnseen = false) b.contactsToAdd

/-- An edit adds to them only contacts that are not marked. -/
theorem addsSeen_apply {b : Book} {e : Edit} (h : b.AddsSeen) (ha : b.Allocated) (hp : e.Proper b)
    (hi : e.ImportsSound) : (b.apply e).AddsSeen := by
  intro k r hr
  rcases toAdd_apply hp hi hr with hold | ⟨-, hnew⟩
  · exact (becomes_apply hp (ha.toAdd k r hold)).seen (h k r hold)
  · exact hnew

end Book

namespace Backend

/-- No contact that phase 3 is going to add is marked unseen. -/
structure AddsSeen (b : Backend) : Prop where
  table : b.book.AddsSeen
  todo : ∀ p ∈ b.phase3, p.stage = .add →
    ∀ r ∈ p.todo, (b.book.contacts r).flags.has contactUnseen = false

theorem db_fetchContacts_sound {db : Db} (h : db.Sound) : ∀ c ∈ db.fetchContacts, c.Sound := by
  intro c hc
  obtain ⟨e, he, rfl⟩ := List.mem_map.mp hc
  rw [List.mem_insertionSort] at he
  exact h e.1 e.2 (AList.mem_lookup_iff.mpr he)

/-- The edits of an event import what is in the database. -/
theorem edits_importsSound {b : Backend} (h : b.out.db.Sound) (e : Event) :
    AllAlong Book.apply (fun _ ed => ed.ImportsSound) b.book (b.edits e) := by
  refine allAlong_of_forall (fun ed hed _ => ?_) b.book
  cases ed with
  | importContact c => exact db_fetchContacts_sound h c (importContact_mem_edits hed)
  | _ => trivial

/-- **No event brings a marked contact among those that phase 3 adds.** -/
theorem addsSeen_take {b b' : Backend} {e : Event} (hsane : Sane b) (hdb : b.out.db.Sound)
    (h : b.AddsSeen) (hs : b.take e = some b') : b'.AddsSeen := by
  have htable : b'.book.AddsSeen :=
    take_book_inv (fun _ _ hI ha hp hP _ => Book.addsSeen_apply hI ha hp hP) hsane h.table
      (edits_importsSound hdb e) hs
  have hkeep : ∀ {r}, r < b.book.next → (b.book.contacts r).flags.has contactUnseen = false →
      (b'.book.contacts r).flags.has contactUnseen = false := fun hr hu =>
    (becomes_take hsane hs hr).seen hu
  have hold : ∀ p ∈ b.phase3, p.stage = .add →
      ∀ r ∈ p.todo, (b'.book.contacts r).flags.has contactUnseen = false := fun p hp hstage r hr =>
    hkeep (hsane.todo p hp r hr) (h.todo p hp hstage r hr)
  refine ⟨htable, ?_⟩
  have hagenda := take_agenda hs
  generalize b'.phase3 = ps at hagenda
  cases hagenda with
  | same _ => exact hold
  | begins hperm =>
    intro p hp hstage
    rcases List.mem_cons.mp hp with rfl | hp
    · cases hstage
    · exact hold p hp hstage
  | @advances order p rest qs hb hadv =>
    have hin : ∀ q ∈ rest, q ∈ b.phase3 := fun q hq => by rw [hb]; exact List.mem_cons_of_mem p hq
    intro q hq hstage r hr
    rcases List.mem_append.mp hq with hq | hq
    · cases hadv with
      | @next r' p' htodo hsame =>
        rw [List.mem_singleton] at hq
        subst hq
        exact hold p (by rw [hb]; exact List.mem_cons_self) (hsame ▸ hstage) r
          (by rw [htodo]; exact List.mem_cons_of_mem r' hr)
      | @snapshot p' htodo hperm =>
        rw [List.mem_singleton] at hq
        subst hq
        rw [hstage] at hperm
        obtain ⟨k, hk⟩ := Table.mem_values.mp (hperm.subset hr)
        exact hkeep (hsane.allocated.toAdd k r hk) (h.table k r hk)
      | ended _ => cases hq
    · exact hold q (hin q hq) hstage r hr

/-! ## Events -/

/-- The import marks contacts, and only those that do not wait to be added. -/
theorem Sound.syncPhase0 {b : Backend} (h : b.Sound) : b.syncPhase0IdleCb.Sound := by
  have himport : ∀ r, ((b.out.db.fetchContacts.foldl Book.importContact b.book).contacts r).Sound := by
    have hall : ∀ (cs : List Contact) {book : Book}, (∀ c ∈ cs, c.Sound) →
        (∀ r, (book.contacts r).Sound) → ∀ r, ((cs.foldl Book.importContact book).contacts r).Sound := by
      intro cs
      induction cs with
      | nil => exact fun _ hb => hb
      | cons c cs ih =>
        intro book hcs hb
        refine ih (fun c' hc' => hcs c' (List.mem_cons_of_mem c hc')) ?_
        exact sound_alloc hb (hcs c List.mem_cons_self).imported
    exact hall _ (db_fetchContacts_sound h.db) h.contacts
  obtain ⟨views, hsync⟩ := tpReadyCb_spec
    { b with
      book := b.out.db.fetchContacts.foldl Book.importContact b.book
      phase0Queued := false }
  refine Sound.syncOnly ?_ hsync
  exact ⟨himport, h.db⟩

/-- Phase 2 writes what the roster brought, and deletes whoever kept the mark. -/
theorem Sound.syncPhase2 {b : Backend} (h : b.Sound) (closure : GetMembersClosure) :
    (b.syncPhase2IdleCb closure).Sound := by
  have hread : ∀ rs : List Nat, ∀ c ∈ rs.map b.book.contacts, c.Sound := by
    intro rs c hc
    obtain ⟨r, -, rfl⟩ := List.mem_map.mp hc
    exact h.contacts r
  have hadd := Outbox.sound_add h.db (hread closure.contactsToAdd)
  have hup := Outbox.sound_update hadd (hread closure.contactsToUpdate)
  unfold syncPhase2IdleCb
  dsimp only
  split
  · exact ⟨h.contacts, hup⟩
  · refine Sound.of_same (Sound.deleteContacts (b := { b with out := (Outbox.transaction _ _).2 })
      ?_ (unseen b.book)) rfl rfl
    exact ⟨h.contacts, hup⟩

/-- A piece of phase 3 leaves sound contacts if the one to add is not marked unseen. -/
theorem Sound.stepPhase3 {b b' : Backend} {p : Phase3} {order : List Nat} (h : b.Sound)
    (hseen : p.stage = .add → ∀ r ∈ p.todo, (b.book.contacts r).flags.has contactUnseen = false)
    (hs : b.stepPhase3 p order = some b') : b'.Sound := by
  cases stepPhase3_turn hs with
  | @update r todo _ _ =>
    -- a contact that is updated is only cleared of what was asked for
    have hrun := h.runUpdateContact r
    unfold phase3Update
    generalize b.runUpdateContact r = q at hrun
    obtain ⟨_ | _, b₁⟩ := q
    · exact Sound.of_same hrun rfl rfl
    · exact Sound.of_same hrun rfl rfl
  | @add r todo hstage ht =>
    have hasked := asked_runAddContact b (b.book.contacts r)
    have hunseen := hseen hstage r (by rw [ht]; exact List.mem_cons_self)
    have hsound := fun c ha => (Contact.Sound.asked (c := c) (h.contacts r) ha hunseen).1
    unfold phase3Add
    dsimp only
    generalize b.runAddContact (b.book.contacts r) = q at hasked
    obtain ⟨_ | _, c, w⟩ := q
    · have hmod : (b.modify r fun _ => c).Sound := h.modify (hsound c hasked)
      exact hmod.of_same rfl rfl
    · have hmod : (b.modify r fun _ => c.clearAdd).Sound := h.modify ((hsound c hasked).clear _)
      -- online the name may be another one now, and then a merge follows
      suffices hadded : ({ b.modify r (fun _ => c.clearAdd) with wire := w }.phase3Added r
          (b.book.contacts r).name).2.Sound from hadded.of_same rfl rfl
      have hwire : ({ b.modify r (fun _ => c.clearAdd) with wire := w } : Backend).Sound :=
        hmod.of_same rfl rfl
      unfold phase3Added
      split
      · exact hwire
      · unfold phase3Renamed
        dsimp only
        split
        · refine Sound.mergeContacts ?_ _ r
          exact hwire.of_same rfl rfl
        · exact hwire.of_same rfl rfl
  | @delete r todo _ _ =>
    unfold phase3Delete
    generalize b.tpcl.runRemoveContact (b.book.contacts r) b.wire = q
    obtain ⟨_ | _, w⟩ := q
    · exact h.of_same rfl rfl
    · have hmod : (b.modify r Contact.clearDelete).Sound := h.modify ((h.contacts r).clear _)
      exact hmod.of_same rfl rfl
  | snapshot _ _ _ => exact h.of_same rfl rfl
  | ended _ =>
    unfold endPhase3
    dsimp only
    -- the contacts that were saved up are written at the end
    have hout : ({ b with out := if p.contactsToUpdateInDb = [] then b.out else
        (b.out.transaction fun db =>
          db.updateContacts (p.contactsToUpdateInDb.map b.book.contacts)).2 } : Backend).Sound := by
      refine ⟨h.contacts, ?_⟩
      dsimp only
      split
      · exact h.db
      · refine Outbox.sound_update h.db fun c hc => ?_
        obtain ⟨r, -, rfl⟩ := List.mem_map.mp hc
        exact h.contacts r
    exact hout.syncOnly (syncOnly_finishOnlineInitialization _)

/-- Every event leaves sound contacts and sound rows. -/
theorem sound_take {b b' : Backend} {e : Event} (hplain : b.tpcl.Plain) (hseen : b.AddsSeen)
    (h : b.Sound) (hs : b.take e = some b') : b'.Sound := by
  cases take_taken hs with
  | cl hstep =>
    refine Sound.onSignals ?_ (Cl.plain_step hplain hstep).2
    exact h.of_same rfl rfl
  | phase0 _ => exact h.syncPhase0
  | phase2 _ =>
    refine Sound.syncPhase2 ?_ _
    exact h.of_same rfl rfl
  | phase3 _ _ =>
    unfold beginPhase3
    split
    · exact h.of_same rfl rfl
    · refine Sound.syncOnly ?_ (syncOnly_finishOnlineInitialization _)
      exact h.of_same rfl rfl
  | @phase3Next _ p rest _ hp hstep =>
    have hrest : ({ b with phase3 := rest } : Backend).Sound := h.of_same rfl rfl
    exact hrest.stepPhase3 (hseen.todo p (by rw [hp]; exact List.mem_cons_self)) hstep
  | createContact ec => exact h.createContact ec
  | modifyContact ec => exact h.modifyContact ec
  | removeContact id => exact h.removeContact id
  | updateContactsIdle => exact ⟨h.contacts, Outbox.sound_updateContactsIdleCb h.db h.contacts⟩
  | startView id =>
    refine h.of_same rfl ?_
    exact Outbox.notifyRemotelyUpdatedContactsAndComplete_db _ _
  | stopView id => exact ⟨h.contacts, Outbox.sound_flush h.db h.contacts⟩
  | inactivity on => exact h.of_same rfl (Outbox.setInactivityStatus_db _ _ on)
  | @avatarDataSaved i r ok _ =>
    refine h.of_same (congrArg Book.contacts (avatarDataSavedCb_book _ r ok)) ?_
    unfold avatarDataSavedCb
    split
    · exact Outbox.updateContacts_db _ _ _ _
    · rfl
  | getContact => exact h.of_same rfl (Outbox.notifyRemotelyUpdatedContactsAndComplete_db _ _)

/-- What holds of a process that has opened a sound database. -/
structure Tidy (b : Backend) : Prop where
  sane : b.Sane
  seen : b.AddsSeen
  sound : b.Sound

/-- A process that has just opened a sound database is tidy. -/
theorem tidy_boot (pathSuffix vcardField : String) {db : Db} (h : db.Sound) :
    Tidy (boot pathSuffix vcardField db) where
  sane := sane_boot pathSuffix vcardField db
  seen := ⟨Table.all_empty _, fun p hp => by cases hp⟩
  sound := ⟨fun _ => Contact.sound_new, h⟩

/-- Every step keeps it so. -/
theorem tidy_step {b b' : Backend} {i : Input} (h : b.Tidy) (hs : b.step i = some b') : b'.Tidy := by
  have hsane : (b.load i.env).Sane := h.sane.load i.env
  have hseen : (b.load i.env).AddsSeen := ⟨h.seen.table, h.seen.todo⟩
  have hsound : (b.load i.env).Sound := ⟨h.sound.contacts, h.sound.db⟩
  exact ⟨sane_step h.sane hs, addsSeen_take hsane hsound.db hseen hs,
    sound_take hsane.plain hseen hsound hs⟩

/-- So it is in every state it can come to. -/
theorem tidy_reachable {pathSuffix vcardField : String} {db : Db} {b : Backend} (hdb : db.Sound)
    (h : ReachableFrom pathSuffix vcardField db b) : b.Tidy := by
  obtain ⟨is, hrun⟩ := h
  exact Machine.run_inv (M := machine) (I := Tidy) (fun _ _ _ hI hs => tidy_step hI hs) hrun
    (tidy_boot pathSuffix vcardField hdb)

end Backend

/-- A database that any number of processes have worked on, one after the other. -/
inductive Cache : Db → Prop where
  | empty : Cache {}
  | left {db : Db} {pathSuffix vcardField : String} {b : Backend} :
      Cache db → Backend.ReachableFrom pathSuffix vcardField db b → Cache b.out.db

/-- **Every cache that the backend can have written is sound.** -/
theorem Cache.sound {db : Db} (h : Cache db) : db.Sound := by
  induction h with
  | empty => exact Table.all_empty _
  | left _ hreach ih => exact (Backend.tidy_reachable ih hreach).sound.db

end EdsTelepathy
