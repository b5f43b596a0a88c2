import EdsTelepathy.Proof.Rows
import EdsTelepathy.Proof.Changes

/-!
# Sound contacts and rows

The flags of a contact carry list bits and two marks: *unseen*, which only the import
sets, and *invalid*. A contact that waits to be added never has the first and neither has
an invalid one, in memory and in every row that a process writes. So this is also true of
whatever a later process imports, over any number of restarts.
-/

namespace EdsTelepathy

/-- The bits that the flags of a contact of the book can have. -/
def bookFlags : Flags := allListFlags ||| contactUnseen ||| contactInvalid

/-- The flags and the pending flags of a contact, in memory or in a row, fit together. -/
structure SoundFlags (flags pending : Flags) : Prop where
  within : flags &&& ~~~bookFlags = 0#32
  unseen : flags.has contactUnseen = true →
    pending.has scheduleAdd = false ∧ flags.has contactInvalid = false

/-- The flags lose marks and the contact does not come to wait to be added. -/
theorem SoundFlags.mono {f p f' p' : Flags} (h : SoundFlags f p)
    (hw : f' &&& ~~~bookFlags = 0#32)
    (hu : f'.has contactUnseen = true → f.has contactUnseen = true)
    (hi : f'.has contactInvalid = true → f.has contactInvalid = true)
    (ha : p'.has scheduleAdd = true → p.has scheduleAdd = true) : SoundFlags f' p' := by
  refine ⟨hw, fun hun => ?_⟩
  obtain ⟨h1, h2⟩ := h.unseen (hu hun)
  constructor
  · by_contra hc
    rw [ha (by simpa using hc)] at h1; cases h1
  · by_contra hc
    rw [hi (by simpa using hc)] at h2; cases h2

/-- Without the mark there is nothing to fit. -/
theorem soundFlags_of_seen {f p : Flags} (hw : f &&& ~~~bookFlags = 0#32)
    (hu : f.has contactUnseen = false) : SoundFlags f p :=
  ⟨hw, fun h => by rw [hu] at h; cases h⟩

namespace Contact

/-- The flags of the contact fit together. -/
def Sound (c : Contact) : Prop := SoundFlags c.flags c.pendingFlags

/-- A contact may lose pending bits as long as it does not come to wait to be added. -/
theorem Sound.pending {c : Contact} (h : c.Sound) {p : Flags}
    (ha : p.has scheduleAdd = true → c.pendingFlags.has scheduleAdd = true) :
    SoundFlags c.flags p := SoundFlags.mono h h.within id id ha

theorem Sound.clear {c : Contact} (h : c.Sound) (m : Flags) : SoundFlags c.flags (c.pendingFlags &&& m) :=
  h.pending fun hp => BitVec.has_of_and_has hp

/-- A roster contact has list flags only, so it is sound whatever is pending for it. -/
theorem Plain.sound {c : Contact} (h : c.Plain) (p : Flags) : SoundFlags c.flags p := by
  refine soundFlags_of_seen ?_ (h.has_flags (by decide))
  have hsub : allListFlags &&& ~~~bookFlags = 0#32 := by decide
  rw [BitVec.eq_zero_iff_bits] at *
  intro i
  have h1 := BitVec.eq_zero_iff_bits.mp h.flags i
  have h2 := hsub i
  rw [BitVec.getLsbD_and, BitVec.getLsbD_not] at h1 h2 ⊢
  cases hc : c.flags.getLsbD i with
  | false => rfl
  | true =>
    have hlt : i < 32 := BitVec.lt_of_getLsbD hc
    simp only [hc, hlt, decide_true, Bool.true_and] at h1 h2 ⊢
    have hall : allListFlags.getLsbD i = true := by simpa using h1
    rw [hall, Bool.true_and] at h2
    exact h2

/-- A contact that was just allocated has no flags at all. -/
theorem sound_new : new.Sound := ⟨by decide, fun h => by cases h⟩

/-- Master UIDs have a pending bit of their own, which is none of those in question. -/
theorem Sound.addMasterUid {c : Contact} (h : c.Sound) (uid : Option String) :
    (c.addMasterUid uid).Sound := by
  unfold Contact.addMasterUid
  split
  · exact h
  · exact h.pending fun hp => (BitVec.or_has_of_disjoint (by decide)).symm.trans hp

theorem Sound.updateMasterUids {c : Contact} (h : c.Sound) (uids : List (Option String)) :
    (c.updateMasterUids uids).Sound :=
  foldl_inv (I := Sound) (fun _ uid hc => hc.addMasterUid uid) uids h

/-- So have the variants. -/
theorem Sound.addVariants {c : Contact} (h : c.Sound) (src : Contact) :
    (c.addVariantsFromContact src).Sound := by
  unfold addVariantsFromContact
  dsimp only
  split
  · exact h
  · exact h.pending fun hp => (BitVec.or_has_of_disjoint (by decide)).symm.trans hp

/-- `merge_contacts` takes over no flags. -/
theorem Sound.mergeFrom {c : Contact} (h : c.Sound) (src : Contact) : (c.mergeFrom src).Sound := by
  have hdest := (h.addVariants src).updateMasterUids src.masterUids
  unfold Contact.mergeFrom
  dsimp only
  split
  · exact hdest.pending fun hp => (BitVec.or_has_of_disjoint (by decide)).symm.trans hp
  · exact hdest

/-- Nor does a creation of a known contact: it asks for an unblock at most. -/
theorem Sound.mergeSubmitted {e : Contact} (h : e.Sound) (c : Contact) :
    (e.mergeSubmitted c).Sound := by
  have hdest := (h.updateMasterUids c.masterUids).addVariants c
  unfold Contact.mergeSubmitted
  dsimp only
  split
  · refine hdest.pending fun hp => ?_
    rw [BitVec.or_has_of_disjoint (by decide)] at hp
    exact BitVec.has_of_and_has hp
  · exact hdest

/-- Sending what is pending clears bits, and perhaps takes the contact off the deny list. -/
theorem Sound.updated {c : Contact} (h : c.Sound) (unblocked : Bool) : (c.updated unblocked).Sound := by
  have hasked : c.flagsAsked.Sound := h.clear _
  have hunblock : (c.flagsAsked.unblockAsked unblocked).Sound := by
    unfold unblockAsked
    split
    · split
      · exact hasked.clear _
      · exact SoundFlags.mono hasked (BitVec.within_and _ h.within) BitVec.has_of_and_has
          BitVec.has_of_and_has id
    · exact hasked
  exact hunblock.pending fun hp => BitVec.has_of_and_has (BitVec.has_of_and_has hp)

/-- A vcard cannot set any of the bookkeeping bits of the flags. -/
theorem Sound.decoded {c c' : Contact} (h : c.Sound) (hd : Decoded c c') : c'.Sound := by
  have hflags := hd.flags
  have hno : c'.pendingFlags.has scheduleAdd = false := by
    by_contra hc
    have hset := hd.pending scheduleAdd (by decide) (by simpa using hc)
    rw [BitVec.has_false_of_within h.within (by decide)] at hset
    cases hset
  unfold Sound
  rw [hflags]
  exact h.pending fun hp => by rw [hno] at hp; cases hp

theorem Sound.removeMasterUid {c : Contact} (h : c.Sound) (uid : String) :
    (c.removeMasterUid uid).Sound := by
  unfold Contact.removeMasterUid
  split
  · exact h
  · exact h.pending fun hp => (BitVec.or_has_of_disjoint (by decide)).symm.trans hp

/-- Nor can the id of a request to remove it. -/
theorem Sound.removeTokens {c : Contact} (h : c.Sound) (tokens : List String) :
    (c.removeTokens tokens).1.Sound := by
  unfold Contact.removeTokens
  split
  · exact h
  · unfold removeAllMasterUids
    split
    · exact h
    · exact h.pending fun hp => (BitVec.or_has_of_disjoint (by decide)).symm.trans hp
  · refine foldl_inv (I := fun st : Contact × Bool => Sound st.1) (fun st token hst => ?_) tokens h
    unfold removeToken
    split
    · exact hst
    · split
      · exact hst
      · exact hst.removeMasterUid _

/-- A contact that is not marked unseen stays sound through the request to add it. -/
theorem Sound.asked {old c : Contact} (h : old.Sound) (ha : Asked old c)
    (hu : old.flags.has contactUnseen = false) :
    c.Sound ∧ c.flags.has contactUnseen = false := by
  have hfalse : c.flags.has contactUnseen = false := by
    rcases ha.flags with hf | hf <;> rw [hf]
    · exact hu
    · rw [BitVec.or_has_of_disjoint (by decide)]; exact hu
  refine ⟨soundFlags_of_seen ?_ hfalse, hfalse⟩
  rcases ha.flags with hf | hf <;> rw [hf]
  · exact h.within
  · exact BitVec.within_or h.within (by decide)

/-- A created contact is never marked unseen, although it waits to be added. -/
theorem Created.sound {c : Contact} (h : c.Created) : c.Sound ∧ c.flags.has contactUnseen = false := by
  have hfalse : c.flags.has contactUnseen = false := by
    rcases h.flags with hf | hf <;> rw [hf] <;> decide
  refine ⟨soundFlags_of_seen ?_ hfalse, hfalse⟩
  rcases h.flags with hf | hf <;> rw [hf] <;> decide

/-- The import marks only those that do not wait to be added, which is where the rule comes from. -/
theorem Sound.imported {c : Contact} (h : c.Sound) : c.imported.Sound := by
  unfold Contact.imported
  split
  · rename_i hc
    rw [Bool.and_eq_true, Bool.not_eq_true', Bool.not_eq_true'] at hc
    refine ⟨BitVec.within_or h.within (by decide), fun _ => ⟨hc.1, ?_⟩⟩
    rw [BitVec.or_has_of_disjoint (by decide)]; exact hc.2
  · exact h

/-- Whoever is seen on the roster loses the mark. -/
theorem Sound.seen {c : Contact} (h : c.Sound) (cIn : Contact) : (cIn.seen c).Sound :=
  soundFlags_of_seen (BitVec.within_and _ h.within) (BitVec.clear_has_self _ _)

theorem Sound.copied {c : Contact} (h : c.Sound) (f : Carried) {src : Contact} (hsrc : src.Plain) :
    (f.copy src c).Sound := by
  by_cases hf : f = .flags
  · subst hf
    exact hsrc.sound _
  · unfold Sound
    rw [f.copy_flags hf src, (f.sameEntry src c).pendingFlags]
    exact h

end Contact

/-- What is done to a single contact leaves it sound. -/
theorem Touch.sound (t : Touch) {c : Contact} (h : c.Sound) : (t.apply c).Sound := by
  cases t with
  | clearDelete => exact h.clear _
  | updated unblocked => exact h.updated unblocked
  | submitted c' unblocked => exact (h.mergeSubmitted c').updated unblocked
  | removeTokens tokens => exact h.removeTokens tokens
  | masterUidsStored => exact h.clear _
  | nothingPending =>
    have hzero : BitVec.has 0#32 scheduleAdd = false := BitVec.zero_has _
    exact h.pending fun hp => absurd (hzero.symm.trans hp) (by decide)

/-! ## Rows -/

/-- The flags of the row fit together. -/
def ContactRow.Sound (row : ContactRow) : Prop := SoundFlags row.flags row.pendingFlags

namespace Db

/-- Every row is sound. -/
def Sound (db : Db) : Prop := Table.All ContactRow.Sound db.contacts

/-- A row is written from a contact, with its flags as they are. -/
theorem Sound.insert {db : Db} (h : db.Sound) {c : Contact} (hc : c.Sound) (n : String) :
    Table.All ContactRow.Sound (db.contacts.insert c.uid (rowOf c n)) :=
  Table.All.insert h c.uid (v := rowOf c n) hc

theorem Sound.realAddContact {db db' : Db} (h : db.Sound) {c : Contact} (hc : c.Sound)
    (hs : db.realAddContact c = some db') : db'.Sound := by
  unfold Db.realAddContact at hs
  split at hs
  · cases hs
  · split at hs
    · cases hs
    · cases hs
      unfold Sound
      rw [addVariants_contacts, addMasterUids_contacts]
      exact h.insert hc _

theorem Sound.updateRow {db db' : Db} (h : db.Sound) {c : Contact} (hc : c.Sound)
    (hs : db.updateRow c = some db') : db'.Sound := by
  unfold Db.updateRow at hs
  split at hs
  · cases hs; exact h
  · cases hs
  · cases hs; exact h.insert hc _

/-- An update writes one row and replaces lists that have no flags. -/
theorem Sound.realUpdateContact {db db' : Db} (h : db.Sound) {c : Contact} (hc : c.Sound)
    (hs : db.realUpdateContact c = some db') : db'.Sound := by
  obtain ⟨db₁, h₁, rfl⟩ := Option.map_eq_some_iff.mp hs
  have hrow := h.updateRow hc h₁
  unfold Sound
  rw [addVariants_contacts]
  show Table.All ContactRow.Sound ((db₁.deleteMasterUids c.uid).addMasterUids c).contacts
  rw [addMasterUids_contacts]
  exact hrow

/-- What one statement keeps, a call with several contacts keeps. -/
theorem Sound.foldlM {f : Db → Contact → Option Db}
    (hf : ∀ {db db' : Db} {c : Contact}, db.Sound → c.Sound → f db c = some db' → db'.Sound)
    {cs : List Contact} {db db' : Db} (h : db.Sound) (hcs : ∀ c ∈ cs, c.Sound)
    (hs : cs.foldlM f db = some db') : db'.Sound := by
  induction cs generalizing db with
  | nil => cases hs; exact h
  | cons c cs ih =>
    rw [List.foldlM_cons] at hs
    obtain ⟨db₁, h₁, h₂⟩ := Option.bind_eq_some_iff.mp hs
    exact ih (hf h (hcs c List.mem_cons_self) h₁) (fun c' hc' => hcs c' (List.mem_cons_of_mem c hc')) h₂

theorem Sound.removeContacts {db : Db} (h : db.Sound) (uids : List String) :
    (db.removeContacts uids).Sound :=
  foldl_inv (f := realDeleteContact) (I := Sound)
    (fun db uid (hdb : db.Sound) => Table.All.erase hdb uid) uids h

end Db

/-! ## Database calls -/

namespace Outbox

/-- A call that fails leaves the rows as they were. -/
theorem sound_transaction {o : Outbox} {f : Db → Option Db} (h : o.db.Sound)
    (hf : ∀ db', f o.db = some db' → db'.Sound) : (o.transaction f).2.db.Sound := by
  unfold transaction
  dsimp only
  split
  · split
    · rename_i db' hdb
      exact hf db' hdb
    · exact h
  · exact h

theorem sound_add {o : Outbox} (h : o.db.Sound) {cs : List Contact} (hcs : ∀ c ∈ cs, c.Sound) :
    (o.transaction fun db => db.addContacts cs).2.db.Sound :=
  sound_transaction h fun _ hs =>
    Db.Sound.foldlM (fun hdb hc hs => hdb.realAddContact hc hs) h hcs hs

theorem sound_update {o : Outbox} (h : o.db.Sound) {cs : List Contact} (hcs : ∀ c ∈ cs, c.Sound) :
    (o.transaction fun db => db.updateContacts cs).2.db.Sound :=
  sound_transaction h fun _ hs =>
    Db.Sound.foldlM (fun hdb hc hs => hdb.realUpdateContact hc hs) h hcs hs

/-- Telling the views does not touch the database. -/
@[simp] theorem notify_db (o : Outbox) (n : Notice) : (o.notify n).db = o.db := rfl

@[simp] theorem notifyCompleteAllViews_db (o : Outbox) : o.notifyCompleteAllViews.db = o.db := rfl

theorem foldl_notify_db {α : Type} (f : α → Notice) (xs : List α) (o : Outbox) :
    (xs.foldl (fun o x => o.notify (f x)) o).db = o.db := by
  induction xs generalizing o with
  | nil => rfl
  | cons x xs ih => exact ih (o.notify (f x))

@[simp] theorem notifyRemotelyUpdatedContacts_db (heap : Nat → Contact) (o : Outbox) :
    (o.notifyRemotelyUpdatedContacts heap).2.db = o.db := by
  unfold notifyRemotelyUpdatedContacts
  dsimp only
  split
  · rfl
  · exact foldl_notify_db _ _ _

@[simp] theorem notifyRemotelyUpdatedContactsAndComplete_db (heap : Nat → Contact) (o : Outbox) :
    (o.notifyRemotelyUpdatedContactsAndComplete heap).db = o.db := by
  unfold notifyRemotelyUpdatedContactsAndComplete
  dsimp only
  split
  · rw [notifyCompleteAllViews_db, notifyRemotelyUpdatedContacts_db]
  · rw [notifyRemotelyUpdatedContacts_db]

@[simp] theorem notifyUpdatedContact_db (heap : Nat → Contact) (o : Outbox) (r : Nat) :
    (o.notifyUpdatedContact heap r).db = o.db := by
  unfold notifyUpdatedContact
  dsimp only
  split
  · rfl
  · rw [notifyCompleteAllViews_db, notify_db, notifyRemotelyUpdatedContacts_db]

@[simp] theorem updateContacts_db (heap : Nat → Contact) (o : Outbox) (rs : List Nat) (db : Bool) :
    (o.updateContacts heap rs db).db = o.db := by
  refine foldl_inv (I := fun o' : Outbox => o'.db = o.db) (fun o' r h => ?_) rs rfl
  unfold queueContact
  dsimp only
  split <;> split <;> exact h

@[simp] theorem setInactivityStatus_db (heap : Nat → Contact) (o : Outbox) (on : Bool) :
    (o.setInactivityStatus heap on).db = o.db := by
  unfold setInactivityStatus
  split
  · rfl
  · dsimp only
    split
    · rw [notifyRemotelyUpdatedContactsAndComplete_db]
    · rfl

variable {heap : Nat → Contact}

/-- The queue holds contacts of the book, and these are sound. -/
theorem sound_flush {o : Outbox} (h : o.db.Sound) (hheap : ∀ r, (heap r).Sound) :
    (o.flushDbUpdates heap).db.Sound := by
  unfold flushDbUpdates
  split
  · exact h
  · refine sound_update h fun c hc => ?_
    obtain ⟨r, -, rfl⟩ := List.mem_map.mp hc
    exact hheap r

theorem sound_announceRemoval {o : Outbox} (h : o.db.Sound) (hheap : ∀ r, (heap r).Sound)
    (uids : List String) : (o.announceRemoval heap uids).db.Sound := by
  unfold announceRemoval
  dsimp only
  rw [notifyCompleteAllViews_db, foldl_notify_db]
  have hflush := sound_flush h hheap
  have hnotified : ((o.flushDbUpdates heap).notifyRemotelyUpdatedContacts heap).2.db.Sound := by
    rw [notifyRemotelyUpdatedContacts_db]; exact hflush
  refine sound_transaction hnotified fun db' hs => ?_
  cases hs
  exact hnotified.removeContacts uids

theorem sound_updateContactsIdleCb {o : Outbox} (h : o.db.Sound) (hheap : ∀ r, (heap r).Sound) :
    (o.updateContactsIdleCb heap).db.Sound := by
  unfold updateContactsIdleCb
  refine sound_flush ?_ hheap
  split
  · rw [notifyRemotelyUpdatedContactsAndComplete_db]; exact h
  · exact h

end Outbox

end EdsTelepathy
