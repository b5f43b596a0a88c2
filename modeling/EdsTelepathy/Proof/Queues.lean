import EdsTelepathy.Proof.Cache
import EdsTelepathy.Proof.Indexes

/-!
# Nothing queued is forgotten

The pending bits of a contact and the three work tables are kept apart and changed by
hand. `Queues` says that the tables have an entry for every bit of every contact of the
uid index. Most edits only clear bits, or set one together with its entry; `KeepsQueues`
says what must be true of the five that can do one without the other.
-/

namespace EdsTelepathy

/-- The bits that `contacts_to_update` is for. -/
def updateBits : Flags := scheduleUpdateFlags ||| scheduleUnblock

/-- Nothing is pending in `p'` that a work table must know of and that is not in `p`. -/
structure Quiet (p p' : Flags) : Prop where
  add : p'.has scheduleAdd = true → p.has scheduleAdd = true
  delete : p'.has scheduleDelete = true → p.has scheduleDelete = true
  update : p'.has updateBits = true → p.has updateBits = true

namespace Quiet

theorem of_all {p p' : Flags} (h : ∀ m, p'.has m = true → p.has m = true) : Quiet p p' :=
  ⟨h _, h _, h _⟩

theorem refl (p : Flags) : Quiet p p := of_all fun _ h => h

theorem trans {p p' p'' : Flags} (h : Quiet p p') (h' : Quiet p' p'') : Quiet p p'' :=
  ⟨fun hp => h.add (h'.add hp), fun hp => h.delete (h'.delete hp), fun hp => h.update (h'.update hp)⟩

theorem and (p m : Flags) : Quiet p (p &&& m) := of_all fun _ h => BitVec.has_of_and_has h

/-- Only bits differ that no work table is for. -/
theorem of_sameOff {v p p' : Flags} (h : BitVec.SameOff v p p') (ha : v &&& scheduleAdd = 0#32)
    (hd : v &&& scheduleDelete = 0#32) (hu : v &&& updateBits = 0#32) : Quiet p p' :=
  ⟨(h _ ha).symm.trans, (h _ hd).symm.trans, (h _ hu).symm.trans⟩

end Quiet

/-! ## What the operations make pending -/

namespace Contact

theorem sameOff_updateMasterUids (c : Contact) (uids : List (Option String)) :
    BitVec.SameOff scheduleUpdateMasterUid c.pendingFlags (c.updateMasterUids uids).pendingFlags := by
  refine foldl_inv
    (I := fun c' : Contact => BitVec.SameOff scheduleUpdateMasterUid c.pendingFlags c'.pendingFlags)
    (fun c' uid h => h.trans ?_) uids (.refl _ _)
  unfold addMasterUid
  split
  · exact .refl _ _
  · exact .or _ (by decide)

theorem sameOff_addVariants (dest src : Contact) :
    BitVec.SameOff scheduleUpdateVariants dest.pendingFlags
      (dest.addVariantsFromContact src).pendingFlags := by
  unfold addVariantsFromContact
  dsimp only
  split
  · exact .refl _ _
  · exact .or _ (by decide)

/-- What a merge may set. -/
def mergeBits : Flags := scheduleUnblock ||| scheduleUpdateMasterUid ||| scheduleUpdateVariants

theorem sameOff_mergeFrom (dest src : Contact) :
    BitVec.SameOff mergeBits dest.pendingFlags (dest.mergeFrom src).pendingFlags := by
  have h := ((sameOff_addVariants dest src).mono (v := mergeBits) (by decide)).trans
    ((sameOff_updateMasterUids (dest.addVariantsFromContact src) src.masterUids).mono (by decide))
  unfold mergeFrom
  dsimp only
  split
  · exact h.trans (.or _ (by decide))
  · exact h

theorem sameOff_mergeSubmitted (e c : Contact) :
    BitVec.SameOff (mergeBits ||| deny) e.pendingFlags (e.mergeSubmitted c).pendingFlags := by
  have h := ((sameOff_updateMasterUids e c.masterUids).mono (v := mergeBits ||| deny) (by decide)).trans
    ((sameOff_addVariants (e.updateMasterUids c.masterUids) c).mono (by decide))
  unfold mergeSubmitted
  dsimp only
  split
  · exact (h.trans (.clear _ (by decide))).trans (.or _ (by decide))
  · exact h

theorem sameOff_updated (c : Contact) (unblocked : Bool) :
    BitVec.SameOff (mergeBits ||| scheduleUpdateFlags) c.pendingFlags
      (c.updated unblocked).pendingFlags := by
  have h1 : BitVec.SameOff (mergeBits ||| scheduleUpdateFlags) c.pendingFlags
      c.flagsAsked.pendingFlags := .clear _ (by decide)
  have h2 : BitVec.SameOff (mergeBits ||| scheduleUpdateFlags) c.flagsAsked.pendingFlags
      (c.flagsAsked.unblockAsked unblocked).pendingFlags := by
    unfold unblockAsked
    split
    · split
      · exact .clear _ (by decide)
      · exact .refl _ _
    · exact .refl _ _
  exact (h1.trans h2).trans
    ((BitVec.SameOff.clear _ (by decide)).trans (.clear _ (by decide)))

theorem sameOff_removeTokens (c : Contact) (tokens : List String) :
    BitVec.SameOff scheduleUpdateMasterUid c.pendingFlags (c.removeTokens tokens).1.pendingFlags := by
  unfold removeTokens
  split
  · exact .refl _ _
  · unfold removeAllMasterUids
    split
    · exact .refl _ _
    · exact .or _ (by decide)
  · refine foldl_inv (I := fun st : Contact × Bool =>
      BitVec.SameOff scheduleUpdateMasterUid c.pendingFlags st.1.pendingFlags)
      (fun st token h => ?_) tokens (.refl _ _)
    unfold removeToken
    split
    · exact h
    · split
      · exact h
      · refine h.trans ?_
        unfold removeMasterUid
        split
        · exact .refl _ _
        · exact .or _ (by decide)

theorem quiet_updateMasterUids (c : Contact) (uids : List (Option String)) :
    Quiet c.pendingFlags (c.updateMasterUids uids).pendingFlags :=
  .of_sameOff (c.sameOff_updateMasterUids uids) (by decide) (by decide) (by decide)

theorem quiet_addVariants (dest src : Contact) :
    Quiet dest.pendingFlags (dest.addVariantsFromContact src).pendingFlags :=
  .of_sameOff (dest.sameOff_addVariants src) (by decide) (by decide) (by decide)

/-- A merge moves an unblock over, and nothing else that a table must know of. -/
theorem quiet_mergeFrom {dest src : Contact} (h : src.pendingFlags.has scheduleUnblock = false) :
    Quiet dest.pendingFlags (dest.mergeFrom src).pendingFlags := by
  have h1 := quiet_addVariants dest src
  have h2 := quiet_updateMasterUids (dest.addVariantsFromContact src) src.masterUids
  unfold mergeFrom
  dsimp only
  rw [if_neg (by rw [h]; exact Bool.false_ne_true)]
  exact h1.trans h2

/-- In any case a merge makes no addition and no removal pending. -/
theorem mergeFrom_pending (dest src : Contact) :
    ((dest.mergeFrom src).pendingFlags.has scheduleAdd = true →
        dest.pendingFlags.has scheduleAdd = true)
      ∧ ((dest.mergeFrom src).pendingFlags.has scheduleDelete = true →
        dest.pendingFlags.has scheduleDelete = true) :=
  ⟨(sameOff_mergeFrom dest src _ (by decide)).symm.trans,
    (sameOff_mergeFrom dest src _ (by decide)).symm.trans⟩

theorem quiet_mergeSubmitted {e c : Contact} (h : e.flags.has deny = false) :
    Quiet e.pendingFlags (e.mergeSubmitted c).pendingFlags := by
  have h1 := quiet_updateMasterUids e c.masterUids
  have h2 := quiet_addVariants (e.updateMasterUids c.masterUids) c
  have hf : ((e.updateMasterUids c.masterUids).addVariantsFromContact c).flags = e.flags :=
    (addVariants_keeps _ _).2.trans (updateMasterUids_keeps _ _).2
  unfold mergeSubmitted
  dsimp only
  rw [hf, if_neg (by rw [h]; exact Bool.false_ne_true)]
  exact h1.trans h2

theorem mergeSubmitted_pending (e c : Contact) :
    ((e.mergeSubmitted c).pendingFlags.has scheduleAdd = true →
        e.pendingFlags.has scheduleAdd = true)
      ∧ ((e.mergeSubmitted c).pendingFlags.has scheduleDelete = true →
        e.pendingFlags.has scheduleDelete = true) :=
  ⟨(sameOff_mergeSubmitted e c _ (by decide)).symm.trans,
    (sameOff_mergeSubmitted e c _ (by decide)).symm.trans⟩

theorem quiet_updated (c : Contact) (unblocked : Bool) :
    Quiet c.pendingFlags (c.updated unblocked).pendingFlags := by
  have h1 : Quiet c.pendingFlags c.flagsAsked.pendingFlags := .and _ _
  have h2 : Quiet c.flagsAsked.pendingFlags (c.flagsAsked.unblockAsked unblocked).pendingFlags := by
    unfold unblockAsked
    split
    · split
      · exact .and _ _
      · exact .refl _
    · exact .refl _
  exact (h1.trans h2).trans ((Quiet.and _ _).trans (.and _ _))

/-- After `run_update_contact` no update of the flags is pending, whatever it has sent. -/
theorem updated_asks_nothing (c : Contact) (unblocked : Bool) :
    (c.updated unblocked).pendingFlags.has scheduleUpdateFlags = false := by
  have hasked : c.flagsAsked.pendingFlags.has scheduleUpdateFlags = false :=
    BitVec.clear_has_self _ _
  have hunblock : (c.flagsAsked.unblockAsked unblocked).pendingFlags.has scheduleUpdateFlags
      = false := by
    unfold unblockAsked
    split
    · split
      · exact BitVec.and_has_false hasked
      · exact hasked
    · exact hasked
  exact BitVec.and_has_false (BitVec.and_has_false hunblock)

/-- After an update that unblocked the contact, no update is pending. -/
theorem updated_done (c : Contact) : (c.updated true).pendingFlags.has updateBits = false := by
  have hunblock : (c.flagsAsked.unblockAsked true).pendingFlags.has scheduleUnblock = false := by
    unfold unblockAsked
    split
    · exact BitVec.clear_has_self _ _
    · rename_i h
      simpa using h
  have hcleared : (c.updated true).pendingFlags.has scheduleUnblock = false :=
    BitVec.and_has_false (BitVec.and_has_false hunblock)
  unfold updateBits
  rw [BitVec.has_or, c.updated_asks_nothing true, hcleared]
  rfl

theorem quiet_removeTokens (c : Contact) (tokens : List String) :
    Quiet c.pendingFlags (c.removeTokens tokens).1.pendingFlags :=
  .of_sameOff (c.sameOff_removeTokens tokens) (by decide) (by decide) (by decide)

theorem quiet_copy (f : Carried) (src c : Contact) :
    Quiet c.pendingFlags (f.copy src c).pendingFlags := by
  rw [(f.sameEntry src c).pendingFlags]
  exact .refl _

/-- What the request to add a contact leaves is queued already. -/
theorem Asked.quiet {old c : Contact} (h : Asked old c) : Quiet old.pendingFlags c.pendingFlags := by
  refine ⟨(h.pending _ (by decide)).symm.trans, (h.pending _ (by decide)).symm.trans, fun hp => ?_⟩
  unfold updateBits at hp ⊢
  rw [BitVec.has_or, Bool.or_eq_true] at hp ⊢
  rcases hp with hp | hp
  · exact .inl (h.updateFlags hp)
  · exact .inr ((h.pending _ (by decide)).symm.trans hp)

end Contact

/-- What is done to a single contact, but for a create request, makes nothing pending. -/
theorem Touch.quiet {t : Touch} (h : ∀ c unblocked, t ≠ .submitted c unblocked) (c : Contact) :
    Quiet c.pendingFlags (t.apply c).pendingFlags := by
  cases t with
  | clearDelete => exact .and _ _
  | updated unblocked => exact c.quiet_updated unblocked
  | submitted c' unblocked => exact absurd rfl (h c' unblocked)
  | removeTokens tokens => exact c.quiet_removeTokens tokens
  | masterUidsStored => exact .and _ _
  | nothingPending =>
    refine .of_all fun m hp => ?_
    have hzero : BitVec.has 0#32 m = false := BitVec.zero_has m
    exact absurd (hzero.symm.trans hp) (by decide)

/-! ## The invariant -/

namespace Book

/-- The work tables know of the contact what its pending bits say. -/
structure Queued (b : Book) (r : Nat) : Prop where
  add : (b.contacts r).pendingFlags.has scheduleAdd = true →
    b.contactsToAdd.lookup (b.contacts r).uid = some r
  delete : (b.contacts r).pendingFlags.has scheduleDelete = true →
    b.contactsToDelete.lookup (b.contacts r).uid = some r
  update : (b.contacts r).pendingFlags.has updateBits = true →
    b.contactsToUpdate.lookup (b.contacts r).uid = some r

instance (b : Book) (r : Nat) : Decidable (b.Queued r) :=
  decidable_of_iff
    (((b.contacts r).pendingFlags.has scheduleAdd = true →
        b.contactsToAdd.lookup (b.contacts r).uid = some r)
      ∧ ((b.contacts r).pendingFlags.has scheduleDelete = true →
        b.contactsToDelete.lookup (b.contacts r).uid = some r)
      ∧ ((b.contacts r).pendingFlags.has updateBits = true →
        b.contactsToUpdate.lookup (b.contacts r).uid = some r))
    ⟨fun h => ⟨h.1, h.2.1, h.2.2⟩, fun h => ⟨h.add, h.delete, h.update⟩⟩

/-- **Every pending operation of a contact of the uid index is queued.** -/
structure Queues (b : Book) : Prop where
  uid : ∀ k r, b.uidToContact.lookup k = some r → (b.contacts r).uid = k
  queued : ∀ k r, b.uidToContact.lookup k = some r → b.Queued r

theorem queues_empty : Queues {} := ⟨fun _ _ h => (by cases h), fun _ _ h => (by cases h)⟩

theorem Queues.live {b : Book} (h : b.Queues) {r : Nat} (hr : b.Live r) : b.Queued r :=
  h.queued _ r hr

/-- A contact that asks for no more than before is queued if the tables still have it. -/
theorem Queued.mono {b b' : Book} {r : Nat} (h : b.Queued r)
    (huid : (b'.contacts r).uid = (b.contacts r).uid)
    (hq : Quiet (b.contacts r).pendingFlags (b'.contacts r).pendingFlags)
    (ha : b.contactsToAdd.lookup (b.contacts r).uid = some r →
      (b'.contacts r).pendingFlags.has scheduleAdd = true →
      b'.contactsToAdd.lookup (b.contacts r).uid = some r)
    (hd : b.contactsToDelete.lookup (b.contacts r).uid = some r →
      (b'.contacts r).pendingFlags.has scheduleDelete = true →
      b'.contactsToDelete.lookup (b.contacts r).uid = some r)
    (hu : b.contactsToUpdate.lookup (b.contacts r).uid = some r →
      b'.contactsToUpdate.lookup (b.contacts r).uid = some r) : b'.Queued r := by
  refine ⟨fun h1 => ?_, fun h1 => ?_, fun h1 => ?_⟩
  · rw [huid]; exact ha (h.add (hq.add h1)) h1
  · rw [huid]; exact hd (h.delete (hq.delete h1)) h1
  · rw [huid]; exact hu (h.update (hq.update h1))

/-- The uid index loses entries, and no contact asks for more. -/
theorem Queues.quiet {b b' : Book} (h : b.Queues)
    (hu : ∀ k r, b'.uidToContact.lookup k = some r → b.uidToContact.lookup k = some r)
    (hc : ∀ r, (b'.contacts r).uid = (b.contacts r).uid
      ∧ Quiet (b.contacts r).pendingFlags (b'.contacts r).pendingFlags)
    (ha : b'.contactsToAdd = b.contactsToAdd) (hd : b'.contactsToDelete = b.contactsToDelete)
    (hup : b'.contactsToUpdate = b.contactsToUpdate) : b'.Queues := by
  refine ⟨fun k r hk => (hc r).1.trans (h.uid k r (hu k r hk)), fun k r hk => ?_⟩
  refine (h.queued k r (hu k r hk)).mono (hc r).1 (hc r).2 ?_ ?_ ?_
  · rw [ha]; exact fun h1 _ => h1
  · rw [hd]; exact fun h1 _ => h1
  · rw [hup]; exact id

theorem Queues.modify {b : Book} (h : b.Queues) {r : Nat} {f : Contact → Contact}
    (huid : (f (b.contacts r)).uid = (b.contacts r).uid)
    (hq : Quiet (b.contacts r).pendingFlags (f (b.contacts r)).pendingFlags) :
    (b.modify r f).Queues := by
  refine h.quiet (fun _ _ hk => hk) (fun r' => ?_) rfl rfl rfl
  by_cases he : r' = r
  · subst he
    rw [modify_contacts_self]
    exact ⟨huid, hq⟩
  · rw [modify_contacts_of_ne he]
    exact ⟨rfl, .refl _⟩

/-- Only the handle index and the name index differ. -/
theorem Queues.of_same {b b' : Book} (h : b.Queues) (hc : b'.contacts = b.contacts)
    (hu : b'.uidToContact = b.uidToContact) (ha : b'.contactsToAdd = b.contactsToAdd)
    (hd : b'.contactsToDelete = b.contactsToDelete)
    (hup : b'.contactsToUpdate = b.contactsToUpdate) : b'.Queues :=
  h.quiet (fun _ _ hk => by rw [← hu]; exact hk) (fun r => by rw [hc]; exact ⟨rfl, .refl _⟩) ha hd hup

/-- A contact is entered under its uid, and the tables have what it asks for. -/
theorem Queues.enter {b b' : Book} (h : b.Queues) {r : Nat} {u : String}
    (hu : ∀ k x, b'.uidToContact.lookup k = some x → (k = u ∧ x = r)
      ∨ (k ≠ u ∧ b.uidToContact.lookup k = some x))
    (hown : ∀ k, b.uidToContact.lookup k = some r → k = u)
    (hr : (b'.contacts r).uid = u) (hq : b'.Queued r)
    (hold : ∀ x k, x ≠ r → k ≠ u → b'.uidToContact.lookup k = some x →
      b'.contacts x = b.contacts x
        ∧ b'.contactsToAdd.lookup k = b.contactsToAdd.lookup k
        ∧ b'.contactsToDelete.lookup k = b.contactsToDelete.lookup k
        ∧ b'.contactsToUpdate.lookup k = b.contactsToUpdate.lookup k) : b'.Queues := by
  have hcase : ∀ k x, b'.uidToContact.lookup k = some x →
      (b'.contacts x).uid = k ∧ b'.Queued x := by
    intro k x hk
    rcases hu k x hk with ⟨rfl, rfl⟩ | ⟨hne, hk₀⟩
    · exact ⟨hr, hq⟩
    · have huid := h.uid k x hk₀
      have hx : x ≠ r := by
        rintro rfl
        exact hne (hown k hk₀)
      obtain ⟨hc, ha, hd, hup⟩ := hold x k hx hne hk
      rw [← huid] at ha hd hup
      refine ⟨by rw [hc]; exact huid, ?_⟩
      refine (h.queued k x hk₀).mono (by rw [hc]) (by rw [hc]; exact .refl _) ?_ ?_ ?_
      · rw [ha]; exact fun h1 _ => h1
      · rw [hd]; exact fun h1 _ => h1
      · rw [hup]; exact id
  exact ⟨fun k x hk => (hcase k x hk).1, fun k x hk => (hcase k x hk).2⟩

end Book

/-! ## The edits that can forget something -/

/-- The entry that a completed request takes out of a work table is not needed any more. -/
def Book.Releases (b : Book) (r : Nat) (bit : Flags) : Prop :=
  ∀ x, b.uidToContact.lookup (b.contacts r).uid = some x → x ≠ r →
    (b.contacts x).pendingFlags.has bit = false

/-- The contact that a completed request is merged into: the server's name is already in use. -/
def Book.mergeTarget (b : Book) (r : Nat) (c : Contact) : Option Nat :=
  if c.name = (b.contacts r).name then none else b.nameToContact.lookup c.name

/-- What must be true of an edit for it not to forget a pending operation. -/
def Edit.KeepsQueues (b : Book) : Edit → Prop
  | .contactAdded _ cIn =>
    ∀ r, b.nameToContact.lookup cIn.name = some r → b.Live r ∨ b.Queued r
  | .touch r (.submitted _ unblocked) =>
    b.Live r → (b.contacts r).flags.has deny = true →
      unblocked = true ∨ b.contactsToUpdate.lookup (b.contacts r).uid = some r
  | .createContact c => c.pendingFlags.has scheduleUpdateFlags = false
  | .addDone r c =>
    match b.mergeTarget r c with
    | some dest =>
      (b.Live dest ∨ b.Queued dest)
        ∧ (c.pendingFlags.has scheduleUnblock = true →
          b.contactsToUpdate.lookup (b.contacts dest).uid = some dest)
        ∧ (dest ≠ r → (b.contacts dest).uid = (b.contacts r).uid →
          (b.contacts dest).pendingFlags.has scheduleAdd = false)
    | none => b.Releases r scheduleAdd
  | .removalDone r => b.Releases r scheduleDelete
  | _ => True

instance (b : Book) (r : Nat) (bit : Flags) : Decidable (b.Releases r bit) :=
  decidable_of_iff (∀ x ∈ b.uidToContact.lookup (b.contacts r).uid, x ≠ r →
      (b.contacts x).pendingFlags.has bit = false)
    Iff.rfl

instance (b : Book) : DecidablePred (Edit.KeepsQueues b)
  | .contactAdded _ cIn => inferInstanceAs (Decidable
      (∀ r ∈ b.nameToContact.lookup cIn.name, b.Live r ∨ b.Queued r))
  | .touch r t =>
    match t with
    | .submitted _ unblocked => inferInstanceAs (Decidable
        (b.Live r → (b.contacts r).flags.has deny = true →
          unblocked = true ∨ b.contactsToUpdate.lookup (b.contacts r).uid = some r))
    | .clearDelete => .isTrue trivial
    | .updated _ => .isTrue trivial
    | .removeTokens _ => .isTrue trivial
    | .masterUidsStored => .isTrue trivial
    | .nothingPending => .isTrue trivial
  | .createContact c => inferInstanceAs (Decidable (c.pendingFlags.has scheduleUpdateFlags = false))
  | .addDone r c => by
    unfold Edit.KeepsQueues
    dsimp only
    split <;> infer_instance
  | .removalDone r => inferInstanceAs (Decidable (b.Releases r scheduleDelete))
  | .importContact _ => .isTrue trivial
  | .memberReported _ _ => .isTrue trivial
  | .mergeByHandle _ _ => .isTrue trivial
  | .forgetHandles => .isTrue trivial
  | .deleteContacts _ => .isTrue trivial
  | .modified _ _ _ _ _ => .isTrue trivial
  | .scheduleRemoval _ => .isTrue trivial
  | .addFailed _ _ => .isTrue trivial

namespace Book

/-! ## One edit -/

theorem queues_importContact {b : Book} (h : b.Queues) (ha : b.Allocated) (c : Contact) :
    (b.importContact c).Queues := by
  have hnew : (b.importContact c).contacts b.next = c.imported := alloc_contacts_next b _
  have himp : c.imported.uid = c.uid ∧ c.imported.pendingFlags = c.pendingFlags := by
    unfold Contact.imported
    split <;> exact ⟨rfl, rfl⟩
  have hsame : ∀ (t : Table String Nat) (due : Bool) (k : String), k ≠ c.uid →
      (importInto t due c.uid b.next).lookup k = t.lookup k := by
    intro t due k hk
    unfold importInto
    split
    · exact AList.lookup_insert_ne hk
    · rfl
  have hdue : ∀ (t : Table String Nat) {due : Bool}, due = true →
      (importInto t due c.uid b.next).lookup c.uid = some b.next := by
    intro t due hd
    unfold importInto
    rw [if_pos hd]
    exact AList.lookup_insert _
  refine h.enter (r := b.next) (u := c.uid) (fun k x hk => ?_) (fun k hk => ?_) ?_ ?_
    (fun x k hx hne hk => ?_)
  · rcases Table.lookup_insert_eq_some.mp hk with ⟨h1, h2⟩ | h1
    · exact .inl ⟨h1, h2.symm⟩
    · exact .inr h1
  · exact absurd (ha.uid k _ hk) (Nat.lt_irrefl _)
  · rw [hnew]; exact himp.1
  · refine ⟨fun hp => ?_, fun hp => ?_, fun hp => ?_⟩ <;> rw [hnew, himp.2] at hp <;>
      rw [hnew, himp.1]
    · exact hdue _ hp
    · exact hdue _ hp
    · unfold updateBits at hp
      rw [BitVec.has_or] at hp
      exact hdue _ hp
  · exact ⟨alloc_contacts_of_ne hx, hsame _ _ _ hne, hsame _ _ _ hne, hsame _ _ _ hne⟩

/-- A new contact of the roster asks for nothing. -/
theorem queued_of_plain {b : Book} {r : Nat} (h : (b.contacts r).Plain) : b.Queued r := by
  have hno : ∀ {m : Flags} {P : Prop}, scheduleUpdateVariants &&& m = 0#32 →
      (b.contacts r).pendingFlags.has m = true → P := fun hm hp =>
    absurd ((h.has_pending hm).symm.trans hp) (by decide)
  exact ⟨hno (by decide), hno (by decide), hno (by decide)⟩

theorem queues_enterHandle {b : Book} (h : b.Queues) (x r : Nat) : (b.enterHandle x r).Queues := by
  unfold Book.enterHandle
  split
  · exact h
  · exact h.of_same rfl rfl rfl rfl rfl

theorem queues_memberReported {b : Book} (h : b.Queues) (ha : b.Allocated) (pathSuffix : String)
    {cIn : Contact} (hin : cIn.Plain) : (b.memberReported pathSuffix cIn).Queues := by
  unfold memberReported
  split
  · exact queues_enterHandle (h.modify (f := cIn.seen) rfl (.refl _)) _ _
  · refine queues_enterHandle ?_ _ _
    have hnew : (b.memberFound pathSuffix cIn).contacts b.next
        = { cIn.dup with uid := generateUid pathSuffix b.uidToContact cIn.name } :=
      alloc_contacts_next b _
    refine h.enter (r := b.next) (u := generateUid pathSuffix b.uidToContact cIn.name)
      (fun k x hk => ?_) (fun k hk => ?_) ?_ ?_ (fun x k hx hne hk => ?_)
    · rcases Table.lookup_insert_eq_some.mp hk with ⟨h1, h2⟩ | h1
      · exact .inl ⟨h1, h2.symm⟩
      · exact .inr h1
    · exact absurd (ha.uid k _ hk) (Nat.lt_irrefl _)
    · rw [hnew]
    · refine queued_of_plain ?_
      rw [hnew]
      exact ⟨hin.dup.flags, hin.dup.pending⟩
    · exact ⟨alloc_contacts_of_ne hx, rfl, rfl, rfl⟩

theorem queues_contactAdded {b : Book} (h : b.Queues) (ha : b.Allocated) {pathSuffix : String}
    {cIn : Contact} (hin : cIn.Plain)
    (hok : (Edit.contactAdded pathSuffix cIn).KeepsQueues b) :
    (b.contactAdded pathSuffix cIn).Queues := by
  unfold contactAdded
  split
  · rename_i r hr
    -- the contact is entered under its uid again, so it has to be queued already
    have hqueued : b.Queued r := by
      rcases hok r hr with hl | hq
      · exact h.live hl
      · exact hq
    have hself : (b.contactConfirmed r cIn).contacts r = cIn.confirmed (b.contacts r) :=
      modify_contacts_self b r _
    have huid : (cIn.confirmed (b.contacts r)).uid = (b.contacts r).uid := rfl
    refine h.enter (r := r) (u := (b.contacts r).uid) (fun k x hk => ?_) (fun k hk => ?_) ?_ ?_
      (fun x k hx hne hk => ?_)
    · have hk' : (b.uidToContact.insert ((b.contactConfirmed r cIn).contacts r).uid r).lookup k
          = some x := hk
      rw [hself, huid] at hk'
      rcases Table.lookup_insert_eq_some.mp hk' with ⟨h1, h2⟩ | h1
      · exact .inl ⟨h1, h2.symm⟩
      · exact .inr h1
    · exact (h.uid k r hk).symm
    · exact (congrArg Contact.uid hself).trans huid
    · have hquiet : Quiet (b.contacts r).pendingFlags
          (((b.contactConfirmed r cIn).enterAdded r).contacts r).pendingFlags := by
        show Quiet _ ((b.contactConfirmed r cIn).contacts r).pendingFlags
        rw [hself]
        exact .and _ _
      exact hqueued.mono ((congrArg Contact.uid hself).trans huid) hquiet (fun h1 _ => h1)
        (fun h1 _ => h1) id
    · exact ⟨modify_contacts_of_ne hx, rfl, rfl, rfl⟩
  · have hnew : (b.contactFound pathSuffix cIn).contacts b.next
        = { cIn.dup with uid := generateUid pathSuffix b.uidToContact cIn.name } :=
      alloc_contacts_next b _
    refine h.enter (r := b.next) (u := generateUid pathSuffix b.uidToContact cIn.name)
      (fun k x hk => ?_) (fun k hk => ?_) ?_ ?_ (fun x k hx hne hk => ?_)
    · have hk' : (b.uidToContact.insert ((b.contactFound pathSuffix cIn).contacts b.next).uid
          b.next).lookup k = some x := hk
      rw [hnew] at hk'
      rcases Table.lookup_insert_eq_some.mp hk' with ⟨h1, h2⟩ | h1
      · exact .inl ⟨h1, h2.symm⟩
      · exact .inr h1
    · exact absurd (ha.uid k _ hk) (Nat.lt_irrefl _)
    · exact congrArg Contact.uid hnew
    · refine queued_of_plain (b := (b.contactFound pathSuffix cIn).enterAdded b.next) ?_
      show ((b.contactFound pathSuffix cIn).contacts b.next).Plain
      rw [hnew]
      exact ⟨hin.dup.flags, hin.dup.pending⟩
    · exact ⟨alloc_contacts_of_ne hx, rfl, rfl, rfl⟩

/-- One contact is changed where it is, and the tables have what it asks for. -/
theorem Queues.touched {b : Book} (h : b.Queues) {r : Nat} {f : Contact → Contact}
    (huid : (f (b.contacts r)).uid = (b.contacts r).uid)
    (hq : b.Live r → (b.modify r f).Queued r) : (b.modify r f).Queues := by
  have hcase : ∀ k x, b.uidToContact.lookup k = some x →
      ((b.modify r f).contacts x).uid = k ∧ (b.modify r f).Queued x := by
    intro k x hk
    have hkey := h.uid k x hk
    by_cases he : x = r
    · subst he
      rw [modify_contacts_self, huid]
      exact ⟨hkey, hq (by unfold Live; rw [hkey]; exact hk)⟩
    · have hc : (b.modify r f).contacts x = b.contacts x := modify_contacts_of_ne he
      refine ⟨by rw [hc]; exact hkey, ?_⟩
      exact (h.queued k x hk).mono (by rw [hc]) (by rw [hc]; exact .refl _) (fun h1 _ => h1)
        (fun h1 _ => h1) id
  exact ⟨fun k x hk => (hcase k x hk).1, fun k x hk => (hcase k x hk).2⟩

theorem queues_submitted {b : Book} (h : b.Queues) {r : Nat} {c : Contact} {unblocked : Bool}
    (hok : (Edit.touch r (.submitted c unblocked)).KeepsQueues b) :
    (b.modify r (Touch.submitted c unblocked).apply).Queues := by
  have huid : ((Touch.submitted c unblocked).apply (b.contacts r)).uid = (b.contacts r).uid :=
    (Contact.touch_keeps (.submitted c unblocked) _).1
  by_cases hdeny : (b.contacts r).flags.has deny = true
  · refine h.touched huid fun hl => ?_
    have hq := h.live hl
    have hupdated := Contact.quiet_updated ((b.contacts r).mergeSubmitted c) unblocked
    have hmerged := Contact.mergeSubmitted_pending (b.contacts r) c
    refine ⟨fun hp => ?_, fun hp => ?_, fun hp => ?_⟩ <;> rw [modify_contacts_self] at hp ⊢ <;>
      rw [huid]
    · exact hq.add (hmerged.1 (hupdated.add hp))
    · exact hq.delete (hmerged.2 (hupdated.delete hp))
    · -- an unblock was made pending: it is done at once, or was queued before
      rcases hok hl hdeny with rfl | hlook
      · exact absurd ((Contact.updated_done _).symm.trans hp) (by decide)
      · exact hlook
  · have hdeny' : (b.contacts r).flags.has deny = false := by simpa using hdeny
    exact h.modify huid ((Contact.quiet_mergeSubmitted hdeny').trans (Contact.quiet_updated _ _))

theorem queues_createContact {b : Book} (h : b.Queues) (ha : b.Allocated) {c : Contact}
    (hc : c.Created) (hok : (Edit.createContact c).KeepsQueues b) : (b.createContact c).Queues := by
  have hbook : b.createContact c =
      { b.alloc c with
        uidToContact := b.uidToContact.insert c.uid b.next
        nameToContact := b.nameToContact.insert c.name b.next
        contactsToAdd := b.contactsToAdd.insert c.uid b.next } := by
    unfold createContact
    dsimp only
    rw [if_pos hc.add]
    rfl
  rw [hbook]
  have hnew : (b.alloc c).contacts b.next = c := alloc_contacts_next b c
  refine h.enter (r := b.next) (u := c.uid) (fun k x hk => ?_) (fun k hk => ?_) ?_ ?_
    (fun x k hx hne hk => ?_)
  · rcases Table.lookup_insert_eq_some.mp hk with ⟨h1, h2⟩ | h1
    · exact .inl ⟨h1, h2.symm⟩
    · exact .inr h1
  · exact absurd (ha.uid k _ hk) (Nat.lt_irrefl _)
  · exact congrArg Contact.uid hnew
  · refine ⟨fun _ => ?_, fun hp => ?_, fun hp => ?_⟩ <;> dsimp only at * <;> rw [hnew] at *
    · exact AList.lookup_insert _
    · exact absurd (hc.delete.symm.trans hp) (by decide)
    · have hno : c.pendingFlags.has updateBits = false := by
        unfold updateBits
        rw [BitVec.has_or, hok, hc.unblock]
        rfl
      exact absurd (hno.symm.trans hp) (by decide)
  · exact ⟨alloc_contacts_of_ne hx, AList.lookup_insert_ne hne, rfl, rfl⟩

theorem modified_work (b : Book) (r : Nat) (ec : Contact.EVCard) (vcardField : String)
    (sent stored : Bool) :
    (b.modified r ec vcardField sent stored).contactsToAdd = b.contactsToAdd
      ∧ (b.modified r ec vcardField sent stored).contactsToDelete = b.contactsToDelete
      ∧ (b.modified r ec vcardField sent stored).contactsToUpdate
        = if ((b.contacts r).updateFromEcontact ec vcardField).2.needsUpdate
          then b.contactsToUpdate.insert ((b.contacts r).updateFromEcontact ec vcardField).2.uid r
          else b.contactsToUpdate := by
  unfold modified
  dsimp only
  rw [modify_contacts_self]
  split
  · have hsent : ((if sent then (b.modify r fun c => (c.updateFromEcontact ec vcardField).2).modify r
          Contact.flagsAsked
        else b.modify r fun c => (c.updateFromEcontact ec vcardField).2).contacts r).uid
          = ((b.contacts r).updateFromEcontact ec vcardField).2.uid := by
      split
      · rw [modify_contacts_self, modify_contacts_self]; rfl
      · rw [modify_contacts_self]
    unfold scheduleUpdate
    rw [hsent]
    cases sent <;> cases stored <;> exact ⟨rfl, rfl, rfl⟩
  · exact ⟨rfl, rfl, rfl⟩

/-- A vcard makes no more pending than an update, which is queued with it. -/
theorem queues_modified {b : Book} (h : b.Queues) {r : Nat} {k : String}
    (hr : b.uidToContact.lookup k = some r)
    (hwithin : (b.contacts r).flags &&& ~~~bookFlags = 0#32) (ec : Contact.EVCard)
    (vcardField : String) (sent stored : Bool) : (b.modified r ec vcardField sent stored).Queues := by
  have hd := Contact.decoded_updateFromEcontact (b.contacts r) ec vcardField
  obtain ⟨hother, pending, hself, hsub⟩ := modified_onlyAt b r ec vcardField sent stored
  obtain ⟨-, -, hu⟩ := modified_tables b r ec vcardField sent stored
  obtain ⟨hta, htd, htu⟩ := modified_work b r ec vcardField sent stored
  have huid : ((b.modified r ec vcardField sent stored).contacts r).uid = (b.contacts r).uid := by
    rw [hself]; exact hd.uid
  have hpending : ((b.modified r ec vcardField sent stored).contacts r).pendingFlags = pending := by
    rw [hself]
  rw [hd.uid] at htu
  -- whatever else is pending afterwards would be a bit of the flags
  have hno : ∀ {m : Flags} {P : Prop}, Contact.cardBits &&& m = 0#32 → bookFlags &&& m = 0#32 →
      pending.has m = true → P := fun hm hb hp =>
    absurd ((BitVec.has_false_of_within hwithin hb).symm.trans (hd.pending _ hm (hsub _ hp)))
      (by decide)
  refine h.enter (r := r) (u := (b.contacts r).uid) (fun x y hy => ?_)
    (fun x hx => (h.uid x r hx).symm) huid ?_ (fun x k hx hne hk => ?_)
  · rw [hu] at hy
    by_cases hx : x = (b.contacts r).uid
    · refine .inl ⟨hx, ?_⟩
      rw [hx, h.uid k r hr, hr] at hy
      exact (Option.some.inj hy).symm
    · exact .inr ⟨hx, hy⟩
  · refine ⟨fun hp => ?_, fun hp => ?_, fun hp => ?_⟩ <;> rw [hpending] at hp
    · exact hno (by decide) (by decide) hp
    · exact hno (by decide) (by decide) hp
    · rw [huid, htu, if_pos]
      · exact AList.lookup_insert _
      · have hup := hsub _ hp
        unfold updateBits at hup
        rw [BitVec.has_or] at hup
        unfold Contact.needsUpdate
        rw [hup]
        rfl
  · refine ⟨hother x hx, by rw [hta], by rw [htd], ?_⟩
    rw [htu]
    split
    · exact AList.lookup_insert_ne hne
    · rfl

theorem queues_scheduleRemoval {b : Book} (h : b.Queues) {r : Nat} {k : String}
    (hr : b.uidToContact.lookup k = some r) : (b.scheduleRemoval r).Queues := by
  have hself : (b.modify r Contact.markDelete).contacts r = (b.contacts r).markDelete :=
    modify_contacts_self b r _
  have huid : ((b.contacts r).markDelete).uid = (b.contacts r).uid := rfl
  have htd : (b.scheduleRemoval r).contactsToDelete
      = b.contactsToDelete.insert (b.contacts r).uid r := by
    unfold scheduleRemoval
    dsimp only
    rw [hself]
    rfl
  have hq := h.queued k r hr
  have hset : ∀ {m : Flags}, scheduleDelete &&& m = 0#32 →
      ((b.contacts r).markDelete).pendingFlags.has m = true → (b.contacts r).pendingFlags.has m = true :=
    fun hm hp => (BitVec.or_has_of_disjoint hm).symm.trans hp
  refine h.enter (r := r) (u := (b.contacts r).uid) (fun x y hy => ?_)
    (fun x hx => (h.uid x r hx).symm) ((congrArg Contact.uid hself).trans huid) ?_
    (fun x k hx hne hk => ?_)
  · have hy' : b.uidToContact.lookup x = some y := hy
    by_cases hx : x = (b.contacts r).uid
    · refine .inl ⟨hx, ?_⟩
      rw [hx, h.uid k r hr, hr] at hy'
      exact (Option.some.inj hy').symm
    · exact .inr ⟨hx, hy'⟩
  · have hc : (b.scheduleRemoval r).contacts r = (b.contacts r).markDelete := hself
    refine ⟨fun hp => ?_, fun hp => ?_, fun hp => ?_⟩ <;> rw [hc] at hp ⊢
    · exact hq.add (hset (by decide) hp)
    · rw [htd]; exact AList.lookup_insert _
    · exact hq.update (hset (by decide) hp)
  · refine ⟨modify_contacts_of_ne hx, rfl, ?_, rfl⟩
    rw [htd]; exact AList.lookup_insert_ne hne

/-! ## Requests that phase 3 completes -/

theorem queues_removalDone {b : Book} (h : b.Queues) {r : Nat}
    (hok : (Edit.removalDone r).KeepsQueues b) :
    ((b.modify r Contact.clearDelete).unscheduleDelete r).Queues := by
  have hmod : (b.modify r Contact.clearDelete).Queues := h.modify rfl (.and _ _)
  have hself : (b.modify r Contact.clearDelete).contacts r = (b.contacts r).clearDelete :=
    modify_contacts_self b r _
  refine ⟨hmod.uid, fun k x hk => ?_⟩
  have hq := hmod.queued k x hk
  refine hq.mono rfl (.refl _) (fun h1 _ => h1) (fun h1 hp => ?_) id
  unfold unscheduleDelete
  dsimp only
  rw [hself]
  refine (AList.lookup_erase_ne fun heq => ?_).trans h1
  -- a contact with the same uid has no removal pending
  have hx : b.uidToContact.lookup (b.contacts r).uid = some x := by
    have hkey := hmod.uid k x hk
    rw [← hkey, heq] at hk
    exact hk
  by_cases he : x = r
  · subst he
    have hp' : ((b.modify x Contact.clearDelete).contacts x).pendingFlags.has scheduleDelete = true := hp
    rw [hself] at hp'
    have hclear : ((b.contacts x).clearDelete).pendingFlags.has scheduleDelete = false :=
      BitVec.clear_has_self _ _
    exact absurd (hclear.symm.trans hp') (by decide)
  · have hno := hok x hx he
    have hp' : ((b.modify r Contact.clearDelete).contacts x).pendingFlags.has scheduleDelete = true := hp
    rw [modify_contacts_of_ne he] at hp'
    exact absurd (hno.symm.trans hp') (by decide)

/-- What becomes of the book where a completed request is merged into another contact. -/
structure Merged (b : Book) (r : Nat) (c : Contact) (dest : Nat) (b' : Book) : Prop where
  contacts : b'.contacts = ((b.modify r fun _ => c.clearAdd).modify dest
    fun d => d.mergeFrom c.clearAdd).contacts
  uid : b'.uidToContact = (b.uidToContact.erase c.uid).insert (b'.contacts dest).uid dest
  toAdd : b'.contactsToAdd = b.contactsToAdd.erase c.uid
  toDelete : b'.contactsToDelete = b.contactsToDelete
  toUpdate : b'.contactsToUpdate = b.contactsToUpdate

/-- What becomes of the book where a completed request is not merged. -/
structure Entered (b : Book) (r : Nat) (c : Contact) (b' : Book) : Prop where
  contacts : b'.contacts = (b.modify r fun _ => c.clearAdd).contacts
  uid : b'.uidToContact = b.uidToContact
  toAdd : b'.contactsToAdd = b.contactsToAdd.erase c.uid
  toDelete : b'.contactsToDelete = b.contactsToDelete
  toUpdate : b'.contactsToUpdate = b.contactsToUpdate

theorem addDone_spec (b : Book) (r : Nat) (c : Contact) :
    (b.mergeTarget r c = none ∧ Entered b r c (b.addDone r c))
      ∨ ∃ dest, b.mergeTarget r c = some dest ∧ Merged b r c dest (b.addDone r c) := by
  have hself : (b.modify r fun _ => c.clearAdd).contacts r = c.clearAdd := modify_contacts_self b r _
  have huid : c.clearAdd.uid = c.uid := rfl
  unfold mergeTarget
  by_cases heq : c.name = (b.contacts r).name
  · rw [if_pos heq, addDone_same heq]
    refine .inl ⟨rfl, rfl, rfl, ?_, rfl, rfl⟩
    unfold unscheduleAdd
    dsimp only
    rw [hself]; rfl
  · rw [if_neg heq]
    cases hl : b.nameToContact.lookup c.name with
    | none =>
      rw [addDone_free heq hl]
      refine .inl ⟨rfl, rfl, rfl, ?_, rfl, rfl⟩
      unfold unscheduleAdd
      dsimp only
      have hr : ((((b.modify r fun _ => c.clearAdd).forgetName (b.contacts r).name).enterName r).contacts
          r).uid = c.uid := (congrArg Contact.uid hself).trans huid
      rw [hr]; rfl
    | some dest =>
      rw [addDone_merged heq hl]
      refine .inr ⟨dest, rfl, ?_⟩
      -- the contact merged in is found under the uid it had all along
      have hcon := mergeContacts_contacts b r dest c (b.contacts r).name
      have hr : (((b.modify r fun _ => c.clearAdd).modify dest
          fun d => d.mergeFrom c.clearAdd).contacts r).uid = c.uid := by
        by_cases he : r = dest
        · subst he
          rw [modify_contacts_self, (Contact.mergeFrom_keeps _ _).1, hself]
          rfl
        · rw [modify_contacts_of_ne he, hself]
          rfl
      have hmid : ∀ x, (((b.modify r fun _ => c.clearAdd).forgetName (b.contacts r).name).modify dest
          fun d => d.mergeFrom (((b.modify r fun _ => c.clearAdd).forgetName
            (b.contacts r).name).contacts r)).contacts x
          = ((b.modify r fun _ => c.clearAdd).modify dest fun d => d.mergeFrom c.clearAdd).contacts x := by
        intro x
        show ((b.modify r fun _ => c.clearAdd).modify dest
          fun d => d.mergeFrom ((b.modify r fun _ => c.clearAdd).contacts r)).contacts x = _
        rw [hself]
      refine ⟨hcon, ?_, ?_, ?_, ?_⟩
      · show (mergeContacts _ dest r).uidToContact
          = (b.uidToContact.erase c.uid).insert ((mergeContacts _ dest r).contacts dest).uid dest
        rw [hcon]
        unfold mergeContacts reenter
        dsimp only
        rw [deleteContact_uid, deleteContact_contacts, hmid, hmid, hr]
        rfl
      · unfold unscheduleAdd
        dsimp only
        rw [hcon, hr]
        unfold mergeContacts reenter
        dsimp only
        rw [deleteContact_toAdd]
        rfl
      · show (mergeContacts _ dest r).contactsToDelete = _
        unfold mergeContacts reenter
        dsimp only
        rw [deleteContact_toDelete]
        rfl
      · show (mergeContacts _ dest r).contactsToUpdate = _
        unfold mergeContacts reenter
        dsimp only
        rw [deleteContact_toUpdate]
        rfl

theorem queues_entered {b b' : Book} (h : b.Queues) {r : Nat} {c : Contact}
    (ha : Contact.Asked (b.contacts r) c) (hs : Entered b r c b') (hok : b.Releases r scheduleAdd) :
    b'.Queues := by
  have hmod : (b.modify r fun _ => c.clearAdd).Queues :=
    h.modify ha.uid (ha.quiet.trans (.and _ _))
  have hself : b'.contacts r = c.clearAdd := by rw [hs.contacts, modify_contacts_self]
  refine ⟨fun k x hk => ?_, fun k x hk => ?_⟩ <;> rw [hs.uid] at hk
  · rw [hs.contacts]
    exact hmod.uid k x hk
  · have hkey := h.uid k x hk
    refine (hmod.queued k x hk).mono (by rw [hs.contacts]) (by rw [hs.contacts]; exact .refl _)
      (fun h1 hp => ?_) (fun h1 _ => by rw [hs.toDelete]; exact h1) (fun h1 => by rw [hs.toUpdate]; exact h1)
    have huid : ((b.modify r fun _ => c.clearAdd).contacts x).uid = k := hmod.uid k x hk
    rw [hs.toAdd]
    refine (AList.lookup_erase_ne fun heq => ?_).trans h1
    have hx : b.uidToContact.lookup (b.contacts r).uid = some x := by
      rw [← ha.uid, ← heq, huid]; exact hk
    by_cases he : x = r
    · subst he
      rw [hself] at hp
      have hclear : c.clearAdd.pendingFlags.has scheduleAdd = false := BitVec.clear_has_self _ _
      exact absurd (hclear.symm.trans hp) (by decide)
    · rw [hs.contacts, modify_contacts_of_ne he] at hp
      exact absurd ((hok x hx he).symm.trans hp) (by decide)

theorem queues_merged {b b' : Book} (h : b.Queues) {r dest : Nat} {c : Contact}
    (ha : Contact.Asked (b.contacts r) c) (hs : Merged b r c dest b')
    (hdest : b.Live dest ∨ b.Queued dest)
    (hunblock : c.pendingFlags.has scheduleUnblock = true →
      b.contactsToUpdate.lookup (b.contacts dest).uid = some dest)
    (hadd : dest ≠ r → (b.contacts dest).uid = (b.contacts r).uid →
      (b.contacts dest).pendingFlags.has scheduleAdd = false) : b'.Queues := by
  have hq : b.Queued dest := hdest.elim h.live id
  -- `dest` before it takes over what is pending for the other one
  have hbefore : ∃ d : Contact, b'.contacts dest = d.mergeFrom c.clearAdd ∧ d.uid = (b.contacts dest).uid
      ∧ Quiet (b.contacts dest).pendingFlags d.pendingFlags
      ∧ (dest = r → d.pendingFlags.has scheduleAdd = false) := by
    refine ⟨_, by rw [hs.contacts, modify_contacts_self], ?_⟩
    by_cases he : dest = r
    · subst he
      rw [modify_contacts_self]
      exact ⟨ha.uid, ha.quiet.trans (.and _ _), fun _ => BitVec.clear_has_self _ _⟩
    · rw [modify_contacts_of_ne he]
      exact ⟨rfl, .refl _, fun heq => absurd heq he⟩
  obtain ⟨d, hd, hduid, hdquiet, hdadd⟩ := hbefore
  have huid : (b'.contacts dest).uid = (b.contacts dest).uid := by
    rw [hd, (Contact.mergeFrom_keeps _ _).1, hduid]
  have hpend := Contact.mergeFrom_pending d c.clearAdd
  refine h.enter (r := dest) (u := (b.contacts dest).uid) (fun k x hk => ?_)
    (fun k hk => (h.uid k dest hk).symm) huid ?_ (fun x k hx hne hk => ?_)
  · rw [hs.uid, huid] at hk
    rcases Table.lookup_insert_eq_some.mp hk with ⟨h1, h2⟩ | ⟨h1, h2⟩
    · exact .inl ⟨h1, h2.symm⟩
    · exact .inr ⟨h1, (Table.lookup_erase_eq_some.mp h2).2⟩
  · refine ⟨fun hp => ?_, fun hp => ?_, fun hp => ?_⟩ <;> rw [hd] at hp <;> rw [huid]
    · have hp' := hpend.1 hp
      have hne : dest ≠ r := fun he => absurd ((hdadd he).symm.trans hp') (by decide)
      have hold := hdquiet.add hp'
      rw [hs.toAdd, ha.uid]
      refine (AList.lookup_erase_ne fun heq => ?_).trans (hq.add hold)
      exact absurd ((hadd hne heq).symm.trans hold) (by decide)
    · rw [hs.toDelete]; exact hq.delete (hdquiet.delete (hpend.2 hp))
    · rw [hs.toUpdate]
      by_cases hu : c.pendingFlags.has scheduleUnblock = true
      · exact hunblock hu
      · have hu' : c.clearAdd.pendingFlags.has scheduleUnblock = false := by
          refine BitVec.and_has_false ?_
          simpa using hu
        exact hq.update (hdquiet.update ((Contact.quiet_mergeFrom hu').update hp))
  · -- whoever is left is not the contact merged in, whose uid has left the index
    rw [hs.uid, huid] at hk
    have hk' := Table.lookup_erase_eq_some.mp ((AList.lookup_insert_ne hne).symm.trans hk)
    have hxr : x ≠ r := by
      rintro rfl
      exact hk'.1 ((h.uid k x hk'.2).symm.trans ha.uid.symm)
    refine ⟨?_, ?_, by rw [hs.toDelete], by rw [hs.toUpdate]⟩
    · rw [hs.contacts, modify_contacts_of_ne hx, modify_contacts_of_ne hxr]
    · rw [hs.toAdd]
      exact AList.lookup_erase_ne hk'.1

/-- **An edit that forgets nothing keeps everything queued.** -/
theorem queues_apply {b : Book} {e : Edit} (h : b.Queues) (ha : b.Allocated) (hp : e.Proper b)
    (hwithin : ∀ r < b.next, (b.contacts r).flags &&& ~~~bookFlags = 0#32)
    (hok : e.KeepsQueues b) : (b.apply e).Queues := by
  cases e with
  | importContact c => exact queues_importContact h ha c
  | memberReported pathSuffix cIn => exact queues_memberReported h ha pathSuffix hp
  | contactAdded pathSuffix cIn => exact queues_contactAdded h ha hp hok
  | mergeByHandle f cIn =>
    unfold apply mergeByHandle
    dsimp only
    split
    · exact h.modify (Contact.copy_keeps f cIn _).1 (Contact.quiet_copy f cIn _)
    · exact h
  | forgetHandles => exact h.of_same rfl rfl rfl rfl rfl
  | touch r t =>
    cases t with
    | submitted c unblocked => exact queues_submitted h hok
    | clearDelete => exact h.modify rfl (Touch.quiet (t := .clearDelete) (by simp) _)
    | updated unblocked =>
      exact h.modify (Contact.touch_keeps (.updated unblocked) _).1
        (Touch.quiet (t := .updated unblocked) (by simp) _)
    | removeTokens tokens =>
      exact h.modify (Contact.touch_keeps (.removeTokens tokens) _).1
        (Touch.quiet (t := .removeTokens tokens) (by simp) _)
    | masterUidsStored => exact h.modify rfl (Touch.quiet (t := .masterUidsStored) (by simp) _)
    | nothingPending => exact h.modify rfl (Touch.quiet (t := .nothingPending) (by simp) _)
  | deleteContacts rs =>
    obtain ⟨h1, h2, h3⟩ := foldl_deleteContact_work rs b
    refine h.quiet (fun k r hk => ?_) (fun r => ?_) h1 h2 h3
    · exact foldl_deleteContact_uid hk
    · have hc : (b.apply (.deleteContacts rs)).contacts = b.contacts := foldl_deleteContact_contacts rs b
      rw [hc]
      exact ⟨rfl, .refl _⟩
  | createContact c => exact queues_createContact h ha hp.2.2 hok
  | modified r ec vcardField sent stored =>
    obtain ⟨k, hk⟩ := hp
    exact queues_modified h hk (hwithin r (ha.uid k r hk)) ec vcardField sent stored
  | scheduleRemoval r =>
    obtain ⟨k, hk⟩ := hp
    have hcleared : (b.modify r Contact.nothingPending).Queues :=
      h.modify rfl (Touch.quiet (t := .nothingPending) (by simp) _)
    exact queues_scheduleRemoval hcleared hk
  | addDone r c =>
    rcases addDone_spec b r c with ⟨hnone, hs⟩ | ⟨dest, hsome, hs⟩
    · unfold Edit.KeepsQueues at hok
      dsimp only at hok
      rw [hnone] at hok
      exact queues_entered h hp hs hok
    · unfold Edit.KeepsQueues at hok
      dsimp only at hok
      rw [hsome] at hok
      exact queues_merged h hp hs hok.1 hok.2.1 hok.2.2
  | addFailed r c =>
    exact h.modify (f := fun _ => c) (Contact.Asked.uid hp) (Contact.Asked.quiet hp)
  | removalDone r => exact queues_removalDone h hok

/-! ## Runs -/

/-- The flags of every contact object are flags of the book. -/
def FlagsWithin (b : Book) : Prop := ∀ r < b.next, (b.contacts r).flags &&& ~~~bookFlags = 0#32

end Book

theorem Contact.Change.within {c c' : Contact} (h : Change c c')
    (hc : c.flags &&& ~~~bookFlags = 0#32) : c'.flags &&& ~~~bookFlags = 0#32 := by
  cases h with
  | seen cIn => exact BitVec.within_and _ hc
  | confirmed hp => exact (hp.sound 0).within
  | copied f hp =>
    rcases (copy_keeps f _ c).2 with hf | hf <;> rw [hf]
    · exact hc
    · exact (hp.sound 0).within
  | touched t =>
    rcases (touch_keeps t c).2 with hf | hf <;> rw [hf]
    · exact hc
    · exact BitVec.within_and _ hc
  | decoded hd => rw [hd.flags]; exact hc
  | asked ha =>
    rcases ha.flags with hf | hf <;> rw [hf]
    · exact hc
    · exact BitVec.within_or hc (by decide)
  | mergeFrom src => rw [(mergeFrom_keeps c src).2]; exact hc
  | _ => exact hc

namespace Book

theorem flagsWithin_apply {b : Book} {e : Edit} (h : b.FlagsWithin) (hp : e.Proper b)
    (hi : e.ImportsSound) : (b.apply e).FlagsWithin := by
  intro r hr
  by_cases hold : r < b.next
  · exact (becomes_apply hp hold).inv (P := fun c : Contact => c.flags &&& ~~~bookFlags = 0#32)
      (fun hch hc => hch.within hc) (h r hold)
  · obtain ⟨-, hb⟩ := brings_apply (by omega) hr
    generalize (b.apply e).contacts r = c at hb
    cases hb with
    | imported c => exact (Contact.Sound.imported hi).within
    | reported _ => exact (hp.dup.sound 0).within
    | added _ => exact (hp.dup.sound 0).within
    | created c => exact (hp.2.2.sound).1.within

/-- Every pending operation of a contact of the uid index is in the table it belongs to. -/
def OperationsQueued (b : Book) : Prop :=
  ∀ k r, b.uidToContact.lookup k = some r →
    ((b.contacts r).pendingFlags.has scheduleAdd = true → r ∈ Table.values b.contactsToAdd)
      ∧ ((b.contacts r).pendingFlags.has scheduleDelete = true → r ∈ Table.values b.contactsToDelete)
      ∧ ((b.contacts r).pendingFlags.has scheduleUpdateFlags = true
          ∨ (b.contacts r).pendingFlags.has scheduleUnblock = true →
        r ∈ Table.values b.contactsToUpdate)

theorem Queues.operationsQueued {b : Book} (h : b.Queues) : b.OperationsQueued := by
  intro k r hr
  have hq := h.queued k r hr
  refine ⟨fun hp => Table.mem_values.mpr ⟨_, hq.add hp⟩,
    fun hp => Table.mem_values.mpr ⟨_, hq.delete hp⟩, fun hp => Table.mem_values.mpr ⟨_, hq.update ?_⟩⟩
  unfold updateBits
  rw [BitVec.has_or, Bool.or_eq_true]
  exact hp

end Book

namespace Backend

theorem queues_step {b b' : Backend} {i : Input} (htidy : b.Tidy) (h : b.book.Queues)
    (hok : EditsMeet Edit.KeepsQueues b i) (hwithin : b.book.FlagsWithin)
    (hs : b.step i = some b') : b'.book.Queues ∧ b'.book.FlagsWithin := by
  refine take_book_inv (b := b.load i.env)
    (I := fun book : Book => book.Queues ∧ book.FlagsWithin)
    (fun book ed hI ha hp hP _ => ⟨?_, ?_⟩) (htidy.sane.load i.env) ⟨h, hwithin⟩
    (hok.and (edits_importsSound (b := b.load i.env) htidy.sound.db i.event)) hs
  · exact Book.queues_apply hI.1 ha hp hI.2 hP.1
  · exact Book.flagsWithin_apply hI.2 hp hP.2

/-- In a process that imports a cache of its own kind, flags never carry a bookkeeping bit. -/
theorem flagsWithin_reachable {pathSuffix vcardField : String} {db : Db} {b : Backend}
    (hcache : Cache db) (h : ReachableFrom pathSuffix vcardField db b) : b.book.FlagsWithin := by
  obtain ⟨is, hrun⟩ := h
  have hinv : b.Tidy ∧ b.book.FlagsWithin := by
    refine Machine.run_inv (M := machine) (I := fun b : Backend => b.Tidy ∧ b.book.FlagsWithin)
      (fun s i s' hI hs => ⟨tidy_step hI.1 hs, ?_⟩) hrun
      ⟨tidy_boot pathSuffix vcardField hcache.sound, fun r hr => absurd hr (Nat.not_lt_zero r)⟩
    exact take_book_inv (b := s.load i.env) (fun book ed hI _ hp hi _ => Book.flagsWithin_apply hI hp hi)
      (hI.1.sane.load i.env) hI.2 (edits_importsSound (b := s.load i.env) hI.1.sound.db i.event) hs
  exact hinv.2

/-- Offline, one contact of the roster is to be removed and another one is created. -/
def offlineWork : List Input :=
  firstSync ++ [{ event := .cl (.connectionStatusChanged none) },
    { event := .removeContact "acct-ann" }, { event := creates "bob" }]

end Backend

end EdsTelepathy
