import EdsTelepathy.Proof.Agenda
import EdsTelepathy.Proof.Token

/-!
# The three indexes agree

Every contact of the uid index is in the name index under its current name and the other
way round, and the handle index refers to such contacts by their current handles. The
argument looks at one edit at a time. An edit can only break the agreement where it gives
a contact that is already indexed another name or another handle, or where it enters a
contact over another one; `KeepsIndexes` says for every edit that it does not.
-/

namespace EdsTelepathy

namespace Book

/-- The contact is in the uid index under its own uid. -/
def Live (b : Book) (r : Nat) : Prop := b.uidToContact.lookup (b.contacts r).uid = some r

instance (b : Book) (r : Nat) : Decidable (b.Live r) :=
  inferInstanceAs (Decidable (_ = _))

/-- Neither the uid nor the name of the contact is in use. -/
def Gone (b : Book) (r : Nat) : Prop :=
  b.uidToContact.lookup (b.contacts r).uid = none ∧ b.nameToContact.lookup (b.contacts r).name = none

instance (b : Book) (r : Nat) : Decidable (b.Gone r) :=
  inferInstanceAs (Decidable (_ ∧ _))

/-- The handle index refers to the contact under this handle only, if at all. -/
def HandleOnly (b : Book) (r x : Nat) : Prop := ∀ e ∈ b.handleToContact.entries, e.2 = r → e.1 = x

instance (b : Book) (r x : Nat) : Decidable (b.HandleOnly r x) :=
  inferInstanceAs (Decidable (∀ e ∈ b.handleToContact.entries, e.2 = r → e.1 = x))

theorem HandleOnly.eq {b : Book} {r x h : Nat} (ho : b.HandleOnly r x)
    (hr : b.handleToContact.lookup h = some r) : h = x :=
  ho ⟨h, r⟩ (AList.mem_lookup_iff.mp hr) rfl

/-- **The three indexes agree.** -/
structure Agree (b : Book) : Prop where
  uid : ∀ k r, b.uidToContact.lookup k = some r →
    (b.contacts r).uid = k ∧ b.nameToContact.lookup (b.contacts r).name = some r
  name : ∀ n r, b.nameToContact.lookup n = some r → (b.contacts r).name = n ∧ b.Live r
  handle : ∀ h r, b.handleToContact.lookup h = some r →
    0 < h ∧ (b.contacts r).handle = h ∧ b.Live r

theorem agree_empty : Agree {} :=
  ⟨fun _ _ h => (by cases h), fun _ _ h => (by cases h), fun _ _ h => (by cases h)⟩

theorem Agree.live {b : Book} (h : b.Agree) {k : String} {r : Nat}
    (hr : b.uidToContact.lookup k = some r) : b.Live r := by
  obtain ⟨hk, -⟩ := h.uid k r hr
  unfold Live
  rw [hk]; exact hr

theorem Agree.nameOf {b : Book} (h : b.Agree) {r : Nat} (hr : b.Live r) :
    b.nameToContact.lookup (b.contacts r).name = some r := (h.uid _ r hr).2

/-- Whoever is in an index is live. -/
theorem Agree.held {b : Book} (h : b.Agree) {r : Nat} (hr : b.Held r) : b.Live r := by
  rcases hr with ⟨k, hk⟩ | ⟨n, hn⟩ | ⟨x, hx⟩
  · exact h.live hk
  · exact (h.name n r hn).2
  · exact (h.handle x r hx).2.2

/-! ## Edits that keep the keys -/

/-- The indexes and the keys are as before. -/
theorem Agree.of_keys {b b' : Book} (h : b.Agree) (ht : b'.handleToContact = b.handleToContact)
    (hn : b'.nameToContact = b.nameToContact) (hu : b'.uidToContact = b.uidToContact)
    (hkeys : ∀ r, (b'.contacts r).uid = (b.contacts r).uid
      ∧ (b'.contacts r).name = (b.contacts r).name
      ∧ (b'.contacts r).handle = (b.contacts r).handle) : b'.Agree := by
  have hlive : ∀ r, b.Live r → b'.Live r := by
    intro r hr
    unfold Live at hr ⊢
    rw [hu, (hkeys r).1]; exact hr
  refine ⟨fun k r hr => ?_, fun n r hr => ?_, fun x r hr => ?_⟩
  · rw [hu] at hr
    rw [(hkeys r).1, (hkeys r).2.1, hn]
    exact h.uid k r hr
  · rw [hn] at hr
    obtain ⟨h1, h2⟩ := h.name n r hr
    rw [(hkeys r).2.1]
    exact ⟨h1, hlive r h2⟩
  · rw [ht] at hr
    obtain ⟨h0, h1, h2⟩ := h.handle x r hr
    rw [(hkeys r).2.2]
    exact ⟨h0, h1, hlive r h2⟩

/-- Changing a contact that keeps its keys. -/
theorem Agree.modify {b : Book} (h : b.Agree) {r : Nat} {f : Contact → Contact}
    (hf : (f (b.contacts r)).uid = (b.contacts r).uid
      ∧ (f (b.contacts r)).name = (b.contacts r).name
      ∧ (f (b.contacts r)).handle = (b.contacts r).handle) : (b.modify r f).Agree := by
  refine h.of_keys rfl rfl rfl fun r' => ?_
  by_cases he : r' = r
  · subst he
    rw [modify_contacts_self]; exact hf
  · rw [modify_contacts_of_ne he]
    exact ⟨rfl, rfl, rfl⟩

/-- Changing the handle of a contact that the handle index knows by the new one at most. -/
theorem Agree.rehandle {b : Book} (h : b.Agree) {r : Nat} {f : Contact → Contact}
    (huid : (f (b.contacts r)).uid = (b.contacts r).uid)
    (hname : (f (b.contacts r)).name = (b.contacts r).name)
    (ho : b.HandleOnly r (f (b.contacts r)).handle) : (b.modify r f).Agree := by
  have hkeys : ∀ r', ((b.modify r f).contacts r').uid = (b.contacts r').uid
      ∧ ((b.modify r f).contacts r').name = (b.contacts r').name := by
    intro r'
    by_cases he : r' = r
    · subst he
      rw [modify_contacts_self]; exact ⟨huid, hname⟩
    · rw [modify_contacts_of_ne he]
      exact ⟨rfl, rfl⟩
  have hlive : ∀ r', b.Live r' → (b.modify r f).Live r' := by
    intro r' hr
    unfold Live at hr ⊢
    rw [(hkeys r').1]; exact hr
  refine ⟨fun k r' hr => ?_, fun n r' hr => ?_, fun x r' hr => ?_⟩
  · rw [(hkeys r').1, (hkeys r').2]
    exact h.uid k r' hr
  · obtain ⟨h1, h2⟩ := h.name n r' hr
    rw [(hkeys r').2]
    exact ⟨h1, hlive r' h2⟩
  · obtain ⟨h0, h1, h2⟩ := h.handle x r' hr
    refine ⟨h0, ?_, hlive r' h2⟩
    by_cases he : r' = r
    · subst he
      rw [modify_contacts_self]
      exact (ho.eq hr).symm
    · rw [modify_contacts_of_ne he]; exact h1

/-- Changing a contact that is in none of the indexes. -/
theorem Agree.stranger {b : Book} (h : b.Agree) {r : Nat} (f : Contact → Contact)
    (hr : ¬ b.Live r) : (b.modify r f).Agree := by
  have hout : ∀ {r'}, b.Live r' → (b.modify r f).contacts r' = b.contacts r' := fun hl =>
    modify_contacts_of_ne fun he => hr (by rw [← he]; exact hl)
  have hlive : ∀ {r'}, b.Live r' → (b.modify r f).Live r' := by
    intro r' hl
    unfold Live
    rw [hout hl]; exact hl
  refine ⟨fun k r' hk => ?_, fun n r' hn => ?_, fun x r' hx => ?_⟩
  · rw [hout (h.live hk)]
    exact h.uid k r' hk
  · obtain ⟨h1, h2⟩ := h.name n r' hn
    rw [hout h2]
    exact ⟨h1, hlive h2⟩
  · obtain ⟨h0, h1, h2⟩ := h.handle x r' hx
    rw [hout h2]
    exact ⟨h0, h1, hlive h2⟩

/-! ## Entering a contact -/

/-- The indexes after a new object was entered under its uid and its name. -/
theorem Agree.enter {b b' : Book} (h : b.Agree) (ha : b.Allocated) {c : Contact}
    (hsame : b.uidToContact.lookup c.uid = b.nameToContact.lookup c.name)
    (hno : ∀ r, b.uidToContact.lookup c.uid = some r → ∀ x, b.handleToContact.lookup x ≠ some r)
    (hcon : ∀ r, r ≠ b.next → b'.contacts r = b.contacts r)
    (hnew : (b'.contacts b.next).uid = c.uid ∧ (b'.contacts b.next).name = c.name)
    (ht : b'.handleToContact = b.handleToContact)
    (hn : b'.nameToContact = b.nameToContact.insert c.name b.next)
    (hu : b'.uidToContact = b.uidToContact.insert c.uid b.next) : b'.Agree := by
  have hold : ∀ {r}, b.Live r → b'.contacts r = b.contacts r := fun hl =>
    hcon _ (Nat.ne_of_lt (ha.uid _ _ hl))
  have hlive : ∀ {r}, b.Live r → (b.contacts r).uid ≠ c.uid → b'.Live r := by
    intro r hl hne
    unfold Live
    rw [hold hl, hu, Table.lookup_insert_ite, if_neg hne]
    exact hl
  have hnext : b'.Live b.next := by
    unfold Live
    rw [hu, hnew.1]
    exact AList.lookup_insert _
  refine ⟨fun k r hr => ?_, fun n r hr => ?_, fun x r hr => ?_⟩
  · rw [hu] at hr
    rcases Table.lookup_insert_eq_some.mp hr with ⟨rfl, rfl⟩ | ⟨hne, hr⟩
    · rw [hnew.2, hn]
      exact ⟨hnew.1, AList.lookup_insert _⟩
    · obtain ⟨hk, hname⟩ := h.uid k r hr
      have hl := h.live hr
      rw [hold hl, hn, Table.lookup_insert_ite]
      refine ⟨hk, ?_⟩
      split
      · rename_i heq
        -- the name would be that of the new contact, and so would the uid
        rw [heq, ← hsame] at hname
        have hkc := (h.uid _ _ hname).1
        exact absurd (hk.symm.trans hkc) hne
      · exact hname
  · rw [hn] at hr
    rcases Table.lookup_insert_eq_some.mp hr with ⟨rfl, rfl⟩ | ⟨hne, hr⟩
    · exact ⟨hnew.2, hnext⟩
    · obtain ⟨hname, hl⟩ := h.name n r hr
      rw [hold hl]
      refine ⟨hname, hlive hl fun heq => hne ?_⟩
      unfold Live at hl
      rw [heq, hsame] at hl
      exact hname.symm.trans (h.name _ _ hl).1
  · rw [ht] at hr
    obtain ⟨h0, hx, hl⟩ := h.handle x r hr
    rw [hold hl]
    refine ⟨h0, hx, hlive hl fun heq => ?_⟩
    unfold Live at hl
    rw [heq] at hl
    exact hno r hl x hr

/-- Entering a live contact under its handle. -/
theorem Agree.insertHandle {b : Book} (h : b.Agree) {r x : Nat} (h0 : 0 < x)
    (hx : (b.contacts r).handle = x) (hr : b.Live r) :
    ({ b with handleToContact := b.handleToContact.insert x r } : Book).Agree := by
  refine ⟨h.uid, h.name, fun x' r' hr' => ?_⟩
  rcases Table.lookup_insert_eq_some.mp hr' with ⟨rfl, rfl⟩ | ⟨-, hold⟩
  · exact ⟨h0, hx, hr⟩
  · exact h.handle x' r' hold

theorem Agree.enterHandle {b : Book} (h : b.Agree) {r x : Nat} (h0 : 0 < x)
    (hx : (b.contacts r).handle = x) (hr : b.Live r) : (b.enterHandle x r).Agree := by
  unfold Book.enterHandle
  split
  · exact h
  · exact h.insertHandle h0 hx hr

/-- Entering a live contact under its uid changes nothing. -/
theorem Agree.insertUid {b : Book} (h : b.Agree) {r : Nat} (hr : b.Live r) :
    ({ b with uidToContact := b.uidToContact.insert (b.contacts r).uid r } : Book).Agree := by
  have hlook : ∀ k, (b.uidToContact.insert (b.contacts r).uid r).lookup k
      = b.uidToContact.lookup k := by
    intro k
    rw [Table.lookup_insert_ite]
    split
    · rename_i heq
      rw [heq]; exact hr.symm
    · rfl
  have hlive : ∀ {r'}, b.Live r' →
      ({ b with uidToContact := b.uidToContact.insert (b.contacts r).uid r } : Book).Live r' :=
    fun hl => (hlook _).trans hl
  refine ⟨fun k r' hk => h.uid k r' ((hlook k).symm.trans hk), fun n r' hn => ?_, fun x r' hx => ?_⟩
  · obtain ⟨h1, h2⟩ := h.name n r' hn
    exact ⟨h1, hlive h2⟩
  · obtain ⟨h0, h1, h2⟩ := h.handle x r' hx
    exact ⟨h0, h1, hlive h2⟩

/-! ## Deleting contacts -/

/-- The contact is live, or its keys are free. -/
def Settled (b : Book) (r : Nat) : Prop := b.Live r ∨ b.Gone r

instance (b : Book) (r : Nat) : Decidable (b.Settled r) :=
  inferInstanceAs (Decidable (_ ∨ _))

/-- A settled contact shares its uid and its name with no other live contact. -/
theorem Agree.apart {b : Book} (h : b.Agree) {r r' : Nat} (hr : b.Settled r) (hl : b.Live r')
    (hne : r' ≠ r) : (b.contacts r').uid ≠ (b.contacts r).uid
      ∧ (b.contacts r').name ≠ (b.contacts r).name := by
  have hname := h.nameOf hl
  unfold Live at hl
  rcases hr with hlive | ⟨hu, hn⟩
  · refine ⟨fun he => hne ?_, fun he => hne ?_⟩
    · rw [he, hlive] at hl
      exact (Option.some.inj hl).symm
    · rw [he, h.nameOf hlive] at hname
      exact (Option.some.inj hname).symm
  · refine ⟨fun he => ?_, fun he => ?_⟩
    · rw [he, hu] at hl; cases hl
    · rw [he, hn] at hname; cases hname

/-- What is left of the handle index was there before, and not under the contact's handle. -/
theorem deleteContact_handle {b : Book} {r x r' : Nat}
    (h : (b.deleteContact r).handleToContact.lookup x = some r') :
    b.handleToContact.lookup x = some r'
      ∧ (0 < (b.contacts r).handle → x ≠ (b.contacts r).handle) := by
  unfold deleteContact at h
  dsimp only at h
  split at h
  · rename_i h0
    obtain ⟨hne, hold⟩ := Table.lookup_erase_eq_some.mp h
    exact ⟨hold, fun _ => hne⟩
  · rename_i h0
    exact ⟨h, fun hc => absurd hc h0⟩

theorem live_deleteContact {b : Book} {r r' : Nat} (hl : b.Live r')
    (hne : (b.contacts r').uid ≠ (b.contacts r).uid) : (b.deleteContact r).Live r' := by
  unfold Live
  rw [deleteContact_contacts, deleteContact_uid, Table.lookup_erase_ite, if_neg hne]
  exact hl

theorem Agree.deleteContact {b : Book} (h : b.Agree) {r : Nat} (hr : b.Settled r) :
    (b.deleteContact r).Agree := by
  -- a contact that is left is not the deleted one, since its own keys are gone
  have hleft : ∀ {r'}, b.Live r' → r' ≠ r → (b.deleteContact r).Live r' := fun hl hne =>
    live_deleteContact hl (h.apart hr hl hne).1
  refine ⟨fun k r' hk => ?_, fun n r' hn => ?_, fun x r' hx => ?_⟩
  · rw [deleteContact_uid] at hk
    obtain ⟨hne, hk⟩ := Table.lookup_erase_eq_some.mp hk
    obtain ⟨huid, hname⟩ := h.uid k r' hk
    have hr' : r' ≠ r := by
      rintro rfl
      exact hne huid.symm
    rw [deleteContact_contacts, deleteContact_name, Table.lookup_erase_ite,
      if_neg (h.apart hr (h.live hk) hr').2]
    exact ⟨huid, hname⟩
  · rw [deleteContact_name] at hn
    obtain ⟨hne, hn⟩ := Table.lookup_erase_eq_some.mp hn
    obtain ⟨hname, hl⟩ := h.name n r' hn
    have hr' : r' ≠ r := by
      rintro rfl
      exact hne hname.symm
    rw [deleteContact_contacts]
    exact ⟨hname, hleft hl hr'⟩
  · obtain ⟨hx, hne⟩ := deleteContact_handle hx
    obtain ⟨h0, hhandle, hl⟩ := h.handle x r' hx
    have hr' : r' ≠ r := by
      rintro rfl
      exact hne (by omega) hhandle.symm
    rw [deleteContact_contacts]
    exact ⟨h0, hhandle, hleft hl hr'⟩

/-- Deleting one contact leaves the others settled, and the same one too. -/
theorem settled_deleteContact {b : Book} {r r' : Nat} (hr : b.Settled r) (hr' : b.Settled r') :
    (b.deleteContact r).Settled r' := by
  unfold Settled Live Gone
  rw [deleteContact_contacts, deleteContact_uid, deleteContact_name, Table.lookup_erase_ite,
    Table.lookup_erase_ite]
  by_cases he : (b.contacts r').uid = (b.contacts r).uid
  · rw [if_pos he]
    refine .inr ⟨rfl, ?_⟩
    rcases hr with hl | ⟨hu, hn⟩
    · -- both are live, so they are the same contact
      have hsame : r' = r := by
        rcases hr' with hl' | ⟨hu', -⟩
        · unfold Live at hl hl'
          rw [he, hl] at hl'
          exact (Option.some.inj hl').symm
        · unfold Live at hl
          rw [he, hl] at hu'; cases hu'
      rw [hsame, if_pos rfl]
    · rcases hr' with hl' | ⟨-, hn'⟩
      · unfold Live at hl'
        rw [he, hu] at hl'; cases hl'
      · rw [hn', ite_self]
  · rw [if_neg he]
    rcases hr' with hl' | ⟨hu', hn'⟩
    · exact .inl hl'
    · exact .inr ⟨hu', by rw [hn', ite_self]⟩

theorem Agree.deleteContacts {b : Book} (h : b.Agree) {rs : List Nat}
    (hrs : ∀ r ∈ rs, b.Settled r) : (rs.foldl Book.deleteContact b).Agree := by
  induction rs generalizing b with
  | nil => exact h
  | cons r rs ih =>
    have hr := hrs r List.mem_cons_self
    exact ih (h.deleteContact hr) fun r' hr' =>
      settled_deleteContact hr (hrs r' (List.mem_cons_of_mem r hr'))

/-! ## Phase 3 -/

/-- The contact takes the name that the server has given it. -/
theorem Agree.enterName {b : Book} (h : b.Agree) {r : Nat} {c : Contact} (hr : b.Live r)
    (huid : c.uid = (b.contacts r).uid) (ho : b.HandleOnly r c.handle)
    (hnew : c.name ≠ (b.contacts r).name)
    (hfree : b.nameToContact.lookup c.name = none) :
    (((b.modify r fun _ => c).forgetName (b.contacts r).name).enterName r).Agree := by
  have hself : (b.modify r fun _ => c).contacts r = c := modify_contacts_self b r _
  have hother : ∀ {r'}, r' ≠ r → (b.modify r fun _ => c).contacts r' = b.contacts r' :=
    fun hne => modify_contacts_of_ne hne
  have hlive : ∀ {r'}, b.Live r' →
      (((b.modify r fun _ => c).forgetName (b.contacts r).name).enterName r).Live r' := by
    -- no uid changes, so whoever was live is live
    intro r' hl
    unfold Live Book.enterName forgetName
    dsimp only
    by_cases he : r' = r
    · subst he
      rw [hself, huid]; exact hl
    · rw [hother he]; exact hl
  refine ⟨fun k r' hk => ?_, fun n r' hn => ?_, fun x r' hx => ?_⟩
  · unfold Book.enterName forgetName at hk ⊢
    dsimp only at hk ⊢
    obtain ⟨hu, hname⟩ := h.uid k r' hk
    rw [hself]
    by_cases he : r' = r
    · subst he
      rw [hself]
      exact ⟨huid.trans hu, AList.lookup_insert _⟩
    · -- another contact has neither the old name nor the new one
      rw [hother he, Table.lookup_insert_ite, Table.lookup_erase_ite,
        if_neg (h.apart (.inl hr) (h.live hk) he).2, if_neg]
      · exact ⟨hu, hname⟩
      · intro heq
        rw [heq, hfree] at hname; cases hname
  · have hn' : (n = c.name ∧ r = r')
        ∨ (n ≠ c.name ∧ n ≠ (b.contacts r).name ∧ b.nameToContact.lookup n = some r') := by
      unfold Book.enterName forgetName at hn
      dsimp only at hn
      rw [hself] at hn
      rcases Table.lookup_insert_eq_some.mp hn with h1 | ⟨h1, h2⟩
      · exact .inl h1
      · exact .inr ⟨h1, Table.lookup_erase_eq_some.mp h2⟩
    rcases hn' with ⟨rfl, rfl⟩ | ⟨-, hne, hn'⟩
    · exact ⟨congrArg Contact.name hself, hlive hr⟩
    · obtain ⟨hname, hl⟩ := h.name n r' hn'
      refine ⟨?_, hlive hl⟩
      have he : r' ≠ r := by
        rintro rfl
        exact hne hname.symm
      exact (congrArg Contact.name (hother he)).trans hname
  · obtain ⟨h0, hhandle, hl⟩ := h.handle x r' hx
    refine ⟨h0, ?_, hlive hl⟩
    by_cases he : r' = r
    · subst he
      exact (congrArg Contact.handle hself).trans (ho.eq hx).symm
    · exact (congrArg Contact.handle (hother he)).trans hhandle

end Book

namespace Contact

/-- The keys under which a contact is indexed. -/
def SameKeys (c c' : Contact) : Prop := c'.uid = c.uid ∧ c'.name = c.name ∧ c'.handle = c.handle

theorem SameKeys.trans {c c' c'' : Contact} (h : SameKeys c c') (h' : SameKeys c' c'') :
    SameKeys c c'' := ⟨h'.1.trans h.1, h'.2.1.trans h.2.1, h'.2.2.trans h.2.2⟩

theorem sameKeys_updateMasterUids (c : Contact) (uids : List (Option String)) :
    SameKeys c (c.updateMasterUids uids) := by
  refine foldl_inv (I := SameKeys c) (fun c' uid h => ?_) uids ⟨rfl, rfl, rfl⟩
  unfold addMasterUid
  split
  · exact h
  · exact h.trans ⟨rfl, rfl, rfl⟩

theorem sameKeys_addVariants (c src : Contact) : SameKeys c (c.addVariantsFromContact src) := by
  unfold addVariantsFromContact
  dsimp only
  split <;> exact ⟨rfl, rfl, rfl⟩

theorem sameKeys_mergeFrom (c src : Contact) : SameKeys c (c.mergeFrom src) := by
  have h := (sameKeys_addVariants c src).trans (sameKeys_updateMasterUids _ src.masterUids)
  unfold mergeFrom
  dsimp only
  split
  · exact h.trans ⟨rfl, rfl, rfl⟩
  · exact h

theorem sameKeys_updated (c : Contact) (unblocked : Bool) : SameKeys c (c.updated unblocked) := by
  unfold updated unblockAsked
  split
  · split <;> exact ⟨rfl, rfl, rfl⟩
  · exact ⟨rfl, rfl, rfl⟩

theorem sameKeys_mergeSubmitted (e c : Contact) : SameKeys e (e.mergeSubmitted c) := by
  have h := (sameKeys_updateMasterUids e c.masterUids).trans (sameKeys_addVariants _ c)
  unfold mergeSubmitted
  dsimp only
  split
  · exact h.trans ⟨rfl, rfl, rfl⟩
  · exact h

theorem sameKeys_removeMasterUid (c : Contact) (uid : String) : SameKeys c (c.removeMasterUid uid) := by
  unfold removeMasterUid
  split <;> exact ⟨rfl, rfl, rfl⟩

theorem sameKeys_removeTokens (c : Contact) (tokens : List String) :
    SameKeys c (c.removeTokens tokens).1 := by
  unfold removeTokens
  split
  · exact ⟨rfl, rfl, rfl⟩
  · unfold removeAllMasterUids
    split <;> exact ⟨rfl, rfl, rfl⟩
  · refine foldl_inv (I := fun st : Contact × Bool => SameKeys c st.1) (fun st token h => ?_)
      tokens ⟨rfl, rfl, rfl⟩
    unfold removeToken
    split
    · exact h
    · split
      · exact h
      · exact h.trans (sameKeys_removeMasterUid _ _)

end Contact

/-- What is done to a single contact keeps its keys. -/
theorem Touch.sameKeys (t : Touch) (c : Contact) : Contact.SameKeys c (t.apply c) := by
  cases t with
  | clearDelete => exact ⟨rfl, rfl, rfl⟩
  | updated unblocked => exact Contact.sameKeys_updated c unblocked
  | submitted c' unblocked =>
    exact (Contact.sameKeys_mergeSubmitted c c').trans (Contact.sameKeys_updated _ unblocked)
  | removeTokens tokens => exact Contact.sameKeys_removeTokens c tokens
  | masterUidsStored => exact ⟨rfl, rfl, rfl⟩
  | nothingPending => exact ⟨rfl, rfl, rfl⟩

theorem Carried.sameKeys (f : Carried) (src c : Contact) : Contact.SameKeys c (f.copy src c) := by
  have h := f.sameEntry src c
  exact ⟨h.uid, h.name, h.handle⟩

namespace Book

/-- The contact that the server knows under another name is merged into the one with that name. -/
theorem Agree.merged {b : Book} (h : b.Agree) {r dest : Nat} {c : Contact} (hr : b.Settled r)
    (huid : c.uid = (b.contacts r).uid) (ho : b.HandleOnly r c.handle)
    (hnew : c.name ≠ (b.contacts r).name) (hdest : b.nameToContact.lookup c.name = some dest)
    (h0 : 0 < (b.contacts dest).handle) :
    (((b.modify r fun _ => c).forgetName (b.contacts r).name).mergeContacts dest r).Agree := by
  obtain ⟨hdname, hdlive⟩ := h.name _ _ hdest
  have hne : dest ≠ r := by
    rintro rfl
    exact hnew hdname.symm
  -- the book before `src` is deleted
  let b₂ := ((b.modify r fun _ => c).forgetName (b.contacts r).name).modify dest
    fun d => d.mergeFrom (((b.modify r fun _ => c).forgetName (b.contacts r).name).contacts r)
  have hb₂r : b₂.contacts r = c := by
    have hstep : b₂.contacts r = (b.modify r fun _ => c).contacts r :=
      modify_contacts_of_ne fun he => hne he.symm
    rw [hstep, modify_contacts_self]
  have hb₂d : Contact.SameKeys (b.contacts dest) (b₂.contacts dest) := by
    have hstep : b₂.contacts dest = ((b.modify r fun _ => c).contacts dest).mergeFrom
        ((b.modify r fun _ => c).contacts r) := modify_contacts_self ..
    rw [hstep, modify_contacts_of_ne hne]
    exact Contact.sameKeys_mergeFrom _ _
  have hb₂o : ∀ {r'}, r' ≠ r → r' ≠ dest → b₂.contacts r' = b.contacts r' := by
    intro r' h1 h2
    have hstep : b₂.contacts r' = (b.modify r fun _ => c).contacts r' := modify_contacts_of_ne h2
    rw [hstep, modify_contacts_of_ne h1]
  -- the indexes of the book after the merge
  have hcon : ((b₂.deleteContact r).reenter dest).contacts = b₂.contacts :=
    deleteContact_contacts b₂ r
  have hN : ∀ n, ((b₂.deleteContact r).reenter dest).nameToContact.lookup n
      = if n = c.name then some dest else if n = (b.contacts r).name then none
        else b.nameToContact.lookup n := by
    intro n
    have hb : b₂.nameToContact = b.nameToContact.erase (b.contacts r).name := rfl
    unfold reenter
    dsimp only
    rw [deleteContact_contacts, hb₂d.2.1, hdname, deleteContact_name, hb₂r, hb,
      Table.lookup_insert_ite, Table.lookup_erase_ite, Table.lookup_erase_ite]
    by_cases hn : n = c.name
    · rw [if_pos hn, if_pos hn]
    · rw [if_neg hn, if_neg hn, if_neg hn]
  have hU : ∀ k, ((b₂.deleteContact r).reenter dest).uidToContact.lookup k
      = if k = (b.contacts dest).uid then some dest else if k = (b.contacts r).uid then none
        else b.uidToContact.lookup k := by
    intro k
    have hb : b₂.uidToContact = b.uidToContact := rfl
    unfold reenter
    dsimp only
    rw [deleteContact_contacts, hb₂d.1, deleteContact_uid, hb₂r, huid, hb,
      Table.lookup_insert_ite, Table.lookup_erase_ite]
  have hlive : ∀ {r'}, b.Live r' → r' ≠ r → ((b₂.deleteContact r).reenter dest).Live r' := by
    intro r' hl hr'
    unfold Live
    rw [hcon, hU]
    by_cases hd : r' = dest
    · rw [hd, hb₂d.1, if_pos rfl]
    · rw [hb₂o hr' hd, if_neg (h.apart (.inl hdlive) hl hd).1, if_neg (h.apart hr hl hr').1]
      exact hl
  have hmerge : ((b.modify r fun _ => c).forgetName (b.contacts r).name).mergeContacts dest r
      = (b₂.deleteContact r).reenter dest := rfl
  rw [hmerge]
  refine ⟨fun k r' hk => ?_, fun n r' hn => ?_, fun x r' hx => ?_⟩
  · rw [hU] at hk
    rw [hcon, hN]
    by_cases hd : r' = dest
    · subst hd
      rw [hb₂d.1, hb₂d.2.1, hdname, if_pos rfl]
      refine ⟨?_, rfl⟩
      by_cases hkd : k = (b.contacts r').uid
      · exact hkd.symm
      · rw [if_neg hkd] at hk
        split at hk
        · cases hk
        · exact (h.uid k r' hk).1
    · rw [if_neg (by rintro rfl; rw [if_pos rfl] at hk; exact hd (Option.some.inj hk).symm)] at hk
      split at hk
      · cases hk
      · rename_i hkr
        obtain ⟨hu, hname⟩ := h.uid k r' hk
        have hr' : r' ≠ r := by
          rintro rfl
          exact hkr hu.symm
        rw [hb₂o hr' hd, if_neg, if_neg (h.apart hr (h.live hk) hr').2]
        · exact ⟨hu, hname⟩
        · intro heq
          rw [heq, hdest] at hname
          exact hd (Option.some.inj hname).symm
  · rw [hN] at hn
    by_cases hc : n = c.name
    · rw [if_pos hc] at hn
      cases hn
      rw [hcon, hb₂d.2.1, hdname]
      exact ⟨hc.symm, hlive hdlive hne⟩
    · rw [if_neg hc] at hn
      split at hn
      · cases hn
      · rename_i hnr
        obtain ⟨hname, hl⟩ := h.name n r' hn
        have hr' : r' ≠ r := by
          rintro rfl
          exact hnr hname.symm
        have hd : r' ≠ dest := by
          rintro rfl
          exact hc (hname.symm.trans hdname)
        rw [hcon, hb₂o hr' hd]
        exact ⟨hname, hlive hl hr'⟩
  · have hx' : (x = (b.contacts dest).handle ∧ dest = r')
        ∨ ((b₂.deleteContact r).handleToContact.lookup x = some r') := by
      unfold reenter at hx
      dsimp only at hx
      rcases Table.lookup_insert_eq_some.mp hx with ⟨h1, h2⟩ | ⟨-, h2⟩
      · refine .inl ⟨?_, h2⟩
        have hd := hb₂d.2.2
        rw [deleteContact_contacts] at h1
        exact h1.trans hd
      · exact .inr h2
    rcases hx' with ⟨rfl, rfl⟩ | hx'
    · rw [hcon]
      exact ⟨h0, hb₂d.2.2, hlive hdlive hne⟩
    · obtain ⟨hx'', hxr⟩ := deleteContact_handle hx'
      obtain ⟨hpos, hhandle, hl⟩ := h.handle x r' hx''
      have hr' : r' ≠ r := by
        rintro rfl
        have hxc := ho.eq hx''
        rw [hb₂r] at hxr
        exact hxr (by omega) hxc
      refine ⟨hpos, ?_, hlive hl hr'⟩
      rw [hcon]
      by_cases hd : r' = dest
      · subst hd
        exact hb₂d.2.2.trans hhandle
      · rw [hb₂o hr' hd]; exact hhandle

theorem Agree.handleOnly {b : Book} (h : b.Agree) {r : Nat} (hr : ¬ b.Live r) (x : Nat) :
    b.HandleOnly r x := by
  rintro ⟨y, r'⟩ he rfl
  exact absurd (h.handle y r' (AList.mem_lookup_iff.mpr he)).2.2 hr

end Book

/-! ## Every edit -/

/--
The edit gives an indexed contact no other name, and no other handle while the handle
index knows it by the old one; it enters no contact over another one, and none under the
handle 0.
-/
def Edit.KeepsIndexes (b : Book) : Edit → Prop
  | .importContact c =>
    b.uidToContact.lookup c.uid = b.nameToContact.lookup c.name
      ∧ ∀ r ∈ b.uidToContact.lookup c.uid, ∀ e ∈ b.handleToContact.entries, e.2 ≠ r
  | .memberReported _ cIn =>
    0 < cIn.handle ∧ ∀ r ∈ b.nameToContact.lookup cIn.name, b.HandleOnly r cIn.handle
  | .contactAdded _ cIn =>
    0 < cIn.handle ∧ ∀ r ∈ b.nameToContact.lookup cIn.name, b.HandleOnly r cIn.handle
  | .modified r ec vcardField _ _ =>
    ((b.contacts r).updateFromEcontact ec vcardField).2.name = (b.contacts r).name
  | .addFailed r c => b.Live r → c.name = (b.contacts r).name ∧ b.HandleOnly r c.handle
  | .addDone r c =>
    (b.Live r → b.HandleOnly r c.handle)
      ∧ (c.name ≠ (b.contacts r).name →
        match b.nameToContact.lookup c.name with
        | some existing => b.Settled r ∧ 0 < (b.contacts existing).handle
        | none => b.Live r)
  | .mergeByHandle _ _ => True
  | .forgetHandles => True
  | .touch _ _ => True
  | .deleteContacts _ => True
  | .createContact _ => True
  | .scheduleRemoval _ => True
  | .removalDone _ => True

instance (b : Book) : DecidablePred (Edit.KeepsIndexes b)
  | .importContact c => inferInstanceAs (Decidable
      (b.uidToContact.lookup c.uid = b.nameToContact.lookup c.name
        ∧ ∀ r ∈ b.uidToContact.lookup c.uid, ∀ e ∈ b.handleToContact.entries, e.2 ≠ r))
  | .memberReported _ cIn => inferInstanceAs (Decidable
      (0 < cIn.handle ∧ ∀ r ∈ b.nameToContact.lookup cIn.name, b.HandleOnly r cIn.handle))
  | .contactAdded _ cIn => inferInstanceAs (Decidable
      (0 < cIn.handle ∧ ∀ r ∈ b.nameToContact.lookup cIn.name, b.HandleOnly r cIn.handle))
  | .modified r ec vcardField _ _ => inferInstanceAs (Decidable
      (((b.contacts r).updateFromEcontact ec vcardField).2.name = (b.contacts r).name))
  | .addFailed r c => inferInstanceAs (Decidable
      (b.Live r → c.name = (b.contacts r).name ∧ b.HandleOnly r c.handle))
  | .addDone r c =>
    have : Decidable (match b.nameToContact.lookup c.name with
        | some existing => b.Settled r ∧ 0 < (b.contacts existing).handle
        | none => b.Live r) := by
      split <;> infer_instance
    inferInstanceAs (Decidable ((b.Live r → b.HandleOnly r c.handle)
      ∧ (c.name ≠ (b.contacts r).name → match b.nameToContact.lookup c.name with
        | some existing => b.Settled r ∧ 0 < (b.contacts existing).handle
        | none => b.Live r)))
  | .mergeByHandle _ _ => .isTrue trivial
  | .forgetHandles => .isTrue trivial
  | .touch _ _ => .isTrue trivial
  | .deleteContacts _ => .isTrue trivial
  | .createContact _ => .isTrue trivial
  | .scheduleRemoval _ => .isTrue trivial
  | .removalDone _ => .isTrue trivial

namespace Book

theorem agree_importContact {b : Book} (h : b.Agree) (ha : b.Allocated) {c : Contact}
    (hok : (Edit.importContact c).KeepsIndexes b) : (b.importContact c).Agree := by
  have hkeys : Contact.SameKeys c c.imported := by
    unfold Contact.imported
    split <;> exact ⟨rfl, rfl, rfl⟩
  have hnew : (b.importContact c).contacts b.next = c.imported := alloc_contacts_next b _
  refine h.enter ha hok.1 (fun r hr x hx => ?_) (fun r hr => alloc_contacts_of_ne hr) ?_ rfl rfl rfl
  · exact hok.2 r hr ⟨x, r⟩ (AList.mem_lookup_iff.mp hx) rfl
  · rw [hnew]
    exact ⟨hkeys.1, hkeys.2.1⟩

/-- A new contact of the roster, or of a request, under a fresh uid and a new name. -/
theorem Agree.enterFresh {b b' : Book} (h : b.Agree) (ha : b.Allocated) {c : Contact}
    (hu0 : b.uidToContact.lookup c.uid = none) (hn0 : b.nameToContact.lookup c.name = none)
    (hcon : b'.contacts = (b.alloc c).contacts) (ht : b'.handleToContact = b.handleToContact)
    (hn : b'.nameToContact = b.nameToContact.insert c.name b.next)
    (hu : b'.uidToContact = b.uidToContact.insert c.uid b.next) : b'.Agree := by
  refine h.enter ha (by rw [hu0, hn0]) (fun r hr => ?_) (fun r hr => ?_) ?_ ht hn hu
  · rw [hu0] at hr; cases hr
  · rw [hcon]; exact alloc_contacts_of_ne hr
  · rw [hcon, alloc_contacts_next]
    exact ⟨rfl, rfl⟩

theorem agree_memberReported {b : Book} (h : b.Agree) (ha : b.Allocated) {pathSuffix : String}
    {cIn : Contact} (hok : (Edit.memberReported pathSuffix cIn).KeepsIndexes b) :
    (b.memberReported pathSuffix cIn).Agree := by
  obtain ⟨h0, ho⟩ := hok
  unfold memberReported
  split
  · rename_i r hr
    have hmod : (b.modify r cIn.seen).Agree := h.rehandle rfl rfl (ho r hr)
    refine hmod.enterHandle h0 (by rw [modify_contacts_self]; rfl) ?_
    exact (hmod.name cIn.name r hr).2
  · rename_i hr
    have hfound : (b.memberFound pathSuffix cIn).Agree :=
      h.enterFresh ha (c := { cIn.dup with uid := generateUid pathSuffix b.uidToContact cIn.name })
        (lookup_generateUid pathSuffix b.uidToContact cIn.name) hr rfl rfl rfl rfl
    have hnew : (b.memberFound pathSuffix cIn).nameToContact.lookup cIn.name = some b.next :=
      AList.lookup_insert _
    have hcon : (b.memberFound pathSuffix cIn).contacts b.next
        = { cIn.dup with uid := generateUid pathSuffix b.uidToContact cIn.name } :=
      alloc_contacts_next b _
    exact hfound.enterHandle h0 (by rw [hcon]; rfl) (hfound.name _ _ hnew).2

theorem agree_contactAdded {b : Book} (h : b.Agree) (ha : b.Allocated) {pathSuffix : String}
    {cIn : Contact} (hok : (Edit.contactAdded pathSuffix cIn).KeepsIndexes b) :
    (b.contactAdded pathSuffix cIn).Agree := by
  obtain ⟨h0, ho⟩ := hok
  unfold contactAdded
  split
  · rename_i r hr
    have hmod : (b.contactConfirmed r cIn).Agree := h.rehandle rfl rfl (ho r hr)
    have hhandle : ((b.contactConfirmed r cIn).contacts r).handle = cIn.handle := by
      unfold contactConfirmed
      rw [modify_contacts_self]; rfl
    have hlive := (hmod.name cIn.name r hr).2
    exact (hmod.insertHandle (by rw [hhandle]; exact h0) rfl hlive).insertUid hlive
  · rename_i hr
    -- the uid index is entered last, and by then under the same uid
    have hcon : (b.contactFound pathSuffix cIn).contacts b.next
        = { cIn.dup with uid := generateUid pathSuffix b.uidToContact cIn.name } :=
      alloc_contacts_next b _
    have hfound : ({ b.contactFound pathSuffix cIn with
        uidToContact := (b.contactFound pathSuffix cIn).uidToContact.insert
          ((b.contactFound pathSuffix cIn).contacts b.next).uid b.next } : Book).Agree := by
      refine h.enterFresh ha (lookup_generateUid pathSuffix b.uidToContact cIn.name) hr
        (c := { cIn.dup with uid := generateUid pathSuffix b.uidToContact cIn.name })
        rfl rfl rfl ?_
      rw [hcon]; rfl
    have hnew : (b.contactFound pathSuffix cIn).nameToContact.lookup cIn.name = some b.next :=
      AList.lookup_insert _
    refine hfound.insertHandle (r := b.next) (x := ((b.contactFound pathSuffix cIn).contacts b.next).handle)
      ?_ rfl (hfound.name _ _ hnew).2
    rw [hcon]; exact h0

end Book

/-- `c'` is `c` with some of the pending flags cleared. -/
def Contact.Eased (c c' : Contact) : Prop :=
  ∃ pending, c' = { c with pendingFlags := pending }
    ∧ ∀ m, pending.has m = true → c.pendingFlags.has m = true

theorem Contact.Eased.refl (c : Contact) : Eased c c := ⟨c.pendingFlags, rfl, fun _ h => h⟩

theorem Contact.Eased.trans {c c' c'' : Contact} (h : Eased c c') (h' : Eased c' c'') :
    Eased c c'' := by
  obtain ⟨p, rfl, hp⟩ := h
  obtain ⟨p', rfl, hp'⟩ := h'
  exact ⟨p', rfl, fun m hm => hp m (hp' m hm)⟩

theorem Contact.eased_flagsAsked (c : Contact) : Eased c c.flagsAsked :=
  ⟨_, rfl, fun _ hm => BitVec.has_of_and_has hm⟩

theorem Contact.eased_bookkeepingDone (c : Contact) : Eased c c.bookkeepingDone :=
  ⟨_, rfl, fun _ hm => BitVec.has_of_and_has (BitVec.has_of_and_has hm)⟩

namespace Book

/-- The contact at `r` of `b` is `c` with some pending flags cleared, the others are as before. -/
def OnlyAt (b₀ : Book) (r : Nat) (c : Contact) (b : Book) : Prop :=
  (∀ r', r' ≠ r → b.contacts r' = b₀.contacts r') ∧ c.Eased (b.contacts r)

theorem OnlyAt.modify {b₀ b : Book} {r : Nat} {c : Contact} (h : OnlyAt b₀ r c b)
    {f : Contact → Contact} (hf : ∀ c : Contact, c.Eased (f c)) : OnlyAt b₀ r c (b.modify r f) := by
  refine ⟨fun r' hne => ?_, ?_⟩
  · rw [modify_contacts_of_ne hne]; exact h.1 r' hne
  · rw [modify_contacts_self]; exact h.2.trans (hf _)

/-- What a modification leaves of the contact: what the vcard said, less what was done already. -/
theorem modified_onlyAt (b : Book) (r : Nat) (ec : Contact.EVCard) (vcardField : String)
    (sent stored : Bool) :
    OnlyAt b r ((b.contacts r).updateFromEcontact ec vcardField).2
      (b.modified r ec vcardField sent stored) := by
  have hdecoded : OnlyAt b r ((b.contacts r).updateFromEcontact ec vcardField).2
      (b.modify r fun c => (c.updateFromEcontact ec vcardField).2) := by
    refine ⟨fun r' hne => modify_contacts_of_ne hne, ?_⟩
    rw [modify_contacts_self]; exact .refl _
  unfold modified
  dsimp only
  split
  · have hsent : OnlyAt b r ((b.contacts r).updateFromEcontact ec vcardField).2
        (if sent then (b.modify r fun c => (c.updateFromEcontact ec vcardField).2).modify r
            Contact.flagsAsked
          else b.modify r fun c => (c.updateFromEcontact ec vcardField).2) := by
      split
      · exact hdecoded.modify Contact.eased_flagsAsked
      · exact hdecoded
    have hscheduled : OnlyAt b r ((b.contacts r).updateFromEcontact ec vcardField).2
        (Book.scheduleUpdate _ r) := hsent
    split
    · exact hscheduled.modify Contact.eased_bookkeepingDone
    · exact hscheduled
  · exact hdecoded

theorem modified_tables (b : Book) (r : Nat) (ec : Contact.EVCard) (vcardField : String)
    (sent stored : Bool) :
    (b.modified r ec vcardField sent stored).handleToContact = b.handleToContact
      ∧ (b.modified r ec vcardField sent stored).nameToContact = b.nameToContact
      ∧ (b.modified r ec vcardField sent stored).uidToContact = b.uidToContact := by
  unfold modified
  dsimp only
  split
  · cases sent <;> cases stored <;> exact ⟨rfl, rfl, rfl⟩
  · exact ⟨rfl, rfl, rfl⟩

theorem agree_modified {b : Book} (h : b.Agree) {r : Nat} {ec : Contact.EVCard}
    {vcardField : String} {sent stored : Bool}
    (hok : (Edit.modified r ec vcardField sent stored).KeepsIndexes b) :
    (b.modified r ec vcardField sent stored).Agree := by
  obtain ⟨hother, pending, hself, -⟩ := modified_onlyAt b r ec vcardField sent stored
  obtain ⟨ht, hn, hu⟩ := modified_tables b r ec vcardField sent stored
  have hd := Contact.decoded_updateFromEcontact (b.contacts r) ec vcardField
  refine h.of_keys ht hn hu fun r' => ?_
  by_cases he : r' = r
  · subst he
    rw [hself]
    exact ⟨hd.uid, hok, hd.handle⟩
  · rw [hother r' he]
    exact ⟨rfl, rfl, rfl⟩

theorem agree_addDone {b : Book} (h : b.Agree) {r : Nat} {c : Contact}
    (hasked : Contact.Asked (b.contacts r) c) (hok : (Edit.addDone r c).KeepsIndexes b) :
    (b.addDone r c).Agree := by
  obtain ⟨ho, hname⟩ := hok
  have hend : ∀ {b' : Book}, b'.Agree → (b'.unscheduleAdd r).Agree := fun h' =>
    h'.of_keys rfl rfl rfl fun _ => ⟨rfl, rfl, rfl⟩
  by_cases heq : c.name = (b.contacts r).name
  · -- the name is the same: only the handle can be another one
    rw [addDone_same heq]
    refine hend ?_
    by_cases hl : b.Live r
    · exact h.rehandle hasked.uid heq (ho hl)
    · exact h.stranger _ hl
  · have hcase := hname heq
    cases hl : b.nameToContact.lookup c.name with
    | some existing =>
      rw [hl] at hcase
      obtain ⟨hr, h0⟩ := hcase
      have ho' : b.HandleOnly r c.handle := by
        by_cases hlive : b.Live r
        · exact ho hlive
        · exact h.handleOnly hlive c.handle
      rw [addDone_merged heq hl]
      exact hend (h.merged hr hasked.uid ho' heq hl h0)
    | none =>
      rw [hl] at hcase
      rw [addDone_free heq hl]
      exact hend (h.enterName hcase hasked.uid (ho hcase) heq hl)

/-- **An edit that keeps the indexes keeps them in agreement.** -/
theorem agree_apply {b : Book} {e : Edit} (h : b.Agree) (ha : b.Allocated) (hp : e.Proper b)
    (hok : e.KeepsIndexes b) : (b.apply e).Agree := by
  cases e with
  | importContact c => exact agree_importContact h ha hok
  | memberReported pathSuffix cIn => exact agree_memberReported h ha hok
  | contactAdded pathSuffix cIn => exact agree_contactAdded h ha hok
  | mergeByHandle f cIn =>
    unfold apply mergeByHandle
    dsimp only
    split
    · have hk := f.sameKeys cIn
      exact h.modify ⟨(hk _).1, (hk _).2.1, (hk _).2.2⟩
    · exact h
  | forgetHandles => exact ⟨h.uid, h.name, fun _ _ hx => (by cases hx)⟩
  | touch r t =>
    have hk := t.sameKeys (b.contacts r)
    exact h.modify ⟨hk.1, hk.2.1, hk.2.2⟩
  | deleteContacts rs => exact h.deleteContacts fun r hr => .inl (h.held (hp r hr))
  | createContact c =>
    obtain ⟨hn, hu, -⟩ := hp
    show (b.createContact c).Agree
    rw [createContact_eq]
    exact h.enterFresh ha hu hn rfl rfl rfl rfl
  | modified r ec vcardField sent stored => exact agree_modified h hok
  | scheduleRemoval r =>
    have hcleared : (b.modify r Contact.nothingPending).Agree := h.modify ⟨rfl, rfl, rfl⟩
    have hmod : ((b.modify r Contact.nothingPending).modify r Contact.markDelete).Agree :=
      hcleared.modify ⟨rfl, rfl, rfl⟩
    exact hmod.of_keys rfl rfl rfl fun _ => ⟨rfl, rfl, rfl⟩
  | addDone r c => exact agree_addDone h hp hok
  | addFailed r c =>
    have hasked : Contact.Asked (b.contacts r) c := hp
    by_cases hl : b.Live r
    · obtain ⟨hname, ho⟩ := hok hl
      exact h.rehandle (f := fun _ => c) hasked.uid hname ho
    · exact h.stranger (fun _ => c) hl
  | removalDone r =>
    have hmod : (b.modify r Contact.clearDelete).Agree := h.modify ⟨rfl, rfl, rfl⟩
    exact hmod.of_keys rfl rfl rfl fun _ => ⟨rfl, rfl, rfl⟩

end Book

namespace Backend

/-- The cache is imported, the account comes online, and the roster consists of one contact. -/
def firstSync : List Input :=
  { event := .phase0 } :: goOnline 1 0
    ++ [{ event := .cl (.allMembers 4 (some { current := [7] })) },
        { event := .cl (.contacts 4 (some [{ handle := 7, identifier := "ann" }])) },
        { event := .phase2 }]

/-- A contact is created with this name. -/
def creates (name : String) : Event := .createContact [{ name := "X-JABBER", values := [name] }]

end Backend

end EdsTelepathy
