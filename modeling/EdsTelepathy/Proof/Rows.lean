import EdsTelepathy.Db
import EdsTelepathy.Lib.Run

/-!
# What one contact's statements do to the tables

Adding, updating and deleting a contact, each in terms of the three tables: which row of
`contacts` there is afterwards under which uid, and which rows the two other tables have.
-/

namespace EdsTelepathy

namespace Db

theorem foldl_contacts {α : Type} {f : Db → α → Db} (hf : ∀ db x, (f db x).contacts = db.contacts)
    (xs : List α) (db : Db) : (xs.foldl f db).contacts = db.contacts :=
  foldl_inv (I := fun db' : Db => db'.contacts = db.contacts)
    (fun db' x h => (hf db' x).trans h) xs rfl

theorem addMasterUids_contacts (db : Db) (c : Contact) :
    (db.addMasterUids c).contacts = db.contacts := by
  refine foldl_contacts (fun db m => ?_) c.masterUids db
  unfold insertMasterUid
  split <;> rfl

theorem addVariants_contacts (db : Db) (c : Contact) :
    (db.addVariants c).contacts = db.contacts := by
  refine foldl_contacts (fun db v => ?_) c.variants db
  unfold insertVariant
  split <;> rfl

theorem mem_foldl_insertMasterUid (uid : String) (ms : List (Option String)) (db : Db)
    (p : String × Option String) :
    p ∈ (ms.foldl (fun db m => db.insertMasterUid uid m) db).masterUids
      ↔ p ∈ db.masterUids ∨ p.1 = uid ∧ p.2 ∈ ms := by
  induction ms generalizing db with
  | nil => simp
  | cons m ms ih =>
    have hone : p ∈ (db.insertMasterUid uid m).masterUids
        ↔ p ∈ db.masterUids ∨ p = (uid, m) := by
      unfold insertMasterUid
      split
      · rename_i h
        exact ⟨.inl, fun hp => hp.elim id fun he => he ▸ h.2⟩
      · simp
    rw [List.foldl_cons, ih, hone, List.mem_cons, or_assoc]
    refine or_congr_right ⟨?_, ?_⟩
    · rintro (rfl | ⟨h1, h2⟩)
      · exact ⟨rfl, .inl rfl⟩
      · exact ⟨h1, .inr h2⟩
    · rintro ⟨h1, h2 | h2⟩
      · exact .inl (Prod.ext h1 h2)
      · exact .inr ⟨h1, h2⟩

theorem mem_foldl_insertVariant (uid : String) (vs : List String) (db : Db)
    (p : String × String) :
    p ∈ (vs.foldl (fun db v => db.insertVariant uid v) db).variants
      ↔ p ∈ db.variants ∨ p.1 = uid ∧ p.2 ∈ vs := by
  induction vs generalizing db with
  | nil => simp
  | cons v vs ih =>
    have hone : p ∈ (db.insertVariant uid v).variants ↔ p ∈ db.variants ∨ p = (uid, v) := by
      unfold insertVariant
      split
      · rename_i h
        exact ⟨.inl, fun hp => hp.elim id fun he => he ▸ h⟩
      · simp
    rw [List.foldl_cons, ih, hone, List.mem_cons, or_assoc]
    refine or_congr_right ⟨?_, ?_⟩
    · rintro (rfl | ⟨h1, h2⟩)
      · exact ⟨rfl, .inl rfl⟩
      · exact ⟨h1, .inr h2⟩
    · rintro ⟨h1, h2 | h2⟩
      · exact .inl (Prod.ext h1 h2)
      · exact .inr ⟨h1, h2⟩

theorem mem_addMasterUids {db : Db} {c : Contact} {p : String × Option String} :
    p ∈ (db.addMasterUids c).masterUids
      ↔ p ∈ db.masterUids ∨ p.1 = c.uid ∧ p.2 ∈ c.masterUids :=
  mem_foldl_insertMasterUid c.uid c.masterUids db p

theorem mem_addVariants {db : Db} {c : Contact} {p : String × String} :
    p ∈ (db.addVariants c).variants ↔ p ∈ db.variants ∨ p.1 = c.uid ∧ p.2 ∈ c.variants :=
  mem_foldl_insertVariant c.uid c.variants db p

theorem addMasterUids_variants (db : Db) (c : Contact) :
    (db.addMasterUids c).variants = db.variants := by
  refine foldl_inv (I := fun d : Db => d.variants = db.variants) (fun d m h => ?_) c.masterUids rfl
  unfold insertMasterUid
  split
  · exact h
  · exact h

theorem addVariants_masterUids (db : Db) (c : Contact) :
    (db.addVariants c).masterUids = db.masterUids := by
  refine foldl_inv (I := fun d : Db => d.masterUids = db.masterUids) (fun d v h => ?_) c.variants rfl
  unfold insertVariant
  split
  · exact h
  · exact h

/-! ## Adding -/

/-- An added contact has a free uid and a name; its rows join those that are there. -/
structure Added (db : Db) (c : Contact) (db' : Db) : Prop where
  free : db.contacts.lookup c.uid = none
  contacts : ∃ n, c.name = some n ∧ db'.contacts = db.contacts.insert c.uid (rowOf c n)
  masterUids : ∀ p, p ∈ db'.masterUids ↔ p ∈ db.masterUids ∨ p.1 = c.uid ∧ p.2 ∈ c.masterUids
  variants : ∀ p, p ∈ db'.variants ↔ p ∈ db.variants ∨ p.1 = c.uid ∧ p.2 ∈ c.variants

theorem realAddContact_eq_none {db : Db} {c : Contact} :
    db.realAddContact c = none ↔ c.name = none ∨ (db.contacts.lookup c.uid).isSome = true := by
  unfold realAddContact
  cases c.name with
  | none => simp
  | some n => simp [Option.isSome_iff_ne_none]

theorem realAddContact_added {db db' : Db} {c : Contact} (h : db.realAddContact c = some db') :
    Added db c db' := by
  unfold realAddContact at h
  split at h
  · cases h
  · rename_i n hn
    split at h
    · cases h
    · rename_i hfree
      cases h
      refine ⟨Option.not_isSome_iff_eq_none.mp hfree, ⟨n, hn, ?_⟩, fun p => ?_, fun p => ?_⟩
      · rw [addVariants_contacts, addMasterUids_contacts]
      · rw [addVariants_masterUids, mem_addMasterUids]
      · rw [mem_addVariants, addMasterUids_variants]

/-! ## Updating -/

/-- An update replaces the row if there is one, and the rows of the other tables in any case. -/
structure Updated (db : Db) (c : Contact) (db' : Db) : Prop where
  contacts : db.contacts.lookup c.uid = none ∧ db'.contacts = db.contacts ∨
    (db.contacts.lookup c.uid).isSome = true ∧
      ∃ n, c.name = some n ∧ db'.contacts = db.contacts.insert c.uid (rowOf c n)
  masterUids : ∀ p, p ∈ db'.masterUids ↔
    p ∈ db.masterUids ∧ p.1 ≠ c.uid ∨ p.1 = c.uid ∧ p.2 ∈ c.masterUids
  variants : ∀ p, p ∈ db'.variants ↔ p ∈ db.variants ∧ p.1 ≠ c.uid ∨ p.1 = c.uid ∧ p.2 ∈ c.variants

theorem mem_deleteMasterUids {db : Db} {uid : String} {p : String × Option String} :
    p ∈ (db.deleteMasterUids uid).masterUids ↔ p ∈ db.masterUids ∧ p.1 ≠ uid := by
  simp [deleteMasterUids, List.mem_filter]

theorem mem_deleteVariants {db : Db} {uid : String} {p : String × String} :
    p ∈ (db.deleteVariants uid).variants ↔ p ∈ db.variants ∧ p.1 ≠ uid := by
  simp [deleteVariants, List.mem_filter]

theorem realUpdateContact_eq_none {db : Db} {c : Contact} :
    db.realUpdateContact c = none ↔
      (db.contacts.lookup c.uid).isSome = true ∧ c.name = none := by
  unfold realUpdateContact updateRow
  cases db.contacts.lookup c.uid with
  | none => simp
  | some row => cases c.name <;> simp

theorem realUpdateContact_updated {db db' : Db} {c : Contact}
    (h : db.realUpdateContact c = some db') : Updated db c db' := by
  obtain ⟨d, hd, rfl⟩ := Option.map_eq_some_iff.mp h
  have hrow : (db.contacts.lookup c.uid = none ∧ d.contacts = db.contacts ∨
      (db.contacts.lookup c.uid).isSome = true ∧
        ∃ n, c.name = some n ∧ d.contacts = db.contacts.insert c.uid (rowOf c n))
      ∧ d.masterUids = db.masterUids ∧ d.variants = db.variants := by
    unfold updateRow at hd
    split at hd
    · rename_i hnone
      cases hd
      exact ⟨.inl ⟨hnone, rfl⟩, rfl, rfl⟩
    · cases hd
    · rename_i row n hrow hn
      cases hd
      exact ⟨.inr ⟨by rw [hrow]; rfl, n, hn, rfl⟩, rfl, rfl⟩
  obtain ⟨hcontacts, hm, hv⟩ := hrow
  refine ⟨?_, fun p => ?_, fun p => ?_⟩
  · rw [addVariants_contacts]
    show (_ ∧ ((d.deleteMasterUids c.uid).addMasterUids c).contacts = _) ∨ (_ ∧ ∃ n, _ ∧
      ((d.deleteMasterUids c.uid).addMasterUids c).contacts = _)
    rw [addMasterUids_contacts]
    exact hcontacts
  · rw [addVariants_masterUids]
    show p ∈ ((d.deleteMasterUids c.uid).addMasterUids c).masterUids ↔ _
    rw [mem_addMasterUids, mem_deleteMasterUids, hm]
  · rw [mem_addVariants, mem_deleteVariants, addMasterUids_variants]
    show p ∈ d.variants ∧ _ ∨ _ ↔ _
    rw [hv]

/-! ## Deleting -/

/-- A deletion leaves nothing under the uid, and everything else. -/
theorem realDeleteContact_spec (db : Db) (uid : String) :
    (db.realDeleteContact uid).contacts = db.contacts.erase uid ∧
      (∀ p, p ∈ (db.realDeleteContact uid).masterUids ↔ p ∈ db.masterUids ∧ p.1 ≠ uid) ∧
      ∀ p, p ∈ (db.realDeleteContact uid).variants ↔ p ∈ db.variants ∧ p.1 ≠ uid := by
  refine ⟨rfl, fun p => ?_, fun p => ?_⟩
  · show p ∈ (db.deleteMasterUids uid).masterUids ↔ _
    exact mem_deleteMasterUids
  · show p ∈ (db.deleteVariants uid).variants ↔ _
    exact mem_deleteVariants

/-! ## The rows of a contact -/

/-- **The database stores the contact as it is**: its row, its master UIDs and its variants. -/
structure Stores (db : Db) (c : Contact) : Prop where
  row : ∃ n, c.name = some n ∧ db.contacts.lookup c.uid = some (rowOf c n)
  masterUids : ∀ m, (c.uid, m) ∈ db.masterUids ↔ m ∈ c.masterUids
  variants : ∀ v, (c.uid, v) ∈ db.variants ↔ v ∈ c.variants

/-- The contact can be updated: it has a name and there is a row. -/
def HasRow (db : Db) (c : Contact) : Prop :=
  c.name ≠ none ∧ (db.contacts.lookup c.uid).isSome = true

instance (db : Db) (c : Contact) : Decidable (db.HasRow c) :=
  inferInstanceAs (Decidable (c.name ≠ none ∧ (db.contacts.lookup c.uid).isSome = true))

/-- What is under another uid stays as it is. -/
theorem Stores.of_other {db db' : Db} {c : Contact} {uid : String} (h : db.Stores c)
    (hne : c.uid ≠ uid) (hrow : db'.contacts.lookup c.uid = db.contacts.lookup c.uid)
    (hm : ∀ p, p.1 ≠ uid → (p ∈ db'.masterUids ↔ p ∈ db.masterUids))
    (hv : ∀ p, p.1 ≠ uid → (p ∈ db'.variants ↔ p ∈ db.variants)) : db'.Stores c where
  row := by rw [hrow]; exact h.row
  masterUids := fun m => (hm (c.uid, m) hne).trans (h.masterUids m)
  variants := fun v => (hv (c.uid, v) hne).trans (h.variants v)

theorem Updated.stores {db db' : Db} {c : Contact} (h : Updated db c db') (hrow : db.HasRow c) :
    db'.Stores c := by
  rcases h.contacts with ⟨hnone, -⟩ | ⟨-, n, hn, hcontacts⟩
  · rw [HasRow, hnone] at hrow
    cases hrow.2
  · refine ⟨⟨n, hn, ?_⟩, fun m => ?_, fun v => ?_⟩
    · rw [hcontacts, AList.lookup_insert]
    · rw [h.masterUids]
      simp
    · rw [h.variants]
      simp

theorem Updated.lookup_of_ne {db db' : Db} {c : Contact} {uid : String} (h : Updated db c db')
    (hne : uid ≠ c.uid) : db'.contacts.lookup uid = db.contacts.lookup uid := by
  rcases h.contacts with ⟨-, hsame⟩ | ⟨-, n, -, hcontacts⟩
  · rw [hsame]
  · rw [hcontacts, AList.lookup_insert_ne hne]

theorem Updated.stores_other {db db' : Db} {c d : Contact} (h : Updated db c db')
    (hne : d.uid ≠ c.uid) (hd : db.Stores d) : db'.Stores d := by
  refine hd.of_other hne (h.lookup_of_ne hne) (fun p hp => ?_) (fun p hp => ?_)
  · rw [h.masterUids]
    simp [hp]
  · rw [h.variants]
    simp [hp]

/-- **Contacts with different uids, updated where there are rows, are stored as they are.** -/
theorem updateContacts_stores {cs : List Contact} {db : Db} (hnd : (cs.map Contact.uid).Nodup)
    (hrows : ∀ c ∈ cs, db.HasRow c) :
    ∃ db', db.updateContacts cs = some db' ∧ (∀ c ∈ cs, db'.Stores c) ∧
      ∀ d, d.uid ∉ cs.map Contact.uid → db.Stores d → db'.Stores d := by
  induction cs generalizing db with
  | nil => exact ⟨db, rfl, fun c hc => (by cases hc), fun d _ hd => hd⟩
  | cons c cs ih =>
    rw [List.map_cons, List.nodup_cons] at hnd
    have hrow := hrows c List.mem_cons_self
    cases hone : db.realUpdateContact c with
    | none => exact absurd (realUpdateContact_eq_none.mp hone).2 hrow.1
    | some d =>
      have hupd := realUpdateContact_updated hone
      -- the other contacts still have their rows
      have hrest : ∀ c' ∈ cs, d.HasRow c' := by
        intro c' hc'
        have hne : c'.uid ≠ c.uid := fun he => hnd.1 (he ▸ List.mem_map_of_mem hc')
        have hrow' := hrows c' (List.mem_cons_of_mem c hc')
        exact ⟨hrow'.1, by rw [hupd.lookup_of_ne hne]; exact hrow'.2⟩
      obtain ⟨db', hall, hheld, hkept⟩ := ih hnd.2 hrest
      refine ⟨db', ?_, ?_, ?_⟩
      · unfold updateContacts at hall ⊢
        rw [List.foldlM_cons, hone]
        exact hall
      · intro c' hc'
        rcases List.mem_cons.mp hc' with rfl | hc'
        · exact hkept c' hnd.1 (hupd.stores hrow)
        · exact hheld c' hc'
      · intro d' hd' hstored
        rw [List.map_cons, List.mem_cons, not_or] at hd'
        exact hkept d' hd'.2 (hupd.stores_other hd'.1 hstored)

/-- A row is as it was after an update, or was written from one of the contacts. -/
theorem row_updateContacts {cs : List Contact} {db db' : Db} (h : db.updateContacts cs = some db')
    (uid : String) :
    db'.contacts.lookup uid = db.contacts.lookup uid
      ∨ ∃ c ∈ cs, c.uid = uid ∧ ∃ n, c.name = some n
        ∧ db'.contacts.lookup uid = some (rowOf c n) := by
  induction cs generalizing db with
  | nil =>
    cases h
    exact .inl rfl
  | cons c cs ih =>
    unfold updateContacts at h ih
    rw [List.foldlM_cons] at h
    obtain ⟨db₁, h₁, h₂⟩ := Option.bind_eq_some_iff.mp h
    rcases ih h₂ with hsame | ⟨d, hd, hu, hrow⟩
    · by_cases he : uid = c.uid
      · subst he
        rcases (realUpdateContact_updated h₁).contacts with ⟨-, hc⟩ | ⟨-, n, hn, hc⟩
        · exact .inl (by rw [hsame, hc])
        · refine .inr ⟨c, List.mem_cons_self, rfl, n, hn, ?_⟩
          rw [hsame, hc]
          exact AList.lookup_insert _
      · exact .inl (hsame.trans ((realUpdateContact_updated h₁).lookup_of_ne he))
    · exact .inr ⟨d, List.mem_cons_of_mem c hd, hu, hrow⟩

/-- A contact that is not removed is stored as before. -/
theorem Stores.removeContacts {c : Contact} {uids : List String} {db : Db} (h : db.Stores c)
    (hc : c.uid ∉ uids) : (db.removeContacts uids).Stores c := by
  induction uids generalizing db with
  | nil => exact h
  | cons u us ih =>
    rw [List.mem_cons, not_or] at hc
    obtain ⟨hcontacts, hm, hv⟩ := realDeleteContact_spec db u
    refine ih ?_ hc.2
    refine h.of_other hc.1 ?_ (fun p hp => ?_) (fun p hp => ?_)
    · rw [hcontacts, AList.lookup_erase_ne hc.1]
    · rw [hm]
      simp [hp]
    · rw [hv]
      simp [hp]

end Db

end EdsTelepathy
