import EdsTelepathy.Proof.Sound

/-!
# What a write leaves in the database

The rows that belong to one uid after a database call: what was stored is still there, or
it has been replaced by what one of the contacts written has in memory. Only a removal of
the uid does anything else to them.
-/

namespace EdsTelepathy

namespace Db

/-- Everything that is stored for the uid stays. -/
structure StillThere (u : String) (db db' : Db) : Prop where
  row : (db.contacts.lookup u).isSome = true → (db'.contacts.lookup u).isSome = true
  masterUids : ∀ m, (u, m) ∈ db.masterUids → (u, m) ∈ db'.masterUids
  variants : ∀ v, (u, v) ∈ db.variants → (u, v) ∈ db'.variants

/-- What the contact has in memory is stored. -/
structure Holds (u : String) (c : Contact) (db : Db) : Prop where
  masterUids : ∀ m ∈ c.masterUids, (u, m) ∈ db.masterUids
  variants : ∀ v ∈ c.variants, (u, v) ∈ db.variants

/-- The row of the uid stays, with what was stored for it or with what such a contact has. -/
def Keeps (u : String) (D : Contact → Prop) (db db' : Db) : Prop :=
  ((db.contacts.lookup u).isSome = true → (db'.contacts.lookup u).isSome = true)
    ∧ (StillThere u db db' ∨ ∃ c, D c ∧ Holds u c db')

theorem StillThere.refl (u : String) (db : Db) : StillThere u db db := ⟨id, fun _ => id, fun _ => id⟩

/-- What stays through two calls stays through both. -/
theorem StillThere.trans {u : String} {db db' db'' : Db} (h : StillThere u db db')
    (h' : StillThere u db' db'') : StillThere u db db'' :=
  ⟨fun hr => h'.row (h.row hr), fun m hm => h'.masterUids m (h.masterUids m hm),
    fun v hv => h'.variants v (h.variants v hv)⟩

/-- Where all stays there is nothing to be replaced. -/
theorem StillThere.keeps {u : String} {db db' : Db} (h : StillThere u db db')
    (D : Contact → Prop) : Keeps u D db db' := ⟨h.row, .inl h⟩

theorem Keeps.refl (u : String) (D : Contact → Prop) (db : Db) : Keeps u D db db :=
  (StillThere.refl u db).keeps D

/-- The last of two calls that replace something decides what is stored. -/
theorem Keeps.trans {u : String} {D : Contact → Prop} {db db' db'' : Db} (h : Keeps u D db db')
    (h' : Keeps u D db' db'') : Keeps u D db db'' := by
  obtain ⟨hrow, h⟩ := h
  obtain ⟨hrow', h'⟩ := h'
  refine ⟨fun hr => hrow' (hrow hr), ?_⟩
  rcases h' with hs' | hh'
  · rcases h with hs | ⟨c, hc, hh⟩
    · exact .inl (hs.trans hs')
    · exact .inr ⟨c, hc, fun m hm => hs'.masterUids m (hh.masterUids m hm),
        fun v hv => hs'.variants v (hh.variants v hv)⟩
  · exact .inr hh'

/-! ## The statements -/

/-- Entering the master UIDs of a contact adds to the table, and all of them are in it then. -/
theorem addMasterUids_spec (db : Db) (c : Contact) :
    (∀ p ∈ db.masterUids, p ∈ (db.addMasterUids c).masterUids)
      ∧ (∀ m ∈ c.masterUids, (c.uid, m) ∈ (db.addMasterUids c).masterUids)
      ∧ (db.addMasterUids c).variants = db.variants := by
  unfold addMasterUids
  generalize c.masterUids = ms
  induction ms generalizing db with
  | nil => exact ⟨fun _ h => h, fun _ h => (by cases h), rfl⟩
  | cons m ms ih =>
    obtain ⟨h1, h2, h3⟩ := ih (db.insertMasterUid c.uid m)
    have hins : (∀ p ∈ db.masterUids, p ∈ (db.insertMasterUid c.uid m).masterUids)
        ∧ (c.uid, m) ∈ (db.insertMasterUid c.uid m).masterUids
        ∧ (db.insertMasterUid c.uid m).variants = db.variants := by
      unfold insertMasterUid
      split
      · rename_i hin
        exact ⟨fun _ h => h, hin.2, rfl⟩
      · exact ⟨fun p hp => List.mem_append_left _ hp, List.mem_append_right _ (List.mem_singleton_self _),
          rfl⟩
    refine ⟨fun p hp => h1 p (hins.1 p hp), fun m' hm' => ?_, h3.trans hins.2.2⟩
    rcases List.mem_cons.mp hm' with rfl | hm'
    · exact h1 _ hins.2.1
    · exact h2 m' hm'

/-- The same for the variants. -/
theorem addVariants_spec (db : Db) (c : Contact) :
    (∀ p ∈ db.variants, p ∈ (db.addVariants c).variants)
      ∧ (∀ v ∈ c.variants, (c.uid, v) ∈ (db.addVariants c).variants)
      ∧ (db.addVariants c).masterUids = db.masterUids := by
  unfold addVariants
  generalize c.variants = vs
  induction vs generalizing db with
  | nil => exact ⟨fun _ h => h, fun _ h => (by cases h), rfl⟩
  | cons v vs ih =>
    obtain ⟨h1, h2, h3⟩ := ih (db.insertVariant c.uid v)
    have hins : (∀ p ∈ db.variants, p ∈ (db.insertVariant c.uid v).variants)
        ∧ (c.uid, v) ∈ (db.insertVariant c.uid v).variants
        ∧ (db.insertVariant c.uid v).masterUids = db.masterUids := by
      unfold insertVariant
      split
      · rename_i hin
        exact ⟨fun _ h => h, hin, rfl⟩
      · exact ⟨fun p hp => List.mem_append_left _ hp, List.mem_append_right _ (List.mem_singleton_self _),
          rfl⟩
    refine ⟨fun p hp => h1 p (hins.1 p hp), fun v' hv' => ?_, h3.trans hins.2.2⟩
    rcases List.mem_cons.mp hv' with rfl | hv'
    · exact h1 _ hins.2.1
    · exact h2 v' hv'

theorem isSome_insert {t : Table String ContactRow} {u k : String} {row : ContactRow}
    (h : (t.lookup u).isSome = true) : ((t.insert k row).lookup u).isSome = true := by
  rw [Table.lookup_insert_ite]
  split
  · rfl
  · exact h

/-- A contact that is added takes nothing away from the others, nor from its own uid. -/
theorem stillThere_realAddContact {db db' : Db} {c : Contact} (u : String)
    (h : db.realAddContact c = some db') : StillThere u db db' := by
  unfold realAddContact at h
  split at h
  · cases h
  · rename_i n _
    split at h
    · cases h
    · cases h
      have hm := addMasterUids_spec { db with contacts := db.contacts.insert c.uid (rowOf c n) } c
      have hv := addVariants_spec
        (({ db with contacts := db.contacts.insert c.uid (rowOf c n) } : Db).addMasterUids c) c
      refine ⟨fun hr => ?_, fun m hin => ?_, fun v hin => ?_⟩
      · rw [addVariants_contacts, addMasterUids_contacts]
        exact isSome_insert hr
      · rw [hv.2.2]
        exact hm.1 _ hin
      · refine hv.1 _ ?_
        rw [hm.2.2]
        exact hin

/-- The first statement of an update is about the row alone. -/
theorem updateRow_spec {db db' : Db} {c : Contact} (h : db.updateRow c = some db') :
    db'.masterUids = db.masterUids ∧ db'.variants = db.variants
      ∧ ∀ u, (db.contacts.lookup u).isSome = true → (db'.contacts.lookup u).isSome = true := by
  unfold updateRow at h
  split at h
  · cases h; exact ⟨rfl, rfl, fun _ => id⟩
  · cases h
  · cases h; exact ⟨rfl, rfl, fun _ hr => isSome_insert hr⟩

/-- An update replaces what is stored for the uid of the contact, and nothing else. -/
theorem keeps_realUpdateContact {db db' : Db} {c : Contact} {u : String} {D : Contact → Prop}
    (hd : c.uid = u → D c) (h : db.realUpdateContact c = some db') : Keeps u D db db' := by
  obtain ⟨db₁, h₁, rfl⟩ := Option.map_eq_some_iff.mp h
  obtain ⟨hm₁, hv₁, hr₁⟩ := updateRow_spec h₁
  have hm := addMasterUids_spec (db₁.deleteMasterUids c.uid) c
  have hv := addVariants_spec (((db₁.deleteMasterUids c.uid).addMasterUids c).deleteVariants c.uid) c
  have hrow : (db.contacts.lookup u).isSome = true →
      (((((db₁.deleteMasterUids c.uid).addMasterUids c).deleteVariants c.uid).addVariants
        c).contacts.lookup u).isSome = true := by
    intro hr
    rw [addVariants_contacts]
    show (((db₁.deleteMasterUids c.uid).addMasterUids c).contacts.lookup u).isSome = true
    rw [addMasterUids_contacts]
    exact hr₁ u hr
  refine ⟨hrow, ?_⟩
  by_cases he : c.uid = u
  · have hc := hd he
    subst he
    refine .inr ⟨c, hc, fun m hin => ?_, fun v hin => hv.2.1 v hin⟩
    rw [hv.2.2]
    exact hm.2.1 m hin
  · refine .inl ⟨hrow, fun m hin => ?_, fun v hin => hv.1 _ ?_⟩
    · rw [hv.2.2]
      refine hm.1 _ (List.mem_filter.mpr ⟨by rw [hm₁]; exact hin, ?_⟩)
      exact decide_eq_true fun heq => he heq.symm
    · refine List.mem_filter.mpr ⟨?_, decide_eq_true fun heq => he heq.symm⟩
      rw [hm.2.2]
      show (u, v) ∈ db₁.variants
      rw [hv₁]; exact hin

/-- A removal is felt under the uids that it names only. -/
theorem stillThere_removeContacts {uids : List String} {u : String} (hu : u ∉ uids) (db : Db) :
    StillThere u db (db.removeContacts uids) := by
  unfold removeContacts
  induction uids generalizing db with
  | nil => exact .refl u db
  | cons k uids ih =>
    have hne : u ≠ k := fun heq => hu (by rw [heq]; exact List.mem_cons_self)
    refine .trans ?_ (ih (fun hin => hu (List.mem_cons_of_mem k hin)) (db.realDeleteContact k))
    refine ⟨fun hr => ?_, fun m hin => ?_, fun v hin => ?_⟩
    · show ((db.contacts.erase k).lookup u).isSome = true
      rw [AList.lookup_erase_ne hne]; exact hr
    · exact List.mem_filter.mpr ⟨hin, decide_eq_true hne⟩
    · exact List.mem_filter.mpr ⟨hin, decide_eq_true hne⟩

/-- What each contact of a call keeps, the call keeps. -/
theorem keeps_foldlM {f : Db → Contact → Option Db} {u : String} {D : Contact → Prop} {cs : List Contact}
    (hf : ∀ c ∈ cs, ∀ {db db' : Db}, f db c = some db' → Keeps u D db db') {db db' : Db}
    (h : cs.foldlM f db = some db') : Keeps u D db db' := by
  induction cs generalizing db with
  | nil => cases h; exact .refl u D _
  | cons c cs ih =>
    rw [List.foldlM_cons] at h
    obtain ⟨db₁, h₁, h₂⟩ := Option.bind_eq_some_iff.mp h
    exact (hf c List.mem_cons_self h₁).trans (ih (fun c' hc' => hf c' (List.mem_cons_of_mem c hc')) h₂)

end Db

/-! ## Database calls -/

namespace Outbox

open Db

/-- A call that fails keeps everything. -/
theorem keeps_transaction {o : Outbox} {f : Db → Option Db} {u : String} {D : Contact → Prop}
    (hf : ∀ db', f o.db = some db' → Keeps u D o.db db') : Keeps u D o.db (o.transaction f).2.db := by
  unfold transaction
  dsimp only
  split
  · split
    · rename_i db' hdb
      exact hf db' hdb
    · exact .refl u D _
  · exact .refl u D _

/-- A database call leaves the queue of updates alone. -/
theorem transaction_queue (o : Outbox) (f : Db → Option Db) :
    (o.transaction f).2.contactsToUpdateInDb = o.contactsToUpdateInDb := by
  unfold transaction
  dsimp only
  split
  · split <;> rfl
  · rfl

theorem keeps_add (o : Outbox) (cs : List Contact) (u : String) (D : Contact → Prop) :
    Keeps u D o.db (o.transaction fun db => db.addContacts cs).2.db :=
  keeps_transaction fun _ hs =>
    keeps_foldlM (fun _ _ _ _ h => (stillThere_realAddContact u h).keeps D) hs

theorem keeps_update (o : Outbox) {cs : List Contact} {u : String} {D : Contact → Prop}
    (hcs : ∀ c ∈ cs, c.uid = u → D c) :
    Keeps u D o.db (o.transaction fun db => db.updateContacts cs).2.db :=
  keeps_transaction fun _ hs =>
    keeps_foldlM (fun c hc _ _ h => keeps_realUpdateContact (hcs c hc) h) hs

/-- **The flush of the queue** replaces what is stored for the contacts it holds. -/
theorem keeps_flush {heap : Nat → Contact} {o : Outbox} {u : String} {D : Contact → Prop}
    (h : ∀ r ∈ Table.values o.contactsToUpdateInDb, (heap r).uid = u → D (heap r)) :
    Keeps u D o.db (o.flushDbUpdates heap).db := by
  unfold flushDbUpdates
  split
  · exact .refl u D _
  · rename_i rs _
    refine keeps_update o fun c hc heq => ?_
    obtain ⟨r, hr, rfl⟩ := List.mem_map.mp hc
    exact h r hr heq

/-- A deletion flushes first, and then takes away what is stored for other uids. -/
theorem keeps_announceRemoval {heap : Nat → Contact} {o : Outbox} {u : String} {D : Contact → Prop}
    {uids : List String}
    (h : ∀ r ∈ Table.values o.contactsToUpdateInDb, (heap r).uid = u → D (heap r)) (hu : u ∉ uids) :
    Keeps u D o.db (o.announceRemoval heap uids).db := by
  unfold announceRemoval
  dsimp only
  rw [notifyCompleteAllViews_db, foldl_notify_db]
  have hflush := keeps_flush h
  refine hflush.trans ?_
  have hremoved : Keeps u D ((o.flushDbUpdates heap).notifyRemotelyUpdatedContacts heap).2.db
      (((o.flushDbUpdates heap).notifyRemotelyUpdatedContacts heap).2.transaction
        fun db => some (db.removeContacts uids)).2.db := by
    refine keeps_transaction fun db' hs => ?_
    cases hs
    exact (stillThere_removeContacts hu _).keeps D
  rw [notifyRemotelyUpdatedContacts_db] at hremoved
  exact hremoved

end Outbox

end EdsTelepathy
