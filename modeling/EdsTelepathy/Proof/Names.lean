import EdsTelepathy.Lib.Distinct
import EdsTelepathy.Proof.Due

/-!
# Contacts by name

What a synchronisation does to the names of the contacts. Nearly all of its edits leave the
uid index, the name index and the names alone. The exception is a request to add that
succeeded: the contact may come back under another name, and then it is entered under that
name, or merged into the contact that is there already.
-/

namespace EdsTelepathy

namespace Contact

/-! ## What a merge takes over -/

theorem addMasterUid_masterUids (c : Contact) (uid : Option String) :
    (c.addMasterUid uid).masterUids = Distinct.addNew c.masterUids uid := by
  unfold addMasterUid Distinct.addNew
  split <;> rfl

theorem updateMasterUids_masterUids (c : Contact) (uids : List (Option String)) :
    (c.updateMasterUids uids).masterUids = uids.foldl Distinct.addNew c.masterUids := by
  unfold updateMasterUids
  induction uids generalizing c with
  | nil => rfl
  | cons uid uids ih => rw [List.foldl_cons, ih, addMasterUid_masterUids]; rfl

theorem mem_updateMasterUids (c : Contact) (uids : List (Option String)) (m : Option String) :
    m ∈ (c.updateMasterUids uids).masterUids ↔ m ∈ c.masterUids ∨ m ∈ uids := by
  rw [updateMasterUids_masterUids]
  exact Distinct.mem_foldl_addNew

theorem mem_addVariants (dest src : Contact) (v : String) :
    v ∈ (dest.addVariantsFromContact src).variants ↔ v ∈ dest.variants ∨ v ∈ src.variants := by
  unfold addVariantsFromContact
  dsimp only
  split <;> exact mem_foldl_insert

theorem addVariants_masterUids (dest src : Contact) :
    (dest.addVariantsFromContact src).masterUids = dest.masterUids := by
  unfold addVariantsFromContact
  dsimp only
  split <;> rfl

theorem updateMasterUids_variants (c : Contact) (uids : List (Option String)) :
    (c.updateMasterUids uids).variants = c.variants := by
  refine foldl_inv (I := fun c' : Contact => c'.variants = c.variants) (fun c' uid h => ?_) uids rfl
  unfold addMasterUid
  split <;> exact h

/-- The merged contact has the master UIDs and the variants of both. -/
theorem mergeFrom_gathers (dest src : Contact) :
    (∀ m, m ∈ (dest.mergeFrom src).masterUids ↔ m ∈ dest.masterUids ∨ m ∈ src.masterUids)
      ∧ ∀ v, v ∈ (dest.mergeFrom src).variants ↔ v ∈ dest.variants ∨ v ∈ src.variants := by
  have hm : ∀ m, m ∈ ((dest.addVariantsFromContact src).updateMasterUids src.masterUids).masterUids
      ↔ m ∈ dest.masterUids ∨ m ∈ src.masterUids := by
    intro m
    rw [mem_updateMasterUids, addVariants_masterUids]
  have hv : ∀ v, v ∈ ((dest.addVariantsFromContact src).updateMasterUids src.masterUids).variants
      ↔ v ∈ dest.variants ∨ v ∈ src.variants := by
    intro v
    rw [updateMasterUids_variants, mem_addVariants]
  unfold mergeFrom
  dsimp only
  split <;> exact ⟨hm, hv⟩

/-- The two records have one uid, one name, and the same master UIDs and variants. -/
structure SamePerson (c c' : Contact) : Prop where
  uid : c'.uid = c.uid
  name : c'.name = c.name
  masterUids : c'.masterUids = c.masterUids
  variants : ∀ v, v ∈ c'.variants ↔ v ∈ c.variants

theorem SamePerson.refl (c : Contact) : SamePerson c c := ⟨rfl, rfl, rfl, fun _ => Iff.rfl⟩

theorem SamePerson.trans {c c' c'' : Contact} (h : SamePerson c c') (h' : SamePerson c' c'') :
    SamePerson c c'' :=
  ⟨h'.uid.trans h.uid, h'.name.trans h.name, h'.masterUids.trans h.masterUids,
    fun v => (h'.variants v).trans (h.variants v)⟩

theorem SamePerson.of_eq {c c' : Contact} (hu : c'.uid = c.uid) (hn : c'.name = c.name)
    (hm : c'.masterUids = c.masterUids) (hv : c'.variants = c.variants) : SamePerson c c' :=
  ⟨hu, hn, hm, fun v => by rw [hv]⟩

theorem SameEntry.samePerson {c c' : Contact} (h : SameEntry c c') : SamePerson c c' :=
  .of_eq h.uid h.name h.masterUids h.variants

/-- `run_update_contact` changes only flags. -/
theorem updated_person (c : Contact) (unblocked : Bool) : SamePerson c (c.updated unblocked) := by
  unfold updated unblockAsked
  split
  · split <;> exact .of_eq rfl rfl rfl rfl
  · exact .of_eq rfl rfl rfl rfl

/--
`c` is what the request to add `old` may leave: the same master UIDs, and the name it had
or another one, of which the old one is then a variant.
-/
structure Renamed (old c : Contact) : Prop where
  uid : c.uid = old.uid
  masterUids : c.masterUids = old.masterUids
  variants : ∀ v, v ∈ c.variants ↔ v ∈ old.variants ∨ (old.name = some v ∧ c.name ≠ some v)

theorem renamed_updateName (c : Contact) (n : Option String) : Renamed c (c.updateName n) := by
  have hsame : Renamed c c := ⟨rfl, rfl, fun v => by simp⟩
  unfold updateName
  split
  · exact hsame
  · rename_i n
    split
    · exact hsame
    · rename_i hne
      split
      · rename_i old hold
        refine ⟨rfl, rfl, fun v => ?_⟩
        rw [List.mem_insert_iff, hold]
        constructor
        · rintro (rfl | h)
          · exact .inr ⟨rfl, fun he => hne (hold.trans he.symm)⟩
          · exact .inl h
        · rintro (h | ⟨h, -⟩)
          · exact .inr h
          · exact .inl (Option.some.inj h).symm
      · rename_i hnone
        refine ⟨rfl, rfl, fun v => ?_⟩
        rw [hnone]
        simp

theorem Renamed.refl (c : Contact) : Renamed c c := ⟨rfl, rfl, fun v => by simp⟩

end Contact

theorem Cl.renamed_runAddContact (cl : Cl) (c : Contact) (w : Wire) :
    Contact.Renamed c (cl.runAddContact c w).2.1 := by
  unfold Cl.runAddContact
  split
  · dsimp only
    split
    · split
      · split
        · have h := Contact.renamed_updateName { c with handle := (w.ask (.requestHandles c.name)).1.handle }
            ((w.ask (.requestHandles c.name)).2.ask
              (.inspectHandles (w.ask (.requestHandles c.name)).1.handle)).1.name
          exact ⟨h.uid, h.masterUids, h.variants⟩
        · have h := Contact.Renamed.refl c
          exact ⟨h.uid, h.masterUids, h.variants⟩
      · exact .refl c
    · exact .refl c
  · exact .refl c

/-- **A request to add a contact only renames it.** -/
theorem Backend.renamed_runAddContact (b : Backend) (c : Contact) :
    Contact.Renamed c (b.runAddContact c).2.1 := by
  have h := Cl.renamed_runAddContact b.tpcl c b.wire
  unfold Backend.runAddContact
  split
  · exact .refl c
  · generalize b.tpcl.runAddContact c b.wire = p at h
    obtain ⟨_ | ⟨_ | _⟩, c', w⟩ := p
    · exact h
    · exact h
    · exact ⟨h.uid, h.masterUids, h.variants⟩

namespace Book

/-! ## Contacts by name -/

/-- The contact waits to be added on the server. -/
def AwaitsAdd (b : Book) (r : Nat) : Prop := r ∈ Table.values b.contactsToAdd

instance (b : Book) (r : Nat) : Decidable (b.AwaitsAdd r) :=
  inferInstanceAs (Decidable (r ∈ Table.values b.contactsToAdd))

/-- The uid index and the name index hold the same contacts, under their uids and their names. -/
structure NamesAgree (b : Book) : Prop where
  uid : ∀ k r, b.uidToContact.lookup k = some r →
    (b.contacts r).uid = k ∧ b.nameToContact.lookup (b.contacts r).name = some r
  name : ∀ n r, b.nameToContact.lookup n = some r → (b.contacts r).name = n ∧ b.Live r

theorem NamesAgree.live {b : Book} (h : b.NamesAgree) {k : String} {r : Nat}
    (hr : b.uidToContact.lookup k = some r) : b.Live r := by
  unfold Live
  rw [(h.uid k r hr).1]
  exact hr

theorem NamesAgree.nameOf {b : Book} (h : b.NamesAgree) {r : Nat} (hr : b.Live r) :
    b.nameToContact.lookup (b.contacts r).name = some r := (h.uid _ r hr).2

/-- Two live contacts with one name are the same. -/
theorem NamesAgree.eq_of_name {b : Book} (h : b.NamesAgree) {r r' : Nat} (hr : b.Live r)
    (hr' : b.Live r') (he : (b.contacts r').name = (b.contacts r).name) : r' = r := by
  have h1 := h.nameOf hr'
  rw [he, h.nameOf hr] at h1
  exact (Option.some.inj h1).symm

/-- Two live contacts with one uid are the same. -/
theorem eq_of_uid {b : Book} {r r' : Nat} (hr : b.Live r) (hr' : b.Live r')
    (he : (b.contacts r').uid = (b.contacts r).uid) : r' = r := by
  unfold Live at hr hr'
  rw [he, hr] at hr'
  exact (Option.some.inj hr').symm

/-- What a synchronisation starts from: whoever waits is in the indexes. -/
structure Ready (b : Book) : Prop where
  names : b.NamesAgree
  waiting : ∀ k r, b.contactsToAdd.lookup k = some r → (b.contacts r).uid = k ∧ b.Live r

instance (b : Book) : Decidable b.NamesAgree :=
  decidable_of_iff
    ((∀ e ∈ b.uidToContact.entries, (b.contacts e.2).uid = e.1
        ∧ b.nameToContact.lookup (b.contacts e.2).name = some e.2)
      ∧ ∀ e ∈ b.nameToContact.entries, (b.contacts e.2).name = e.1 ∧ b.Live e.2)
    ⟨fun h => ⟨Table.forall_lookup.mp h.1, Table.forall_lookup.mp h.2⟩,
      fun h => ⟨Table.forall_lookup.mpr h.uid, Table.forall_lookup.mpr h.name⟩⟩

instance (b : Book) : Decidable b.Ready :=
  decidable_of_iff
    (b.NamesAgree ∧ ∀ e ∈ b.contactsToAdd.entries, (b.contacts e.2).uid = e.1 ∧ b.Live e.2)
    ⟨fun h => ⟨h.1, Table.forall_lookup.mp h.2⟩,
      fun h => ⟨h.names, Table.forall_lookup.mpr h.waiting⟩⟩

/-! ## Edits that leave names alone -/

/-- The tables by uid and by name, and what is known of every contact, are the same. -/
structure SameNames (b b' : Book) : Prop where
  uid : ∀ k, b'.uidToContact.lookup k = b.uidToContact.lookup k
  name : ∀ n, b'.nameToContact.lookup n = b.nameToContact.lookup n
  contacts : ∀ r, Contact.SamePerson (b.contacts r) (b'.contacts r)

theorem SameNames.refl (b : Book) : SameNames b b :=
  ⟨fun _ => rfl, fun _ => rfl, fun _ => .refl _⟩

theorem SameNames.trans {b b' b'' : Book} (h : SameNames b b') (h' : SameNames b' b'') :
    SameNames b b'' :=
  ⟨fun k => (h'.uid k).trans (h.uid k), fun n => (h'.name n).trans (h.name n),
    fun r => (h.contacts r).trans (h'.contacts r)⟩

theorem SameNames.live {b b' : Book} (h : SameNames b b') (r : Nat) : b'.Live r ↔ b.Live r := by
  unfold Live
  rw [(h.contacts r).uid, h.uid]

theorem sameNames_modify {b : Book} {r : Nat} {f : Contact → Contact}
    (hf : Contact.SamePerson (b.contacts r) (f (b.contacts r))) : SameNames b (b.modify r f) := by
  refine ⟨fun _ => rfl, fun _ => rfl, fun r' => ?_⟩
  by_cases he : r' = r
  · subst he
    rw [modify_contacts_self]
    exact hf
  · rw [modify_contacts_of_ne he]
    exact .refl _

end Book

/--
The edit neither brings a contact nor takes one away, and it leaves names, master UIDs and
variants alone. What phase 3 adds is not meant here.
-/
def Edit.Peaceful (b : Book) : Edit → Prop
  | .memberReported _ cIn => (b.nameToContact.lookup cIn.name).isSome = true
  | .contactAdded _ cIn => (b.nameToContact.lookup cIn.name).isSome = true
  | .deleteContacts rs => rs = []
  | .touch _ (.submitted _ _) => False
  | .touch _ (.removeTokens _) => False
  | .touch _ _ => True
  | .importContact _ => False
  | .createContact _ => False
  | .modified _ _ _ _ _ => False
  | .scheduleRemoval _ => False
  | .mergeByHandle _ _ => True
  | .forgetHandles => True
  | .addDone _ _ => True
  | .addFailed _ _ => True
  | .removalDone _ => True

instance (b : Book) : DecidablePred (Edit.Peaceful b)
  | .memberReported _ cIn =>
    inferInstanceAs (Decidable ((b.nameToContact.lookup cIn.name).isSome = true))
  | .contactAdded _ cIn =>
    inferInstanceAs (Decidable ((b.nameToContact.lookup cIn.name).isSome = true))
  | .deleteContacts rs => inferInstanceAs (Decidable (rs = []))
  | .touch _ (.submitted _ _) => .isFalse id
  | .touch _ (.removeTokens _) => .isFalse id
  | .touch _ .clearDelete => .isTrue trivial
  | .touch _ (.updated _) => .isTrue trivial
  | .touch _ .masterUidsStored => .isTrue trivial
  | .touch _ .nothingPending => .isTrue trivial
  | .importContact _ => .isFalse id
  | .createContact _ => .isFalse id
  | .modified _ _ _ _ _ => .isFalse id
  | .scheduleRemoval _ => .isFalse id
  | .mergeByHandle _ _ => .isTrue trivial
  | .forgetHandles => .isTrue trivial
  | .addDone _ _ => .isTrue trivial
  | .addFailed _ _ => .isTrue trivial
  | .removalDone _ => .isTrue trivial

namespace Book

/-- Entering a contact under a handle is no matter of names. -/
theorem sameNames_enterHandle (b : Book) (h r : Nat) : SameNames b (b.enterHandle h r) := by
  unfold enterHandle
  split
  · exact .refl b
  · exact ⟨fun _ => rfl, fun _ => rfl, fun _ => .refl _⟩

/-- **A peaceful edit leaves the names alone.** -/
theorem sameNames_apply {b : Book} (h : b.NamesAgree) {e : Edit} (he : e.Peaceful b)
    (hadd : ∀ r c, e ≠ .addDone r c ∧ e ≠ .addFailed r c) : SameNames b (b.apply e) := by
  cases e with
  | memberReported pathSuffix cIn =>
    obtain ⟨r, hr⟩ := Option.isSome_iff_exists.mp he
    have hseen : SameNames b (b.modify r cIn.seen) := sameNames_modify (.of_eq rfl rfl rfl rfl)
    unfold apply memberReported
    dsimp only
    rw [hr]
    exact hseen.trans (sameNames_enterHandle _ _ _)
  | contactAdded pathSuffix cIn =>
    obtain ⟨r, hr⟩ := Option.isSome_iff_exists.mp he
    have hlive := (h.name _ _ hr).2
    have hmod : SameNames b (b.contactConfirmed r cIn) := sameNames_modify (.of_eq rfl rfl rfl rfl)
    unfold apply contactAdded
    dsimp only
    rw [hr]
    refine hmod.trans ⟨fun k => ?_, fun _ => rfl, fun _ => .refl _⟩
    -- the contact is in the uid index already
    show ((b.contactConfirmed r cIn).uidToContact.insert _ r).lookup k = _
    rw [Table.lookup_insert_ite]
    split
    · rename_i heq
      rw [heq]
      exact ((hmod.live r).mpr hlive).symm
    · rfl
  | mergeByHandle f cIn =>
    unfold apply mergeByHandle
    dsimp only
    split
    · have hf := f.sameEntry cIn
      exact sameNames_modify (hf _).samePerson
    · exact .refl b
  | touch r t =>
    refine sameNames_modify ?_
    cases t with
    | submitted c unblocked => exact he.elim
    | removeTokens tokens => exact he.elim
    | updated unblocked => exact Contact.updated_person (b.contacts r) unblocked
    | clearDelete => exact .of_eq rfl rfl rfl rfl
    | masterUidsStored => exact .of_eq rfl rfl rfl rfl
    | nothingPending => exact .of_eq rfl rfl rfl rfl
  | deleteContacts rs =>
    have hnil : rs = [] := he
    subst hnil
    exact .refl b
  | forgetHandles => exact ⟨fun _ => rfl, fun _ => rfl, fun _ => .refl _⟩
  | removalDone r =>
    have hmod : SameNames b (b.modify r Contact.clearDelete) := sameNames_modify (.of_eq rfl rfl rfl rfl)
    exact hmod.trans ⟨fun _ => rfl, fun _ => rfl, fun _ => .refl _⟩
  | addDone r c => exact absurd rfl (hadd r c).1
  | addFailed r c => exact absurd rfl (hadd r c).2
  | importContact c => exact he.elim
  | createContact c => exact he.elim
  | modified r ec vcardField sent stored => exact he.elim
  | scheduleRemoval r => exact he.elim

theorem toAdd_peaceful {b : Book} {e : Edit} (he : e.Peaceful b)
    (hadd : ∀ r c, e ≠ .addDone r c ∧ e ≠ .addFailed r c) :
    (b.apply e).contactsToAdd = b.contactsToAdd := by
  cases e with
  | memberReported pathSuffix cIn =>
    obtain ⟨r, hr⟩ := Option.isSome_iff_exists.mp he
    unfold apply memberReported enterHandle
    dsimp only
    rw [hr]
    dsimp only
    split <;> rfl
  | contactAdded pathSuffix cIn =>
    obtain ⟨r, hr⟩ := Option.isSome_iff_exists.mp he
    unfold apply contactAdded
    dsimp only
    rw [hr]
    rfl
  | mergeByHandle f cIn =>
    unfold apply mergeByHandle
    dsimp only
    split <;> rfl
  | deleteContacts rs =>
    have hnil : rs = [] := he
    subst hnil
    rfl
  | touch r t => rfl
  | forgetHandles => rfl
  | removalDone r => rfl
  | addDone r c => exact absurd rfl (hadd r c).1
  | addFailed r c => exact absurd rfl (hadd r c).2
  | importContact c => exact he.elim
  | createContact c => exact he.elim
  | modified r ec vcardField sent stored => exact he.elim
  | scheduleRemoval r => exact he.elim

/-! ## Creating contacts offline -/

/-- A contact that is known by name takes over what was submitted. -/
theorem Ready.submitted {b : Book} (h : b.Ready) (r : Nat) (c : Contact) (unblocked : Bool) :
    (b.apply (.touch r (.submitted c unblocked))).Ready := by
  have hkeys : ∀ x, Contact.SameKeys (b.contacts x)
      ((b.apply (.touch r (.submitted c unblocked))).contacts x) := by
    intro x
    by_cases hx : x = r
    · subst hx
      unfold apply
      dsimp only
      rw [modify_contacts_self]
      exact Touch.sameKeys _ _
    · unfold apply
      dsimp only
      rw [modify_contacts_of_ne hx]
      exact ⟨rfl, rfl, rfl⟩
  have hlive : ∀ {x}, b.Live x → (b.apply (.touch r (.submitted c unblocked))).Live x := by
    intro x hx
    unfold Live
    rw [(hkeys x).1]
    exact hx
  refine ⟨⟨fun k x hk => ?_, fun n x hn => ?_⟩, fun k x hk => ?_⟩
  · rw [(hkeys x).1, (hkeys x).2.1]
    exact h.names.uid k x hk
  · rw [(hkeys x).2.1]
    exact ⟨(h.names.name n x hn).1, hlive (h.names.name n x hn).2⟩
  · rw [(hkeys x).1]
    exact ⟨(h.waiting k x hk).1, hlive (h.waiting k x hk).2⟩

/-- **A contact created offline under a new name waits, and is in the indexes.** -/
theorem Ready.create {b : Book} (h : b.Ready) (ha : b.Allocated) {c : Contact}
    (hp : (Edit.createContact c).Proper b) :
    (b.apply (.createContact c)).Ready ∧ (b.apply (.createContact c)).AwaitsAdd b.next := by
  obtain ⟨hname, huid, hcreated⟩ := hp
  have hbook : b.apply (.createContact c) = _ := createContact_added b hcreated.add
  rw [hbook]
  have hnew : (b.alloc c).contacts b.next = c := alloc_contacts_next b c
  have hold : ∀ {x}, b.Live x → (b.alloc c).contacts x = b.contacts x := fun hx =>
    alloc_contacts_of_ne (Nat.ne_of_lt (ha.uid _ _ hx))
  have hlive : ∀ {x}, b.Live x → (b.uidToContact.insert c.uid b.next).lookup
      ((b.alloc c).contacts x).uid = some x := by
    intro x hx
    -- the uid of the new contact was free
    rw [hold hx, Table.lookup_insert_ite, if_neg]
    · exact hx
    · intro he
      unfold Live at hx
      rw [he, huid] at hx
      cases hx
  have hself : (b.uidToContact.insert c.uid b.next).lookup ((b.alloc c).contacts b.next).uid
      = some b.next := by
    rw [hnew]
    exact AList.lookup_insert _
  refine ⟨⟨⟨fun k x hk => ?_, fun n x hn => ?_⟩, fun k x hk => ?_⟩,
    Table.mem_values.mpr ⟨c.uid, AList.lookup_insert _⟩⟩
  · show ((b.alloc c).contacts x).uid = k
      ∧ (b.nameToContact.insert c.name b.next).lookup ((b.alloc c).contacts x).name = some x
    rcases Table.lookup_insert_eq_some.mp hk with ⟨rfl, rfl⟩ | ⟨hne, hk⟩
    · rw [hnew]
      exact ⟨rfl, AList.lookup_insert _⟩
    · obtain ⟨hu, hn⟩ := h.names.uid k x hk
      -- and so was its name
      rw [hold (h.names.live hk), Table.lookup_insert_ite, if_neg]
      · exact ⟨hu, hn⟩
      · intro he
        rw [he, hname] at hn
        cases hn
  · rcases Table.lookup_insert_eq_some.mp hn with ⟨rfl, rfl⟩ | ⟨hne, hn⟩
    · exact ⟨congrArg Contact.name hnew, hself⟩
    · obtain ⟨hxn, hxl⟩ := h.names.name n x hn
      exact ⟨(congrArg Contact.name (hold hxl)).trans hxn, hlive hxl⟩
  · rcases Table.lookup_insert_eq_some.mp hk with ⟨rfl, rfl⟩ | ⟨hne, hk⟩
    · exact ⟨congrArg Contact.uid hnew, hself⟩
    · obtain ⟨hu, hl⟩ := h.waiting k x hk
      exact ⟨(congrArg Contact.uid (hold hl)).trans hu, hlive hl⟩

/-! ## A request to add that succeeds -/

/-- The name the contact had is the one the server uses. -/
theorem sameNames_addDone {b : Book} {r : Nat} {c : Contact}
    (hc : Contact.Renamed (b.contacts r) c) (hname : c.name = (b.contacts r).name) :
    SameNames b (b.addDone r c)
      ∧ (b.addDone r c).contactsToAdd = b.contactsToAdd.erase (b.contacts r).uid := by
  have hsame : SameNames b (b.modify r fun _ => c.clearAdd) := by
    refine sameNames_modify ⟨hc.uid, hname, hc.masterUids, fun v => ?_⟩
    refine (hc.variants v).trans ⟨?_, .inl⟩
    rintro (h | ⟨h, hne⟩)
    · exact h
    · exact absurd (hname.trans h) hne
  have hself : ((b.modify r fun _ => c.clearAdd).contacts r) = c.clearAdd := modify_contacts_self b r _
  rw [addDone_same hname]
  refine ⟨hsame.trans ⟨fun _ => rfl, fun _ => rfl, fun _ => .refl _⟩, ?_⟩
  unfold unscheduleAdd
  dsimp only
  rw [hself]
  exact congrArg (b.contactsToAdd.erase ·) hc.uid

/-- The contact `r` has gone to the name of `c`, where `own` is the contact from now on. -/
structure Moved (b : Book) (r : Nat) (c : Contact) (own : Nat) (b' : Book) : Prop where
  owner : (own = r ∧ b.nameToContact.lookup c.name = none)
    ∨ (own ≠ r ∧ b.nameToContact.lookup c.name = some own)
  nameTable : ∀ n, b'.nameToContact.lookup n
    = if n = c.name then some own else if n = (b.contacts r).name then none
      else b.nameToContact.lookup n
  uidTable : ∀ k, b'.uidToContact.lookup k
    = if own ≠ r ∧ k = (b.contacts r).uid then none else b.uidToContact.lookup k
  toAdd : b'.contactsToAdd = b.contactsToAdd.erase (b.contacts r).uid
  uid : ∀ x, (b'.contacts x).uid = (b.contacts x).uid
  name : ∀ x, (b'.contacts x).name = if x = r then c.name else (b.contacts x).name
  others : ∀ x, x ≠ r → x ≠ own → Contact.SamePerson (b.contacts x) (b'.contacts x)
  masterUids : ∀ m, m ∈ (b'.contacts own).masterUids
    ↔ (own ≠ r ∧ m ∈ (b.contacts own).masterUids) ∨ m ∈ (b.contacts r).masterUids
  variants : ∀ v, v ∈ (b'.contacts own).variants
    ↔ (own ≠ r ∧ v ∈ (b.contacts own).variants) ∨ v ∈ (b.contacts r).variants
      ∨ (b.contacts r).name = some v

/-- The name is free: the contact is entered under it. -/
theorem moved_enterName {b : Book} {r : Nat} {c : Contact}
    (hc : Contact.Renamed (b.contacts r) c) (hne : c.name ≠ (b.contacts r).name)
    (hfree : b.nameToContact.lookup c.name = none) :
    Moved b r c r
      ((((b.modify r fun _ => c.clearAdd).forgetName (b.contacts r).name).enterName r).unscheduleAdd
        r) := by
  have hself : (b.modify r fun _ => c.clearAdd).contacts r = c.clearAdd := modify_contacts_self b r _
  have hother : ∀ {x}, x ≠ r → (b.modify r fun _ => c.clearAdd).contacts x = b.contacts x :=
    fun hx => modify_contacts_of_ne hx
  refine ⟨.inl ⟨rfl, hfree⟩, fun n => ?_, fun k => ?_, ?_, fun x => ?_, fun x => ?_,
    fun x hx _ => ?_, fun m => ?_, fun v => ?_⟩
  · -- the table of names: the old entry goes, and the new one is for the same contact
    show ((b.nameToContact.erase _).insert ((b.modify r fun _ => c.clearAdd).contacts r).name
      r).lookup n = _
    rw [hself, Table.lookup_insert_ite, Table.lookup_erase_ite]
    rfl
  · rw [if_neg fun h => h.1 rfl]
    rfl
  · show b.contactsToAdd.erase ((b.modify r fun _ => c.clearAdd).contacts r).uid = _
    rw [hself]
    exact congrArg (b.contactsToAdd.erase ·) hc.uid
  · show ((b.modify r fun _ => c.clearAdd).contacts x).uid = _
    by_cases hx : x = r
    · subst hx
      rw [hself]
      exact hc.uid
    · rw [hother hx]
  · show ((b.modify r fun _ => c.clearAdd).contacts x).name = _
    by_cases hx : x = r
    · subst hx
      rw [hself, if_pos rfl]
      rfl
    · rw [hother hx, if_neg hx]
  · show Contact.SamePerson _ ((b.modify r fun _ => c.clearAdd).contacts x)
    rw [hother hx]
    exact .refl _
  · show m ∈ ((b.modify r fun _ => c.clearAdd).contacts r).masterUids ↔ _
    rw [hself]
    show m ∈ c.masterUids ↔ _
    rw [hc.masterUids]
    simp
  · show v ∈ ((b.modify r fun _ => c.clearAdd).contacts r).variants ↔ _
    rw [hself]
    -- the old name joins the variants
    refine (hc.variants v).trans ⟨?_, ?_⟩
    · rintro (h | ⟨h, -⟩)
      · exact .inr (.inl h)
      · exact .inr (.inr h)
    · rintro (⟨h, -⟩ | h | h)
      · exact absurd rfl h
      · exact .inl h
      · exact .inr ⟨h, fun he => hne (he.trans h.symm)⟩

/-- The name has a contact: the one that was added is merged into it. -/
theorem moved_mergeContacts {b : Book} (h : b.NamesAgree) {r dest : Nat} {c : Contact}
    (hr : b.Live r) (hc : Contact.Renamed (b.contacts r) c) (hne : c.name ≠ (b.contacts r).name)
    (hdest : b.nameToContact.lookup c.name = some dest) :
    Moved b r c dest
      ((((b.modify r fun _ => c.clearAdd).forgetName (b.contacts r).name).mergeContacts dest
        r).unscheduleAdd r) := by
  obtain ⟨hdname, hdlive⟩ := h.name _ _ hdest
  have hdr : dest ≠ r := by
    rintro rfl
    exact hne hdname.symm
  -- the book in which `dest` has taken over what `r` has
  let b₁ := (b.modify r fun _ => c.clearAdd).forgetName (b.contacts r).name
  let b₂ := b₁.modify dest fun d => d.mergeFrom (b₁.contacts r)
  have hb₁r : b₁.contacts r = c.clearAdd := modify_contacts_self b r fun _ => c.clearAdd
  have hb₁o : ∀ {x}, x ≠ r → b₁.contacts x = b.contacts x := fun hx =>
    modify_contacts_of_ne (f := fun _ => c.clearAdd) hx
  have hb₂r : b₂.contacts r = c.clearAdd :=
    (modify_contacts_of_ne fun he => hdr he.symm).trans hb₁r
  have hb₂d : b₂.contacts dest = (b.contacts dest).mergeFrom c.clearAdd := by
    have hstep : b₂.contacts dest = (b₁.contacts dest).mergeFrom (b₁.contacts r) :=
      modify_contacts_self ..
    rw [hstep, hb₁r, hb₁o hdr]
  have hb₂o : ∀ {x}, x ≠ r → x ≠ dest → b₂.contacts x = b.contacts x := fun h1 h2 =>
    (modify_contacts_of_ne h2).trans (hb₁o h1)
  have hkeys := Contact.sameKeys_mergeFrom (b.contacts dest) c.clearAdd
  have hgather := Contact.mergeFrom_gathers (b.contacts dest) c.clearAdd
  have hcon : ∀ x, ((b₂.deleteContact r).reenter dest).contacts x = b₂.contacts x := fun x =>
    congrFun (deleteContact_contacts b₂ r) x
  refine ⟨.inr ⟨hdr, hdest⟩, fun n => ?_, fun k => ?_, ?_, fun x => ?_, fun x => ?_,
    fun x hx hd => ?_, fun m => ?_, fun v => ?_⟩
  · show ((b₂.deleteContact r).nameToContact.insert ((b₂.deleteContact r).contacts dest).name
      dest).lookup n = _
    have hb : b₂.nameToContact = b.nameToContact.erase (b.contacts r).name := rfl
    rw [deleteContact_contacts, hb₂d, hkeys.2.1, hdname, deleteContact_name, hb₂r, hb,
      Table.lookup_insert_ite, Table.lookup_erase_ite, Table.lookup_erase_ite]
    by_cases hn : n = c.name
    · rw [if_pos hn, if_pos hn]
    · have hn' : n ≠ c.clearAdd.name := hn
      rw [if_neg hn, if_neg hn, if_neg hn']
  · show ((b₂.deleteContact r).uidToContact.insert ((b₂.deleteContact r).contacts dest).uid
      dest).lookup k = _
    have hb : b₂.uidToContact = b.uidToContact := rfl
    have huid : c.clearAdd.uid = (b.contacts r).uid := hc.uid
    rw [deleteContact_contacts, hb₂d, hkeys.1, deleteContact_uid, hb₂r, hb, huid,
      Table.lookup_insert_ite, Table.lookup_erase_ite]
    by_cases hk : k = (b.contacts dest).uid
    · subst hk
      rw [if_pos rfl, if_neg]
      · exact hdlive.symm
      · exact fun hc => hdr (eq_of_uid hr hdlive hc.2)
    · rw [if_neg hk]
      by_cases hkr : k = (b.contacts r).uid
      · rw [if_pos hkr, if_pos ⟨hdr, hkr⟩]
      · rw [if_neg hkr, if_neg fun hc => hkr hc.2]
  · show (b₂.deleteContact r).contactsToAdd.erase
      (((b₂.deleteContact r).reenter dest).contacts r).uid = _
    rw [hcon, hb₂r, deleteContact_toAdd]
    exact congrArg (b.contactsToAdd.erase ·) hc.uid
  · refine (congrArg Contact.uid (hcon x)).trans ?_
    by_cases hx : x = r
    · subst hx
      rw [hb₂r]
      exact hc.uid
    · by_cases hd : x = dest
      · subst hd
        rw [hb₂d]
        exact hkeys.1
      · rw [hb₂o hx hd]
  · refine (congrArg Contact.name (hcon x)).trans ?_
    by_cases hx : x = r
    · subst hx
      rw [hb₂r, if_pos rfl]
      rfl
    · rw [if_neg hx]
      by_cases hd : x = dest
      · subst hd
        rw [hb₂d]
        exact hkeys.2.1
      · rw [hb₂o hx hd]
  · have hx' : ((b₂.deleteContact r).reenter dest).contacts x = b.contacts x :=
      (hcon x).trans (hb₂o hx hd)
    show Contact.SamePerson _ (((b₂.deleteContact r).reenter dest).contacts x)
    rw [hx']
    exact .refl _
  · show m ∈ (((b₂.deleteContact r).reenter dest).contacts dest).masterUids ↔ _
    rw [hcon, hb₂d, hgather.1]
    show _ ∨ m ∈ c.masterUids ↔ _
    rw [hc.masterUids]
    simp [hdr]
  · show v ∈ (((b₂.deleteContact r).reenter dest).contacts dest).variants ↔ _
    rw [hcon, hb₂d, hgather.2]
    have hv : v ∈ c.clearAdd.variants
        ↔ v ∈ (b.contacts r).variants ∨ (b.contacts r).name = some v := by
      refine (hc.variants v).trans ⟨?_, ?_⟩
      · rintro (h | ⟨h, -⟩)
        · exact .inl h
        · exact .inr h
      · rintro (h | h)
        · exact .inl h
        · exact .inr ⟨h, fun he => hne (he.trans h.symm)⟩
    rw [hv]
    simp [hdr]

/-- **A contact that the server calls by another name goes there.** -/
theorem moved_addDone {b : Book} (h : b.NamesAgree) {r : Nat} {c : Contact} (hr : b.Live r)
    (hc : Contact.Renamed (b.contacts r) c) (hne : c.name ≠ (b.contacts r).name) :
    ∃ own, Moved b r c own (b.addDone r c) := by
  cases hdest : b.nameToContact.lookup c.name with
  | none =>
    rw [addDone_free hne hdest]
    exact ⟨r, moved_enterName hc hne hdest⟩
  | some dest =>
    rw [addDone_merged hne hdest]
    exact ⟨dest, moved_mergeContacts h hr hc hne hdest⟩

section

variable {b b' : Book} {r own : Nat} {c : Contact}

theorem Moved.owner_live (hm : Moved b r c own b') (h : b.NamesAgree) (hr : b.Live r) :
    b.Live own := by
  rcases hm.owner with ⟨rfl, -⟩ | ⟨-, ho⟩
  · exact hr
  · exact (h.name _ _ ho).2

/-- Whoever was live still is, except for a contact that was merged into another one. -/
theorem Moved.live_iff (hm : Moved b r c own b') (hr : b.Live r) (x : Nat) :
    b'.Live x ↔ b.Live x ∧ (x = r → own = r) := by
  unfold Live
  rw [hm.uid, hm.uidTable]
  constructor
  · intro hx
    split at hx
    · cases hx
    · rename_i hc
      refine ⟨hx, fun he => ?_⟩
      by_contra ho
      exact hc ⟨ho, by rw [he]⟩
  · rintro ⟨hx, hxr⟩
    rw [if_neg]
    · exact hx
    · rintro ⟨ho, hu⟩
      exact ho (hxr (eq_of_uid hr hx hu))

theorem Moved.owner_live' (hm : Moved b r c own b') (h : b.NamesAgree) (hr : b.Live r) :
    b'.Live own := (hm.live_iff hr own).mpr ⟨hm.owner_live h hr, id⟩

theorem Moved.owner_name (hm : Moved b r c own b') (h : b.NamesAgree) :
    (b'.contacts own).name = c.name := by
  rw [hm.name]
  split
  · rfl
  · rename_i hne
    rcases hm.owner with ⟨ho, -⟩ | ⟨-, ho⟩
    · exact absurd ho hne
    · exact (h.name _ _ ho).1

/-- A live contact other than the owner has neither the old name nor the new one. -/
theorem Moved.apart (hm : Moved b r c own b') (h : b.NamesAgree) (hr : b.Live r) {x : Nat}
    (hx : b'.Live x) (ho : x ≠ own) :
    x ≠ r ∧ (b.contacts x).name ≠ (b.contacts r).name ∧ (b.contacts x).name ≠ c.name := by
  obtain ⟨hxb, hxr⟩ := (hm.live_iff hr x).mp hx
  have hne : x ≠ r := fun he => ho (he.trans (hxr he).symm)
  refine ⟨hne, fun he => hne (h.eq_of_name hr hxb he), fun he => ?_⟩
  have hlook := h.nameOf hxb
  rw [he] at hlook
  rcases hm.owner with ⟨-, hfree⟩ | ⟨-, ho'⟩
  · rw [hfree] at hlook
    cases hlook
  · rw [ho'] at hlook
    exact ho (Option.some.inj hlook).symm

/-- **The two indexes agree afterwards.** -/
theorem Moved.namesAgree (hm : Moved b r c own b') (h : b.NamesAgree) (hr : b.Live r) :
    b'.NamesAgree := by
  refine ⟨fun k x hk => ?_, fun n x hn => ?_⟩
  · have hk' := hk
    rw [hm.uidTable] at hk'
    split at hk'
    · cases hk'
    · have hux := (h.uid k x hk').1
      have hx : b'.Live x := by
        unfold Live
        rw [hm.uid, hux]
        exact hk
      refine ⟨(hm.uid x).trans hux, ?_⟩
      by_cases ho : x = own
      · rw [ho, hm.owner_name h, hm.nameTable, if_pos rfl]
      · obtain ⟨hne, hold, hnew⟩ := hm.apart h hr hx ho
        rw [hm.name, if_neg hne, hm.nameTable, if_neg hnew, if_neg hold]
        exact (h.uid k x hk').2
  · rw [hm.nameTable] at hn
    split at hn
    · rename_i he
      cases hn
      exact ⟨(hm.owner_name h).trans he.symm, hm.owner_live' h hr⟩
    · split at hn
      · cases hn
      · rename_i hold
        obtain ⟨hxname, hxlive⟩ := h.name n x hn
        have hne : x ≠ r := by
          rintro rfl
          exact hold hxname.symm
        rw [hm.name, if_neg hne]
        exact ⟨hxname, (hm.live_iff hr x).mpr ⟨hxlive, fun he => absurd he hne⟩⟩

end

end Book

end EdsTelepathy
