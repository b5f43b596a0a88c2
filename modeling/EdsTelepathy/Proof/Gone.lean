import EdsTelepathy.Proof.Due
import EdsTelepathy.Proof.Sweep

/-!
# What a sync removes

A contact that the roster does not name has to go when phase 2 runs, unless it waits to be
added or is invalid. Phase 2 finds it by the mark that the import has set and under its own
name. So the contacts of the uid index are *covered* by a roster if each is accounted for
or will be found, and a roster that covers them when it arrives does so until phase 2.
-/

namespace EdsTelepathy

namespace Book

/-- The contact is named by the roster, or waits to be added, or is invalid. -/
def Accounted (names : List (Option String)) (b : Book) (r : Nat) : Prop :=
  (b.contacts r).name ∈ names ∨ (b.contacts r).pendingFlags.has scheduleAdd = true
    ∨ (b.contacts r).flags.has contactInvalid = true

/-- Phase 2 will find the contact: it carries the mark and is in the name index under its name. -/
def Findable (b : Book) (r : Nat) : Prop :=
  (b.contacts r).flags.has contactUnseen = true ∧ b.nameToContact.lookup (b.contacts r).name = some r

/-- Every contact of the uid index is accounted for or will be found. -/
def Covered (names : List (Option String)) (b : Book) : Prop :=
  ∀ r ∈ Table.values b.uidToContact, b.Accounted names r ∨ b.Findable r

/-- Whether a name is on a list of names. -/
local instance decidableNamed (n : Option String) (names : List (Option String)) :
    Decidable (n ∈ names) :=
  decidable_of_iff (names.any (fun m => m = n) = true) (by simp)

instance (names : List (Option String)) (b : Book) (r : Nat) : Decidable (b.Accounted names r) :=
  inferInstanceAs (Decidable (_ ∨ _ ∨ _))

instance (b : Book) (r : Nat) : Decidable (b.Findable r) := inferInstanceAs (Decidable (_ ∧ _))

instance (names : List (Option String)) (b : Book) : Decidable (b.Covered names) :=
  inferInstanceAs (Decidable (∀ r ∈ Table.values b.uidToContact, _ ∨ _))

end Book

/--
What must be true of an edit between the roster and phase 2 for the contacts to stay
covered. Whoever is confirmed or added meanwhile is a signal of the roster, or phase 3.
-/
def Edit.KeepsCovered (names : List (Option String)) (b : Book) : Edit → Prop
  | .importContact c => b.nameToContact.lookup c.name = none
  | .memberReported _ cIn =>
    cIn.name ∈ names ∧ ∀ r ∈ b.nameToContact.lookup cIn.name, b.Live r → b.Accounted names r
  | .contactAdded _ _ => False
  | .mergeByHandle .flags cIn =>
    ∀ r ∈ b.handleToContact.lookup cIn.handle, b.Live r →
      (b.contacts r).name ∈ names ∨ (b.contacts r).pendingFlags.has scheduleAdd = true
  | .touch r .nothingPending =>
    b.Live r → (b.contacts r).name ∈ names ∨ (b.contacts r).flags.has contactInvalid = true
      ∨ b.Findable r
  | .scheduleRemoval r =>
    b.Live r → (b.contacts r).name ∈ names ∨ (b.contacts r).flags.has contactInvalid = true
      ∨ b.Findable r
  | .deleteContacts rs =>
    ∀ x ∈ rs, ∀ r ∈ b.nameToContact.lookup (b.contacts x).name,
      r ∈ rs ∨ (b.contacts r).flags.has contactUnseen = false
  | .modified r ec vcardField _ _ =>
    b.Live r → (b.contacts r).flags.has contactInvalid = true
      ∨ (((b.contacts r).updateFromEcontact ec vcardField).2.name = (b.contacts r).name
        ∧ ((b.contacts r).name ∈ names ∨ b.Findable r))
  | .addDone _ _ => False
  | .addFailed r c =>
    b.Live r → (b.contacts r).pendingFlags.has scheduleAdd = true
      ∨ (b.contacts r).flags.has contactInvalid = true ∨ c.name = (b.contacts r).name
  | _ => True

instance (names : List (Option String)) (b : Book) : DecidablePred (Edit.KeepsCovered names b)
  | .importContact c => inferInstanceAs (Decidable (b.nameToContact.lookup c.name = none))
  | .memberReported _ cIn => inferInstanceAs (Decidable
      (cIn.name ∈ names ∧ ∀ r ∈ b.nameToContact.lookup cIn.name, b.Live r → b.Accounted names r))
  | .contactAdded _ _ => .isFalse id
  | .mergeByHandle .flags cIn => inferInstanceAs (Decidable
      (∀ r ∈ b.handleToContact.lookup cIn.handle, b.Live r →
        (b.contacts r).name ∈ names ∨ (b.contacts r).pendingFlags.has scheduleAdd = true))
  | .touch r .nothingPending => inferInstanceAs (Decidable
      (b.Live r → (b.contacts r).name ∈ names ∨ (b.contacts r).flags.has contactInvalid = true
        ∨ b.Findable r))
  | .scheduleRemoval r => inferInstanceAs (Decidable
      (b.Live r → (b.contacts r).name ∈ names ∨ (b.contacts r).flags.has contactInvalid = true
        ∨ b.Findable r))
  | .deleteContacts rs => inferInstanceAs (Decidable
      (∀ x ∈ rs, ∀ r ∈ b.nameToContact.lookup (b.contacts x).name,
        r ∈ rs ∨ (b.contacts r).flags.has contactUnseen = false))
  | .modified r ec vcardField _ _ => inferInstanceAs (Decidable
      (b.Live r → (b.contacts r).flags.has contactInvalid = true
        ∨ (((b.contacts r).updateFromEcontact ec vcardField).2.name = (b.contacts r).name
          ∧ ((b.contacts r).name ∈ names ∨ b.Findable r))))
  | .addDone _ _ => .isFalse id
  | .addFailed r c => inferInstanceAs (Decidable
      (b.Live r → (b.contacts r).pendingFlags.has scheduleAdd = true
        ∨ (b.contacts r).flags.has contactInvalid = true ∨ c.name = (b.contacts r).name))
  | .mergeByHandle .aliasName _ | .mergeByHandle .presence _ | .mergeByHandle .capabilities _
  | .mergeByHandle .contactInfo _ | .mergeByHandle .avatarToken _ | .mergeByHandle .avatarData _ =>
    .isTrue trivial
  | .touch _ .clearDelete | .touch _ (.updated _) | .touch _ (.submitted _ _)
  | .touch _ (.removeTokens _) | .touch _ .masterUidsStored => .isTrue trivial
  | .forgetHandles | .createContact _ | .removalDone _ => .isTrue trivial

namespace Book

variable {names : List (Option String)}

/-! ## One contact -/

/-- A contact stays covered that keeps its name and its bits, and its entry in the name index. -/
structure KeepsCover (b b' : Book) (r : Nat) : Prop where
  name : (b'.contacts r).name = (b.contacts r).name
  add : (b.contacts r).pendingFlags.has scheduleAdd = true →
    (b'.contacts r).pendingFlags.has scheduleAdd = true
  invalid : (b.contacts r).flags.has contactInvalid = true →
    (b'.contacts r).flags.has contactInvalid = true
  unseen : (b.contacts r).flags.has contactUnseen = true →
    (b'.contacts r).flags.has contactUnseen = true
  entry : (b.contacts r).flags.has contactUnseen = true →
    b.nameToContact.lookup (b.contacts r).name = some r →
    b'.nameToContact.lookup (b.contacts r).name = some r

theorem KeepsCover.covered {b b' : Book} {r : Nat} (h : KeepsCover b b' r)
    (hc : b.Accounted names r ∨ b.Findable r) : b'.Accounted names r ∨ b'.Findable r := by
  rcases hc with (hin | hadd | hinvalid) | ⟨hseen, hentry⟩
  · exact .inl (.inl (by rw [h.name]; exact hin))
  · exact .inl (.inr (.inl (h.add hadd)))
  · exact .inl (.inr (.inr (h.invalid hinvalid)))
  · exact .inr ⟨h.unseen hseen, by rw [h.name]; exact h.entry hseen hentry⟩

/-- The contact object stays as it is. -/
theorem keepsCover_of_same {b b' : Book} {r : Nat} (hc : b'.contacts r = b.contacts r)
    (hentry : (b.contacts r).flags.has contactUnseen = true →
      b.nameToContact.lookup (b.contacts r).name = some r →
      b'.nameToContact.lookup (b.contacts r).name = some r) : KeepsCover b b' r :=
  ⟨by rw [hc], by rw [hc]; exact id, by rw [hc]; exact id, by rw [hc]; exact id, hentry⟩

/-- An entry under a new name is in nobody's way. -/
theorem keepsCover_enter {b b' : Book} {r x : Nat} {n : Option String}
    (hc : b'.contacts r = b.contacts r) (hfree : b.nameToContact.lookup n = none)
    (hname : b'.nameToContact = b.nameToContact.insert n x) : KeepsCover b b' r := by
  refine keepsCover_of_same hc fun _ hentry => ?_
  rw [hname]
  refine (AList.lookup_insert_ne fun heq => ?_).trans hentry
  rw [heq, hfree] at hentry
  cases hentry

/-! ## One edit -/

/-- Only one contact object is changed, where it is. -/
theorem covered_modify {b : Book} {x : Nat} {f : Contact → Contact}
    (h : ∀ r, b.Live r → b.Accounted names r ∨ b.Findable r)
    (huid : (f (b.contacts x)).uid = (b.contacts x).uid)
    (hx : b.Live x → (b.modify x f).Accounted names x ∨ (b.modify x f).Findable x) :
    ∀ r, (b.modify x f).Live r → (b.modify x f).Accounted names r ∨ (b.modify x f).Findable r := by
  intro r hl
  by_cases he : r = x
  · subst he
    refine hx ?_
    unfold Live at hl ⊢
    rw [modify_contacts_self, huid] at hl
    exact hl
  · have hc : (b.modify x f).contacts r = b.contacts r := modify_contacts_of_ne he
    have hl' : b.Live r := by
      unfold Live at hl ⊢
      rw [hc] at hl
      exact hl
    exact (keepsCover_of_same hc fun _ hentry => hentry).covered (h r hl')

/-- The change of one contact object keeps its name and the bits that cover it. -/
theorem covered_modify_of_keeps {b : Book} {x : Nat} {f : Contact → Contact}
    (h : ∀ r, b.Live r → b.Accounted names r ∨ b.Findable r)
    (huid : (f (b.contacts x)).uid = (b.contacts x).uid)
    (hname : (f (b.contacts x)).name = (b.contacts x).name)
    (hadd : (b.contacts x).pendingFlags.has scheduleAdd = true →
      (f (b.contacts x)).pendingFlags.has scheduleAdd = true)
    (hflags : ∀ m, deny &&& m = 0#32 → (b.contacts x).flags.has m = true →
      (f (b.contacts x)).flags.has m = true) :
    ∀ r, (b.modify x f).Live r → (b.modify x f).Accounted names r ∨ (b.modify x f).Findable r := by
  have hself : (b.modify x f).contacts x = f (b.contacts x) := modify_contacts_self b x f
  have hkeeps : KeepsCover b (b.modify x f) x := by
    refine ⟨?_, ?_, ?_, ?_, fun _ hentry => hentry⟩ <;> rw [hself]
    · exact hname
    · exact hadd
    · exact hflags _ (by decide)
    · exact hflags _ (by decide)
  exact covered_modify h huid fun hl => hkeeps.covered (h x hl)

theorem covered_touch {b : Book} {x : Nat} {t : Touch}
    (h : ∀ r, b.Live r → b.Accounted names r ∨ b.Findable r)
    (hok : (Edit.touch x t).KeepsCovered names b) :
    ∀ r, (b.modify x t.apply).Live r →
      (b.modify x t.apply).Accounted names r ∨ (b.modify x t.apply).Findable r := by
  have hkeeps := Contact.touch_keeps t (b.contacts x)
  have hflags : ∀ m, deny &&& m = 0#32 → (b.contacts x).flags.has m = true →
      (t.apply (b.contacts x)).flags.has m = true := by
    intro m hm hset
    rcases hkeeps.2 with hf | hf <;> rw [hf]
    · exact hset
    · exact (BitVec.clear_has_of_disjoint hm).trans hset
  have hname : (t.apply (b.contacts x)).name = (b.contacts x).name := (t.sameKeys _).2.1
  by_cases hnone : t = .nothingPending
  · subst hnone
    refine covered_modify h rfl fun hl => ?_
    have hself := modify_contacts_self b x Touch.nothingPending.apply
    rcases hok hl with hin | hinvalid | ⟨hseen, hentry⟩
    · exact .inl (.inl (by rw [hself]; exact hin))
    · exact .inl (.inr (.inr (by rw [hself]; exact hinvalid)))
    · exact .inr ⟨by rw [hself]; exact hseen, by rw [hself]; exact hentry⟩
  · refine covered_modify_of_keeps h hkeeps.1 hname (fun hadd => ?_) hflags
    cases t with
    | clearDelete => exact (BitVec.clear_has_of_disjoint (by decide)).trans hadd
    | updated unblocked => exact (Contact.persists_updated _ unblocked).add hadd
    | submitted c unblocked =>
      exact ((Contact.persists_mergeSubmitted _ c).trans (Contact.persists_updated _ unblocked)).add hadd
    | removeTokens tokens => exact (Contact.persists_removeTokens _ tokens).add hadd
    | masterUidsStored => exact (BitVec.clear_has_of_disjoint (by decide)).trans hadd
    | nothingPending => exact absurd rfl hnone

theorem covered_scheduleRemoval {b : Book} {x : Nat}
    (h : ∀ r, b.Live r → b.Accounted names r ∨ b.Findable r)
    (hok : (Edit.scheduleRemoval x).KeepsCovered names b) :
    ∀ r, (b.apply (.scheduleRemoval x)).Live r →
      (b.apply (.scheduleRemoval x)).Accounted names r ∨ (b.apply (.scheduleRemoval x)).Findable r := by
  have hself : (b.modify x fun c => c.nothingPending.markDelete).contacts x
      = (b.contacts x).nothingPending.markDelete := modify_contacts_self b x _
  have hmod := covered_modify (x := x) (f := fun c => c.nothingPending.markDelete) h rfl fun hl => by
    rcases hok hl with hin | hinvalid | ⟨hseen, hentry⟩
    · exact .inl (.inl (by rw [hself]; exact hin))
    · exact .inl (.inr (.inr (by rw [hself]; exact hinvalid)))
    · exact .inr ⟨by rw [hself]; exact hseen, by rw [hself]; exact hentry⟩
  intro r hl
  unfold Live at hl
  unfold Accounted Findable
  rw [contacts_scheduleRemoval] at hl ⊢
  exact hmod r hl

theorem covered_modified {b : Book} {x : Nat} {ec : Contact.EVCard} {vcardField : String}
    {sent stored : Bool} (h : ∀ r, b.Live r → b.Accounted names r ∨ b.Findable r)
    (hok : (Edit.modified x ec vcardField sent stored).KeepsCovered names b) :
    ∀ r, (b.modified x ec vcardField sent stored).Live r →
      (b.modified x ec vcardField sent stored).Accounted names r
        ∨ (b.modified x ec vcardField sent stored).Findable r := by
  have hd := Contact.decoded_updateFromEcontact (b.contacts x) ec vcardField
  obtain ⟨hother, pending, hself, -⟩ := modified_onlyAt b x ec vcardField sent stored
  obtain ⟨-, hn, hu⟩ := modified_tables b x ec vcardField sent stored
  intro r hl
  unfold Live at hl
  rw [hu] at hl
  by_cases he : r = x
  · subst he
    have hl' : b.Live r := by
      unfold Live
      rw [hself] at hl
      rw [← hd.uid]; exact hl
    have hflags : ((b.modified r ec vcardField sent stored).contacts r).flags = (b.contacts r).flags := by
      rw [hself]; exact hd.flags
    rcases hok hl' with hinvalid | ⟨hname, hcover⟩
    · exact .inl (.inr (.inr (by rw [hflags]; exact hinvalid)))
    · have hname' : ((b.modified r ec vcardField sent stored).contacts r).name = (b.contacts r).name := by
        rw [hself]; exact hname
      rcases hcover with hin | ⟨hseen, hentry⟩
      · exact .inl (.inl (by rw [hname']; exact hin))
      · exact .inr ⟨by rw [hflags]; exact hseen, by rw [hname', hn]; exact hentry⟩
  · have hc := hother r he
    rw [hc] at hl
    exact (keepsCover_of_same hc fun _ hentry => by rw [hn]; exact hentry).covered (h r hl)

/-- Whoever is deleted is in the uid index no more. -/
theorem lookup_uid_deleted {rs : List Nat} {b : Book} {x : Nat} (hx : x ∈ rs) :
    (rs.foldl deleteContact b).uidToContact.lookup (b.contacts x).uid = none := by
  induction rs generalizing b with
  | nil => cases hx
  | cons y rs ih =>
    rw [List.foldl_cons]
    rcases List.mem_cons.mp hx with rfl | hin
    · cases hl : (rs.foldl deleteContact (b.deleteContact x)).uidToContact.lookup (b.contacts x).uid with
      | none => rfl
      | some r =>
        have hold := foldl_deleteContact_uid hl
        rw [deleteContact_uid, AList.lookup_erase] at hold
        cases hold
    · have hnone := ih (b := b.deleteContact y) hin
      rw [deleteContact_contacts] at hnone
      exact hnone

theorem covered_deleteContacts {b : Book} {rs : List Nat}
    (h : ∀ r, b.Live r → b.Accounted names r ∨ b.Findable r)
    (hok : (Edit.deleteContacts rs).KeepsCovered names b) :
    ∀ r, (rs.foldl deleteContact b).Live r →
      (rs.foldl deleteContact b).Accounted names r ∨ (rs.foldl deleteContact b).Findable r := by
  intro r hl
  unfold Live at hl
  rw [foldl_deleteContact_contacts] at hl
  have hnot : r ∉ rs := by
    intro hin
    rw [lookup_uid_deleted hin] at hl
    cases hl
  refine KeepsCover.covered (keepsCover_of_same ?_ fun hseen hentry => ?_)
    (h r (foldl_deleteContact_uid hl))
  · rw [foldl_deleteContact_contacts]
  · -- deleting somebody else of its name would take the entry away
    refine (lookup_name_deleteContacts fun x hx heq => ?_).trans hentry
    rcases hok x hx r (by rw [heq]; exact hentry) with hin | hno
    · exact hnot hin
    · exact absurd (hno.symm.trans hseen) (by decide)

/-- **An edit that keeps the contacts covered.** -/
theorem covered_apply {b : Book} {e : Edit} (hp : e.Proper b)
    (h : ∀ r, b.Live r → b.Accounted names r ∨ b.Findable r) (hok : e.KeepsCovered names b) :
    ∀ r, (b.apply e).Live r → (b.apply e).Accounted names r ∨ (b.apply e).Findable r := by
  -- an edit that only enters a new contact
  have hnew : ∀ {b' : Book} {u : String} {n : Option String},
      b'.uidToContact = b.uidToContact.insert u b.next →
      (∀ r, r ≠ b.next → b'.contacts r = b.contacts r) → b.nameToContact.lookup n = none →
      b'.nameToContact = b.nameToContact.insert n b.next →
      (b'.Accounted names b.next ∨ b'.Findable b.next) →
      ∀ r, b'.Live r → b'.Accounted names r ∨ b'.Findable r := by
    intro b' u n hu hc hfree hname hself r hl
    by_cases he : r = b.next
    · rw [he]; exact hself
    · unfold Live at hl
      rw [hu, hc r he] at hl
      rcases Table.lookup_insert_eq_some.mp hl with ⟨-, heq⟩ | ⟨-, hold⟩
      · exact absurd heq.symm he
      · exact (keepsCover_enter (hc r he) hfree hname).covered (h r hold)
  cases e with
  | importContact c =>
    have hself : (b.importContact c).contacts b.next = c.imported := alloc_contacts_next b _
    refine hnew rfl (fun r he => alloc_contacts_of_ne he) hok rfl ?_
    -- the import sets the mark unless the contact waits to be added or is invalid
    show Accounted names (b.importContact c) b.next ∨ (b.importContact c).Findable b.next
    unfold Accounted Findable
    rw [hself]
    have hname : c.imported.name = c.name := (imported_keys c).2.1
    by_cases hmark : (!c.pendingFlags.has scheduleAdd && !c.flags.has contactInvalid) = true
    · refine .inr ⟨?_, by rw [hname]; exact AList.lookup_insert _⟩
      unfold Contact.imported
      rw [if_pos hmark]
      exact BitVec.or_has_self (by decide)
    · left
      unfold Contact.imported
      rw [if_neg hmark]
      rw [Bool.and_eq_true, not_and_or, Bool.not_eq_true', Bool.not_eq_false, Bool.not_eq_true',
        Bool.not_eq_false] at hmark
      exact .inr hmark
  | memberReported pathSuffix cIn =>
    obtain ⟨hin, hknown⟩ := hok
    unfold apply memberReported
    dsimp only
    cases hl : b.nameToContact.lookup cIn.name with
    | some x =>
      have hseen : ∀ r, (b.modify x cIn.seen).Live r →
          (b.modify x cIn.seen).Accounted names r ∨ (b.modify x cIn.seen).Findable r := by
        refine covered_modify h rfl fun hlive => ?_
        have hself : (b.modify x cIn.seen).contacts x = cIn.seen (b.contacts x) :=
          modify_contacts_self b x _
        left
        unfold Accounted
        rw [hself]
        rcases hknown x hl hlive with hn | hadd | hinvalid
        · exact .inl hn
        · exact .inr (.inl hadd)
        · exact .inr (.inr ((BitVec.clear_has_of_disjoint (by decide)).trans hinvalid))
      intro r hr
      dsimp only at hr ⊢
      unfold Live Accounted Findable at *
      rw [enterHandle_contacts, enterHandle_uidToContact] at hr
      rw [enterHandle_contacts, enterHandle_nameToContact]
      exact hseen r hr
    | none =>
      dsimp only
      have hself : (b.memberFound pathSuffix cIn).contacts b.next
          = { cIn.dup with uid := generateUid pathSuffix b.uidToContact cIn.name } :=
        alloc_contacts_next b _
      refine hnew (enterHandle_uidToContact _ _ _) (fun r he => ?_) hl
        (enterHandle_nameToContact _ _ _) (.inl (.inl ?_))
      · rw [enterHandle_contacts]
        exact alloc_contacts_of_ne he
      · rw [enterHandle_contacts, hself]
        exact hin
  | contactAdded pathSuffix cIn => exact hok.elim
  | mergeByHandle f cIn =>
    unfold apply mergeByHandle
    dsimp only
    split
    · rename_i x hx
      have hkeeps := Contact.copy_keeps f cIn (b.contacts x)
      have hadd : (b.contacts x).pendingFlags.has scheduleAdd = true →
          (f.copy cIn (b.contacts x)).pendingFlags.has scheduleAdd = true :=
        (Contact.persists_copy f cIn (b.contacts x)).add
      have hname : (f.copy cIn (b.contacts x)).name = (b.contacts x).name := (f.sameKeys cIn _).2.1
      by_cases hf : f = .flags
      · subst hf
        refine covered_modify h hkeeps.1 fun hlive => .inl ?_
        unfold Accounted
        rw [modify_contacts_self]
        rcases hok x hx hlive with hin | hset
        · exact .inl hin
        · exact .inr (.inl hset)
      · refine covered_modify_of_keeps h hkeeps.1 hname hadd fun m _ hm => ?_
        rw [f.copy_flags hf cIn]
        exact hm
    · exact h
  | forgetHandles => exact h
  | touch r t => exact covered_touch h hok
  | deleteContacts rs => exact covered_deleteContacts h hok
  | createContact c =>
    obtain ⟨hfree, -, hcreated⟩ := hp
    have hself : (b.apply (.createContact c)).contacts b.next = c := createContact_contacts_next b c
    refine hnew (u := c.uid) ?_ (fun r he => ?_) hfree ?_ (.inl (.inr (.inl ?_)))
    · exact createContact_uidToContact b c
    · exact createContact_contacts_of_ne he
    · exact createContact_nameToContact b c
    · rw [hself]; exact hcreated.add
  | modified r ec vcardField sent stored => exact covered_modified h hok
  | scheduleRemoval r => exact covered_scheduleRemoval h hok
  | addDone r c => exact hok.elim
  | addFailed x c =>
    have hasked : Contact.Asked (b.contacts x) c := hp
    have hself : (b.modify x fun _ => c).contacts x = c := modify_contacts_self b x _
    have hflags : ∀ m, (b.contacts x).flags.has m = true → c.flags.has m = true := by
      intro m hm
      rcases hasked.flags with hf | hf <;> rw [hf]
      · exact hm
      · rw [BitVec.or_has, hm, Bool.true_or]
    refine covered_modify (f := fun _ => c) h hasked.uid fun hlive => ?_
    rcases hok hlive with hadd | hinvalid | hname
    · exact .inl (.inr (.inl (by rw [hself]; exact hasked.persists.add hadd)))
    · exact .inl (.inr (.inr (by rw [hself]; exact hflags _ hinvalid)))
    · have hkeeps : KeepsCover b (b.modify x fun _ => c) x := by
        refine ⟨?_, ?_, ?_, ?_, fun _ hentry => hentry⟩ <;> rw [hself]
        · exact hname
        · exact hasked.persists.add
        · exact hflags _
        · exact hflags _
      exact hkeeps.covered (h x hlive)
  | removalDone x =>
    exact covered_modify_of_keeps (f := Contact.clearDelete) h rfl rfl
      (fun hadd => (BitVec.clear_has_of_disjoint (by decide)).trans hadd) fun _ _ hm => hm

/-- In a filed book the contacts of the uid index are the live ones. -/
theorem Filed.covered_iff {b : Book} (h : b.Filed) :
    b.Covered names ↔ ∀ r, b.Live r → b.Accounted names r ∨ b.Findable r := by
  refine ⟨fun hc r hl => hc r (Table.mem_values.mpr ⟨_, hl⟩), fun hc r hr => ?_⟩
  obtain ⟨k, hk⟩ := Table.mem_values.mp hr
  exact hc r (h.live hk)

/-- **Deleting the marked contacts leaves those that are accounted for.** -/
theorem accounted_of_covered {b : Book} (hf : b.Filed) (h : b.Covered names) {k : String} {r : Nat}
    (hr : ((Backend.unseen b).foldl deleteContact b).uidToContact.lookup k = some r) :
    b.Accounted names r := by
  have hold := foldl_deleteContact_uid hr
  rcases h r (Table.mem_values.mpr ⟨k, hold⟩) with hacc | ⟨hseen, hentry⟩
  · exact hacc
  · have hgone := lookup_uid_deleted (b := b) (Backend.mem_unseen.mpr ⟨⟨_, hentry⟩, hseen⟩)
    rw [hf.uid k r hold, hr] at hgone
    cases hgone

end Book

/-! ## The rows that phase 2 leaves -/

namespace Db

/-- Every row is under one of these uids. -/
def Within (P : String → Prop) (db : Db) : Prop :=
  ∀ u, (db.contacts.lookup u).isSome = true → P u

theorem within_insert {P : String → Prop} {t : Table String ContactRow} {k : String} {row : ContactRow}
    (h : ∀ u, (t.lookup u).isSome = true → P u) (hk : P k) :
    ∀ u, ((t.insert k row).lookup u).isSome = true → P u := by
  intro u hu
  rw [Table.lookup_insert_ite] at hu
  split at hu
  · rename_i heq
    rw [heq]; exact hk
  · exact h u hu

theorem Within.realAddContact {P : String → Prop} {db db' : Db} (h : db.Within P) {c : Contact}
    (hc : P c.uid) (hs : db.realAddContact c = some db') : db'.Within P := by
  unfold Db.realAddContact at hs
  split at hs
  · cases hs
  · split at hs
    · cases hs
    · cases hs
      unfold Within
      rw [addVariants_contacts, addMasterUids_contacts]
      exact within_insert h hc

/-- An update gives no uid a row that has none. -/
theorem Within.realUpdateContact {P : String → Prop} {db db' : Db} (h : db.Within P) {c : Contact}
    (hs : db.realUpdateContact c = some db') : db'.Within P := by
  obtain ⟨db₁, h₁, rfl⟩ := Option.map_eq_some_iff.mp hs
  have hrow : db₁.Within P := by
    unfold updateRow at h₁
    split at h₁
    · cases h₁; exact h
    · cases h₁
    · rename_i _ _ hl _
      cases h₁
      exact within_insert h (h _ (by rw [hl]; rfl))
  unfold Within
  rw [addVariants_contacts]
  show ∀ u, (((db₁.deleteMasterUids c.uid).addMasterUids c).contacts.lookup u).isSome = true → P u
  rw [addMasterUids_contacts]
  exact hrow

theorem Within.foldlM {P : String → Prop} {f : Db → Contact → Option Db} {cs : List Contact}
    (hf : ∀ c ∈ cs, ∀ {db db' : Db}, db.Within P → f db c = some db' → db'.Within P) {db db' : Db}
    (h : db.Within P) (hs : cs.foldlM f db = some db') : db'.Within P := by
  induction cs generalizing db with
  | nil => cases hs; exact h
  | cons c cs ih =>
    rw [List.foldlM_cons] at hs
    obtain ⟨db₁, h₁, h₂⟩ := Option.bind_eq_some_iff.mp hs
    exact ih (fun c' hc' => hf c' (List.mem_cons_of_mem c hc')) (hf c List.mem_cons_self h h₁) h₂

theorem Within.removeContacts {P : String → Prop} {db : Db} (h : db.Within P) (uids : List String) :
    (db.removeContacts uids).Within fun u => P u ∧ u ∉ uids := by
  unfold Db.removeContacts
  induction uids generalizing db P with
  | nil => exact fun u hu => ⟨h u hu, by simp⟩
  | cons k uids ih =>
    have hone : (db.realDeleteContact k).Within fun u => P u ∧ u ≠ k := by
      intro u hu
      have hu' : ((db.contacts.erase k).lookup u).isSome = true := hu
      rw [Table.lookup_erase_ite] at hu'
      split at hu'
      · cases hu'
      · rename_i hne
        exact ⟨h u hu', hne⟩
    intro u hu
    obtain ⟨⟨hP, hne⟩, hnot⟩ := ih hone u hu
    exact ⟨hP, fun hin => (List.mem_cons.mp hin).elim hne hnot⟩

end Db

namespace Outbox

/-- No error is reported by the database calls still to come. -/
def NoError (o : Outbox) : Prop := ∀ ok ∈ o.sql, ok = true

theorem noError_transaction {o : Outbox} (h : o.NoError) (f : Db → Option Db) :
    (o.transaction f).2.NoError := by
  have htail : ∀ ok ∈ o.sql.tail, ok = true := fun ok hin => h ok (List.mem_of_mem_tail hin)
  unfold transaction
  dsimp only
  split
  · split <;> exact htail
  · exact htail

theorem within_transaction {P : String → Prop} {o : Outbox} {f : Db → Option Db} (h : o.db.Within P)
    (hf : ∀ db', f o.db = some db' → db'.Within P) : (o.transaction f).2.db.Within P := by
  unfold transaction
  dsimp only
  split
  · split
    · rename_i db' hs
      exact hf db' hs
    · exact h
  · exact h

theorem within_flush {P : String → Prop} (heap : Nat → Contact) {o : Outbox} (h : o.db.Within P) :
    (o.flushDbUpdates heap).db.Within P := by
  unfold flushDbUpdates
  split
  · exact h
  · exact within_transaction h fun db' hs =>
      Db.Within.foldlM (fun c _ _ _ hw hstep => hw.realUpdateContact hstep) h hs

theorem noError_flush (heap : Nat → Contact) {o : Outbox} (h : o.NoError) :
    (o.flushDbUpdates heap).NoError := by
  unfold flushDbUpdates
  split
  · exact h
  · exact noError_transaction h _

theorem foldl_notify_sql {α : Type} (f : α → Notice) (xs : List α) (o : Outbox) :
    (xs.foldl (fun o x => o.notify (f x)) o).sql = o.sql := by
  induction xs generalizing o with
  | nil => rfl
  | cons x xs ih => rw [List.foldl_cons, ih]; rfl

theorem notifyRemotelyUpdatedContacts_sql (heap : Nat → Contact) (o : Outbox) :
    (o.notifyRemotelyUpdatedContacts heap).2.sql = o.sql := by
  unfold notifyRemotelyUpdatedContacts
  dsimp only
  split
  · rfl
  · exact foldl_notify_sql _ _ _

/-- Where no error is reported, the rows of the contacts that are removed are gone. -/
theorem within_announceRemoval {P : String → Prop} {heap : Nat → Contact} {o : Outbox}
    (h : o.db.Within P) (hno : o.NoError) (uids : List String) :
    (o.announceRemoval heap uids).db.Within fun u => P u ∧ u ∉ uids := by
  have hflush := within_flush heap h
  have hno' := noError_flush heap hno
  unfold announceRemoval
  dsimp only
  rw [notifyCompleteAllViews_db, foldl_notify_db]
  unfold transaction
  dsimp only
  rw [notifyRemotelyUpdatedContacts_sql, notifyRemotelyUpdatedContacts_db]
  have hhead : (o.flushDbUpdates heap).sql.headD true = true := by
    cases hsql : (o.flushDbUpdates heap).sql with
    | nil => rfl
    | cons ok rest => exact hno' ok (by rw [hsql]; exact List.mem_cons_self)
  rw [if_pos hhead]
  exact hflush.removeContacts uids

end Outbox

namespace Backend

/-- Every row of the database, and every contact phase 2 is to add to it, is in the uid index. -/
def RowsKnown (b : Backend) : Prop :=
  (∀ k ∈ b.out.db.contacts.keys, (b.book.uidToContact.lookup k).isSome = true)
    ∧ ∀ x ∈ (match b.phase2Queued with
        | closure :: _ => closure.contactsToAdd
        | [] => []),
      (b.book.uidToContact.lookup (b.book.contacts x).uid).isSome = true

instance (b : Backend) : Decidable b.RowsKnown := by
  unfold RowsKnown; infer_instance

theorem within_deleteContacts {P : String → Prop} {b : Backend} (h : b.out.db.Within P)
    (hno : b.out.NoError) (rs : List Nat) :
    (b.deleteContacts rs).out.db.Within fun u => P u ∧ u ∉ rs.map fun r => (b.book.contacts r).uid := by
  unfold deleteContacts
  dsimp only
  refine Outbox.within_announceRemoval ?_ ?_ _
  · exact h
  · exact hno

/-- The rows after phase 2 are under known uids, and under none of the contacts deleted. -/
theorem rows_phase2 {b : Backend} {P : String → Prop} (closure : GetMembersClosure)
    (h : b.out.db.Within P) (hadd : ∀ x ∈ closure.contactsToAdd, P (b.book.contacts x).uid)
    (hno : b.out.NoError) :
    (b.syncPhase2IdleCb closure).out.db.Within fun u =>
      P u ∧ u ∉ (unseen b.book).map fun r => (b.book.contacts r).uid := by
  have hadded : (b.out.transaction fun db =>
      db.addContacts (closure.contactsToAdd.map b.book.contacts)).2.db.Within P := by
    refine Outbox.within_transaction h fun db' hs => Db.Within.foldlM (fun c hc _ _ hw hstep => ?_) h hs
    obtain ⟨x, hx, rfl⟩ := List.mem_map.mp hc
    exact hw.realAddContact (hadd x hx) hstep
  have hno₁ := Outbox.noError_transaction hno fun db =>
    db.addContacts (closure.contactsToAdd.map b.book.contacts)
  generalize hout₁ : (b.out.transaction fun db =>
    db.addContacts (closure.contactsToAdd.map b.book.contacts)).2 = out₁ at hadded hno₁
  have hupdated : (out₁.transaction fun db =>
      db.updateContacts (closure.contactsToUpdate.map b.book.contacts)).2.db.Within P :=
    Outbox.within_transaction hadded fun db' hs =>
      Db.Within.foldlM (fun c _ _ _ hw hstep => hw.realUpdateContact hstep) hadded hs
  have hno₂ := Outbox.noError_transaction hno₁ fun db =>
    db.updateContacts (closure.contactsToUpdate.map b.book.contacts)
  generalize hout₂ : (out₁.transaction fun db =>
    db.updateContacts (closure.contactsToUpdate.map b.book.contacts)).2 = out₂ at hupdated hno₂
  unfold syncPhase2IdleCb
  dsimp only
  rw [hout₁, hout₂]
  split
  · rename_i hnil
    rw [hnil]
    exact fun u hu => ⟨hupdated u hu, by simp⟩
  · exact within_deleteContacts (b := { b with out := out₂ }) hupdated hno₂ _

/-! ## From the roster to phase 2 -/

/-- The names of the roster that an event brings. -/
def reported (b : Backend) (i : Input) : List (Option String) :=
  ((b.load i.env).rosters i.event).map Contact.name

theorem covered_step {names : List (Option String)} {b b' : Backend} {i : Input} (hsane : Sane b)
    (hf : b.book.Filed) (h : b.book.Covered names) (hok : EditsMeet (Edit.KeepsCovered names) b i)
    (hs : b.step i = some b') : b'.book.Covered names := by
  have hlive : ∀ r, b'.book.Live r → b'.book.Accounted names r ∨ b'.book.Findable r :=
    take_book_inv (b := b.load i.env)
      (I := fun book : Book => ∀ r, book.Live r → book.Accounted names r ∨ book.Findable r)
      (fun book ed hI _ hp hP _ => Book.covered_apply hp hI hP) (hsane.load i.env)
      (hf.covered_iff.mp h) hok hs
  exact (filed_step hsane hf hs).covered_iff.mpr hlive

/--
**A sync removes what is gone from the roster**, if the roster covers the contacts when it
arrives and nothing uncovers one until phase 2. The database follows if it has no row of
an unknown contact and SQLite reports no error.
-/
theorem sync_removes_gone {pathSuffix vcardField : String} {db : Db} {b b₁ b' : Backend}
    {reply : Input} {window : List Input} {env : Env}
    (hreach : ReachableFrom pathSuffix vcardField db b)
    (hcovered : b.book.Covered (b.reported reply))
    (hwindow : machine.Guarded (EditsMeet (Edit.KeepsCovered (b.reported reply))) b
      (reply :: window) b₁)
    (hsweep : b₁.step { event := .phase2, env := env } = some b') :
    (∀ k r, b'.book.uidToContact.lookup k = some r → b'.book.Accounted (b.reported reply) r)
      ∧ (b₁.RowsKnown → (∀ ok ∈ env.sql, ok = true) →
        ∀ u, (b'.out.db.contacts.lookup u).isSome = true →
          ∃ r, b'.book.uidToContact.lookup u = some r ∧ b'.book.Accounted (b.reported reply) r) := by
  obtain ⟨hsane, hfiled, hcovered₁⟩ :
      Sane b₁ ∧ b₁.book.Filed ∧ b₁.book.Covered (b.reported reply) :=
    hwindow.inv (I := fun s => Sane s ∧ s.book.Filed ∧ s.book.Covered (b.reported reply))
      (fun s i s' hI hok hs => ⟨sane_step hI.1 hs, filed_step hI.1 hI.2.1 hs,
        covered_step hI.1 hI.2.1 hI.2.2 hok hs⟩)
      ⟨sane_reachable hreach, filed_reachable hreach, hcovered⟩
  cases take_taken (b := b₁.load env) hsweep with
  | @phase2 closure rest hqueued =>
    have hbook := syncPhase2IdleCb_book { b₁.load env with phase2Queued := rest } closure
    have hcon : ({ b₁.load env with phase2Queued := rest }.syncPhase2IdleCb closure).book.contacts
        = b₁.book.contacts := by
      rw [hbook]
      exact Book.foldl_deleteContact_contacts _ _
    have hmemory : ∀ k r,
        ({ b₁.load env with phase2Queued := rest }.syncPhase2IdleCb closure).book.uidToContact.lookup k
          = some r →
        ({ b₁.load env with phase2Queued := rest }.syncPhase2IdleCb closure).book.Accounted
          (b.reported reply) r := by
      intro k r hr
      unfold Book.Accounted
      rw [hcon]
      rw [hbook] at hr
      exact Book.accounted_of_covered hfiled hcovered₁ hr
    refine ⟨hmemory, fun hknown hno u hu => ?_⟩
    have hqueued' : b₁.phase2Queued = closure :: rest := hqueued
    have hrows := rows_phase2 (b := { b₁.load env with phase2Queued := rest })
      (P := fun u => (b₁.book.uidToContact.lookup u).isSome = true) closure
      (fun k hk => hknown.1 k (AList.mem_keys.mp (AList.lookup_isSome.mp hk)))
      (fun x hx => hknown.2 x (by rw [hqueued']; exact hx)) hno u hu
    obtain ⟨hsome, hnot⟩ := hrows
    -- the uid of none that is deleted, so its entry stays
    obtain ⟨r, hr⟩ := Option.isSome_iff_exists.mp hsome
    have hkept : ({ b₁.load env with phase2Queued := rest }.syncPhase2IdleCb
        closure).book.uidToContact.lookup u = some r := by
      rw [hbook]
      refine (Book.lookup_uid_deleteContacts fun x hx heq => hnot ?_).trans hr
      exact List.mem_map.mpr ⟨x, hx, heq⟩
    exact ⟨r, hkept, hmemory u r hkept⟩

/-- The inspection of the one member of the roster is answered. -/
def bobReply (call : Nat) : Input :=
  { event := .cl (.contacts call (some [{ handle := 8, identifier := "bob" }])) }

/-- The contact of the cache is gone when the roster has another one. -/
theorem sync_removes_gone_ann :
    ∃ b b₁ b', ReachableFrom "acct" "X-JABBER" annCache b
      ∧ b.reported (bobReply 4) = [some "bob"]
      ∧ machine.Guarded (EditsMeet (Edit.KeepsCovered (b.reported (bobReply 4)))) b [bobReply 4] b₁
      ∧ b₁.step { event := .phase2 } = some b'
      ∧ b'.book.uidToContact.lookup "acct-ann" = none
      ∧ (∀ k r, b'.book.uidToContact.lookup k = some r →
          b'.book.Accounted (b.reported (bobReply 4)) r)
      ∧ ∀ u, (b'.out.db.contacts.lookup u).isSome = true →
          ∃ r, b'.book.uidToContact.lookup u = some r
            ∧ b'.book.Accounted (b.reported (bobReply 4)) r := by
  have hrun : ((machine.run (boot "acct" "X-JABBER" annCache)
      ({ event := .phase0 } :: goOnline 1 0
        ++ [{ event := .cl (.allMembers 4 (some { current := [8] })) }])).bind fun b =>
      (machine.runChecked
        (fun s i => decide (EditsMeet (Edit.KeepsCovered (b.reported (bobReply 4))) s i))
        b [bobReply 4]).bind fun b₁ => (b₁.step { event := .phase2 }).bind fun b' =>
        if b.reported (bobReply 4) = [some "bob"] ∧ b.book.Covered (b.reported (bobReply 4))
            ∧ b₁.RowsKnown ∧ b'.book.uidToContact.lookup "acct-ann" = none
        then some (b, b₁, b') else none).isSome = true := by decide +kernel
  obtain ⟨⟨c, c₁, c'⟩, hbind⟩ := Option.isSome_iff_exists.mp hrun
  obtain ⟨b, hb, hbind⟩ := Option.bind_eq_some_iff.mp hbind
  obtain ⟨b₁, hb₁, hbind⟩ := Option.bind_eq_some_iff.mp hbind
  obtain ⟨b', hsweep, hite⟩ := Option.bind_eq_some_iff.mp hbind
  split at hite
  · rename_i hfacts
    obtain ⟨hnames, hcovered, hknown, hgone⟩ := hfacts
    have hg : machine.Guarded (EditsMeet (Edit.KeepsCovered (b.reported (bobReply 4)))) b
        [bobReply 4] b₁ := Machine.guarded_of_runChecked (fun _ _ hc => of_decide_eq_true hc) hb₁
    have hsync := sync_removes_gone ⟨_, hb⟩ hcovered hg hsweep
    exact ⟨b, b₁, b', ⟨_, hb⟩, hnames, hg, hsweep, hgone, hsync.1, hsync.2 hknown fun ok hok => by cases hok⟩
  · cases hite

/--
A contact that was learnt from the roster is removed by another client while the account
is offline. The next sync keeps it.
-/
theorem sync_keeps_gone :
    ∃ b b₁ b', ReachableFrom "acct" "X-JABBER" {} b
      ∧ b.reported (bobReply 8) = [some "bob"]
      ∧ b.step (bobReply 8) = some b₁ ∧ b₁.step { event := .phase2 } = some b'
      ∧ ∃ k r, b'.book.uidToContact.lookup k = some r ∧ ¬ b'.book.Accounted [some "bob"] r := by
  have hrun : ((machine.run (boot "acct" "X-JABBER" {})
      (firstSync ++ idlePhase3 ++ [{ event := .cl (.connectionStatusChanged none) }]
        ++ goOnline 2 4 ++ [{ event := .cl (.allMembers 8 (some { current := [8] })) }])).bind fun b =>
      (b.step (bobReply 8)).bind fun b₁ => (b₁.step { event := .phase2 }).bind fun b' =>
        if b.reported (bobReply 8) = [some "bob"] ∧ b'.book.uidToContact.lookup "acct-ann" = some 0
            ∧ (b'.book.contacts 0).name = some "ann"
            ∧ (b'.book.contacts 0).pendingFlags.has scheduleAdd = false
            ∧ (b'.book.contacts 0).flags.has contactInvalid = false
        then some (b, b₁, b') else none).isSome = true := by decide +kernel
  obtain ⟨⟨c, c₁, c'⟩, hbind⟩ := Option.isSome_iff_exists.mp hrun
  obtain ⟨b, hb, hbind⟩ := Option.bind_eq_some_iff.mp hbind
  obtain ⟨b₁, hb₁, hbind⟩ := Option.bind_eq_some_iff.mp hbind
  obtain ⟨b', hsweep, hite⟩ := Option.bind_eq_some_iff.mp hbind
  split at hite
  · rename_i hfacts
    obtain ⟨hnames, hlook, hname, hadd, hinvalid⟩ := hfacts
    refine ⟨b, b₁, b', ⟨_, hb⟩, hnames, hb₁, hsweep, _, _, hlook, ?_⟩
    unfold Book.Accounted
    rw [hname, hadd, hinvalid]
    decide
  · cases hite

end Backend

end EdsTelepathy
