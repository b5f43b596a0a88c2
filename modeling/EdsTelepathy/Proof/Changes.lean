import EdsTelepathy.Proof.Agenda
import Mathlib.Logic.Relation

/-!
# What happens to a contact

Seen from one contact object that exists already, an edit leaves it alone or changes it in
one of a few ways, several of them one after the other where contacts are merged. None of
these ways gives the object another uid, and none sets the mark of a contact that has not
been seen. So both can be followed over a whole run without looking at the events again.
-/

namespace EdsTelepathy

/-- One way in which an edit changes a contact object. -/
inductive Contact.Change (c : Contact) : Contact → Prop where
  | seen (cIn : Contact) : Change c (cIn.seen c)
  | confirmed {cIn : Contact} : cIn.Plain → Change c (cIn.confirmed c)
  | copied (f : Carried) {cIn : Contact} : cIn.Plain → Change c (f.copy cIn c)
  | touched (t : Touch) : Change c (t.apply c)
  | decoded {c' : Contact} : Contact.Decoded c c' → Change c c'
  | flagsAsked : Change c c.flagsAsked
  | bookkeepingDone : Change c c.bookkeepingDone
  | markDelete : Change c c.markDelete
  | asked {c' : Contact} : Contact.Asked c c' → Change c c'
  | clearAdd : Change c c.clearAdd
  | mergeFrom (src : Contact) : Change c (c.mergeFrom src)

/-- What becomes of a contact object. -/
def Contact.Becomes : Contact → Contact → Prop := Relation.ReflTransGen Contact.Change

namespace Contact

theorem Becomes.refl (c : Contact) : Becomes c c := Relation.ReflTransGen.refl

theorem Becomes.tail {c c' c'' : Contact} (h : Becomes c c') (h' : Change c' c'') : Becomes c c'' :=
  Relation.ReflTransGen.tail h h'

theorem Change.becomes {c c' : Contact} (h : Change c c') : Becomes c c' :=
  Relation.ReflTransGen.single h

/-- What every change keeps is kept. -/
theorem Becomes.inv {P : Contact → Prop} (hP : ∀ {c c' : Contact}, Change c c' → P c → P c')
    {c c' : Contact} (h : Becomes c c') (hc : P c) : P c' := by
  induction h with
  | refl => exact hc
  | tail _ hch ih => exact hP hch ih

/-! ## What the operations leave alone -/

theorem addVariants_keeps (dest src : Contact) :
    (dest.addVariantsFromContact src).uid = dest.uid
      ∧ (dest.addVariantsFromContact src).flags = dest.flags := by
  unfold addVariantsFromContact
  dsimp only
  split <;> exact ⟨rfl, rfl⟩

theorem updateMasterUids_keeps (c : Contact) (uids : List (Option String)) :
    (c.updateMasterUids uids).uid = c.uid ∧ (c.updateMasterUids uids).flags = c.flags := by
  refine foldl_inv (I := fun c' : Contact => c'.uid = c.uid ∧ c'.flags = c.flags)
    (fun c' uid h => ?_) uids ⟨rfl, rfl⟩
  unfold addMasterUid
  split <;> exact h

theorem mergeFrom_keeps (dest src : Contact) :
    (dest.mergeFrom src).uid = dest.uid ∧ (dest.mergeFrom src).flags = dest.flags := by
  have h1 := addVariants_keeps dest src
  have h2 := updateMasterUids_keeps (dest.addVariantsFromContact src) src.masterUids
  unfold Contact.mergeFrom
  dsimp only
  split <;> exact ⟨h2.1.trans h1.1, h2.2.trans h1.2⟩

theorem mergeSubmitted_keeps (e c : Contact) :
    (e.mergeSubmitted c).uid = e.uid ∧ (e.mergeSubmitted c).flags = e.flags := by
  have h1 := updateMasterUids_keeps e c.masterUids
  have h2 := addVariants_keeps (e.updateMasterUids c.masterUids) c
  unfold Contact.mergeSubmitted
  dsimp only
  split <;> exact ⟨h2.1.trans h1.1, h2.2.trans h1.2⟩

/-- Only a failed unblock changes the flags, and it takes a list bit away. -/
theorem updated_keeps (c : Contact) (unblocked : Bool) :
    (c.updated unblocked).uid = c.uid
      ∧ ((c.updated unblocked).flags = c.flags
        ∨ (c.updated unblocked).flags = c.flags &&& ~~~deny) := by
  unfold Contact.updated unblockAsked
  split
  · split
    · exact ⟨rfl, .inl rfl⟩
    · exact ⟨rfl, .inr rfl⟩
  · exact ⟨rfl, .inl rfl⟩

theorem removeMasterUid_keeps (c : Contact) (uid : String) :
    (c.removeMasterUid uid).uid = c.uid ∧ (c.removeMasterUid uid).flags = c.flags := by
  unfold removeMasterUid
  split <;> exact ⟨rfl, rfl⟩

theorem removeTokens_keeps (c : Contact) (tokens : List String) :
    (c.removeTokens tokens).1.uid = c.uid ∧ (c.removeTokens tokens).1.flags = c.flags := by
  unfold removeTokens
  split
  · exact ⟨rfl, rfl⟩
  · unfold removeAllMasterUids
    split <;> exact ⟨rfl, rfl⟩
  · refine foldl_inv (I := fun st : Contact × Bool => st.1.uid = c.uid ∧ st.1.flags = c.flags)
      (fun st token h => ?_) tokens ⟨rfl, rfl⟩
    unfold removeToken
    split
    · exact h
    · split
      · exact h
      · have hr := removeMasterUid_keeps st.1 token
        exact ⟨hr.1.trans h.1, hr.2.trans h.2⟩

theorem touch_keeps (t : Touch) (c : Contact) :
    (t.apply c).uid = c.uid
      ∧ ((t.apply c).flags = c.flags ∨ (t.apply c).flags = c.flags &&& ~~~deny) := by
  cases t with
  | clearDelete => exact ⟨rfl, .inl rfl⟩
  | updated unblocked => exact updated_keeps c unblocked
  | submitted c' unblocked =>
    have h1 := mergeSubmitted_keeps c c'
    have h2 := updated_keeps (c.mergeSubmitted c') unblocked
    rw [h1.1, h1.2] at h2
    exact h2
  | removeTokens tokens =>
    have h := removeTokens_keeps c tokens
    exact ⟨h.1, .inl h.2⟩
  | masterUidsStored => exact ⟨rfl, .inl rfl⟩
  | nothingPending => exact ⟨rfl, .inl rfl⟩

theorem copy_keeps (f : Carried) (src c : Contact) :
    (f.copy src c).uid = c.uid ∧ ((f.copy src c).flags = c.flags ∨ (f.copy src c).flags = src.flags) := by
  by_cases hf : f = .flags
  · subst hf
    exact ⟨rfl, .inr rfl⟩
  · exact ⟨(f.sameEntry src c).uid, .inl (f.copy_flags hf src c)⟩

/-- No change gives a contact another uid. -/
theorem Change.uid {c c' : Contact} (h : Change c c') : c'.uid = c.uid := by
  cases h with
  | touched t => exact (touch_keeps t c).1
  | copied f _ => exact (copy_keeps f _ c).1
  | decoded hd => exact hd.uid
  | asked ha => exact ha.uid
  | mergeFrom src => exact (mergeFrom_keeps c src).1
  | _ => rfl

/-- No change sets the mark of a contact that has not been seen. -/
theorem Change.unseen {c c' : Contact} (h : Change c c')
    (hu : c'.flags.has contactUnseen = true) : c.flags.has contactUnseen = true := by
  have hplain : ∀ {cIn : Contact}, cIn.Plain → cIn.flags.has contactUnseen = true → False :=
    fun hp ht => absurd ((hp.has_flags (by decide)).symm.trans ht) (by decide)
  cases h with
  | seen cIn =>
    have hs : (cIn.seen c).flags.has contactUnseen = false := BitVec.clear_has_self _ _
    exact absurd (hs.symm.trans hu) (by decide)
  | confirmed hp => exact (hplain hp hu).elim
  | copied f hp =>
    rcases (copy_keeps f _ c).2 with hf | hf <;> rw [hf] at hu
    · exact hu
    · exact (hplain hp hu).elim
  | touched t =>
    rcases (touch_keeps t c).2 with hf | hf <;> rw [hf] at hu
    · exact hu
    · exact BitVec.has_of_and_has hu
  | decoded hd => rwa [hd.flags] at hu
  | asked ha =>
    rcases ha.flags with hf | hf <;> rw [hf] at hu
    · exact hu
    · exact (BitVec.or_has_of_disjoint (by decide)).symm.trans hu
  | mergeFrom src => rwa [(mergeFrom_keeps c src).2] at hu
  | _ => exact hu

theorem Becomes.uid {c c' : Contact} (h : Becomes c c') : c'.uid = c.uid :=
  h.inv (P := fun x => x.uid = c.uid) (fun hch hx => hch.uid.trans hx) rfl

theorem Becomes.seen {c c' : Contact} (h : Becomes c c') (hc : c.flags.has contactUnseen = false) :
    c'.flags.has contactUnseen = false := by
  refine h.inv (P := fun x => x.flags.has contactUnseen = false) (fun hch hx => ?_) hc
  by_contra hcon
  exact absurd (hx.symm.trans (hch.unseen (by simpa using hcon))) (by decide)

end Contact

/-! ## What an edit does to a contact object -/

namespace Book

/-- A contact object is changed where it is, or somewhere else. -/
theorem becomes_modify {b : Book} {c : Contact} {r x : Nat} {f : Contact → Contact}
    (h : c.Becomes (b.contacts x)) (hf : x = r → (b.contacts r).Change (f (b.contacts r))) :
    c.Becomes ((b.modify r f).contacts x) := by
  by_cases he : x = r
  · subst he
    rw [modify_contacts_self]
    exact h.tail (hf rfl)
  · rw [modify_contacts_of_ne he]
    exact h

@[simp] theorem enterHandle_contacts (b : Book) (x r : Nat) :
    (b.enterHandle x r).contacts = b.contacts := by
  unfold enterHandle
  split <;> rfl

@[simp] theorem enterHandle_next (b : Book) (x r : Nat) : (b.enterHandle x r).next = b.next := by
  unfold enterHandle
  split <;> rfl

@[simp] theorem enterHandle_nameToContact (b : Book) (x r : Nat) :
    (b.enterHandle x r).nameToContact = b.nameToContact := by
  unfold enterHandle
  split <;> rfl

@[simp] theorem enterHandle_uidToContact (b : Book) (x r : Nat) :
    (b.enterHandle x r).uidToContact = b.uidToContact := by
  unfold enterHandle
  split <;> rfl

@[simp] theorem workTable_enterHandle (b : Book) (x r : Nat) (stage : Phase3Stage) :
    Backend.workTable (b.enterHandle x r) stage = Backend.workTable b stage := by
  unfold enterHandle
  split <;> cases stage <;> rfl

theorem becomes_modified (b : Book) (r : Nat) (ec : Contact.EVCard) (vcardField : String)
    (sent stored : Bool) (x : Nat) :
    (b.contacts x).Becomes ((b.modified r ec vcardField sent stored).contacts x) := by
  have hd : (b.contacts x).Becomes
      ((b.modify r fun c => (c.updateFromEcontact ec vcardField).2).contacts x) :=
    becomes_modify (.refl _) fun _ => .decoded (Contact.decoded_updateFromEcontact _ _ _)
  unfold modified
  dsimp only
  split
  · have hsent : (b.contacts x).Becomes
        ((if sent then (b.modify r fun c => (c.updateFromEcontact ec vcardField).2).modify r
            Contact.flagsAsked
          else b.modify r fun c => (c.updateFromEcontact ec vcardField).2).contacts x) := by
      split
      · exact becomes_modify hd fun _ => .flagsAsked
      · exact hd
    split
    · exact becomes_modify (b := Book.scheduleUpdate _ r) hsent fun _ => .bookkeepingDone
    · exact hsent
  · exact hd

/-- What an edit writes into a contact object that exists already. -/
inductive Writes (b : Book) (x : Nat) : Edit → Contact → Prop where
  | seen {pathSuffix : String} {cIn : Contact} :
      b.nameToContact.lookup cIn.name = some x →
      Writes b x (.memberReported pathSuffix cIn) (cIn.seen (b.contacts x))
  | confirmed {pathSuffix : String} {cIn : Contact} :
      b.nameToContact.lookup cIn.name = some x →
      Writes b x (.contactAdded pathSuffix cIn) (cIn.confirmed (b.contacts x))
  | copied (f : Carried) {cIn : Contact} :
      b.handleToContact.lookup cIn.handle = some x →
      Writes b x (.mergeByHandle f cIn) (f.copy cIn (b.contacts x))
  | touched (t : Touch) : Writes b x (.touch x t) (t.apply (b.contacts x))
  | modified (ec : Contact.EVCard) (vcardField : String) (sent stored : Bool) :
      Writes b x (.modified x ec vcardField sent stored)
        ((b.modified x ec vcardField sent stored).contacts x)
  | scheduled : Writes b x (.scheduleRemoval x) (b.contacts x).nothingPending.markDelete
  | added (c : Contact) : Writes b x (.addDone x c) c.clearAdd
  | mergedInto (r : Nat) {c : Contact} :
      b.nameToContact.lookup c.name = some x →
      Writes b x (.addDone r c) (((b.modify r fun _ => c.clearAdd).contacts x).mergeFrom c.clearAdd)
  | failed (c : Contact) : Writes b x (.addFailed x c) c
  | removed : Writes b x (.removalDone x) (b.contacts x).clearDelete

/-- A completed request leaves the contact as it is to be, and is merged into the contact of its
new name if there is one. -/
theorem addDone_contacts (b : Book) (r : Nat) (c : Contact) :
    (b.addDone r c).contacts = (b.modify r fun _ => c.clearAdd).contacts
      ∨ ∃ dest, b.nameToContact.lookup c.name = some dest
        ∧ (b.addDone r c).contacts = ((b.modify r fun _ => c.clearAdd).modify dest
            fun d => d.mergeFrom c.clearAdd).contacts := by
  by_cases heq : c.name = (b.contacts r).name
  · rw [addDone_same heq]
    exact .inl rfl
  · cases hl : b.nameToContact.lookup c.name with
    | none =>
      rw [addDone_free heq hl]
      exact .inl rfl
    | some dest =>
      rw [addDone_merged heq hl]
      exact .inr ⟨dest, rfl, mergeContacts_contacts b r dest c _⟩

/-- A modification is about one contact. -/
theorem modified_contacts_of_ne {b : Book} {r x : Nat} (hne : x ≠ r) (ec : Contact.EVCard)
    (vcardField : String) (sent stored : Bool) :
    (b.modified r ec vcardField sent stored).contacts x = b.contacts x := by
  have hd : (b.modify r fun c => (c.updateFromEcontact ec vcardField).2).contacts x = b.contacts x :=
    modify_contacts_of_ne hne
  unfold modified
  dsimp only
  split
  · have hsent : (if sent then (b.modify r fun c => (c.updateFromEcontact ec vcardField).2).modify r
          Contact.flagsAsked
        else b.modify r fun c => (c.updateFromEcontact ec vcardField).2).contacts x = b.contacts x := by
      split
      · exact (modify_contacts_of_ne hne).trans hd
      · exact hd
    split
    · exact (modify_contacts_of_ne hne).trans hsent
    · exact hsent
  · exact hd

/-- **An edit leaves a contact object alone, or writes one of these.** -/
theorem contacts_apply {b : Book} (e : Edit) {x : Nat} (hx : x < b.next) :
    (b.apply e).contacts x = b.contacts x ∨ b.Writes x e ((b.apply e).contacts x) := by
  have hne : x ≠ b.next := Nat.ne_of_lt hx
  have hmod : ∀ {b' : Book} {r : Nat} {f : Contact → Contact},
      b'.contacts = (b.modify r f).contacts → (x = r → b.Writes x e (f (b.contacts x))) →
        b'.contacts x = b.contacts x ∨ b.Writes x e (b'.contacts x) := by
    intro b' r f heq hw
    rw [heq]
    by_cases he : x = r
    · subst he
      rw [modify_contacts_self]
      exact .inr (hw rfl)
    · exact .inl (modify_contacts_of_ne he)
  cases e with
  | importContact c => exact .inl (alloc_contacts_of_ne hne)
  | memberReported pathSuffix cIn =>
    unfold apply memberReported
    dsimp only
    split
    · rename_i r hr
      exact hmod (enterHandle_contacts _ _ r) fun he => .seen (he ▸ hr)
    · rw [enterHandle_contacts]
      exact .inl (alloc_contacts_of_ne hne)
  | contactAdded pathSuffix cIn =>
    unfold apply contactAdded
    dsimp only
    split
    · rename_i r hr
      exact hmod rfl fun he => .confirmed (he ▸ hr)
    · exact .inl (alloc_contacts_of_ne hne)
  | mergeByHandle f cIn =>
    unfold apply mergeByHandle
    dsimp only
    split
    · rename_i r hr
      exact hmod rfl fun he => .copied f (he ▸ hr)
    · exact .inl rfl
  | forgetHandles => exact .inl rfl
  | touch r t => exact hmod rfl fun he => he ▸ .touched t
  | deleteContacts rs =>
    unfold apply
    rw [foldl_deleteContact_contacts]
    exact .inl rfl
  | createContact c => exact .inl (createContact_contacts_of_ne hne)
  | modified r ec vcardField sent stored =>
    by_cases he : x = r
    · subst he
      exact .inr (.modified ec vcardField sent stored)
    · exact .inl (modified_contacts_of_ne he ec vcardField sent stored)
  | scheduleRemoval r => exact hmod (contacts_scheduleRemoval b r) fun he => he ▸ .scheduled
  | addDone r c =>
    have hdone : (b.modify r fun _ => c.clearAdd).contacts x = b.contacts x
        ∨ b.Writes x (.addDone r c) ((b.modify r fun _ => c.clearAdd).contacts x) :=
      hmod rfl fun he => he ▸ .added c
    rcases addDone_contacts b r c with heq | ⟨dest, hdest, heq⟩
    · show (b.addDone r c).contacts x = _ ∨ b.Writes x _ ((b.addDone r c).contacts x)
      rw [heq]
      exact hdone
    · show (b.addDone r c).contacts x = _ ∨ b.Writes x _ ((b.addDone r c).contacts x)
      rw [heq]
      by_cases he : x = dest
      · subst he
        rw [modify_contacts_self]
        exact .inr (.mergedInto r hdest)
      · rw [modify_contacts_of_ne he]
        exact hdone
  | addFailed r c => exact hmod rfl fun he => he ▸ .failed c
  | removalDone r => exact hmod rfl fun he => he ▸ .removed

/-- **What an edit does to a contact object that exists.** -/
theorem becomes_apply {b : Book} {e : Edit} (hp : e.Proper b) {x : Nat} (hx : x < b.next) :
    (b.contacts x).Becomes ((b.apply e).contacts x) := by
  rcases contacts_apply e hx with heq | hw
  · rw [heq]
    exact .refl _
  generalize (b.apply e).contacts x = c' at hw
  cases hw with
  | @seen _ cIn _ => exact (Contact.Change.seen cIn).becomes
  | confirmed _ => exact (Contact.Change.confirmed hp).becomes
  | copied f _ => exact (Contact.Change.copied f hp).becomes
  | touched t => exact (Contact.Change.touched t).becomes
  | modified ec vcardField sent stored => exact becomes_modified b x ec vcardField sent stored x
  | scheduled => exact (Contact.Change.touched .nothingPending).becomes.tail .markDelete
  | added c => exact (Contact.Change.asked hp).becomes.tail .clearAdd
  | @mergedInto r c _ =>
    have hdone : (b.contacts x).Becomes ((b.modify r fun _ => c.clearAdd).contacts x) := by
      by_cases he : x = r
      · subst he
        rw [modify_contacts_self]
        exact (Contact.Change.asked hp).becomes.tail .clearAdd
      · rw [modify_contacts_of_ne he]
        exact .refl _
    exact hdone.tail (.mergeFrom _)
  | failed c => exact (Contact.Change.asked hp).becomes
  | removed => exact (Contact.Change.touched .clearDelete).becomes

/-- The contact object that an edit brings with it. -/
inductive Brings (b : Book) : Edit → Contact → Prop where
  | imported (c : Contact) : Brings b (.importContact c) c.imported
  | reported {pathSuffix uid : String} {cIn : Contact} :
      b.uidToContact.lookup uid = none →
      Brings b (.memberReported pathSuffix cIn) { cIn.dup with uid := uid }
  | added {pathSuffix uid : String} {cIn : Contact} :
      b.uidToContact.lookup uid = none →
      Brings b (.contactAdded pathSuffix cIn) { cIn.dup with uid := uid }
  | created (c : Contact) : Brings b (.createContact c) c

/-- **A contact object that did not exist before is the one the edit brings.** -/
theorem brings_apply {b : Book} {e : Edit} {x : Nat} (h : b.next ≤ x) (hx : x < (b.apply e).next) :
    x = b.next ∧ b.Brings e ((b.apply e).contacts x) := by
  -- an edit allocates at most one object, so `x` is that one
  have hone : ∀ {c : Contact}, b.Brings e c → (b.apply e).next = b.next + 1 →
      (b.apply e).contacts b.next = c → x = b.next ∧ b.Brings e ((b.apply e).contacts x) := by
    intro c hc hn heq
    obtain rfl : x = b.next := by omega
    exact ⟨rfl, by rw [heq]; exact hc⟩
  have hnone : (b.apply e).next = b.next → x = b.next ∧ b.Brings e ((b.apply e).contacts x) := by
    intro hn
    omega
  cases e with
  | importContact c => exact hone (.imported c) rfl (alloc_contacts_next b _)
  | memberReported pathSuffix cIn =>
    cases hl : b.nameToContact.lookup cIn.name with
    | some r =>
      refine hnone ?_
      unfold apply memberReported
      dsimp only
      rw [hl]
      exact enterHandle_next _ _ _
    | none =>
      refine hone (.reported (lookup_generateUid pathSuffix b.uidToContact cIn.name)) ?_ ?_
      · unfold apply memberReported
        dsimp only
        rw [hl]
        exact enterHandle_next _ _ _
      · unfold apply memberReported
        dsimp only
        rw [hl]
        dsimp only
        rw [enterHandle_contacts]
        exact alloc_contacts_next b _
  | contactAdded pathSuffix cIn =>
    cases hl : b.nameToContact.lookup cIn.name with
    | some r =>
      refine hnone ?_
      unfold apply contactAdded
      dsimp only
      rw [hl]
      rfl
    | none =>
      refine hone (.added (lookup_generateUid pathSuffix b.uidToContact cIn.name)) ?_ ?_
      · unfold apply contactAdded
        dsimp only
        rw [hl]
        rfl
      · unfold apply contactAdded
        dsimp only
        rw [hl]
        exact alloc_contacts_next b _
  | mergeByHandle f cIn =>
    refine hnone ?_
    unfold apply mergeByHandle
    dsimp only
    split <;> rfl
  | forgetHandles => exact hnone rfl
  | touch r t => exact hnone rfl
  | deleteContacts rs =>
    refine hnone ?_
    exact foldl_inv (I := fun b' : Book => b'.next = b.next)
      (fun b' r hb' => (next_deleteContact b' r).trans hb') rs rfl
  | createContact c => exact hone (.created c) (createContact_next b c) (createContact_contacts_next b c)
  | modified r ec vcardField sent stored => exact hnone (next_modified b r ec vcardField sent stored)
  | scheduleRemoval r => exact hnone rfl
  | addDone r c => exact hnone (next_addDone b r c)
  | addFailed r c => exact hnone rfl
  | removalDone r => exact hnone rfl

end Book

namespace Backend

/-- **What an event does to a contact object that exists.** -/
theorem becomes_take {b b' : Backend} {e : Event} (h : Sane b) (hs : b.take e = some b') {x : Nat}
    (hx : x < b.book.next) : (b.book.contacts x).Becomes (b'.book.contacts x) := by
  have hinv : b.book.next ≤ b'.book.next ∧ (b.book.contacts x).Becomes (b'.book.contacts x) := by
    refine take_book_inv
      (I := fun book : Book => b.book.next ≤ book.next ∧ (b.book.contacts x).Becomes (book.contacts x))
      (P := fun _ _ => True) (fun book ed hI _ hp _ _ => ⟨?_, ?_⟩) h ⟨Nat.le_refl _, .refl _⟩
      (allAlong_of_forall (fun _ _ _ => trivial) _) hs
    · exact Nat.le_trans hI.1 (Book.next_apply book ed)
    · exact Relation.ReflTransGen.trans hI.2
        (Book.becomes_apply hp (Nat.lt_of_lt_of_le hx hI.1))
  exact hinv.2

end Backend

end EdsTelepathy
