import EdsTelepathy.Proof.Queues

/-!
# What phase 3 replays

Phase 3 works on snapshots of the work tables, and the main loop runs between its requests.
A contact waits for a stage while it is in the table of the stage or in a snapshot of it.
It is due while it is in the uid index and still carries the pending bit. Whoever waits is
due as long as no edit takes a waiting contact out of the uid index or ends what it waits
for; which contacts an edit does that to is read off the book before it.
-/

namespace EdsTelepathy

/-- Every stage of phase 3. -/
def Phase3Stage.all : List Phase3Stage := [.update, .add, .delete]

theorem Phase3Stage.mem_all (stage : Phase3Stage) : stage ∈ all := by cases stage <;> decide

/-- Whether the contact still carries the bit that the stage is for; an update needs none. -/
def Contact.asksFor (c : Contact) : Phase3Stage → Bool
  | .update => true
  | .add => c.pendingFlags.has scheduleAdd
  | .delete => c.pendingFlags.has scheduleDelete

namespace Book

/-- The contact is in the uid index and still asks for what the stage does. -/
def Due (b : Book) (stage : Phase3Stage) (r : Nat) : Prop :=
  b.Live r ∧ (b.contacts r).asksFor stage = true

instance (b : Book) (stage : Phase3Stage) (r : Nat) : Decidable (b.Due stage r) := by
  unfold Due; infer_instance

end Book

/-! ## What an edit ends -/

namespace Edit

/-- The contacts that the edit takes out of the uid index. -/
def displaced (b : Book) : Edit → List Nat
  | .importContact c => (b.uidToContact.lookup c.uid).toList
  | .contactAdded _ cIn =>
    match b.nameToContact.lookup cIn.name with
    | some r => (b.uidToContact.lookup (b.contacts r).uid).toList.filter (· ≠ r)
    | none => []
  | .deleteContacts rs => rs.flatMap fun r => (b.uidToContact.lookup (b.contacts r).uid).toList
  | .addDone r c =>
    match b.mergeTarget r c with
    | some dest =>
      ((b.uidToContact.lookup (b.contacts r).uid).toList
        ++ (b.uidToContact.lookup (b.contacts dest).uid).toList).filter (· ≠ dest)
    | none => []
  | _ => []

/-- The contacts whose pending bit for the stage the edit clears. -/
def settled (b : Book) : Edit → Phase3Stage → List Nat
  | .contactAdded _ cIn, .add => (b.nameToContact.lookup cIn.name).toList
  | .touch r .clearDelete, .delete => [r]
  | .touch r .nothingPending, .add => [r]
  | .touch r .nothingPending, .delete => [r]
  | .modified r _ _ _ _, .add => [r]
  | .modified r _ _ _ _, .delete => [r]
  | .scheduleRemoval r, .add => [r]
  | .addDone r _, .add => [r]
  | .removalDone r, .delete => [r]
  | _, _ => []

/-- The table of a stage without the entry that the edit takes out as completed. -/
def leaves (b : Book) : Edit → Phase3Stage → Table String Nat
  | .addDone r _, .add => b.contactsToAdd.erase (b.contacts r).uid
  | .removalDone r, .delete => b.contactsToDelete.erase (b.contacts r).uid
  | _, stage => Backend.workTable b stage

/-- The edits that take somebody into a work table: the import, and what a request does. -/
def Enlists : Edit → Prop
  | .importContact _ => True
  | .createContact _ => True
  | .modified _ _ _ _ _ => True
  | .scheduleRemoval _ => True
  | _ => False

/-- The contacts that still wait for a stage when the edit is done; `agenda` is what is in snapshots. -/
def waiting (agenda : List (Phase3Stage × Nat)) (b : Book) (e : Edit) (stage : Phase3Stage) : List Nat :=
  Table.values (e.leaves b stage) ++ (agenda.filter fun t => t.1 = stage).map Prod.snd

/-- No waiting contact leaves the uid index, and none loses the bit that it waits with. -/
def KeepsDue (agenda : List (Phase3Stage × Nat)) (b : Book) (e : Edit) : Prop :=
  ∀ stage ∈ Phase3Stage.all, ∀ r ∈ e.waiting agenda b stage,
    r ∉ e.displaced b ∧ r ∉ e.settled b stage

instance (agenda : List (Phase3Stage × Nat)) (b : Book) : DecidablePred (KeepsDue agenda b) :=
  fun e => by unfold KeepsDue; infer_instance

end Edit

/-! ## Pending bits that stay -/

/-- The bits of a pending addition and of a pending removal stay. -/
structure Persists (p p' : Flags) : Prop where
  add : p.has scheduleAdd = true → p'.has scheduleAdd = true
  delete : p.has scheduleDelete = true → p'.has scheduleDelete = true

namespace Persists

theorem refl (p : Flags) : Persists p p := ⟨id, id⟩

theorem trans {p p' p'' : Flags} (h : Persists p p') (h' : Persists p' p'') : Persists p p'' :=
  ⟨fun hp => h'.add (h.add hp), fun hp => h'.delete (h.delete hp)⟩

theorem of_sameOff {v p p' : Flags} (h : BitVec.SameOff v p p') (ha : v &&& scheduleAdd = 0#32)
    (hd : v &&& scheduleDelete = 0#32) : Persists p p' :=
  ⟨(h _ ha).trans, (h _ hd).trans⟩

theorem asksFor {c c' : Contact} (h : Persists c.pendingFlags c'.pendingFlags) {stage : Phase3Stage}
    (hs : c.asksFor stage = true) : c'.asksFor stage = true := by
  cases stage with
  | update => rfl
  | add => exact h.add hs
  | delete => exact h.delete hs

end Persists

namespace Contact

theorem persists_mergeFrom (dest src : Contact) :
    Persists dest.pendingFlags (dest.mergeFrom src).pendingFlags :=
  .of_sameOff (dest.sameOff_mergeFrom src) (by decide) (by decide)

theorem persists_mergeSubmitted (e c : Contact) :
    Persists e.pendingFlags (e.mergeSubmitted c).pendingFlags :=
  .of_sameOff (e.sameOff_mergeSubmitted c) (by decide) (by decide)

theorem persists_updated (c : Contact) (unblocked : Bool) :
    Persists c.pendingFlags (c.updated unblocked).pendingFlags :=
  .of_sameOff (c.sameOff_updated unblocked) (by decide) (by decide)

theorem persists_removeTokens (c : Contact) (tokens : List String) :
    Persists c.pendingFlags (c.removeTokens tokens).1.pendingFlags :=
  .of_sameOff (c.sameOff_removeTokens tokens) (by decide) (by decide)

theorem persists_copy (f : Carried) (src c : Contact) :
    Persists c.pendingFlags (f.copy src c).pendingFlags := by
  rw [(f.sameEntry src c).pendingFlags]
  exact .refl _

theorem Asked.persists {old c : Contact} (h : Asked old c) : Persists old.pendingFlags c.pendingFlags :=
  ⟨fun hp => (h.pending _ (by decide)).trans hp, fun hp => (h.pending _ (by decide)).trans hp⟩

end Contact

namespace Book

theorem asksFor_touch {b : Book} {x : Nat} {t : Touch} {stage : Phase3Stage}
    (hx : (b.contacts x).asksFor stage = true) (hns : x ∉ (Edit.touch x t).settled b stage) :
    (t.apply (b.contacts x)).asksFor stage = true := by
  cases t with
  | clearDelete =>
    cases stage with
    | update => rfl
    | add => exact (BitVec.clear_has_of_disjoint (by decide)).trans hx
    | delete => exact absurd (List.mem_singleton_self x) hns
  | updated unblocked => exact (Contact.persists_updated _ unblocked).asksFor hx
  | submitted c unblocked =>
    exact ((Contact.persists_mergeSubmitted _ c).trans (Contact.persists_updated _ unblocked)).asksFor hx
  | removeTokens tokens => exact (Contact.persists_removeTokens _ tokens).asksFor hx
  | masterUidsStored =>
    have hclear : Persists (b.contacts x).pendingFlags (b.contacts x).masterUidsStored.pendingFlags :=
      .of_sameOff (.clear _ (by decide)) (v := scheduleUpdateMasterUid) (by decide) (by decide)
    exact hclear.asksFor hx
  | nothingPending =>
    cases stage with
    | update => rfl
    | add => exact absurd (List.mem_singleton_self x) hns
    | delete => exact absurd (List.mem_singleton_self x) hns

/-- A completed request settles the addition and nothing else. -/
theorem asksFor_clearAdd {b : Book} {x : Nat} {c : Contact} (ha : Contact.Asked (b.contacts x) c)
    {stage : Phase3Stage} (hx : (b.contacts x).asksFor stage = true)
    (hns : x ∉ (Edit.addDone x c).settled b stage) : c.clearAdd.asksFor stage = true := by
  cases stage with
  | update => rfl
  | add => exact absurd (List.mem_singleton_self x) hns
  | delete => exact (BitVec.clear_has_of_disjoint (by decide)).trans (ha.persists.delete hx)

/-- **A contact asks for what it asked for, unless the edit settles it.** -/
theorem asksFor_apply {b : Book} {e : Edit} (hp : e.Proper b) {x : Nat} (hlt : x < b.next)
    {stage : Phase3Stage} (hx : (b.contacts x).asksFor stage = true) (hns : x ∉ e.settled b stage) :
    ((b.apply e).contacts x).asksFor stage = true := by
  rcases contacts_apply e hlt with heq | hw
  · rw [heq]
    exact hx
  generalize (b.apply e).contacts x = c' at hw
  cases hw with
  | seen _ => exact (Persists.refl _).asksFor hx
  -- a confirmed contact is no longer to be added, and still to be removed
  | confirmed hname =>
    cases stage with
    | update => rfl
    | add =>
      refine absurd ?_ hns
      unfold Edit.settled
      dsimp only
      rw [hname]
      exact List.mem_singleton_self x
    | delete => exact (BitVec.clear_has_of_disjoint (by decide)).trans hx
  | copied f _ => exact (Contact.persists_copy f _ _).asksFor hx
  | touched t => exact asksFor_touch hx hns
  | modified ec vcardField sent stored =>
    cases stage with
    | update => rfl
    | add => exact absurd (List.mem_singleton_self x) hns
    | delete => exact absurd (List.mem_singleton_self x) hns
  -- a request to remove wipes what was asked for before
  | scheduled =>
    cases stage with
    | update => rfl
    | add => exact absurd (List.mem_singleton_self x) hns
    | delete => exact BitVec.or_has_self (by decide)
  | added c => exact asksFor_clearAdd hp hx hns
  | @mergedInto r c _ =>
    have hdone : ((b.modify r fun _ => c.clearAdd).contacts x).asksFor stage = true := by
      by_cases he : x = r
      · subst he
        rw [modify_contacts_self]
        exact asksFor_clearAdd hp hx hns
      · rw [modify_contacts_of_ne he]
        exact hx
    exact (Contact.persists_mergeFrom _ _).asksFor hdone
  | failed c => exact (Contact.Asked.persists hp).asksFor hx
  | removed =>
    cases stage with
    | update => rfl
    | add => exact (BitVec.clear_has_of_disjoint (by decide)).trans hx
    | delete => exact absurd (List.mem_singleton_self x) hns

/-- **A live contact stays live, unless the edit displaces it.** -/
theorem stays_live {b : Book} {e : Edit} (hp : e.Proper b) {x : Nat} (hlt : x < b.next)
    (hl : b.Live x) (hd : x ∉ e.displaced b) : (b.apply e).Live x := by
  have huid : ((b.apply e).contacts x).uid = (b.contacts x).uid := (becomes_apply hp hlt).uid
  suffices hsame : (b.apply e).uidToContact.lookup (b.contacts x).uid = some x by
    unfold Live
    rw [huid]; exact hsame
  have hl' : b.uidToContact.lookup (b.contacts x).uid = some x := hl
  -- an entry under a uid that is free is not in the way of one that is there
  have hfresh : ∀ {k : String} {r : Nat}, b.uidToContact.lookup k = none →
      (b.uidToContact.insert k r).lookup (b.contacts x).uid = some x := by
    intro k r hk
    refine (AList.lookup_insert_ne fun heq => ?_).trans hl'
    rw [heq, hk] at hl'
    cases hl'
  cases e with
  | importContact c =>
    refine (AList.lookup_insert_ne fun heq => ?_).trans hl'
    refine hd ?_
    unfold Edit.displaced
    dsimp only
    rw [← heq, hl']
    exact List.mem_singleton_self x
  | memberReported pathSuffix cIn =>
    unfold apply memberReported
    dsimp only
    split
    · rw [enterHandle_uidToContact]; exact hl'
    · rw [enterHandle_uidToContact]
      exact hfresh (lookup_generateUid pathSuffix b.uidToContact cIn.name)
  | contactAdded pathSuffix cIn =>
    unfold apply contactAdded
    dsimp only
    split
    · rename_i r hr
      -- a contact that is met again is entered under its own uid, which nobody else has
      have hself : ((b.contactConfirmed r cIn).contacts r).uid = (b.contacts r).uid := by
        unfold contactConfirmed
        rw [modify_contacts_self]; rfl
      show (b.uidToContact.insert ((b.contactConfirmed r cIn).contacts r).uid r).lookup
        (b.contacts x).uid = some x
      rw [hself, Table.lookup_insert_ite]
      split
      · rename_i heq
        by_contra hcon
        refine hd ?_
        unfold Edit.displaced
        dsimp only
        rw [hr]
        dsimp only
        rw [← heq, hl']
        exact List.mem_filter.mpr ⟨List.mem_singleton_self x,
          decide_eq_true fun he => hcon (by rw [he])⟩
      · exact hl'
    · have hself : ((b.contactFound pathSuffix cIn).contacts b.next).uid
          = generateUid pathSuffix b.uidToContact cIn.name :=
        congrArg Contact.uid (alloc_contacts_next b _)
      show (b.uidToContact.insert ((b.contactFound pathSuffix cIn).contacts b.next).uid b.next).lookup
        (b.contacts x).uid = some x
      rw [hself]
      exact hfresh (lookup_generateUid pathSuffix b.uidToContact cIn.name)
  | mergeByHandle f cIn =>
    unfold apply mergeByHandle
    dsimp only
    split <;> exact hl'
  | forgetHandles => exact hl'
  | touch r t => exact hl'
  | deleteContacts rs =>
    refine (lookup_uid_deleteContacts fun r hr heq => hd ?_).trans hl'
    refine List.mem_flatMap.mpr ⟨r, hr, ?_⟩
    rw [heq, hl']
    exact List.mem_singleton_self x
  | createContact c =>
    obtain ⟨-, hfree, -⟩ := hp
    show (b.createContact c).uidToContact.lookup _ = _
    rw [createContact_uidToContact]
    exact hfresh hfree
  | modified r ec vcardField sent stored =>
    show (b.modified r ec vcardField sent stored).uidToContact.lookup _ = _
    rw [(modified_tables b r ec vcardField sent stored).2.2]
    exact hl'
  | scheduleRemoval r => exact hl'
  | addDone r c =>
    show (b.addDone r c).uidToContact.lookup _ = _
    have hasked : Contact.Asked (b.contacts r) c := hp
    rcases addDone_spec b r c with ⟨-, hs⟩ | ⟨dest, hsome, hs⟩
    · rw [hs.uid]; exact hl'
    · -- a merge leaves the surviving contact under its own uid
      by_cases he : x = dest
      · subst he
        rw [hs.uid]
        have hown : ((b.addDone r c).contacts x).uid = (b.contacts x).uid := huid
        rw [hown]
        exact AList.lookup_insert _
      · -- whoever has the uid of one of the two is displaced
        have hnot : ∀ k, (k = (b.contacts r).uid ∨ k = (b.contacts dest).uid) →
            (b.contacts x).uid ≠ k := by
          intro k hk heq
          refine hd ?_
          unfold Edit.displaced
          dsimp only
          rw [hsome]
          refine List.mem_filter.mpr ⟨List.mem_append.mpr ?_, decide_eq_true he⟩
          rw [heq] at hl'
          rcases hk with rfl | rfl
          · exact .inl (by rw [hl']; exact List.mem_singleton_self x)
          · exact .inr (by rw [hl']; exact List.mem_singleton_self x)
        have hdest : ((b.addDone r c).contacts dest).uid = (b.contacts dest).uid := by
          rw [hs.contacts, modify_contacts_self, (Contact.mergeFrom_keeps _ _).1]
          by_cases hr : dest = r
          · subst hr
            rw [modify_contacts_self]
            exact hasked.uid
          · rw [modify_contacts_of_ne hr]
        rw [hs.uid, hdest, AList.lookup_insert_ne (hnot _ (.inr rfl)), hasked.uid,
          AList.lookup_erase_ne (hnot _ (.inl rfl))]
        exact hl'
  | addFailed r c => exact hl'
  | removalDone r => exact hl'

/-! ## The work tables -/

/-- Every entry of the uid index and of a work table is under the uid of its contact. -/
structure Filed (b : Book) : Prop where
  uid : ∀ k r, b.uidToContact.lookup k = some r → (b.contacts r).uid = k
  work : ∀ stage k r, (Backend.workTable b stage).lookup k = some r → (b.contacts r).uid = k

theorem filed_empty : Filed {} :=
  ⟨fun _ _ h => (by cases h), fun stage _ _ h => by cases stage <;> cases h⟩

theorem Filed.live {b : Book} (h : b.Filed) {k : String} {r : Nat} (hr : b.uidToContact.lookup k = some r) :
    b.Live r := by
  unfold Live
  rw [h.uid k r hr]
  exact hr

/-- An entry of the uid index is an old one, or under the uid of its contact. -/
theorem uid_entries_apply {b : Book} {e : Edit} {k : String} {x : Nat}
    (h : (b.apply e).uidToContact.lookup k = some x) :
    b.uidToContact.lookup k = some x ∨ ((b.apply e).contacts x).uid = k := by
  have hins : ∀ {u : String} {r : Nat} {b' : Book}, (b.uidToContact.insert u r).lookup k = some x →
      (b'.contacts r).uid = u → b.uidToContact.lookup k = some x ∨ (b'.contacts x).uid = k := by
    intro u r b' hl hu
    rcases Table.lookup_insert_eq_some.mp hl with ⟨rfl, rfl⟩ | ⟨-, hold⟩
    · exact .inr hu
    · exact .inl hold
  cases e with
  | importContact c =>
    refine hins h ?_
    show ((b.alloc c.imported).contacts b.next).uid = c.uid
    rw [alloc_contacts_next]
    unfold Contact.imported
    split <;> rfl
  | memberReported pathSuffix cIn =>
    unfold apply memberReported at h ⊢
    dsimp only at h ⊢
    split at h <;> rw [enterHandle_uidToContact] at h
    · exact .inl h
    · refine hins h ?_
      rw [enterHandle_contacts]
      exact congrArg Contact.uid (alloc_contacts_next b _)
  | contactAdded pathSuffix cIn =>
    unfold apply contactAdded at h ⊢
    dsimp only at h ⊢
    split at h
    · exact hins h rfl
    · exact hins h rfl
  | mergeByHandle f cIn =>
    unfold apply mergeByHandle at h
    dsimp only at h
    split at h <;> exact .inl h
  | forgetHandles => exact .inl h
  | touch r t => exact .inl h
  | deleteContacts rs => exact .inl (foldl_deleteContact_uid h)
  | createContact c =>
    have hcon : (b.apply (.createContact c)).contacts b.next = c := createContact_contacts_next b c
    have hindex : (b.apply (.createContact c)).uidToContact = b.uidToContact.insert c.uid b.next :=
      createContact_uidToContact b c
    rw [hindex] at h
    exact hins h (congrArg Contact.uid hcon)
  | modified r ec vcardField sent stored =>
    refine .inl ?_
    rw [← (modified_tables b r ec vcardField sent stored).2.2]
    exact h
  | scheduleRemoval r => exact .inl h
  | addDone r c =>
    have h' : (b.addDone r c).uidToContact.lookup k = some x := h
    rcases addDone_spec b r c with ⟨-, hs⟩ | ⟨dest, -, hs⟩
    · rw [hs.uid] at h'
      exact .inl h'
    · rw [hs.uid] at h'
      rcases Table.lookup_insert_eq_some.mp h' with ⟨rfl, rfl⟩ | ⟨-, hold⟩
      · exact .inr rfl
      · exact .inl (Table.lookup_erase_eq_some.mp hold).2
  | addFailed r c => exact .inl h
  | removalDone r => exact .inl h

/-- An entry of a work table that is not new is under the uid of a contact that is due. -/
def Enters (b' : Book) (stage : Phase3Stage) (t t' : Table String Nat) : Prop :=
  ∀ k x, t'.lookup k = some x →
    t.lookup k = some x ∨ ((b'.contacts x).uid = k ∧ b'.Due stage x)

theorem enters_of_eq {b' : Book} {stage : Phase3Stage} {t t' : Table String Nat} (h : t' = t) :
    Enters b' stage t t' := fun _ _ hk => .inl (h ▸ hk)

theorem enters_insert {b' : Book} {stage : Phase3Stage} {t : Table String Nat} {u : String} {r : Nat}
    (hu : (b'.contacts r).uid = u) (hd : b'.Due stage r) : Enters b' stage t (t.insert u r) := by
  intro k x hk
  rcases Table.lookup_insert_eq_some.mp hk with ⟨rfl, rfl⟩ | ⟨-, hold⟩
  · exact .inr ⟨hu, hd⟩
  · exact .inl hold

theorem enters_importContact (b : Book) (c : Contact) (stage : Phase3Stage) :
    Enters (b.importContact c) stage (Backend.workTable b stage)
      (Backend.workTable (b.importContact c) stage) := by
  have hnew : (b.importContact c).contacts b.next = c.imported := alloc_contacts_next b _
  have himp : c.imported.uid = c.uid ∧ c.imported.pendingFlags = c.pendingFlags := by
    unfold Contact.imported
    split <;> exact ⟨rfl, rfl⟩
  have huid : ((b.importContact c).contacts b.next).uid = c.uid := by rw [hnew]; exact himp.1
  have hlive : (b.importContact c).Live b.next := by
    unfold Live
    rw [huid]
    exact AList.lookup_insert _
  have hdue : ∀ (t : Table String Nat) (due : Bool),
      (due = true → c.imported.asksFor stage = true) →
      Enters (b.importContact c) stage t (importInto t due c.uid b.next) := by
    intro t due hask
    unfold importInto
    split
    · rename_i htrue
      exact enters_insert huid ⟨hlive, by rw [hnew]; exact hask htrue⟩
    · exact enters_of_eq rfl
  cases stage with
  | update => exact hdue _ _ fun _ => rfl
  | add =>
    refine hdue _ _ fun h => ?_
    unfold Contact.asksFor
    rw [himp.2]
    exact h
  | delete =>
    refine hdue _ _ fun h => ?_
    unfold Contact.asksFor
    rw [himp.2]
    exact h

theorem enters_modified {b : Book} {r : Nat} (hl : b.Live r) (ec : Contact.EVCard) (vcardField : String)
    (sent stored : Bool) (stage : Phase3Stage) :
    Enters (b.modified r ec vcardField sent stored) stage (Backend.workTable b stage)
      (Backend.workTable (b.modified r ec vcardField sent stored) stage) := by
  obtain ⟨hta, htd, htu⟩ := modified_work b r ec vcardField sent stored
  have hd := Contact.decoded_updateFromEcontact (b.contacts r) ec vcardField
  have huid : ((b.modified r ec vcardField sent stored).contacts r).uid = (b.contacts r).uid :=
    (becomes_modified b r ec vcardField sent stored r).uid
  have hlive : (b.modified r ec vcardField sent stored).Live r := by
    unfold Live
    rw [(modified_tables b r ec vcardField sent stored).2.2, huid]
    exact hl
  cases stage with
  | add => exact enters_of_eq hta
  | delete => exact enters_of_eq htd
  | update =>
    have htable : Backend.workTable (b.modified r ec vcardField sent stored) .update
        = if ((b.contacts r).updateFromEcontact ec vcardField).2.needsUpdate
          then b.contactsToUpdate.insert (b.contacts r).uid r else b.contactsToUpdate := by
      rw [← hd.uid]; exact htu
    rw [htable]
    split
    · exact enters_insert huid ⟨hlive, rfl⟩
    · exact enters_of_eq rfl

/-- Any other edit changes the work tables by what it completes. -/
theorem workTable_apply {b : Book} {e : Edit} (hp : e.Proper b) (he : ¬ e.Enlists)
    (stage : Phase3Stage) : Backend.workTable (b.apply e) stage = e.leaves b stage := by
  cases e with
  | importContact c => exact absurd trivial he
  | createContact c => exact absurd trivial he
  | modified r ec vcardField sent stored => exact absurd trivial he
  | scheduleRemoval r => exact absurd trivial he
  | memberReported pathSuffix cIn =>
    unfold apply memberReported
    dsimp only
    split <;> rw [workTable_enterHandle] <;> cases stage <;> rfl
  | contactAdded pathSuffix cIn =>
    unfold apply contactAdded
    dsimp only
    split <;> cases stage <;> rfl
  | mergeByHandle f cIn =>
    unfold apply mergeByHandle
    dsimp only
    split <;> cases stage <;> rfl
  | forgetHandles => cases stage <;> rfl
  | touch r t => cases stage <;> rfl
  | deleteContacts rs =>
    obtain ⟨h1, h2, h3⟩ := foldl_deleteContact_work rs b
    cases stage with
    | update => exact h3
    | add => exact h1
    | delete => exact h2
  | addDone r c =>
    have hasked : Contact.Asked (b.contacts r) c := hp
    rcases addDone_spec b r c with ⟨-, hs⟩ | ⟨dest, -, hs⟩
    · cases stage with
      | update => exact hs.toUpdate
      | add => exact hs.toAdd.trans (by rw [hasked.uid]; rfl)
      | delete => exact hs.toDelete
    · cases stage with
      | update => exact hs.toUpdate
      | add => exact hs.toAdd.trans (by rw [hasked.uid]; rfl)
      | delete => exact hs.toDelete
  | addFailed r c => cases stage <;> rfl
  | removalDone r =>
    have hself : ((b.modify r Contact.clearDelete).contacts r).uid = (b.contacts r).uid := by
      rw [modify_contacts_self]; rfl
    cases stage with
    | update => rfl
    | add => rfl
    | delete =>
      show b.contactsToDelete.erase ((b.modify r Contact.clearDelete).contacts r).uid = _
      rw [hself]
      rfl

theorem enters_createContact {b : Book} {c : Contact} (hadd : c.pendingFlags.has scheduleAdd = true)
    (stage : Phase3Stage) :
    Enters (b.apply (.createContact c)) stage (Backend.workTable b stage)
      (Backend.workTable (b.apply (.createContact c)) stage) := by
  have hbook : b.apply (.createContact c) = _ := createContact_added b hadd
  have hnew : (b.apply (.createContact c)).contacts b.next = c := createContact_contacts_next b c
  cases stage with
  | update => rw [hbook]; exact enters_of_eq rfl
  | delete => rw [hbook]; exact enters_of_eq rfl
  | add =>
    have htable : Backend.workTable (b.apply (.createContact c)) .add
        = b.contactsToAdd.insert c.uid b.next := by rw [hbook]; rfl
    rw [htable]
    refine enters_insert (congrArg Contact.uid hnew) ⟨?_, by rw [hnew]; exact hadd⟩
    unfold Live
    rw [hnew, hbook]
    exact AList.lookup_insert _

theorem enters_scheduleRemoval {b : Book} {r : Nat} (hl : b.Live r) (stage : Phase3Stage) :
    Enters (b.apply (.scheduleRemoval r)) stage (Backend.workTable b stage)
      (Backend.workTable (b.apply (.scheduleRemoval r)) stage) := by
  have hself : ((b.modify r Contact.nothingPending).modify r Contact.markDelete).contacts r
      = (b.contacts r).nothingPending.markDelete := by
    rw [modify_contacts_self, modify_contacts_self]
  cases stage with
  | update => exact enters_of_eq rfl
  | add => exact enters_of_eq rfl
  | delete =>
    refine enters_insert rfl ⟨?_, ?_⟩
    · show b.uidToContact.lookup
        (((b.modify r Contact.nothingPending).modify r Contact.markDelete).contacts r).uid = some r
      rw [hself]
      exact hl
    · show (((b.modify r Contact.nothingPending).modify r Contact.markDelete).contacts r).asksFor _ = _
      rw [hself]
      exact BitVec.or_has_self (by decide)

/-- **Whoever an edit enters in a work table is due.** -/
theorem enters_apply {b : Book} {e : Edit} (hf : b.Filed) (hp : e.Proper b) (stage : Phase3Stage) :
    Enters (b.apply e) stage (e.leaves b stage) (Backend.workTable (b.apply e) stage) := by
  by_cases he : e.Enlists
  · cases e with
    | importContact c => exact enters_importContact b c stage
    | createContact c => exact enters_createContact hp.2.2.add stage
    | modified r ec vcardField sent stored =>
      obtain ⟨k, hk⟩ := hp
      exact enters_modified (hf.live hk) ec vcardField sent stored stage
    | scheduleRemoval r =>
      obtain ⟨k, hk⟩ := hp
      exact enters_scheduleRemoval (hf.live hk) stage
    | _ => exact he.elim
  · exact enters_of_eq (workTable_apply hp he stage)

/-- What an edit leaves in a work table was there. -/
theorem leaves_lookup {b : Book} {e : Edit} {stage : Phase3Stage} {k : String} {x : Nat}
    (h : (e.leaves b stage).lookup k = some x) : (Backend.workTable b stage).lookup k = some x := by
  unfold Edit.leaves at h
  split at h
  · exact (Table.lookup_erase_eq_some.mp h).2
  · exact (Table.lookup_erase_eq_some.mp h).2
  · exact h

theorem Allocated.work {b : Book} (h : b.Allocated) {stage : Phase3Stage} {k : String} {r : Nat}
    (hr : (Backend.workTable b stage).lookup k = some r) : r < b.next := by
  cases stage with
  | update => exact h.toUpdate k r hr
  | add => exact h.toAdd k r hr
  | delete => exact h.toDelete k r hr

theorem filed_apply {b : Book} {e : Edit} (hf : b.Filed) (ha : b.Allocated) (hp : e.Proper b) :
    (b.apply e).Filed := by
  have hkeeps : ∀ {r : Nat}, r < b.next → ((b.apply e).contacts r).uid = (b.contacts r).uid := fun hr =>
    (becomes_apply hp hr).uid
  refine ⟨fun k r hr => ?_, fun stage k r hr => ?_⟩
  · rcases uid_entries_apply hr with hold | hnew
    · rw [hkeeps (ha.uid k r hold)]
      exact hf.uid k r hold
    · exact hnew
  · rcases enters_apply hf hp stage k r hr with hold | ⟨hnew, -⟩
    · have hwork := leaves_lookup hold
      rw [hkeeps (ha.work hwork)]
      exact hf.work stage k r hwork
    · exact hnew

/-! ## The invariant -/

/-- The contact is in the table of the stage, or in a snapshot of it. -/
def Waits (agenda : List (Phase3Stage × Nat)) (b : Book) (stage : Phase3Stage) (r : Nat) : Prop :=
  (∃ k, (Backend.workTable b stage).lookup k = some r) ∨ (stage, r) ∈ agenda

/-- **Whoever waits is due.** -/
structure AllDue (agenda : List (Phase3Stage × Nat)) (b : Book) : Prop where
  filed : b.Filed
  allocated : ∀ t ∈ agenda, t.2 < b.next
  due : ∀ stage r, b.Waits agenda stage r → b.Due stage r

theorem allDue_apply {agenda : List (Phase3Stage × Nat)} {b : Book} {e : Edit} (h : b.AllDue agenda)
    (ha : b.Allocated) (hp : e.Proper b) (hok : e.KeepsDue agenda b) : (b.apply e).AllDue agenda := by
  refine ⟨filed_apply h.filed ha hp, fun t ht => Nat.lt_of_lt_of_le (h.allocated t ht) (next_apply b e),
    fun stage r hw => ?_⟩
  -- a contact that waited before and still does
  have hstill : b.Waits agenda stage r → r < b.next → r ∈ e.waiting agenda b stage →
      (b.apply e).Due stage r := by
    intro hbefore hlt hin
    obtain ⟨hnd, hns⟩ := hok stage stage.mem_all r hin
    obtain ⟨hlive, hask⟩ := h.due stage r hbefore
    exact ⟨stays_live hp hlt hlive hnd, asksFor_apply hp hlt hask hns⟩
  rcases hw with ⟨k, hk⟩ | hin
  · rcases enters_apply h.filed hp stage k r hk with hold | ⟨-, hdue⟩
    · have hwork := leaves_lookup hold
      exact hstill (.inl ⟨k, hwork⟩) (ha.work hwork)
        (List.mem_append_left _ (Table.mem_values.mpr ⟨k, hold⟩))
    · exact hdue
  · refine hstill (.inr hin) (h.allocated _ hin) (List.mem_append_right _ ?_)
    exact List.mem_map.mpr ⟨(stage, r), List.mem_filter.mpr ⟨hin, decide_eq_true rfl⟩, rfl⟩

/-- A snapshot may be taken of what waits in a table. -/
theorem AllDue.of_waits {agenda agenda' : List (Phase3Stage × Nat)} {b : Book} (h : b.AllDue agenda)
    (ha : b.Allocated)
    (hw : ∀ t ∈ agenda', t ∈ agenda ∨ t.2 ∈ Table.values (Backend.workTable b t.1)) :
    b.AllDue agenda' := by
  refine ⟨h.filed, fun t ht => ?_, fun stage r hwaits => h.due stage r ?_⟩
  · rcases hw t ht with hin | hin
    · exact h.allocated t hin
    · obtain ⟨k, hk⟩ := Table.mem_values.mp hin
      exact ha.work hk
  · rcases hwaits with htable | hin
    · exact .inl htable
    · rcases hw _ hin with hold | hvalue
      · exact .inr hold
      · exact .inl (Table.mem_values.mp hvalue)

end Book

/-! ## Runs -/

/-- What is left of a snapshot, with its stage. -/
def Phase3.tasks (p : Phase3) : List (Phase3Stage × Nat) := p.todo.map fun r => (p.stage, r)

namespace Backend

/-- What the snapshots hold. -/
def tasks (b : Backend) : List (Phase3Stage × Nat) := b.phase3.flatMap Phase3.tasks

/-- What they hold while an event runs: phase 3 has taken the contact it deals with from its own. -/
def agenda (b : Backend) : Event → List (Phase3Stage × Nat)
  | .phase3Next _ =>
    match b.phase3 with
    | p :: rest => Phase3.tasks { p with todo := p.todo.tail } ++ rest.flatMap Phase3.tasks
    | [] => []
  | _ => b.tasks

/-- No step of the event ends what a waiting contact waits for. -/
def KeepsDue (b : Backend) (i : Input) : Prop := EditsMeet (Edit.KeepsDue (b.agenda i.event)) b i

instance (b : Backend) : DecidablePred (KeepsDue b) := fun i => by
  unfold KeepsDue; infer_instance

theorem agenda_subset (b : Backend) (e : Event) : ∀ t ∈ b.agenda e, t ∈ b.tasks := by
  intro t ht
  cases e with
  | phase3Next order =>
    unfold agenda at ht
    unfold tasks
    cases hp : b.phase3 with
    | nil =>
      rw [hp] at ht
      cases ht
    | cons p rest =>
      rw [hp] at ht
      rw [List.flatMap_cons]
      rcases List.mem_append.mp ht with hin | hin
      · obtain ⟨r, hr, rfl⟩ := List.mem_map.mp hin
        exact List.mem_append_left _ (List.mem_map.mpr ⟨r, List.mem_of_mem_tail hr, rfl⟩)
      · exact List.mem_append_right _ hin
  | _ => exact ht

/-- The snapshots after an event hold what they held, or what is in a table now. -/
theorem tasks_take {b b' : Backend} {e : Event} (hs : b.take e = some b') :
    ∀ t ∈ b'.tasks, t ∈ b.agenda e ∨ t.2 ∈ Table.values (workTable b'.book t.1) := by
  intro t ht
  have hagenda := take_agenda hs
  have hbook := take_book hs
  unfold tasks at ht
  generalize b'.phase3 = ps at hagenda ht
  cases hagenda with
  | same hne =>
    cases e with
    | phase3Next order => exact absurd rfl (hne order)
    | _ => exact .inl ht
  | begins hperm =>
    rw [List.flatMap_cons] at ht
    rcases List.mem_append.mp ht with hin | hin
    · obtain ⟨r, hr, rfl⟩ := List.mem_map.mp hin
      right
      rw [hbook]
      exact hperm.mem_iff.mp hr
    · exact .inl hin
  | @advances order p rest ps hp hadv =>
    have hmem : t ∈ b.agenda (.phase3Next order)
        ↔ t ∈ Phase3.tasks { p with todo := p.todo.tail } ++ rest.flatMap Phase3.tasks := by
      unfold agenda
      rw [hp]
    rw [hmem]
    rw [List.flatMap_append] at ht
    rcases List.mem_append.mp ht with hin | hin
    · cases hadv with
      | @next r p' htodo hstage =>
        rw [List.flatMap_singleton] at hin
        obtain ⟨x, hx, rfl⟩ := List.mem_map.mp hin
        refine .inl (List.mem_append_left _ (List.mem_map.mpr ⟨x, ?_, by rw [hstage]⟩))
        rw [htodo]; exact hx
      | @snapshot p' htodo hperm =>
        rw [List.flatMap_singleton] at hin
        obtain ⟨x, hx, rfl⟩ := List.mem_map.mp hin
        right
        -- nothing is edited where a snapshot is taken
        have hnone : b.edits (.phase3Next order) = [] := by
          unfold edits
          dsimp only
          rw [hp]
          dsimp only
          unfold phase3Edits
          rw [htodo]
          cases p.stage <;> rfl
        rw [hbook, hnone]
        exact hperm.mem_iff.mp hx
      | ended _ => cases hin
    · exact .inl (List.mem_append_right _ hin)

theorem allDue_step {b b' : Backend} {i : Input} (hsane : Sane b) (h : b.book.AllDue b.tasks)
    (hok : b.KeepsDue i) (hs : b.step i = some b') : b'.book.AllDue b'.tasks := by
  have hagenda : b.book.AllDue (b.agenda i.event) :=
    h.of_waits hsane.allocated fun t ht => .inl (agenda_subset b i.event t ht)
  have hedited : b'.book.AllDue (b.agenda i.event) :=
    take_book_inv (b := b.load i.env) (I := Book.AllDue (b.agenda i.event))
      (fun book ed hI ha hp hP _ => Book.allDue_apply hI ha hp hP) (hsane.load i.env) hagenda hok hs
  have hsane' := sane_step hsane hs
  exact hedited.of_waits hsane'.allocated (tasks_take (b := b.load i.env) hs)

theorem filed_step {b b' : Backend} {i : Input} (hsane : Sane b) (h : b.book.Filed)
    (hs : b.step i = some b') : b'.book.Filed :=
  take_book_inv (b := b.load i.env) (I := Book.Filed) (P := fun _ _ => True)
    (fun _ _ hI ha hp _ _ => Book.filed_apply hI ha hp) (hsane.load i.env) h
    (allAlong_of_forall (fun _ _ _ => trivial) _) hs

/-- **The indexes of every state are filed.** -/
theorem filed_reachable {pathSuffix vcardField : String} {db : Db} {b : Backend}
    (h : ReachableFrom pathSuffix vcardField db b) : b.book.Filed := by
  obtain ⟨is, hrun⟩ := h
  have hinv : Sane b ∧ b.book.Filed :=
    Machine.run_inv (M := machine) (I := fun b => Sane b ∧ b.book.Filed)
      (fun _ _ _ hI hs => ⟨sane_step hI.1 hs, filed_step hI.1 hI.2 hs⟩) hrun
      ⟨sane_boot pathSuffix vcardField db, Book.filed_empty⟩
  exact hinv.2

/-- The contact that phase 3 deals with next is due. -/
def NextDue (b : Backend) : Prop :=
  ∀ p rest r todo, b.phase3 = p :: rest → p.todo = r :: todo → b.book.Due p.stage r

theorem nextDue_of_allDue {b : Backend} (h : b.book.AllDue b.tasks) : b.NextDue := by
  intro p rest r todo hp htodo
  refine h.due p.stage r (.inr ?_)
  unfold tasks
  rw [hp, List.flatMap_cons]
  refine List.mem_append_left _ (List.mem_map.mpr ⟨r, ?_, rfl⟩)
  rw [htodo]
  exact List.mem_cons_self

/-- The rest of a phase 3 that has nothing to do. -/
def idlePhase3 : List Input :=
  [{ event := .phase3 [] }, { event := .phase3Next [] }, { event := .phase3Next [] },
    { event := .phase3Next [] }]

end Backend

end EdsTelepathy
