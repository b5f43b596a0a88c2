import EdsTelepathy.Proof.Due
import EdsTelepathy.Proof.Handles

/-!
# Contacts in reach of the roster

The address book hears of a contact's presence by its handle, through its own handle index.
A contact whose presence is known is in reach as long as the index has it under a handle of
the roster: then it is also told when the presence ends. An edit takes a contact out of
reach where it gives the index entry of one contact to another, drops it on behalf of
another, or gives a presence to a contact that did not get an entry.
-/

namespace EdsTelepathy

namespace Contact

/-- The presence and the capabilities are the same. -/
structure SamePresence (c c' : Contact) : Prop where
  generic : c'.genericStatus = c.genericStatus
  status : c'.status = c.status
  capabilities : c'.capabilities = c.capabilities

theorem SamePresence.refl (c : Contact) : SamePresence c c := ⟨rfl, rfl, rfl⟩

theorem SamePresence.trans {c c' c'' : Contact} (h : SamePresence c c') (h' : SamePresence c' c'') :
    SamePresence c c'' :=
  ⟨h'.generic.trans h.generic, h'.status.trans h.status, h'.capabilities.trans h.capabilities⟩

theorem SamePresence.offline {c c' : Contact} (h : SamePresence c c') (hc : c.Offline) : c'.Offline :=
  ⟨h.generic.trans hc.generic, h.status.trans hc.status, h.capabilities.trans hc.capabilities⟩

/-- Everything that the roster reports of a contact, its lists apart, is the same. -/
structure SameReport (c c' : Contact) : Prop extends SamePresence c c' where
  aliasName : c'.aliasName = c.aliasName
  statusMessage : c'.statusMessage = c.statusMessage
  contactInfo : c'.contactInfo = c.contactInfo

theorem SameReport.refl (c : Contact) : SameReport c c := ⟨.refl c, rfl, rfl, rfl⟩

theorem SameReport.trans {c c' c'' : Contact} (h : SameReport c c') (h' : SameReport c' c'') :
    SameReport c c'' :=
  ⟨h.toSamePresence.trans h'.toSamePresence, h'.aliasName.trans h.aliasName,
    h'.statusMessage.trans h.statusMessage, h'.contactInfo.trans h.contactInfo⟩

theorem sameReport_updateMasterUids (c : Contact) (uids : List (Option String)) :
    SameReport c (c.updateMasterUids uids) := by
  refine foldl_inv (I := SameReport c) (fun c' uid h => ?_) uids (.refl c)
  unfold addMasterUid
  split
  · exact h
  · exact h.trans ⟨⟨rfl, rfl, rfl⟩, rfl, rfl, rfl⟩

theorem sameReport_addVariants (dest src : Contact) :
    SameReport dest (dest.addVariantsFromContact src) := by
  unfold addVariantsFromContact
  dsimp only
  split <;> exact ⟨⟨rfl, rfl, rfl⟩, rfl, rfl, rfl⟩

theorem sameReport_mergeFrom (dest src : Contact) : SameReport dest (dest.mergeFrom src) := by
  have h := (sameReport_addVariants dest src).trans
    (sameReport_updateMasterUids _ src.masterUids)
  unfold mergeFrom
  dsimp only
  split
  · exact h.trans ⟨⟨rfl, rfl, rfl⟩, rfl, rfl, rfl⟩
  · exact h

theorem sameReport_mergeSubmitted (e c : Contact) : SameReport e (e.mergeSubmitted c) := by
  have h := (sameReport_updateMasterUids e c.masterUids).trans (sameReport_addVariants _ c)
  unfold mergeSubmitted
  dsimp only
  split
  · exact h.trans ⟨⟨rfl, rfl, rfl⟩, rfl, rfl, rfl⟩
  · exact h

theorem sameReport_updated (c : Contact) (unblocked : Bool) :
    SameReport c (c.updated unblocked) := by
  unfold updated unblockAsked
  split
  · split <;> exact ⟨⟨rfl, rfl, rfl⟩, rfl, rfl, rfl⟩
  · exact ⟨⟨rfl, rfl, rfl⟩, rfl, rfl, rfl⟩

theorem sameReport_removeTokens (c : Contact) (tokens : List String) :
    SameReport c (c.removeTokens tokens).1 := by
  unfold removeTokens
  split
  · exact .refl c
  · unfold removeAllMasterUids
    split <;> exact ⟨⟨rfl, rfl, rfl⟩, rfl, rfl, rfl⟩
  · refine foldl_inv (I := fun st : Contact × Bool => SameReport c st.1) (fun st token h => ?_)
      tokens (.refl c)
    unfold removeToken
    split
    · exact h
    · split
      · exact h
      · refine h.trans ?_
        unfold removeMasterUid
        split <;> exact ⟨⟨rfl, rfl, rfl⟩, rfl, rfl, rfl⟩

theorem sameReport_updateTpAttribute (c : Contact) (attr : Attribute) (flag : Flags) :
    SameReport c (c.updateTpAttribute attr flag) := by
  unfold updateTpAttribute
  split
  · split <;> exact ⟨⟨rfl, rfl, rfl⟩, rfl, rfl, rfl⟩
  · split
    · split <;> exact ⟨⟨rfl, rfl, rfl⟩, rfl, rfl, rfl⟩
    · exact .refl c

theorem sameReport_updateFromEcontact (c : Contact) (ec : EVCard) (vcardField : String) :
    SameReport c (c.updateFromEcontact ec vcardField).2 := by
  have hloop : SameReport c
      (ec.foldl (decodeAttribute vcardField) ({ c with pendingFlags := c.flags }, [])).1 := by
    refine foldl_inv (I := fun st : Contact × List (Option String) => SameReport c st.1)
      (fun st attr h => ?_) ec ⟨⟨rfl, rfl, rfl⟩, rfl, rfl, rfl⟩
    unfold decodeAttribute
    split
    · exact h
    · split
      · exact h.trans ⟨⟨rfl, rfl, rfl⟩, rfl, rfl, rfl⟩
      · split
        · exact h.trans (sameReport_updateTpAttribute _ _ _)
        · split
          · exact h.trans (sameReport_updateTpAttribute _ _ _)
          · split
            · exact h.trans (sameReport_updateTpAttribute _ _ _)
            · exact h
  unfold updateFromEcontact
  dsimp only
  split
  · exact hloop.trans ⟨⟨rfl, rfl, rfl⟩, rfl, rfl, rfl⟩
  · exact hloop

theorem sameReport_updateName (c : Contact) (n : Option String) :
    SameReport c (c.updateName n) := by
  unfold updateName
  split
  · exact .refl c
  · split
    · exact .refl c
    · split <;> exact ⟨⟨rfl, rfl, rfl⟩, rfl, rfl, rfl⟩

theorem Eased.sameReport {c c' : Contact} (h : c.Eased c') : SameReport c c' := by
  obtain ⟨pending, rfl, -⟩ := h
  exact ⟨⟨rfl, rfl, rfl⟩, rfl, rfl, rfl⟩

end Contact

theorem Cl.sameReport_runAddContact (cl : Cl) (c : Contact) (w : Wire) :
    Contact.SameReport c (cl.runAddContact c w).2.1 := by
  unfold Cl.runAddContact
  split
  · dsimp only
    split
    · split
      · split
        · have h := Contact.sameReport_updateName
            { c with handle := (w.ask (.requestHandles c.name)).1.handle }
            ((w.ask (.requestHandles c.name)).2.ask
              (.inspectHandles (w.ask (.requestHandles c.name)).1.handle)).1.name
          exact ⟨⟨h.generic, h.status, h.capabilities⟩, h.aliasName, h.statusMessage, h.contactInfo⟩
        · exact ⟨⟨rfl, rfl, rfl⟩, rfl, rfl, rfl⟩
      · exact .refl c
    · exact .refl c
  · exact .refl c

/-- **A request to add a contact says nothing that the roster reports.** -/
theorem Backend.sameReport_runAddContact (b : Backend) (c : Contact) :
    Contact.SameReport c (b.runAddContact c).2.1 := by
  have h := Cl.sameReport_runAddContact b.tpcl c b.wire
  unfold Backend.runAddContact
  split
  · exact .refl c
  · generalize b.tpcl.runAddContact c b.wire = p at h
    obtain ⟨_ | ⟨_ | _⟩, c', w⟩ := p
    · exact h
    · exact h
    · exact h.trans ⟨⟨rfl, rfl, rfl⟩, rfl, rfl, rfl⟩

theorem Touch.sameReport (t : Touch) (c : Contact) : Contact.SameReport c (t.apply c) := by
  cases t with
  | clearDelete => exact ⟨⟨rfl, rfl, rfl⟩, rfl, rfl, rfl⟩
  | updated unblocked => exact Contact.sameReport_updated c unblocked
  | submitted c' unblocked =>
    exact (Contact.sameReport_mergeSubmitted c c').trans (Contact.sameReport_updated _ unblocked)
  | removeTokens tokens => exact Contact.sameReport_removeTokens c tokens
  | masterUidsStored => exact ⟨⟨rfl, rfl, rfl⟩, rfl, rfl, rfl⟩
  | nothingPending => exact ⟨⟨rfl, rfl, rfl⟩, rfl, rfl, rfl⟩

/-- Two of the handlers copy a presence. -/
theorem Carried.samePresence {f : Carried} (hp : f ≠ .presence) (hc : f ≠ .capabilities)
    (src c : Contact) : Contact.SamePresence c (f.copy src c) := by
  obtain ⟨token, htoken⟩ := Contact.avatarTokenFrom_eq src c
  cases f with
  | presence => exact absurd rfl hp
  | capabilities => exact absurd rfl hc
  | avatarToken =>
    show Contact.SamePresence c (src.avatarTokenFrom c)
    rw [htoken]
    exact ⟨rfl, rfl, rfl⟩
  | avatarData =>
    show Contact.SamePresence c (src.avatarDataFrom c)
    unfold Contact.avatarDataFrom
    rw [htoken]
    exact ⟨rfl, rfl, rfl⟩
  | _ => exact ⟨rfl, rfl, rfl⟩

namespace Book

/-- Every contact of the uid index is offline, or in the handle index under one of the handles. -/
def InReach (K : Nat → Prop) (b : Book) : Prop :=
  ∀ r, b.Live r → (b.contacts r).Offline ∨ ∃ h, K h ∧ b.handleToContact.lookup h = some r

/-- The contact has no presence to lose. -/
def Absent (b : Book) (r : Nat) : Prop := ¬ b.Live r ∨ (b.contacts r).Offline

instance (b : Book) (r : Nat) : Decidable (b.Absent r) := inferInstanceAs (Decidable (_ ∨ _))

end Book

namespace Edit

/--
The edit takes nobody out of reach. The contact that the handle index has under the handle
of a reported member is the one of that name, unless the member is offline. A contact that
is put in the place of another one in the handle index, or dropped from it together with
another one, has no presence.
-/
def KeepsReach (b : Book) : Edit → Prop
  | .memberReported _ cIn =>
    ∀ x ∈ b.handleToContact.lookup cIn.handle,
      b.nameToContact.lookup cIn.name = some x ∨ cIn.Offline
  | .contactAdded _ cIn =>
    ∀ x ∈ b.handleToContact.lookup cIn.handle,
      b.nameToContact.lookup cIn.name = some x ∨ b.Absent x
  | .deleteContacts rs =>
    ∀ r ∈ rs, 0 < (b.contacts r).handle →
      ∀ x ∈ b.handleToContact.lookup (b.contacts r).handle, x ∈ rs ∨ b.Absent x
  | .addDone r c =>
    ∀ dest ∈ b.mergeTarget r c,
      dest ≠ r ∧ (b.Live dest ∨ (b.contacts dest).Offline)
        ∧ (0 < c.handle → ∀ x ∈ b.handleToContact.lookup c.handle,
          x = r ∨ b.Absent x ∨ (x = dest ∧ (b.contacts dest).handle = c.handle))
        ∧ ∀ x ∈ b.handleToContact.lookup (b.contacts dest).handle, x = dest ∨ x = r ∨ b.Absent x
  | _ => True

instance (b : Book) : DecidablePred (KeepsReach b) := fun e => by
  cases e <;> unfold KeepsReach <;> infer_instance

/-- What the edits of every event are like: whoever is new is offline, and requests change no presence. -/
def Calm (b : Book) : Edit → Prop
  | .importContact c => c.Offline
  | .createContact c => c.Offline
  | .addDone r c => Contact.SamePresence (b.contacts r) c
  | .addFailed r c => Contact.SamePresence (b.contacts r) c
  | _ => True

/-- The edit passes on a presence only for handles of the roster, and does not forget them all. -/
def HeardOf (K : Nat → Prop) : Edit → Prop
  | .memberReported _ cIn => K cIn.handle
  | .contactAdded _ cIn => K cIn.handle
  | .mergeByHandle f cIn => f = .presence ∨ f = .capabilities → K cIn.handle
  | .forgetHandles => False
  | _ => True

end Edit

namespace Book

variable {K : Nat → Prop}

/-- Whoever was in reach still is: the presence is the same, and so are the entries that count. -/
theorem InReach.of_same {b b' : Book} (h : b.InReach K) (hlive : ∀ r, b'.Live r → b.Live r)
    (hpres : ∀ r, b.Live r → Contact.SamePresence (b.contacts r) (b'.contacts r))
    (hentry : ∀ r h, b'.Live r → ¬ (b.contacts r).Offline → b.handleToContact.lookup h = some r →
      K h → ∃ h', K h' ∧ b'.handleToContact.lookup h' = some r) : b'.InReach K := by
  intro r hr
  by_cases hoff : (b.contacts r).Offline
  · exact .inl ((hpres r (hlive r hr)).offline hoff)
  · rcases h r (hlive r hr) with h1 | ⟨x, hx, hl⟩
    · exact absurd h1 hoff
    · exact .inr (hentry r x hr hoff hl hx)

/-- Changing a contact object; it keeps its uid, and its presence unless it is in reach. -/
theorem InReach.modify {b : Book} (h : b.InReach K) {r : Nat} {f : Contact → Contact}
    (huid : (f (b.contacts r)).uid = (b.contacts r).uid)
    (hf : Contact.SamePresence (b.contacts r) (f (b.contacts r))
      ∨ ∃ x, K x ∧ b.handleToContact.lookup x = some r) : (b.modify r f).InReach K := by
  intro r' hr'
  by_cases he : r' = r
  · subst he
    have hl : b.Live r' := by
      unfold Live at hr' ⊢
      rw [modify_contacts_self, huid] at hr'
      exact hr'
    rw [modify_contacts_self]
    rcases hf with hsame | hin
    · rcases h r' hl with hoff | hin
      · exact .inl (hsame.offline hoff)
      · exact .inr hin
    · exact .inr hin
  · unfold Live at hr'
    rw [modify_contacts_of_ne he] at hr' ⊢
    exact h r' hr'

/-- The tables that do not matter may change. -/
theorem InReach.of_tables {b b' : Book} (h : b.InReach K) (hc : b'.contacts = b.contacts)
    (hu : b'.uidToContact = b.uidToContact) (ht : b'.handleToContact = b.handleToContact) :
    b'.InReach K := by
  intro r hr
  unfold Live at hr
  rw [hc, hu] at hr
  rw [hc, ht]
  exact h r hr

/-- A new contact that is offline, under a uid of its own. -/
theorem InReach.alloc {b b' : Book} (h : b.InReach K) {c : Contact}
    (hoff : c.Offline) (hc : b'.contacts = (b.alloc c).contacts) {u : String}
    (hu : b'.uidToContact = b.uidToContact.insert u b.next)
    (ht : b'.handleToContact = b.handleToContact) : b'.InReach K := by
  intro r hr
  by_cases he : r = b.next
  · rw [hc, he, alloc_contacts_next]
    exact .inl hoff
  · unfold Live at hr
    rw [hc, hu, alloc_contacts_of_ne he] at hr
    rw [hc, ht, alloc_contacts_of_ne he]
    rcases Table.lookup_insert_eq_some.mp hr with ⟨-, heq⟩ | ⟨-, hold⟩
    · exact absurd heq.symm he
    · exact h r hold

theorem enterHandle_kept {b : Book} {x y r r' : Nat} (h : b.handleToContact.lookup y = some r') :
    (b.enterHandle x r).handleToContact.lookup y = some r' := by
  unfold Book.enterHandle
  split
  · exact h
  · rename_i hnone
    refine (AList.lookup_insert_ne fun he => hnone ?_).trans h
    rw [← he, h]
    rfl

theorem enterHandle_new {b : Book} {x r : Nat} (h : b.handleToContact.lookup x = none) :
    (b.enterHandle x r).handleToContact.lookup x = some r := by
  unfold Book.enterHandle
  rw [h]
  exact AList.lookup_insert _

/-- Whoever gets the entry of a handle of the roster is in reach. -/
theorem inReach_enterHandle {b : Book} {x r : Nat} (hK : K x)
    (h : ∀ r', b.Live r' → (r' = r ∧ b.handleToContact.lookup x = none)
      ∨ (b.contacts r').Offline ∨ ∃ y, K y ∧ b.handleToContact.lookup y = some r') :
    (b.enterHandle x r).InReach K := by
  intro r' hr'
  unfold Live at hr'
  rw [enterHandle_contacts, enterHandle_uidToContact] at hr'
  rw [enterHandle_contacts]
  rcases h r' hr' with ⟨rfl, hnone⟩ | hoff | ⟨y, hy, hl⟩
  · exact .inr ⟨x, hK, enterHandle_new hnone⟩
  · exact .inl hoff
  · exact .inr ⟨y, hy, enterHandle_kept hl⟩

/-- What a reply of the roster says of a contact that is offline leaves an offline contact offline. -/
theorem seen_offline {cIn c : Contact} (hin : cIn.Offline) (hc : c.Offline) : (cIn.seen c).Offline := by
  refine ⟨hin.generic, ?_, hc.capabilities⟩
  show Contact.refresh c.status cIn.status = _
  rw [hc.status, hin.status]
  rfl

theorem inReach_memberReported {b : Book} (h : b.InReach K) {pathSuffix : String} {cIn : Contact}
    (hK : K cIn.handle) (hok : (Edit.memberReported pathSuffix cIn).KeepsReach b) :
    (b.memberReported pathSuffix cIn).InReach K := by
  unfold memberReported
  split
  · rename_i r hr
    refine inReach_enterHandle hK fun r' hr' => ?_
    by_cases he : r' = r
    · subst he
      have hlive : b.Live r' := by
        unfold Live at hr' ⊢
        rw [modify_contacts_self] at hr'
        exact hr'
      cases hx : b.handleToContact.lookup cIn.handle with
      | none => exact .inl ⟨rfl, hx⟩
      | some x =>
        right
        rcases hok x hx with hname | hoff
        · -- the entry is the contact's own
          rw [hr] at hname
          cases hname
          exact .inr ⟨cIn.handle, hK, hx⟩
        · rcases h r' hlive with hc | hin
          · rw [modify_contacts_self]
            exact .inl (seen_offline hoff hc)
          · exact .inr hin
    · unfold Live at hr'
      rw [modify_contacts_of_ne he] at hr' ⊢
      exact .inr (h r' hr')
  · rename_i hr
    refine inReach_enterHandle hK fun r' hr' => ?_
    have hcon : ∀ x, (b.memberFound pathSuffix cIn).contacts x
        = (b.alloc { cIn.dup with uid := generateUid pathSuffix b.uidToContact cIn.name }).contacts x :=
      fun _ => rfl
    -- the new contact gets the entry, or it is offline and the entry stays
    by_cases he : r' = b.next
    · cases hx : b.handleToContact.lookup cIn.handle with
      | none => exact .inl ⟨he, hx⟩
      | some x =>
        refine .inr (.inl ?_)
        rcases hok x hx with hname | hoff
        · rw [hr] at hname
          cases hname
        · rw [hcon, he, alloc_contacts_next]
          exact ⟨hoff.generic, hoff.status, hoff.capabilities⟩
    · -- everybody else is where they were
      unfold Live at hr'
      rw [hcon, alloc_contacts_of_ne he] at hr' ⊢
      rcases Table.lookup_insert_eq_some.mp hr' with ⟨-, heq⟩ | ⟨-, hold⟩
      · exact absurd heq.symm he
      · exact .inr (h r' hold)

/-- The contact is entered under its handle and its uid, in the place of nobody with a presence. -/
theorem inReach_enterAdded {b : Book} {r : Nat} (hK : K (b.contacts r).handle)
    (h : ∀ r', r' ≠ r → b.Live r' → (b.contacts r').Offline
      ∨ ∃ y, K y ∧ y ≠ (b.contacts r).handle ∧ b.handleToContact.lookup y = some r') :
    (b.enterAdded r).InReach K := by
  intro r' hr'
  have hcon : (b.enterAdded r).contacts = b.contacts := rfl
  have ht : (b.enterAdded r).handleToContact = b.handleToContact.insert (b.contacts r).handle r := rfl
  have hu : (b.enterAdded r).uidToContact = b.uidToContact.insert (b.contacts r).uid r := rfl
  rw [hcon, ht]
  by_cases he : r' = r
  · subst he
    exact .inr ⟨_, hK, AList.lookup_insert _⟩
  · unfold Live at hr'
    rw [hcon, hu] at hr'
    rcases Table.lookup_insert_eq_some.mp hr' with ⟨-, heq⟩ | ⟨-, hold⟩
    · exact absurd heq.symm he
    · rcases h r' he hold with hoff | ⟨y, hy, hne, hl⟩
      · exact .inl hoff
      · exact .inr ⟨y, hy, (AList.lookup_insert_ne hne).trans hl⟩

/-- Whoever is in reach of another handle than the one that is given away, or has no presence. -/
theorem InReach.apart {b : Book} (h : b.InReach K) {x r : Nat} (hr : b.Live r)
    (hx : b.handleToContact.lookup x = some r → b.Absent r) :
    (b.contacts r).Offline ∨ ∃ y, K y ∧ y ≠ x ∧ b.handleToContact.lookup y = some r := by
  rcases h r hr with hoff | ⟨y, hy, hl⟩
  · exact .inl hoff
  · by_cases he : y = x
    · subst he
      rcases hx hl with hnot | hoff
      · exact absurd hr hnot
      · exact .inl hoff
    · exact .inr ⟨y, hy, he, hl⟩

theorem inReach_contactAdded {b : Book} (h : b.InReach K) {pathSuffix : String} {cIn : Contact}
    (hK : K cIn.handle) (hok : (Edit.contactAdded pathSuffix cIn).KeepsReach b) :
    (b.contactAdded pathSuffix cIn).InReach K := by
  unfold contactAdded
  split
  · rename_i r hr
    have hhandle : ((b.contactConfirmed r cIn).contacts r).handle = cIn.handle := by
      unfold contactConfirmed
      rw [modify_contacts_self]
      rfl
    refine inReach_enterAdded (by rw [hhandle]; exact hK) fun r' he hr' => ?_
    unfold Live at hr'
    unfold contactConfirmed at hr' ⊢
    rw [modify_contacts_of_ne he] at hr' ⊢
    rw [modify_contacts_self]
    refine h.apart hr' fun hx => ?_
    rcases hok r' hx with hname | habs
    · rw [hr] at hname
      exact absurd (Option.some.inj hname).symm he
    · exact habs
  · rename_i hr
    have hcon : ∀ x, (b.contactFound pathSuffix cIn).contacts x
        = (b.alloc { cIn.dup with uid := generateUid pathSuffix b.uidToContact cIn.name }).contacts x :=
      fun _ => rfl
    have hhandle : ((b.contactFound pathSuffix cIn).contacts b.next).handle = cIn.handle := by
      rw [hcon, alloc_contacts_next]
      rfl
    refine inReach_enterAdded (by rw [hhandle]; exact hK) fun r' he hr' => ?_
    unfold Live at hr'
    rw [hhandle]
    rw [hcon, alloc_contacts_of_ne he] at hr' ⊢
    refine h.apart hr' fun hx => ?_
    rcases hok r' hx with hname | habs
    · rw [hr] at hname
      cases hname
    · exact habs

/-- A contact that has been deleted is not in the uid index. -/
theorem dead_deleteContacts {b : Book} {rs : List Nat} {r : Nat} (hr : r ∈ rs) :
    ¬ (rs.foldl deleteContact b).Live r := by
  intro hl
  unfold Live at hl
  rw [foldl_deleteContact_contacts] at hl
  obtain ⟨before, after, rfl⟩ := List.append_of_mem hr
  rw [List.foldl_append, List.foldl_cons] at hl
  have hend := foldl_deleteContact_uid hl
  rw [deleteContact_uid, foldl_deleteContact_contacts] at hend
  exact (Table.lookup_erase_eq_some.mp hend).1 rfl

/-- Contacts are deleted; an index entry that goes with them is one of theirs, or of nobody present. -/
theorem inReach_deleteContacts {b : Book} (h : b.InReach K) {rs : List Nat}
    (hok : (Edit.deleteContacts rs).KeepsReach b) : (rs.foldl deleteContact b).InReach K := by
  have hkept : ∀ (rs : List Nat) (b : Book) (y r : Nat), b.handleToContact.lookup y = some r →
      (∀ x ∈ rs, 0 < (b.contacts x).handle → y ≠ (b.contacts x).handle) →
      (rs.foldl deleteContact b).handleToContact.lookup y = some r := by
    intro rs
    induction rs with
    | nil => exact fun _ _ _ hl _ => hl
    | cons x rs ih =>
      intro b y r hl hne
      refine ih (b.deleteContact x) y r ?_ fun z hz => ?_
      · unfold deleteContact
        dsimp only
        split
        · rename_i h0
          exact (AList.lookup_erase_ne (hne x List.mem_cons_self h0)).trans hl
        · exact hl
      · rw [deleteContact_contacts]
        exact hne z (List.mem_cons_of_mem x hz)
  intro r hr
  have hout : r ∉ rs := fun hin => dead_deleteContacts hin hr
  unfold Live at hr
  rw [foldl_deleteContact_contacts] at hr ⊢
  have hl : b.Live r := foldl_deleteContact_uid hr
  rcases h r hl with hoff | ⟨y, hy, hly⟩
  · exact .inl hoff
  · by_cases hoff : (b.contacts r).Offline
    · exact .inl hoff
    · refine .inr ⟨y, hy, hkept rs b y r hly fun x hx h0 he => ?_⟩
      rw [he] at hly
      rcases hok x hx h0 r hly with hin | hnot | hoff'
      · exact hout hin
      · exact hnot hl
      · exact hoff hoff'

/-- What a completed request does to the handle index: nothing, unless the contact is merged. -/
theorem handles_addDone (b : Book) (r : Nat) (c : Contact) :
    (b.mergeTarget r c = none → (b.addDone r c).handleToContact = b.handleToContact)
      ∧ ∀ dest, b.mergeTarget r c = some dest → dest ≠ r →
        (b.addDone r c).handleToContact
          = (if 0 < c.handle then b.handleToContact.erase c.handle else b.handleToContact).insert
              (b.contacts dest).handle dest := by
  have hself : (b.modify r fun _ => c.clearAdd).contacts r = c.clearAdd := modify_contacts_self b r _
  unfold mergeTarget
  by_cases heq : c.name = (b.contacts r).name
  · rw [if_pos heq, addDone_same heq]
    exact ⟨fun _ => rfl, nofun⟩
  · rw [if_neg heq]
    cases hl : b.nameToContact.lookup c.name with
    | none =>
      rw [addDone_free heq hl]
      exact ⟨fun _ => rfl, nofun⟩
    | some dest =>
      rw [addDone_merged heq hl]
      refine ⟨nofun, fun dest' he hne => ?_⟩
      cases he
      -- the contact merged in keeps its handle, and the other one too
      have hr : ((((b.modify r fun _ => c.clearAdd).forgetName (b.contacts r).name).modify dest
          fun d => d.mergeFrom (((b.modify r fun _ => c.clearAdd).forgetName
            (b.contacts r).name).contacts r)).contacts r).handle = c.handle := by
        rw [modify_contacts_of_ne hne.symm]
        show ((b.modify r fun _ => c.clearAdd).contacts r).handle = c.handle
        rw [hself]
        rfl
      have hd : ((((b.modify r fun _ => c.clearAdd).forgetName (b.contacts r).name).modify dest
          fun d => d.mergeFrom (((b.modify r fun _ => c.clearAdd).forgetName
            (b.contacts r).name).contacts r)).contacts dest).handle = (b.contacts dest).handle := by
        rw [modify_contacts_self, (Contact.sameKeys_mergeFrom _ _).2.2]
        show ((b.modify r fun _ => c.clearAdd).contacts dest).handle = (b.contacts dest).handle
        rw [modify_contacts_of_ne hne]
      unfold unscheduleAdd mergeContacts reenter
      dsimp only
      rw [deleteContact_contacts, hd]
      unfold deleteContact
      dsimp only
      rw [hr]
      split <;> rfl

theorem inReach_addDone {b : Book} (h : b.InReach K) {r : Nat} {c : Contact}
    (hasked : Contact.Asked (b.contacts r) c) (hcalm : Contact.SamePresence (b.contacts r) c)
    (hok : (Edit.addDone r c).KeepsReach b) : (b.addDone r c).InReach K := by
  have hmod : (b.modify r fun _ => c.clearAdd).InReach K :=
    h.modify hasked.uid (.inl (hcalm.trans ⟨rfl, rfl, rfl⟩))
  obtain ⟨hnone, hsome⟩ := handles_addDone b r c
  rcases addDone_spec b r c with ⟨ht, hs⟩ | ⟨dest, ht, hs⟩
  · exact hmod.of_tables hs.contacts hs.uid (hnone ht)
  · obtain ⟨hne, hdest, hlost, htaken⟩ := hok dest ht
    have htable := hsome dest ht hne
    -- the survivor takes its handle over, and that of the contact that went is free
    have hlook : ∀ y, (b.addDone r c).handleToContact.lookup y
        = if y = (b.contacts dest).handle then some dest
          else if 0 < c.handle ∧ y = c.handle then none else b.handleToContact.lookup y := by
      intro y
      rw [htable, Table.lookup_insert_ite]
      split
      · rfl
      · by_cases h0 : 0 < c.handle
        · rw [if_pos h0, Table.lookup_erase_ite]
          simp only [h0, true_and]
        · rw [if_neg h0, if_neg fun hc => h0 hc.1]
    have hdcon : Contact.SamePresence (b.contacts dest) ((b.addDone r c).contacts dest) := by
      rw [hs.contacts, modify_contacts_self, modify_contacts_of_ne hne]
      exact (Contact.sameReport_mergeFrom _ _).toSamePresence
    intro x hx
    have hx' : ((b.uidToContact.erase c.uid).insert ((b.addDone r c).contacts dest).uid dest).lookup
        ((b.addDone r c).contacts x).uid = some x := by
      rw [← hs.uid]
      exact hx
    by_cases hxd : x = dest
    · subst hxd
      by_cases hoff : (b.contacts x).Offline
      · exact .inl (hdcon.offline hoff)
      · -- the contact that has taken the other one in keeps its entry, or has it renewed
        have hl : b.Live x := hdest.resolve_right hoff
        rcases h x hl with hc | ⟨y, hy, hly⟩
        · exact absurd hc hoff
        · refine .inr ⟨y, hy, ?_⟩
          rw [hlook]
          split
          · rfl
          · rename_i hyd
            rw [if_neg]
            · exact hly
            · rintro ⟨h0, he⟩
              rw [he] at hly
              rcases hlost h0 x hly with hxr | habs | ⟨-, hh⟩
              · exact hne hxr
              · exact habs.elim (fun hnot => hnot hl) hoff
              · exact hyd (he.trans hh.symm)
    · rcases Table.lookup_insert_eq_some.mp hx' with ⟨-, heq⟩ | ⟨-, hold⟩
      · exact absurd heq.symm hxd
      · -- nobody else had an entry that goes: it would have been one of the two
        obtain ⟨huid, hold⟩ := Table.lookup_erase_eq_some.mp hold
        have hxr : x ≠ r := by
          rintro rfl
          refine huid ?_
          rw [hs.contacts, modify_contacts_of_ne hxd, modify_contacts_self]
          rfl
        have hcon : (b.addDone r c).contacts x = b.contacts x := by
          rw [hs.contacts, modify_contacts_of_ne hxd, modify_contacts_of_ne hxr]
        rw [hcon] at hold ⊢
        have hl : b.Live x := hold
        by_cases hoff : (b.contacts x).Offline
        · exact .inl hoff
        · have hpresent : ¬ b.Absent x := fun habs => habs.elim (fun hnot => hnot hl) hoff
          rcases h x hl with hc | ⟨y, hy, hly⟩
          · exact absurd hc hoff
          · refine .inr ⟨y, hy, ?_⟩
            rw [hlook, if_neg, if_neg]
            · exact hly
            · rintro ⟨h0, he⟩
              rw [he] at hly
              rcases hlost h0 x hly with h1 | h1 | ⟨h1, -⟩
              · exact hxr h1
              · exact hpresent h1
              · exact hxd h1
            · intro he
              rw [he] at hly
              rcases htaken x hly with h1 | h1 | h1
              · exact hxd h1
              · exact hxr h1
              · exact hpresent h1

/-- **An edit that takes nobody out of reach keeps everybody in reach.** -/
theorem inReach_apply {b : Book} {e : Edit} (h : b.InReach K) (hp : e.Proper b) (hcalm : e.Calm b)
    (hheard : e.HeardOf K) (hok : e.KeepsReach b) : (b.apply e).InReach K := by
  cases e with
  | importContact c =>
    refine h.alloc (c := c.imported) ?_ rfl rfl rfl
    unfold Contact.imported
    split
    · exact ⟨hcalm.generic, hcalm.status, hcalm.capabilities⟩
    · exact hcalm
  | memberReported pathSuffix cIn => exact inReach_memberReported h hheard hok
  | contactAdded pathSuffix cIn => exact inReach_contactAdded h hheard hok
  | mergeByHandle f cIn =>
    unfold apply mergeByHandle
    dsimp only
    split
    · rename_i r hr
      refine h.modify (f.sameKeys cIn _).1 ?_
      by_cases hf : f = .presence ∨ f = .capabilities
      · exact .inr ⟨cIn.handle, hheard hf, hr⟩
      · exact .inl (Carried.samePresence (fun hc => hf (.inl hc)) (fun hc => hf (.inr hc)) cIn _)
    · exact h
  | forgetHandles => exact hheard.elim
  | touch r t => exact h.modify (t.sameKeys _).1 (.inl (t.sameReport _).toSamePresence)
  | deleteContacts rs => exact inReach_deleteContacts h hok
  | createContact c =>
    show (b.createContact c).InReach K
    rw [createContact_eq]
    exact h.alloc hcalm rfl rfl rfl
  | modified r ec vcardField sent stored =>
    obtain ⟨hother, heased⟩ := modified_onlyAt b r ec vcardField sent stored
    obtain ⟨ht, -, hu⟩ := modified_tables b r ec vcardField sent stored
    have huid : ∀ x, ((b.modified r ec vcardField sent stored).contacts x).uid = (b.contacts x).uid :=
      fun x => (becomes_modified b r ec vcardField sent stored x).uid
    refine h.of_same (fun x hx => ?_) (fun x _ => ?_) fun x y _ _ hy hK => ⟨y, hK, ?_⟩
    · unfold Live at hx ⊢
      rw [← huid, ← hu]
      exact hx
    · by_cases he : x = r
      · subst he
        exact ((Contact.sameReport_updateFromEcontact _ ec vcardField).trans heased.sameReport).toSamePresence
      · show Contact.SamePresence _ ((b.modified r ec vcardField sent stored).contacts x)
        rw [hother x he]
        exact .refl _
    · show (b.modified r ec vcardField sent stored).handleToContact.lookup y = some x
      rw [ht]
      exact hy
  | scheduleRemoval r =>
    have hmod : (b.modify r fun c => c.nothingPending.markDelete).InReach K :=
      h.modify rfl (.inl ⟨rfl, rfl, rfl⟩)
    exact hmod.of_tables (contacts_scheduleRemoval b r) rfl rfl
  | addDone r c => exact inReach_addDone h hp hcalm hok
  | addFailed r c =>
    have hasked : Contact.Asked (b.contacts r) c := hp
    exact h.modify (f := fun _ => c) hasked.uid (.inl hcalm)
  | removalDone r =>
    have hmod : (b.modify r Contact.clearDelete).InReach K :=
      h.modify rfl (.inl ⟨rfl, rfl, rfl⟩)
    exact hmod.of_tables rfl rfl rfl

end Book

end EdsTelepathy
