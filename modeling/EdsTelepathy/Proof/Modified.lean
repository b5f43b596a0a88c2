import EdsTelepathy.Proof.Queues
import EdsTelepathy.Proof.Requested

/-!
# What a modification leaves pending

`update_from_econtact` starts from the flags of the contact, not from what was pending for
it, so whatever was queued is kept only where the vcard happens to queue it again. What the
pending flags are good for is decided later: by the functions of phase 3 in this process,
and by the import in the next one.
-/

namespace EdsTelepathy

/-- The work that the pending flags can ask for, besides the lists. -/
def scheduleBits : List Flags :=
  [scheduleAdd, scheduleDelete, scheduleUnblock, scheduleUpdateFlags, scheduleUpdateMasterUid,
    scheduleUpdateVariants]

/-- The work that no vcard asks for. -/
def otherBits : List Flags := [scheduleAdd, scheduleDelete, scheduleUnblock, scheduleUpdateVariants]

theorem otherBits_disjoint : ∀ m ∈ otherBits, m ∈ scheduleBits
    ∧ Contact.cardBits &&& m = 0#32 ∧ bookFlags &&& m = 0#32 := by
  intro m hm
  unfold otherBits at hm
  simp only [List.mem_cons, List.not_mem_nil, or_false] at hm
  rcases hm with rfl | rfl | rfl | rfl <;> exact ⟨by simp [scheduleBits], by decide, by decide⟩

theorem mem_scheduleBits : ∀ m ∈ scheduleBits,
    m ∈ otherBits ∨ m = scheduleUpdateFlags ∨ m = scheduleUpdateMasterUid := by
  intro m hm
  unfold scheduleBits at hm
  unfold otherBits
  simp only [List.mem_cons, List.not_mem_nil, or_false] at hm ⊢
  tauto

namespace Contact

/-- A bit that is no list and does not ask for an update of the flags is in the flags before. -/
theorem has_of_settle {p m : Flags} (hl : allListFlags &&& m = 0#32)
    (hu : scheduleUpdateFlags &&& m = 0#32) {ws : List (ListId × Bool)}
    (h : (settle p ws).has m = true) : p.has m = true := by
  induction ws generalizing p with
  | nil => exact h
  | cons w ws ih =>
    have hlist : (w.1.flag .current).has m = false :=
      BitVec.has_false_of_within (flag_within w.1 .current) hl
    have hw : (fulfil p w).has m = true := ih h
    unfold fulfil at hw
    split at hw
    · rwa [BitVec.or_has_of_disjoint hu, BitVec.or_has, hlist, Bool.or_false] at hw
    · rw [BitVec.or_has_of_disjoint hu] at hw
      exact BitVec.has_of_and_has hw

/-- A wish is made by an attribute about its list. -/
theorem exists_of_mem_wishes {vcardField : String} {ec : EVCard} {w : ListId × Bool}
    (h : w ∈ wishes vcardField ec) : ∃ a ∈ ec, a.list vcardField = some w.1 := by
  obtain ⟨a, ha, hw⟩ := List.mem_filterMap.mp h
  unfold Attribute.wish at hw
  obtain ⟨l, hl, hb⟩ := Option.bind_eq_some_iff.mp hw
  obtain ⟨b, -, rfl⟩ := Option.map_eq_some_iff.mp hb
  exact ⟨a, ha, hl⟩

/-- No attribute of the vcard is about the list. -/
def Unmentioned (vcardField : String) (ec : EVCard) (l : ListId) : Prop :=
  ∀ a ∈ ec, a.list vcardField ≠ some l

/-- Whether a list that the vcard does not mention is wanted after it. -/
theorem memberships_unmentioned {vcardField : String} {ec : EVCard} {l : ListId}
    (hl : Unmentioned vcardField ec l) (c : Contact) :
    memberships (c.updateFromEcontact ec vcardField).2.pendingFlags l = true
      ↔ memberships c.flags l = true ∧ ∀ w ∈ c.changes vcardField ec, w.2 = true := by
  have hno : ∀ {w : ListId × Bool}, w ∈ c.changes vcardField ec → w.1 ≠ l := fun hw he => by
    obtain ⟨a, ha, hlist⟩ := exists_of_mem_wishes (Wish.mem_changes.mp hw).1
    exact hl a ha (he ▸ hlist)
  have hregains : ¬ Regains l.id (c.changes vcardField ec) := fun hr => hno (mem_of_regains hr) rfl
  rw [memberships_decoded, memberships_settle, or_iff_left hregains]
  refine and_congr_right fun _ => forall₂_congr fun w hw => ?_
  constructor
  · intro h
    by_contra hb
    exact hno hw (ListId.id_injective (h (by simpa using hb)))
  · intro h hb
    rw [h] at hb
    cases hb

/-- A vcard leaves queued work alone: what was queued still is, on every list it does not mention. -/
structure KeepsWork (vcardField : String) (ec : EVCard) (c c' : Contact) : Prop where
  bits : ∀ m ∈ scheduleBits, c.pendingFlags.has m = true → c'.pendingFlags.has m = true
  lists : ∀ l, Unmentioned vcardField ec l →
    memberships c'.pendingFlags l = memberships c.pendingFlags l

/--
Nothing is queued for the contact but what the vcard queues again, and the lists it is wanted
on are those it is on, of which the vcard refuses none; where it does refuse one, the contact is
wanted on no list that it does not mention.
-/
structure NothingToLose (vcardField : String) (ec : EVCard) (c : Contact) : Prop where
  none : ∀ m ∈ otherBits, c.pendingFlags.has m = false
  flags : c.pendingFlags.has scheduleUpdateFlags = true → c.changes vcardField ec ≠ []
  masterUids : c.pendingFlags.has scheduleUpdateMasterUid = true → masterUidValues ec ≠ c.masterUids
  lists : ∀ l, Unmentioned vcardField ec l → (memberships c.pendingFlags l = true
    ↔ memberships c.flags l = true ∧ ∀ w ∈ c.changes vcardField ec, w.2 = true)

/-- Whether changed master UIDs are pending after a vcard. -/
theorem has_updateMasterUid_decoded {c : Contact} (hc : c.flags &&& ~~~bookFlags = 0#32)
    (ec : EVCard) (vcardField : String) :
    (c.updateFromEcontact ec vcardField).2.pendingFlags.has scheduleUpdateMasterUid = true
      ↔ masterUidValues ec ≠ c.masterUids := by
  have hno : (settle c.flags (c.changes vcardField ec)).has scheduleUpdateMasterUid = false := by
    by_contra h
    have hset := has_of_settle (m := scheduleUpdateMasterUid) (by decide) (by decide) (by simpa using h)
    rw [BitVec.has_false_of_within hc (by decide)] at hset
    cases hset
  have hmark : (c.masterUidMark (masterUidValues ec)).has scheduleUpdateMasterUid = true
      ↔ masterUidValues ec ≠ c.masterUids := by
    unfold masterUidMark masterUidsDiffer
    by_cases h : masterUidValues ec = c.masterUids
    · simp [h]
    · rw [if_pos (decide_eq_true h)]
      exact iff_of_true (by decide) h
  rw [decoded_eq, ← hmark]
  show (_ ||| _ : Flags).has _ = true ↔ _
  rw [BitVec.or_has, hno, Bool.false_or]

/--
**When a modification drops nothing.** Taking a vcard over keeps all queued work of a contact
if and only if there is nothing to lose: the pending flags are rebuilt from the flags.
-/
theorem modification_keeps_work {c : Contact} (hc : c.flags &&& ~~~bookFlags = 0#32) (ec : EVCard)
    (vcardField : String) :
    c.KeepsWork vcardField ec (c.updateFromEcontact ec vcardField).2
      ↔ c.NothingToLose vcardField ec := by
  have hsuf := has_updateFlags_decoded (BitVec.has_false_of_within hc (by decide)) ec vcardField
  have hsmu := has_updateMasterUid_decoded hc ec vcardField
  have hgone : ∀ m ∈ otherBits,
      (c.updateFromEcontact ec vcardField).2.pendingFlags.has m = false := by
    intro m hm
    by_contra h
    obtain ⟨-, hcard, hbook⟩ := otherBits_disjoint m hm
    have hset := (decoded_updateFromEcontact c ec vcardField).pending m hcard (by simpa using h)
    rw [BitVec.has_false_of_within hc hbook] at hset
    cases hset
  constructor
  · intro h
    refine ⟨fun m hm => ?_, fun hp => ?_, fun hp => ?_, fun l hl => ?_⟩
    · by_contra hp
      have hset := h.bits m (otherBits_disjoint m hm).1 (by simpa using hp)
      rw [hgone m hm] at hset
      cases hset
    · exact hsuf.mp (h.bits _ (by decide) hp)
    · exact hsmu.mp (h.bits _ (by decide) hp)
    · rw [← h.lists l hl]
      exact memberships_unmentioned hl c
  · intro h
    refine ⟨fun m hm hp => ?_, fun l hl => ?_⟩
    · rcases mem_scheduleBits m hm with hm | rfl | rfl
      · rw [h.none m hm] at hp
        cases hp
      · exact hsuf.mpr (h.flags hp)
      · exact hsmu.mpr (h.masterUids hp)
    · rw [Bool.eq_iff_iff, h.lists l hl]
      exact memberships_unmentioned hl c

/-- An update of the flags is pending, and the vcard blocks the contact besides. -/
theorem modification_keeps_update :
    ({ ann with pendingFlags := subscribe ||| publish ||| scheduleUpdateFlags }).KeepsWork "X-JABBER"
      [{ name := "X-TELEPATHY-BLOCKED", values := ["yes"] }]
      (({ ann with pendingFlags := subscribe ||| publish ||| scheduleUpdateFlags }).updateFromEcontact
        [{ name := "X-TELEPATHY-BLOCKED", values := ["yes"] }] "X-JABBER").2 := by
  refine (modification_keeps_work (by decide) _ _).mpr ⟨fun m hm => ?_, ?_, ?_, fun l _ => ?_⟩
  · unfold otherBits at hm
    simp only [List.mem_cons, List.not_mem_nil, or_false] at hm
    rcases hm with rfl | rfl | rfl | rfl <;> decide
  · decide
  · decide
  · cases l <;> decide

end Contact

namespace Backend

/--
A contact is created offline and given a master UID before the account comes online: it is not
to be added any more, nor wanted on any list, and the next process does not enter it in
`contacts_to_add`.
-/
theorem modification_drops_addition :
    ∃ b b', machine.run (boot "acct" "X-JABBER" {})
          [{ event := .phase0 }, { event := creates "bob" },
           { event := .modifyContact [{ name := "UID", values := ["acct-bob"] },
              { name := "X-JABBER", values := ["bob"] },
              { name := "X-OSSO-MASTER-UID", values := ["12"] }] }] = some b
      ∧ (b.book.contacts 0).pendingFlags.has scheduleAdd = false
      ∧ memberships (b.book.contacts 0).pendingFlags .subscribe = false
      ∧ machine.run (boot "acct" "X-JABBER" b.out.db) [{ event := .phase0 }] = some b'
      ∧ b'.book.uidToContact.lookup "acct-bob" = some 0 ∧ b'.book.contactsToAdd = ∅ := by
  have hrun : ((machine.run (boot "acct" "X-JABBER" {})
      [{ event := .phase0 }, { event := creates "bob" },
       { event := .modifyContact [{ name := "UID", values := ["acct-bob"] },
          { name := "X-JABBER", values := ["bob"] },
          { name := "X-OSSO-MASTER-UID", values := ["12"] }] }]).bind fun b =>
      (machine.run (boot "acct" "X-JABBER" b.out.db) [{ event := .phase0 }]).map fun b' =>
        decide ((b.book.contacts 0).pendingFlags.has scheduleAdd = false
          ∧ memberships (b.book.contacts 0).pendingFlags .subscribe = false
          ∧ b'.book.uidToContact.lookup "acct-bob" = some 0 ∧ b'.book.contactsToAdd = ∅))
        = some true := by decide +kernel
  obtain ⟨b, hb, hrest⟩ := Option.bind_eq_some_iff.mp hrun
  obtain ⟨b', hb', hfacts⟩ := Option.map_eq_some_iff.mp hrest
  obtain ⟨h1, h2, h3, h4⟩ := of_decide_eq_true hfacts
  exact ⟨b, b', hb, h1, h2, hb', h3, h4⟩

end Backend

end EdsTelepathy
