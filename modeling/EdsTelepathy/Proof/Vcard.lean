import EdsTelepathy.Vcard
import EdsTelepathy.Proof.Modified

/-!
# Reading back what was exported

A reader meets the attributes of an exported vcard from the last one added to the first:
first what the contact published about itself, then what the backend says. Of the second
part it learns the name, the master UIDs in reverse order, and no wish that differs from the
flags. So the vcard of a contact that published nothing changes it exactly where the order of
the master UIDs matters, and everything else that the reader takes over comes from the
published part.
-/

namespace EdsTelepathy

/-- A list of different elements reads the same from the end only if it is short. -/
theorem reverse_eq_self_iff {α : Type} {xs : List α} (h : xs.Nodup) :
    xs.reverse = xs ↔ xs.length ≤ 1 := by
  match xs, h with
  | [], _ => simp
  | [_], _ => simp
  | a :: b :: xs, h =>
    refine iff_of_false (fun heq => ?_) (by simp)
    have hlast := congrArg List.getLast? heq
    rw [List.getLast?_reverse, List.head?_cons, List.getLast?_cons_cons] at hlast
    exact (List.nodup_cons.mp h).1 (List.mem_of_getLast? hlast.symm)

namespace Contact

/-! ## Reading parts of a vcard -/

theorem cardName_append (vcardField : String) (ec ec' : EVCard) (n : Option String) :
    cardName vcardField (ec ++ ec') n = cardName vcardField ec' (cardName vcardField ec n) :=
  List.foldl_append ..

theorem masterUidValues_reverse (ec : EVCard) :
    masterUidValues ec.reverse = (masterUidValues ec).reverse := by
  unfold masterUidValues
  rw [List.filter_reverse, List.map_reverse]

theorem masterUidValues_eq_nil {ec : EVCard} (h : ∀ a ∈ ec, a.name ≠ "X-OSSO-MASTER-UID") :
    masterUidValues ec = [] := by
  unfold masterUidValues
  rw [List.filter_eq_nil_iff.mpr fun a ha => by simpa using h a ha]
  rfl

/-- Answers that agree with the flags change nothing. -/
theorem changes_eq_nil {c : Contact} {vcardField : String} {ec : EVCard}
    (h : ∀ a ∈ ec, ∀ l, a.list vcardField = some l → ∀ b, a.answer = some b →
      b = memberships c.flags l) :
    c.changes vcardField ec = [] := by
  refine List.filter_eq_nil_iff.mpr fun w hw => ?_
  obtain ⟨a, ha, hwish⟩ := List.mem_filterMap.mp hw
  obtain ⟨l, hl, hb⟩ := Option.bind_eq_some_iff.mp hwish
  obtain ⟨b, hanswer, rfl⟩ := Option.map_eq_some_iff.mp hb
  simp [h a ha l hl b hanswer]

/-- An attribute with another name is about no list. -/
theorem Attribute.name_of_list {vcardField : String} {a : Attribute} {l : ListId}
    (h : a.list vcardField = some l) :
    (a.name = "X-TELEPATHY-SUBSCRIBED" ∧ l = .subscribe)
      ∨ (a.name = "X-TELEPATHY-PUBLISHED" ∧ l = .publish)
      ∨ (a.name = "X-TELEPATHY-BLOCKED" ∧ l = .deny) := by
  unfold Attribute.list at h
  split at h
  · cases h
  · split at h
    · rename_i hn; cases h; exact .inl ⟨hn, rfl⟩
    · split at h
      · rename_i hn; cases h; exact .inr (.inl ⟨hn, rfl⟩)
      · split at h
        · rename_i hn; cases h; exact .inr (.inr ⟨hn, rfl⟩)
        · cases h

/-! ## The attributes of the backend -/

/-- The attributes that are neither the uid, nor the name, nor a master UID, nor about a list. -/
def otherAttributes (c : Contact) (s : Surroundings) : List Attribute :=
  c.nicknameAttribute ++ c.handleAttribute ++ c.presenceAttribute ++ c.capabilitiesAttribute
    ++ c.photoAttribute s

theorem name_of_mem_other {c : Contact} {s : Surroundings} {a : Attribute}
    (h : a ∈ c.otherAttributes s) :
    a.name ∈ ["NICKNAME", "X-TELEPATHY-HANDLE", "X-TELEPATHY-PRESENCE",
      "X-TELEPATHY-CAPABILITIES", "PHOTO"] := by
  unfold otherAttributes nicknameAttribute handleAttribute presenceAttribute capabilitiesAttribute
    photoAttribute at h
  simp only [List.mem_append] at h
  rcases h with (((h | h) | h) | h) | h
  · split at h
    · cases h
    · split at h
      · cases h
      · obtain rfl := List.mem_singleton.mp h; simp
  · split at h
    · cases h
    · obtain rfl := List.mem_singleton.mp h; simp
  · split at h
    · cases h
    · obtain rfl := List.mem_singleton.mp h; simp
  · split at h
    · cases h
    · obtain rfl := List.mem_singleton.mp h; simp
  · split at h
    · cases h
    · split at h
      · cases h
      · split at h
        · cases h
        · obtain rfl := List.mem_singleton.mp h; simp

theorem mem_ownAttributes {c : Contact} {s : Surroundings} {a : Attribute}
    (h : a ∈ c.ownAttributes s) :
    a = c.uidAttribute ∨ a = c.nameAttribute s ∨ a ∈ c.masterUids.map masterUidAttribute
      ∨ a ∈ [c.subscribedAttribute, c.publishedAttribute, c.blockedAttribute]
      ∨ a ∈ c.otherAttributes s := by
  unfold ownAttributes at h
  unfold otherAttributes
  simp only [List.mem_append, List.mem_cons, List.not_mem_nil, or_false] at h ⊢
  tauto

/-- What the backend says about a list agrees with the flags. -/
theorem answer_listAttribute {c : Contact} {name : String} {l : ListId} {b : Bool}
    (h : (c.listAttribute name l).answer = some b) : b = memberships c.flags l := by
  have hvalue : (c.listAttribute name l).value = some (c.listAnswer l) := rfl
  unfold Attribute.answer at h
  rw [hvalue] at h
  unfold listAnswer at h
  unfold memberships
  by_cases hon : c.flags.has (l.flag .current) = true
  · rw [if_pos hon, if_pos rfl] at h
    cases h
    exact hon.symm
  · rw [if_neg hon] at h
    -- whatever it says instead, it is not *yes*
    have hno : c.flags.has (l.flag .current) = false := by simpa using hon
    rw [hno]
    split at h
    · simp at h
    · split at h
      · simp at h
      · simpa using h.symm

theorem changes_own (c : Contact) (s : Surroundings) :
    c.changes s.vcardField (c.ownAttributes s).reverse = [] := by
  refine changes_eq_nil fun a ha l hl b hb => ?_
  have hname := Attribute.name_of_list hl
  rcases mem_ownAttributes (List.mem_reverse.mp ha) with rfl | rfl | ha | ha | ha
  · simp [uidAttribute] at hname
  · exact absurd rfl (Attribute.list_some hl).2
  · obtain ⟨uid, -, rfl⟩ := List.mem_map.mp ha
    simp [masterUidAttribute] at hname
  · simp only [List.mem_cons, List.not_mem_nil, or_false] at ha
    rcases ha with rfl | rfl | rfl <;>
      (simp [subscribedAttribute, publishedAttribute, blockedAttribute, listAttribute] at hname
       subst hname
       exact answer_listAttribute hb)
  · have hother := name_of_mem_other ha
    simp only [List.mem_cons, List.not_mem_nil, or_false] at hother
    rcases hother with h | h | h | h | h <;> simp [h] at hname

theorem masterUidValues_own (c : Contact) (s : Surroundings) :
    masterUidValues (c.ownAttributes s) = c.masterUids := by
  have hother : ∀ {as : List Attribute}, (∀ a ∈ as, a ∈ c.otherAttributes s) →
      masterUidValues as = [] := fun has => masterUidValues_eq_nil fun a ha => by
    have hname := name_of_mem_other (has a ha)
    simp only [List.mem_cons, List.not_mem_nil, or_false] at hname
    rcases hname with h | h | h | h | h <;> simp [h]
  have hfirst : masterUidValues [c.uidAttribute, c.nameAttribute s] = [] :=
    masterUidValues_eq_nil fun a ha => by
      simp only [List.mem_cons, List.not_mem_nil, or_false] at ha
      rcases ha with rfl | rfl
      · simp [uidAttribute]
      · exact s.field_ne_masterUid
  have hlists : masterUidValues [c.subscribedAttribute, c.publishedAttribute, c.blockedAttribute]
      = [] := masterUidValues_eq_nil fun a ha => by
    simp only [List.mem_cons, List.not_mem_nil, or_false] at ha
    rcases ha with rfl | rfl | rfl <;>
      simp [subscribedAttribute, publishedAttribute, blockedAttribute, listAttribute]
  have huids : ∀ us : List (Option String), masterUidValues (us.map masterUidAttribute) = us := by
    intro us
    induction us with
    | nil => rfl
    | cons u us ih =>
      have hu : masterUidValues [masterUidAttribute u] = [u] := by cases u <;> rfl
      have hcons : (u :: us).map masterUidAttribute
          = [masterUidAttribute u] ++ us.map masterUidAttribute := rfl
      rw [hcons, masterUidValues_append, hu, ih]
      rfl
  unfold ownAttributes
  simp only [masterUidValues_append, hfirst, hlists, huids]
  rw [@hother c.nicknameAttribute, @hother c.handleAttribute, @hother c.presenceAttribute,
    @hother c.capabilitiesAttribute, @hother (c.photoAttribute s)]
  · simp
  all_goals intro a ha; unfold otherAttributes; simp only [List.mem_append, ha]; tauto

theorem cardName_own (c : Contact) (s : Surroundings) (n : Option String) :
    cardName s.vcardField (c.ownAttributes s).reverse n = c.name := by
  obtain ⟨rest, hrest⟩ : ∃ rest, c.ownAttributes s = c.uidAttribute :: c.nameAttribute s :: rest :=
    ⟨_, rfl⟩
  have huid : c.uidAttribute.isName s.vcardField = false := by
    simp [Attribute.isName, uidAttribute, s.field_ne_uid.symm]
  have hname : (c.nameAttribute s).isName s.vcardField = true := by
    simp [Attribute.isName, nameAttribute, s.field_ne_masterUid]
  have hvalue : (c.nameAttribute s).value = c.name := by
    unfold Attribute.value nameAttribute
    cases c.name <;> rfl
  rw [hrest, List.reverse_cons, List.reverse_cons, cardName_append, cardName_append]
  simp [cardName, huid, hname, hvalue]

/-! ## The vcard of a contact, taken over by the same contact -/

/-- The attributes of the information that the contact published. -/
def foreignAttributes (c : Contact) (s : Surroundings) : EVCard :=
  match c.contactInfo with
  | none => []
  | some info => s.parse info

/-- The published part comes first, and in both parts what was added last. -/
theorem toEcontact_eq (c : Contact) (s : Surroundings) :
    c.toEcontact s = (c.foreignAttributes s).reverse ++ (c.ownAttributes s).reverse := by
  have hadd : ∀ (as : List Attribute) (evc : EVCard), as.foldl addAttribute evc = as.reverse ++ evc :=
    fun as evc => List.foldl_flip_cons_eq_append' ..
  unfold toEcontact foreignAttributes mergeVcardWithContactInfo
  dsimp only
  rw [hadd, List.append_nil]
  cases c.contactInfo with
  | none => rfl
  | some info => exact hadd _ _

/-- The wishes of the published part that differ from the flags, as the reader meets them. -/
def foreignChanges (c : Contact) (s : Surroundings) : List (ListId × Bool) :=
  c.changes s.vcardField (c.foreignAttributes s).reverse

/-- The master UIDs of the published part. -/
def foreignMasterUids (c : Contact) (s : Surroundings) : List (Option String) :=
  masterUidValues (c.foreignAttributes s)

/-- What taking over its own vcard leaves of a contact. -/
def takenBack (c : Contact) (s : Surroundings) : Contact :=
  (c.updateFromEcontact (c.toEcontact s) s.vcardField).2

/-- **What a contact becomes when it takes over its own vcard.** -/
theorem takenBack_eq (c : Contact) (s : Surroundings) :
    c.takenBack s
      = { c with
          pendingFlags := settle c.flags (c.foreignChanges s)
            ||| c.masterUidMark ((c.foreignMasterUids s).reverse ++ c.masterUids.reverse)
          masterUids := (c.foreignMasterUids s).reverse ++ c.masterUids.reverse } := by
  have hname : cardName s.vcardField (c.toEcontact s) c.name = c.name := by
    rw [toEcontact_eq, cardName_append, cardName_own]
  have huids : masterUidValues (c.toEcontact s)
      = (c.foreignMasterUids s).reverse ++ c.masterUids.reverse := by
    rw [toEcontact_eq, masterUidValues_append, masterUidValues_reverse, masterUidValues_reverse,
      masterUidValues_own]
    rfl
  have hchanges : c.changes s.vcardField (c.toEcontact s) = c.foreignChanges s := by
    rw [toEcontact_eq, changes_append, changes_own, List.append_nil]
    rfl
  unfold takenBack
  rw [decoded_eq, hname, huids, hchanges]

/-! ### A contact that published nothing -/

/-- Submitting the vcard of a contact has no effect on it, nor on what the backend writes or says. -/
structure NothingChanges (c : Contact) (s : Surroundings) : Prop where
  accepted : (c.updateFromEcontact (c.toEcontact s) s.vcardField).1 = true
  name : (c.takenBack s).name = c.name
  masterUids : (c.takenBack s).masterUids = c.masterUids
  idle : ∀ m ∈ scheduleBits, (c.takenBack s).pendingFlags.has m = false
  quiet : ∀ (b : Backend) (r : Nat), b.vcardField = s.vcardField → b.book.contacts r = c →
    b.book.uidToContact.lookup c.uid = some r →
    (b.modifyContact (c.toEcontact s)).out = b.flush.out
      ∧ (b.modifyContact (c.toEcontact s)).wire = b.flush.wire

theorem cardUid_own (c : Contact) (s : Surroundings) :
    cardUid (c.ownAttributes s).reverse = some c.uid := by
  have huid : ∀ a ∈ (c.ownAttributes s).reverse, a.name = "UID" → a = c.uidAttribute := by
    intro a ha hn
    rcases mem_ownAttributes (List.mem_reverse.mp ha) with rfl | rfl | ha | ha | ha
    · rfl
    · exact absurd hn s.field_ne_uid
    · obtain ⟨uid, -, rfl⟩ := List.mem_map.mp ha
      simp [masterUidAttribute] at hn
    · simp only [List.mem_cons, List.not_mem_nil, or_false] at ha
      rcases ha with rfl | rfl | rfl <;>
        simp [subscribedAttribute, publishedAttribute, blockedAttribute, listAttribute] at hn
    · have hother := name_of_mem_other ha
      rw [hn] at hother
      simp at hother
  have hsome : ((c.ownAttributes s).reverse.find? fun a => a.name = "UID").isSome = true := by
    rw [List.find?_isSome]
    exact ⟨c.uidAttribute, by simp [ownAttributes], by simp [uidAttribute]⟩
  obtain ⟨a, ha⟩ := Option.isSome_iff_exists.mp hsome
  have hfound := huid a (List.mem_of_find?_eq_some ha) (by simpa using List.find?_some ha)
  unfold cardUid
  rw [ha, hfound]
  rfl

/-- What a contact that published nothing becomes when it takes over its own vcard. -/
theorem takenBack_alone {c : Contact} (hinfo : c.contactInfo = none) (s : Surroundings) :
    c.takenBack s
      = { c with
          pendingFlags := c.flags ||| c.masterUidMark c.masterUids.reverse
          masterUids := c.masterUids.reverse } := by
  have hforeign : c.foreignAttributes s = [] := by
    unfold foreignAttributes
    rw [hinfo]
  have huids : c.foreignMasterUids s = [] := by
    unfold foreignMasterUids
    rw [hforeign]
    rfl
  have hchanges : c.foreignChanges s = [] := by
    unfold foreignChanges
    rw [hforeign]
    rfl
  rw [takenBack_eq, huids, hchanges]
  rfl

/-- A modification that leaves nothing to do writes, tells and sends nothing. -/
theorem modifyContact_idle {b : Backend} {r : Nat} {ec : EVCard} {uid : String}
    (huid : cardUid ec = some uid) (hr : b.book.uidToContact.lookup uid = some r)
    (hidle : ((b.book.contacts r).updateFromEcontact ec b.vcardField).2.needsUpdate = false) :
    (b.modifyContact ec).out = b.flush.out ∧ (b.modifyContact ec).wire = b.flush.wire := by
  have hfound : (cardUid ec).bind b.flush.book.uidToContact.lookup = some r := by
    rw [huid]
    exact hr
  have hc : ((b.flush.modify r fun c => (c.updateFromEcontact ec b.flush.vcardField).2).book.contacts r)
      = ((b.book.contacts r).updateFromEcontact ec b.vcardField).2 :=
    Book.modify_contacts_self b.book r fun c => (c.updateFromEcontact ec b.vcardField).2
  unfold Backend.modifyContact
  dsimp only
  rw [hfound]
  dsimp only
  rw [hc, hidle, if_neg Bool.false_ne_true]
  exact ⟨rfl, rfl⟩

/--
**When its own vcard changes nothing about a contact.** A contact that published nothing is as
before, and nothing is written, told or sent, if and only if it has at most one master UID: the
reader meets them in the opposite order.
-/
theorem own_vcard_changes_nothing {c : Contact} {s : Surroundings} {n : String}
    (hinfo : c.contactInfo = none) (hname : c.name = some n) (hn : n ≠ "")
    (hflags : c.flags &&& ~~~bookFlags = 0#32) (hnd : c.masterUids.Nodup) :
    c.NothingChanges s ↔ c.masterUids.length ≤ 1 := by
  rw [← reverse_eq_self_iff hnd]
  have hback := takenBack_alone hinfo s
  constructor
  · intro h
    have huids := h.masterUids
    rw [hback] at huids
    exact huids
  · intro hrev
    have hmark : c.masterUidMark c.masterUids.reverse = 0#32 := by
      simp [masterUidMark, masterUidsDiffer, hrev]
    rw [hmark, hrev, BitVec.or_zero] at hback
    have hidle : ∀ m ∈ scheduleBits, (c.takenBack s).pendingFlags.has m = false := by
      intro m hm
      rw [hback]
      refine BitVec.has_false_of_within hflags ?_
      simp only [scheduleBits, List.mem_cons, List.not_mem_nil, or_false] at hm
      rcases hm with rfl | rfl | rfl | rfl | rfl | rfl <;> decide
    have hneeds : (c.takenBack s).needsUpdate = false := by
      unfold needsUpdate
      rw [hidle _ (by decide), hidle _ (by decide), hidle _ (by decide), hidle _ (by decide)]
      rfl
    refine ⟨?_, by rw [hback], by rw [hback], hidle, fun b r hvf hc hr => ?_⟩
    · have hkept : (c.takenBack s).name = some n := by rw [hback]; exact hname
      show ((c.takenBack s).name ≠ none && (c.takenBack s).name ≠ some "") = true
      rw [hkept]
      simpa using hn
    · refine modifyContact_idle ?_ hr (by rw [hc, hvf]; exact hneeds)
      rw [toEcontact_eq, foreignAttributes, hinfo]
      exact cardUid_own c s

/-- A contact with one master UID takes its own vcard over without a change. -/
theorem own_vcard_of_linked :
    ({ ann with uid := "acct-ann", masterUids := [some "12"] }).NothingChanges
      { vcardField := "x-jabber" } :=
  (own_vcard_changes_nothing (n := "ann") rfl rfl (by decide) (by decide) (by decide)).mpr (by decide)

/-- With two of them, the vcard reverses the order, which has the contact written. -/
theorem own_vcard_reverses :
    (({ ann with uid := "acct-ann", masterUids := [some "12", some "34"] }).takenBack
        { vcardField := "x-jabber" }).masterUids = [some "34", some "12"]
      ∧ (({ ann with uid := "acct-ann", masterUids := [some "12", some "34"] }).takenBack
        { vcardField := "x-jabber" }).pendingFlags.has scheduleUpdateMasterUid = true := by
  decide +kernel

/-! ### What the published part decides -/

/-- Wishes that make the same pending flags of these flags. -/
structure SameAsking (flags : Flags) (vs ws : List (ListId × Bool)) : Prop where
  asks : vs = [] ↔ ws = []
  spares : ∀ k, flags.getLsbD k = true → (Spares k vs ↔ Spares k ws)
  regains : ∀ l, memberships flags l = false → (Regains l.id vs ↔ Regains l.id ws)

theorem exists_of_regains {k : Nat} {ws : List (ListId × Bool)} (h : Regains k ws) :
    ∃ l : ListId, l.id = k ∧ (l, true) ∈ ws := by
  induction ws with
  | nil => exact h.elim
  | cons w ws ih =>
    rcases h with ⟨hb, hl, -⟩ | h
    · exact ⟨w.1, hl, by rw [← hb]; exact List.mem_cons_self⟩
    · obtain ⟨l, hl, hmem⟩ := ih h
      exact ⟨l, hl, List.mem_cons_of_mem w hmem⟩

/-- A bit of the flags stays exactly where it is spared. -/
theorem getLsbD_settle_of_set {flags : Flags} {ws : List (ListId × Bool)} {k : Nat}
    (hk : k ≠ 18) (hws : ∀ w ∈ ws, w.2 ≠ memberships flags w.1) (hf : flags.getLsbD k = true) :
    (settle flags ws).getLsbD k = true ↔ Spares k ws := by
  rw [getLsbD_settle hk]
  refine ⟨fun h => h.elim (·.2) fun hr => ?_, fun h => .inl ⟨hf, h⟩⟩
  obtain ⟨l, rfl, hmem⟩ := exists_of_regains hr
  exact absurd (memberships_eq flags l ▸ hf.symm) (hws _ hmem)

/-- Another one is set exactly where its list is wished for to the end. -/
theorem getLsbD_settle_of_clear {flags : Flags} {ws : List (ListId × Bool)} {k : Nat}
    (hk : k ≠ 18) (hf : flags.getLsbD k = false) :
    (settle flags ws).getLsbD k = true ↔ Regains k ws := by
  rw [getLsbD_settle hk, hf]
  simp

/-- **Wishes that differ from the flags make the same of them exactly if they ask the same.** -/
theorem settle_eq_iff {flags : Flags} (hflags : flags.has scheduleUpdateFlags = false)
    {vs ws : List (ListId × Bool)} (hvs : ∀ w ∈ vs, w.2 ≠ memberships flags w.1)
    (hws : ∀ w ∈ ws, w.2 ≠ memberships flags w.1) :
    settle flags vs = settle flags ws ↔ SameAsking flags vs ws := by
  have hmark : ∀ w : Flags, w.getLsbD 18 = w.has scheduleUpdateFlags := fun w =>
    (BitVec.has_one_shiftLeft (by decide)).symm
  have hnot : ∀ us : List (ListId × Bool),
      (settle flags us).has scheduleUpdateFlags = true ↔ us ≠ [] := fun us => by
    rw [settle_has_updateFlags, hflags]
    simp
  constructor
  · intro h
    refine ⟨not_iff_not.mp ?_, fun k hk => ?_, fun l hl => ?_⟩
    · rw [← ne_eq, ← hnot, h, hnot]
    · have h18 : k ≠ 18 := fun he => by
        rw [he, hmark, hflags] at hk
        cases hk
      rw [← getLsbD_settle_of_set h18 hvs hk, h, getLsbD_settle_of_set h18 hws hk]
    · have h18 : l.id ≠ 18 := by have := l.id_lt; omega
      rw [memberships_eq] at hl
      rw [← getLsbD_settle_of_clear h18 hl, h, getLsbD_settle_of_clear h18 hl]
  · intro h
    refine BitVec.eq_of_getLsbD_eq fun k _ => Bool.eq_iff_iff.mpr ?_
    by_cases h18 : k = 18
    · rw [h18, hmark, hmark, hnot, hnot]
      exact not_congr h.asks
    · cases hk : flags.getLsbD k with
      | true => rw [getLsbD_settle_of_set h18 hvs hk, getLsbD_settle_of_set h18 hws hk, h.spares k hk]
      | false =>
        rw [getLsbD_settle_of_clear h18 hk, getLsbD_settle_of_clear h18 hk]
        -- only a list can be wished for
        by_cases hl : ∃ l : ListId, l.id = k
        · obtain ⟨l, rfl⟩ := hl
          exact h.regains l (memberships_eq flags l ▸ hk)
        · exact iff_of_false (fun hr => hl ((exists_of_regains hr).imp fun _ => And.left))
            fun hr => hl ((exists_of_regains hr).imp fun _ => And.left)

/--
**What published information decides.** Whatever two values the information of a contact has,
the name is the same after the contact took over its own vcard. The master UIDs and the pending
flags are the same if and only if the two values list the same master UIDs and ask the same
about the lists.
-/
theorem contact_info_steers_nothing {c : Contact} (hflags : c.flags &&& ~~~bookFlags = 0#32)
    (s : Surroundings) (i j : Option String) :
    ((({ c with contactInfo := i }).takenBack s).name = (({ c with contactInfo := j }).takenBack s).name
      ∧ (({ c with contactInfo := i }).takenBack s).masterUids
        = (({ c with contactInfo := j }).takenBack s).masterUids
      ∧ (({ c with contactInfo := i }).takenBack s).pendingFlags
        = (({ c with contactInfo := j }).takenBack s).pendingFlags)
    ↔ ({ c with contactInfo := i }).foreignMasterUids s = ({ c with contactInfo := j }).foreignMasterUids s
      ∧ SameAsking c.flags (({ c with contactInfo := i }).foreignChanges s)
        (({ c with contactInfo := j }).foreignChanges s) := by
  have hdiffer : ∀ k : Option String, ∀ w ∈ ({ c with contactInfo := k }).foreignChanges s,
      w.2 ≠ memberships c.flags w.1 := fun _ _ hw => (Wish.mem_changes.mp hw).2
  have hno : ∀ ws, (settle c.flags ws).has scheduleUpdateMasterUid = false := fun ws => by
    by_contra h
    have hset := has_of_settle (m := scheduleUpdateMasterUid) (by decide) (by decide) (by simpa using h)
    rw [BitVec.has_false_of_within hflags (by decide)] at hset
    cases hset
  rw [takenBack_eq, takenBack_eq,
    ← settle_eq_iff (BitVec.has_false_of_within hflags (by decide)) (hdiffer i) (hdiffer j)]
  constructor
  · rintro ⟨-, huids, hpending⟩
    dsimp only at huids hpending
    rw [huids] at hpending
    refine ⟨List.reverse_injective (List.append_cancel_right huids), ?_⟩
    -- the bit for changed master UIDs is the same, and in neither of the two words
    refine BitVec.or_right_cancel ?_ ?_ hpending
    all_goals
      unfold masterUidMark
      split
      · exact hno _
      · rw [BitVec.has_comm, BitVec.zero_has]
  · rintro ⟨huids, hpending⟩
    dsimp only
    rw [huids, hpending]
    exact ⟨rfl, rfl, rfl⟩

/-- Information with another address and a birthday. -/
def birthdayInfo : Surroundings :=
  { vcardField := "x-jabber"
    parse := fun _ => [{ name := "x-jabber", values := ["bob"] },
      { name := "BDAY", values := ["1970-01-01"] }] }

/-- Information with a master UID and an answer for the user's list of blocked contacts. -/
def steeringInfo : Surroundings :=
  { vcardField := "x-jabber"
    parse := fun _ => [{ name := "X-OSSO-MASTER-UID", values := ["66"] },
      { name := "X-TELEPATHY-BLOCKED", values := ["yes"] }] }

/-- An address and a birthday are as good as nothing. -/
theorem contact_info_of_friend :
    (({ ann with contactInfo := none }).takenBack birthdayInfo).name
        = (({ ann with contactInfo := some "info" }).takenBack birthdayInfo).name
      ∧ (({ ann with contactInfo := none }).takenBack birthdayInfo).masterUids
        = (({ ann with contactInfo := some "info" }).takenBack birthdayInfo).masterUids
      ∧ (({ ann with contactInfo := none }).takenBack birthdayInfo).pendingFlags
        = (({ ann with contactInfo := some "info" }).takenBack birthdayInfo).pendingFlags := by
  refine (contact_info_steers_nothing (c := ann) (by decide) birthdayInfo none (some "info")).mpr
    ⟨by decide +kernel, ?_⟩
  have hnone : ({ ann with contactInfo := none }).foreignChanges birthdayInfo = [] := by
    decide +kernel
  have hsome : ({ ann with contactInfo := some "info" }).foreignChanges birthdayInfo = [] := by
    decide +kernel
  rw [hnone, hsome]
  exact ⟨Iff.rfl, fun _ _ => Iff.rfl, fun _ _ => Iff.rfl⟩

/-- Who publishes an answer for a list of the user has it taken over. -/
theorem contact_info_blocks :
    (({ ann with contactInfo := none }).takenBack steeringInfo).pendingFlags
        = subscribe ||| publish
      ∧ (({ ann with contactInfo := none }).takenBack steeringInfo).masterUids = []
      ∧ (({ ann with contactInfo := some "info" }).takenBack steeringInfo).pendingFlags
        = subscribe ||| publish ||| deny ||| scheduleUpdateFlags ||| scheduleUpdateMasterUid
      ∧ (({ ann with contactInfo := some "info" }).takenBack steeringInfo).masterUids = [some "66"] := by
  decide +kernel

end Contact

end EdsTelepathy
