import EdsTelepathy.Proof.Edits
import EdsTelepathy.Proof.Plain

/-!
# What is true of every edit

The edits of an event are not arbitrary: a uid that is given out is free, a contact that
is removed is in one of the indexes, what a request asked of the server comes back with
the same uid. `Edit.Proper` collects these facts and `edits_proper` proves them of every
event, so that an invariant of the book needs to be proved for proper edits only.
-/

namespace EdsTelepathy

/-! ## Fresh uids -/

theorem toString_nat_injective : Function.Injective fun n : Nat => toString n := by
  intro m n h
  have hofList : String.ofList (Nat.toDigits 10 m) = String.ofList (Nat.toDigits 10 n) := h
  have hdigits : Nat.toDigits 10 m = Nat.toDigits 10 n := String.ofList_injective hofList
  rw [← Nat.ofDigitChars_ten_toDigits (n := m), hdigits, Nat.ofDigitChars_ten_toDigits]

theorem uidCandidate_injective (pathSuffix : String) (name : Option String) :
    Function.Injective (uidCandidate pathSuffix name) := by
  have hdash : ∀ (base : String) (k : Nat), base ≠ base ++ "-" ++ toString k := by
    intro base k hk
    have hlen := congrArg String.length hk
    rw [String.length_append, String.length_append] at hlen
    have hone : ("-" : String).length = 1 := rfl
    omega
  intro m n h
  unfold uidCandidate at h
  dsimp only at h
  split at h
  · split at h
    · omega
    · exact absurd h (hdash _ n)
  · split at h
    · exact absurd h.symm (hdash _ m)
    · exact toString_nat_injective ((String.append_right_inj _).mp h)

/-- The loop ends at the first candidate that is free, if that is within its reach. -/
theorem generateUidFrom_eq {pathSuffix : String} {name : Option String} {uids : Table String Nat}
    {fuel count i : Nat} (hi : i ≤ fuel)
    (htaken : ∀ j < i, (uids.lookup (uidCandidate pathSuffix name (count + j))).isSome = true)
    (hfree : uids.lookup (uidCandidate pathSuffix name (count + i)) = none) :
    generateUidFrom pathSuffix name uids fuel count = uidCandidate pathSuffix name (count + i) := by
  induction fuel generalizing count i with
  | zero =>
    obtain rfl : i = 0 := by omega
    rfl
  | succ fuel ih =>
    rw [generateUidFrom]
    cases i with
    | zero =>
      rw [Nat.add_zero] at hfree ⊢
      rw [hfree]
      rfl
    | succ i =>
      have hnext : ∀ j, count + 1 + j = count + (j + 1) := fun j => by omega
      have hfirst : (uids.lookup (uidCandidate pathSuffix name count)).isSome = true :=
        htaken 0 (by omega)
      rw [if_pos hfirst, ← hnext i]
      refine ih (by omega) (fun j hj => ?_) ?_
      · rw [hnext]
        exact htaken (j + 1) (by omega)
      · rw [hnext]
        exact hfree

/-- A generated uid is the first candidate that is not in use; there is one, by counting. -/
theorem generateUid_first (pathSuffix : String) (uids : Table String Nat) (name : Option String) :
    ∃ n ≤ Table.size uids,
      generateUid pathSuffix uids name = uidCandidate pathSuffix name n
        ∧ uids.lookup (uidCandidate pathSuffix name n) = none
        ∧ ∀ j < n, (uids.lookup (uidCandidate pathSuffix name j)).isSome = true := by
  obtain ⟨i, hi, hfree⟩ :=
    Table.exists_lookup_eq_none uids (uidCandidate_injective pathSuffix name)
  have hex : ∃ n, uids.lookup (uidCandidate pathSuffix name n) = none := ⟨i, hfree⟩
  have hle : Nat.find hex ≤ Table.size uids := (Nat.find_min' hex hfree).trans hi
  have htaken : ∀ j < Nat.find hex,
      (uids.lookup (uidCandidate pathSuffix name j)).isSome = true :=
    fun j hj => Option.isSome_iff_ne_none.mpr (Nat.find_min hex hj)
  have huid : generateUid pathSuffix uids name
      = uidCandidate pathSuffix name (0 + Nat.find hex) :=
    generateUidFrom_eq hle (fun j hj => by rw [Nat.zero_add]; exact htaken j hj)
      (by rw [Nat.zero_add]; exact Nat.find_spec hex)
  rw [Nat.zero_add] at huid
  exact ⟨Nat.find hex, hle, huid, Nat.find_spec hex, htaken⟩

/-- **A generated uid is not in use.** -/
theorem lookup_generateUid (pathSuffix : String) (uids : Table String Nat)
    (name : Option String) : uids.lookup (generateUid pathSuffix uids name) = none := by
  obtain ⟨n, -, huid, hfree, -⟩ := generateUid_first pathSuffix uids name
  rw [huid]
  exact hfree

namespace Contact

/-! ## The contact that a request brings or changes -/

/-- The bits that the request to add a contact may change in the pending flags. -/
def askedBits : Flags := scheduleUpdateVariants ||| scheduleUpdateFlags ||| allListFlags

/-- The bits that a submitted vcard can set in the pending flags. -/
def cardBits : Flags := scheduleUpdateFlags ||| scheduleUpdateMasterUid ||| allListFlags

/-- `c` is what the request to add `old` may leave. -/
structure Asked (old c : Contact) : Prop where
  uid : c.uid = old.uid
  flags : c.flags = old.flags ∨ c.flags = old.flags ||| contactInvalid
  pending : ∀ m, askedBits &&& m = 0#32 → c.pendingFlags.has m = old.pendingFlags.has m
  updateFlags : c.pendingFlags.has scheduleUpdateFlags = true →
    old.pendingFlags.has scheduleUpdateFlags = true

theorem Asked.refl (c : Contact) : Asked c c := ⟨rfl, .inl rfl, fun _ _ => rfl, id⟩

theorem asked_handle (c : Contact) (h : Nat) : Asked c { c with handle := h } :=
  ⟨rfl, .inl rfl, fun _ _ => rfl, id⟩

theorem Asked.updateName {old c : Contact} (h : Asked old c) (n : Option String) :
    Asked old (c.updateName n) := by
  unfold Contact.updateName
  split
  · exact h
  · split
    · exact h
    · split
      · refine ⟨h.uid, h.flags, fun m hm => ?_, fun hu => h.updateFlags ?_⟩
        · have hv : scheduleUpdateVariants &&& m = 0#32 := by
            refine BitVec.disjoint_iff.mpr ?_
            have hbits := BitVec.disjoint_iff.mp hm
            unfold askedBits at hbits
            rw [BitVec.or_has, BitVec.or_has, Bool.or_eq_false_iff, Bool.or_eq_false_iff] at hbits
            exact hbits.1.1
          exact (BitVec.or_has_of_disjoint hv).trans (h.pending m hm)
        · exact (BitVec.or_has_of_disjoint (by decide)).symm.trans hu
      · exact ⟨h.uid, h.flags, h.pending, h.updateFlags⟩

theorem Asked.markInvalid {old c : Contact} (h : Asked old c) (hf : c.flags = old.flags) :
    Asked old c.markInvalid := by
  refine ⟨h.uid, .inr (by rw [← hf]; rfl), fun m hm => ?_, fun hu => ?_⟩
  · have hbits := BitVec.disjoint_iff.mp hm
    unfold askedBits at hbits
    rw [BitVec.or_has, BitVec.or_has, Bool.or_eq_false_iff, Bool.or_eq_false_iff] at hbits
    have h1 : allListFlags &&& m = 0#32 := BitVec.disjoint_iff.mpr hbits.2
    have h2 : scheduleUpdateFlags &&& m = 0#32 := BitVec.disjoint_iff.mpr hbits.1.2
    exact (BitVec.clear_has_of_disjoint h1).trans
      ((BitVec.clear_has_of_disjoint h2).trans (h.pending m hm))
  · have hclear : c.markInvalid.pendingFlags.has scheduleUpdateFlags = false :=
      BitVec.and_has_false (BitVec.clear_has_self _ _)
    rw [hclear] at hu; cases hu

theorem updateName_flags (c : Contact) (n : Option String) : (c.updateName n).flags = c.flags := by
  unfold Contact.updateName
  split
  · rfl
  · split
    · rfl
    · split <;> rfl

/-- What a submitted vcard does not touch, and what it can make pending. -/
structure Decoded (old c : Contact) : Prop where
  uid : c.uid = old.uid
  handle : c.handle = old.handle
  flags : c.flags = old.flags
  pending : ∀ m, cardBits &&& m = 0#32 → c.pendingFlags.has m = true → old.flags.has m = true

theorem has_cardBits {m : Flags} (hm : cardBits &&& m = 0#32) :
    BitVec.has scheduleUpdateFlags m = false ∧ BitVec.has scheduleUpdateMasterUid m = false
      ∧ BitVec.has allListFlags m = false := by
  have hbits := BitVec.disjoint_iff.mp hm
  unfold cardBits at hbits
  rw [BitVec.or_has, BitVec.or_has, Bool.or_eq_false_iff, Bool.or_eq_false_iff] at hbits
  exact ⟨hbits.1.1, hbits.1.2, hbits.2⟩

theorem Decoded.updateTpAttribute {old c : Contact} (h : Decoded old c) (attr : Attribute)
    {flag : Flags} (hflag : flag &&& ~~~allListFlags = 0#32) :
    Decoded old (c.updateTpAttribute attr flag) := by
  have hno : ∀ {m : Flags}, cardBits &&& m = 0#32 → flag.has m = false := fun hm =>
    BitVec.has_false_of_within hflag (BitVec.disjoint_iff.mpr (has_cardBits hm).2.2)
  unfold Contact.updateTpAttribute
  split
  · split
    · exact h
    · refine ⟨h.uid, h.handle, h.flags, fun m hm hp => h.pending m hm ?_⟩
      rw [BitVec.or_has, BitVec.or_has, (has_cardBits hm).1, hno hm, Bool.or_false,
        Bool.or_false] at hp
      exact hp
  · split
    · split
      · refine ⟨h.uid, h.handle, h.flags, fun m hm hp => h.pending m hm ?_⟩
        rw [BitVec.or_has, (has_cardBits hm).1, Bool.or_false] at hp
        exact BitVec.has_of_and_has hp
      · exact h
    · exact h

theorem Decoded.attribute {old : Contact} {st : Contact × List (Option String)}
    (h : Decoded old st.1) (vcardField : String) (attr : Attribute) :
    Decoded old (decodeAttribute vcardField st attr).1 := by
  unfold decodeAttribute
  split
  · exact h
  · split
    · exact ⟨h.uid, h.handle, h.flags, h.pending⟩
    · split
      · exact h.updateTpAttribute attr (by decide)
      · split
        · exact h.updateTpAttribute attr (by decide)
        · split
          · exact h.updateTpAttribute attr (by decide)
          · exact h

theorem decoded_updateFromEcontact (c : Contact) (ec : EVCard) (vcardField : String) :
    Decoded c (c.updateFromEcontact ec vcardField).2 := by
  have hstart : Decoded c { c with pendingFlags := c.flags } :=
    ⟨rfl, rfl, rfl, fun _ _ hp => hp⟩
  have hloop : Decoded c
      (ec.foldl (decodeAttribute vcardField) ({ c with pendingFlags := c.flags }, [])).1 :=
    foldl_inv (I := fun st : Contact × List (Option String) => Decoded c st.1)
      (fun _ attr h => h.attribute vcardField attr) ec hstart
  unfold updateFromEcontact
  dsimp only
  split
  · refine ⟨hloop.uid, hloop.handle, hloop.flags, fun m hm hp => hloop.pending m hm ?_⟩
    rw [BitVec.or_has, (has_cardBits hm).2.1, Bool.or_false] at hp
    exact hp
  · exact hloop

/-- A contact that a create request brings is to be added, and nothing else is undone. -/
structure Created (c : Contact) : Prop where
  flags : c.flags = 0#32 ∨ c.flags = contactInvalid
  add : c.pendingFlags.has scheduleAdd = true
  delete : c.pendingFlags.has scheduleDelete = false
  unblock : c.pendingFlags.has scheduleUnblock = false

theorem created_submitted (ec : EVCard) (vcardField uid : String) :
    ((new.updateFromEcontact ec vcardField).2.submitted uid).Created := by
  have hd := decoded_updateFromEcontact new ec vcardField
  have hnone : ∀ m, cardBits &&& m = 0#32 →
      (new.updateFromEcontact ec vcardField).2.pendingFlags.has m = false := by
    intro m hm
    by_contra hc
    have hflags := hd.pending m hm (by simpa using hc)
    have hzero : new.flags.has m = false := BitVec.zero_has m
    rw [hzero] at hflags; cases hflags
  refine ⟨.inl hd.flags, ?_, ?_, ?_⟩
  · unfold submitted
    dsimp only
    rw [BitVec.or_has, BitVec.or_has_self (by decide), Bool.true_or]
  · unfold submitted
    dsimp only
    rw [BitVec.or_has_of_disjoint (by decide), BitVec.or_has_of_disjoint (by decide)]
    exact hnone _ (by decide)
  · unfold submitted
    dsimp only
    rw [BitVec.or_has_of_disjoint (by decide), BitVec.or_has_of_disjoint (by decide)]
    exact hnone _ (by decide)

theorem Created.asked {old c : Contact} (h : old.Created) (ha : Asked old c) : c.Created := by
  refine ⟨?_, ?_, ?_, ?_⟩
  · rcases ha.flags with hf | hf <;> rcases h.flags with h0 | h0 <;> rw [hf, h0]
    · exact .inl rfl
    · exact .inr rfl
    · exact .inr (by decide)
    · exact .inr (by decide)
  · rw [ha.pending _ (by decide)]; exact h.add
  · rw [ha.pending _ (by decide)]; exact h.delete
  · rw [ha.pending _ (by decide)]; exact h.unblock

end Contact

theorem Cl.asked_runAddContact (cl : Cl) (c : Contact) (w : Wire) :
    Contact.Asked c (cl.runAddContact c w).2.1 ∧ (cl.runAddContact c w).2.1.flags = c.flags := by
  unfold Cl.runAddContact
  split
  · dsimp only
    split
    · split
      · split
        · exact ⟨(Contact.asked_handle c _).updateName _, Contact.updateName_flags _ _⟩
        · exact ⟨Contact.asked_handle c _, rfl⟩
      · exact ⟨.refl c, rfl⟩
    · exact ⟨.refl c, rfl⟩
  · exact ⟨.refl c, rfl⟩

/-- **The request to add a contact keeps its uid and what else is pending for it.** -/
theorem Backend.asked_runAddContact (b : Backend) (c : Contact) :
    Contact.Asked c (b.runAddContact c).2.1 := by
  obtain ⟨hasked, hflags⟩ := Cl.asked_runAddContact b.tpcl c b.wire
  unfold Backend.runAddContact
  split
  · exact .refl c
  · generalize b.tpcl.runAddContact c b.wire = p at hasked hflags
    obtain ⟨_ | ⟨_ | _⟩, c', w⟩ := p
    · exact hasked
    · exact hasked
    · exact hasked.markInvalid hflags

/-! ## Proper edits -/

/-- The contact is in one of the indexes. -/
def Book.Held (b : Book) (r : Nat) : Prop :=
  (∃ k, b.uidToContact.lookup k = some r) ∨ (∃ n, b.nameToContact.lookup n = some r)
    ∨ ∃ h, b.handleToContact.lookup h = some r

/-- What is true of a change to a single contact where it is made. -/
def Touch.Proper (b : Book) (r : Nat) : Touch → Prop
  | .clearDelete => b.Held r
  | .updated _ => True
  | .submitted c _ => b.nameToContact.lookup c.name = some r
  | .removeTokens _ => ∃ k, b.uidToContact.lookup k = some r
  | .masterUidsStored => ∃ k, b.uidToContact.lookup k = some r
  | .nothingPending => ∃ k, b.uidToContact.lookup k = some r

/-- What is true of an edit where it is made. -/
def Edit.Proper (b : Book) : Edit → Prop
  | .importContact _ => True
  | .memberReported _ cIn => cIn.Plain
  | .contactAdded _ cIn => cIn.Plain
  | .mergeByHandle _ cIn => cIn.Plain
  | .forgetHandles => True
  | .touch r t => t.Proper b r
  | .deleteContacts rs => ∀ r ∈ rs, b.Held r
  | .createContact c =>
    b.nameToContact.lookup c.name = none ∧ b.uidToContact.lookup c.uid = none ∧ c.Created
  | .modified r _ _ _ _ => ∃ k, b.uidToContact.lookup k = some r
  | .scheduleRemoval r => ∃ k, b.uidToContact.lookup k = some r
  | .addDone r c => Contact.Asked (b.contacts r) c
  | .addFailed r c => Contact.Asked (b.contacts r) c
  | .removalDone _ => True

namespace Backend

/-- Every edit of the list is proper where it is made. -/
def AllProper (b : Backend) (es : List Edit) : Prop := AllAlong Book.apply Edit.Proper b.book es

theorem held_byHandle {b : Book} {cs : List Contact} {r : Nat} (hr : r ∈ b.byHandle cs) :
    b.Held r := by
  obtain ⟨c, -, hc⟩ := List.mem_filterMap.mp hr
  exact .inr (.inr ⟨c.handle, hc⟩)

/-- Clearing bits takes nobody out of an index. -/
theorem held_foldl_clearDelete {b : Book} {rs : List Nat} {r : Nat} (h : b.Held r) :
    ((rs.map (Edit.touch · .clearDelete)).foldl Book.apply b).Held r := by
  induction rs generalizing b with
  | nil => exact h
  | cons x rs ih => exact ih (b := b.apply (.touch x .clearDelete)) h

theorem proper_clearDelete {b : Book} {rs : List Nat} (h : ∀ r ∈ rs, b.Held r) :
    AllAlong Book.apply Edit.Proper b (rs.map (Edit.touch · .clearDelete)) := by
  induction rs generalizing b with
  | nil => trivial
  | cons x rs ih =>
    exact ⟨h x List.mem_cons_self,
      ih (b := b.apply (.touch x .clearDelete)) fun r hr => h r (List.mem_cons_of_mem x hr)⟩

theorem proper_contactsRemoved (b : Backend) (cs : List Contact) :
    b.AllProper ((b.book.byHandle cs).map (Edit.touch · .clearDelete)
      ++ [.deleteContacts (b.book.byHandle cs)]) := by
  refine AllAlong.append (proper_clearDelete fun r hr => held_byHandle hr) ⟨fun r hr => ?_, trivial⟩
  exact held_foldl_clearDelete (held_byHandle hr)

theorem proper_signal (b : Backend) {s : Signal} (hs : ∀ c ∈ s.contacts, c.Plain) :
    b.AllProper (b.signalEdits s) := by
  have hnil : b.AllProper [] := trivial
  have hmap : ∀ {f : Contact → Edit} (cs : List Contact), (∀ c ∈ cs, c.Plain) →
      (∀ (c : Contact) (b : Book), c.Plain → (f c).Proper b) → b.AllProper (cs.map f) := by
    intro f cs hcs hf
    refine allAlong_of_forall (fun e he book => ?_) b.book
    obtain ⟨c, hc, rfl⟩ := List.mem_map.mp he
    exact hf c book (hcs c hc)
  unfold signalEdits
  cases s with
  | getMembersDone result =>
    cases result with
    | none => exact hnil
    | some cs => exact hmap cs hs fun c _ h => h
  | statusChanged st =>
    cases st with
    | online => exact hnil
    | offline =>
      dsimp only
      split
      · exact ⟨trivial, trivial⟩
      · exact hnil
  | contactsRemoved cs =>
    dsimp only
    split
    · exact proper_contactsRemoved b cs
    · exact hnil
  | avatarDataChanged c =>
    dsimp only
    split
    · exact ⟨hs c List.mem_cons_self, trivial⟩
    · exact hnil
  | _ cs =>
    dsimp only
    split
    · exact hmap cs hs fun c _ h => h
    · exact hnil

theorem proper_signals (b : Backend) {ss : List Signal}
    (hs : ∀ s ∈ ss, ∀ c ∈ s.contacts, c.Plain) : b.AllProper (b.signalsEdits ss) := by
  induction ss generalizing b with
  | nil => trivial
  | cons s ss ih =>
    refine AllAlong.append (proper_signal b (hs s List.mem_cons_self)) ?_
    rw [← onSignal_book]
    exact ih (b.onSignal s) fun s' h => hs s' (List.mem_cons_of_mem s h)

theorem proper_enter {b : Backend} {c : Contact} (hc : c.Created)
    (hfree : b.book.uidToContact.lookup c.uid = none) : b.AllProper (b.enterEdits c) := by
  unfold enterEdits
  split
  · rename_i r hr
    exact ⟨hr, trivial⟩
  · rename_i hn
    exact ⟨⟨hn, hfree, hc⟩, trivial⟩

theorem proper_create (b : Backend) (ec : Contact.EVCard) : b.AllProper (b.createEdits ec) := by
  have hnew := Contact.created_submitted ec b.vcardField
  unfold createEdits
  generalize Contact.new.updateFromEcontact ec b.vcardField = p at hnew
  obtain ⟨_ | _, c⟩ := p
  · trivial
  · have hfree := lookup_generateUid b.pathSuffix b.book.uidToContact c.name
    have hc := hnew (generateUid b.pathSuffix b.book.uidToContact c.name)
    dsimp only at hc ⊢
    split
    · have hasked := asked_runAddContact b
        (c.submitted (generateUid b.pathSuffix b.book.uidToContact c.name))
      generalize b.runAddContact _ = p at hasked
      obtain ⟨_ | _, c', w⟩ := p
      · trivial
      · have huid : c'.uid = generateUid b.pathSuffix b.book.uidToContact c.name := hasked.uid
        exact proper_enter (b := { b with wire := w }) (hc.asked hasked)
          (by rw [huid]; exact hfree)
    · exact proper_enter hc hfree

theorem proper_removeFound {b : Backend} {r : Nat} {k : String}
    (hr : b.book.uidToContact.lookup k = some r) (tokens : List String) :
    b.AllProper (b.removeFoundEdits r tokens) := by
  have hin : ∃ k, b.book.uidToContact.lookup k = some r := ⟨k, hr⟩
  unfold removeFoundEdits
  dsimp only
  refine ⟨hin, ?_⟩
  split
  · unfold removalEdits
    split
    · refine ⟨hin, fun x hx => ?_, trivial⟩
      rw [List.mem_singleton] at hx
      subst hx
      exact .inl hin
    · split <;> exact ⟨hin, trivial⟩
  · split
    · exact ⟨hin, trivial⟩
    · trivial

theorem proper_phase3 (b : Backend) (p : Phase3) : b.AllProper (b.phase3Edits p) := by
  unfold phase3Edits
  split
  · exact ⟨trivial, trivial⟩
  · rename_i r _ _ _
    have hasked := asked_runAddContact b (b.book.contacts r)
    generalize b.runAddContact _ = q at hasked
    obtain ⟨_ | _, c, w⟩ := q
    · exact ⟨hasked, trivial⟩
    · exact ⟨hasked, trivial⟩
  · split
    · exact ⟨trivial, trivial⟩
    · trivial
  · trivial

/-- **Every edit of every event is proper.** -/
theorem edits_proper {b : Backend} (hplain : b.tpcl.Plain) (e : Event) :
    b.AllProper (b.edits e) := by
  unfold edits
  cases e with
  | cl e =>
    dsimp only
    cases hstep : b.tpcl.step e with
    | none => trivial
    | some p =>
      obtain ⟨cl, signals⟩ := p
      exact proper_signals { b with tpcl := cl } (Cl.plain_step hplain hstep).2
  | phase0 =>
    refine allAlong_of_forall (fun e he _ => ?_) b.book
    obtain ⟨c, -, rfl⟩ := List.mem_map.mp he
    trivial
  | phase2 =>
    -- phase 2 removes contacts that are in the table of names
    refine ⟨fun r hr => ?_, trivial⟩
    obtain ⟨n, hn⟩ := Table.mem_values.mp (List.mem_of_mem_filter hr)
    exact .inr (.inl ⟨n, hn⟩)
  | phase3Next order =>
    dsimp only
    split
    · exact proper_phase3 b _
    · trivial
  | createContact ec => exact proper_create b.flush ec
  | modifyContact ec =>
    dsimp only
    unfold modifyEdits
    split
    · trivial
    · -- the contact to modify was found under its uid
      rename_i r hr
      obtain ⟨k, -, hk⟩ := Option.bind_eq_some_iff.mp hr
      exact ⟨⟨k, hk⟩, trivial⟩
  | removeContact id =>
    dsimp only
    unfold removeEdits
    split
    · trivial
    · split
      · trivial
      · rename_i r hr
        exact proper_removeFound (b := b.flush) hr _
  | phase3 order => trivial
  | updateContactsIdle => trivial
  | startView id => trivial
  | stopView id => trivial
  | inactivity on => trivial
  | avatarDataSaved i ok => trivial
  | getContact => trivial

end Backend

end EdsTelepathy
