import EdsTelepathy.Proof.Names
import EdsTelepathy.Proof.Queues
import EdsTelepathy.Proof.Removal
import EdsTelepathy.Proof.Wishes

/-!
# Master UIDs as a set

Adding a contact that is known unites its master UIDs with those of the vcard, and a remove
request takes away those it names; both work on one contact at a time and on its list alone,
so a sequence of them is a sequence of set operations. Two things break this. The list of a
contact that is new is the list of the vcard, with its repetitions, of which a request later
takes away one at a time; and a uid with a semicolon is not the one a request is read as.
-/

namespace EdsTelepathy

namespace Contact

theorem removeIndexFast_eq (xs : List (Option String)) (i : Nat) :
    removeIndexFast xs i = Distinct.swapRemove xs i := by
  unfold removeIndexFast Distinct.swapRemove
  cases xs.getLast? <;> rfl

theorem removeMasterUid_masterUids (c : Contact) (uid : String) :
    (c.removeMasterUid uid).masterUids = Distinct.takeOut c.masterUids (some uid) := by
  unfold removeMasterUid Distinct.takeOut
  cases c.masterUids.findIdx? (· = some uid) with
  | none => rfl
  | some i => exact removeIndexFast_eq c.masterUids i

/-- What a known contact has after a create request. -/
theorem submitted_masterUids (e c : Contact) (unblocked : Bool) :
    ((e.mergeSubmitted c).updated unblocked).masterUids
      = c.masterUids.foldl Distinct.addNew e.masterUids := by
  have hupdated : ∀ d : Contact, (d.updated unblocked).masterUids = d.masterUids := by
    intro d
    unfold updated unblockAsked
    split
    · split <;> rfl
    · rfl
  have hvariants := addVariants_masterUids (e.updateMasterUids c.masterUids) c
  rw [hupdated, ← updateMasterUids_masterUids, ← hvariants]
  unfold mergeSubmitted
  dsimp only
  split <;> rfl

/-! ## The tokens of a remove request -/

/-- The master UIDs that a remove request names, where it does not ask for all. -/
def namedUids (tokens : List String) : List (Option String) :=
  (tokens.filter fun t => t ≠ "preserve" ∧ t ≠ "if-unused").map some

/-- The loop over the tokens takes out what they name, and remembers a *preserve*. -/
theorem foldl_removeToken (tokens : List String) (c : Contact) (really : Bool) :
    (tokens.foldl removeToken (c, really)).1.masterUids
        = (namedUids tokens).foldl Distinct.takeOut c.masterUids
      ∧ ((tokens.foldl removeToken (c, really)).2 = true ↔ really = true ∧ "preserve" ∉ tokens) := by
  induction tokens generalizing c really with
  | nil => exact ⟨rfl, by simp⟩
  | cons t tokens ih =>
    have hstep : removeToken (c, really) t
        = if t = "preserve" then (c, false)
          else if t = "if-unused" then (c, really)
          else (c.removeMasterUid t, really) := rfl
    rw [List.foldl_cons, List.mem_cons, not_or, hstep]
    by_cases hp : t = "preserve"
    · subst hp
      rw [if_pos rfl]
      refine ⟨(ih c false).1, ?_⟩
      rw [(ih c false).2]
      simp
    · rw [if_neg hp]
      by_cases hu : t = "if-unused"
      · subst hu
        rw [if_pos rfl]
        refine ⟨(ih c really).1, ?_⟩
        rw [(ih c really).2]
        simp
      · rw [if_neg hu]
        have hnamed : namedUids (t :: tokens) = some t :: namedUids tokens := by
          simp [namedUids, hp, hu]
        obtain ⟨huids, hreally⟩ := ih (c.removeMasterUid t) really
        refine ⟨?_, ?_⟩
        · rw [huids, hnamed, List.foldl_cons, removeMasterUid_masterUids]
        · rw [hreally]
          simp [Ne.symm hp]

/-- A request asks for all master UIDs. -/
def AsksForAll (tokens : List String) : Prop := tokens.head? = some "*"

/-- What a remove request leaves of the master UIDs. -/
theorem removeTokens_masterUids (c : Contact) (tokens : List String) :
    (AsksForAll tokens → (c.removeTokens tokens).1.masterUids = [])
      ∧ (¬ AsksForAll tokens → (c.removeTokens tokens).1.masterUids
        = (namedUids tokens).foldl Distinct.takeOut c.masterUids) := by
  unfold removeTokens AsksForAll
  split
  · exact ⟨fun h => (by cases h), fun _ => rfl⟩
  · refine ⟨fun _ => ?_, fun h => absurd rfl h⟩
    unfold removeAllMasterUids
    split
    · assumption
    · rfl
  · rename_i hnil hstar
    refine ⟨fun h => ?_, fun _ => (foldl_removeToken tokens c true).1⟩
    cases tokens with
    | nil => cases h
    | cons t tokens => exact (hstar tokens (Option.some.inj h ▸ rfl)).elim

/-- The request takes this master UID away. -/
def TakesAway (tokens : List String) (u : Option String) : Prop :=
  AsksForAll tokens ∨ u ∈ namedUids tokens

/-- **A remove request takes away what it names.** -/
theorem mem_removeTokens {c : Contact} (h : c.masterUids.Nodup) (tokens : List String)
    (u : Option String) :
    u ∈ (c.removeTokens tokens).1.masterUids ↔ u ∈ c.masterUids ∧ ¬ TakesAway tokens u := by
  obtain ⟨hall, hsome⟩ := removeTokens_masterUids c tokens
  unfold TakesAway
  by_cases ha : AsksForAll tokens
  · rw [hall ha]
    exact iff_of_false List.not_mem_nil fun hu => hu.2 (.inl ha)
  · rw [hsome ha, Distinct.mem_foldl_takeOut h, or_iff_right ha]

theorem nodup_removeTokens {c : Contact} (h : c.masterUids.Nodup) (tokens : List String) :
    (c.removeTokens tokens).1.masterUids.Nodup := by
  obtain ⟨hall, hsome⟩ := removeTokens_masterUids c tokens
  by_cases ha : AsksForAll tokens
  · rw [hall ha]
    exact List.nodup_nil
  · rw [hsome ha]
    exact Distinct.nodup_foldl_takeOut h _

/-- Whether a remove request is one to remove a contact with these master UIDs itself. -/
def AsksForRemoval (tokens : List String) (uids : List (Option String)) : Prop :=
  tokens = [] ∨ (¬ AsksForAll tokens ∧ "preserve" ∉ tokens ∧ ∀ u ∈ uids, TakesAway tokens u)

theorem removeTokens_really {c : Contact} (h : c.masterUids.Nodup) (tokens : List String) :
    (c.removeTokens tokens).2 = true ↔ AsksForRemoval tokens c.masterUids := by
  have hleft : (c.removeTokens tokens).1.masterUids = [] ↔ ∀ u ∈ c.masterUids, TakesAway tokens u := by
    rw [List.eq_nil_iff_forall_not_mem]
    refine forall_congr' fun u => ?_
    rw [mem_removeTokens h, not_and_not_right]
  unfold AsksForRemoval
  rw [← hleft]
  unfold AsksForAll removeTokens
  split
  · exact iff_of_true rfl (.inl rfl)
  · refine iff_of_false Bool.false_ne_true ?_
    rintro (h | ⟨h, -, -⟩)
    · cases h
    · exact h rfl
  · rename_i hnil hstar
    have hall : ¬ tokens.head? = some "*" := fun h => by
      cases tokens with
      | nil => cases h
      | cons t tokens => exact hstar tokens (Option.some.inj h ▸ rfl)
    dsimp only
    rw [Bool.and_eq_true, (foldl_removeToken tokens c true).2, List.isEmpty_iff]
    constructor
    · rintro ⟨⟨-, hp⟩, he⟩
      exact .inr ⟨hall, hp, he⟩
    · rintro (h | ⟨-, hp, he⟩)
      · exact absurd h hnil
      · exact ⟨⟨rfl, hp⟩, he⟩

end Contact

namespace Book

/-- The contact with a name is found under the name and under its uid. -/
def KnownAs (b : Book) (n : String) : Prop :=
  ∀ r, b.nameToContact.lookup (some n) = some r →
    (b.contacts r).name = some n ∧ b.uidToContact.lookup (b.contacts r).uid = some r

/-- The master UIDs of the contact with a name, if there is one. -/
def masterUidsOf (b : Book) (n : String) : List (Option String) :=
  match b.nameToContact.lookup (some n) with
  | some r => (b.contacts r).masterUids
  | none => []

theorem masterUidsOf_of_lookup {b : Book} {n : String} {r : Nat}
    (hr : b.nameToContact.lookup (some n) = some r) :
    b.masterUidsOf n = (b.contacts r).masterUids := by
  unfold masterUidsOf
  rw [hr]

theorem KnownAs.of_keys {b b' : Book} {n : String} (h : b.KnownAs n)
    (hnames : b'.nameToContact = b.nameToContact) (huids : b'.uidToContact = b.uidToContact)
    (hkeys : ∀ x, Contact.SameKeys (b.contacts x) (b'.contacts x)) : b'.KnownAs n := by
  intro x hx
  rw [hnames] at hx
  rw [huids, (hkeys x).1, (hkeys x).2.1]
  exact h x hx

theorem sameKeys_modify {b : Book} {r : Nat} {f : Contact → Contact}
    (hf : ∀ c, Contact.SameKeys c (f c)) (x : Nat) :
    Contact.SameKeys (b.contacts x) ((b.modify r f).contacts x) := by
  by_cases he : x = r
  · subst he
    rw [modify_contacts_self]
    exact hf _
  · rw [modify_contacts_of_ne he]
    exact ⟨rfl, rfl, rfl⟩

theorem KnownAs.touch {b : Book} {n : String} (h : b.KnownAs n) (r : Nat) (t : Touch) :
    (b.apply (.touch r t)).KnownAs n :=
  h.of_keys rfl rfl fun x => sameKeys_modify t.sameKeys x

theorem masterUidsOf_touch {b : Book} {n : String} {r : Nat}
    (hr : b.nameToContact.lookup (some n) = some r) (t : Touch) :
    (b.apply (.touch r t)).masterUidsOf n = (t.apply (b.contacts r)).masterUids := by
  have hr' : (b.apply (.touch r t)).nameToContact.lookup (some n) = some r := hr
  rw [masterUidsOf_of_lookup hr']
  exact congrArg Contact.masterUids (modify_contacts_self b r t.apply)

/-- A new contact is known by its name, with the master UIDs it was created with. -/
theorem KnownAs.createContact {b : Book} {n : String} {c : Contact} (hname : c.name = some n) :
    (b.apply (.createContact c)).KnownAs n
      ∧ (b.apply (.createContact c)).nameToContact.lookup (some n) = some b.next
      ∧ (b.apply (.createContact c)).masterUidsOf n = c.masterUids := by
  have hcontacts : (b.apply (.createContact c)).contacts b.next = c := createContact_contacts_next b c
  have hnames : (b.apply (.createContact c)).nameToContact = b.nameToContact.insert c.name b.next :=
    createContact_nameToContact b c
  have huids : (b.apply (.createContact c)).uidToContact = b.uidToContact.insert c.uid b.next :=
    createContact_uidToContact b c
  have hlook : (b.apply (.createContact c)).nameToContact.lookup (some n) = some b.next := by
    rw [hnames, hname]
    exact AList.lookup_insert _
  refine ⟨fun r hr => ?_, hlook, ?_⟩
  · obtain rfl : r = b.next := Option.some.inj (hr.symm.trans hlook)
    rw [hcontacts, huids]
    exact ⟨hname, AList.lookup_insert _⟩
  · rw [masterUidsOf_of_lookup hlook, hcontacts]

end Book

namespace Backend

/-! ## Create requests -/

/-- The contact with which a create request comes to the lookup by name, if it gets there. -/
def takenUp (b : Backend) (ec : Contact.EVCard) : Option Contact :=
  match Contact.new.updateFromEcontact ec b.vcardField with
  | (false, _) => none
  | (true, c) =>
    let c := c.submitted (generateUid b.pathSuffix b.book.uidToContact c.name)
    if b.tpcl.status = .online then
      match b.runAddContact c with
      | (true, c, _) => some c
      | (false, _, _) => none
    else some c

/-- Asking the server for a contact does not touch its master UIDs. -/
theorem runAddContact_masterUids (b : Backend) (c : Contact) :
    (b.runAddContact c).2.1.masterUids = c.masterUids := by
  have hname : ∀ (d : Contact) (n : Option String), (d.updateName n).masterUids = d.masterUids := by
    intro d n
    unfold Contact.updateName
    split
    · rfl
    · split
      · rfl
      · split <;> rfl
  have hcl : (b.tpcl.runAddContact c b.wire).2.1.masterUids = c.masterUids := by
    unfold Cl.runAddContact
    dsimp only
    split
    · split
      · split
        · split
          · exact hname _ _
          · rfl
        · rfl
      · rfl
    · rfl
  unfold runAddContact
  split
  · rfl
  · generalize b.tpcl.runAddContact c b.wire = p at hcl
    obtain ⟨o, c', w⟩ := p
    cases o with
    | success => exact hcl
    | failure invalid => cases invalid <;> exact hcl

theorem takenUp_masterUids {b : Backend} {ec : Contact.EVCard} {c : Contact}
    (h : b.takenUp ec = some c) : c.masterUids = Contact.masterUidValues ec := by
  have hdecoded : (Contact.new.updateFromEcontact ec b.vcardField).2.masterUids
      = Contact.masterUidValues ec := by rw [Contact.decoded_eq]
  unfold takenUp at h
  generalize Contact.new.updateFromEcontact ec b.vcardField = card at h hdecoded
  obtain ⟨_ | _, c₀⟩ := card
  · cases h
  · dsimp only at h hdecoded
    split at h
    · have hasked := runAddContact_masterUids b
        (c₀.submitted (generateUid b.pathSuffix b.book.uidToContact c₀.name))
      generalize b.runAddContact _ = p at h hasked
      obtain ⟨_ | _, c₁, w⟩ := p
      · cases h
      · cases h
        exact hasked.trans hdecoded
    · cases h
      exact hdecoded

/-- What a create request that gets to the lookup does to the book. -/
theorem createEdits_takenUp {b : Backend} {ec : Contact.EVCard} {c : Contact}
    (h : b.takenUp ec = some c) :
    ∃ unblocked, b.createEdits ec = match b.book.nameToContact.lookup c.name with
      | some r => [.touch r (.submitted c unblocked)]
      | none => [.createContact c] := by
  have henter : ∀ b' : Backend, b'.book = b.book → ∃ unblocked, b'.enterEdits c
      = match b.book.nameToContact.lookup c.name with
        | some r => [.touch r (.submitted c unblocked)]
        | none => [.createContact c] := by
    intro b' hb
    unfold enterEdits
    rw [hb]
    cases b.book.nameToContact.lookup c.name with
    | some r => exact ⟨_, rfl⟩
    | none => exact ⟨false, rfl⟩
  unfold takenUp at h
  unfold createEdits
  generalize Contact.new.updateFromEcontact ec b.vcardField = card at h
  obtain ⟨_ | _, c₀⟩ := card
  · cases h
  · dsimp only at h ⊢
    by_cases hon : b.tpcl.status = .online
    · rw [if_pos hon] at h ⊢
      generalize b.runAddContact _ = p at h
      obtain ⟨_ | _, c₁, w⟩ := p
      · cases h
      · cases h
        exact henter _ rfl
    · rw [if_neg hon] at h ⊢
      cases h
      exact henter b rfl

/-- **A create request unites the master UIDs of a contact with those of the vcard.** -/
theorem createContact_unites {b : Backend} {n : String} {ec : Contact.EVCard} {c : Contact}
    (hknown : b.book.KnownAs n) (hnd : (b.book.masterUidsOf n).Nodup)
    (hc : b.takenUp ec = some c) (hname : c.name = some n)
    (hnew : b.book.nameToContact.lookup (some n) = none → (Contact.masterUidValues ec).Nodup) :
    (b.createContact ec).book.KnownAs n
      ∧ ((b.createContact ec).book.nameToContact.lookup (some n)).isSome = true
      ∧ ((b.createContact ec).book.masterUidsOf n).Nodup
      ∧ ∀ u, u ∈ (b.createContact ec).book.masterUidsOf n
        ↔ u ∈ b.book.masterUidsOf n ∨ u ∈ Contact.masterUidValues ec := by
  have hflush : b.flush.takenUp ec = some c := hc
  obtain ⟨unblocked, hedits⟩ := createEdits_takenUp hflush
  have hbook : b.flush.book = b.book := rfl
  rw [hbook, hname] at hedits
  rw [createContact_book, hedits]
  cases hr : b.book.nameToContact.lookup (some n) with
  | some r =>
    have happlied : (Touch.apply (.submitted c unblocked) (b.book.contacts r)).masterUids
        = (Contact.masterUidValues ec).foldl Distinct.addNew (b.book.masterUidsOf n) := by
      rw [Book.masterUidsOf_of_lookup hr, ← takenUp_masterUids hc]
      exact Contact.submitted_masterUids _ _ _
    have hafter := Book.masterUidsOf_touch hr (.submitted c unblocked)
    rw [happlied] at hafter
    refine ⟨hknown.touch r _, ?_, ?_, fun u => ?_⟩
    · exact Option.isSome_iff_exists.mpr ⟨r, hr⟩
    · rw [List.foldl_cons, List.foldl_nil, hafter]
      exact Distinct.nodup_foldl_addNew hnd _
    · rw [List.foldl_cons, List.foldl_nil, hafter]
      exact Distinct.mem_foldl_addNew
  | none =>
    obtain ⟨hknown', hlook, huids⟩ := Book.KnownAs.createContact (b := b.book) hname
    have hold : b.book.masterUidsOf n = [] := by
      unfold Book.masterUidsOf
      rw [hr]
    rw [List.foldl_cons, List.foldl_nil, huids, takenUp_masterUids hc, hold]
    refine ⟨hknown', by rw [hlook]; rfl, hnew hr, fun u => ?_⟩
    rw [or_iff_right List.not_mem_nil]

/-! ## Remove requests -/

/--
The contact at `r` is out of the book, or the roster layer was asked to remove it and did, or
its removal is put off.
-/
def GoesAway (b b' : Backend) (n : String) (r : Nat) : Prop :=
  b'.book.nameToContact.lookup (some n) = none
    ∨ (b.tpcl.status = .online ∧ b.tpcl.runRemoveContact (b.book.contacts r) b.wire = (true, b'.wire))
    ∨ (b'.book.contactsToDelete.lookup (b.book.contacts r).uid = some r
      ∧ (b'.book.contacts r).pendingFlags.has scheduleDelete = true)

/-- Nothing is done about removing the contact at `r`. -/
structure Stays (b b' : Backend) (n : String) (r : Nat) : Prop where
  known : b'.book.nameToContact.lookup (some n) = some r
  toDelete : b'.book.contactsToDelete = b.book.contactsToDelete
  pending : (b'.book.contacts r).pendingFlags.has scheduleDelete
    = (b.book.contacts r).pendingFlags.has scheduleDelete
  sent : b'.wire = b.wire

/-- What a remove request with these tokens does to the contact with a name. -/
structure Removes (b b' : Backend) (n : String) (r : Nat) (tokens : List String) : Prop where
  same : b'.book.nameToContact.lookup (some n) = some r ∨ b'.book.nameToContact.lookup (some n) = none
  nodup : (b'.book.masterUidsOf n).Nodup
  uids : b'.book.nameToContact.lookup (some n) = some r →
    ∀ u, u ∈ b'.book.masterUidsOf n ↔ u ∈ b.book.masterUidsOf n ∧ ¬ Contact.TakesAway tokens u
  goes : Contact.AsksForRemoval tokens (b.book.masterUidsOf n) → b.GoesAway b' n r
  stays : ¬ Contact.AsksForRemoval tokens (b.book.masterUidsOf n) → b.Stays b' n r

/-- What the roster layer is asked goes by the handle of the contact. -/
theorem runRemoveContact_congr {c c' : Contact} (h : c'.handle = c.handle) (cl : Cl) (w : Wire) :
    cl.runRemoveContact c' w = cl.runRemoveContact c w := by
  unfold Cl.runRemoveContact
  rw [h]

theorem removeMasterUids_wire (b : Backend) (r : Nat) : (b.removeMasterUids r).wire = b.wire := by
  unfold removeMasterUids
  split
  · have hdb : (b.dbUpdateContact r).2.wire = b.wire := rfl
    generalize b.dbUpdateContact r = q at hdb
    obtain ⟨_ | _, b'⟩ := q <;> exact hdb
  · rfl

/-- Whether a removal is asked of the server, and what is sent then. -/
theorem reallyRemove_wire {b : Backend} {r : Nat}
    (hinvalid : ¬ (b.book.contacts r).flags.has contactInvalid = true)
    (hon : b.tpcl.status = .online) :
    (b.reallyRemove r).wire = (b.tpcl.runRemoveContact (b.book.contacts r) b.wire).2 := by
  have hself : (b.modify r Contact.nothingPending).book.contacts r
      = (b.book.contacts r).nothingPending := Book.modify_contacts_self b.book r _
  have hasks : (b.modify r Contact.nothingPending).tpcl.runRemoveContact
        (b.book.contacts r).nothingPending (b.modify r Contact.nothingPending).wire
      = b.tpcl.runRemoveContact (b.book.contacts r) b.wire := rfl
  unfold reallyRemove requestRemoval
  rw [hself]
  show (if (b.book.contacts r).flags.has contactInvalid then _ else _ : Backend).wire = _
  rw [if_neg hinvalid,
    if_pos (show (b.modify r Contact.nothingPending).tpcl.status = .online from hon), hasks]
  rcases b.tpcl.runRemoveContact (b.book.contacts r) b.wire with ⟨_ | _, w⟩
  · rfl
  · rfl

/-- **To remove the contact itself leaves its master UIDs alone**, and it goes away in some way. -/
theorem reallyRemove_goesAway {b : Backend} {n : String} {r : Nat} (hknown : b.book.KnownAs n)
    (hr : b.book.nameToContact.lookup (some n) = some r) :
    (b.reallyRemove r).book.KnownAs n
      ∧ ((b.reallyRemove r).book.nameToContact.lookup (some n) = none
        ∨ ((b.reallyRemove r).book.nameToContact.lookup (some n) = some r
          ∧ (b.reallyRemove r).book.masterUidsOf n = b.book.masterUidsOf n))
      ∧ b.GoesAway (b.reallyRemove r) n r := by
  have htouched := Book.masterUidsOf_touch hr .nothingPending
  rw [show (Touch.apply .nothingPending (b.book.contacts r)).masterUids
    = (b.book.contacts r).masterUids from rfl, ← Book.masterUidsOf_of_lookup hr] at htouched
  have hbook := reallyRemove_book b r
  unfold removalEdits at hbook
  by_cases hinvalid : (b.book.contacts r).flags.has contactInvalid = true
  · -- the server does not know the contact, so it is deleted at once
    rw [if_pos hinvalid, List.foldl_cons, List.foldl_cons, List.foldl_nil] at hbook
    have hname := ((hknown.touch r .nothingPending) r hr).1
    have hgone : (b.reallyRemove r).book.nameToContact.lookup (some n) = none := by
      rw [hbook]
      show (((b.book.apply (.touch r .nothingPending)).deleteContact r).nameToContact).lookup _ = none
      rw [Book.deleteContact_name, hname]
      exact AList.lookup_erase _ _
    exact ⟨fun x hx => (by rw [hgone] at hx; cases hx), .inl hgone, .inl hgone⟩
  · rw [if_neg hinvalid] at hbook
    by_cases hask : b.tpcl.status = .online ∧ (b.tpcl.runRemoveContact (b.book.contacts r) b.wire).1 = true
    · -- the server has been asked, and the contact waits for its answer
      rw [if_pos hask, List.foldl_cons, List.foldl_nil] at hbook
      refine ⟨hbook ▸ hknown.touch r .nothingPending, .inr ⟨hbook ▸ hr, hbook ▸ htouched⟩,
        .inr (.inl ⟨hask.1, Prod.ext hask.2 ?_⟩)⟩
      exact (reallyRemove_wire hinvalid hask.1).symm
    · rw [if_neg hask, List.foldl_cons, List.foldl_nil] at hbook
      -- offline, or the server refused: the removal is scheduled
      have hnames : (b.reallyRemove r).book.nameToContact = b.book.nameToContact := by
        rw [hbook]; rfl
      have hself : (b.reallyRemove r).book.contacts r
          = (b.book.contacts r).nothingPending.markDelete := by
        rw [hbook]
        show ((b.book.modify r Contact.nothingPending).modify r Contact.markDelete).contacts r = _
        rw [Book.modify_contacts_self, Book.modify_contacts_self]
      have hlook : (b.reallyRemove r).book.nameToContact.lookup (some n) = some r := hnames ▸ hr
      refine ⟨?_, .inr ⟨hlook, ?_⟩, .inr (.inr ⟨?_, ?_⟩)⟩
      · have htouch := hknown.touch r .nothingPending
        rw [hbook]
        exact htouch.of_keys rfl rfl (Book.sameKeys_modify fun _ => ⟨rfl, rfl, rfl⟩)
      · rw [Book.masterUidsOf_of_lookup hlook, Book.masterUidsOf_of_lookup hr, hself]
        rfl
      · have huid : ((b.reallyRemove r).book.contacts r).uid = (b.book.contacts r).uid := by
          rw [hself]; rfl
        have htable : (b.reallyRemove r).book.contactsToDelete
            = b.book.contactsToDelete.insert ((b.reallyRemove r).book.contacts r).uid r := by
          rw [hbook]; rfl
        rw [htable, huid]
        exact AList.lookup_insert _
      · rw [hself]
        exact BitVec.or_has_self (by decide)

/-- Where only master UIDs go, nothing else is done to the contact. -/
theorem removeMasterUids_stays {b : Backend} {n : String} {r : Nat} (hknown : b.book.KnownAs n)
    (hr : b.book.nameToContact.lookup (some n) = some r) :
    (b.removeMasterUids r).book.KnownAs n
      ∧ (b.removeMasterUids r).book.masterUidsOf n = b.book.masterUidsOf n
      ∧ b.Stays (b.removeMasterUids r) n r := by
  have hbook := removeMasterUids_book b r
  have hwire := removeMasterUids_wire b r
  split at hbook
  · have htouched := Book.masterUidsOf_touch hr .masterUidsStored
    rw [show (Touch.apply .masterUidsStored (b.book.contacts r)).masterUids
      = (b.book.contacts r).masterUids from rfl, ← Book.masterUidsOf_of_lookup hr] at htouched
    refine ⟨hbook ▸ hknown.touch r .masterUidsStored, hbook ▸ htouched, ⟨hbook ▸ hr, ?_, ?_, hwire⟩⟩
    · rw [hbook]; rfl
    · rw [hbook]
      show ((b.book.modify r Contact.masterUidsStored).contacts r).pendingFlags.has _ = _
      rw [Book.modify_contacts_self]
      exact BitVec.clear_has_of_disjoint (by decide)
  · exact ⟨hbook ▸ hknown, by rw [hbook], ⟨hbook ▸ hr, by rw [hbook], by rw [hbook], hwire⟩⟩

/-- **A remove request takes away the master UIDs it names, and the contact where it asks for it.** -/
theorem removeContact_removes {b : Backend} {n : String} {r : Nat} {tokens : List String}
    (hknown : b.book.KnownAs n) (hnd : (b.book.masterUidsOf n).Nodup)
    (hr : b.book.nameToContact.lookup (some n) = some r)
    (hparts : ∀ t ∈ (b.book.contacts r).uid :: tokens, ';' ∉ t.toList) :
    (b.removeContact (removalId (b.book.contacts r).uid tokens)).book.KnownAs n
      ∧ b.Removes (b.removeContact (removalId (b.book.contacts r).uid tokens)) n r tokens := by
  obtain ⟨hname, huid⟩ := hknown r hr
  have hold := Book.masterUidsOf_of_lookup hr
  rw [hold] at hnd
  -- what there is once the tokens were looked through
  generalize hB : b.book.apply (.touch r (.removeTokens tokens)) = B
  have hBknown : B.KnownAs n := hB ▸ hknown.touch r _
  have hBr : B.nameToContact.lookup (some n) = some r := hB ▸ hr
  have hBuids : B.masterUidsOf n = ((b.book.contacts r).removeTokens tokens).1.masterUids :=
    hB ▸ Book.masterUidsOf_touch hr (.removeTokens tokens)
  have hBself : B.contacts r = ((b.book.contacts r).removeTokens tokens).1 :=
    hB ▸ Book.modify_contacts_self b.book r _
  have hBnodup : (B.masterUidsOf n).Nodup := hBuids ▸ Contact.nodup_removeTokens hnd tokens
  have hBmem : ∀ u, u ∈ B.masterUidsOf n ↔ u ∈ b.book.masterUidsOf n ∧ ¬ Contact.TakesAway tokens u := by
    intro u
    rw [hBuids, hold]
    exact Contact.mem_removeTokens hnd tokens u
  have hreally := Contact.removeTokens_really hnd tokens
  rw [← hold] at hreally
  -- what is left to do, with the contact as it is then
  have hrun : b.removeContact (removalId (b.book.contacts r).uid tokens)
      = if ((b.book.contacts r).removeTokens tokens).2 then
          (((b.flush.modify r fun c => (c.removeTokens tokens).1).reallyRemove r).dbUpdateContact r).2
        else (b.flush.modify r fun c => (c.removeTokens tokens).1).removeMasterUids r := by
    rw [removeContact_resolve, (resolve_removalId huid fun t ht =>
      hparts t (List.mem_cons_of_mem _ ht)).mpr (hparts _ List.mem_cons_self)]
    rfl
  generalize hb₁ : (b.flush.modify r fun c => (c.removeTokens tokens).1) = b₁ at hrun
  have hb₁book : b₁.book = B := by rw [← hb₁, ← hB]; rfl
  have hb₁asks : b₁.tpcl.runRemoveContact (b₁.book.contacts r) b₁.wire
      = b.tpcl.runRemoveContact (b.book.contacts r) b.wire := by
    have hhandle : (B.contacts r).handle = (b.book.contacts r).handle := by
      rw [hBself]
      exact (Contact.sameKeys_removeTokens _ tokens).2.2
    rw [hb₁book, ← hb₁]
    exact runRemoveContact_congr hhandle b.tpcl b.wire
  have hb₁known : b₁.book.KnownAs n := hb₁book ▸ hBknown
  have hb₁r : b₁.book.nameToContact.lookup (some n) = some r := hb₁book ▸ hBr
  by_cases hreal : ((b.book.contacts r).removeTokens tokens).2 = true
  · rw [if_pos hreal] at hrun
    obtain ⟨hknown', hsame, hgoes⟩ := reallyRemove_goesAway hb₁known hb₁r
    rw [hb₁book] at hsame
    rw [hrun]
    refine ⟨hknown', ?_, ?_, ?_, fun _ => ?_, fun h => absurd (hreally.mp hreal) h⟩
    · exact hsame.symm.imp And.left id
    · rcases hsame with hnone | ⟨-, huids⟩
      · show Book.masterUidsOf (b₁.reallyRemove r).book n |>.Nodup
        unfold Book.masterUidsOf
        rw [hnone]
        exact List.nodup_nil
      · exact huids ▸ hBnodup
    · intro hlook u
      rcases hsame with hnone | ⟨-, huids⟩
      · rw [show (b₁.reallyRemove r).book.nameToContact.lookup (some n) = some r from hlook] at hnone
        cases hnone
      · rw [← hBmem u, ← huids]
        rfl
    · rcases hgoes with hnone | ⟨hon, hask⟩ | hsched
      · exact .inl hnone
      · exact .inr (.inl ⟨by rw [← hb₁] at hon; exact hon, hb₁asks ▸ hask⟩)
      · refine .inr (.inr ?_)
        rw [hb₁book, hBself, (Contact.sameKeys_removeTokens _ tokens).1] at hsched
        exact hsched
  · rw [if_neg hreal] at hrun
    obtain ⟨hknown', huids, hstays⟩ := removeMasterUids_stays hb₁known hb₁r
    rw [hb₁book] at huids
    rw [hrun]
    refine ⟨hknown', .inl hstays.known, huids ▸ hBnodup, fun _ u => ?_,
      fun h => absurd (hreally.mpr h) hreal, fun _ => ⟨hstays.known, ?_, ?_, ?_⟩⟩
    · rw [huids]
      exact hBmem u
    · rw [hstays.toDelete, hb₁book, ← hB]
      rfl
    · -- the bit for a removal is neither set nor cleared by the tokens
      rw [hstays.pending, hb₁book, hBself, Bool.eq_iff_iff]
      exact ⟨(Contact.quiet_removeTokens _ tokens).delete, (Contact.persists_removeTokens _ tokens).delete⟩
    · rw [hstays.sent, ← hb₁]
      rfl

/-! ## Sequences of requests -/

/--
A request about the contact with a name: a create request that gets to the lookup with that name,
or a remove request with the uid of the contact.
-/
inductive RequestFor (n : String) (b : Backend) : Event → Prop where
  | create {ec : Contact.EVCard} {c : Contact} (hc : b.takenUp ec = some c)
      (hname : c.name = some n) : RequestFor n b (.createContact ec)
  | remove {r : Nat} {tokens : List String} (hr : b.book.nameToContact.lookup (some n) = some r)
      (htokens : ∀ t ∈ tokens, ';' ∉ t.toList) :
      RequestFor n b (.removeContact (removalId (b.book.contacts r).uid tokens))

/--
The vcard that creates the contact has no master UID twice, and no request is to remove anything
from a contact whose uid has a semicolon.
-/
def ReadAsMeant (n : String) (b : Backend) : Event → Prop
  | .createContact ec => b.book.nameToContact.lookup (some n) = none →
      (Contact.masterUidValues ec).Nodup
  | .removeContact _ => ∀ r, b.book.nameToContact.lookup (some n) = some r →
      ';' ∉ (b.book.contacts r).uid.toList
  | _ => True

/--
What a request does to the master UIDs of the contact with a name is an operation on a set
without repetitions: union for a create request, difference for a remove request.
-/
def SetOperation (n : String) (b b' : Backend) : Event → Prop
  | .createContact ec =>
    (b'.book.nameToContact.lookup (some n)).isSome = true ∧ (b'.book.masterUidsOf n).Nodup
      ∧ ∀ u, u ∈ b'.book.masterUidsOf n
        ↔ u ∈ b.book.masterUidsOf n ∨ u ∈ Contact.masterUidValues ec
  | .removeContact id => ∀ r tokens, b.book.nameToContact.lookup (some n) = some r →
    (∀ t ∈ tokens, ';' ∉ t.toList) → id = removalId (b.book.contacts r).uid tokens →
    b.Removes b' n r tokens
  | _ => True

/-- The contact with the name is found consistently, and has no master UID twice. -/
def OneSet (n : String) (b : Backend) : Prop :=
  b.book.KnownAs n ∧ (b.book.masterUidsOf n).Nodup

theorem request_step {n : String} {b b' : Backend} {e : Event} (h : OneSet n b)
    (hfor : RequestFor n b e) (hmeant : ReadAsMeant n b e) (hst : b.take e = some b') :
    OneSet n b' ∧ SetOperation n b b' e := by
  cases hfor with
  | create hc hname =>
    cases hst
    obtain ⟨hknown, hsome, hnd, hmem⟩ := createContact_unites h.1 h.2 hc hname hmeant
    exact ⟨⟨hknown, hnd⟩, hsome, hnd, hmem⟩
  | @remove r tokens hr htokens =>
    cases hst
    have hparts : ∀ {ts : List String}, (∀ t ∈ ts, ';' ∉ t.toList) →
        ∀ t ∈ (b.book.contacts r).uid :: ts, ';' ∉ t.toList := fun hts =>
      List.forall_mem_cons.mpr ⟨hmeant r hr, hts⟩
    obtain ⟨hknown, hremoves⟩ := removeContact_removes h.1 h.2 hr (hparts htokens)
    refine ⟨⟨hknown, hremoves.nodup⟩, fun x ts hx hts hid => ?_⟩
    obtain rfl : x = r := Option.some.inj (hx.symm.trans hr)
    rw [hid]
    exact (removeContact_removes h.1 h.2 hr (hparts hts)).2

/--
**When requests about a contact are set operations.** In every sequence of create and remove
requests about a contact, in which it is never created with a repeated master UID and its uid has
no semicolon, each request does to the master UIDs what the operation of its kind does to a set,
and each remove request removes the contact exactly where it asks for it.
-/
theorem requests_are_set_operations {n : String} {b₀ b : Backend} {is : List Input}
    (h₀ : OneSet n b₀)
    (h : machine.Guarded (fun b i => RequestFor n (b.load i.env) i.event
      ∧ ReadAsMeant n (b.load i.env) i.event) b₀ is b) :
    machine.Guarded (fun b i => ∃ b', machine.step b i = some b'
      ∧ SetOperation n (b.load i.env) b' i.event) b₀ is b := by
  refine h.mono_inv (I := OneSet n) (fun s i s' hs hok hst => ?_) (fun s i hs hok => ?_) h₀
  · exact (request_step (b := s.load i.env) hs hok.1 hok.2 hst).1
  · have hst : ∃ s', machine.step s i = some s' := by
      show ∃ s', (s.load i.env).take i.event = some s'
      have hfor := hok.1
      generalize s.load i.env = t at hfor
      generalize i.event = e at hfor
      cases hfor with
      | create _ _ => exact ⟨_, rfl⟩
      | remove _ _ => exact ⟨_, rfl⟩
    obtain ⟨s', hst⟩ := hst
    exact ⟨s', hst, (request_step (b := s.load i.env) hs hok.1 hok.2 hst).2⟩

/-- A vcard with an address and master UIDs. -/
def linked (uids : List String) : Contact.EVCard :=
  { name := "X-JABBER", values := ["bob"] }
    :: uids.map fun u => { name := "X-OSSO-MASTER-UID", values := [u] }

/-- A contact is created with two master UIDs and loses one of them. -/
theorem requests_about_bob :
    ∃ b, machine.Guarded (fun b i => ∃ b', machine.step b i = some b'
        ∧ SetOperation "bob" (b.load i.env) b' i.event) (boot "acct" "X-JABBER" {})
      [{ event := .createContact (linked ["12", "34"]) }, { event := .removeContact "acct-bob;12" }] b := by
  have hid : removalId ((((boot "acct" "X-JABBER" {}).load {}).createContact
      (linked ["12", "34"])).book.contacts 0).uid ["12"] = "acct-bob;12" := by decide +kernel
  have hlook : (((boot "acct" "X-JABBER" {}).load {}).createContact
      (linked ["12", "34"])).book.nameToContact.lookup (some "bob") = some 0 := by decide +kernel
  have huid : ((((boot "acct" "X-JABBER" {}).load {}).createContact
      (linked ["12", "34"])).book.contacts 0).uid = "acct-bob" := by decide +kernel
  refine ⟨_, requests_are_set_operations ⟨fun r hr => (by cases hr), List.nodup_nil⟩
    (.cons ⟨.create (c := _) rfl rfl, fun _ => ?_⟩ rfl (.cons ⟨?_, fun r hr => ?_⟩ rfl .nil))⟩
  · decide
  · show RequestFor "bob" _ (.removeContact "acct-bob;12")
    rw [← hid]
    exact .remove hlook (by decide)
  · obtain rfl : r = 0 := Option.some.inj (hr.symm.trans hlook)
    show ';' ∉ (((((boot "acct" "X-JABBER" {}).load {}).createContact
      (linked ["12", "34"])).book.contacts 0).uid).toList
    rw [huid]
    decide

/--
A vcard that has a master UID twice creates the contact with it twice, and a request to remove it
leaves it in the list, and the contact in the book.
-/
theorem repeated_master_uid_stays :
    ∃ b, machine.run (boot "acct" "X-JABBER" {})
          [{ event := .createContact (linked ["12", "12"]) }, { event := .removeContact "acct-bob;12" }]
        = some b
      ∧ b.book.masterUidsOf "bob" = [some "12"] ∧ b.book.contactsToDelete = ∅
      ∧ (b.book.contacts 0).pendingFlags.has scheduleDelete = false := by
  have hrun : ((machine.run (boot "acct" "X-JABBER" {})
      [{ event := .createContact (linked ["12", "12"]) },
       { event := .removeContact "acct-bob;12" }]).map fun b =>
        decide (b.book.masterUidsOf "bob" = [some "12"] ∧ b.book.contactsToDelete = ∅
          ∧ (b.book.contacts 0).pendingFlags.has scheduleDelete = false)) = some true := by
    decide +kernel
  obtain ⟨b, hb, hfacts⟩ := Option.map_eq_some_iff.mp hrun
  exact ⟨b, hb, of_decide_eq_true hfacts⟩

end Backend

end EdsTelepathy
