import EdsTelepathy.Proof.Queues
import EdsTelepathy.Proof.Requested

/-!
# Adding a contact that is known

`run_create_contact` reads the vcard into a temporary contact, and what that one has pending
is about a contact with no flags. Where the name is known, master UIDs and variants go over to
the known contact and the temporary one is dropped, together with what the vcard asked about
the lists.
-/

namespace EdsTelepathy

/-- The lists that `run_create_contact` asks for. -/
def rosterLists : List ListId := [.subscribe, .publish, .stored]

theorem Contact.memberships_submitted (c : Contact) (uid : String) {l : ListId} (hl : l ∈ rosterLists) :
    memberships (c.submitted uid).pendingFlags l = true := by
  have hasked : ∀ l ∈ rosterLists, memberships (subscribe ||| publish ||| stored) l = true := by decide
  show BitVec.has (_ ||| (subscribe ||| publish ||| stored)) (l.flag .current) = true
  rw [BitVec.or_has, show BitVec.has (subscribe ||| publish ||| stored) (l.flag .current) = true
    from hasked l hl, Bool.or_true]

namespace Backend

/-- Offline a vcard with a name is taken up: a new contact of that name comes to the lookup. -/
theorem runCreateContact_offline {b : Backend} (hoff : b.tpcl.status ≠ .online)
    {ec : Contact.EVCard} {n : String} (hn : n ≠ "")
    (hname : Contact.cardName b.vcardField ec none = some n) :
    ∃ c : Contact, c.name = some n ∧ c.Created ∧ c.flags = 0#32
      ∧ (∀ l ∈ rosterLists, memberships c.pendingFlags l = true)
      ∧ b.book.uidToContact.lookup c.uid = none ∧ b.runCreateContact ec = b.enterCreated c := by
  have hcard : (Contact.new.updateFromEcontact ec b.vcardField).2.name = some n := by
    rw [Contact.decoded_eq]
    exact hname
  have haccepted : (Contact.new.updateFromEcontact ec b.vcardField).1 = true := by
    show ((Contact.new.updateFromEcontact ec b.vcardField).2.name ≠ none
      && (Contact.new.updateFromEcontact ec b.vcardField).2.name ≠ some "") = true
    rw [hcard]
    simpa using hn
  have hcreated := Contact.created_submitted ec b.vcardField
  have hflags := (Contact.decoded_updateFromEcontact Contact.new ec b.vcardField).flags
  unfold runCreateContact
  generalize Contact.new.updateFromEcontact ec b.vcardField = card at hcard haccepted hcreated hflags
  obtain ⟨ok, c⟩ := card
  obtain rfl : ok = true := haccepted
  dsimp only at hcard hcreated hflags ⊢
  rw [if_neg hoff]
  exact ⟨c.submitted (generateUid b.pathSuffix b.book.uidToContact c.name), hcard, hcreated _,
    hflags, fun _ hl => c.memberships_submitted _ hl, lookup_generateUid .., rfl⟩

/-- Wishes about a contact that are put off until the account is online, and saved. -/
structure WishesQueued (b : Backend) (r : Nat) (ws : List (ListId × Bool)) : Prop where
  wanted : ∀ w ∈ ws, memberships (b.book.contacts r).pendingFlags w.1 = w.2
  pending : ws ≠ [] → (b.book.contacts r).pendingFlags.has scheduleUpdateFlags = true
  scheduled : ws ≠ [] → b.book.contactsToUpdate.lookup (b.book.contacts r).uid = some r
  saved : ws ≠ [] → ∃ row, b.out.db.contacts.lookup (b.book.contacts r).uid = some row
    ∧ row.pendingFlags = (b.book.contacts r).pendingFlags

/--
**When adding a known contact updates it.** Offline, what the vcard asks about the lists is
queued if and only if it asks for nothing that is not so already.
-/
theorem adding_updates {b : Backend} (hoff : b.tpcl.status ≠ .online) {ec : Contact.EVCard}
    {n : String} (hn : n ≠ "") (hname : Contact.cardName b.vcardField ec none = some n) {r : Nat}
    (hr : b.book.nameToContact.lookup (some n) = some r) :
    (b.runCreateContact ec).2.WishesQueued r ((b.book.contacts r).changes b.vcardField ec)
      ↔ (b.book.contacts r).changes b.vcardField ec = [] := by
  obtain ⟨c, hc, -, -, -, -, hrun⟩ := runCreateContact_offline hoff hn hname
  unfold enterCreated at hrun
  rw [hc, hr] at hrun
  constructor
  · intro h
    by_contra hws
    have hpending := h.pending hws
    have hcontact : (b.createExisting r c).book.contacts r
        = ((b.book.contacts r).mergeSubmitted c).updated
          ((b.modify r (fun e => e.mergeSubmitted c)).unblocks r) := by
      rw [createExisting_book]
      exact Book.modify_contacts_self ..
    rw [hrun, hcontact, Contact.updated_asks_nothing] at hpending
    cases hpending
  · intro hws
    rw [hws]
    exact ⟨fun w hw => (nomatch hw), fun h => absurd rfl h, fun h => absurd rfl h,
      fun h => absurd rfl h⟩

/-- The contact with the name, taken off no list and put on none. -/
def annAsShown : Contact.EVCard :=
  [{ name := "X-JABBER", values := ["ann"] },
    { name := "X-TELEPATHY-SUBSCRIBED", values := ["yes"] },
    { name := "X-TELEPATHY-PUBLISHED", values := ["no"] },
    { name := "X-TELEPATHY-BLOCKED", values := ["no"] }]

/-- The contact is to see the user as well. -/
def annPublished : Contact.EVCard :=
  [{ name := "X-JABBER", values := ["ann"] },
    { name := "X-TELEPATHY-SUBSCRIBED", values := ["yes"] },
    { name := "X-TELEPATHY-PUBLISHED", values := ["yes"] },
    { name := "X-TELEPATHY-BLOCKED", values := ["no"] }]

/-- The account goes offline with one contact, which the user sees. -/
def annOffline : List Input := firstSync ++ [{ event := .cl (.connectionStatusChanged none) }]

/-- Adding the contact as it is leaves nothing to queue. -/
theorem adding_updates_nothing :
    ∃ b, ReachableFrom "acct" "X-JABBER" {} b
      ∧ (b.runCreateContact annAsShown).2.WishesQueued 0
          ((b.book.contacts 0).changes b.vcardField annAsShown) := by
  have hrun : ((machine.run (boot "acct" "X-JABBER" {}) annOffline).map fun b =>
      decide (b.tpcl.status ≠ .online ∧ b.vcardField = "X-JABBER"
        ∧ b.book.nameToContact.lookup (some "ann") = some 0
        ∧ (b.book.contacts 0).changes b.vcardField annAsShown = [])) = some true := by
    decide +kernel
  obtain ⟨b, hb, hfacts⟩ := Option.map_eq_some_iff.mp hrun
  obtain ⟨hoff, hfield, hr, hws⟩ := of_decide_eq_true hfacts
  exact ⟨b, ⟨_, hb⟩, (adding_updates hoff (n := "ann") (by decide) (by rw [hfield]; decide) hr).mpr hws⟩

/--
Adding it with another answer does not queue that; taking the same vcard over as a modification
would.
-/
theorem adding_drops_wishes :
    ∃ b, ReachableFrom "acct" "X-JABBER" {} b ∧ b.tpcl.status = .offline
      ∧ (b.book.contacts 0).name = some "ann" ∧ (b.book.contacts 0).flags = subscribe
      ∧ (b.runCreateContact annPublished).1 = some 0
      ∧ ((b.runCreateContact annPublished).2.book.contacts 0).pendingFlags = 0
      ∧ (b.runCreateContact annPublished).2.book.contactsToUpdate = ∅
      ∧ ((b.modifyContact ({ name := "UID", values := ["acct-ann"] } :: annPublished)).book.contacts
          0).pendingFlags = subscribe ||| publish ||| scheduleUpdateFlags := by
  have hrun : ((machine.run (boot "acct" "X-JABBER" {}) annOffline).map fun b =>
      decide (b.tpcl.status = .offline
        ∧ (b.book.contacts 0).name = some "ann" ∧ (b.book.contacts 0).flags = subscribe
        ∧ (b.runCreateContact annPublished).1 = some 0
        ∧ ((b.runCreateContact annPublished).2.book.contacts 0).pendingFlags = 0
        ∧ (b.runCreateContact annPublished).2.book.contactsToUpdate = ∅
        ∧ ((b.modifyContact ({ name := "UID", values := ["acct-ann"] } :: annPublished)).book.contacts
          0).pendingFlags = subscribe ||| publish ||| scheduleUpdateFlags)) = some true := by
    decide +kernel
  obtain ⟨b, hb, hfacts⟩ := Option.map_eq_some_iff.mp hrun
  exact ⟨b, ⟨_, hb⟩, of_decide_eq_true hfacts⟩

end Backend

end EdsTelepathy
