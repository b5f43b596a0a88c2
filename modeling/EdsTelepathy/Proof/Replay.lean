import EdsTelepathy.Proof.Queues
import EdsTelepathy.Proof.Requested

/-!
# Replaying a modification that was made offline

A modification made offline leaves in the pending flags the lists the contact is wanted on,
computed from the flags of that moment, and phase 3 of a later synchronisation compares them
with what the roster says then. In between only another request about the same contact, or
its merging with another contact, changes what is wanted: no report of the server does.
-/

namespace EdsTelepathy

namespace Contact

/-- The two records want the contact on the same lists, and agree on what phase 3 updates. -/
structure SameRequest (c c' : Contact) : Prop where
  lists : ∀ l, memberships c'.pendingFlags l = memberships c.pendingFlags l
  update : c'.pendingFlags.has scheduleUpdateFlags = c.pendingFlags.has scheduleUpdateFlags
  unblock : c'.pendingFlags.has scheduleUnblock = c.pendingFlags.has scheduleUnblock

theorem SameRequest.refl (c : Contact) : SameRequest c c := ⟨fun _ => rfl, rfl, rfl⟩

theorem SameRequest.trans {c c' c'' : Contact} (h : SameRequest c c') (h' : SameRequest c' c'') :
    SameRequest c c'' :=
  ⟨fun l => (h'.lists l).trans (h.lists l), h'.update.trans h.update, h'.unblock.trans h.unblock⟩

theorem sameRequest_of_pending {c c' : Contact} (h : c'.pendingFlags = c.pendingFlags) :
    SameRequest c c' := ⟨fun _ => by rw [h], by rw [h], by rw [h]⟩

/-- Clearing another bit leaves the request alone. -/
theorem sameRequest_of_clear {c c' : Contact} {m : Flags}
    (h : c'.pendingFlags = c.pendingFlags &&& ~~~m) (hl : m &&& allListFlags = 0#32)
    (hu : m &&& scheduleUpdateFlags = 0#32) (hb : m &&& scheduleUnblock = 0#32) :
    SameRequest c c' := by
  refine ⟨fun l => ?_, ?_, ?_⟩ <;> rw [h]
  · refine BitVec.clear_has_of_disjoint (BitVec.disjoint_iff.mpr ?_)
    rw [BitVec.has_comm]
    exact BitVec.has_false_of_within (a := allListFlags)
      (by cases l <;> decide) (by rw [BitVec.and_comm]; exact hl)
  · exact BitVec.clear_has_of_disjoint hu
  · exact BitVec.clear_has_of_disjoint hb

theorem sameRequest_clearDelete (c : Contact) : SameRequest c c.clearDelete :=
  sameRequest_of_clear rfl (by decide) (by decide) (by decide)

theorem sameRequest_confirmed (cIn c : Contact) : SameRequest c (cIn.confirmed c) :=
  sameRequest_of_clear rfl (by decide) (by decide) (by decide)

theorem sameRequest_masterUidsStored (c : Contact) : SameRequest c c.masterUidsStored :=
  sameRequest_of_clear rfl (by decide) (by decide) (by decide)

theorem sameRequest_bookkeepingDone (c : Contact) : SameRequest c c.bookkeepingDone :=
  (sameRequest_masterUidsStored c).trans
    (sameRequest_of_clear (m := scheduleUpdateVariants) rfl (by decide) (by decide) (by decide))

end Contact

/--
The edit is no request about the contact at `r` and no work of phase 3 on it, and merges no
other contact into it.
-/
def Edit.LeavesRequest (r : Nat) (b : Book) : Edit → Prop
  | .touch _ .clearDelete => True
  | .touch x _ => x ≠ r
  | .modified x _ _ _ _ => x ≠ r
  | .scheduleRemoval x => x ≠ r
  | .addDone x c => x ≠ r ∧ b.nameToContact.lookup c.name ≠ some r
  | .addFailed x _ => x ≠ r
  | _ => True

instance (r : Nat) (b : Book) : DecidablePred (Edit.LeavesRequest r b)
  | .touch _ .clearDelete => .isTrue trivial
  | .touch x (.updated _) => inferInstanceAs (Decidable (x ≠ r))
  | .touch x (.submitted _ _) => inferInstanceAs (Decidable (x ≠ r))
  | .touch x (.removeTokens _) => inferInstanceAs (Decidable (x ≠ r))
  | .touch x .masterUidsStored => inferInstanceAs (Decidable (x ≠ r))
  | .touch x .nothingPending => inferInstanceAs (Decidable (x ≠ r))
  | .modified x _ _ _ _ => inferInstanceAs (Decidable (x ≠ r))
  | .scheduleRemoval x => inferInstanceAs (Decidable (x ≠ r))
  | .addDone x c => inferInstanceAs (Decidable (x ≠ r ∧ b.nameToContact.lookup c.name ≠ some r))
  | .addFailed x _ => inferInstanceAs (Decidable (x ≠ r))
  | .importContact _ => .isTrue trivial
  | .memberReported _ _ => .isTrue trivial
  | .contactAdded _ _ => .isTrue trivial
  | .mergeByHandle _ _ => .isTrue trivial
  | .forgetHandles => .isTrue trivial
  | .deleteContacts _ => .isTrue trivial
  | .createContact _ => .isTrue trivial
  | .removalDone _ => .isTrue trivial

namespace Book

/-- Only a request about the contact, work on it or a merge changes what is asked for it. -/
theorem sameRequest_apply {b : Book} {e : Edit} {r : Nat} (hr : r < b.next)
    (hok : e.LeavesRequest r b) : (b.contacts r).SameRequest ((b.apply e).contacts r) := by
  rcases contacts_apply e hr with heq | hw
  · rw [heq]
    exact .refl _
  generalize (b.apply e).contacts r = c' at hw
  cases hw with
  | seen _ => exact Contact.sameRequest_of_pending rfl
  | @confirmed _ cIn _ => exact Contact.sameRequest_confirmed cIn _
  | @copied f cIn _ => exact Contact.sameRequest_of_pending (f.sameEntry cIn _).pendingFlags
  | touched t =>
    cases t with
    | clearDelete => exact Contact.sameRequest_clearDelete _
    | _ => exact absurd rfl hok
  | modified ec vcardField sent stored => exact absurd rfl hok
  | scheduled => exact absurd rfl hok
  | added c => exact absurd rfl hok.1
  | mergedInto x hname => exact absurd hname hok.2
  | failed c => exact absurd rfl hok
  | removed => exact Contact.sameRequest_clearDelete _

/-- What a modification leaves that sends nothing. -/
theorem sameRequest_modified (b : Book) (r : Nat) (ec : Contact.EVCard) (vcardField : String)
    (stored : Bool) :
    (((b.contacts r).updateFromEcontact ec vcardField).2).SameRequest
      ((b.modified r ec vcardField false stored).contacts r) := by
  have hself : (b.modify r fun c => (c.updateFromEcontact ec vcardField).2).contacts r
      = ((b.contacts r).updateFromEcontact ec vcardField).2 := modify_contacts_self b r _
  have hscheduled : ∀ b' : Book, (b'.scheduleUpdate r).contacts = b'.contacts := fun _ => rfl
  unfold modified
  dsimp only
  rw [if_neg Bool.false_ne_true]
  split
  · split
    · rw [modify_contacts_self, hscheduled, hself]
      exact Contact.sameRequest_bookkeepingDone _
    · rw [hscheduled, hself]
      exact .refl _
  · rw [hself]
    exact .refl _

end Book

namespace Backend

/-- What a modification made offline leaves of the contact's request. -/
theorem sameRequest_modifyContact {b : Backend} (hoff : b.tpcl.status = .offline)
    {ec : Contact.EVCard} {r : Nat}
    (hr : (Contact.cardUid ec).bind b.book.uidToContact.lookup = some r) :
    (((b.book.contacts r).updateFromEcontact ec b.vcardField).2).SameRequest
      ((b.modifyContact ec).book.contacts r) := by
  have hsent : (b.flush.modify r fun c => (c.updateFromEcontact ec b.vcardField).2).sendsFlags r
      = false := by
    have hoff' : (b.flush.modify r fun c => (c.updateFromEcontact ec b.vcardField).2).tpcl.status
        = .offline := hoff
    unfold sendsFlags
    rw [hoff']
    rfl
  rw [modifyContact_book]
  unfold modifyEdits
  rw [hr]
  dsimp only
  rw [hsent]
  exact Book.sameRequest_modified b.book r ec b.vcardField _

/-- What `run_update_contact` sends for a contact that is not to be unblocked. -/
theorem runUpdateContact_sent {b : Backend} {r : Nat}
    (h : (b.book.contacts r).pendingFlags.has scheduleUnblock = false) :
    (b.runUpdateContact r).2.wire
      = if (b.book.contacts r).pendingFlags.has scheduleUpdateFlags then
          (b.tpcl.runUpdateFlags (b.book.contacts r) b.wire).2
        else b.wire := by
  unfold runUpdateContact
  dsimp only
  rw [h]
  rfl

/-- A request for the contact with this handle asks for a change on the list. -/
def Asks (calls : List Request) (h : Nat) (l : ListId) : Prop :=
  .addMembers l [h] ∈ calls ∨ .removeMembers l [h] ∈ calls

/--
The lists the contact is wanted on, and whether an update is pending, from the modification to
the next request about the contact.
-/
theorem wanted_until {pathSuffix vcardField : String} {db : Db} {b b' : Backend}
    {ec : Contact.EVCard} {is : List Input} {env₀ : Env} {r : Nat}
    (hcache : Cache db) (hb : ReachableFrom pathSuffix vcardField db b)
    (hoff : b.tpcl.status = .offline)
    (hr : (Contact.cardUid ec).bind b.book.uidToContact.lookup = some r)
    (hyes : ∀ w ∈ Contact.wishes b.vcardField ec, w.2 = true)
    (hrun : machine.Guarded (EditsMeet (Edit.LeavesRequest r)) ((b.load env₀).modifyContact ec) is b') :
    (∀ l, memberships (b'.book.contacts r).pendingFlags l
        = Wish.wanted (memberships (b.book.contacts r).flags)
            ((b.book.contacts r).changes b.vcardField ec) l)
      ∧ ((b'.book.contacts r).pendingFlags.has scheduleUpdateFlags = true
        ↔ (b.book.contacts r).changes b.vcardField ec ≠ [])
      ∧ (b'.book.contacts r).pendingFlags.has scheduleUnblock = false := by
  obtain ⟨k, -, hk⟩ := Option.bind_eq_some_iff.mp hr
  have hsane := (sane_reachable hb).load env₀
  have hflags := flagsWithin_reachable hcache hb r (hsane.allocated.uid k r hk)
  have hsane' : Sane ((b.load env₀).modifyContact ec) :=
    sane_take (e := .modifyContact ec) hsane rfl
  -- what was wanted when the vcard was submitted is wanted still
  have hkept : Contact.SameRequest (((b.load env₀).modifyContact ec).book.contacts r)
      (b'.book.contacts r) := by
    have hinv := guarded_book_inv (I := fun book : Book => r < book.next
        ∧ (((b.load env₀).modifyContact ec).book.contacts r).SameRequest (book.contacts r))
      (fun book ed hI _ _ hok _ => ⟨Nat.lt_of_lt_of_le hI.1 (Book.next_apply book ed),
        hI.2.trans (Book.sameRequest_apply hI.1 hok)⟩) hrun hsane' ⟨?_, .refl _⟩
    · exact hinv.2.2
    · rw [modifyContact_book]
      exact Nat.lt_of_lt_of_le (hsane.allocated.uid k r hk)
        (foldl_inv (I := fun book : Book => b.book.next ≤ book.next)
          (fun book e h => h.trans (Book.next_apply book e)) _ (Nat.le_refl _))
  have hreq : Contact.SameRequest ((b.book.contacts r).updateFromEcontact ec b.vcardField).2
      (b'.book.contacts r) := (sameRequest_modifyContact (b := b.load env₀) hoff hr).trans hkept
  refine ⟨fun l => ?_, ?_, ?_⟩
  · rw [hreq.lists, Contact.memberships_decoded]
    exact Contact.settle_joining _ (fun w hw => hyes w (Wish.mem_changes.mp hw).1) l
  · rw [hreq.update]
    exact Contact.has_updateFlags_decoded (BitVec.has_false_of_within hflags (by decide)) ec _
  · rw [hreq.unblock]
    by_contra hc
    have hset := (Contact.decoded_updateFromEcontact (b.book.contacts r) ec b.vcardField).pending
      scheduleUnblock (by decide) (by simpa using hc)
    rw [BitVec.has_false_of_within hflags (by decide)] at hset
    cases hset

/-- Every call is answered. -/
def allAnswered : Env := { replies := List.replicate 10 {} }

theorem allAnswered_up : Wire.Up 10 { replies := allAnswered.replies } := ⟨by decide, by decide⟩

/--
**What the replay of an offline modification asks for.** Whatever the bus answers, phase 3 asks
for changes on the lists that the vcard changed only, if and only if the vcard changed none, or
on every other list that has a channel the roster now says what it said when the vcard was
submitted.
-/
theorem replay_requests {pathSuffix vcardField : String} {db : Db} {b b' : Backend}
    {ec : Contact.EVCard} {is : List Input} {env₀ : Env} {r x : Nat}
    (hcache : Cache db) (hb : ReachableFrom pathSuffix vcardField db b)
    (hoff : b.tpcl.status = .offline)
    (hr : (Contact.cardUid ec).bind b.book.uidToContact.lookup = some r)
    (hyes : ∀ w ∈ Contact.wishes b.vcardField ec, w.2 = true)
    (hrun : machine.Guarded (EditsMeet (Edit.LeavesRequest r)) ((b.load env₀).modifyContact ec) is b')
    (hcl : b'.tpcl.isConnected = true) (hx : b'.tpcl.Copy (b'.book.contacts r) x) :
    (∀ env l, Asks ((b'.load env).runUpdateContact r).2.wire.sent (b'.book.contacts r).handle l →
        ∃ v, (l, v) ∈ (b.book.contacts r).changes b.vcardField ec)
      ↔ (b.book.contacts r).changes b.vcardField ec = []
        ∨ ∀ l, b'.tpcl.channels l = true →
          (∀ v, (l, v) ∉ (b.book.contacts r).changes b.vcardField ec) →
          memberships (b.book.contacts r).flags l = memberships (b'.tpcl.contacts x).flags l := by
  obtain ⟨hlists, hupdate, hunblock⟩ := wanted_until hcache hb hoff hr hyes hrun
  have hwire : ∀ env, ((b'.load env).runUpdateContact r).2.wire
      = if (b'.book.contacts r).pendingFlags.has scheduleUpdateFlags then
          (b'.tpcl.runUpdateFlags (b'.book.contacts r) (b'.load env).wire).2
        else (b'.load env).wire := fun env => runUpdateContact_sent hunblock
  by_cases hws : (b.book.contacts r).changes b.vcardField ec = []
  · refine ⟨fun _ => .inl hws, fun _ env l hl => ?_⟩
    rw [hwire env, if_neg fun h => hupdate.mp h hws] at hl
    rcases hl with hl | hl <;> cases hl
  · have hasks : ∀ l, Asks (Cl.flagRequests b'.tpcl.channels
          (memberships (b'.tpcl.contacts x).flags) (memberships (b'.book.contacts r).pendingFlags)
          (b'.book.contacts r).handle) (b'.book.contacts r).handle l
        ↔ b'.tpcl.channels l = true
          ∧ (Wish.joins (memberships (b'.tpcl.contacts x).flags)
              (memberships (b'.book.contacts r).pendingFlags) l = true
            ∨ Wish.leaves (memberships (b'.tpcl.contacts x).flags)
              (memberships (b'.book.contacts r).pendingFlags) l = true) := fun l => by
      rw [and_or_left]
      exact or_congr Cl.addMembers_mem Cl.removeMembers_mem
    have hreplay := @Wish.replay_iff _ _ (memberships (b.book.contacts r).flags)
      (memberships (b'.tpcl.contacts x).flags) ((b.book.contacts r).changes b.vcardField ec)
      (fun l => b'.tpcl.channels l = true)
    have hchanges : Wish.changes (memberships (b.book.contacts r).flags)
        ((b.book.contacts r).changes b.vcardField ec)
          = (b.book.contacts r).changes b.vcardField ec := Wish.changes_changes _ _
    rw [hchanges, ← funext hlists] at hreplay
    rw [or_iff_right hws, ← hreplay]
    constructor
    · intro h l hch hstep
      -- where every call is answered, every step is asked for
      obtain ⟨calls, hsent, -, hall⟩ := Cl.runUpdateFlags_sent hcl hx (b'.load allAnswered).wire
      rw [hall allAnswered_up] at hsent
      refine h allAnswered l ?_
      rw [hwire allAnswered, if_pos (hupdate.mpr hws), hsent]
      exact (hasks l).mpr ⟨hch, hstep⟩
    · intro h env l hl
      -- in any case what is asked for is such a step
      obtain ⟨calls, hsent, hpre, -⟩ := Cl.runUpdateFlags_sent hcl hx (b'.load env).wire
      rw [hwire env, if_pos (hupdate.mpr hws), hsent] at hl
      obtain ⟨hch, hstep⟩ := (hasks l).mp (hl.imp (fun hm => hpre.subset hm) (fun hm => hpre.subset hm))
      exact h l hch hstep

/-- The account goes offline with one contact, which the user sees, on the roster. -/
def offlineWithAnn : List Input :=
  firstSync ++ [{ event := .cl (.connectionStatusChanged none) }, { event := .phase3 [] }]

/-- The contact is to see the user as well. -/
def publishToAnn : Contact.EVCard :=
  [{ name := "UID", values := ["acct-ann"] }, { name := "X-TELEPATHY-PUBLISHED", values := ["yes"] }]

/-- Another connection comes up with the channels of all lists, of which two may have members. -/
def resync (subscribed stored : List Nat) : List Input :=
  { event := .cl (.connectionStatusChanged (some 2)) }
    :: List.replicate 12 { event := .cl (.done 4 true) }
    ++ [{ event := .cl (.allMembers 8 (some { current := subscribed })) },
        { event := .cl (.allMembers 8 (some {})) },
        { event := .cl (.allMembers 8 (some {})) },
        { event := .cl (.allMembers 8 (some {})) },
        { event := .cl (.allMembers 8 (some { current := stored })) },
        { event := .cl (.contacts 8 (some [{ handle := 7, identifier := "ann" }])) },
        { event := .phase2 },
        { event := .phase3 [0] }]

/-- The contact is on the same list still, and is added to the one that the vcard asked for. -/
theorem replay_requests_kept :
    ∃ b b', ReachableFrom "acct" "X-JABBER" {} b
      ∧ machine.Guarded (EditsMeet (Edit.LeavesRequest 0)) ((b.load {}).modifyContact publishToAnn)
          (resync [7] []) b'
      ∧ ∀ env l, Asks ((b'.load env).runUpdateContact 0).2.wire.sent
          (b'.book.contacts 0).handle l → l = .publish := by
  have hrun : ((machine.run (boot "acct" "X-JABBER" {}) offlineWithAnn).bind fun b =>
      ((machine.runChecked (fun b i => decide (EditsMeet (Edit.LeavesRequest 0) b i))
        ((b.load {}).modifyContact publishToAnn) (resync [7] [])).map fun b' =>
          decide ((b.tpcl.status = .offline ∧ b.vcardField = "X-JABBER"
            ∧ (Contact.cardUid publishToAnn).bind b.book.uidToContact.lookup = some 0
            ∧ (b.book.contacts 0).flags = subscribe)
          ∧ b'.tpcl.isConnected = true
          ∧ (b'.book.contacts 0).handle = 7 ∧ b'.tpcl.lookup 7 = some 1
          ∧ (b'.tpcl.contacts 1).handle = 7 ∧ (b'.tpcl.contacts 1).flags = subscribe))) = some true := by
    decide +kernel
  obtain ⟨b, hb, hrest⟩ := Option.bind_eq_some_iff.mp hrun
  obtain ⟨b', hb', hfacts⟩ := Option.map_eq_some_iff.mp hrest
  obtain ⟨⟨hoff, hfield, hr, hflags⟩, hconn, hh, hx, hsame, hF⟩ := of_decide_eq_true hfacts
  have hg : machine.Guarded (EditsMeet (Edit.LeavesRequest 0)) _ _ b' :=
    Machine.guarded_of_runChecked (fun _ _ hc => of_decide_eq_true hc) hb'
  have hwish : Contact.wishes b.vcardField publishToAnn = [(.publish, true)] := by
    rw [hfield]; decide
  have hchanges : (b.book.contacts 0).changes b.vcardField publishToAnn = [(.publish, true)] := by
    unfold Contact.changes
    rw [hwish, hflags]; decide
  have hreplay := replay_requests .empty ⟨_, hb⟩ hoff hr
    (by rw [hwish]; decide) hg hconn
    ⟨by rw [hh]; decide, by rw [hh]; exact hx, by rw [hh]; exact hsame⟩
  refine ⟨b, b', ⟨_, hb⟩, hg, fun env l hl => ?_⟩
  obtain ⟨v, hv⟩ := hreplay.mpr (.inr fun l _ _ => by rw [hflags, hF]) env l hl
  rw [hchanges, List.mem_singleton] at hv
  exact (Prod.mk.inj hv).1

/--
Another client took the contact off the subscribe list and put it on the stored one. Phase 3
asks for both to be undone, though the vcard was about the publish list.
-/
theorem replay_requests_undone :
    ∃ b', machine.Reaches (boot "acct" "X-JABBER" {}) b'
      ∧ machine.run (boot "acct" "X-JABBER" {})
          (offlineWithAnn ++ { event := .modifyContact publishToAnn } :: resync [] [7]) = some b'
      ∧ Request.addMembers .subscribe [7] ∈ ((b'.load allAnswered).runUpdateContact 0).2.wire.sent
      ∧ Request.removeMembers .stored [7]
          ∈ ((b'.load allAnswered).runUpdateContact 0).2.wire.sent := by
  have hrun : ((machine.run (boot "acct" "X-JABBER" {})
      (offlineWithAnn ++ { event := .modifyContact publishToAnn } :: resync [] [7])).map fun b' =>
        decide (Request.addMembers .subscribe [7]
            ∈ ((b'.load allAnswered).runUpdateContact 0).2.wire.sent
          ∧ Request.removeMembers .stored [7]
            ∈ ((b'.load allAnswered).runUpdateContact 0).2.wire.sent)) = some true := by
    decide +kernel
  obtain ⟨b', hb', hfacts⟩ := Option.map_eq_some_iff.mp hrun
  exact ⟨b', ⟨_, hb'⟩, hb', of_decide_eq_true hfacts⟩

end Backend

end EdsTelepathy
