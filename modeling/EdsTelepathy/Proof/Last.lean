import EdsTelepathy.Proof.Outlives

/-!
# The last request offline

While the account is offline, requests about one contact only prepare the next synchronisation.
The last of them is to win: a contact that was created last is shown and stays, and one that was
removed last is hidden and not added again, in this process or in the next one.

What is in the way is what earlier requests have left behind. A creation leaves a pending removal
where it is. And an object that has left the book, because the server reported the contact gone,
may still wait in a work table under its own uid: the synchronisation deals with it as if nothing
had happened, whatever has become of the contact since.
-/

namespace EdsTelepathy

namespace Backend

/-! ## Requests about one contact -/

/-- The request is to create the contact with a name, or to remove whoever has it by its uid. -/
def Event.About (n : String) (b : Backend) : Event → Prop
  | .createContact ec => n ≠ "" ∧ Contact.cardName b.vcardField ec none = some n
  | .removeContact id => ';' ∉ id.toList ∧
      b.book.uidToContact.lookup id = b.book.nameToContact.lookup (some n)
  | _ => False

instance (n : String) (b : Backend) : DecidablePred (Event.About n b)
  | .createContact ec =>
    inferInstanceAs (Decidable (n ≠ "" ∧ Contact.cardName b.vcardField ec none = some n))
  | .removeContact id => inferInstanceAs (Decidable (';' ∉ id.toList ∧
      b.book.uidToContact.lookup id = b.book.nameToContact.lookup (some n)))
  | .cl _ | .phase0 | .phase2 | .phase3 _ | .phase3Next _ | .modifyContact _ | .updateContactsIdle
  | .startView _ | .stopView _ | .inactivity _ | .avatarDataSaved _ _ | .getContact => .isFalse id

/-- A request about one contact, made while the account is offline. -/
def OfflineRequest (n : String) (b : Backend) (i : Input) : Prop :=
  b.tpcl.status ≠ .online ∧ i.event.About n b

instance (n : String) (b : Backend) : DecidablePred (OfflineRequest n b) := fun _ =>
  inferInstanceAs (Decidable (_ ∧ _))

/--
Where a contact is to be created that is known, it is the contact it is known as, it is not to be
removed, and it is not hidden for being on the publish list alone.
-/
def Welcome (n : String) (b : Backend) : Event → Prop
  | .createContact _ => b.book.KnownAs n ∧ ∀ r ∈ b.book.nameToContact.lookup (some n),
      (b.book.contacts r).pendingFlags.has scheduleDelete = false
        ∧ (b.book.contacts r).flags &&& ~~~deny &&& allListFlags ≠ publish
  | _ => True

/--
Nothing of that name is left over in the work tables that the next synchronisation would follow
instead, and the cache is imported, so that nothing more gets there.
-/
def Unopposed (n : String) (b : Backend) (e : Event) : Prop :=
  b.phase0Queued = false ∧ ∀ x < b.book.next, (b.book.contacts x).name = some n →
    match e with
    | .createContact _ => ¬ b.book.Waits b.tasks .delete x
        ∧ (b.book.nameToContact.lookup (some n) ≠ some x → b.Meets Contact.LosesNothing x)
    | .removeContact id =>
      b.book.uidToContact.lookup id ≠ some x → b.Meets Contact.AddsNothing x
    | _ => True

/-- The object has the name, or is yet to come: it is no other contact's. -/
def MayBe (n : String) (b : Book) (x : Nat) : Prop := x < b.next → (b.contacts x).name = some n

/-- The contact is in the book under its name and its uid, and it is shown. -/
structure Shown (n : String) (b : Backend) (r : Nat) : Prop where
  known : b.book.nameToContact.lookup (some n) = some r
  named : (b.book.contacts r).name = some n
  listed : b.book.uidToContact.lookup (b.book.contacts r).uid = some r
  visible : (b.book.contacts r).isVisible = true
  kept : (b.book.contacts r).pendingFlags.has scheduleDelete = false

/-- The contact is shown, and until the next request the server is not asked to remove it. -/
structure Wanted (n : String) (b : Backend) (r : Nat) : Prop extends Shown n b r where
  spared : b.NeverAsks Request.Removes (MayBe n b.book)

/-- The contact is hidden or gone, and until the next request the server is not asked to add it. -/
structure Unwanted (n : String) (b : Backend) (id : String) (mine : Nat → Prop) : Prop where
  hidden : ∀ r, b.book.uidToContact.lookup id = some r ∨ b.book.nameToContact.lookup (some n) = some r →
    b.book.uidToContact.lookup (b.book.contacts r).uid = some r →
    (b.book.contacts r).isVisible = false
  spared : b.NeverAsks Request.Adds mine

/-- What the request asked for is so. -/
def Wins (n : String) (b b' : Backend) : Event → Prop
  | .createContact _ => ∃ r, Wanted n b' r
  | .removeContact id =>
    Unwanted n b' id fun x => MayBe n b'.book x ∨ b.book.uidToContact.lookup id = some x
  | _ => True

/-- It is so in the process that is started from the database, however this one ends. -/
def WinsAnew (n : String) (b' : Backend) : Event → Prop
  | .createContact _ => ∃ r, b'.book.nameToContact.lookup (some n) = some r
      ∧ b'.AfterEnd fun b₁ =>
        ∃ r₁, b₁.book.uidToContact.lookup (b'.book.contacts r).uid = some r₁ ∧ Wanted n b₁ r₁
  | .removeContact id => b'.AfterEnd fun b₁ => Unwanted n b₁ id (MayBe n b₁.book)
  | _ => True

/-! ## What one request does -/

theorem tasks_request {b b' : Backend} {n : String} {e : Event} (he : e.About n b)
    (hs : b.take e = some b') : b'.tasks = b.tasks := by
  have hagenda := take_agenda hs
  unfold tasks
  generalize b'.phase3 = ps at hagenda
  cases hagenda with
  | same _ => rfl
  | begins _ => exact he.elim
  | advances _ _ => exact he.elim

/-- Offline a create request is about the contact with the name, or a new one. -/
theorem createContact_offline {b : Backend} (hoff : b.tpcl.status ≠ .online) {ec : Contact.EVCard}
    {n : String} (hn : n ≠ "") (hname : Contact.cardName b.vcardField ec none = some n) :
    ∃ c : Contact, c.name = some n ∧ c.Created ∧ c.flags = 0#32
      ∧ (∀ l ∈ rosterLists, memberships c.pendingFlags l = true)
      ∧ b.book.uidToContact.lookup c.uid = none
      ∧ b.createContact ec = match b.book.nameToContact.lookup (some n) with
        | some r => b.flush.createExisting r c
        | none => (b.flush.createNew c).2 := by
  obtain ⟨c, hc, hcreated, hflags, hlists, huid, hrun⟩ :=
    runCreateContact_offline (b := b.flush) hoff hn hname
  refine ⟨c, hc, hcreated, hflags, hlists, huid, ?_⟩
  have hbook : b.flush.book = b.book := rfl
  unfold createContact
  rw [hrun]
  unfold enterCreated
  rw [hc, hbook]
  cases b.book.nameToContact.lookup (some n) <;> rfl

theorem flush_noError {b : Backend} (hno : b.out.NoError) : b.flush.out.NoError :=
  Outbox.noError_flush _ (Outbox.noError_notifyRemote hno _)

theorem knownAs_request {n : String} {b b' : Backend} {i : Input} (hknown : b.book.KnownAs n)
    (hreq : OfflineRequest n b i) (hs : b.step i = some b') : b'.book.KnownAs n := by
  obtain ⟨event, env⟩ := i
  obtain ⟨hoff, habout⟩ := hreq
  cases event with
  | createContact ec =>
    obtain ⟨c, hc, -, -, -, -, hrun⟩ :=
      createContact_offline (b := b.load env) hoff habout.1 habout.2
    obtain rfl := Option.some.inj hs
    rw [hrun]
    have hbook : (b.load env).book = b.book := rfl
    rw [hbook]
    cases hr : b.book.nameToContact.lookup (some n) with
    | some r =>
      dsimp only
      rw [createExisting_book]
      exact hknown.touch r _
    | none =>
      dsimp only
      rw [createNew_book]
      exact (Book.KnownAs.createContact hc).1
  | removeContact id =>
    obtain rfl := Option.some.inj hs
    cases hr : b.book.uidToContact.lookup id with
    | none =>
      rw [removeContact_unknown (b := b.load env) habout.1 hr]
      exact hknown
    | some r =>
      rw [removeContact_plain (b := b.load env) habout.1 hr]
      exact (reallyRemove_goesAway (b := (b.load env).flush) hknown (habout.2.symm.trans hr)).1
  | _ => exact habout.elim

/-- **An offline request about a contact records it**, where no statement of it fails. -/
theorem recorded_request {n : String} {b b' : Backend} {i : Input} (hknown : b.book.KnownAs n)
    (h : Recorded n b) (hno : ∀ ok ∈ i.env.sql, ok = true) (hreq : OfflineRequest n b i)
    (hs : b.step i = some b') : Recorded n b' := by
  obtain ⟨event, env⟩ := i
  obtain ⟨hoff, habout⟩ := hreq
  have hflushed : Recorded n (b.load env).flush :=
    Recorded.flush (b := b.load env) hknown ⟨h.row, h.sole, h.known, h.queue⟩
  have hno' : (b.load env).flush.out.NoError := flush_noError (b := b.load env) hno
  have hempty := (still_flush (b.load env)).queued
  cases event with
  | createContact ec =>
    obtain ⟨c, hc, hcreated, -, -, huid, hrun⟩ :=
      createContact_offline (b := b.load env) hoff habout.1 habout.2
    obtain rfl := Option.some.inj hs
    rw [hrun]
    have hbook : (b.load env).book = b.book := rfl
    rw [hbook]
    cases hr : b.book.nameToContact.lookup (some n) with
    | some r => exact recorded_createExisting hflushed hr (hknown r hr).1 hno' hempty c
    | none => exact recorded_createNew hflushed hr hc hcreated.add huid hno' hempty
  | removeContact id =>
    obtain rfl := Option.some.inj hs
    cases hr : b.book.uidToContact.lookup id with
    | none =>
      rw [removeContact_unknown (b := b.load env) habout.1 hr]
      exact hflushed
    | some r =>
      rw [removeContact_plain (b := b.load env) habout.1 hr]
      have hname := habout.2.symm.trans hr
      exact recorded_reallyRemove hflushed hoff hname (hknown r hname).1 hno' hempty
  | _ => exact habout.elim

/-- Whoever waits after the request has waited before, where the work table is as it was. -/
theorem waits_request {n : String} {b b' : Backend} {e : Event} (he : e.About n b)
    (hs : b.take e = some b') {stage : Phase3Stage} {x : Nat}
    (hwork : workTable b'.book stage = workTable b.book stage)
    (hw : b'.book.Waits b'.tasks stage x) : b.book.Waits b.tasks stage x := by
  rw [tasks_request he hs] at hw
  rcases hw with ⟨k, hk⟩ | hin
  · exact .inl ⟨k, by rw [← hwork]; exact hk⟩
  · exact .inr hin

/-! ## A creation -/

/-- The contact is in the book, asked for as it was before or for all its lists. -/
structure TakenIn (n : String) (b b' : Book) (r : Nat) : Prop where
  known : b'.nameToContact.lookup (some n) = some r
  found : b.nameToContact.lookup (some n) = some r ∨ b.nameToContact.lookup (some n) = none ∧ r = b.next
  steady : (b'.contacts r).Steady
  other : ∀ x, x ≠ r → b'.contacts x = b.contacts x
  next : b.next ≤ b'.next
  work : ∀ stage, stage ≠ .add → workTable b' stage = workTable b stage

/-- A creation that nothing is in the way of shows the contact. -/
theorem created_visible {e c : Contact} (hkept : e.pendingFlags.has scheduleDelete = false)
    (hlists : e.flags &&& ~~~deny &&& allListFlags ≠ publish) (unblocked : Bool) :
    ((e.mergeSubmitted c).updated unblocked).isVisible = true := by
  rw [Contact.isVisible_iff, Contact.resubmitted_delete e c unblocked]
  refine ⟨hkept, ?_⟩
  rcases Contact.resubmitted_flags e c unblocked with hsame | ⟨hcleared, -⟩
  · rw [hsame]
    intro heq
    refine hlists ?_
    rw [BitVec.and_assoc, BitVec.and_comm (~~~deny), ← BitVec.and_assoc, heq]
    decide
  · rw [hcleared]
    exact hlists

/-- What a create request does to the contact: it is taken in, and shown where it is welcome. -/
theorem takenIn_request {n : String} {b b' : Backend} {ec : Contact.EVCard} {env : Env}
    (hreq : OfflineRequest n b { event := .createContact ec, env := env })
    (hwelcome : Welcome n b (.createContact ec))
    (hs : b.step { event := .createContact ec, env := env } = some b') :
    ∃ r, TakenIn n b.book b'.book r ∧ Shown n b' r := by
  have hknown' : b'.book.KnownAs n := knownAs_request hwelcome.1 hreq hs
  obtain ⟨c, hc, hcreated, hflags, hlists, -, hrun⟩ :=
    createContact_offline (b := b.load env) hreq.1 hreq.2.1 hreq.2.2
  obtain rfl := Option.some.inj hs
  have hshown : ∀ {r}, ((b.load env).createContact ec).book.nameToContact.lookup (some n) = some r →
      (((b.load env).createContact ec).book.contacts r).isVisible = true →
      Shown n ((b.load env).createContact ec) r := fun hr hvisible =>
    ⟨hr, (hknown' _ hr).1, (hknown' _ hr).2, hvisible, (Contact.isVisible_iff.mp hvisible).1⟩
  have hbook : (b.load env).book = b.book := rfl
  rw [hbook] at hrun
  cases hr : b.book.nameToContact.lookup (some n) with
  | some r =>
    rw [hr] at hrun
    dsimp only at hrun
    -- the contact of that name is updated, at the address it has
    have hafter := (congrArg Backend.book hrun).trans (createExisting_book (b.load env).flush r c)
    obtain ⟨hkept, hlisted⟩ := hwelcome.2 r hr
    have hself : ((b.load env).createContact ec).book.contacts r
        = ((b.book.contacts r).mergeSubmitted c).updated
          (((b.load env).flush.modify r fun e => e.mergeSubmitted c).unblocks r) := by
      rw [hafter]
      exact Book.modify_contacts_self ..
    have hr' : ((b.load env).createContact ec).book.nameToContact.lookup (some n) = some r := by
      rw [hafter]
      exact hr
    refine ⟨r, ⟨hr', .inl hr, ?_, fun x hx => ?_, ?_, fun stage _ => ?_⟩, hshown hr' ?_⟩
    · rw [hself]
      exact fun hu => absurd ((Contact.updated_asks_nothing _ _).symm.trans hu) Bool.false_ne_true
    · rw [hafter]
      exact Book.modify_contacts_of_ne hx
    · rw [hafter]
      exact Nat.le_refl _
    · rw [hafter]
      cases stage <;> rfl
    · rw [hself]
      exact created_visible hkept hlisted _
  | none =>
    rw [hr] at hrun
    dsimp only at hrun
    have hcreate : ((b.load env).createContact ec).book = b.book.createContact c :=
      (congrArg Backend.book hrun).trans (createNew_book (b.load env).flush c)
    rw [Book.createContact_eq] at hcreate
    have hself : ((b.load env).createContact ec).book.contacts b.book.next = c := by
      rw [hcreate]
      exact Book.alloc_contacts_next b.book c
    have hr' : ((b.load env).createContact ec).book.nameToContact.lookup (some n)
        = some b.book.next := by
      rw [hcreate, hc]
      exact AList.lookup_insert _
    refine ⟨b.book.next, ⟨hr', .inr ⟨hr, rfl⟩, ?_, fun x hx => ?_, ?_, fun stage hstage => ?_⟩,
      hshown hr' ?_⟩
    · rw [hself]
      exact fun _ => hlists
    · rw [hcreate]
      exact Book.alloc_contacts_of_ne hx
    · rw [hcreate]
      exact Nat.le_succ _
    · rw [hcreate]
      cases stage with
      | update => rfl
      | add => exact absurd rfl hstage
      | delete => rfl
    · -- a new contact is on no list yet, so it is visible
      rw [hself, Contact.isVisible_iff, hflags]
      exact ⟨hcreated.delete, by decide⟩

/-- After a creation that nothing is in the way of, whoever may be the contact loses no list. -/
theorem meets_create {n : String} {b b' : Backend} {ec : Contact.EVCard} {env : Env} (hsane : Sane b)
    (hreq : OfflineRequest n b { event := .createContact ec, env := env })
    (hwelcome : Welcome n b (.createContact ec)) (hun : Unopposed n b (.createContact ec))
    (hs : b.step { event := .createContact ec, env := env } = some b') {r : Nat}
    (htaken : TakenIn n b.book b'.book r) {x : Nat} (hmay : MayBe n b'.book x) :
    b'.Meets Contact.LosesNothing x := by
  intro stage hw
  by_cases hadd : stage = .add
  · subst hadd
    exact fun _ _ h => h
  -- whoever waits has waited before, so he is one of those that were there
  have hbefore := waits_request (b := b.load env) hreq.2 hs (htaken.work stage hadd) hw
  have hx : x < b.book.next := waits_lt hsane hbefore
  have hnamed := hmay (Nat.lt_of_lt_of_le hx htaken.next)
  by_cases he : x = r
  · subst he
    rcases htaken.found with hfound | ⟨-, hnew⟩
    · refine htaken.steady.losesNothing fun hdelete => ?_
      subst hdelete
      exact (hun.2 x hx (hwelcome.1 x hfound).1).1 hbefore
    · exact absurd hnew (Nat.ne_of_lt hx)
  · rw [htaken.other x he] at hnamed ⊢
    obtain ⟨-, hmeets⟩ := hun.2 x hx hnamed
    refine hmeets (fun hlook => ?_) stage hbefore
    rcases htaken.found with hfound | ⟨hnone, -⟩
    · exact he (Option.some.inj (hlook.symm.trans hfound))
    · rw [hnone] at hlook
      cases hlook

/-! ## A removal -/

/-- The contact asks for nothing, and is out of the uid index or marked for removal. -/
structure PutAway (b b' : Book) (r : Nat) : Prop where
  next : b'.next = b.next
  uid : (b'.contacts r).uid = (b.contacts r).uid
  idle : (b'.contacts r).Idle
  hidden : b'.uidToContact = b.uidToContact.erase (b.contacts r).uid
      ∧ b'.nameToContact = b.nameToContact.erase (b.contacts r).name
    ∨ b'.uidToContact = b.uidToContact ∧ b'.nameToContact = b.nameToContact
      ∧ (b'.contacts r).pendingFlags.has scheduleDelete = true
  other : ∀ x, x ≠ r → b'.contacts x = b.contacts x
  work : ∀ stage, stage ≠ .delete → workTable b' stage = workTable b stage

theorem idle_nothingPending (c : Contact) : c.nothingPending.Idle :=
  ⟨BitVec.zero_has _, fun _ _ => BitVec.zero_has _⟩

theorem reallyRemove_putAway {b : Backend} (hoff : b.tpcl.status ≠ .online) (r : Nat) :
    PutAway b.book (b.reallyRemove r).book r := by
  have hself : (b.book.modify r Contact.nothingPending).contacts r
      = (b.book.contacts r).nothingPending := Book.modify_contacts_self b.book r _
  rw [reallyRemove_offline hoff]
  split
  · have hbook : ((b.modify r Contact.nothingPending).deleteContacts [r]).book
        = (b.book.modify r Contact.nothingPending).deleteContact r := rfl
    rw [hbook]
    refine ⟨Book.next_deleteContact _ r, ?_, ?_, .inl ⟨?_, ?_⟩, fun x hx => ?_, fun stage _ => ?_⟩
    · rw [Book.deleteContact_contacts, hself]
      rfl
    · rw [Book.deleteContact_contacts, hself]
      exact idle_nothingPending _
    · rw [Book.deleteContact_uid, hself]
      rfl
    · rw [Book.deleteContact_name, hself]
      rfl
    · rw [Book.deleteContact_contacts]
      exact Book.modify_contacts_of_ne hx
    · unfold Book.deleteContact
      dsimp only
      split <;> cases stage <;> rfl
  · have hmarked := scheduleRemoval_self b r
    have hcalm : Calmer (b.book.contacts r).nothingPending.pendingFlags
        (b.book.contacts r).nothingPending.markDelete.pendingFlags :=
      .of_sameOff (.or _ (a := scheduleDelete) (v := scheduleDelete) (by decide)) (by decide)
        (by decide)
    refine ⟨rfl, ?_, ?_, .inr ⟨rfl, rfl, ?_⟩, fun x hx => ?_, fun stage hstage => ?_⟩
    · rw [hmarked]
      rfl
    · rw [hmarked]
      exact (idle_nothingPending _).calmer hcalm
    · rw [hmarked]
      exact BitVec.or_has_self (by decide)
    · exact (Book.modify_contacts_of_ne hx).trans (Book.modify_contacts_of_ne hx)
    · cases stage with
      | update => rfl
      | add => rfl
      | delete => exact absurd rfl hstage

/-- What a remove request does to the contact it finds. -/
theorem putAway_request {n : String} {b b' : Backend} {id : String} {env : Env}
    (hreq : OfflineRequest n b { event := .removeContact id, env := env })
    (hs : b.step { event := .removeContact id, env := env } = some b') {r : Nat}
    (hr : b.book.uidToContact.lookup id = some r) : PutAway b.book b'.book r := by
  obtain rfl := Option.some.inj hs
  rw [removeContact_plain (b := b.load env) hreq.2.1 hr]
  exact reallyRemove_putAway (b := (b.load env).flush) hreq.1 r

/-- A remove request that finds nobody leaves the book alone. -/
theorem book_remove_unknown {n : String} {b b' : Backend} {id : String} {env : Env}
    (hreq : OfflineRequest n b { event := .removeContact id, env := env })
    (hs : b.step { event := .removeContact id, env := env } = some b')
    (hr : b.book.uidToContact.lookup id = none) : b'.book = b.book := by
  obtain rfl := Option.some.inj hs
  rw [removeContact_unknown (b := b.load env) hreq.2.1 hr]
  rfl

/-- Whoever is still found under the name is the one that was put away. -/
theorem PutAway.name {n : String} {b b' : Book} {r x : Nat} (h : PutAway b b' r)
    (hr : b.nameToContact.lookup (some n) = some r) (hx : b'.nameToContact.lookup (some n) = some x) :
    x = r := by
  rcases h.hidden with ⟨-, hnames⟩ | ⟨-, hnames, -⟩
  · rw [hnames, Table.lookup_erase_ite] at hx
    split at hx
    · cases hx
    · exact Option.some.inj (hx.symm.trans hr)
  · exact Option.some.inj (hx.symm.trans (hnames ▸ hr))

/-- After a removal nobody is shown under the uid or the name. -/
theorem hidden_remove {n : String} {b b' : Backend} {id : String} {env : Env} (hfiled : b.book.Filed)
    (hreq : OfflineRequest n b { event := .removeContact id, env := env })
    (hs : b.step { event := .removeContact id, env := env } = some b') {x : Nat}
    (hfound : b'.book.uidToContact.lookup id = some x
      ∨ b'.book.nameToContact.lookup (some n) = some x)
    (hlisted : b'.book.uidToContact.lookup (b'.book.contacts x).uid = some x) :
    (b'.book.contacts x).isVisible = false := by
  cases hr : b.book.uidToContact.lookup id with
  | none =>
    rw [book_remove_unknown hreq hs hr, ← hreq.2.2, hr] at hfound
    rcases hfound with h | h <;> cases h
  | some r =>
    have haway := putAway_request hreq hs hr
    have huid : (b.book.contacts r).uid = id := hfiled.uid id r hr
    have hname : b.book.nameToContact.lookup (some n) = some r := hreq.2.2.symm.trans hr
    rcases haway.hidden with ⟨huids, -⟩ | ⟨huids, -, hdelete⟩
    · -- nobody is found under the uid any more, whatever else the name may still name
      have hgone : b'.book.uidToContact.lookup (b.book.contacts r).uid = none := by
        rw [huids]
        exact AList.lookup_erase _ _
      rcases hfound with hfound | hfound
      · rw [← huid, hgone] at hfound
        cases hfound
      · rw [haway.name hname hfound, haway.uid, hgone] at hlisted
        cases hlisted
    · have hx : x = r := by
        rcases hfound with hfound | hfound
        · exact Option.some.inj (hfound.symm.trans (huids ▸ hr))
        · exact haway.name hname hfound
      rw [hx]
      exact Contact.isVisible_of_delete hdelete

/-- After a removal that nothing is in the way of, whoever may be the contact gets no list. -/
theorem meets_remove {n : String} {b b' : Backend} {id : String} {env : Env} (hsane : Sane b)
    (hreq : OfflineRequest n b { event := .removeContact id, env := env })
    (hun : Unopposed n b (.removeContact id))
    (hs : b.step { event := .removeContact id, env := env } = some b') {x : Nat}
    (hmay : MayBe n b'.book x ∨ b.book.uidToContact.lookup id = some x) :
    b'.Meets Contact.AddsNothing x := by
  intro stage hw
  cases hr : b.book.uidToContact.lookup id with
  | none =>
    have hbook := book_remove_unknown hreq hs hr
    have hbefore := waits_request (b := b.load env) hreq.2 hs (by rw [hbook]; rfl) hw
    have hx := waits_lt hsane hbefore
    rw [hbook, hr] at hmay
    rw [hbook]
    have hnamed := hmay.resolve_right (fun h => by cases h) hx
    exact hun.2 x hx hnamed (by rw [hr]; exact fun h => by cases h) stage hbefore
  | some r =>
    have haway := putAway_request hreq hs hr
    by_cases he : x = r
    · rw [he]
      exact haway.idle.addsNothing stage
    by_cases hdelete : stage = .delete
    · subst hdelete
      exact fun _ _ h => h
    have hbefore := waits_request (b := b.load env) hreq.2 hs (haway.work stage hdelete) hw
    have hlt := waits_lt hsane hbefore
    have hother : b.book.uidToContact.lookup id ≠ some x := fun hlook =>
      he (Option.some.inj (hlook.symm.trans hr))
    have hnamed := hmay.resolve_right hother (by rw [haway.next]; exact hlt)
    rw [haway.other x he] at hnamed ⊢
    exact hun.2 x hlt hnamed hother stage hbefore

/-! ## The next process -/

theorem restarted_reachable {b' b₀ b₁ : Backend} {is : List Input} {env : Env}
    (hrun : machine.Guarded (fun _ i => i.event.NoRequest ∧ i.event ≠ .phase0) b'.restarted is b₀)
    (himport : b₀.step { event := .phase0, env := env } = some b₁) :
    ReachableFrom b'.pathSuffix b'.vcardField b'.out.db b₁ :=
  Machine.Reaches.step (M := machine) (e := { event := .phase0, env := env }) ⟨is, hrun.run_eq⟩ himport

/-- Whoever may be the contact in the next process is imported from the row that has the name. -/
theorem restarted_mayBe {n : String} {b' b₀ b₁ : Backend} {is : List Input} {env : Env}
    (hrun : machine.Guarded (fun _ i => i.event.NoRequest ∧ i.event ≠ .phase0) b'.restarted is b₀)
    (himport : b₀.step { event := .phase0, env := env } = some b₁) {x : Nat}
    (hx : x < b₁.book.next) (hmay : MayBe n b₁.book x) :
    ∃ u row, b'.out.db.contacts.lookup u = some row ∧ row.name = n
      ∧ b₁.book.uidToContact.lookup u = some x
      ∧ b₁.book.contacts x = (b'.out.db.fetchContact u row).imported := by
  obtain ⟨u, row, hrow, huid, himp⟩ := restarted_objects hrun himport hx
  refine ⟨u, row, hrow, Option.some.inj ?_, huid, himp⟩
  have hname := hmay hx
  rw [himp, (Book.imported_keys _).2.1] at hname
  exact hname

theorem winsAnew_create {n : String} {b' : Backend} {ec : Contact.EVCard} {r : Nat}
    (hstill : b'.out.Still) (hrec : Recorded n b') (hshown : Shown n b' r)
    (hsteady : (b'.book.contacts r).Steady) : WinsAnew n b' (.createContact ec) := by
  refine ⟨r, hshown.known, afterEnd_of_still hstill fun is env b₀ b₁ hrun himport => ?_⟩
  obtain ⟨hrows, -⟩ := restarted_imports hrun himport
  obtain ⟨hsane, -⟩ := restarted_book hrun himport
  obtain ⟨row, hrow, hname, hrecalls⟩ := hrec.row r hshown.known
  obtain ⟨r₁, hr₁, himported, hsome, hasks⟩ := hrows _ row hrow
  have himport' := ContactRow.recalls_imported b'.out.db (b'.book.contacts r).uid row
  obtain ⟨hu, hn, -⟩ := Book.imported_keys (b'.out.db.fetchContact (b'.book.contacts r).uid row)
  rw [← himported] at himport' hu hn
  have hu' : (b₁.book.contacts r₁).uid = (b'.book.contacts r).uid := hu
  have hn' : (b₁.book.contacts r₁).name = some n := hn.trans (congrArg some hname)
  -- nobody else has the name, since no other row has
  have honly : ∀ {x}, x < b₁.book.next → MayBe n b₁.book x → x = r₁ := by
    intro x hx hmay
    obtain ⟨u, row', hrow', hname', huid, -⟩ := restarted_mayBe hrun himport hx hmay
    rw [hrec.sole_uid hshown.known hrow' hname'] at huid
    exact Option.some.inj (huid.symm.trans hr₁)
  have hknown : b₁.book.nameToContact.lookup (some n) = some r₁ := by
    rw [hname] at hsome
    obtain ⟨x, hx⟩ := Option.isSome_iff_exists.mp hsome
    obtain ⟨u', row₂, -, hname₂, -, himp₂⟩ := restarted_names hrun himport hx
    rw [hx, honly (hsane.allocated.name _ _ hx) fun _ => ?_]
    rw [himp₂, (Book.imported_keys _).2.1]
    exact hname₂
  refine ⟨r₁, hr₁, ⟨hknown, hn', hu'.symm ▸ hr₁, ?_, ?_⟩, ?_⟩
  · rw [himport'.isVisible_eq hrecalls]
    exact hshown.visible
  · rw [← himport'.delete, hrecalls.delete]
    exact hshown.kept
  · refine neverAsks_removes (restarted_reachable hrun himport) (restarted_imported himport)
      fun x hmay stage hw => ?_
    obtain rfl := honly (waits_lt hsane hw) hmay
    refine (hrecalls.steady himport' hsteady).losesNothing fun hstage => ?_
    subst hstage
    have hdelete : row.pendingFlags.has scheduleDelete = true := hasks _ hw
    rw [hrecalls.delete, hshown.kept] at hdelete
    cases hdelete

theorem winsAnew_remove {n : String} {b b' : Backend} {id : String} {env : Env}
    (hfiled : b.book.Filed) (hrec : Recorded n b')
    (hreq : OfflineRequest n b { event := .removeContact id, env := env })
    (hs : b.step { event := .removeContact id, env := env } = some b') :
    WinsAnew n b' (.removeContact id) := by
  -- the row of the contact recalls that it asks for nothing and is to be removed
  have hrow : ∀ u row, b'.out.db.contacts.lookup u = some row → u = id ∨ row.name = n →
      (b'.out.db.fetchContact u row).imported.isVisible = false
        ∧ (b'.out.db.fetchContact u row).imported.Idle := by
    intro u row hrow hfor
    have hin := hrec.known u (mem_keys_of_row (by rw [hrow]; rfl))
    cases hr : b.book.uidToContact.lookup id with
    | none =>
      have hbook := book_remove_unknown hreq hs hr
      rcases hfor with rfl | hname
      · rw [hbook, hr] at hin
        cases hin
      · obtain ⟨r, hr', -⟩ := hrec.row_uid hrow hname
        rw [hbook, ← hreq.2.2, hr] at hr'
        cases hr'
    | some r =>
      have huid : (b.book.contacts r).uid = id := hfiled.uid id r hr
      have hname : b.book.nameToContact.lookup (some n) = some r := hreq.2.2.symm.trans hr
      have haway := putAway_request hreq hs hr
      have hid : u = id := by
        refine hfor.elim (fun h => h) fun hn => ?_
        obtain ⟨r', hr', hu⟩ := hrec.row_uid hrow hn
        rw [← hu, haway.name hname hr', haway.uid, huid]
      subst hid
      rcases haway.hidden with ⟨huids, -⟩ | ⟨-, hnames, hdelete⟩
      · rw [huids, ← huid, AList.lookup_erase] at hin
        cases hin
      · obtain ⟨row', hrow', -, hrecalls⟩ := hrec.row r (hnames ▸ hname)
        rw [haway.uid, huid, hrow] at hrow'
        obtain rfl := Option.some.inj hrow'
        have himport' := ContactRow.recalls_imported b'.out.db u row
        refine ⟨?_, hrecalls.idle himport' haway.idle⟩
        rw [himport'.isVisible_eq hrecalls]
        exact Contact.isVisible_of_delete hdelete
  refine afterEnd_of_still (still_request (e := .removeContact id) (fun h => h) hs)
    fun is env' b₀ b₁ hrun himport => ?_
  obtain ⟨hrows, hlisted⟩ := restarted_imports hrun himport
  obtain ⟨hsane, -⟩ := restarted_book hrun himport
  refine ⟨fun r hfound _ => ?_, ?_⟩
  · rcases hfound with hid | hname
    · obtain ⟨row, hrow'⟩ := hlisted id r hid
      obtain ⟨r', hr', himp, -⟩ := hrows id row hrow'
      obtain rfl := Option.some.inj (hid.symm.trans hr')
      rw [himp]
      exact (hrow id row hrow' (.inl rfl)).1
    · obtain ⟨u, row, hrow', hn, -, himp⟩ := restarted_names hrun himport hname
      rw [himp]
      exact (hrow u row hrow' (.inr (Option.some.inj hn))).1
  · refine neverAsks_adds (restarted_reachable hrun himport) (restarted_imported himport)
      fun x hmay stage hw => ?_
    obtain ⟨u, row, hrow', hname, -, himp⟩ := restarted_mayBe hrun himport (waits_lt hsane hw) hmay
    rw [himp]
    exact (hrow u row hrow' (.inr hname)).2.addsNothing stage

/--
**In a process that is started anew** the database recalls every contact that is known by name,
if a name is in one row at most.
-/
theorem restarted_recorded {b b₀ b₁ : Backend} {is : List Input} {env : Env} {n : String}
    (hrun : machine.Guarded (fun _ i => i.event.NoRequest ∧ i.event ≠ .phase0) b.restarted is b₀)
    (himport : b₀.step { event := .phase0, env := env } = some b₁)
    (honce : ∀ u row u' row', b.out.db.contacts.lookup u = some row → row.name = n →
      b.out.db.contacts.lookup u' = some row' → row'.name = n → u = u') :
    b₁.book.KnownAs n ∧ Recorded n b₁ := by
  obtain ⟨hrows, -⟩ := restarted_imports hrun himport
  obtain ⟨-, -, -, hdb, hqueue⟩ := restarted_book hrun himport
  have hfound : ∀ r, b₁.book.nameToContact.lookup (some n) = some r → ∃ u row,
      b.out.db.contacts.lookup u = some row ∧ row.name = n ∧ b₁.book.uidToContact.lookup u = some r
        ∧ (b₁.book.contacts r).uid = u ∧ (b₁.book.contacts r).name = some row.name
        ∧ row.Recalls (b₁.book.contacts r) := by
    intro r hr
    obtain ⟨u, row, hrow, hn, huid, himported⟩ := restarted_names hrun himport hr
    obtain ⟨hu, hname, -⟩ := Book.imported_keys (b.out.db.fetchContact u row)
    rw [← himported] at hu hname
    refine ⟨u, row, hrow, Option.some.inj hn, huid, hu, hname, ?_⟩
    rw [himported]
    exact ContactRow.recalls_imported b.out.db u row
  refine ⟨fun r hr => ?_, fun r hr => ?_, fun u hu row hrow hname => ?_, fun u hu => ?_,
    fun x hx => ?_⟩
  · obtain ⟨u, row, -, hn, huid, hu, hname, -⟩ := hfound r hr
    exact ⟨by rw [hname, hn], by rw [hu]; exact huid⟩
  · obtain ⟨u, row, hrow, hn, -, hu, -, hrecalls⟩ := hfound r hr
    exact ⟨row, by rw [hdb, hu]; exact hrow, hn, hrecalls⟩
  · rw [hdb] at hrow
    obtain ⟨-, -, -, hsome, -⟩ := hrows u row hrow
    rw [hname] at hsome
    obtain ⟨x, hx⟩ := Option.isSome_iff_exists.mp hsome
    obtain ⟨u', row', hrow', hn', -, hu', -⟩ := hfound x hx
    exact ⟨x, hx, hu'.trans (honce u' row' u row hrow' hn' hrow hname)⟩
  · rw [hdb] at hu
    obtain ⟨row, hrow⟩ := Option.isSome_iff_exists.mp (AList.lookup_isSome.mpr (AList.mem_keys.mpr hu))
    obtain ⟨r, hr, -⟩ := hrows u row hrow
    rw [hr]
    rfl
  · rw [hqueue] at hx
    cases hx

/--
**When the last offline request wins.** In whatever state the account goes offline, and whatever
was asked about a contact since, the last request is followed if the contact is welcome and
nothing is left over that is in the way. In the next process the leftovers are gone: there it is
followed if the contact is welcome, the database recalled it in the first place and no statement
of the requests failed.
-/
theorem last_request_wins {pathSuffix vcardField : String} {db : Db} {n : String}
    {b₀ b b' : Backend} {is : List Input} {i : Input}
    (hreach : ReachableFrom pathSuffix vcardField db b₀)
    (hrun : machine.Guarded (OfflineRequest n) b₀ is b) (hlast : OfflineRequest n b i)
    (hwelcome : Welcome n b i.event) (hs : b.step i = some b') :
    (Unopposed n b i.event → Wins n b b' i.event)
      ∧ (b₀.book.KnownAs n → Recorded n b₀ → (∀ j ∈ is ++ [i], ∀ ok ∈ j.env.sql, ok = true) →
        WinsAnew n b' i.event) := by
  obtain ⟨hsane, hfiled⟩ : Sane b ∧ b.book.Filed :=
    hrun.inv (I := fun s => Sane s ∧ s.book.Filed)
      (fun _ _ _ hI _ hstep => ⟨sane_step hI.1 hstep, filed_step hI.1 hI.2 hstep⟩)
      ⟨sane_reachable hreach, filed_reachable hreach⟩
  have hrecorded : b₀.book.KnownAs n → Recorded n b₀ →
      (∀ j ∈ is ++ [i], ∀ ok ∈ j.env.sql, ok = true) → Recorded n b' := by
    intro hknown hrec hno
    have hbefore : b.book.KnownAs n ∧ Recorded n b :=
      (hrun.and_mem fun j hj => hno j (List.mem_append_left _ hj)).inv
        (I := fun s => s.book.KnownAs n ∧ Recorded n s)
        (fun _ _ _ hI hok hstep => ⟨knownAs_request hI.1 hok.1 hstep,
          recorded_request hI.1 hI.2 hok.2 hok.1 hstep⟩)
        ⟨hknown, hrec⟩
    exact recorded_request hbefore.1 hbefore.2
      (hno i (List.mem_append_right _ (List.mem_singleton_self i))) hlast hs
  have hreach' := Machine.Reaches.step (Machine.Reaches.guarded hreach hrun) hs
  have himported : b.phase0Queued = false → b'.phase0Queued = false := by
    refine (ready_eq_take hs fun hphase0 => ?_).2.trans
    have habout := hlast.2
    rw [hphase0] at habout
    exact habout
  obtain ⟨event, env⟩ := i
  cases event with
  | createContact ec =>
    obtain ⟨r, htaken, hshown⟩ := takenIn_request hlast hwelcome hs
    exact ⟨fun hun => ⟨r, hshown, neverAsks_removes hreach' (himported hun.1) fun _ =>
        meets_create hsane hlast hwelcome hun hs htaken⟩,
      fun hknown hrec hno => winsAnew_create (still_request (e := .createContact ec) id hs)
        (hrecorded hknown hrec hno) hshown htaken.steady⟩
  | removeContact id =>
    exact ⟨fun hun => ⟨fun _ => hidden_remove hfiled hlast hs,
        neverAsks_adds hreach' (himported hun.1) fun _ => meets_remove hsane hlast hun hs⟩,
      fun hknown hrec hno => winsAnew_remove hfiled (hrecorded hknown hrec hno) hlast hs⟩
  | _ => exact hlast.2.elim

/-- The cached contact is synchronised, and the account goes offline. -/
def annRested : List Input :=
  firstSync ++ idlePhase3 ++ [{ event := .cl (.connectionStatusChanged none) }]

/-- A known contact is created again offline and then removed. -/
theorem last_request_wins_ann :
    ∃ b b', b.step { event := .removeContact "acct-ann" } = some b'
      ∧ Wins "ann" b b' (.removeContact "acct-ann") ∧ WinsAnew "ann" b' (.removeContact "acct-ann")
      ∧ (b.book.uidToContact.lookup "acct-ann").isSome = true := by
  have hrun : ((machine.run (boot "acct" "X-JABBER" {}) annRested).bind fun b₀ =>
      (machine.runChecked (fun b i => decide (OfflineRequest "ann" b i)) b₀
        [{ event := creates "ann" }]).bind fun b =>
      (b.step { event := .removeContact "acct-ann" }).bind fun b' =>
        if OfflineRequest "ann" b { event := .removeContact "acct-ann" } ∧ Recorded "ann" b₀
          ∧ (∀ r ∈ b₀.book.nameToContact.lookup (some "ann"), (b₀.book.contacts r).name = some "ann"
            ∧ b₀.book.uidToContact.lookup (b₀.book.contacts r).uid = some r)
          ∧ (b.book.uidToContact.lookup "acct-ann").isSome = true ∧ b.phase0Queued = false
          ∧ (∀ x < b.book.next, (b.book.contacts x).name = some "ann" →
            b.book.uidToContact.lookup "acct-ann" = some x)
        then some (b₀, b, b') else none).isSome = true := by decide +kernel
  obtain ⟨⟨c₀, c, c'⟩, hbind⟩ := Option.isSome_iff_exists.mp hrun
  obtain ⟨b₀, hb₀, hbind⟩ := Option.bind_eq_some_iff.mp hbind
  obtain ⟨b, hb, hbind⟩ := Option.bind_eq_some_iff.mp hbind
  obtain ⟨b', hs, hite⟩ := Option.bind_eq_some_iff.mp hbind
  split at hite
  · rename_i hfacts
    obtain ⟨hlast, hrec, hknown, hfound, himported, honly⟩ := hfacts
    have hguarded : machine.Guarded (OfflineRequest "ann") b₀ [{ event := creates "ann" }] b :=
      Machine.guarded_of_runChecked (fun _ _ hc => of_decide_eq_true hc) hb
    obtain ⟨hwins, hanew⟩ := last_request_wins ⟨_, hb₀⟩ hguarded hlast trivial hs
    refine ⟨b, b', hs, hwins ⟨himported, fun x hx hname hother => ?_⟩, hanew hknown hrec ?_, hfound⟩
    · exact absurd (honly x hx hname) hother
    · decide
  · cases hite

/--
A known contact is removed offline and then created again: it stays hidden and marked for removal,
and the next synchronisation asks the server to remove it.
-/
theorem last_creation_loses :
    ∃ b₀ b b' s s', ReachableFrom "acct" "X-JABBER" {} b₀ ∧ b₀.book.KnownAs "ann"
      ∧ Recorded "ann" b₀
      ∧ machine.Guarded (OfflineRequest "ann") b₀ [{ event := .removeContact "acct-ann" }] b
      ∧ OfflineRequest "ann" b { event := creates "ann" }
      ∧ b.step { event := creates "ann" } = some b' ∧ ¬ Wins "ann" b b' (creates "ann")
      ∧ machine.Guarded (fun _ i => i.event.NoRequest) b'
          (goOnline 2 4 ++ [{ event := .cl (.allMembers 8 (some { current := [7] })) },
            { event := .cl (.contacts 8 (some [{ handle := 7, identifier := "ann" }])) },
            { event := .phase2 }, { event := .phase3 [] }, { event := .phase3Next [] },
            { event := .phase3Next [0] }]) s
      ∧ s.step { event := .phase3Next [], env := { replies := [{}, {}, {}, {}] } } = some s'
      ∧ .removeMembers .subscribe [7] ∈ s'.wire.sent := by
  have hrun : ((machine.run (boot "acct" "X-JABBER" {}) annRested).bind fun b₀ =>
      (machine.runChecked (fun b i => decide (OfflineRequest "ann" b i)) b₀
        [{ event := .removeContact "acct-ann" }]).bind fun b =>
      (b.step { event := creates "ann" }).bind fun b' =>
      (machine.runChecked (fun _ i => decide i.event.NoRequest) b'
        (goOnline 2 4 ++ [{ event := .cl (.allMembers 8 (some { current := [7] })) },
            { event := .cl (.contacts 8 (some [{ handle := 7, identifier := "ann" }])) },
            { event := .phase2 }, { event := .phase3 [] }, { event := .phase3Next [] },
            { event := .phase3Next [0] }])).bind fun s =>
      (s.step { event := .phase3Next [], env := { replies := [{}, {}, {}, {}] } }).bind fun s' =>
        if OfflineRequest "ann" b { event := creates "ann" } ∧ Recorded "ann" b₀
          ∧ (∀ r ∈ b₀.book.nameToContact.lookup (some "ann"), (b₀.book.contacts r).name = some "ann"
            ∧ b₀.book.uidToContact.lookup (b₀.book.contacts r).uid = some r)
          ∧ b'.book.nameToContact.lookup (some "ann") = some 0
          ∧ (b'.book.contacts 0).isVisible = false
          ∧ .removeMembers .subscribe [7] ∈ s'.wire.sent
        then some (b₀, b, b', s, s') else none).isSome = true := by decide +kernel
  obtain ⟨⟨c₀, c, c', d, d'⟩, hbind⟩ := Option.isSome_iff_exists.mp hrun
  obtain ⟨b₀, hb₀, hbind⟩ := Option.bind_eq_some_iff.mp hbind
  obtain ⟨b, hb, hbind⟩ := Option.bind_eq_some_iff.mp hbind
  obtain ⟨b', hs, hbind⟩ := Option.bind_eq_some_iff.mp hbind
  obtain ⟨s, hsync, hbind⟩ := Option.bind_eq_some_iff.mp hbind
  obtain ⟨s', hsend, hite⟩ := Option.bind_eq_some_iff.mp hbind
  split at hite
  · rename_i hfacts
    obtain ⟨hlast, hrec, hknown, hname, hhidden, hsent⟩ := hfacts
    refine ⟨b₀, b, b', s, s', ⟨_, hb₀⟩, hknown, hrec,
      Machine.guarded_of_runChecked (fun _ _ hc => of_decide_eq_true hc) hb, hlast, hs, ?_,
      Machine.guarded_of_runChecked (fun _ _ hc => of_decide_eq_true hc) hsync, hsend, hsent⟩
    -- whoever wins is visible, and this contact is not
    rintro ⟨r, hwanted⟩
    obtain rfl := Option.some.inj (hwanted.known.symm.trans hname)
    rw [hwanted.visible] at hhidden
    cases hhidden
  · cases hite

end Backend

end EdsTelepathy
