import EdsTelepathy.Proof.Mirror

/-!
# Contacts without a name

A handle that the roster layer has not heard of gets a contact object at once, and a name only
when the connection manager has answered an inspection. What the address book is handed has a
name all the same: the array of new contacts is filtered before it is announced, what waits in
an idle source announces nobody, and the answer to `get_members` consists of the contacts that
an inspection has just named. So the two callbacks that go by name never come near the entry of
the name table that a missing name would have.
-/

namespace EdsTelepathy

/-- Whom the address book looks up by name has one. -/
def Signal.Named : Signal → Prop
  | contactsAdded cs => ∀ c ∈ cs, c.name ≠ none
  | getMembersDone (some cs) => ∀ c ∈ cs, c.name ≠ none
  | _ => True

theorem Signal.named_of_detail {s : Signal} (h : s.isDetail = true) : s.Named := by
  cases s with
  | contactsAdded cs => cases h
  | getMembersDone result => cases h
  | _ => trivial

namespace Cl

/-! ## What the roster layer hands over -/

/-- An inspection names the contacts that it finds. -/
theorem name_of_found {cl : Cl} {tps : List TpContact} {r : Nat}
    (h : r ∈ (cl.updateContactDetails tps).2) :
    ((cl.updateContactDetails tps).1.contacts r).name ≠ none := by
  rw [updateContactDetails_found] at h
  exact (named_updateContactDetails tps (cl, []) r).mpr (.inr (List.mem_filterMap.mp h))

/-- The filter keeps nobody without a name. -/
theorem name_of_valid {cl : Cl} {rs : List Nat} {r : Nat} (h : r ∈ cl.removeInvalidContacts rs) :
    (cl.contacts r).name ≠ none := (of_decide_eq_true (List.mem_filter.mp h).2).1

theorem named_updateChangedMembers {cl : Cl} {k : MembersChangedClosure}
    (h : ∀ r ∈ k.contactsToAdd, (cl.contacts r).name ≠ none) (updated : List Nat) :
    ∀ s ∈ (cl.updateChangedMembers k updated).2, s.Named := by
  intro s hs
  unfold updateChangedMembers at hs
  simp only [List.mem_append, or_assoc] at hs
  rcases hs with hs | hs | hs | hs | hs | hs
  · rw [mem_emit hs]
    intro c hc
    obtain ⟨r, hr, rfl⟩ := List.mem_map.mp hc
    exact h r hr
  all_goals
    rw [mem_emit hs]
    trivial

theorem named_getNextChannelMembers (cl : Cl) (ls : List ListId) :
    ∀ s ∈ (cl.getNextChannelMembers ls).2, s.Named := by
  intro s hs
  rcases getNextChannelMembers_signals cl ls with hnil | ⟨result, hone, -⟩
  · rw [hnil] at hs
    cases hs
  · cases result with
    | none =>
      rw [hone, List.mem_singleton] at hs
      rw [hs]
      trivial
    | some cs =>
      obtain rfl := getNextChannelMembers_done (by rw [hone]; exact List.mem_singleton_self _)
      rw [hone, List.mem_singleton] at hs
      rw [hs]
      exact fun c hc => (by cases hc)

theorem named_getMembers (cl : Cl) : ∀ s ∈ cl.getMembers.2, s.Named := by
  unfold getMembers
  split
  · exact named_getNextChannelMembers cl _
  · exact fun s hs => (by cases hs)

theorem named_setStatus (cl : Cl) (st : ClStatus) : ∀ s ∈ (cl.setStatus st).2, s.Named := by
  intro s hs
  unfold setStatus at hs
  split at hs
  · cases hs
  · cases st with
    | online =>
      rw [List.mem_singleton.mp hs]
      trivial
    | offline =>
      rcases List.mem_append.mp hs with hs | hs
      · unfold goOffline at hs
        dsimp only at hs
        split at hs
        · cases hs
        · simp only [List.mem_cons, List.not_mem_nil, or_false] at hs
          rcases hs with rfl | rfl <;> trivial
      · rw [List.mem_singleton.mp hs]
        trivial

theorem named_getContacts (cl : Cl) (reply : Option (List TpContact)) :
    ∀ s ∈ (cl.getContactsCb reply).2, s.Named := by
  have herror : ∀ s ∈ [Signal.getMembersDone none], s.Named := by
    intro s hs
    rw [List.mem_singleton.mp hs]
    trivial
  unfold getContactsCb
  cases reply with
  | none => exact herror
  | some tps =>
    dsimp only
    split
    · intro s hs
      rcases List.mem_cons.mp hs with rfl | hs
      · intro c hc
        obtain ⟨r, hr, rfl⟩ := List.mem_map.mp hc
        exact name_of_found hr
      · split at hs
        · cases hs
        · simp only [List.mem_cons, List.not_mem_nil, or_false] at hs
          rcases hs with rfl | rfl | rfl | rfl <;> trivial
    · exact herror

theorem named_membersChangedWithDetails (cl : Cl) (k : MembersChangedClosure)
    (reply : Option (List TpContact)) :
    ∀ s ∈ (cl.membersChangedWithDetailsCb k reply).2, s.Named := by
  unfold membersChangedWithDetailsCb
  cases reply with
  | none => exact fun s hs => (by cases hs)
  | some tps =>
    dsimp only
    split
    · exact named_updateChangedMembers (fun r hr => name_of_valid hr) _
    · exact fun s hs => (by cases hs)

/-- **Nobody without a name is handed over**, whatever the step. -/
theorem named_step {cl cl' : Cl} {e : Event} {signals : List Signal} (h : ByHandle cl)
    (hs : cl.step e = some (cl', signals)) : ∀ s ∈ signals, s.Named := by
  have hcb := step_callback hs
  have hnone : ∀ s ∈ ([] : List Signal), s.Named := fun s hs => (by cases hs)
  generalize hr : (cl', signals) = r at hcb
  rw [show signals = r.2 from congrArg Prod.snd hr]
  cases hcb with
  | connection conn =>
    cases conn with
    | some c => exact hnone
    | none => exact named_setStatus cl .offline
  | members l added removed lp rp => exact hnone
  | report d => exact fun s hs => s.named_of_detail ((detailsCb_reported cl d).signals s hs).1
  | connectionReady ok ht => exact hnone
  | requestHandles ok ht => exact hnone
  | requestChannel ok ht => exact hnone
  | @channelReady i l cl₁ ok ht =>
    unfold tpChannelReadyCb
    split
    · split
      · exact named_setStatus cl₁ .online
      · exact hnone
    · exact hnone
  | @idle i k cl₁ ok ht =>
    -- what waits in an idle source brings nobody new
    have hadd : k.contactsToAdd = [] := (h.takeCall ht).2.2 k rfl
    unfold handleMembersChangedIdleCb
    split
    · exact named_updateChangedMembers (fun r hr => by rw [hadd] at hr; cases hr) _
    · exact hnone
  | @allMembers i l rest cl₁ reply ht =>
    have herror : ∀ s ∈ [Signal.getMembersDone none], s.Named := by
      intro s hs
      rw [List.mem_singleton.mp hs]
      trivial
    unfold channelGetAllMembersCb
    cases reply with
    | none => exact herror
    | some m =>
      dsimp only
      split
      · exact named_getNextChannelMembers _ rest
      · exact herror
  | @getContacts i cl₁ reply ht => exact named_getContacts cl₁ reply
  | @details i k cl₁ reply ht => exact named_membersChangedWithDetails cl₁ k reply

end Cl

/-! ## The name table -/

namespace Book

/-- The book with another name table. -/
def withNames (b : Book) (t : Table (Option String) Nat) : Book := { b with nameToContact := t }

/-- The two tables have the same entries but for the one under a missing name. -/
def AgreeOnNames (t t' : Table (Option String) Nat) : Prop :=
  ∀ n : String, t'.lookup (some n) = t.lookup (some n)

theorem AgreeOnNames.insert {t t' : Table (Option String) Nat} (h : AgreeOnNames t t') (n : String)
    (r : Nat) : AgreeOnNames (t.insert (some n) r) (t'.insert (some n) r) := by
  intro m
  rw [Table.lookup_insert_ite, Table.lookup_insert_ite, h m]

/--
What the loop body does is the same whatever is under a missing name in the name table, and it
leaves that entry alone.
-/
def Blind {α : Type} (f : Book × α → Contact → Book × α) (c : Contact) : Prop :=
  ∀ b a t, AgreeOnNames b.nameToContact t → ∃ t',
    f (b.withNames t, a) c = ((f (b, a) c).1.withNames t', (f (b, a) c).2)
      ∧ AgreeOnNames (f (b, a) c).1.nameToContact t' ∧ t'.lookup none = t.lookup none

theorem Blind.foldl {α : Type} {f : Book × α → Contact → Book × α} {cs : List Contact}
    (h : ∀ c ∈ cs, Blind f c) (b : Book) (a : α) (t : Table (Option String) Nat)
    (ht : AgreeOnNames b.nameToContact t) : ∃ t',
      cs.foldl f (b.withNames t, a) = ((cs.foldl f (b, a)).1.withNames t', (cs.foldl f (b, a)).2)
        ∧ t'.lookup none = t.lookup none := by
  induction cs generalizing b a t with
  | nil => exact ⟨t, rfl, rfl⟩
  | cons c cs ih =>
    obtain ⟨t₁, hf, hsame, hnone⟩ := h c List.mem_cons_self b a t ht
    obtain ⟨t', hfold, hnone'⟩ :=
      ih (fun c' hc' => h c' (List.mem_cons_of_mem c hc')) (f (b, a) c).1 (f (b, a) c).2 t₁ hsame
    refine ⟨t', ?_, hnone'.trans hnone⟩
    rw [List.foldl_cons, List.foldl_cons, hf]
    exact hfold

theorem enterHandle_withNames (b : Book) (t : Table (Option String) Nat) (h r : Nat) :
    (b.withNames t).enterHandle h r = (b.enterHandle h r).withNames t
      ∧ (b.enterHandle h r).nameToContact = b.nameToContact := by
  unfold enterHandle withNames
  dsimp only
  split <;> exact ⟨rfl, rfl⟩

/-- A loop body that goes by the name of the contact: one change where it is known, one where not. -/
theorem blind_of_cases {α : Type} {f : Book × α → Contact → Book × α} {c : Contact}
    (h : c.name ≠ none)
    (hknown : ∀ b a t, t.lookup c.name = b.nameToContact.lookup c.name →
      ∀ r, b.nameToContact.lookup c.name = some r →
        f (b.withNames t, a) c = ((f (b, a) c).1.withNames t, (f (b, a) c).2)
          ∧ (f (b, a) c).1.nameToContact = b.nameToContact)
    (hnew : ∀ b a t, t.lookup c.name = b.nameToContact.lookup c.name →
      b.nameToContact.lookup c.name = none →
        f (b.withNames t, a) c
            = ((f (b, a) c).1.withNames (t.insert c.name b.next), (f (b, a) c).2)
          ∧ (f (b, a) c).1.nameToContact = b.nameToContact.insert c.name b.next) :
    Blind f c := by
  obtain ⟨n, hn⟩ := Option.ne_none_iff_exists'.mp h
  intro b a t ht
  have hlook : t.lookup c.name = b.nameToContact.lookup c.name := by rw [hn]; exact ht n
  cases hl : b.nameToContact.lookup c.name with
  | some r =>
    obtain ⟨heq, hnames⟩ := hknown b a t hlook r hl
    exact ⟨t, heq, hnames ▸ ht, rfl⟩
  | none =>
    obtain ⟨heq, hnames⟩ := hnew b a t hlook hl
    refine ⟨t.insert c.name b.next, heq, ?_, ?_⟩
    · rw [hnames, hn]
      exact ht.insert n b.next
    · rw [hn]
      exact AList.lookup_insert_ne nofun

theorem blind_contactAddedInto (pathSuffix : String) {c : Contact} (h : c.name ≠ none) :
    Blind (contactAddedInto pathSuffix) c := by
  refine blind_of_cases h (fun b a t ht r hl => ?_) fun b a t ht hl => ?_
  all_goals
    unfold contactAddedInto contactAdded withNames
    dsimp only
    rw [ht, hl]
    exact ⟨rfl, rfl⟩

theorem blind_memberReportedInto (pathSuffix : String) {c : Contact} (h : c.name ≠ none) :
    Blind (memberReportedInto pathSuffix) c := by
  refine blind_of_cases h (fun b a t ht r hl => ?_) fun b a t ht hl => ?_
  · have ht' : (b.withNames t).nameToContact.lookup c.name = some r := ht.trans hl
    obtain ⟨heq, hnames⟩ := enterHandle_withNames (b.modify r c.seen) t c.handle r
    unfold memberReportedInto memberReported
    dsimp only
    rw [ht', hl]
    exact ⟨congrArg (·, _) heq, hnames⟩
  · have ht' : (b.withNames t).nameToContact.lookup c.name = none := ht.trans hl
    obtain ⟨heq, hnames⟩ := enterHandle_withNames (b.memberFound pathSuffix c)
      (t.insert c.name b.next) c.handle b.next
    unfold memberReportedInto memberReported
    dsimp only
    rw [ht', hl]
    exact ⟨congrArg (·, _) heq, hnames⟩

end Book

namespace Backend

/-- The backend with another name table. -/
def withNames (b : Backend) (t : Table (Option String) Nat) : Backend :=
  { b with book := b.book.withNames t }

/--
The handler does the same whatever is under a missing name in the name table, and it leaves that
entry alone: it neither looks up nor stores a missing name.
-/
def Blind (handler : Backend → Backend) : Prop :=
  ∀ b t, Book.AgreeOnNames b.book.nameToContact t → ∃ t',
    handler (b.withNames t) = (handler b).withNames t' ∧ t'.lookup none = t.lookup none

theorem blind_tpClContactsAdded {cs : List Contact} (h : ∀ c ∈ cs, c.name ≠ none) :
    Blind fun b => b.tpClContactsAdded cs := by
  intro b t ht
  obtain ⟨t', heq, hnone⟩ := Book.Blind.foldl
    (fun c hc => Book.blind_contactAddedInto b.pathSuffix (h c hc)) b.book {} t ht
  refine ⟨t', ?_, hnone⟩
  unfold tpClContactsAdded withNames
  dsimp only
  rw [heq]
  rfl

theorem blind_tpClGetMembersCb {cs : List Contact} (h : ∀ c ∈ cs, c.name ≠ none) :
    Blind fun b => b.tpClGetMembersCb (some cs) := by
  intro b t ht
  obtain ⟨t', heq, hnone⟩ := Book.Blind.foldl
    (fun c hc => Book.blind_memberReportedInto b.pathSuffix (h c hc)) b.book {} t ht
  refine ⟨t', ?_, hnone⟩
  unfold tpClGetMembersCb rosterReceived withNames
  dsimp only
  rw [heq]

/-- The callback of the signal, for those that go by name. -/
def byName : Signal → Option (Backend → Backend)
  | .contactsAdded cs => some fun b => b.tpClContactsAdded cs
  | .getMembersDone (some cs) => some fun b => b.tpClGetMembersCb (some cs)
  | _ => none

theorem blind_of_named {s : Signal} (h : s.Named) : ∀ handler ∈ byName s, Blind handler := by
  intro handler hb
  cases s with
  | contactsAdded cs =>
    cases hb
    exact blind_tpClContactsAdded h
  | getMembersDone result =>
    cases result with
    | none => cases hb
    | some cs =>
      cases hb
      exact blind_tpClGetMembersCb h
  | _ => cases hb

/--
**No nameless contact reaches the tables.**

In every state of a process, whatever the roster layer hands over in any step, or at once when
it is asked for its members, has a name; and the callback that takes it by name neither looks
up nor stores a missing one.
-/
theorem no_nameless_contact {pathSuffix vcardField : String} {db : Db} {b : Backend}
    (hreach : ReachableFrom pathSuffix vcardField db b) :
    (∀ e cl signals, b.tpcl.step e = some (cl, signals) →
      ∀ s ∈ signals, s.Named ∧ ∀ handler ∈ byName s, Blind handler)
    ∧ ∀ s ∈ b.tpcl.getMembers.2, s.Named ∧ ∀ handler ∈ byName s, Blind handler := by
  refine ⟨fun e cl signals hstep s hs => ?_, fun s hs => ?_⟩
  · have hnamed := Cl.named_step (reachable_byHandle hreach) hstep s hs
    exact ⟨hnamed, blind_of_named hnamed⟩
  · have hnamed := Cl.named_getMembers b.tpcl s hs
    exact ⟨hnamed, blind_of_named hnamed⟩

/-- Two handles are added; only one of them can be inspected. -/
theorem no_nameless_contact_bob :
    ∃ b cl signals, ReachableFrom "acct" "X-JABBER" {} b
      ∧ b.tpcl.step (.contacts 4 (some [{ handle := 8, identifier := "bob" }])) = some (cl, signals)
      ∧ (cl.lookup 9).isSome = true ∧ (cl.contacts 1).name = some "bob"
      ∧ .contactsAdded [cl.contacts 1] ∈ signals
      ∧ ∀ s ∈ signals, s.Named ∧ ∀ handler ∈ byName s, Blind handler := by
  have hrun : ((machine.run (boot "acct" "X-JABBER" {})
      (firstSync ++ [{ event := .cl (.membersChanged .subscribe [8, 9] [] [] []) }])).bind fun b =>
        (b.tpcl.step (.contacts 4 (some [{ handle := 8, identifier := "bob" }]))).map fun p =>
          decide ((p.1.lookup 9).isSome = true ∧ (p.1.contacts 1).name = some "bob"
            ∧ .contactsAdded [p.1.contacts 1] ∈ p.2)) = some true := by
    decide +kernel
  obtain ⟨b, hb, hstep⟩ := Option.bind_eq_some_iff.mp hrun
  obtain ⟨⟨cl, signals⟩, hcl, hfacts⟩ := Option.map_eq_some_iff.mp hstep
  obtain ⟨hnine, hbob, hadded⟩ := of_decide_eq_true hfacts
  exact ⟨b, cl, signals, ⟨_, hb⟩, hcl, hnine, hbob, hadded,
    (no_nameless_contact ⟨_, hb⟩).1 _ _ _ hcl⟩

end Backend

end EdsTelepathy
