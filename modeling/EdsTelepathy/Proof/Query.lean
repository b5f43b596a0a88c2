import EdsTelepathy.Backend.Query
import EdsTelepathy.Proof.Indexes

/-!
# Queries and views

A query for everything and a view that is opened at the same moment walk over the same table.
The view leaves out the contacts that are not to be shown; the query leaves out none.
-/

namespace EdsTelepathy

namespace Contact

/-- The contact was deleted by the user, or it is on the publish list only. -/
def Hidden (c : Contact) : Prop :=
  c.pendingFlags.has scheduleDelete = true ∨ c.flags &&& allListFlags = publish

instance (c : Contact) : Decidable c.Hidden :=
  inferInstanceAs (Decidable (_ ∨ _))

theorem isVisible_iff_not_hidden (c : Contact) : c.isVisible = true ↔ ¬ c.Hidden := by
  unfold Hidden
  rw [isVisible_iff, not_or, Bool.not_eq_true]

end Contact

namespace Backend

theorem mem_foldl_matchInto {s : Contact.Surroundings} {sexp : Contact.EVCard → Bool}
    {cs list : List Contact} {c : Contact} :
    c ∈ cs.foldl (matchInto s true sexp) list ↔ c ∈ list ∨ c ∈ cs := by
  induction cs generalizing list with
  | nil => simp
  | cons d cs ih =>
    rw [List.foldl_cons, ih]
    unfold matchInto
    rw [Bool.true_or, if_pos rfl, List.mem_cons, List.mem_cons]
    tauto

/-- A view is sent the contacts of the table that are visible. -/
theorem update_mem_population {b : Backend} {c : Contact} : Notice.update c ∈ b.population ↔
    (∃ r ∈ Table.values b.book.uidToContact, b.book.contacts r = c) ∧ c.isVisible = true := by
  unfold population
  rw [List.mem_append, List.mem_map]
  constructor
  · rintro (⟨d, hd, he⟩ | h)
    · obtain rfl := Notice.update.inj he
      obtain ⟨hmem, hvisible⟩ := List.mem_filter.mp hd
      exact ⟨List.mem_map.mp hmem, hvisible⟩
    · cases List.mem_singleton.mp h
  · rintro ⟨hmem, hvisible⟩
    exact .inl ⟨c, List.mem_filter.mpr ⟨List.mem_map.mpr hmem, hvisible⟩, rfl⟩

/-- The answer to the query for everything is the whole table. -/
theorem getContactList_matchAll {parse : String → Option (Contact.EVCard → Bool)}
    {s : Contact.Surroundings} {b : Backend} {query : String} (hall : isMatchAll query = true)
    (hparse : (parse query).isSome = true) :
    ∃ cs, (getContactListIdleCb parse s b (some query)).1 = .ok cs
      ∧ ∀ c, c ∈ cs ↔ ∃ r ∈ Table.values b.book.uidToContact, b.book.contacts r = c := by
  obtain ⟨sexp, hsexp⟩ := Option.isSome_iff_exists.mp hparse
  have hne : query ≠ "" := by
    rintro rfl
    exact absurd hall (by decide)
  unfold getContactListIdleCb
  dsimp only
  rw [if_neg hne, hsexp, hall]
  refine ⟨_, rfl, fun c => ?_⟩
  rw [mem_foldl_matchInto]
  simp [getContact]

/-- The answer of a query for everything is what a view is sent, and nothing in it is hidden. -/
structure QueryAgrees (b : Backend) (cs : List Contact) : Prop where
  same : ∀ c, c ∈ cs ↔ Notice.update c ∈ b.population
  hidden : ∀ c : Contact, c.Hidden → c ∉ cs ∧ Notice.update c ∉ b.population

/--
**Queries and views agree** exactly while no contact of the table is hidden: the query does not
ask `e_book_backend_tp_contact_is_visible`.
-/
theorem query_agrees_with_views {parse : String → Option (Contact.EVCard → Bool)}
    {s : Contact.Surroundings} {b : Backend} {query : String} (hall : isMatchAll query = true)
    (hparse : (parse query).isSome = true) :
    (∃ cs, (getContactListIdleCb parse s b (some query)).1 = .ok cs ∧ b.QueryAgrees cs)
      ↔ ∀ r ∈ Table.values b.book.uidToContact, ¬ (b.book.contacts r).Hidden := by
  obtain ⟨cs, hanswer, hcs⟩ := getContactList_matchAll (s := s) (b := b) hall hparse
  constructor
  · rintro ⟨cs', hanswer', hagrees⟩ r hr hhidden
    obtain rfl : cs = cs' := by
      rw [hanswer] at hanswer'
      exact Except.ok.inj hanswer'
    exact (hagrees.hidden _ hhidden).1 ((hcs _).mpr ⟨r, hr, rfl⟩)
  · intro hshown
    have hvisible : ∀ c ∈ cs, ¬ c.Hidden := by
      intro c hc
      obtain ⟨r, hr, rfl⟩ := (hcs c).mp hc
      exact hshown r hr
    refine ⟨cs, hanswer, fun c => ?_, fun c hc => ⟨fun hmem => hvisible c hmem hc, fun hmem => ?_⟩⟩
    · rw [update_mem_population, ← hcs]
      exact ⟨fun h => ⟨h, c.isVisible_iff_not_hidden.mpr (hvisible c h)⟩, fun h => h.1⟩
    · exact c.isVisible_iff_not_hidden.mp (update_mem_population.mp hmem).2 hc

/-- The library takes the query for everything. -/
def parsesAll : String → Option (Contact.EVCard → Bool) := fun _ => some fun _ => true

/-- One contact of the roster, which sees the user and is seen. -/
theorem query_agrees_with_views_ann :
    ∃ b cs, ReachableFrom "acct" "X-JABBER" {} b
      ∧ (getContactListIdleCb parsesAll { vcardField := "X-JABBER" } b (some matchAll)).1 = .ok cs
      ∧ b.QueryAgrees cs ∧ b.book.uidToContact.lookup "acct-ann" = some 0 := by
  have hrun : ((machine.run (boot "acct" "X-JABBER" {}) firstSync).map fun b =>
      decide (b.book.uidToContact.lookup "acct-ann" = some 0
        ∧ ∀ r ∈ Table.values b.book.uidToContact, ¬ (b.book.contacts r).Hidden)) = some true := by
    decide +kernel
  obtain ⟨b, hb, hfacts⟩ := Option.map_eq_some_iff.mp hrun
  obtain ⟨hann, hshown⟩ := of_decide_eq_true hfacts
  have hall : isMatchAll matchAll = true := by decide
  have hparse : (parsesAll matchAll).isSome = true := rfl
  have hiff : (∃ cs, (getContactListIdleCb parsesAll { vcardField := "X-JABBER" } b
      (some matchAll)).1 = .ok cs ∧ b.QueryAgrees cs) ↔ _ := query_agrees_with_views hall hparse
  obtain ⟨cs, hanswer, hagrees⟩ := hiff.mpr hshown
  exact ⟨b, cs, ⟨_, hb⟩, hanswer, hagrees, hann⟩

/-- A contact that was created and deleted offline is still in the answer to a query. -/
theorem query_shows_deleted :
    ∃ b cs, ReachableFrom "acct" "X-JABBER" {} b
      ∧ (getContactListIdleCb parsesAll { vcardField := "X-JABBER" } b (some matchAll)).1 = .ok cs
      ∧ cs = [b.book.contacts 0] ∧ (b.book.contacts 0).pendingFlags.has scheduleDelete = true
      ∧ b.population = [.complete] ∧ ¬ b.QueryAgrees cs := by
  have hrun : ((machine.run (boot "acct" "X-JABBER" {})
      [{ event := .phase0 }, { event := creates "bob" }, { event := .removeContact "acct-bob" }]).map
        fun b =>
      decide (Table.values b.book.uidToContact = [0]
        ∧ (b.book.contacts 0).pendingFlags.has scheduleDelete = true
        ∧ b.population = [.complete])) = some true := by
    decide +kernel
  obtain ⟨b, hb, hfacts⟩ := Option.map_eq_some_iff.mp hrun
  obtain ⟨hvalues, hdelete, hpopulation⟩ := of_decide_eq_true hfacts
  have hanswer : (getContactListIdleCb parsesAll { vcardField := "X-JABBER" } b (some matchAll)).1
      = .ok [b.book.contacts 0] := by
    show Except.ok (((Table.values b.book.uidToContact).map b.book.contacts).foldl _ []) = _
    rw [hvalues]
    rfl
  refine ⟨b, _, ⟨_, hb⟩, hanswer, rfl, hdelete, hpopulation, fun h => ?_⟩
  exact (h.hidden _ (.inl hdelete)).1 (List.mem_singleton_self _)

end Backend

end EdsTelepathy
