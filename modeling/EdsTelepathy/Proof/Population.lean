import EdsTelepathy.Backend.Population
import EdsTelepathy.Proof.Answers
import EdsTelepathy.Proof.Query

/-!
# Every view is sent the same book

The order in which a hash table is walked says nothing, and it changes from one walk to the next.
What a view is sent does not depend on it: the visible contacts in the order of their tags, and
then the notice that it is complete. Only contacts whose tags are the same may change places.
-/

namespace EdsTelepathy

namespace SortTags

theorem compare_eq : compare = compareLex (compareOn SortTags.tag1) (compareOn SortTags.tag2) := rfl

instance : Std.TransCmp compare := by
  rw [compare_eq]
  infer_instance

theorem eq_of_compare {a b : SortTags} (h : compare a b = .eq) : a = b := by
  obtain ⟨h1, h2⟩ := Ordering.then_eq_eq.mp h
  obtain ⟨a1, a2⟩ := a
  obtain ⟨b1, b2⟩ := b
  rw [SortTags.mk.injEq]
  exact ⟨Std.LawfulEqOrd.eq_of_compare h1, Std.LawfulEqOrd.eq_of_compare h2⟩

instance : Std.LawfulEqCmp compare where
  eq_of_compare := eq_of_compare

end SortTags

namespace Backend

/-- The visible contacts as the table is walked. -/
theorem visible_perm {b : Backend} {order : List Nat}
    (h : order.Perm (Table.values b.book.uidToContact)) :
    ((order.map b.book.contacts).filter Contact.isVisible).Perm
      (((Table.values b.book.uidToContact).map b.book.contacts).filter Contact.isVisible) :=
  (h.map _).filter _

theorem mem_visible {b : Backend} {order : List Nat}
    (h : order.Perm (Table.values b.book.uidToContact)) {c : Contact} :
    c ∈ (order.map b.book.contacts).filter Contact.isVisible ↔ Notice.update c ∈ b.population := by
  rw [(visible_perm h).mem_iff, update_mem_population, List.mem_filter, List.mem_map]

/-- Two contacts that a view is sent never have the same tags. -/
def TagsDiffer (k : Collation) (sortOrder : ContactSortOrder) (s : Contact.Surroundings)
    (b : Backend) : Prop :=
  ∀ c d, Notice.update c ∈ b.population → Notice.update d ∈ b.population →
    sortTags k sortOrder s c = sortTags k sortOrder s d → c = d

/--
**Every view is sent the same book**, whatever sort order it has and however the table is walked:
the population, in the order of the tags. For another walk the tags come in the very same sequence,
and the notices too if the tags tell the contacts apart.
-/
theorem population_sorted (k : Collation) (sortOrder : ContactSortOrder) (s : Contact.Surroundings)
    {b : Backend} {order order' : List Nat} (h : order.Perm (Table.values b.book.uidToContact))
    (h' : order'.Perm (Table.values b.book.uidToContact)) :
    (b.notifyAllContactsUpdatedForView k sortOrder s order).Perm b.population
      ∧ (b.sortedContacts k sortOrder s order).Pairwise (fun c d =>
        (SortTags.compare (sortTags k sortOrder s c) (sortTags k sortOrder s d)).isLE = true)
      ∧ (b.sortedContacts k sortOrder s order).map (sortTags k sortOrder s)
        = (b.sortedContacts k sortOrder s order').map (sortTags k sortOrder s)
      ∧ (b.TagsDiffer k sortOrder s → b.notifyAllContactsUpdatedForView k sortOrder s order
        = b.notifyAllContactsUpdatedForView k sortOrder s order') := by
  have hboth := (visible_perm h).trans (visible_perm h').symm
  refine ⟨?_, Sorted.sortBy_sorted _, Sorted.map_key_sortBy hboth, ?_⟩
  · have hsorted := (Sorted.sortBy_perm SortTags.compare (sortTags k sortOrder s) _).trans (visible_perm h)
    exact (hsorted.map Notice.update).append_right _
  · intro hdiffer
    have hsame : b.sortedContacts k sortOrder s order = b.sortedContacts k sortOrder s order' := by
      refine Sorted.sortBy_eq hboth ?_
      intro c hc d hd htags
      exact hdiffer c d ((mem_visible h).mp hc) ((mem_visible h).mp hd) htags
    unfold notifyAllContactsUpdatedForView
    rw [hsame]

/-- No library knows a name, so that contacts are sorted by their addresses. -/
def plainCollation : Collation where
  givenName := fun _ => none
  familyName := fun _ => none
  nickname := fun _ => none
  collateKey := id

/-- The book of a cache with two contacts. -/
def annAndBob : Backend :=
  (boot "acct" "X-JABBER" twoRows).syncPhase0IdleCb

/-- The two contacts are met in one order and in the other. -/
theorem population_sorted_two :
    Table.values annAndBob.book.uidToContact = [1, 0]
      ∧ (annAndBob.sortedContacts plainCollation .firstLast { vcardField := "X-JABBER" } [0, 1]).map
          (sortTags plainCollation .firstLast { vcardField := "X-JABBER" })
        = (annAndBob.sortedContacts plainCollation .firstLast { vcardField := "X-JABBER" } [1, 0]).map
          (sortTags plainCollation .firstLast { vcardField := "X-JABBER" }) := by
  have hvalues : Table.values annAndBob.book.uidToContact = [1, 0] := by decide +kernel
  have hwalk : [0, 1].Perm (Table.values annAndBob.book.uidToContact) := by
    rw [hvalues]
    exact .swap 1 0 []
  have hwalk' : [1, 0].Perm (Table.values annAndBob.book.uidToContact) := by
    rw [hvalues]
  exact ⟨hvalues, (population_sorted plainCollation .firstLast { vcardField := "X-JABBER" }
    hwalk hwalk').2.2.1⟩

end Backend

end EdsTelepathy
