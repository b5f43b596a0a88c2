import EdsTelepathy.Proof.Edits

/-!
# What the roster reply does to the contacts that are known

The loop of `tp_cl_get_members_cb` never takes a name away from a contact: a name that is
known keeps its contact, and a new name gets a new object. So what a known contact goes
through is one `seen` for every entry of the reply that carries its name, and after the
first of them it is no longer marked unseen.
-/

namespace EdsTelepathy

namespace Book

theorem enterHandle_book (b : Book) (h r : Nat) :
    ∃ t, b.enterHandle h r = { b with handleToContact := t } := by
  unfold enterHandle
  split
  · exact ⟨_, rfl⟩
  · exact ⟨_, rfl⟩

/-- A name that is known keeps its contact. -/
theorem memberReported_name {pathSuffix : String} {b : Book} {cIn : Contact} {n : Option String}
    {r : Nat} (hr : b.nameToContact.lookup n = some r) :
    (b.memberReported pathSuffix cIn).nameToContact.lookup n = some r := by
  unfold memberReported
  cases hc : b.nameToContact.lookup cIn.name with
  | some r' =>
    obtain ⟨t, ht⟩ := enterHandle_book (b.modify r' cIn.seen) cIn.handle r'
    dsimp only
    rw [ht]; exact hr
  | none =>
    obtain ⟨t, ht⟩ := enterHandle_book (b.memberFound pathSuffix cIn) cIn.handle b.next
    have hne : n ≠ cIn.name := by
      rintro rfl
      rw [hr] at hc; cases hc
    dsimp only
    rw [ht]
    have hins : (b.memberFound pathSuffix cIn).nameToContact
        = b.nameToContact.insert cIn.name b.next := rfl
    dsimp only
    rw [hins, AList.lookup_insert_ne hne]; exact hr

theorem memberReported_next (pathSuffix : String) (b : Book) (cIn : Contact) :
    b.next ≤ (b.memberReported pathSuffix cIn).next := by
  unfold memberReported
  split
  · rename_i r' _
    obtain ⟨t, ht⟩ := enterHandle_book (b.modify r' cIn.seen) cIn.handle r'
    rw [ht]; exact Nat.le_refl _
  · obtain ⟨t, ht⟩ := enterHandle_book (b.memberFound pathSuffix cIn) cIn.handle b.next
    rw [ht]; exact Nat.le_succ _

/-- An object that exists is left alone, or refreshed if the entry carries its name. -/
theorem memberReported_contact {pathSuffix : String} {b : Book} {cIn : Contact} {r : Nat}
    (hlt : r < b.next) :
    (b.memberReported pathSuffix cIn).contacts r
      = if b.nameToContact.lookup cIn.name = some r then cIn.seen (b.contacts r)
        else b.contacts r := by
  unfold memberReported
  cases hc : b.nameToContact.lookup cIn.name with
  | some r' =>
    obtain ⟨t, ht⟩ := enterHandle_book (b.modify r' cIn.seen) cIn.handle r'
    dsimp only
    rw [ht]
    by_cases he : r' = r
    · subst he
      rw [if_pos rfl]; exact modify_contacts_self b r' _
    · rw [if_neg (fun h => he (Option.some.inj h))]
      exact modify_contacts_of_ne fun h => he h.symm
  | none =>
    obtain ⟨t, ht⟩ := enterHandle_book (b.memberFound pathSuffix cIn) cIn.handle b.next
    dsimp only
    rw [ht, if_neg (by simp)]
    exact alloc_contacts_of_ne (Nat.ne_of_lt hlt)

theorem seen_not_unseen (cIn c : Contact) : (cIn.seen c).flags.has contactUnseen = false :=
  BitVec.clear_has_self _ _

/-- **Whoever is in the reply is not marked unseen after it.** -/
theorem foldl_memberReported_seen {pathSuffix : String} {cs : List Contact} {b : Book}
    {n : Option String} {r : Nat} (hr : b.nameToContact.lookup n = some r) (hlt : r < b.next)
    (hc : (b.contacts r).flags.has contactUnseen = false ∨ ∃ c ∈ cs, c.name = n) :
    ((cs.foldl (memberReported pathSuffix) b).contacts r).flags.has contactUnseen = false := by
  induction cs generalizing b with
  | nil =>
    rcases hc with hc | ⟨c, hc, -⟩
    · exact hc
    · cases hc
  | cons c cs ih =>
    refine ih (memberReported_name hr) (Nat.lt_of_lt_of_le hlt (memberReported_next _ _ _)) ?_
    rw [memberReported_contact hlt]
    by_cases hn : b.nameToContact.lookup c.name = some r
    · rw [if_pos hn]
      exact .inl (seen_not_unseen c _)
    · rw [if_neg hn]
      rcases hc with hc | ⟨c', hc', heq⟩
      · exact .inl hc
      · rcases List.mem_cons.mp hc' with rfl | hc'
        · exact absurd (by rw [heq]; exact hr) hn
        · exact .inr ⟨c', hc', heq⟩

end Book

namespace Backend

/-- A known contact whose name is in the reply is none of those phase 2 looks for. -/
theorem rosterReceived_seen {b : Backend} {cs : List Contact} {c : Contact} {r : Nat}
    (hr : b.book.nameToContact.lookup c.name = some r) (hlt : r < b.book.next) (hc : c ∈ cs) :
    ((b.rosterReceived cs).book.contacts r).flags.has contactUnseen = false := by
  rw [rosterReceived_book, List.foldl_map]
  exact Book.foldl_memberReported_seen hr hlt (.inr ⟨c, hc, rfl⟩)

end Backend

end EdsTelepathy
