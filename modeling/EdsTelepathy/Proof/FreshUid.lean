import EdsTelepathy.Proof.Due
import EdsTelepathy.Proof.Removal

/-!
# Fresh uids

`e_book_backend_tp_generate_uid` tries one uid after the other until it finds one that is no key
of the uid index. Nothing in the loop counts down: it ends because no candidate is tried twice,
so of one more of them than there are keys one is free, whatever the keys look like. The same
count shows that the counter stays a `gint`. The uid is used before anything else can enter the
index, so the contact that is entered under it takes nobody's place.
-/

namespace EdsTelepathy

/-! ## The loop as it is written -/

/-- The variables of the loop after so many turns. -/
def UidSearch.after (pathSuffix : String) (name : Option String) (turns : Nat) : UidSearch :=
  { count := turns, tmp := uidCandidate pathSuffix name turns }

theorem UidSearch.next_after {turns : Nat} (h : (turns : Int) < gMaxInt) (pathSuffix : String)
    (name : Option String) :
    UidSearch.next pathSuffix name (.after pathSuffix name turns)
      = some (.after pathSuffix name (turns + 1)) := by
  unfold UidSearch.next UidSearch.after uidCandidate
  rw [if_pos h]
  rfl

/-- With enough lookups the loop ends, and with the uid that is given out. -/
theorem searchUid_eq {uids : Table String Nat} (hsize : Table.size uids < 2 ^ 31 - 1)
    (pathSuffix : String) (name : Option String) {fuel : Nat} (hfuel : Table.size uids < fuel) :
    searchUid pathSuffix uids name fuel = some (generateUid pathSuffix uids name) := by
  obtain ⟨n, hn, huid, hfree, htaken⟩ := generateUid_first pathSuffix uids name
  have hmax : gMaxInt = 2 ^ 31 - 1 := rfl
  have hend : (uids.lookup (UidSearch.after pathSuffix name n).tmp).isSome = false := by
    show (uids.lookup (uidCandidate pathSuffix name n)).isSome = false
    rw [hfree]
    rfl
  -- `n` is at most the number of keys, so the counter has not reached its end before
  have hloop : Loop.whileLoop (fun s : UidSearch => (uids.lookup s.tmp).isSome)
      (UidSearch.next pathSuffix name) fuel (.after pathSuffix name 0)
        = some (.after pathSuffix name n) :=
    Loop.whileLoop_trace (t := UidSearch.after pathSuffix name)
      (fun i hi => UidSearch.next_after (by omega) pathSuffix name) htaken hend (by omega)
  rw [huid]
  unfold searchUid
  exact congrArg (Option.map UidSearch.tmp) hloop

/-- The uid that a search of the index comes to, and that it was worth it. -/
structure Generated (pathSuffix : String) (uids : Table String Nat) (name : Option String)
    (uid : String) : Prop where
  /-- The loop ends with it, at the latest when every key has been met. -/
  ends : ∀ fuel, Table.size uids < fuel → searchUid pathSuffix uids name fuel = some uid
  /-- It is no key. -/
  free : uids.lookup uid = none

theorem generated_generateUid {uids : Table String Nat} (hsize : Table.size uids < 2 ^ 31 - 1)
    (pathSuffix : String) (name : Option String) :
    Generated pathSuffix uids name (generateUid pathSuffix uids name) :=
  ⟨fun _ hfuel => searchUid_eq hsize pathSuffix name hfuel, lookup_generateUid pathSuffix uids name⟩

/-! ## The contact that is entered -/

namespace Book

/-- A new contact is entered under a generated uid, and every other entry stays. -/
structure EntersFresh (pathSuffix : String) (b b' : Book) (name : Option String)
    (uid : String) : Prop where
  generated : Generated pathSuffix b.uidToContact name uid
  entered : b'.uidToContact.lookup uid = some b.next
  kept : ∀ k r, b.uidToContact.lookup k = some r → b'.uidToContact.lookup k = some r

theorem entersFresh_insert {b b' : Book} (hsize : Table.size b.uidToContact < 2 ^ 31 - 1)
    {pathSuffix : String} {name : Option String}
    (h : b'.uidToContact
      = b.uidToContact.insert (generateUid pathSuffix b.uidToContact name) b.next) :
    EntersFresh pathSuffix b b' name (generateUid pathSuffix b.uidToContact name) := by
  have hgen := generated_generateUid hsize pathSuffix name
  refine ⟨hgen, ?_, fun k r hk => ?_⟩
  · rw [h]
    exact AList.lookup_insert _
  · rw [h, Table.lookup_insert_eq_some]
    refine .inr ⟨?_, hk⟩
    rintro rfl
    rw [hgen.free] at hk
    cases hk

theorem contactAdded_uidToContact {b : Book} {c : Contact}
    (hnew : b.nameToContact.lookup c.name = none) (pathSuffix : String) :
    (b.contactAdded pathSuffix c).uidToContact
      = b.uidToContact.insert (generateUid pathSuffix b.uidToContact c.name) b.next := by
  have huid : ((b.contactFound pathSuffix c).contacts b.next).uid
      = generateUid pathSuffix b.uidToContact c.name :=
    congrArg Contact.uid (alloc_contacts_next b _)
  unfold contactAdded
  rw [hnew]
  show b.uidToContact.insert ((b.contactFound pathSuffix c).contacts b.next).uid b.next = _
  rw [huid]

theorem memberReported_uidToContact {b : Book} {cIn : Contact}
    (hnew : b.nameToContact.lookup cIn.name = none) (pathSuffix : String) :
    (b.memberReported pathSuffix cIn).uidToContact
      = b.uidToContact.insert (generateUid pathSuffix b.uidToContact cIn.name) b.next := by
  unfold memberReported
  rw [hnew]
  exact enterHandle_uidToContact (b.memberFound pathSuffix cIn) cIn.handle b.next

/-- A contact that is known by name is not given another uid. -/
theorem memberReported_known {b : Book} {cIn : Contact} {r : Nat}
    (hknown : b.nameToContact.lookup cIn.name = some r) (pathSuffix : String) :
    (b.memberReported pathSuffix cIn).uidToContact = b.uidToContact := by
  unfold memberReported
  rw [hknown]
  exact enterHandle_uidToContact (b.modify r cIn.seen) cIn.handle r

/-- `contacts-added` enters a known contact again under the uid it has, where it already is. -/
theorem contactAdded_known {b : Book} {c : Contact} {r : Nat}
    (hknown : b.nameToContact.lookup c.name = some r) (hlive : b.Live r) (pathSuffix : String)
    (k : String) :
    (b.contactAdded pathSuffix c).uidToContact.lookup k = b.uidToContact.lookup k := by
  have huid : ((b.contactConfirmed r c).contacts r).uid = (b.contacts r).uid := by
    unfold contactConfirmed
    rw [modify_contacts_self]
    rfl
  unfold contactAdded
  rw [hknown]
  show (b.uidToContact.insert ((b.contactConfirmed r c).contacts r).uid r).lookup k = _
  rw [huid, Table.lookup_insert_ite]
  split
  · rename_i hk
    rw [hk]
    exact hlive.symm
  · rfl

/-- Whoever a work table still has under a free uid has left the index. -/
theorem Filed.not_live {b : Book} (h : b.Filed) {uid : String}
    (hfree : b.uidToContact.lookup uid = none) (stage : Phase3Stage) {r : Nat}
    (hr : (Backend.workTable b stage).lookup uid = some r) : ¬ b.Live r := by
  intro hlive
  unfold Live at hlive
  rw [h.work stage uid r hr, hfree] at hlive
  cases hlive

end Book

namespace Backend

/--
A contact that is created is put in `contacts_to_add` under its uid as well. If another one is
there, it was deleted while it waited.
-/
theorem toAdd_replaces_deleted {pathSuffix vcardField : String} {db : Db} {b : Backend}
    (h : ReachableFrom pathSuffix vcardField db b) {name : Option String} {r : Nat}
    (hr : b.book.contactsToAdd.lookup (generateUid b.pathSuffix b.book.uidToContact name) = some r) :
    ¬ b.book.Live r :=
  (filed_reachable h).not_live (lookup_generateUid ..) .add hr

/-- The contact of a request that is served offline, at the lookup by name. -/
theorem runCreateContact_unconnected {b : Backend} (hoff : b.tpcl.status ≠ .online)
    {ec : Contact.EVCard} {c : Contact}
    (hcard : Contact.new.updateFromEcontact ec b.vcardField = (true, c)) :
    (b.runCreateContact ec).2.book = (b.enterEdits
      (c.submitted (generateUid b.pathSuffix b.book.uidToContact c.name))).foldl
        Book.apply b.book := by
  unfold runCreateContact
  rw [hcard]
  dsimp only
  rw [if_neg hoff]
  exact enterCreated_book b _

theorem runCreateContact_uidToContact {b : Backend} (hoff : b.tpcl.status ≠ .online)
    {ec : Contact.EVCard} {c : Contact}
    (hcard : Contact.new.updateFromEcontact ec b.vcardField = (true, c))
    (hnew : b.book.nameToContact.lookup c.name = none) :
    (b.runCreateContact ec).2.book.uidToContact
      = b.book.uidToContact.insert (generateUid b.pathSuffix b.book.uidToContact c.name)
          b.book.next := by
  rw [runCreateContact_unconnected hoff hcard]
  unfold enterEdits
  have hname : (c.submitted (generateUid b.pathSuffix b.book.uidToContact c.name)).name = c.name :=
    rfl
  rw [hname, hnew]
  exact Book.createContact_uidToContact b.book _

/--
**Generated uids are fresh, and generation ends.** In an index of fewer than 2³¹ - 1 entries,
whatever its keys, the loop comes to a uid that is no key, for every account and every name; and
where `contacts-added`, `get_members` or a request that is served offline meets a new name, the
contact is entered under that uid and every entry of the index stays what it was.
-/
theorem generated_uid_fresh (b : Backend) (hsize : Table.size b.book.uidToContact < 2 ^ 31 - 1) :
    (∀ pathSuffix name, ∃ uid, Generated pathSuffix b.book.uidToContact name uid)
      ∧ (∀ pathSuffix c, b.book.nameToContact.lookup c.name = none →
        ∃ uid, Book.EntersFresh pathSuffix b.book (b.book.contactAdded pathSuffix c) c.name uid)
      ∧ (∀ pathSuffix c, b.book.nameToContact.lookup c.name = none →
        ∃ uid, Book.EntersFresh pathSuffix b.book (b.book.memberReported pathSuffix c) c.name uid)
      ∧ (b.tpcl.status ≠ .online → ∀ ec c,
        Contact.new.updateFromEcontact ec b.vcardField = (true, c) →
        b.book.nameToContact.lookup c.name = none →
        ∃ uid, Book.EntersFresh b.pathSuffix b.book (b.runCreateContact ec).2.book c.name uid) := by
  refine ⟨fun pathSuffix name => ⟨_, generated_generateUid hsize pathSuffix name⟩,
    fun pathSuffix c hnew => ?_, fun pathSuffix c hnew => ?_, fun hoff ec c hcard hnew => ?_⟩
  · exact ⟨_, Book.entersFresh_insert hsize (Book.contactAdded_uidToContact hnew pathSuffix)⟩
  · exact ⟨_, Book.entersFresh_insert hsize (Book.memberReported_uidToContact hnew pathSuffix)⟩
  · exact ⟨_, Book.entersFresh_insert hsize (runCreateContact_uidToContact hoff hcard hnew)⟩

/-- The name of the second contact ends like a generated uid: it has the second uid for `ann`. -/
def suffixedBook : Book :=
  { next := 2
    nameToContact := ((∅ : Table (Option String) Nat).insert (some "Ann") 0).insert (some "ann-1") 1
    uidToContact := ((∅ : Table String Nat).insert "acct-ann" 0).insert "acct-ann-1" 1 }

theorem generated_uid_fresh_suffixed :
    ∃ uid, Book.EntersFresh "acct" suffixedBook
      (suffixedBook.contactAdded "acct" { Contact.new with name := some "ann" }) (some "ann") uid :=
  (generated_uid_fresh { book := suffixedBook } (by decide)).2.1 "acct"
    { Contact.new with name := some "ann" } (by decide)

end Backend

end EdsTelepathy
