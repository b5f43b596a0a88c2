import EdsTelepathy.Proof.FiniteMap

/-!
# The loader

`fetch_contacts` reads three sorted tables and goes over the contacts with one cursor for the
master UIDs and with another for the variants. Rows may name a contact that is not there, or
none at all. What comes out is the plain join, whatever lies between the rows that fit.
-/

namespace EdsTelepathy

namespace Db

/-- A row of `contacts` with the rows of its uid: the master UIDs in their order, the variants as a set. -/
def plainJoin (masterUids : List (WithBot String × Option String))
    (variants : List (WithBot String × String)) (e : String × ContactRow) : Contact :=
  { rowContact e.1 e.2 with
    masterUids := (masterUids.filter fun r => r.1 = (e.1 : WithBot String)).map Prod.snd
    variants := (variants.filter fun r => r.1 = (e.1 : WithBot String)).foldl (fun vs r => vs.insert r.2) [] }

theorem mem_plainJoin_variants {masterUids : List (WithBot String × Option String)}
    {variants : List (WithBot String × String)} {e : String × ContactRow} {v : String} :
    v ∈ (plainJoin masterUids variants e).variants ↔ ((e.1 : WithBot String), v) ∈ variants := by
  show v ∈ (variants.filter fun r => r.1 = (e.1 : WithBot String)).foldl (fun vs r => vs.insert r.2) [] ↔ _
  rw [mem_foldl_insert, Join.exists_row]
  simp

/-- What the two joins add to a contact. -/
theorem withRows_rowContact (masterUids : List (WithBot String × Option String))
    (variants : List (WithBot String × String)) (e : String × ContactRow) :
    Join.withRows (fun c : Contact => (c.uid : WithBot String)) withVariant variants
        (Join.withRows (fun c : Contact => (c.uid : WithBot String)) withMasterUid masterUids
          (rowContact e.1 e.2))
      = plainJoin masterUids variants e := by
  unfold Join.withRows
  rw [foldl_withMasterUid, foldl_withVariant]
  rfl

theorem fetchScanned_eq {rows : List (String × ContactRow)}
    {masterUids : List (WithBot String × Option String)} {variants : List (WithBot String × String)}
    (hrows : rows.Pairwise (fun e f => e.1 < f.1))
    (hmasters : masterUids.Pairwise (fun r s => r.1 ≤ s.1))
    (hvariants : variants.Pairwise (fun r s => r.1 ≤ s.1)) {fuel : Nat} (hfuel : rows.length < fuel) :
    fetchScanned fuel rows masterUids variants = .ok (rows.map (plainJoin masterUids variants)) := by
  let key : Contact → WithBot String := fun c => c.uid
  let contacts := rows.map fun e => rowContact e.1 e.2
  have hm : ∀ c m, key (withMasterUid c m) = key c := fun _ _ => rfl
  have hv : ∀ c v, key (withVariant c v) = key c := fun _ _ => rfl
  have hcontacts : contacts.Pairwise (fun c d => key c < key d) := by
    rw [List.pairwise_map]
    exact hrows.imp fun h => WithBot.coe_lt_coe.mpr h
  have hjoined : (contacts.map (Join.withRows key withMasterUid masterUids)).Pairwise
      (fun c d => key c < key d) := by
    rw [List.pairwise_map]
    refine hcontacts.imp fun h => ?_
    rwa [Join.key_withRows key _ hm, Join.key_withRows key _ hm]
  have hlen : contacts.length < fuel := by rwa [List.length_map]
  have hlen' : (contacts.map (Join.withRows key withMasterUid masterUids)).length < fuel := by
    rwa [List.length_map]
  have hfirst := Cursor.scan_eq key withMasterUid hlen masterUids
  rw [Join.addRows_eq hm hcontacts hmasters] at hfirst
  have hsecond := Cursor.scan_eq key withVariant hlen' variants
  rw [Join.addRows_eq hv hjoined hvariants] at hsecond
  unfold fetchScanned
  rw [hfirst]
  dsimp only
  rw [hsecond, List.map_map, List.map_map]
  exact congrArg Except.ok (List.map_congr_left fun e _ => withRows_rowContact masterUids variants e)

/--
**The loader's merge join is the plain join.**

The contacts come in the order of their uids, each uid once, and the rows of the two other tables in
the order of theirs. If each inner loop may take one turn more than there are contacts, the loader
ends without a fault, and each contact has the master UIDs and the variants of its uid.
-/
theorem fetch_contacts_joins {rows : List (String × ContactRow)}
    {masterUids : List (WithBot String × Option String)} {variants : List (WithBot String × String)}
    (hrows : rows.Pairwise (fun e f => e.1 < f.1))
    (hmasters : masterUids.Pairwise (fun r s => r.1 ≤ s.1))
    (hvariants : variants.Pairwise (fun r s => r.1 ≤ s.1)) {fuel : Nat} (hfuel : rows.length < fuel) :
    fetchScanned fuel rows masterUids variants = .ok (rows.map (plainJoin masterUids variants))
      ∧ ∀ e ∈ rows, ∀ v, v ∈ (plainJoin masterUids variants e).variants
          ↔ ((e.1 : WithBot String), v) ∈ variants :=
  ⟨fetchScanned_eq hrows hmasters hvariants hfuel, fun _ _ _ => mem_plainJoin_variants⟩

/-- Two contacts, and rows that belong to none before, between and after them. -/
theorem fetch_contacts_orphans :
    fetchScanned 3 [("acct-ann", { name := "ann" }), ("acct-bob", { name := "bob" })]
        [(none, some "1"), ("acct-ann", some "12"), ("acct-ann", some "7"), ("acct-ava", some "2"),
          ("acct-eve", some "3")]
        [("acct-a", "a"), ("acct-bob", "Bob"), ("acct-eve", "Eve")]
      = .ok [plainJoin
          [(none, some "1"), ("acct-ann", some "12"), ("acct-ann", some "7"), ("acct-ava", some "2"),
            ("acct-eve", some "3")]
          [("acct-a", "a"), ("acct-bob", "Bob"), ("acct-eve", "Eve")] ("acct-ann", { name := "ann" }),
        plainJoin
          [(none, some "1"), ("acct-ann", some "12"), ("acct-ann", some "7"), ("acct-ava", some "2"),
            ("acct-eve", some "3")]
          [("acct-a", "a"), ("acct-bob", "Bob"), ("acct-eve", "Eve")] ("acct-bob", { name := "bob" })] :=
  (fetch_contacts_joins (by decide) (by decide) (by decide) (by decide)).1

/-! ## The tables of a database -/

/-- What `QUERY_FETCH_CONTACTS` returns. -/
def contactRows (db : Db) : List (String × ContactRow) :=
  (db.contacts.entries.insertionSort (fun a b => a.1 ≤ b.1)).map fun e => (e.1, e.2)

/-- What the two other queries return, in a table none of whose uids is `NULL`. -/
def queried {α : Type} (rows : List (String × α)) : List (WithBot String × α) :=
  (ordered rows).map fun r => (r.1, r.2)

theorem queried_sorted {α : Type} (rows : List (String × α)) :
    (queried rows).Pairwise (fun r s => r.1 ≤ s.1) := by
  unfold queried
  rw [List.pairwise_map]
  exact (ordered_sorted rows).imp fun h => WithBot.coe_le_coe.mpr h

theorem filter_queried {α : Type} (rows : List (String × α)) (uid : String) :
    (queried rows).filter (fun r => r.1 = (uid : WithBot String))
      = ((ordered rows).filter fun r => r.1 = uid).map fun r => ((r.1 : WithBot String), r.2) := by
  unfold queried
  rw [List.filter_map]
  refine congrArg (List.map _) (List.filter_congr fun r _ => ?_)
  simp

theorem plainJoin_queried (db : Db) (e : String × ContactRow) :
    plainJoin (queried db.masterUids) (queried db.variants) e = db.completed (rowContact e.1 e.2) := by
  unfold completed Join.withRows plainJoin
  rw [foldl_withMasterUid, foldl_withVariant, filter_queried, filter_queried, List.map_map,
    List.foldl_map]
  rfl

/-- On the tables of a database the cursors make the join that `fetchJoined` is. -/
theorem fetchScanned_database (db : Db) {fuel : Nat} (hfuel : db.contactRows.length < fuel) :
    fetchScanned fuel db.contactRows (queried db.masterUids) (queried db.variants)
      = .ok db.fetchJoined := by
  have hrows : db.contactRows.Pairwise (fun e f => e.1 < f.1) := by
    have hsorted := db.fetchRows_sorted
    unfold fetchRows at hsorted
    unfold contactRows
    rw [List.pairwise_map] at hsorted ⊢
    exact hsorted
  rw [fetchScanned_eq hrows (queried_sorted _) (queried_sorted _) hfuel, fetchJoined_eq]
  unfold contactRows fetchRows
  rw [List.map_map, List.map_map]
  exact congrArg Except.ok (List.map_congr_left fun e _ => db.plainJoin_queried _)

end Db

end EdsTelepathy
