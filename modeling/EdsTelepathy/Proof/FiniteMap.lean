import EdsTelepathy.Proof.Rows
import EdsTelepathy.Sql

/-!
# The cache as a finite map

What the cache is for: it keeps, under each uid, the contact that was last added or
updated there. The three tables show this map when they are read, except for one thing:
an update whose uid is not stored matches no row of `contacts`, but it does insert the
master UIDs and the variants, and the next contact added under that uid is read back with
them. So the map is shown in every state exactly where every contact that is added finds
no rows but its own in the two other tables.
-/

namespace EdsTelepathy

/-- What the cache stands for: the contact last added or updated under each uid. -/
abbrev CacheMap := String → Option Contact

namespace CacheMap

/-- Add a contact: its uid must be free, and it must have a name. -/
def add (m : CacheMap) (c : Contact) : Option CacheMap :=
  if c.name = none ∨ (m c.uid).isSome = true then none
  else some (Function.update m c.uid (some c))

/-- Update a contact: nothing happens if its uid is not stored. -/
def update (m : CacheMap) (c : Contact) : Option CacheMap :=
  if (m c.uid).isSome = true then
    if c.name = none then none else some (Function.update m c.uid (some c))
  else some m

/-- Delete a uid. -/
def delete (m : CacheMap) (uid : String) : CacheMap := Function.update m uid none

end CacheMap

/-- What a call does to the map, where it does not fail. -/
def DbCall.applyMap : DbCall → CacheMap → Option CacheMap
  | .addContact c, m => [c].foldlM CacheMap.add m
  | .addContacts cs, m => cs.foldlM CacheMap.add m
  | .updateContact c, m => [c].foldlM CacheMap.update m
  | .updateContacts cs, m => cs.foldlM CacheMap.update m
  | .deleteContact uid, m => some ([uid].foldl CacheMap.delete m)
  | .removeContacts uids, m => some (uids.foldl CacheMap.delete m)

/-- A fetched contact carries what the other one was stored with. -/
structure Shows (fetched c : Contact) : Prop where
  name : fetched.name = c.name
  aliasName : fetched.aliasName = c.aliasName
  avatarToken : fetched.avatarToken = c.avatarToken
  flags : fetched.flags = c.flags
  pendingFlags : fetched.pendingFlags = c.pendingFlags
  contactInfo : fetched.contactInfo = c.contactInfo
  masterUids : ∀ x, x ∈ fetched.masterUids ↔ x ∈ c.masterUids
  variants : ∀ v, v ∈ fetched.variants ↔ v ∈ c.variants

/-- `fetch_contacts` returns exactly the map: one contact for each uid that is stored. -/
def Db.Mirrors (db : Db) (m : CacheMap) : Prop :=
  ∀ uid, match m uid with
    | none => ∀ c ∈ db.fetchJoined, c.uid ≠ uid
    | some c => ∃ c', db.fetchJoined.filter (fun d => d.uid = uid) = [c'] ∧ Shows c' c

namespace Db

/-! ## What is fetched -/

instance byUid_total {α : Type} : Std.Total (fun r s : String × α => r.1 ≤ s.1) :=
  ⟨fun r s => le_total r.1 s.1⟩

instance byUid_trans {α : Type} : IsTrans (String × α) (fun r s => r.1 ≤ s.1) :=
  ⟨fun _ _ _ h h' => le_trans h h'⟩

theorem ordered_sorted {α : Type} (rows : List (String × α)) :
    (ordered rows).Pairwise (fun r s => r.1 ≤ s.1) :=
  List.pairwise_insertionSort _ rows

theorem mem_ordered {α : Type} {rows : List (String × α)} {r : String × α} :
    r ∈ ordered rows ↔ r ∈ rows := List.mem_insertionSort _

instance byKey_total : Std.Total (fun r s : (_ : String) × ContactRow => r.1 ≤ s.1) :=
  ⟨fun r s => le_total r.1 s.1⟩

instance byKey_trans : IsTrans ((_ : String) × ContactRow) (fun r s => r.1 ≤ s.1) :=
  ⟨fun _ _ _ h h' => le_trans h h'⟩

/-- The contacts come in the order of their uids, each uid once. -/
theorem fetchRows_sorted (db : Db) : db.fetchRows.Pairwise (fun c d => c.uid < d.uid) := by
  unfold fetchRows
  rw [List.pairwise_map]
  have hle := List.pairwise_insertionSort (fun r s : (_ : String) × ContactRow => r.1 ≤ s.1)
    db.contacts.entries
  have hne : (db.contacts.entries.insertionSort (fun a b => a.1 ≤ b.1)).Pairwise
      (fun r s => r.1 ≠ s.1) := by
    refine (List.perm_insertionSort _ _).symm.pairwise ?_ (fun h => h.symm)
    exact List.nodupKeys_iff_pairwise.mp db.contacts.nodupKeys
  exact (hle.and hne).imp fun h => lt_of_le_of_ne h.1 h.2

theorem mem_fetchRows {db : Db} {c : Contact} :
    c ∈ db.fetchRows ↔ ∃ uid row, db.contacts.lookup uid = some row ∧ rowContact uid row = c := by
  unfold fetchRows
  rw [List.mem_map]
  constructor
  · rintro ⟨⟨uid, row⟩, hmem, rfl⟩
    exact ⟨uid, row, AList.mem_lookup_iff.mpr ((List.mem_insertionSort _).mp hmem), rfl⟩
  · rintro ⟨uid, row, hrow, rfl⟩
    exact ⟨⟨uid, row⟩, (List.mem_insertionSort _).mpr (AList.mem_lookup_iff.mp hrow), rfl⟩

/-- A contact as the two joins complete it. -/
def completed (db : Db) (c : Contact) : Contact :=
  Join.withRows Contact.uid withVariant (ordered db.variants)
    (Join.withRows Contact.uid withMasterUid (ordered db.masterUids) c)

theorem fetchJoined_eq (db : Db) : db.fetchJoined = db.fetchRows.map db.completed := by
  have hm : ∀ (c : Contact) (m : Option String), (withMasterUid c m).uid = c.uid := fun _ _ => rfl
  have hv : ∀ (c : Contact) (v : String), (withVariant c v).uid = c.uid := fun _ _ => rfl
  have hkeep := Join.key_withRows Contact.uid withMasterUid hm (ordered db.masterUids)
  have hsorted := db.fetchRows_sorted
  unfold fetchJoined
  rw [Join.addRows_eq hm hsorted (ordered_sorted _),
    Join.addRows_eq hv ?_ (ordered_sorted _), List.map_map]
  · rfl
  · rw [List.pairwise_map]
    exact hsorted.imp fun h => by rwa [hkeep, hkeep]

theorem foldl_withMasterUid {κ : Type} (rows : List (κ × Option String)) (c : Contact) :
    rows.foldl (fun c r => withMasterUid c r.2) c
      = { c with masterUids := c.masterUids ++ rows.map Prod.snd } := by
  induction rows generalizing c with
  | nil => simp
  | cons r rows ih =>
    rw [List.foldl_cons, ih]
    simp [withMasterUid]

theorem foldl_withVariant {κ : Type} (rows : List (κ × String)) (c : Contact) :
    rows.foldl (fun c r => withVariant c r.2) c
      = { c with variants := rows.foldl (fun vs r => vs.insert r.2) c.variants } := by
  induction rows generalizing c with
  | nil => rfl
  | cons r rows ih => exact ih (withVariant c r.2)

theorem mem_foldl_insert {κ : Type} (rows : List (κ × String)) (vs : List String) (v : String) :
    v ∈ rows.foldl (fun vs r => vs.insert r.2) vs ↔ v ∈ vs ∨ ∃ r ∈ rows, r.2 = v := by
  induction rows generalizing vs with
  | nil => simp
  | cons r rows ih =>
    rw [List.foldl_cons, ih, List.mem_insert_iff]
    constructor
    · rintro ((rfl | h) | ⟨r', hr', rfl⟩)
      · exact .inr ⟨r, List.mem_cons_self, rfl⟩
      · exact .inl h
      · exact .inr ⟨r', List.mem_cons_of_mem r hr', rfl⟩
    · rintro (h | ⟨r', hr', rfl⟩)
      · exact .inl (.inr h)
      · rcases List.mem_cons.mp hr' with rfl | hr'
        · exact .inl (.inl rfl)
        · exact .inr ⟨r', hr', rfl⟩

/-- A fetched contact has the columns of its row, and all the rows of its uid. -/
structure Fetched (db : Db) (uid : String) (row : ContactRow) (c : Contact) : Prop where
  columns : rowContact uid row = { c with masterUids := [], variants := [] }
  masterUids : ∀ x, x ∈ c.masterUids ↔ (uid, x) ∈ db.masterUids
  variants : ∀ v, v ∈ c.variants ↔ (uid, v) ∈ db.variants

theorem completed_fetched (db : Db) (uid : String) (row : ContactRow) :
    Fetched db uid row (db.completed (rowContact uid row)) := by
  unfold completed Join.withRows
  rw [foldl_withMasterUid, foldl_withVariant]
  refine ⟨rfl, fun x => ?_, fun v => ?_⟩
  · have hmem : x ∈ ((ordered db.masterUids).filter (fun r => r.1 = uid)).map Prod.snd
        ↔ (uid, x) ∈ db.masterUids := by
      rw [List.mem_map, Join.exists_row, mem_ordered]
    exact hmem
  · rw [mem_foldl_insert]
    have hmem : (∃ r ∈ (ordered db.variants).filter (fun r => r.1 = uid), r.2 = v)
        ↔ (uid, v) ∈ db.variants := by
      rw [Join.exists_row, mem_ordered]
    constructor
    · rintro (h | h)
      · cases h
      · exact hmem.mp h
    · exact fun h => .inr (hmem.mpr h)

theorem mem_fetchJoined {db : Db} {c : Contact} :
    c ∈ db.fetchJoined ↔
      ∃ uid row, db.contacts.lookup uid = some row ∧ db.completed (rowContact uid row) = c := by
  rw [fetchJoined_eq, List.mem_map]
  constructor
  · rintro ⟨d, hd, rfl⟩
    obtain ⟨uid, row, hrow, rfl⟩ := mem_fetchRows.mp hd
    exact ⟨uid, row, hrow, rfl⟩
  · rintro ⟨uid, row, hrow, rfl⟩
    exact ⟨_, mem_fetchRows.mpr ⟨uid, row, hrow, rfl⟩, rfl⟩

theorem Fetched.uid_eq {db : Db} {uid : String} {row : ContactRow} {c : Contact}
    (h : Fetched db uid row c) : c.uid = uid := congrArg Contact.uid h.columns.symm

theorem fetchJoined_sorted (db : Db) : db.fetchJoined.Pairwise (fun c d => c.uid < d.uid) := by
  have hkeep : ∀ c : Contact, (db.completed c).uid = c.uid := fun c =>
    (Join.key_withRows Contact.uid withVariant (fun _ _ => rfl) _ _).trans
      (Join.key_withRows Contact.uid withMasterUid (fun _ _ => rfl) _ _)
  rw [fetchJoined_eq, List.pairwise_map]
  exact db.fetchRows_sorted.imp fun h => by rwa [hkeep, hkeep]

/-- In a list without a repeated uid, the only contact with the uid of a member is that member. -/
theorem filter_uid_eq {cs : List Contact} (hcs : cs.Pairwise (fun c d => c.uid < d.uid))
    {c : Contact} (hc : c ∈ cs) : cs.filter (fun d => d.uid = c.uid) = [c] := by
  induction cs with
  | nil => cases hc
  | cons d cs ih =>
    obtain ⟨hlt, hrest⟩ := List.pairwise_cons.mp hcs
    rcases List.mem_cons.mp hc with rfl | hc
    · have hnone : cs.filter (fun d => d.uid = c.uid) = [] := by
        rw [List.filter_eq_nil_iff]
        intro d hd
        simpa using (ne_of_lt (hlt d hd)).symm
      simp [hnone]
    · have hne : d.uid ≠ c.uid := ne_of_lt (hlt c hc)
      simpa [hne] using ih hrest hc

/-- The one-step reading that the backend is given returns the same contacts. -/
theorem fetchContact_fetched (db : Db) (uid : String) (row : ContactRow) :
    Fetched db uid row (db.fetchContact uid row) := by
  refine ⟨rfl, fun x => ?_, fun v => ?_⟩
  · simp [fetchContact, List.mem_filter]
  · simp [fetchContact, List.mem_filter]

theorem fetchJoined_same (db : Db) :
    List.Forall₂ (fun c d => ∃ uid row, Fetched db uid row c ∧ Fetched db uid row d)
      db.fetchJoined db.fetchContacts := by
  rw [fetchJoined_eq, fetchRows, List.map_map, fetchContacts]
  rw [List.forall₂_map_left_iff, List.forall₂_map_right_iff, List.forall₂_same]
  exact fun e _ => ⟨e.1, e.2, completed_fetched db e.1 e.2, fetchContact_fetched db e.1 e.2⟩

/-! ## What the tables must say -/

/-- The rows of `contacts` are those of the map, and the map holds contacts under their uids. -/
structure RowsOf (db : Db) (m : CacheMap) : Prop where
  rows : ∀ uid, db.contacts.lookup uid
    = (m uid).bind fun c => c.name.map (rowOf c)
  named : ∀ uid c, m uid = some c → c.uid = uid ∧ c.name ≠ none

/-- Under a uid that is stored, the other two tables have the rows of its contact. -/
def SetsOf (db : Db) (m : CacheMap) (uid : String) : Prop :=
  ∀ c, m uid = some c → (∀ x, (uid, x) ∈ db.masterUids ↔ x ∈ c.masterUids) ∧
    ∀ v, (uid, v) ∈ db.variants ↔ v ∈ c.variants

theorem RowsOf.lookup_of {db : Db} {m : CacheMap} (h : RowsOf db m) {uid : String}
    {c : Contact} (hc : m uid = some c) :
    ∃ n, c.name = some n ∧ db.contacts.lookup uid = some (rowOf c n) := by
  obtain ⟨n, hn⟩ := Option.ne_none_iff_exists'.mp (h.named uid c hc).2
  refine ⟨n, hn, ?_⟩
  rw [h.rows uid, hc, Option.bind_some, hn, Option.map_some]

theorem RowsOf.isSome {db : Db} {m : CacheMap} (h : RowsOf db m) (uid : String) :
    (db.contacts.lookup uid).isSome = (m uid).isSome := by
  cases hm : m uid with
  | none => rw [h.rows uid, hm]; rfl
  | some c =>
    obtain ⟨n, -, hrow⟩ := h.lookup_of hm
    rw [hrow]; rfl

/-- **Reading shows the map where the sets agree, and only there.** -/
theorem mirrors_iff {db : Db} {m : CacheMap} (h : RowsOf db m) :
    db.Mirrors m ↔ ∀ uid, SetsOf db m uid := by
  constructor
  · -- what is read under a uid has the sets of its row
    intro hshow uid c hc
    have hu := hshow uid
    rw [hc] at hu
    obtain ⟨c', hfilter, hsh⟩ := hu
    have hmem : c' ∈ db.fetchJoined.filter (fun d => d.uid = uid) := by
      rw [hfilter]; exact List.mem_singleton_self c'
    obtain ⟨hmem, huid⟩ := List.mem_filter.mp hmem
    obtain ⟨uid', row, -, rfl⟩ := mem_fetchJoined.mp hmem
    have hf := completed_fetched db uid' row
    have he : uid' = uid := hf.uid_eq.symm.trans (of_decide_eq_true huid)
    subst he
    exact ⟨fun x => (hf.masterUids x).symm.trans (hsh.masterUids x),
      fun v => (hf.variants v).symm.trans (hsh.variants v)⟩
  · intro hsets uid
    cases hm : m uid with
    | none =>
      intro c hc huid
      obtain ⟨uid', row, hrow, rfl⟩ := mem_fetchJoined.mp hc
      rw [(completed_fetched db uid' row).uid_eq] at huid
      have hsome := h.isSome uid'
      rw [hrow, huid, hm] at hsome
      cases hsome
    | some c =>
      obtain ⟨n, hn, hrow⟩ := h.lookup_of hm
      have hf := completed_fetched db uid (rowOf c n)
      refine ⟨db.completed (rowContact uid (rowOf c n)), ?_, ?_⟩
      · -- the tables are sorted, so there is one contact for the uid
        have hmem : db.completed (rowContact uid (rowOf c n)) ∈ db.fetchJoined :=
          mem_fetchJoined.mpr ⟨uid, _, hrow, rfl⟩
        have := filter_uid_eq db.fetchJoined_sorted hmem
        rwa [hf.uid_eq] at this
      · have hcol := hf.columns
        exact {
          name := (congrArg Contact.name hcol).symm.trans hn.symm
          aliasName := (congrArg Contact.aliasName hcol).symm
          avatarToken := (congrArg Contact.avatarToken hcol).symm
          flags := (congrArg Contact.flags hcol).symm
          pendingFlags := (congrArg Contact.pendingFlags hcol).symm
          contactInfo := (congrArg Contact.contactInfo hcol).symm
          masterUids := fun x => (hf.masterUids x).trans ((hsets uid c hm).1 x)
          variants := fun v => (hf.variants v).trans ((hsets uid c hm).2 v) }

/-! ## The rows follow the map -/

theorem RowsOf.insert {db : Db} {m : CacheMap} (h : RowsOf db m) {c : Contact} {n : String}
    (hn : c.name = some n) {db' : Db} (hdb : db'.contacts = db.contacts.insert c.uid (rowOf c n)) :
    RowsOf db' (Function.update m c.uid (some c)) where
  rows uid := by
    rw [hdb, Table.lookup_insert_ite]
    split
    · rename_i he
      subst he
      rw [Function.update_self, Option.bind_some, hn, Option.map_some]
    · rename_i hne
      rw [Function.update_of_ne hne]
      exact h.rows uid
  named uid d hd := by
    by_cases he : uid = c.uid
    · subst he
      rw [Function.update_self] at hd
      cases hd
      exact ⟨rfl, by rw [hn]; exact Option.some_ne_none n⟩
    · rw [Function.update_of_ne he] at hd
      exact h.named uid d hd

theorem rowsOf_add {db : Db} {m : CacheMap} (h : RowsOf db m) (c : Contact) :
    Option.Rel RowsOf (db.realAddContact c) (m.add c) := by
  cases hdb : db.realAddContact c with
  | none =>
    have hfail := realAddContact_eq_none.mp hdb
    rw [h.isSome] at hfail
    rw [CacheMap.add, if_pos hfail]
    exact .none
  | some db' =>
    have hok : ¬ (c.name = none ∨ (m c.uid).isSome = true) := by
      rw [← h.isSome, ← realAddContact_eq_none, hdb]
      exact Option.some_ne_none db'
    obtain ⟨-, ⟨n, hn, hins⟩, -, -⟩ := realAddContact_added hdb
    rw [CacheMap.add, if_neg hok]
    exact .some (h.insert hn hins)

theorem rowsOf_update {db : Db} {m : CacheMap} (h : RowsOf db m) (c : Contact) :
    Option.Rel RowsOf (db.realUpdateContact c) (m.update c) := by
  unfold CacheMap.update
  rw [← h.isSome]
  cases hdb : db.realUpdateContact c with
  | none =>
    obtain ⟨hsome, hname⟩ := realUpdateContact_eq_none.mp hdb
    rw [if_pos hsome, if_pos hname]
    exact .none
  | some db' =>
    obtain ⟨⟨hnone, hsame⟩ | ⟨hsome, n, hn, hins⟩, -, -⟩ := realUpdateContact_updated hdb
    · rw [hnone, if_neg (by decide)]
      refine .some ⟨fun uid => ?_, h.named⟩
      rw [hsame]
      exact h.rows uid
    · rw [if_pos hsome, if_neg (by rw [hn]; exact Option.some_ne_none n)]
      exact .some (h.insert hn hins)

theorem rowsOf_delete {db : Db} {m : CacheMap} (h : RowsOf db m) (uid : String) :
    RowsOf (db.realDeleteContact uid) (m.delete uid) where
  rows u := by
    rw [(realDeleteContact_spec db uid).1, Table.lookup_erase_ite, CacheMap.delete]
    split
    · rename_i he
      subst he
      rw [Function.update_self]; rfl
    · rename_i hne
      rw [Function.update_of_ne hne]
      exact h.rows u
  named u c hc := by
    by_cases he : u = uid
    · subst he
      rw [CacheMap.delete, Function.update_self] at hc
      cases hc
    · rw [CacheMap.delete, Function.update_of_ne he] at hc
      exact h.named u c hc

/-! ## The sets follow it where nothing is left over -/

/-- Under the uid of the contact the two other tables have no rows but its own. -/
def Own (db : Db) (c : Contact) : Prop :=
  (∀ x, (c.uid, x) ∈ db.masterUids → x ∈ c.masterUids) ∧
    ∀ v, (c.uid, v) ∈ db.variants → v ∈ c.variants

theorem setsOf_added {db db' : Db} {m : CacheMap} {c : Contact} (h : Added db c db')
    (uid : String) :
    SetsOf db' (Function.update m c.uid (some c)) uid ↔
      if uid = c.uid then Own db c else SetsOf db m uid := by
  unfold SetsOf Own
  split
  · rename_i he
    subst he
    simp only [Function.update_self, Option.some.injEq, forall_eq', h.masterUids, h.variants,
      true_and]
    exact and_congr
      ⟨fun hs x hx => (hs x).mp (.inl hx), fun hs x => ⟨fun hx => hx.elim (hs x) id, .inr⟩⟩
      ⟨fun hs v hv => (hs v).mp (.inl hv), fun hs v => ⟨fun hv => hv.elim (hs v) id, .inr⟩⟩
  · rename_i hne
    simp only [Function.update_of_ne hne, h.masterUids, h.variants, hne, false_and, or_false]

/-- Contacts added in one call are read back right exactly where each found no rows but its own. -/
theorem setsOf_addContacts {cs : List Contact} {db db' : Db} {m m' : CacheMap} (h : RowsOf db m)
    (hdb : cs.foldlM realAddContact db = some db') (hm : cs.foldlM CacheMap.add m = some m') :
    (∀ c ∈ cs, m c.uid = none) ∧
      ((∀ uid, SetsOf db' m' uid) ↔
        (∀ c ∈ cs, Own db c) ∧ ∀ uid, (∀ c ∈ cs, c.uid ≠ uid) → SetsOf db m uid) := by
  induction cs generalizing db m with
  | nil =>
    cases hdb
    cases hm
    simp
  | cons c cs ih =>
    rw [List.foldlM_cons] at hdb hm
    obtain ⟨db₁, hdb₁, hdb⟩ := Option.bind_eq_some_iff.mp hdb
    obtain ⟨m₁, hm₁, hm⟩ := Option.bind_eq_some_iff.mp hm
    have hadd := realAddContact_added hdb₁
    have hrows := rowsOf_add h c
    rw [hdb₁, hm₁] at hrows
    obtain ⟨hfree, hsets⟩ := ih (Option.rel_some_some.mp hrows) hdb hm
    have hm₁' : m₁ = Function.update m c.uid (some c) := by
      unfold CacheMap.add at hm₁
      split at hm₁
      · cases hm₁
      · exact (Option.some.inj hm₁).symm
    subst hm₁'
    -- the uids of one call are all different, or it would have failed
    have hne : ∀ d ∈ cs, d.uid ≠ c.uid := by
      intro d hd he
      have hnone := hfree d hd
      rw [he, Function.update_self] at hnone
      cases hnone
    have hown : ∀ d ∈ cs, (Own db₁ d ↔ Own db d) := by
      intro d hd
      simp only [Own, hadd.masterUids, hadd.variants, hne d hd, false_and, or_false]
    refine ⟨fun d hd => ?_, ?_⟩
    · rcases List.mem_cons.mp hd with rfl | hd
      · have hnone := h.isSome d.uid
        rw [hadd.free] at hnone
        exact Option.not_isSome_iff_eq_none.mp (by rw [← hnone]; decide)
      · have hnone := hfree d hd
        rwa [Function.update_of_ne (hne d hd)] at hnone
    rw [hsets]
    constructor
    · rintro ⟨howns, hothers⟩
      have hc := (setsOf_added (m := m) hadd c.uid).mp (hothers c.uid fun d hd => hne d hd)
      rw [if_pos rfl] at hc
      refine ⟨fun d hd => ?_, fun uid huid => ?_⟩
      · rcases List.mem_cons.mp hd with rfl | hd
        · exact hc
        · exact (hown d hd).mp (howns d hd)
      · have hu := (setsOf_added (m := m) hadd uid).mp
          (hothers uid fun d hd => huid d (List.mem_cons_of_mem c hd))
        rwa [if_neg (huid c List.mem_cons_self).symm] at hu
    · rintro ⟨howns, hothers⟩
      refine ⟨fun d hd => (hown d hd).mpr (howns d (List.mem_cons_of_mem c hd)), fun uid huid => ?_⟩
      rw [setsOf_added hadd]
      split
      · exact howns c List.mem_cons_self
      · rename_i hneq
        refine hothers uid fun d hd => ?_
        rcases List.mem_cons.mp hd with rfl | hd
        · exact fun he => hneq he.symm
        · exact huid d hd

theorem setsOf_update {db db' : Db} {m m' : CacheMap} {c : Contact}
    (hsets : ∀ uid, SetsOf db m uid) (hdb : db.realUpdateContact c = some db')
    (hm : m.update c = some m') (uid : String) : SetsOf db' m' uid := by
  obtain ⟨-, hmem, hvar⟩ := realUpdateContact_updated hdb
  unfold CacheMap.update at hm
  intro d hd
  split at hm
  · split at hm
    · cases hm
    · cases hm
      by_cases he : uid = c.uid
      · subst he
        rw [Function.update_self] at hd
        cases hd
        simp [hmem, hvar]
      · rw [Function.update_of_ne he] at hd
        have := hsets uid d hd
        simpa [hmem, hvar, he] using this
  · rename_i hfree
    cases hm
    have he : uid ≠ c.uid := by
      intro he
      rw [← he, hd] at hfree
      exact hfree rfl
    have := hsets uid d hd
    simpa [hmem, hvar, he] using this

theorem setsOf_delete {db : Db} {m : CacheMap} (hsets : ∀ uid, SetsOf db m uid) (u uid : String) :
    SetsOf (db.realDeleteContact u) (m.delete u) uid := by
  obtain ⟨-, hmem, hvar⟩ := realDeleteContact_spec db u
  intro d hd
  by_cases he : uid = u
  · subst he
    rw [CacheMap.delete, Function.update_self] at hd
    cases hd
  · rw [CacheMap.delete, Function.update_of_ne he] at hd
    have := hsets uid d hd
    simpa [hmem, hvar, he] using this

/-- The tables show the map. -/
structure Agree (db : Db) (m : CacheMap) : Prop where
  rows : RowsOf db m
  sets : ∀ uid, SetsOf db m uid

theorem agree_update {db : Db} {m : CacheMap} (h : Agree db m) (c : Contact) :
    Option.Rel Agree (db.realUpdateContact c) (m.update c) := by
  have hrows := rowsOf_update h.rows c
  cases hdb : db.realUpdateContact c with
  | none =>
    rw [hdb] at hrows
    cases hm : m.update c with
    | none => exact .none
    | some m' => rw [hm] at hrows; cases hrows
  | some db' =>
    rw [hdb] at hrows
    cases hm : m.update c with
    | none => rw [hm] at hrows; cases hrows
    | some m' =>
      rw [hm] at hrows
      exact .some ⟨Option.rel_some_some.mp hrows, setsOf_update h.sets hdb hm⟩

theorem agree_delete {db : Db} {m : CacheMap} (h : Agree db m) (uids : List String) :
    Agree (db.removeContacts uids) (uids.foldl CacheMap.delete m) := by
  induction uids generalizing db m with
  | nil => exact h
  | cons uid uids ih => exact ih ⟨rowsOf_delete h.rows uid, setsOf_delete h.sets uid⟩

end Db

namespace DbCall

/-- The database and the map it stands for, after a call; a call that fails changes neither. -/
def both (s : Db × CacheMap) (k : DbCall) : Db × CacheMap :=
  ((k.apply s.1).getD s.1, (k.applyMap s.2).getD s.2)

/-- No contact that the call adds finds rows that are not its own under its uid. -/
def Clean (db : Db) (k : DbCall) : Prop :=
  match k with
  | .addContact c => (db.addContacts [c]).isSome = true → Db.Own db c
  | .addContacts cs => (db.addContacts cs).isSome = true → ∀ c ∈ cs, Db.Own db c
  | _ => True

/-- What adding contacts comes to, where the tables show the map before. -/
theorem agree_addContacts {db : Db} {m : CacheMap} (h : Db.Agree db m) (cs : List Contact) :
    Db.RowsOf ((db.addContacts cs).getD db) ((cs.foldlM CacheMap.add m).getD m) ∧
      ((∀ uid, Db.SetsOf ((db.addContacts cs).getD db) ((cs.foldlM CacheMap.add m).getD m) uid) ↔
        ((db.addContacts cs).isSome = true → ∀ c ∈ cs, Db.Own db c)) := by
  have hrel := foldlM_rel (fun _ _ c hr => Db.rowsOf_add hr c) cs h.rows
  unfold Db.addContacts
  cases hdb : cs.foldlM Db.realAddContact db with
  | none =>
    cases hm : cs.foldlM CacheMap.add m with
    | none => exact ⟨h.rows, fun _ hs => (by cases hs), fun _ => h.sets⟩
    | some m' => rw [hdb, hm] at hrel; cases hrel
  | some db' =>
    cases hm : cs.foldlM CacheMap.add m with
    | none => rw [hdb, hm] at hrel; cases hrel
    | some m' =>
      rw [hdb, hm] at hrel
      refine ⟨Option.rel_some_some.mp hrel, ?_⟩
      rw [Option.getD_some, Option.getD_some, (Db.setsOf_addContacts h.rows hdb hm).2]
      exact ⟨fun hs _ => hs.1, fun hs => ⟨hs rfl, fun uid _ => h.sets uid⟩⟩

theorem agree_updateContacts {db : Db} {m : CacheMap} (h : Db.Agree db m) (cs : List Contact) :
    Db.Agree ((db.updateContacts cs).getD db) ((cs.foldlM CacheMap.update m).getD m) := by
  have hrel := foldlM_rel (fun _ _ c hr => Db.agree_update hr c) cs h
  unfold Db.updateContacts
  cases hdb : cs.foldlM Db.realUpdateContact db with
  | none =>
    cases hm : cs.foldlM CacheMap.update m with
    | none => exact h
    | some m' => rw [hdb, hm] at hrel; cases hrel
  | some db' =>
    cases hm : cs.foldlM CacheMap.update m with
    | none => rw [hdb, hm] at hrel; cases hrel
    | some m' => rw [hdb, hm] at hrel; exact Option.rel_some_some.mp hrel

/-- The rows follow the map through every call, and the sets exactly through the clean ones. -/
theorem both_spec {s : Db × CacheMap} (h : Db.Agree s.1 s.2) (k : DbCall) :
    Db.RowsOf (both s k).1 (both s k).2 ∧
      ((∀ uid, Db.SetsOf (both s k).1 (both s k).2 uid) ↔ k.Clean s.1) := by
  have hfine {db : Db} {m : CacheMap} (h' : Db.Agree db m) :
      Db.RowsOf db m ∧ ((∀ uid, Db.SetsOf db m uid) ↔ True) :=
    ⟨h'.rows, iff_of_true h'.sets trivial⟩
  cases k with
  | addContact c =>
    have hadd := agree_addContacts h [c]
    simp only [List.mem_singleton, forall_eq] at hadd
    exact hadd
  | addContacts cs => exact agree_addContacts h cs
  | updateContact c => exact hfine (agree_updateContacts h [c])
  | updateContacts cs => exact hfine (agree_updateContacts h cs)
  | deleteContact uid => exact hfine (Db.agree_delete h [uid])
  | removeContacts uids => exact hfine (Db.agree_delete h uids)

/--
**The cache is a finite map exactly where every contact that is added finds no rows but its
own.** For any sequence of calls from an empty database: `fetch_contacts` shows the map after
each of them if and only if each of them is clean.
-/
theorem cache_is_map (ks : List DbCall) :
    AllAlong both (fun s k => (both s k).1.Mirrors (both s k).2) ({}, fun _ => none) ks ↔
      AllAlong both (fun s k => k.Clean s.1) ({}, fun _ => none) ks := by
  refine AllAlong.congr_inv (I := fun s => Db.Agree s.1 s.2) (fun s k h => ?_) (fun s k h hm => ?_)
    ⟨⟨fun _ => rfl, fun _ _ hc => (by cases hc)⟩, fun _ _ hc => (by cases hc)⟩ ks
  · obtain ⟨hrows, hsets⟩ := both_spec h k
    exact (Db.mirrors_iff hrows).trans hsets
  · obtain ⟨hrows, -⟩ := both_spec h k
    exact ⟨hrows, (Db.mirrors_iff hrows).mp hm⟩

/-- A contact with one master UID. -/
def withMaster : Contact := { name := some "bob", uid := "acct-bob", masterUids := [some "12"] }

/-- The master UID of an update that matched no row comes back with the next contact of the uid. -/
theorem left_over_rows :
    (both (both ({}, fun _ => none) (updateContact withMaster))
        (addContact { withMaster with masterUids := [] })).1.fetchJoined.map
        (fun c => (c.uid, c.masterUids)) = [("acct-bob", [some "12"])] ∧
      ¬ AllAlong both (fun s k => (both s k).1.Mirrors (both s k).2) ({}, fun _ => none)
        [updateContact withMaster, addContact { withMaster with masterUids := [] }] := by
  refine ⟨by decide, fun h => ?_⟩
  obtain ⟨c', hfilter, hshows⟩ := h.2.1 "acct-bob"
  have hmem := List.mem_filter.mp (hfilter ▸ List.mem_singleton_self c')
  have hall : ∀ c ∈ (both (both ({}, fun _ => none) (updateContact withMaster))
      (addContact { withMaster with masterUids := [] })).1.fetchJoined,
      some "12" ∈ c.masterUids := by decide
  cases (hshows.masterUids _).mp (hall c' hmem.1)

end DbCall

end EdsTelepathy
