import EdsTelepathy.Cleanup

/-!
# The clean-up and the databases in use

What the clean-up deletes is what the listing has and no account claims, if it has not changed
since. A database in use is claimed, and a copy meant for restoring is not listed. A rollback
journal is neither: SQLite names it after the database, and nothing here knows that name.
-/

namespace EdsTelepathy

namespace Cleanup

open Path

/-- The path of an entry of the directory. -/
def pathOf (home : List Char) (name : String) : List Char :=
  buildFilename [getDbDirectory home, name.toList]

/-- The file has the same modification time both times it is asked for. -/
def Unchanged (stat later : List Char → Option Int) (p : List Char) : Prop :=
  ∃ mtime, stat p = some mtime ∧ later p = some (throughPointer mtime)

/-! ## What is deleted -/

/-- The file is in the listing, and its name is not that of a copy for restoring. -/
def Listed (home : List Char) (names : List String) (p : List Char) : Prop :=
  ∃ name ∈ names, ¬ restoreDbExtension <:+ name.toList ∧ pathOf home name = p

theorem lookup_listDbs (home : List Char) (stat : List Char → Option Int) (names : List String)
    (p : List Char) (v : Int) :
    (listDbs home stat names).lookup p = some v
      ↔ Listed home names p ∧ (stat p).map throughPointer = some v := by
  unfold listDbs
  induction names using List.reverseRecOn with
  | nil =>
    constructor
    · intro h
      cases h
    · rintro ⟨⟨name, hname, -⟩, -⟩
      cases hname
  | append_singleton names name ih =>
    have hlisted : Listed home (names ++ [name]) p
        ↔ Listed home names p ∨ ¬ restoreDbExtension <:+ name.toList ∧ pathOf home name = p := by
      unfold Listed
      simp only [List.mem_append, List.mem_singleton, or_and_right, exists_or, exists_eq_left]
    rw [List.foldl_concat, hlisted]
    generalize names.foldl (listDb home stat) ∅ = t at ih
    unfold listDb
    split
    · rename_i hrestore
      rw [ih]
      simp [hrestore]
    · rename_i hrestore
      dsimp only
      split
      · rename_i mtime hstat
        show (t.insert (pathOf home name) (throughPointer mtime)).lookup p = some v ↔ _
        have hstat' : stat (pathOf home name) = some mtime := hstat
        rw [Table.lookup_insert_ite]
        by_cases hp : p = pathOf home name
        · rw [if_pos hp, hp, hstat']
          exact ⟨fun h => ⟨.inr ⟨hrestore, rfl⟩, h⟩, fun h => h.2⟩
        · rw [if_neg hp, ih]
          simp [Ne.symm hp]
      · rename_i hstat
        have hstat' : stat (pathOf home name) = none := hstat
        rw [ih]
        by_cases hp : p = pathOf home name
        · rw [hp, hstat']
          simp
        · simp [Ne.symm hp]

theorem lookup_removeAccounts (home : List Char) (t : Table (List Char) Int) (accounts : List String)
    (p : List Char) (v : Int) :
    (removeAccountsFromHashTable home t accounts).lookup p = some v
      ↔ (∀ a ∈ accounts, dbFilenameForAccount home a ≠ p) ∧ t.lookup p = some v := by
  unfold removeAccountsFromHashTable
  induction accounts generalizing t with
  | nil => simp
  | cons a accounts ih =>
    rw [List.foldl_cons, ih, Table.lookup_erase_eq_some, List.forall_mem_cons, ne_comm (a := p)]
    exact ⟨fun ⟨hrest, ha, h⟩ => ⟨⟨ha, hrest⟩, h⟩, fun ⟨⟨ha, hrest⟩, h⟩ => ⟨hrest, ha, h⟩⟩

/-- **What the clean-up deletes.** -/
theorem mem_unlinked {home : List Char} {names : List String} {stat later : List Char → Option Int}
    {accounts : List String} {p : List Char} :
    p ∈ unlinked home names stat later (some accounts)
      ↔ Listed home names p ∧ (∀ a ∈ accounts, dbFilenameForAccount home a ≠ p)
        ∧ Unchanged stat later p := by
  have hentry : ∀ v, ⟨p, v⟩ ∈ (removeAccountsFromHashTable home (listDbs home stat names)
      accounts).entries ↔ (∀ a ∈ accounts, dbFilenameForAccount home a ≠ p)
        ∧ Listed home names p ∧ (stat p).map throughPointer = some v := by
    intro v
    rw [← AList.mem_lookup_iff, Option.mem_def, lookup_removeAccounts, lookup_listDbs]
  unfold unlinked amPreparedCb Unchanged
  dsimp only
  rw [List.mem_map]
  constructor
  · rintro ⟨⟨q, v⟩, hin, rfl⟩
    obtain ⟨hin, hlater⟩ := List.mem_filter.mp hin
    obtain ⟨hfree, hlisted, hv⟩ := (hentry v).mp hin
    obtain ⟨mtime, hstat, rfl⟩ := Option.map_eq_some_iff.mp hv
    exact ⟨hlisted, hfree, mtime, hstat, of_decide_eq_true hlater⟩
  · rintro ⟨hlisted, hfree, mtime, hstat, hlater⟩
    refine ⟨⟨p, throughPointer mtime⟩, List.mem_filter.mpr ⟨(hentry _).mpr ⟨hfree, hlisted, ?_⟩, ?_⟩, rfl⟩
    · rw [hstat]
      rfl
    · exact decide_eq_true hlater

/-! ## Suffixes of file names -/

theorem getDbDirectory_eq (home : List Char) :
    ∃ pre, getDbDirectory home = pre ++ '/' :: "tp-cache".toList := by
  have hdb : Solid "db".toList := ⟨['d'], 'b', rfl, rfl⟩
  have htail : tail "tp-cache".toList = '/' :: "tp-cache".toList := by decide +kernel
  refine ⟨buildFilename [home, ".osso-abook".toList, "db".toList], ?_⟩
  rw [← htail]
  exact buildFilename_concat [home, ".osso-abook".toList] hdb "tp-cache".toList

theorem pathOf_eq (home : List Char) (e : List Char) :
    buildFilename [getDbDirectory home, e] = getDbDirectory home ++ tail e := by
  obtain ⟨pre, hpre⟩ := getDbDirectory_eq home
  have hlast : Solid ('/' :: "tp-cache".toList) := ⟨"/tp-cach".toList, 'e', by decide +kernel, rfl⟩
  exact buildFilename_pair (hpre ▸ hlast.append pre) e

theorem restore_noSep : ∀ c ∈ restoreDbExtension, isSep c = false := by
  have hall : restoreDbExtension.all (fun c => !isSep c) = true := by decide +kernel
  intro c hc
  simpa using List.all_eq_true.mp hall c hc

/-- The path of an entry has the extension where the name has it. -/
theorem restore_suffix_pathOf (home : List Char) (name : String) :
    restoreDbExtension <:+ pathOf home name ↔ restoreDbExtension <:+ name.toList := by
  unfold pathOf
  rw [pathOf_eq]
  refine suffix_tail restore_noSep (by decide +kernel) ?_ name.toList
  obtain ⟨pre, hpre⟩ := getDbDirectory_eq home
  rw [hpre, suffix_over_sep restore_noSep]
  decide +kernel

/-! ## The files of an account -/

/-- The rollback journal of the database, as SQLite names it. -/
def journalOf (home : List Char) (account : String) : List Char :=
  dbFilenameForAccount home account ++ "-journal".toList

theorem restore_not_suffix_journal (home : List Char) (account : String) :
    ¬ restoreDbExtension <:+ journalOf home account := by
  intro h
  have hsame : restoreDbExtension <:+ "-journal".toList :=
    List.suffix_of_suffix_length_le h (List.suffix_append _ _) (by decide +kernel)
  exact absurd hsame (by decide +kernel)

/-- No file of a valid account is deleted. -/
structure LiveFilesSpared (home : List Char) (accounts : List String) (deleted : List (List Char)) :
    Prop where
  database : ∀ a ∈ accounts, dbFilenameForAccount home a ∉ deleted
  restore : ∀ a ∈ accounts, getRestoreDbFilename (dbFilenameForAccount home a) ∉ deleted
  journal : ∀ a ∈ accounts, journalOf home a ∉ deleted

/--
No database in use has a journal that lies there unchanged, unless the journal's name is that of
the database of a valid account.
-/
def NoJournalLeft (home : List Char) (names : List String) (stat later : List Char → Option Int)
    (accounts : List String) : Prop :=
  ∀ a ∈ accounts, ∀ name ∈ names, pathOf home name = journalOf home a →
    Unchanged stat later (journalOf home a) → ∃ a' ∈ accounts, dbFilenameForAccount home a' = journalOf home a

/--
**The clean-up deletes no file of a valid account** exactly where no database in use has a
rollback journal that lies there unchanged.
-/
theorem cleanup_spares_live_files (home : List Char) (names : List String)
    (stat later : List Char → Option Int) (accounts : List String) :
    LiveFilesSpared home accounts (unlinked home names stat later (some accounts))
      ↔ NoJournalLeft home names stat later accounts := by
  constructor
  · intro h a ha name hname hpath hsame
    by_contra hnone
    refine h.journal a ha (mem_unlinked.mpr ⟨⟨name, hname, ?_, hpath⟩, fun a' ha' he => ?_, hsame⟩)
    · rw [← restore_suffix_pathOf home, hpath]
      exact restore_not_suffix_journal home a
    · exact hnone ⟨a', ha', he⟩
  · intro h
    refine ⟨fun a ha hin => ?_, fun a ha hin => ?_, fun a ha hin => ?_⟩
    · exact (mem_unlinked.mp hin).2.1 a ha rfl
    · obtain ⟨⟨name, -, hrestore, hpath⟩, -⟩ := mem_unlinked.mp hin
      rw [← restore_suffix_pathOf home, hpath] at hrestore
      exact hrestore (List.suffix_append _ _)
    · obtain ⟨⟨name, hname, -, hpath⟩, hfree, hsame⟩ := mem_unlinked.mp hin
      obtain ⟨a', ha', he⟩ := h a ha name hname hpath hsame
      exact hfree a' ha' he

/-- The database of an account, and the journal that a crash has left of it. -/
theorem cleanup_deletes_journal :
    let files := ["gabble_jabber_me", "gabble_jabber_me-journal"]
    journalOf "/home/user".toList "gabble/jabber/me"
        ∈ unlinked "/home/user".toList files (fun _ => some 5) (fun _ => some 5)
          (some ["gabble/jabber/me"])
      ∧ ¬ LiveFilesSpared "/home/user".toList ["gabble/jabber/me"]
          (unlinked "/home/user".toList files (fun _ => some 5) (fun _ => some 5)
            (some ["gabble/jabber/me"])) := by
  have hdeleted : journalOf "/home/user".toList "gabble/jabber/me"
      ∈ unlinked "/home/user".toList ["gabble_jabber_me", "gabble_jabber_me-journal"]
          (fun _ => some 5) (fun _ => some 5) (some ["gabble/jabber/me"]) := by decide +kernel
  exact ⟨hdeleted, fun h => h.journal _ (List.mem_singleton_self _) hdeleted⟩

end Cleanup

end EdsTelepathy
