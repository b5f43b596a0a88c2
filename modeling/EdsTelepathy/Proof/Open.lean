import EdsTelepathy.Open
import EdsTelepathy.Proof.Atomic

/-!
# What opening does to the rows

Nothing that `open_real` does changes a row: tables are only added, with no rows in them. Rows are
lost in one place, the `g_unlink` between the two attempts, and it takes a backup that the first
attempt has just put in place along with the cache. So the rows after `open` can be told from what
the file system answers, and where it refuses nothing they are kept exactly if the file fits the
schema, the tables of the variants apart.
-/

namespace EdsTelepathy

/-! ## The schema only adds -/

namespace DbFile

theorem execute_db {f f' : DbFile} {st : SchemaStatement} (h : f.execute st = some f') :
    f'.db = f.db := by
  cases st with
  | createTable t =>
    rw [execute] at h
    split at h
    · cases h
    · rename_i hnone
      cases h
      -- a table that is not there reads as one without rows
      cases t <;> simp only [columns, Option.isSome_map, Bool.not_eq_true, Option.isSome_eq_false_iff,
        Option.isNone_iff_eq_none] at hnone <;> simp [create, db, hnone]
  | createIndex name t column =>
    rw [execute] at h
    split at h
    · cases h
      rfl
    · cases h

theorem execute_columns {f f' : DbFile} {st : SchemaStatement} (h : f.execute st = some f')
    {t : TableName} {cs : List String} (ht : f.columns t = some cs) : f'.columns t = some cs := by
  cases st with
  | createTable u =>
    rw [execute] at h
    split at h
    · cases h
    · rename_i hnone
      cases h
      have hne : t ≠ u := by
        intro htu
        rw [← htu, ht] at hnone
        exact hnone rfl
      cases t <;> cases u <;> first | exact ht | exact absurd rfl hne
  | createIndex name u column =>
    rw [execute] at h
    split at h
    · cases h
      cases t <;> exact ht
    · cases h

theorem createTables_db (f : DbFile) (oks : List Bool) (schema : List SchemaStatement) :
    (f.createTables oks schema).2.db = f.db := by
  refine Connection.attempt_inv (I := fun g : DbFile => g.db = f.db) ?_ oks rfl
  intro g hg s s' hs hdb
  obtain ⟨st, -, rfl⟩ := List.mem_map.mp hg
  exact (execute_db hs).trans hdb

theorem createTables_columns {f : DbFile} {t : TableName} {cs : List String}
    (ht : f.columns t = some cs) (oks : List Bool) (schema : List SchemaStatement) :
    (f.createTables oks schema).2.columns t = some cs := by
  refine Connection.attempt_inv (I := fun g : DbFile => g.columns t = some cs) ?_ oks ht
  intro g hg s s' hs hcs
  obtain ⟨st, -, rfl⟩ := List.mem_map.mp hg
  exact execute_columns hs hcs

end DbFile

namespace Content

/-- A query that names something is prepared where a table has what it names. -/
theorem prepares_iff {c : Content} {q : QueryType} {t : TableName} {cs : List String}
    (hq : q.names = some (t, cs)) :
    c.prepares q = true ↔
      ∃ f columns, c = database f ∧ f.columns t = some columns ∧ ∀ x ∈ cs, x ∈ columns := by
  unfold prepares
  rw [hq]
  cases c with
  | foreign => simp
  | database f => simp [Option.any_eq_true]

theorem createTables_db (c : Content) (oks : List Bool) (schema : List SchemaStatement) :
    (c.createTables oks schema).2.db = c.db := by
  cases c with
  | foreign => rfl
  | database f => exact f.createTables_db oks schema

/-- A query that could be prepared still can. -/
theorem createTables_prepares {c : Content} {q : QueryType} (h : c.prepares q = true)
    (oks : List Bool) (schema : List SchemaStatement) :
    (c.createTables oks schema).2.prepares q = true := by
  cases hq : q.names with
  | none => simp [prepares, hq]
  | some tc =>
    obtain ⟨f, columns, rfl, hcols, hall⟩ := (prepares_iff hq).mp h
    exact (prepares_iff hq).mpr ⟨_, columns, rfl, DbFile.createTables_columns hcols oks schema, hall⟩

/-! ## The prepared statements -/

theorem prepareStatements_db (schema oks : List Bool) (c : Content) (qs : List QueryType) :
    (c.prepareStatements schema oks qs).2.db = c.db := by
  induction qs generalizing oks c with
  | nil => rfl
  | cons q qs ih =>
    rw [prepareStatements]
    split
    · exact ih oks.tail c
    split
    · dsimp only
      split
      · exact (ih _ _).trans (c.createTables_db schema variantsSchema)
      · exact c.createTables_db schema variantsSchema
    · rfl

theorem prepareStatements_prepares {c : Content} {q : QueryType} (h : c.prepares q = true)
    (schema oks : List Bool) (qs : List QueryType) :
    (c.prepareStatements schema oks qs).2.prepares q = true := by
  induction qs generalizing oks c with
  | nil => exact h
  | cons q' qs ih =>
    rw [prepareStatements]
    split
    · exact ih h oks.tail
    split
    · dsimp only
      split
      · exact ih (createTables_prepares h schema variantsSchema) _
      · exact createTables_prepares h schema variantsSchema
    · exact h

/-- The loop succeeds only where every query is prepared, and what it has prepared stays so. -/
theorem prepareStatements_complete {schema oks : List Bool} {c : Content} {qs : List QueryType}
    (h : (c.prepareStatements schema oks qs).1 = true) :
    ∀ q ∈ qs, (c.prepareStatements schema oks qs).2.prepares q = true := by
  induction qs generalizing oks c with
  | nil => exact fun q hq => absurd hq List.not_mem_nil
  | cons q qs ih =>
    rw [prepareStatements] at h ⊢
    split at h
    · rename_i hq
      rw [if_pos hq]
      have hprep : c.prepares q = true := (Bool.and_eq_true_iff.mp hq).2
      exact List.forall_mem_cons.mpr ⟨prepareStatements_prepares hprep .., ih h⟩
    · rename_i hq
      rw [if_neg hq]
      split at h
      · rename_i hv
        rw [if_pos hv]
        dsimp only at h ⊢
        split at h
        · rename_i hagain
          rw [if_pos hagain]
          have hprep := (Bool.and_eq_true_iff.mp hagain).2
          exact List.forall_mem_cons.mpr ⟨prepareStatements_prepares hprep .., ih h⟩
        · cases h
      · cases h

/-! ## Where nothing is refused -/

/-- Without the query that creates a table, the loop only looks. -/
theorem prepareStatements_append (schema : List Bool) (c : Content) {qs : List QueryType}
    (hqs : QueryType.fetchVariants ∉ qs) (rest : List QueryType) :
    c.prepareStatements schema [] (qs ++ rest)
      = if ∀ q ∈ qs, c.prepares q = true then c.prepareStatements schema [] rest else (false, c) := by
  induction qs with
  | nil => simp
  | cons q qs ih =>
    rw [List.mem_cons, not_or] at hqs
    rw [List.cons_append, prepareStatements, if_neg (Ne.symm hqs.1)]
    by_cases hq : c.prepares q = true
    · simp [hq, ih hqs.2]
    · simp [hq]

/-- The queries that do without the variants. -/
def baseQueries : List QueryType :=
  [.beginTransaction, .commitTransaction, .rollbackTransaction, .fetchContacts, .fetchMasterUids,
    .insertContact, .insertMasterUid, .deleteContact, .deleteMasterUids, .updateContact]

/-- The queries on the variants. -/
def variantQueries : List QueryType := [.fetchVariants, .insertVariant, .deleteVariants]

/--
The tables have the columns that the queries name. The table of the variants may be missing.
-/
def Fits (c : Content) : Prop :=
  ∃ f, c = database f ∧ (∀ q ∈ baseQueries, c.prepares q = true) ∧
    (f.variants = none ∨ ∀ q ∈ variantQueries, c.prepares q = true)

theorem createTables_variants_none {f : DbFile} (h : f.variants = none) :
    (f.createTables [] variantsSchema).2.columns .variants = some (TableName.columns .variants) := by
  have hcol : f.columns .variants = none := by rw [DbFile.columns, h]; rfl
  have htable : f.execute (.createTable .variants) = some (f.create .variants) := by
    rw [DbFile.execute, hcol]; rfl
  rw [DbFile.createTables, variantsSchema, List.map_cons, Connection.attempt, htable]
  -- whatever comes of the index
  exact Connection.attempt_inv
    (I := fun g : DbFile => g.columns .variants = some (TableName.columns .variants))
    (fun g hg s s' hs hcs => by
      obtain ⟨st, -, rfl⟩ := List.mem_map.mp hg
      exact DbFile.execute_columns hs hcs) _ rfl

theorem createTables_variants_some {f : DbFile} (h : f.variants ≠ none) :
    (f.createTables [] variantsSchema).2 = f := by
  obtain ⟨s, hs⟩ := Option.ne_none_iff_exists'.mp h
  have htable : f.execute (.createTable .variants) = none := by
    rw [DbFile.execute, DbFile.columns, hs]; rfl
  rw [DbFile.createTables, variantsSchema, List.map_cons, Connection.attempt, htable]
  rfl

/-- The queries on the variants, as far as nothing is refused. -/
theorem prepareStatements_variants_iff (f : DbFile) :
    ((database f).prepareStatements [] [] variantQueries).1 = true ↔
      f.variants = none ∨ ∀ q ∈ variantQueries, (database f).prepares q = true := by
  have hlate : ∀ c : Content, (c.prepareStatements [] [] [.insertVariant, .deleteVariants]).1 = true ↔
      ∀ q ∈ [QueryType.insertVariant, .deleteVariants], c.prepares q = true := by
    intro c
    have hother : QueryType.fetchVariants ∉ [QueryType.insertVariant, .deleteVariants] := by decide
    have h := c.prepareStatements_append [] hother []
    rw [List.append_nil] at h
    rw [h]
    split
    · rename_i hall; exact iff_of_true rfl hall
    · rename_i hall; exact iff_of_false Bool.false_ne_true hall
  rw [variantQueries, prepareStatements]
  by_cases hv : f.variants = none
  · -- the table is created with all its columns
    have hcols := createTables_variants_none hv
    have hprep : ∀ q cs, q.names = some (.variants, cs) → (∀ x ∈ cs, x ∈ TableName.columns .variants) →
        ((database f).createTables [] variantsSchema).2.prepares q = true :=
      fun q cs hq hcs => (prepares_iff hq).mpr ⟨_, _, rfl, hcols, hcs⟩
    have hnot : ¬ (database f).prepares .fetchVariants = true := by
      intro h
      obtain ⟨g, columns, hg, hc, -⟩ := (prepares_iff (q := .fetchVariants) rfl).mp h
      cases hg
      rw [DbFile.columns, hv] at hc
      cases hc
    have hfetch := hprep .fetchVariants ["contact_uid"] rfl (by decide)
    simp only [List.headD_nil, List.tail_nil, Bool.true_and, hnot, hfetch, hv, true_or, iff_true,
      if_true, Bool.false_eq_true, if_false]
    exact (hlate _).mpr (by
      intro q hq
      rcases List.mem_cons.mp hq with rfl | hq
      · exact hprep .insertVariant ["contact_uid", "variant"] rfl (by decide)
      · cases List.mem_singleton.mp hq
        exact hprep .deleteVariants ["contact_uid"] rfl (by decide))
  · rw [or_iff_right hv, List.forall_mem_cons]
    by_cases hq : (database f).prepares .fetchVariants = true
    · simp only [List.headD_nil, List.tail_nil, Bool.true_and, hq, if_true, true_and]
      exact hlate _
    · have hsame : ((database f).createTables [] variantsSchema).2 = database f :=
        congrArg database (createTables_variants_some hv)
      simp [hq, hsame]

theorem prepareStatements_calm_iff (c : Content) :
    (c.prepareStatements [] [] QueryType.queries).1 = true ↔ c.Fits := by
  have hsplit : QueryType.queries = baseQueries ++ variantQueries := rfl
  rw [hsplit, prepareStatements_append _ _ (by decide)]
  by_cases hbase : ∀ q ∈ baseQueries, c.prepares q = true
  · rw [if_pos hbase]
    obtain ⟨f, _, rfl, -, -⟩ := (prepares_iff (q := .fetchContacts) rfl).mp (hbase _ (by decide))
    rw [prepareStatements_variants_iff]
    constructor
    · exact fun h => ⟨f, rfl, hbase, h⟩
    · rintro ⟨g, hg, -, h⟩
      cases hg
      exact h
  · rw [if_neg hbase]
    exact iff_of_false Bool.false_ne_true fun ⟨f, _, h, _⟩ => hbase h

/-- All the queries can be prepared. -/
def Usable (c : Content) : Prop := ∀ q ∈ QueryType.queries, c.prepares q = true

end Content

namespace Disk

/-! ## One attempt -/

/-- The disk after the renaming, where the attempt comes that far. -/
def moved (d : Disk) (l : Luck) : Disk := if l.mkdir then d.rename l.rename else d

/-- The backup replaces the rows where it can be put in place. -/
theorem moved_db (d : Disk) (l : Luck) :
    (d.moved l).db
      = if (l.mkdir && l.rename) = true then d.restore.elim d.db Content.db else d.db := by
  unfold moved rename
  cases l.mkdir with
  | false => rfl
  | true =>
    cases d.restore with
    | none => simp
    | some c => cases l.rename <;> rfl

/-- What a file that may not be there holds. -/
def rowsOf (file : Option Content) : Db := file.elim {} Content.db

/-- The file after `sqlite3_open_v2` and the creation of the tables. -/
def fileOf : Except (Option Content) Content → Option Content
  | .ok c => some c
  | .error file => file

theorem createFile_db (l : Luck) (file : Option Content) :
    rowsOf (fileOf (createFile l file)) = rowsOf file := by
  have hdb : (file.getD (.database {})).db = rowsOf file := by cases file <;> rfl
  have h := (file.getD (.database {})).createTables_db l.schema completeSchema
  unfold createFile
  split
  · split
    · rename_i c hr
      rw [hr] at h
      exact h.trans hdb
    · rename_i c hr
      rw [hr] at h
      exact h.trans hdb
  · rfl

theorem openFile_db (l : Luck) (file : Option Content) :
    rowsOf (fileOf (openFile l file)) = rowsOf file := by
  unfold openFile
  split
  · rfl
  · exact createFile_db l _
  · exact createFile_db l none
  · rfl

/-- **An attempt changes no row**, whether it succeeds or not. -/
theorem openReal_db (d : Disk) (l : Luck) :
    (d.openReal l).2.db = (d.moved l).db ∧ (d.openReal l).2.restore = (d.moved l).restore := by
  unfold openReal moved
  by_cases hm : l.mkdir = true
  · rw [if_pos hm, if_pos hm]
    have h := openFile_db l (d.rename l.rename).file
    dsimp only
    cases hr : openFile l (d.rename l.rename).file with
    | error left =>
      rw [hr] at h
      exact ⟨h, rfl⟩
    | ok c =>
      rw [hr] at h
      exact ⟨(c.prepareStatements_db ..).trans h, rfl⟩
  · rw [if_neg hm, if_neg hm]
    exact ⟨rfl, rfl⟩

theorem openReal_usable {d : Disk} {l : Luck} (h : (d.openReal l).1 = true) :
    ∃ c, (d.openReal l).2.file = some c ∧ c.Usable := by
  unfold openReal at h ⊢
  by_cases hm : l.mkdir = true
  · rw [if_pos hm] at h ⊢
    dsimp only at h ⊢
    cases hr : openFile l (d.rename l.rename).file with
    | error left => rw [hr] at h; cases h
    | ok c =>
      rw [hr] at h
      exact ⟨_, rfl, Content.prepareStatements_complete h⟩
  · rw [if_neg hm] at h
    cases h

/-! ## Both attempts -/

/-- A first attempt that succeeds is all there is. -/
theorem openDb_of_first {d : Disk} {first : Luck} (h : (d.openReal first).1 = true) (second : Luck)
    (unlinks : Bool) : d.openDb first second unlinks = d.openReal first := by
  unfold openDb
  split
  · rename_i hr; exact hr.symm
  · rename_i hr; rw [hr] at h; cases h

/-- One that fails is followed by another, on what it has left. -/
theorem openDb_of_second {d : Disk} {first : Luck} (h : (d.openReal first).1 = false)
    (second : Luck) (unlinks : Bool) :
    d.openDb first second unlinks
      = (if unlinks then { (d.openReal first).2 with file := none }
          else (d.openReal first).2).openReal second := by
  unfold openDb
  split
  · rename_i hr; rw [hr] at h; cases h
  · rename_i hr; rw [hr]

/--
**Rows are lost only with the file.** After a successful call every query is prepared. Whatever is
answered, the rows are those of the backup where it could be put in place, else those of the
cache, unless the first attempt failed and the file was deleted: then only a backup that had not
been put in place by the first attempt is left.
-/
theorem openDb_rows (d : Disk) (first second : Luck) (unlinks : Bool) :
    ((d.openDb first second unlinks).1 = true →
      ∃ c, (d.openDb first second unlinks).2.file = some c ∧ c.Usable) ∧
    (d.openDb first second unlinks).2.db =
      if (d.openReal first).1 = true then (d.moved first).db
      else if unlinks = false then ((d.moved first).moved second).db
      else if (second.mkdir && second.rename) = true then rowsOf (d.moved first).restore
      else {} := by
  obtain ⟨hdb, hrestore⟩ := d.openReal_db first
  cases hfirst : (d.openReal first).1 with
  | true =>
    rw [openDb_of_first hfirst, if_pos rfl]
    exact ⟨openReal_usable, hdb⟩
  | false =>
    rw [openDb_of_second hfirst, if_neg Bool.false_ne_true]
    refine ⟨openReal_usable, ?_⟩
    rw [(openReal_db _ second).1, moved_db]
    cases unlinks with
    | false => rw [if_pos rfl, moved_db (d.moved first), ← hrestore, ← hdb]; rfl
    | true =>
      have hne : ¬ true = false := by decide
      rw [if_neg hne, ← hrestore]
      rfl

/-- A statement that is refused once costs the backup that has just been put in place. -/
example :
    let backup : DbFile := ((({} : DbFile).createTables [] completeSchema).2).withDb DbCall.storedBob
    (({ restore := some (.database backup) } : Disk).openDb { prepares := [false] } {} true).2.db
      = {} := rfl

/-- A file that is not there is made, and has what it needs. -/
theorem openReal_calm_iff (d : Disk) :
    (d.openReal {}).1 = true ↔ ∀ c, (d.rename true).file = some c → c.Fits := by
  cases hfile : (d.rename true).file with
  | none =>
    have hok : (d.openReal {}).1 = true := by
      unfold openReal
      rw [if_pos rfl]
      dsimp only
      rw [hfile]
      rfl
    exact iff_of_true hok (fun c h => by cases h)
  | some c =>
    have hreal : (d.openReal {}).1 = (c.prepareStatements [] [] QueryType.queries).1 := by
      unfold openReal
      rw [if_pos rfl]
      dsimp only
      rw [hfile]
      rfl
    rw [hreal, Content.prepareStatements_calm_iff]
    simp

theorem rename_restore (d : Disk) : (d.rename true).restore = none := by
  unfold rename
  cases hd : d.restore with
  | none => exact hd
  | some c => rfl

/--
**Opening a working disk.** Where nothing is refused a call succeeds, whatever the files hold, and
uses the backup up. It keeps the rows where there is no file or the file fits; where it does not
fit nothing is left of them.
-/
theorem openDb_calm (d : Disk) :
    (d.openDb {} {} true).1 = true ∧ (d.openDb {} {} true).2.restore = none ∧
      ((∀ c, (d.rename true).file = some c → c.Fits) →
        (d.openDb {} {} true).2.db = (d.rename true).db) ∧
      ((∃ c, (d.rename true).file = some c ∧ ¬ c.Fits) → (d.openDb {} {} true).2.db = {}) := by
  have hmoved : d.moved {} = d.rename true := rfl
  obtain ⟨hdb, hrestore⟩ := d.openReal_db {}
  rw [hmoved] at hdb hrestore
  rw [rename_restore] at hrestore
  by_cases hfit : ∀ c, (d.rename true).file = some c → c.Fits
  · have hfirst := d.openReal_calm_iff.mpr hfit
    rw [openDb_of_first hfirst]
    exact ⟨hfirst, hrestore, fun _ => hdb, fun ⟨c, hc, hnot⟩ => absurd (hfit c hc) hnot⟩
  · have hfirst : (d.openReal {}).1 = false :=
      Bool.eq_false_iff.mpr fun h => hfit (d.openReal_calm_iff.mp h)
    -- the file is gone and there is no backup, so the second attempt starts from nothing
    have hleft : (if true then { (d.openReal {}).2 with file := none } else (d.openReal {}).2)
        = ({} : Disk) := by
      rw [if_pos rfl]
      exact congrArg (Disk.mk none) hrestore
    rw [openDb_of_second hfirst, hleft]
    have hrest := ({} : Disk).openReal_db {}
    exact ⟨rfl, hrest.2, fun h => absurd h hfit, fun _ => hrest.1⟩

/-! ## Rows written through a connection -/

theorem put_db {d : Disk} {c : Content} (hd : d.file = some c) (hc : c.Usable) (db : Db) :
    (d.put db).db = db := by
  obtain ⟨f, cs, rfl, hcontacts, -⟩ :=
    (Content.prepares_iff (q := .fetchContacts) rfl).mp (hc _ (by decide))
  obtain ⟨f', cs', hf', hmasters, -⟩ :=
    (Content.prepares_iff (q := .fetchMasterUids) rfl).mp (hc _ (by decide))
  cases hf'
  obtain ⟨f', cs'', hf', hvariants, -⟩ :=
    (Content.prepares_iff (q := .fetchVariants) rfl).mp (hc _ (by decide))
  cases hf'
  obtain ⟨sc, hsc, -⟩ := Option.map_eq_some_iff.mp hcontacts
  obtain ⟨sm, hsm, -⟩ := Option.map_eq_some_iff.mp hmasters
  obtain ⟨sv, hsv, -⟩ := Option.map_eq_some_iff.mp hvariants
  simp [put, hd, Disk.db, Content.db, DbFile.db, DbFile.withDb, hsc, hsm, hsv]

theorem put_restore (d : Disk) (db : Db) : (d.put db).restore = d.restore := by
  unfold put
  split <;> rfl

theorem columns_withDb (f : DbFile) (db : Db) (t : TableName) :
    (f.withDb db).columns t = f.columns t := by
  cases t <;> simp [DbFile.columns, DbFile.withDb, Function.comp_def]

theorem put_usable {d : Disk} {c : Content} (hd : d.file = some c) (hc : c.Usable) (db : Db) :
    ∃ c', (d.put db).file = some c' ∧ c'.Usable := by
  obtain ⟨f, cs, rfl, -, -⟩ :=
    (Content.prepares_iff (q := .fetchContacts) rfl).mp (hc _ (by decide))
  refine ⟨.database (f.withDb db), by rw [put, hd], fun q hq => ?_⟩
  have hprep := hc q hq
  cases hn : q.names with
  | none => simp [Content.prepares, hn]
  | some tc =>
    obtain ⟨g, columns, hg, hcols, hall⟩ := (Content.prepares_iff hn).mp hprep
    cases hg
    exact (Content.prepares_iff hn).mpr ⟨_, columns, rfl, by rw [columns_withDb]; exact hcols, hall⟩

end Disk

namespace Store

/-! ## From one start to the next -/

/-- What the rows should be, and what waits to replace them. -/
structure Expected where
  db : Db := {}
  restore : Option Db := none

/-- Only calls that were answered `TRUE` count, and a backup is taken over once. -/
def Expected.after (x : Expected) (s : Store) : StoreEvent → Expected
  | .opened _ _ _ => { db := x.restore.getD x.db, restore := none }
  | .called k p =>
    match s.session with
    | some c => if (k.perform c p).1 then { x with db := (k.apply x.db).getD x.db } else x
    | none => x
  | .ended => x
  | .restored c => { x with restore := some c.db }

/-- The store beside what is expected of it. -/
def watched : Machine (Store × Expected) StoreEvent where
  step sx e := (sx.1.step e).map fun s => (s, sx.2.after sx.1 e)

/-- The first attempt succeeds, and failures during a call are harmless to it. -/
def Spared (s : Store) : StoreEvent → Prop
  | .opened first _ _ => (s.disk.openReal first).1 = true ∧ first.rename = true
  | .called k p => ∀ c, s.session = some c → DbCall.Spared c (k, p)
  | .ended => True
  | .restored _ => True

/-- The rows on the disk are the expected ones, and a connection sees them. -/
structure Faithful (s : Store) (x : Expected) : Prop where
  rows : s.disk.db = x.db
  restore : s.disk.restore.map Content.db = x.restore
  session : ∀ c, s.session = some c →
    c.Closed ∧ c.committed = s.disk.db ∧ ∃ ct, s.disk.file = some ct ∧ ct.Usable

theorem faithful_opened {s : Store} {x : Expected} (h : Faithful s x) {first : Luck}
    (hfirst : (s.disk.openReal first).1 = true) (hren : first.rename = true) (second : Luck)
    (unlinks : Bool) :
    Faithful { disk := (s.disk.openDb first second unlinks).2
               session := if (s.disk.openDb first second unlinks).1 then
                   some { committed := (s.disk.openDb first second unlinks).2.db } else none }
      (x.after s (.opened first second unlinks)) := by
  have hmk : first.mkdir = true := by
    by_contra hm
    rw [Disk.openReal, if_neg hm] at hfirst
    cases hfirst
  obtain ⟨hdb, hrestore⟩ := s.disk.openReal_db first
  rw [Disk.openDb_of_first hfirst, hfirst, if_pos rfl]
  have hrows : (s.disk.moved first).db = x.restore.getD x.db := by
    rw [Disk.moved_db, hmk, hren, Bool.and_self, if_pos rfl, ← h.restore, ← h.rows]
    cases s.disk.restore <;> rfl
  refine ⟨hdb.trans hrows, ?_, ?_⟩
  · rw [hrestore, Disk.moved, if_pos hmk, hren, Disk.rename_restore]
    rfl
  · intro c hc
    cases hc
    exact ⟨rfl, rfl, Disk.openReal_usable hfirst⟩

theorem faithful_called {s : Store} {x : Expected} (h : Faithful s x) {c : Session}
    (hc : s.session = some c) {k : DbCall} {p : Pattern} (hok : DbCall.Spared c (k, p)) :
    Faithful { disk := s.disk.put (k.perform c p).2.committed, session := some (k.perform c p).2 }
      (x.after s (.called k p)) := by
  obtain ⟨hclosed, hcommitted, ct, hct, hus⟩ := h.session c hc
  have ht := (DbCall.keeps_iff hclosed (k, p)).mpr hok
  have hput := Disk.put_db hct hus (k.perform c p).2.committed
  have hafter : x.after s (.called k p)
      = if (k.perform c p).1 then { x with db := (k.apply x.db).getD x.db } else x := by
    rw [Expected.after, hc]
  have hvis : c.visible = x.db := by
    rw [Connection.visible, hclosed, Option.getD_none, hcommitted, h.rows]
  rw [hafter]
  refine ⟨hput.trans ?_, ?_, ?_⟩
  · cases hans : (k.perform c p).1 with
    | true =>
      have hdone := ht.done hans
      rw [hvis] at hdone
      rw [if_pos rfl, hdone, Option.getD_some]
    | false =>
      rw [if_neg Bool.false_ne_true, ← h.rows, ← hcommitted]
      exact ht.undone hans
  · rw [Disk.put_restore, h.restore]
    split <;> rfl
  · intro c' hc'
    cases hc'
    exact ⟨ht.closed, hput.symm, Disk.put_usable hct hus _⟩

theorem faithful_step {s s' : Store} {x : Expected} (h : Faithful s x) {e : StoreEvent}
    (hok : Spared s e) (hs : s.step e = some s') : Faithful s' (x.after s e) := by
  cases e with
  | opened first second unlinks =>
    rw [step] at hs
    split at hs
    · cases hs
    · cases hs
      exact faithful_opened h hok.1 hok.2 second unlinks
  | called k p =>
    rw [step] at hs
    split at hs
    · cases hs
    · rename_i c hc
      cases hs
      exact faithful_called h hc (hok c hc)
  | ended =>
    cases hs
    exact ⟨h.rows, h.restore, fun c hc => by cases hc⟩
  | restored c =>
    cases hs
    exact ⟨h.rows, rfl, h.session⟩

/--
**What was answered `TRUE` is there after a restart.** In any run over any number of starts and
ends of the process in which no first attempt to open fails and no failure does a call harm, the
file holds what the successful calls made of it since the last backup was put in place.
-/
theorem rows_survive {s : Store} {x : Expected} {es : List StoreEvent}
    (h : watched.Guarded (fun sx e => Spared sx.1 e) ({}, {}) es (s, x)) :
    s.disk.db = x.db ∧ s.disk.restore.map Content.db = x.restore := by
  have hinv : Faithful s x := by
    refine Machine.Guarded.inv (I := fun sx : Store × Expected => Faithful sx.1 sx.2) ?_ h
      ⟨rfl, rfl, fun c hc => by cases hc⟩
    intro sx e sx' hI hok hst
    obtain ⟨s', hs', rfl⟩ := Option.map_eq_some_iff.mp hst
    exact faithful_step hI hok hs'
  exact ⟨hinv.rows, hinv.restore⟩

/-- Bob is written, the process ends, and the cache is opened again. -/
def restart : List StoreEvent :=
  [.opened {} {} true, .called (.addContact { Contact.new with uid := "acct-bob", name := some "bob" }) {},
    .ended, .opened {} {} true]

/-- After a restart Bob is still there. -/
theorem bob_survives :
    ∃ s x, watched.Guarded (fun sx e => Spared sx.1 e) ({}, {}) restart (s, x) ∧
      s.disk.db = x.db ∧ (x.db.contacts.lookup "acct-bob").isSome = true := by
  have h : watched.Guarded (fun sx e => Spared sx.1 e) ({}, {}) restart _ :=
    .cons ⟨rfl, rfl⟩ rfl <| .cons (fun c hc => .inl ⟨rfl, rfl⟩) rfl <| .cons trivial rfl <|
      .cons ⟨rfl, rfl⟩ rfl .nil
  exact ⟨_, _, h, (rows_survive h).1, by decide⟩

end Store

end EdsTelepathy
