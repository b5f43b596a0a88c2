import EdsTelepathy.Proof.Flushed
import EdsTelepathy.Proof.Gone
import EdsTelepathy.Proof.Views

/-!
# Waiting for the next synchronisation

A contact waits for a stage of phase 3 while it is in the work table of the stage or in a
snapshot of it. Only a request, or the import, takes anybody into a work table, so whoever
does not wait after a request is left alone by every synchronisation until there is another
one. In a process that is started anew the rows say who waits.
-/

namespace EdsTelepathy

namespace Backend

/-! ## Who waits for phase 3 -/

/-- The event is not a request of the address book. -/
def Event.NoRequest : Event → Prop
  | .createContact _ => False
  | .modifyContact _ => False
  | .removeContact _ => False
  | _ => True

instance : DecidablePred Event.NoRequest
  | .createContact _ => .isFalse id
  | .modifyContact _ => .isFalse id
  | .removeContact _ => .isFalse id
  | .cl _ | .phase0 | .phase2 | .phase3 _ | .phase3Next _ | .updateContactsIdle | .startView _
  | .stopView _ | .inactivity _ | .avatarDataSaved _ _ | .getContact => .isTrue trivial

/-- Without a request only the import takes somebody into a work table. -/
theorem edits_enlist {b : Backend} {e : Event} (he : e.NoRequest) {ed : Edit} (hed : ed ∈ b.edits e)
    (hen : ed.Enlists) : e = .phase0 := by
  cases e with
  | cl e =>
    unfold edits at hed
    dsimp only at hed
    split at hed
    · obtain ⟨s, -, hs⟩ := mem_signalsEdits hed
      cases hs <;> exact hen.elim
    · cases hed
  | phase0 => rfl
  | phase2 =>
    rw [List.mem_singleton.mp hed] at hen
    exact hen.elim
  | phase3Next order =>
    unfold edits at hed
    dsimp only at hed
    split at hed
    · obtain ⟨r, todo, -, ⟨-, rfl⟩ | ⟨-, c, rfl | rfl⟩ | ⟨-, rfl⟩⟩ := mem_phase3Edits hed <;>
        exact hen.elim
    · cases hed
  | createContact ec => exact he.elim
  | modifyContact ec => exact he.elim
  | removeContact id => exact he.elim
  | _ => cases hed

end Backend

namespace Book

/-- An imported contact waits if its row asks for it. -/
theorem work_importContact {b : Book} {c : Contact} {stage : Phase3Stage} {k : String} {x : Nat}
    (h : (Backend.workTable (b.importContact c) stage).lookup k = some x) :
    (Backend.workTable b stage).lookup k = some x ∨ x = b.next ∧ c.asksFor stage = true := by
  have hone : ∀ (t : Table String Nat) (due : Bool), (due = true → c.asksFor stage = true) →
      (importInto t due c.uid b.next).lookup k = some x →
      t.lookup k = some x ∨ x = b.next ∧ c.asksFor stage = true := by
    intro t due hdue hl
    unfold importInto at hl
    split at hl
    · rename_i htrue
      rcases Table.lookup_insert_eq_some.mp hl with ⟨-, rfl⟩ | ⟨-, hold⟩
      · exact .inr ⟨rfl, hdue htrue⟩
      · exact .inl hold
    · exact .inl hl
  cases stage with
  | update => exact hone _ _ (fun _ => rfl) h
  | add => exact hone _ _ id h
  | delete => exact hone _ _ id h

/-- An edit that takes nobody into a work table adds nobody to those who wait. -/
theorem waits_apply {b : Book} {e : Edit} (hp : e.Proper b) (he : ¬ e.Enlists)
    {agenda : List (Phase3Stage × Nat)} {stage : Phase3Stage} {x : Nat}
    (h : (b.apply e).Waits agenda stage x) : b.Waits agenda stage x := by
  rcases h with ⟨k, hk⟩ | hin
  · rw [workTable_apply hp he] at hk
    exact .inl ⟨k, leaves_lookup hk⟩
  · exact .inr hin

/-- Whoever waits after the import has a row that asks for it. -/
theorem waits_import {cs : List Contact} (hnd : (cs.map Contact.uid).Nodup) {stage : Phase3Stage}
    {k : String} {x : Nat}
    (h : (Backend.workTable (cs.foldl importContact {}) stage).lookup k = some x) :
    ∃ c, cs[x]? = some c ∧ c.asksFor stage = true := by
  induction cs using List.reverseRecOn with
  | nil => cases stage <;> cases h
  | append_singleton cs c ih =>
    rw [List.foldl_append] at h
    rw [List.map_append, List.nodup_append] at hnd
    rcases work_importContact (c := c) h with hold | ⟨rfl, hask⟩
    · obtain ⟨c', hc', hask⟩ := ih hnd.1 hold
      exact ⟨c', (List.getElem?_append_left (List.getElem?_eq_some_iff.mp hc').1).trans hc', hask⟩
    · exact ⟨c, by rw [(importContacts_spec hnd.1).1]; simp, hask⟩

/-- Whoever is in the uid index after the import was imported under his uid. -/
theorem uid_import {cs : List Contact} (hnd : (cs.map Contact.uid).Nodup) {k : String} {x : Nat}
    (h : (cs.foldl importContact {}).uidToContact.lookup k = some x) :
    ∃ c, cs[x]? = some c ∧ c.uid = k := by
  induction cs using List.reverseRecOn with
  | nil => cases h
  | append_singleton cs c ih =>
    rw [List.foldl_append] at h
    rw [List.map_append, List.nodup_append] at hnd
    rcases Table.lookup_insert_eq_some.mp h with ⟨rfl, rfl⟩ | ⟨-, hold⟩
    · exact ⟨c, by rw [(importContacts_spec hnd.1).1]; simp, rfl⟩
    · obtain ⟨c', hc', hu⟩ := ih hnd.1 hold
      exact ⟨c', (List.getElem?_append_left (List.getElem?_eq_some_iff.mp hc').1).trans hc', hu⟩

/-- Whoever is imported gives his name to the index. -/
theorem name_import {cs : List Contact} {c : Contact} (hc : c ∈ cs) :
    ((cs.foldl importContact {}).nameToContact.lookup c.name).isSome = true := by
  induction cs using List.reverseRecOn with
  | nil => cases hc
  | append_singleton cs d ih =>
    rw [List.foldl_append]
    show (((cs.foldl importContact {}).nameToContact.insert d.name _).lookup c.name).isSome = true
    rw [Table.lookup_insert_ite]
    split
    · rfl
    · rename_i hne
      rcases List.mem_append.mp hc with hold | hlast
      · exact ih hold
      · rw [List.mem_singleton.mp hlast] at hne
        exact absurd rfl hne

end Book

namespace Backend

variable {stage : Phase3Stage}

/-- **Without a request nobody begins to wait** but whoever is imported. -/
theorem waits_step {b b' : Backend} {i : Input} (hsane : Sane b) (hi : i.event.NoRequest)
    (himport : i.event ≠ .phase0) (hs : b.step i = some b') {x : Nat}
    (hw : b'.book.Waits b'.tasks stage x) : b.book.Waits b.tasks stage x := by
  have hinv : b'.book.Waits b.tasks stage x → b.book.Waits b.tasks stage x := by
    refine take_book_inv (b := b.load i.env)
      (I := fun book => book.Waits b.tasks stage x → b.book.Waits b.tasks stage x)
      (P := fun _ ed => ¬ ed.Enlists)
      (fun book ed hI _ hp hP _ hwaits => hI (Book.waits_apply hp hP hwaits))
      (hsane.load i.env) id (allAlong_of_forall (fun ed hed _ hen => ?_) _) hs
    exact himport (edits_enlist (b := b.load i.env) hi hed hen)
  rcases hw with htable | hin
  · exact hinv (.inl htable)
  · rcases tasks_take (b := b.load i.env) hs _ hin with hold | hvalue
    · exact .inr (agenda_subset (b.load i.env) i.event _ hold)
    · exact hinv (.inl (Table.mem_values.mp hvalue))

/-- Whoever waits is in the book. -/
theorem waits_lt {b : Backend} (hsane : Sane b) {x : Nat} (hw : b.book.Waits b.tasks stage x) :
    x < b.book.next := by
  rcases hw with ⟨k, hk⟩ | hin
  · cases stage with
    | update => exact hsane.allocated.toUpdate _ _ hk
    | add => exact hsane.allocated.toAdd _ _ hk
    | delete => exact hsane.allocated.toDelete _ _ hk
  · obtain ⟨p, hp, hin⟩ := List.mem_flatMap.mp hin
    obtain ⟨y, hy, heq⟩ := List.mem_map.mp hin
    obtain rfl := (Prod.mk.inj heq).2
    exact hsane.todo p hp _ hy

/-- Phase 3 deals with the contact next, at this stage. -/
def ComesTo (b : Backend) (stage : Phase3Stage) (r : Nat) : Prop :=
  ∃ p rest todo, b.phase3 = p :: rest ∧ p.stage = stage ∧ p.todo = r :: todo

theorem ComesTo.waits {b : Backend} {r : Nat} (h : b.ComesTo stage r) :
    b.book.Waits b.tasks stage r := by
  obtain ⟨p, rest, todo, hp, rfl, htodo⟩ := h
  right
  unfold tasks
  rw [hp, List.flatMap_cons]
  refine List.mem_append_left _ (List.mem_map.mpr ⟨r, ?_, rfl⟩)
  rw [htodo]
  exact List.mem_cons_self

/-! ## Starting anew -/

/-- The process that is started from the database of this one. -/
def restarted (b : Backend) : Backend := boot b.pathSuffix b.vcardField b.out.db

/-- The cache has not been imported, and nothing has been done with the database. -/
structure Untouched (db : Db) (b : Backend) : Prop extends Unsynced b where
  notReady : b.membersReady = false
  book : b.book = {}
  saves : b.avatarSaves = []
  db : b.out.db = db
  queue : b.out.contactsToUpdateInDb = ∅

theorem untouched_boot (pathSuffix vcardField : String) (db : Db) :
    Untouched db (boot pathSuffix vcardField db) :=
  { owed := rfl, phase2 := rfl, phase3 := rfl, running := rfl, notReady := rfl, book := rfl,
    saves := rfl, db := rfl, queue := rfl }

theorem Untouched.load {db : Db} {b : Backend} (h : Untouched db b) (env : Env) :
    Untouched db (b.load env) :=
  { owed := h.owed, phase2 := h.phase2, phase3 := h.phase3, running := h.running,
    notReady := h.notReady, book := h.book, saves := h.saves, db := h.db, queue := h.queue }

/-- Telling the views is not touching the database. -/
theorem Untouched.outbox {db : Db} {b : Backend} (h : Untouched db b) {o : Outbox}
    (hdb : o.db = b.out.db) (hqueue : o.contactsToUpdateInDb = b.out.contactsToUpdateInDb) :
    Untouched db { b with out := o } :=
  { owed := h.owed, phase2 := h.phase2, phase3 := h.phase3, running := h.running,
    notReady := h.notReady, book := h.book, saves := h.saves, db := hdb.trans h.db,
    queue := hqueue.trans h.queue }

end Backend

namespace Outbox

theorem flushDbUpdates_of_empty {o : Outbox} (h : o.contactsToUpdateInDb = ∅) (heap : Nat → Contact) :
    o.flushDbUpdates heap = o := by
  unfold flushDbUpdates
  rw [h]
  rfl

theorem setInactivityStatus_toUpdate (heap : Nat → Contact) (o : Outbox) (on : Bool) :
    (o.setInactivityStatus heap on).contactsToUpdateInDb = o.contactsToUpdateInDb := by
  unfold setInactivityStatus
  split
  · rfl
  · dsimp only
    split
    · exact notifyRemote_toUpdate heap _
    · rfl

end Outbox

namespace Backend

/-- **Until the cache is imported the database is not touched**, unless there is a request. -/
theorem untouched_take {db : Db} {b b' : Backend} {e : Event} (h : Untouched db b)
    (he : e.NoRequest) (hs : b.take e = some b') : e = .phase0 ∨ Untouched db b' := by
  cases take_taken hs with
  | cl hstep =>
    obtain ⟨heq, hcl⟩ := unsynced_cl h.toUnsynced h.notReady hstep
    rw [heq]
    exact .inr { hcl with
      notReady := h.notReady, book := h.book, saves := h.saves, db := h.db, queue := h.queue }
  | phase0 _ => exact .inl rfl
  | phase2 hq =>
    rw [h.phase2] at hq
    cases hq
  | phase3 hq _ =>
    rw [h.phase3] at hq
    omega
  | phase3Next hp _ =>
    rw [h.running] at hp
    cases hp
  | createContact ec => exact he.elim
  | modifyContact ec => exact he.elim
  | removeContact id => exact he.elim
  | updateContactsIdle =>
    refine .inr (h.outbox ?_ ?_)
    · -- the idle source finds an empty queue
      unfold Outbox.updateContactsIdleCb
      dsimp only
      split
      · rw [Outbox.flushDbUpdates_of_empty ((Outbox.notifyRemote_toUpdate ..).trans h.queue)]
        exact Outbox.notifyRemotelyUpdatedContactsAndComplete_db ..
      · rw [Outbox.flushDbUpdates_of_empty h.queue]
    · exact (Outbox.flushDbUpdates_toUpdate ..).trans h.queue.symm
  | startView id =>
    exact .inr (h.outbox (Outbox.notifyRemotelyUpdatedContactsAndComplete_db ..)
      (Outbox.notifyRemote_toUpdate ..))
  | stopView id =>
    refine .inr (h.outbox ?_ ?_)
    · rw [Outbox.flushDbUpdates_of_empty h.queue]
    · rw [Outbox.flushDbUpdates_of_empty h.queue]
  | inactivity on =>
    exact .inr (h.outbox (Outbox.setInactivityStatus_db ..) (Outbox.setInactivityStatus_toUpdate ..))
  | @avatarDataSaved i r ok hi =>
    rw [h.saves] at hi
    cases hi
  | getContact =>
    exact .inr (h.outbox (Outbox.notifyRemotelyUpdatedContactsAndComplete_db ..)
      (Outbox.notifyRemote_toUpdate ..))

/-- The property holds where a process that is started anew has imported the cache. -/
def AfterRestart (b : Backend) (P : Backend → Prop) : Prop :=
  ∀ (is : List Input) (env : Env) (b₀ b₁ : Backend),
    machine.Guarded (fun _ i => i.event.NoRequest ∧ i.event ≠ .phase0) b.restarted is b₀ →
    b₀.step { event := .phase0, env := env } = some b₁ → P b₁

theorem mem_fetchContacts {db : Db} {c : Contact} :
    c ∈ db.fetchContacts ↔ ∃ u row, db.contacts.lookup u = some row ∧ c = db.fetchContact u row := by
  unfold Db.fetchContacts
  rw [List.mem_map]
  constructor
  · rintro ⟨e, he, rfl⟩
    have hin := (List.mem_insertionSort fun a b : (_ : String) × ContactRow => a.1 ≤ b.1).mp he
    exact ⟨e.1, e.2, AList.mem_lookup_iff.mpr hin, rfl⟩
  · rintro ⟨u, row, hrow, rfl⟩
    exact ⟨⟨u, row⟩, (List.mem_insertionSort _).mpr (AList.mem_lookup_iff.mp hrow), rfl⟩

/-- Nothing but the import happens where a process that is started anew imports the cache. -/
theorem restarted_book {b b₀ b₁ : Backend} {is : List Input} {env : Env}
    (hrun : machine.Guarded (fun _ i => i.event.NoRequest ∧ i.event ≠ .phase0) b.restarted is b₀)
    (himport : b₀.step { event := .phase0, env := env } = some b₁) :
    Sane b₁ ∧ b₁.book = b.out.db.fetchContacts.foldl Book.importContact {} ∧ b₁.tasks = []
      ∧ b₁.out.db = b.out.db ∧ b₁.out.contactsToUpdateInDb = ∅ := by
  obtain ⟨hsane, huntouched⟩ : Sane b₀ ∧ Untouched b.out.db b₀ :=
    hrun.inv (I := fun s => Sane s ∧ Untouched b.out.db s)
      (fun s i s' hI hok hs => ⟨sane_step hI.1 hs,
        (untouched_take (b := s.load i.env) (hI.2.load i.env) hok.1 hs).resolve_left hok.2⟩)
      ⟨sane_boot .., untouched_boot ..⟩
  have hout : b₁.out.db = b₀.out.db ∧ b₁.out.contactsToUpdateInDb = b₀.out.contactsToUpdateInDb := by
    cases take_taken himport with
    | phase0 _ =>
      rw [syncPhase0IdleCb_out]
      exact ⟨rfl, rfl⟩
  refine ⟨sane_step hsane himport, ?_, ?_, hout.1.trans huntouched.db, hout.2.trans huntouched.queue⟩
  · have htake := take_book (b := b₀.load env) himport
    have hedits : (b₀.load env).edits .phase0 = b₀.out.db.fetchContacts.map Edit.importContact := rfl
    have hload : (b₀.load env).book = b₀.book := rfl
    rw [htake, hedits, hload, huntouched.book, huntouched.db, List.foldl_map]
    rfl
  · have hagenda := take_agenda (b := b₀.load env) himport
    have hphase3 : (b₀.load env).phase3 = [] := huntouched.running
    unfold tasks
    generalize b₁.phase3 = ps at hagenda
    cases hagenda with
    | same _ => rw [hphase3]; rfl

/--
**What is imported where a process is started anew**: every row as a contact, which waits
for phase 3 only if the row says so, and nobody else.
-/
theorem restarted_imports {b b₀ b₁ : Backend} {is : List Input} {env : Env}
    (hrun : machine.Guarded (fun _ i => i.event.NoRequest ∧ i.event ≠ .phase0) b.restarted is b₀)
    (himport : b₀.step { event := .phase0, env := env } = some b₁) :
    (∀ u row, b.out.db.contacts.lookup u = some row →
        ∃ r, b₁.book.uidToContact.lookup u = some r
          ∧ b₁.book.contacts r = (b.out.db.fetchContact u row).imported
          ∧ (b₁.book.nameToContact.lookup (some row.name)).isSome = true
          ∧ ∀ stage, b₁.book.Waits b₁.tasks stage r →
            (b.out.db.fetchContact u row).asksFor stage = true)
      ∧ (∀ u r, b₁.book.uidToContact.lookup u = some r →
        ∃ row, b.out.db.contacts.lookup u = some row) := by
  obtain ⟨-, hbook, htasks, -⟩ := restarted_book hrun himport
  have hnd := b.out.db.nodup_fetchContacts
  obtain ⟨-, hcon, -⟩ := Book.importContacts_spec hnd
  rw [hbook, htasks]
  refine ⟨fun u row hrow => ?_, fun u r hr => ?_⟩
  · obtain ⟨i, hi⟩ := List.getElem?_of_mem (mem_fetchContacts.mpr ⟨u, row, hrow, rfl⟩)
    obtain ⟨himp, huid⟩ := hcon i _ hi
    have hname := Book.name_import (List.mem_of_getElem? hi)
    refine ⟨i, huid, himp, hname, fun stage hw => ?_⟩
    rcases hw with ⟨k, hk⟩ | hin
    · obtain ⟨c, hc, hask⟩ := Book.waits_import hnd hk
      rw [hi] at hc
      rw [Option.some.inj hc]
      exact hask
    · cases hin
  · obtain ⟨c, hc, rfl⟩ := Book.uid_import hnd hr
    obtain ⟨u, row, hrow, rfl⟩ := mem_fetchContacts.mp (List.mem_of_getElem? hc)
    exact ⟨row, hrow⟩

/-- The name index of the import names rows. -/
theorem restarted_names {b b₀ b₁ : Backend} {is : List Input} {env : Env}
    (hrun : machine.Guarded (fun _ i => i.event.NoRequest ∧ i.event ≠ .phase0) b.restarted is b₀)
    (himport : b₀.step { event := .phase0, env := env } = some b₁) {n : Option String} {r : Nat}
    (hr : b₁.book.nameToContact.lookup n = some r) :
    ∃ u row, b.out.db.contacts.lookup u = some row ∧ some row.name = n
      ∧ b₁.book.uidToContact.lookup u = some r
      ∧ b₁.book.contacts r = (b.out.db.fetchContact u row).imported := by
  obtain ⟨-, hbook, -⟩ := restarted_book hrun himport
  obtain ⟨-, hcon, hnames⟩ := Book.importContacts_spec b.out.db.nodup_fetchContacts
  rw [hbook] at hr ⊢
  obtain ⟨c, hc, hn⟩ := hnames n r hr
  obtain ⟨himp, huid⟩ := hcon r c hc
  obtain ⟨u, row, hrow, rfl⟩ := mem_fetchContacts.mp (List.mem_of_getElem? hc)
  exact ⟨u, row, hrow, hn, huid, himp⟩

/-- **After the import everybody is a row**, and is found by its uid. -/
theorem restarted_objects {b b₀ b₁ : Backend} {is : List Input} {env : Env}
    (hrun : machine.Guarded (fun _ i => i.event.NoRequest ∧ i.event ≠ .phase0) b.restarted is b₀)
    (himport : b₀.step { event := .phase0, env := env } = some b₁) {x : Nat}
    (hx : x < b₁.book.next) :
    ∃ u row, b.out.db.contacts.lookup u = some row ∧ b₁.book.uidToContact.lookup u = some x
      ∧ b₁.book.contacts x = (b.out.db.fetchContact u row).imported := by
  obtain ⟨-, hbook, -⟩ := restarted_book hrun himport
  obtain ⟨hnext, hcon, -⟩ := Book.importContacts_spec b.out.db.nodup_fetchContacts
  rw [hbook] at hx ⊢
  rw [hnext] at hx
  obtain ⟨c, hc⟩ : ∃ c, b.out.db.fetchContacts[x]? = some c := ⟨_, List.getElem?_eq_getElem hx⟩
  obtain ⟨himp, huid⟩ := hcon x c hc
  obtain ⟨u, row, hrow, rfl⟩ := mem_fetchContacts.mp (List.mem_of_getElem? hc)
  exact ⟨u, row, hrow, huid, himp⟩

/-- The import is done once, and it is done then. -/
theorem restarted_imported {b₀ b₁ : Backend} {env : Env}
    (himport : b₀.step { event := .phase0, env := env } = some b₁) : b₁.phase0Queued = false := by
  cases take_taken himport with
  | phase0 _ =>
    obtain ⟨views, hsync⟩ := tpReadyCb_spec
      { b₀.load env with
        book := (b₀.load env).out.db.fetchContacts.foldl Book.importContact (b₀.load env).book
        phase0Queued := false }
    exact hsync.sameAgenda.imported

end Backend

end EdsTelepathy
