import EdsTelepathy.Proof.Cache
import EdsTelepathy.Proof.Indexes
import EdsTelepathy.Proof.Stored

/-!
# What phase 2 deletes

Phase 2 deletes the contacts that still carry the mark which the import has set. Between
the import and phase 2 no edit sets the mark, the names stay as they are, and every roster
that is received takes the mark from the contacts it names. A marked contact keeps its own
entries in the name and the uid index and shares its uid with nobody, so that deleting it
deletes nothing else.
-/

namespace EdsTelepathy

/-! ## The contacts of a cache -/

/-- No two rows have the same uid. -/
theorem Db.nodup_fetchContacts (db : Db) : (db.fetchContacts.map Contact.uid).Nodup := by
  have hmap : db.fetchContacts.map Contact.uid
      = (db.contacts.entries.insertionSort (fun a b => a.1 ≤ b.1)).map Sigma.fst := by
    unfold fetchContacts
    rw [List.map_map]
    rfl
  rw [hmap]
  have hperm := (List.perm_insertionSort (fun a b : (_ : String) × ContactRow => a.1 ≤ b.1)
    db.contacts.entries).map Sigma.fst
  exact hperm.nodup_iff.mpr db.contacts.nodupKeys

namespace Book

/-- Whoever is in an index has been allocated. -/
theorem Allocated.held {b : Book} (h : b.Allocated) {r : Nat} (hr : b.Held r) : r < b.next := by
  rcases hr with ⟨k, hk⟩ | ⟨n, hn⟩ | ⟨x, hx⟩
  · exact h.uid k r hk
  · exact h.name n r hn
  · exact h.handle x r hx

/-! ## The mark -/

/--
What is true of the contacts that are marked unseen since `start` was imported, when the
contacts called `names` have been reported.
-/
structure Marked (start : Book) (names : List (Option String)) (b : Book) : Prop where
  later : start.next ≤ b.next
  origin : ∀ r < b.next, (b.contacts r).flags.has contactUnseen = true →
    r < start.next ∧ (start.contacts r).flags.has contactUnseen = true
      ∧ (b.contacts r).uid = (start.contacts r).uid ∧ (b.contacts r).name = (start.contacts r).name
      ∧ (b.contacts r).handle = 0
  name : ∀ n r, b.nameToContact.lookup n = some r →
    (b.contacts r).flags.has contactUnseen = true → (b.contacts r).name = n
  live : ∀ n r, b.nameToContact.lookup n = some r →
    (b.contacts r).flags.has contactUnseen = true → b.Live r
  alone : ∀ n r, b.nameToContact.lookup n = some r →
    (b.contacts r).flags.has contactUnseen = true →
      ∀ r' < b.next, (b.contacts r').uid = (b.contacts r).uid → r' = r
  seen : ∀ n ∈ names, ∀ r, b.nameToContact.lookup n = some r →
    (b.contacts r).flags.has contactUnseen = false


/-! ## Edits between the import and phase 2 -/

/-- The contact keeps its name, and its handle while it is marked. -/
def Steady (c c' : Contact) : Prop :=
  c'.name = c.name ∧ (c'.flags.has contactUnseen = true → c'.handle = c.handle)

theorem Steady.refl (c : Contact) : Steady c c := ⟨rfl, fun _ => rfl⟩

theorem steady_apply {b : Book} {e : Edit} (hp : e.Proper b) (hw : ¬ Backend.Edit.Staged e) {x : Nat}
    (hx : x < b.next) : Steady (b.contacts x) ((b.apply e).contacts x) := by
  have hseen : ∀ {c c' : Contact}, c'.name = c.name → c'.flags.has contactUnseen = false →
      Steady c c' := fun hn hu => ⟨hn, fun h => absurd (hu.symm.trans h) (by decide)⟩
  rcases contacts_apply e hx with heq | hwrites
  · rw [heq]
    exact .refl _
  generalize (b.apply e).contacts x = c' at hwrites
  cases hwrites with
  | seen _ => exact hseen rfl (BitVec.clear_has_self _ _)
  | @confirmed _ cIn _ =>
    have hplain : cIn.Plain := hp
    exact hseen rfl (hplain.has_flags (by decide))
  | @copied f cIn _ => exact ⟨(f.sameKeys cIn _).2.1, fun _ => (f.sameKeys cIn _).2.2⟩
  | touched t => exact ⟨(t.sameKeys _).2.1, fun _ => (t.sameKeys _).2.2⟩
  | scheduled => exact ⟨rfl, fun _ => rfl⟩
  | modified ec vcardField sent stored => exact absurd trivial hw
  | added c => exact absurd trivial hw
  | mergedInto r _ => exact absurd trivial hw
  | failed c => exact absurd trivial hw
  | removed => exact absurd trivial hw

/-- The contact that such an edit brings is not marked, and its uid is free. -/
theorem brings_seen {b : Book} {e : Edit} (hp : e.Proper b) (hw : ¬ Backend.Edit.Staged e) {x : Nat}
    (h : b.next ≤ x) (hx : x < (b.apply e).next) :
    x = b.next ∧ ((b.apply e).contacts x).flags.has contactUnseen = false
      ∧ b.uidToContact.lookup ((b.apply e).contacts x).uid = none := by
  obtain ⟨he, hb⟩ := brings_apply h hx
  refine ⟨he, ?_⟩
  have hplain : ∀ {cIn : Contact} {uid : String}, cIn.Plain →
      ({ cIn.dup with uid := uid } : Contact).flags.has contactUnseen = false := fun hc =>
    hc.has_flags (by decide)
  generalize (b.apply e).contacts x = c at hb
  cases hb with
  | imported c => exact absurd trivial hw
  | reported hfree => exact ⟨hplain hp, hfree⟩
  | added hfree => exact ⟨hplain hp, hfree⟩
  | created c => exact ⟨hp.2.2.sound.2, hp.2.1⟩

/-- Only a new contact gets an entry in the name index. -/
theorem name_apply {b : Book} {e : Edit} (hw : ¬ Backend.Edit.Staged e) {n : Option String} {r : Nat}
    (h : (b.apply e).nameToContact.lookup n = some r) :
    b.nameToContact.lookup n = some r ∨ r = b.next := by
  have hnew : ∀ {m : Option String}, (b.nameToContact.insert m b.next).lookup n = some r →
      b.nameToContact.lookup n = some r ∨ r = b.next := by
    intro m hl
    rcases Table.lookup_insert_eq_some.mp hl with ⟨-, rfl⟩ | ⟨-, hold⟩
    · exact .inr rfl
    · exact .inl hold
  cases e with
  | importContact c => exact absurd trivial hw
  | modified r ec vcardField sent stored => exact absurd trivial hw
  | addDone r c => exact absurd trivial hw
  | addFailed r c => exact absurd trivial hw
  | removalDone r => exact absurd trivial hw
  | memberReported pathSuffix cIn =>
    unfold apply memberReported at h
    dsimp only at h
    split at h <;> rw [enterHandle_nameToContact] at h
    · exact .inl h
    · exact hnew h
  | contactAdded pathSuffix cIn =>
    unfold apply contactAdded at h
    dsimp only at h
    split at h
    · exact .inl h
    · exact hnew h
  | mergeByHandle f cIn =>
    unfold apply mergeByHandle at h
    dsimp only at h
    split at h <;> exact .inl h
  | forgetHandles => exact .inl h
  | touch r t => exact .inl h
  | deleteContacts rs =>
    refine .inl ?_
    unfold apply at h
    clear hnew hw
    induction rs generalizing b with
    | nil => exact h
    | cons x rs ih =>
      have hx := ih (b := b.deleteContact x) h
      rw [deleteContact_name] at hx
      exact (Table.lookup_erase_eq_some.mp hx).2
  | createContact c =>
    have hname : (b.apply (.createContact c)).nameToContact = _ := createContact_nameToContact b c
    rw [hname] at h
    exact hnew h
  | scheduleRemoval r => exact .inl h

/-- A contact that shares its uid with nobody stays live while it has its entry by name. -/
theorem live_deleteContacts {b : Book} {rs : List Nat} {r : Nat} (hl : b.Live r)
    (halone : ∀ x ∈ rs, (b.contacts x).uid = (b.contacts r).uid → x = r)
    (hname : (rs.foldl deleteContact b).nameToContact.lookup (b.contacts r).name = some r) :
    (rs.foldl deleteContact b).Live r := by
  induction rs generalizing b with
  | nil => exact hl
  | cons x rs ih =>
    have hgone : ∀ (ys : List Nat) {c : Book} {n : Option String}, c.nameToContact.lookup n = none →
        (ys.foldl deleteContact c).nameToContact.lookup n = none := by
      intro ys
      induction ys with
      | nil => exact fun h => h
      | cons y ys ihy =>
        intro c n h
        refine ihy ?_
        rw [deleteContact_name, Table.lookup_erase_ite, h, ite_self]
    refine ih (b := b.deleteContact x) (live_deleteContact hl fun heq => ?_) (fun y hy heq => ?_) ?_
    · -- deleting it takes its own name out of the index
      obtain rfl := halone x List.mem_cons_self heq.symm
      have hnone := hgone rs (c := b.deleteContact x) (n := (b.contacts x).name)
        (by rw [deleteContact_name]; exact AList.lookup_erase _ _)
      rw [List.foldl_cons, hnone] at hname
      cases hname
    · rw [deleteContact_contacts] at heq
      exact halone y (List.mem_cons_of_mem x hy) heq
    · rw [deleteContact_contacts]
      exact hname

theorem live_apply {b : Book} {e : Edit} (ha : b.Allocated) (hp : e.Proper b)
    (hw : ¬ Backend.Edit.Staged e) {r : Nat} (hl : b.Live r)
    (halone : ∀ x < b.next, (b.contacts x).uid = (b.contacts r).uid → x = r)
    (hname : (b.apply e).nameToContact.lookup (b.contacts r).name = some r) : (b.apply e).Live r := by
  have hr : r < b.next := ha.uid _ _ hl
  have huid : ((b.apply e).contacts r).uid = (b.contacts r).uid := (becomes_apply hp hr).uid
  -- the uid index is as it was at the uid of `r`
  suffices hsame : (b.apply e).uidToContact.lookup (b.contacts r).uid = some r by
    unfold Live
    rw [huid]; exact hsame
  have hfresh : ∀ {k : String} {x : Nat}, b.uidToContact.lookup k = none →
      (b.uidToContact.insert k x).lookup (b.contacts r).uid = some r := by
    intro k x hk
    refine (AList.lookup_insert_ne fun heq => ?_).trans hl
    unfold Live at hl
    rw [heq, hk] at hl
    cases hl
  cases e with
  | importContact c => exact absurd trivial hw
  | modified r ec vcardField sent stored => exact absurd trivial hw
  | addDone r c => exact absurd trivial hw
  | addFailed r c => exact absurd trivial hw
  | removalDone r => exact absurd trivial hw
  | memberReported pathSuffix cIn =>
    unfold apply memberReported
    dsimp only
    split
    · rw [enterHandle_uidToContact]; exact hl
    · rw [enterHandle_uidToContact]
      exact hfresh (lookup_generateUid pathSuffix b.uidToContact cIn.name)
  | contactAdded pathSuffix cIn =>
    unfold apply contactAdded
    dsimp only
    split
    · rename_i x hx
      have hself : ((b.contactConfirmed x cIn).contacts x).uid = (b.contacts x).uid := by
        unfold contactConfirmed
        rw [modify_contacts_self]; rfl
      show (b.uidToContact.insert ((b.contactConfirmed x cIn).contacts x).uid x).lookup
        (b.contacts r).uid = some r
      rw [hself, Table.lookup_insert_ite]
      split
      · rename_i heq
        rw [halone x (ha.name _ _ hx) heq.symm]
      · exact hl
    · have hself : ((b.contactFound pathSuffix cIn).contacts b.next).uid
          = generateUid pathSuffix b.uidToContact cIn.name :=
        congrArg Contact.uid (alloc_contacts_next b _)
      show (b.uidToContact.insert ((b.contactFound pathSuffix cIn).contacts b.next).uid b.next).lookup
        (b.contacts r).uid = some r
      rw [hself]
      exact hfresh (lookup_generateUid pathSuffix b.uidToContact cIn.name)
  | mergeByHandle f cIn =>
    unfold apply mergeByHandle
    dsimp only
    split <;> exact hl
  | forgetHandles => exact hl
  | touch x t => exact hl
  | deleteContacts rs =>
    have hheld : ∀ x ∈ rs, x < b.next := fun x hx => ha.held (hp x hx)
    have hlive := live_deleteContacts hl (fun x hx => halone x (hheld x hx)) hname
    unfold Live at hlive
    rw [foldl_deleteContact_contacts] at hlive
    exact hlive
  | createContact c =>
    obtain ⟨-, hfree, -⟩ := hp
    show (b.createContact c).uidToContact.lookup _ = _
    rw [createContact_uidToContact]
    exact hfresh hfree
  | scheduleRemoval x => exact hl

/-! ## The mark along a run -/

/-- A contact that is reported is not marked afterwards. -/
theorem memberReported_seen {b : Book} (ha : b.Allocated) {pathSuffix : String} {cIn : Contact}
    (hp : cIn.Plain) {r : Nat}
    (h : (b.memberReported pathSuffix cIn).nameToContact.lookup cIn.name = some r)
    (hr : r < (b.memberReported pathSuffix cIn).next) :
    ((b.memberReported pathSuffix cIn).contacts r).flags.has contactUnseen = false := by
  cases hc : b.nameToContact.lookup cIn.name with
  | some x =>
    have hx : (b.memberReported pathSuffix cIn).nameToContact.lookup cIn.name = some x :=
      memberReported_name hc
    rw [h] at hx
    obtain rfl := Option.some.inj hx
    rw [memberReported_contact (ha.name _ _ hc), if_pos hc]
    exact seen_not_unseen cIn _
  | none =>
    have hw : ¬ Backend.Edit.Staged (.memberReported pathSuffix cIn) := fun hs => hs
    rcases name_apply (e := .memberReported pathSuffix cIn) hw h with hold | rfl
    · rw [hc] at hold; cases hold
    · exact (brings_seen (e := .memberReported pathSuffix cIn) hp hw (Nat.le_refl _) hr).2.1

theorem marked_apply {start b : Book} {names : List (Option String)} {e : Edit}
    (h : Marked start names b) (ha : b.Allocated) (hp : e.Proper b)
    (hw : ¬ Backend.Edit.Staged e) (ha' : (b.apply e).Allocated) :
    Marked start names (b.apply e) := by
  have hle := next_apply b e
  -- a contact that is marked afterwards was marked before, and has kept its keys
  have hold : ∀ {r}, r < (b.apply e).next → ((b.apply e).contacts r).flags.has contactUnseen = true →
      r < b.next ∧ (b.contacts r).flags.has contactUnseen = true
        ∧ ((b.apply e).contacts r).uid = (b.contacts r).uid
        ∧ ((b.apply e).contacts r).name = (b.contacts r).name
        ∧ ((b.apply e).contacts r).handle = (b.contacts r).handle := by
    intro r hr hu
    by_cases hlt : r < b.next
    · have hb := becomes_apply hp hlt
      have hs := steady_apply hp hw hlt
      refine ⟨hlt, ?_, hb.uid, hs.1, hs.2 hu⟩
      by_contra hc
      exact absurd ((hb.seen (by simpa using hc)).symm.trans hu) (by decide)
    · obtain ⟨-, hno, -⟩ := brings_seen hp hw (by omega) hr
      exact absurd (hno.symm.trans hu) (by decide)
  have hname : ∀ {n r}, (b.apply e).nameToContact.lookup n = some r →
      ((b.apply e).contacts r).flags.has contactUnseen = true → b.nameToContact.lookup n = some r := by
    intro n r hn hu
    rcases name_apply hw hn with hn' | rfl
    · exact hn'
    · exact absurd (hold (ha'.name n _ hn) hu).1 (Nat.lt_irrefl _)
  refine ⟨Nat.le_trans h.later hle, fun r hr hu => ?_, fun n r hn hu => ?_, fun n r hn hu => ?_,
    fun n r hn hu r' hr' heq => ?_, fun n hin r hn => ?_⟩
  · obtain ⟨hlt, hu', huid, hnm, hh⟩ := hold hr hu
    obtain ⟨h1, h2, h3, h4, h5⟩ := h.origin r hlt hu'
    exact ⟨h1, h2, huid.trans h3, hnm.trans h4, hh.trans h5⟩
  · obtain ⟨-, hu', -, hnm, -⟩ := hold (ha'.name n r hn) hu
    exact hnm.trans (h.name n r (hname hn hu) hu')
  · obtain ⟨-, hu', -, hnm, -⟩ := hold (ha'.name n r hn) hu
    have hn₀ := hname hn hu
    refine live_apply ha hp hw (h.live n r hn₀ hu') (h.alone n r hn₀ hu') ?_
    rw [h.name n r hn₀ hu']
    exact hn
  · obtain ⟨hlt, hu', huid, -, -⟩ := hold (ha'.name n r hn) hu
    have hn₀ := hname hn hu
    by_cases hr'lt : r' < b.next
    · rw [(becomes_apply hp hr'lt).uid, huid] at heq
      exact h.alone n r hn₀ hu' r' hr'lt heq
    · -- a new contact gets a uid that is free, and that of `r` is not
      obtain ⟨-, -, hfree⟩ := brings_seen hp hw (by omega) hr'
      have hl := h.live n r hn₀ hu'
      unfold Live at hl
      rw [heq, huid, hl] at hfree
      cases hfree
  · rcases name_apply hw hn with hn' | rfl
    · exact (becomes_apply hp (ha.name n r hn')).seen (h.seen n hin r hn')
    · exact (brings_seen hp hw (Nat.le_refl _) (ha'.name n _ hn)).2.1

end Book

/-- The names that an edit reports as members of the roster. -/
def Edit.reports : Edit → List (Option String)
  | .memberReported _ cIn => [cIn.name]
  | _ => []

namespace Book

theorem marked_edit {start b : Book} {names : List (Option String)} {e : Edit}
    (h : Marked start names b) (ha : b.Allocated) (hp : e.Proper b)
    (hw : ¬ Backend.Edit.Staged e) (ha' : (b.apply e).Allocated) :
    Marked start (names ++ e.reports) (b.apply e) := by
  have hm := marked_apply h ha hp hw ha'
  refine ⟨hm.later, hm.origin, hm.name, hm.live, hm.alone, fun n hn r hr => ?_⟩
  rcases List.mem_append.mp hn with hn | hn
  · exact hm.seen n hn r hr
  · cases e with
    | memberReported pathSuffix cIn =>
      obtain rfl := List.mem_singleton.mp hn
      exact memberReported_seen ha hp hr (ha'.name _ r hr)
    | _ => cases hn

end Book

/-! ## Rosters -/

/-- The roster that a signal brings. -/
def Signal.roster : Signal → List Contact
  | .getMembersDone (some cs) => cs
  | _ => []

namespace Backend

/-- The roster contacts that an event brings to the callback of `get_members`. -/
def rosters (b : Backend) : Event → List Contact
  | .cl e =>
    match b.tpcl.step e with
    | some (_, signals) => signals.flatMap Signal.roster
    | none => []
  | _ => []

/-- The roster contacts that are received along a run. -/
def received : Backend → List Input → List Contact
  | _, [] => []
  | b, i :: is =>
    (b.load i.env).rosters i.event ++
      match b.step i with
      | some b' => b'.received is
      | none => []

theorem reports_signal (b : Backend) (s : Signal) :
    (b.signalEdits s).flatMap Edit.reports = s.roster.map Contact.name := by
  have hmap : ∀ {f : Contact → Edit} (cs : List Contact), (∀ c, (f c).reports = []) →
      (cs.map f).flatMap Edit.reports = [] := by
    intro f cs hf
    induction cs with
    | nil => rfl
    | cons c cs ih => rw [List.map_cons, List.flatMap_cons, hf, ih]; rfl
  unfold signalEdits
  cases s with
  | getMembersDone result =>
    cases result with
    | none => rfl
    | some cs =>
      show (cs.map _).flatMap Edit.reports = cs.map Contact.name
      induction cs with
      | nil => rfl
      | cons c cs ih => rw [List.map_cons, List.flatMap_cons, ih]; rfl
  | statusChanged st =>
    cases st with
    | online => rfl
    | offline =>
      dsimp only
      split <;> rfl
  | contactsRemoved cs =>
    dsimp only
    split
    · rw [List.flatMap_append]
      have hclear : ∀ rs : List Nat, (rs.map (Edit.touch · .clearDelete)).flatMap Edit.reports = [] := by
        intro rs
        induction rs with
        | nil => rfl
        | cons r rs ih => rw [List.map_cons, List.flatMap_cons, ih]; rfl
      rw [hclear]; rfl
    · rfl
  | avatarDataChanged c =>
    dsimp only
    split <;> rfl
  | _ cs =>
    dsimp only
    split
    · exact hmap cs fun _ => rfl
    · rfl

theorem reports_signals (b : Backend) (ss : List Signal) :
    (b.signalsEdits ss).flatMap Edit.reports = (ss.flatMap Signal.roster).map Contact.name := by
  induction ss generalizing b with
  | nil => rfl
  | cons s ss ih =>
    unfold signalsEdits
    rw [List.flatMap_append, List.flatMap_cons, List.map_append, reports_signal, ih]

/-! ## Between the import and phase 2 -/

/-- The callbacks that may run between the import and phase 2, requests to create or remove included. -/
def Event.InWindow : Event → Prop
  | .cl _ => True
  | .createContact _ => True
  | .removeContact _ => True
  | .updateContactsIdle => True
  | .startView _ => True
  | .stopView _ => True
  | .inactivity _ => True
  | .avatarDataSaved _ _ => True
  | .getContact => True
  | .phase0 => False
  | .phase2 => False
  | .phase3 _ => False
  | .phase3Next _ => False
  | .modifyContact _ => False

instance : DecidablePred Event.InWindow := fun e => by
  cases e <;> unfold Event.InWindow <;> infer_instance

theorem not_staged {b : Backend} {e : Event} (hw : e.InWindow) {ed : Edit} (hed : ed ∈ b.edits e) :
    ¬ Edit.Staged ed := by
  intro hs
  rcases mem_edits hed hs with ⟨rfl, -⟩ | ⟨_, _, _, _, _, rfl, -⟩ | ⟨_, _, _, rfl, -, -⟩
  · exact hw
  · exact hw
  · exact hw

/-- An edit that reports a member comes from the roster. -/
theorem reports_edits {b : Backend} {e : Event} (hw : e.InWindow) :
    (b.edits e).flatMap Edit.reports = (b.rosters e).map Contact.name := by
  cases e with
  | cl e =>
    unfold edits rosters
    dsimp only
    cases b.tpcl.step e with
    | none => rfl
    | some p => exact reports_signals _ _
  | createContact ec =>
    unfold edits createEdits enterEdits rosters
    dsimp only
    split
    · rfl
    · split
      · split
        · split <;> rfl
        · rfl
      · split <;> rfl
  | removeContact id =>
    unfold edits removeEdits removeFoundEdits removalEdits rosters
    dsimp only
    split
    · rfl
    · split
      · rfl
      · rw [List.flatMap_cons]
        split
        · split
          · rfl
          · split <;> rfl
        · split <;> rfl
  | phase0 => exact hw.elim
  | phase2 => exact hw.elim
  | phase3 order => exact hw.elim
  | phase3Next order => exact hw.elim
  | modifyContact ec => exact hw.elim
  | updateContactsIdle => rfl
  | startView id => rfl
  | stopView id => rfl
  | inactivity on => rfl
  | avatarDataSaved i ok => rfl
  | getContact => rfl

theorem marked_foldl {start : Book} {es : List Edit} {b : Book} {names : List (Option String)}
    (h : Book.Marked start names b)
    (hes : AllAlong Book.apply (fun book ed => book.Allocated ∧ (book.apply ed).Allocated
      ∧ ed.Proper book ∧ ¬ Edit.Staged ed) b es) :
    Book.Marked start (names ++ es.flatMap Edit.reports) (es.foldl Book.apply b) := by
  induction es generalizing b names with
  | nil => rw [List.flatMap_nil, List.append_nil]; exact h
  | cons e es ih =>
    obtain ⟨⟨ha, ha', hp, hw⟩, hrest⟩ := hes
    rw [List.flatMap_cons, ← List.append_assoc]
    exact ih (Book.marked_edit h ha hp hw ha') hrest

/-- **An event of the window adds what it reports.** -/
theorem marked_take {start : Book} {b b' : Backend} {e : Event} {names : List (Option String)}
    (hsane : Sane b) (h : Book.Marked start names b.book) (hw : e.InWindow)
    (hs : b.take e = some b') :
    Book.Marked start (names ++ (b.rosters e).map Contact.name) b'.book := by
  have hun : AllAlong Book.apply (fun _ ed => ¬ Edit.Staged ed) b.book (b.edits e) :=
    allAlong_of_forall (fun ed hed _ => not_staged hw hed) _
  rw [take_book hs, ← reports_edits hw]
  refine marked_foldl h (((edits_allocated hsane e).and hun).mono fun book ed hP => ?_)
  obtain ⟨⟨⟨ha, hle⟩, hp, hlt⟩, hns⟩ := hP
  exact ⟨ha, Book.allocated_apply ha hp fun r c heq => Nat.lt_of_lt_of_le (hlt r c heq) hle, hp, hns⟩

theorem marked_window {start : Book} {b b' : Backend} {is : List Input} {names : List (Option String)}
    (hrun : machine.Guarded (fun _ i => i.event.InWindow) b is b') (hsane : Sane b)
    (h : Book.Marked start names b.book) :
    Book.Marked start (names ++ (b.received is).map Contact.name) b'.book ∧ Sane b' := by
  induction hrun generalizing names with
  | nil => exact ⟨by rw [received, List.map_nil, List.append_nil]; exact h, hsane⟩
  | @cons s s' s'' i is hok hst _ ih =>
    have hnext := marked_take (hsane.load i.env) h hok hst
    have hgo := ih (sane_step hsane hst) hnext
    have hst' : s.step i = some s' := hst
    rw [received, hst', List.map_append, ← List.append_assoc]
    exact hgo

end Backend

/-! ## The import -/

namespace Book

/-- The contacts of the cache are the first objects, in their order. -/
theorem importContacts_spec {cs : List Contact} (hnd : (cs.map Contact.uid).Nodup) :
    (cs.foldl importContact {}).next = cs.length
      ∧ (∀ (i : Nat) (c : Contact), cs[i]? = some c →
        (cs.foldl importContact {}).contacts i = c.imported
          ∧ (cs.foldl importContact {}).uidToContact.lookup c.uid = some i)
      ∧ ∀ n r, (cs.foldl importContact {}).nameToContact.lookup n = some r →
        ∃ c, cs[r]? = some c ∧ c.name = n := by
  induction cs using List.reverseRecOn with
  | nil => exact ⟨rfl, fun i c h => (by cases h), fun n r h => (by cases h)⟩
  | append_singleton cs c ih =>
    rw [List.map_append, List.map_singleton, List.nodup_append] at hnd
    obtain ⟨hnd, -, hdisj⟩ := hnd
    obtain ⟨hnext, hcon, hname⟩ := ih hnd
    rw [List.foldl_append]
    generalize cs.foldl importContact {} = b at *
    have hb : [c].foldl importContact b = b.importContact c := rfl
    have hlast : (cs ++ [c])[cs.length]? = some c := by simp
    rw [hb]
    refine ⟨?_, fun i c' hi => ?_, fun n r hr => ?_⟩
    · rw [List.length_append, ← hnext]; rfl
    · by_cases he : i = cs.length
      · subst he
        rw [hlast] at hi
        obtain rfl := Option.some.inj hi
        rw [← hnext]
        exact ⟨alloc_contacts_next b _, AList.lookup_insert _⟩
      · have hlt : i < cs.length := by
          have hlen := (List.getElem?_eq_some_iff.mp hi).1
          rw [List.length_append, List.length_singleton] at hlen
          omega
        rw [List.getElem?_append_left hlt] at hi
        obtain ⟨h1, h2⟩ := hcon i c' hi
        have hne : i ≠ b.next := by omega
        refine ⟨(alloc_contacts_of_ne hne).trans h1, ?_⟩
        refine (AList.lookup_insert_ne fun heq => ?_).trans h2
        exact hdisj _ (List.mem_map_of_mem (List.mem_of_getElem? hi)) _ (List.mem_singleton_self _) heq
    · rcases Table.lookup_insert_eq_some.mp hr with ⟨rfl, rfl⟩ | ⟨-, hold⟩
      · exact ⟨c, by rw [hnext]; exact hlast, rfl⟩
      · obtain ⟨c', hc', hn⟩ := hname n r hold
        exact ⟨c', (List.getElem?_append_left (List.getElem?_eq_some_iff.mp hc').1).trans hc', hn⟩

theorem imported_keys (c : Contact) :
    c.imported.uid = c.uid ∧ c.imported.name = c.name ∧ c.imported.handle = c.handle := by
  unfold Contact.imported
  split <;> exact ⟨rfl, rfl, rfl⟩

/-- After the import the marks are right. -/
theorem marked_import {cs : List Contact} (hnd : (cs.map Contact.uid).Nodup)
    (hh : ∀ c ∈ cs, c.handle = 0) :
    Marked (cs.foldl importContact {}) [] (cs.foldl importContact {}) := by
  obtain ⟨hnext, hcon, hname⟩ := importContacts_spec hnd
  generalize cs.foldl importContact {} = b at *
  have hget : ∀ r < b.next, ∃ c, cs[r]? = some c := fun r hr =>
    ⟨cs[r], List.getElem?_eq_getElem (by omega)⟩
  have hfind : ∀ {n r}, b.nameToContact.lookup n = some r →
      ∃ c, cs[r]? = some c ∧ c.name = n ∧ b.contacts r = c.imported
        ∧ b.uidToContact.lookup c.uid = some r := by
    intro n r hr
    obtain ⟨c, hc, hn⟩ := hname n r hr
    exact ⟨c, hc, hn, hcon r c hc⟩
  refine ⟨Nat.le_refl _, fun r hr hu => ?_, fun n r hr _ => ?_, fun n r hr _ => ?_,
    fun n r hr _ r' hr' heq => ?_, fun n hn => by cases hn⟩
  · obtain ⟨c, hc⟩ := hget r hr
    have hin : c ∈ cs := List.mem_of_getElem? hc
    refine ⟨hr, hu, rfl, rfl, ?_⟩
    rw [(hcon r c hc).1, (imported_keys c).2.2]
    exact hh c hin
  · obtain ⟨c, -, hn, himp, -⟩ := hfind hr
    rw [himp, (imported_keys c).2.1]; exact hn
  · obtain ⟨c, -, -, himp, hl⟩ := hfind hr
    unfold Live
    rw [himp, (imported_keys c).1]; exact hl
  · obtain ⟨c, -, -, himp, hl⟩ := hfind hr
    obtain ⟨c', hc'⟩ := hget r' hr'
    obtain ⟨himp', hl'⟩ := hcon r' c' hc'
    rw [himp, himp', (imported_keys c).1, (imported_keys c').1] at heq
    rw [heq, hl] at hl'
    exact (Option.some.inj hl').symm

/-! ## The sweep -/

theorem lookup_name_deleteContacts {b : Book} {rs : List Nat} {n : Option String}
    (h : ∀ x ∈ rs, (b.contacts x).name ≠ n) :
    (rs.foldl deleteContact b).nameToContact.lookup n = b.nameToContact.lookup n := by
  induction rs generalizing b with
  | nil => rfl
  | cons x rs ih =>
    refine (ih (b := b.deleteContact x) fun y hy => ?_).trans ?_
    · rw [deleteContact_contacts]; exact h y (List.mem_cons_of_mem x hy)
    · rw [deleteContact_name]
      exact AList.lookup_erase_ne fun heq => h x List.mem_cons_self heq.symm

theorem handles_deleteContacts {b : Book} {rs : List Nat} (h : ∀ x ∈ rs, (b.contacts x).handle = 0) :
    (rs.foldl deleteContact b).handleToContact = b.handleToContact := by
  induction rs generalizing b with
  | nil => rfl
  | cons x rs ih =>
    refine (ih (b := b.deleteContact x) fun y hy => ?_).trans ?_
    · rw [deleteContact_contacts]; exact h y (List.mem_cons_of_mem x hy)
    · unfold deleteContact
      dsimp only
      rw [if_neg (by rw [h x List.mem_cons_self]; exact Nat.lt_irrefl 0)]

end Book

namespace Backend

theorem mem_unseen {b : Book} {r : Nat} :
    r ∈ unseen b ↔ (∃ n, b.nameToContact.lookup n = some r)
      ∧ (b.contacts r).flags.has contactUnseen = true := by
  unfold unseen
  rw [List.mem_filter, Table.mem_values]

/-- **Deleting the marked contacts takes nobody else out of an index.** -/
theorem sweep_tables {start : Book} {names : List (Option String)} {b : Book}
    (h : Book.Marked start names b) (ha : b.Allocated) :
    (∀ k r, b.uidToContact.lookup k = some r →
        ((unseen b).foldl Book.deleteContact b).uidToContact.lookup k = some r ∨ r ∈ unseen b)
      ∧ (∀ n r, b.nameToContact.lookup n = some r →
        ((unseen b).foldl Book.deleteContact b).nameToContact.lookup n = some r ∨ r ∈ unseen b)
      ∧ ((unseen b).foldl Book.deleteContact b).handleToContact = b.handleToContact := by
  refine ⟨fun k r hr => ?_, fun n r hr => ?_, Book.handles_deleteContacts fun x hx => ?_⟩
  · by_cases hin : r ∈ unseen b
    · exact .inr hin
    · refine .inl ((Book.lookup_uid_deleteContacts fun x hx heq => hin ?_).trans hr)
      obtain ⟨⟨n, hn⟩, hu⟩ := mem_unseen.mp hx
      have hl := h.live n x hn hu
      unfold Book.Live at hl
      rw [heq, hr] at hl
      rwa [← Option.some.inj hl] at hx
  · by_cases hin : r ∈ unseen b
    · exact .inr hin
    · refine .inl ((Book.lookup_name_deleteContacts fun x hx heq => hin ?_).trans hr)
      obtain ⟨⟨m, hm⟩, hu⟩ := mem_unseen.mp hx
      rw [← h.name m x hm hu, heq, hr] at hm
      rwa [← Option.some.inj hm] at hx
  · obtain ⟨⟨n, hn⟩, hu⟩ := mem_unseen.mp hx
    exact (h.origin x (ha.name n x hn) hu).2.2.2.2

/-- Before the import a process knows no contact, and no roster is under way. -/
structure Blank (b : Backend) : Prop where
  book : b.book = {}
  notReady : b.membersReady = false
  owed : b.tpcl.owed = 0

/-- What may happen before the import: anything but a request. -/
def Event.BeforeImport : Event → Prop
  | .createContact _ => False
  | .removeContact _ => False
  | e => e.InWindow

instance : DecidablePred Event.BeforeImport := fun e => by
  cases e <;> unfold Event.BeforeImport <;> infer_instance

theorem blank_take {b b' : Backend} {e : Event} (h : Blank b) (hw : e.BeforeImport)
    (hs : b.take e = some b') : Blank b' := by
  cases take_taken hs with
  | @cl e cl signals hstep =>
    have hend := Cl.walk_step hstep
    cases hend with
    | goesOn _ hdones howed =>
      rw [onSignals_unready (b := { b with tpcl := cl }) h.notReady hdones]
      exact ⟨h.book, h.notReady, howed.trans h.owed⟩
    | ends _ _ _ howed =>
      have hzero := h.owed
      omega
  | phase0 _ => exact hw.elim
  | phase2 _ => exact hw.elim
  | phase3 _ _ => exact hw.elim
  | phase3Next _ _ => exact hw.elim
  | createContact ec => exact hw.elim
  | modifyContact ec => exact hw.elim
  | removeContact id => exact hw.elim
  | updateContactsIdle => exact ⟨h.book, h.notReady, h.owed⟩
  | startView id => exact ⟨h.book, h.notReady, h.owed⟩
  | stopView id => exact ⟨h.book, h.notReady, h.owed⟩
  | inactivity on => exact ⟨h.book, h.notReady, h.owed⟩
  | avatarDataSaved ok _ =>
    unfold avatarDataSavedCb
    split <;> exact ⟨h.book, h.notReady, h.owed⟩
  | getContact => exact ⟨h.book, h.notReady, h.owed⟩

/-! ## Phase 2 -/

/--
The contact was imported from the database, not pending addition and not invalid, and is
none of those reported.
-/
def Swept (db : Db) (start : Book) (reported : List Contact) (r : Nat) : Prop :=
  r < start.next ∧ ∃ c ∈ db.fetchContacts, start.contacts r = c.imported
    ∧ c.pendingFlags.has scheduleAdd = false ∧ c.flags.has contactInvalid = false
    ∧ ∀ cIn ∈ reported, cIn.name ≠ c.name

/--
What phase 2 is about to write under a uid is the contact that the uid index has there, if
it has one.
-/
def WritesCurrent (b : Backend) : Prop :=
  ∀ x ∈ (match b.phase2Queued with
      | closure :: _ => closure.contactsToUpdate
      | [] => []) ++ Table.values b.out.contactsToUpdateInDb,
    ∀ r ∈ b.book.uidToContact.lookup (b.book.contacts x).uid, r = x

instance (b : Backend) : Decidable b.WritesCurrent := by
  unfold WritesCurrent; infer_instance

/-- Phase 2 takes nobody but swept contacts out of the indexes and the database. -/
structure Spared (sweeps : Nat → Prop) (b b' : Backend) : Prop where
  uid : ∀ k r, b.book.uidToContact.lookup k = some r →
    b'.book.uidToContact.lookup k = some r ∨ sweeps r
  name : ∀ n r, b.book.nameToContact.lookup n = some r →
    b'.book.nameToContact.lookup n = some r ∨ sweeps r
  handle : ∀ h r, b.book.handleToContact.lookup h = some r →
    b'.book.handleToContact.lookup h = some r ∨ sweeps r
  contacts : b'.book.contacts = b.book.contacts
  row : ∀ u, (b.out.db.contacts.lookup u).isSome = true →
    (b'.out.db.contacts.lookup u).isSome = true ∨ ∃ r, sweeps r ∧ (b.book.contacts r).uid = u

/-- What is stored for a contact of the uid index stays stored, or is what the contact has in memory. -/
def StaysStored (sweeps : Nat → Prop) (b b' : Backend) : Prop :=
  ∀ u r, b.book.uidToContact.lookup u = some r →
    (Db.StillThere u b.out.db b'.out.db ∨ Db.Holds u (b.book.contacts r) b'.out.db) ∨ sweeps r

theorem Spared.mono {P Q : Nat → Prop} {b b' : Backend} (h : Spared P b b') (hpq : ∀ r, P r → Q r) :
    Spared Q b b' :=
  ⟨fun k r hr => (h.uid k r hr).imp_right (hpq r), fun n r hr => (h.name n r hr).imp_right (hpq r),
    fun x r hr => (h.handle x r hr).imp_right (hpq r), h.contacts,
    fun u hu => (h.row u hu).imp_right fun ⟨r, hr, heq⟩ => ⟨r, hpq r hr, heq⟩⟩

theorem keeps_deleteContacts {b : Backend} {rs : List Nat} {u : String} {D : Contact → Prop}
    (hqueue : ∀ x ∈ Table.values b.out.contactsToUpdateInDb, (b.book.contacts x).uid = u →
      D (b.book.contacts x))
    (hu : ∀ x ∈ rs, (b.book.contacts x).uid ≠ u) :
    Db.Keeps u D b.out.db (b.deleteContacts rs).out.db := by
  have hsub : ∀ (us : List String) (t : Table String Nat),
      ∀ r ∈ Table.values (us.foldl (fun t u => t.erase u) t), r ∈ Table.values t := by
    intro us t
    refine foldl_inv (I := fun t' : Table String Nat => ∀ r ∈ Table.values t', r ∈ Table.values t)
      (fun t' k h r hr => h r ?_) us fun _ h => h
    obtain ⟨k', hk'⟩ := Table.mem_values.mp hr
    exact Table.mem_values.mpr ⟨k', (Table.lookup_erase_eq_some.mp hk').2⟩
  have hnot : u ∉ rs.map fun r => (b.book.contacts r).uid := by
    intro hin
    obtain ⟨x, hx, heq⟩ := List.mem_map.mp hin
    exact hu x hx heq
  have hkeeps := @Outbox.keeps_announceRemoval b.book.contacts
    { b.out with
      contactsRemotelyChanged := (rs.map fun r => (b.book.contacts r).uid).foldl
        (fun t u => t.erase u) b.out.contactsRemotelyChanged
      contactsToUpdateInDb := (rs.map fun r => (b.book.contacts r).uid).foldl
        (fun t u => t.erase u) b.out.contactsToUpdateInDb }
    u D _ (fun x hx => hqueue x (hsub _ _ x hx)) hnot
  exact hkeeps

/-- What phase 2 does to the rows of a uid that it does not remove. -/
theorem keeps_phase2 {b : Backend} {u : String} {D : Contact → Prop} (closure : GetMembersClosure)
    (hclosure : ∀ x ∈ closure.contactsToUpdate, (b.book.contacts x).uid = u → D (b.book.contacts x))
    (hqueue : ∀ x ∈ Table.values b.out.contactsToUpdateInDb, (b.book.contacts x).uid = u →
      D (b.book.contacts x))
    (hu : ∀ x ∈ unseen b.book, (b.book.contacts x).uid ≠ u) :
    Db.Keeps u D b.out.db (b.syncPhase2IdleCb closure).out.db := by
  have hadd := b.out.keeps_add (closure.contactsToAdd.map b.book.contacts) u D
  have hcs : ∀ c ∈ closure.contactsToUpdate.map b.book.contacts, c.uid = u → D c := by
    intro c hc heq
    obtain ⟨x, hx, rfl⟩ := List.mem_map.mp hc
    exact hclosure x hx heq
  have hupdate := (b.out.transaction fun db =>
    db.addContacts (closure.contactsToAdd.map b.book.contacts)).2.keeps_update hcs
  have hboth := hadd.trans hupdate
  unfold syncPhase2IdleCb
  dsimp only
  split
  · exact hboth
  · refine hboth.trans (keeps_deleteContacts (b := { b with out := (Outbox.transaction _ _).2 })
      (fun x hx => hqueue x ?_) hu)
    rw [← Outbox.transaction_queue b.out, ← Outbox.transaction_queue]
    exact hx

/-- Phase 2 takes nobody but the marked contacts out of the indexes, and removes no other row. -/
theorem spared_phase2 {start : Book} {names : List (Option String)} {b : Backend}
    (h : Book.Marked start names b.book) (ha : b.book.Allocated) (closure : GetMembersClosure) :
    Spared (· ∈ unseen b.book) b (b.syncPhase2IdleCb closure) := by
  have hbook := syncPhase2IdleCb_book b closure
  obtain ⟨huid, hname, hhandle⟩ := sweep_tables h ha
  refine ⟨fun k r hr => ?_, fun n r hr => ?_, fun x r hr => .inl ?_, ?_, fun u hu => ?_⟩
  · rw [hbook]; exact huid k r hr
  · rw [hbook]; exact hname n r hr
  · rw [hbook]
    exact (congrArg (·.lookup x) hhandle).trans hr
  · rw [hbook]
    exact Book.foldl_deleteContact_contacts _ _
  · by_cases hsome : ∃ r ∈ unseen b.book, (b.book.contacts r).uid = u
    · exact .inr hsome
    · have hkeeps := keeps_phase2 (b := b) (u := u) (D := fun _ => True) closure
        (fun _ _ _ => trivial) (fun _ _ _ => trivial) fun x hx heq => hsome ⟨x, hx, heq⟩
      exact .inl (hkeeps.1 hu)

/-- Where phase 2 writes current contacts, what is stored for the others survives. -/
theorem stays_phase2 {start : Book} {names : List (Option String)} {b : Backend}
    {closure : GetMembersClosure} (h : Book.Marked start names b.book)
    (hcurrent : ∀ x ∈ closure.contactsToUpdate ++ Table.values b.out.contactsToUpdateInDb,
      ∀ r ∈ b.book.uidToContact.lookup (b.book.contacts x).uid, r = x) :
    StaysStored (· ∈ unseen b.book) b (b.syncPhase2IdleCb closure) := by
  intro u r hu
  by_cases hin : r ∈ unseen b.book
  · exact .inr hin
  · -- whoever is written under `u` is `r`
    have hown : ∀ x ∈ closure.contactsToUpdate ++ Table.values b.out.contactsToUpdateInDb,
        (b.book.contacts x).uid = u → b.book.contacts x = b.book.contacts r := by
      intro x hx heq
      rw [hcurrent x hx r (by rw [heq]; exact hu)]
    have hkeeps := keeps_phase2 (b := b) (u := u)
      (D := fun c => c = b.book.contacts r) closure (fun x hx => hown x (List.mem_append_left _ hx))
      (fun x hx => hown x (List.mem_append_right _ hx)) fun x hx heq => hin ?_
    · refine .inl (hkeeps.2.imp_right ?_)
      rintro ⟨c, rfl, hc⟩
      exact hc
    · obtain ⟨⟨n, hn⟩, hseen⟩ := mem_unseen.mp hx
      have hl := h.live n x hn hseen
      unfold Book.Live at hl
      rw [heq, hu] at hl
      rwa [Option.some.inj hl]

/-- The contacts that phase 2 deletes were imported, and no roster has named them. -/
theorem swept_of_unseen {db : Db} (hdb : db.Sound) {b₁ b : Backend} {reported : List Contact}
    (himport : b₁.book = db.fetchContacts.foldl Book.importContact {})
    (hmarked : Book.Marked b₁.book (reported.map Contact.name) b.book) (ha : b.book.Allocated)
    {r : Nat} (hr : r ∈ unseen b.book) : Swept db b₁.book reported r := by
  obtain ⟨⟨n, hn⟩, hu⟩ := mem_unseen.mp hr
  obtain ⟨hlt, hstart, -, hname, -⟩ := hmarked.origin r (ha.name n r hn) hu
  obtain ⟨hnext, hcon, -⟩ := Book.importContacts_spec db.nodup_fetchContacts
  rw [← himport] at hnext hcon
  obtain ⟨c, hc⟩ : ∃ c, db.fetchContacts[r]? = some c :=
    ⟨db.fetchContacts[r], List.getElem?_eq_getElem (by omega)⟩
  have hin := List.mem_of_getElem? hc
  obtain ⟨himp, -⟩ := hcon r c hc
  -- a mark of the import is set here, or was in the row; a sound row has it under the same terms
  have hsound : c.imported.Sound := (db_fetchContacts_sound hdb c hin).imported
  rw [himp] at hstart
  obtain ⟨hadd, hinvalid⟩ := hsound.unseen hstart
  have hsame : c.imported.pendingFlags = c.pendingFlags
      ∧ (c.flags.has contactInvalid = true → c.imported.flags.has contactInvalid = true) := by
    unfold Contact.imported
    split
    · exact ⟨rfl, fun h => (BitVec.or_has_of_disjoint (by decide)).trans h⟩
    · exact ⟨rfl, id⟩
  refine ⟨hlt, c, hin, himp, hsame.1 ▸ hadd, ?_, fun cIn hcIn heq => ?_⟩
  · by_contra hcon
    exact absurd (hinvalid.symm.trans (hsame.2 (by simpa using hcon))) (by decide)
  · have hown := hmarked.name n r hn hu
    have hseen := hmarked.seen n (List.mem_map.mpr ⟨cIn, hcIn, ?_⟩) r hn
    · exact absurd (hseen.symm.trans hu) (by decide)
    · rw [heq, ← hown, hname, himp]
      exact (Book.imported_keys c).2.1.symm

/--
**Phase 2 deletes no wanted contact**: whatever the cache and the rosters, and whatever
happens between the import and phase 2. What is stored for the others survives if phase 2
writes current contacts.
-/
theorem sweep_spares {pathSuffix vcardField : String} {db : Db} {before window : List Input}
    {b₀ b₁ b b' : Backend} {env₀ env : Env} (hcache : Cache db)
    (hbefore : machine.Guarded (fun _ i => i.event.BeforeImport) (boot pathSuffix vcardField db)
      before b₀)
    (himport : b₀.step { event := .phase0, env := env₀ } = some b₁)
    (hwindow : machine.Guarded (fun _ i => i.event.InWindow) b₁ window b)
    (hsweep : b.step { event := .phase2, env := env } = some b') :
    Spared (Swept b₀.out.db b₁.book (b₁.received window)) b b'
      ∧ (b.WritesCurrent → StaysStored (Swept b₀.out.db b₁.book (b₁.received window)) b b') := by
  have hblank : Blank b₀ ∧ b₀.Tidy :=
    hbefore.inv (I := fun b => Blank b ∧ b.Tidy)
      (fun s i s' hI hok hs =>
        ⟨blank_take (b := s.load i.env) ⟨hI.1.book, hI.1.notReady, hI.1.owed⟩ hok hs,
          tidy_step hI.2 hs⟩)
      ⟨⟨rfl, rfl, rfl⟩, tidy_boot pathSuffix vcardField hcache.sound⟩
  obtain ⟨⟨hbook, -, -⟩, htidy⟩ := hblank
  -- the import begins with an empty book
  have himported : b₁.book = b₀.out.db.fetchContacts.foldl Book.importContact {} := by
    have htake := take_book (b := b₀.load env₀) himport
    rw [htake, ← hbook]
    show (b₀.out.db.fetchContacts.map Edit.importContact).foldl Book.apply b₀.book = _
    rw [List.foldl_map]
    rfl
  -- all that is imported is marked unseen, and nobody has been reported
  have hstart : Book.Marked b₁.book [] b₁.book := by
    rw [himported]
    refine Book.marked_import b₀.out.db.nodup_fetchContacts fun c hc => ?_
    obtain ⟨e, -, rfl⟩ := List.mem_map.mp hc
    rfl
  obtain ⟨hmarked, hsane⟩ := marked_window hwindow (sane_step htidy.sane himport) hstart
  rw [List.nil_append] at hmarked
  -- whoever is still marked was not reported in the window
  have hswept : ∀ {r}, r ∈ unseen b.book → Swept b₀.out.db b₁.book (b₁.received window) r := fun hr =>
    swept_of_unseen htidy.sound.db himported hmarked hsane.allocated hr
  cases take_taken (b := b.load env) hsweep with
  | @phase2 closure rest hqueued =>
    refine ⟨?_, fun hcurrent u r hu => ?_⟩
    · refine Spared.mono ?_ fun r hr => hswept hr
      have hspared := spared_phase2 (b := { b.load env with phase2Queued := rest }) hmarked
        hsane.allocated closure
      exact ⟨hspared.uid, hspared.name, hspared.handle, hspared.contacts, hspared.row⟩
    · refine (stays_phase2 (b := { b.load env with phase2Queued := rest }) hmarked
        (fun x hx => hcurrent x ?_) u r hu).imp_right hswept
      have hqueued' : b.phase2Queued = closure :: rest := hqueued
      rw [hqueued']
      exact hx

/-! ## Two runs with a cached contact -/

/-- What a process leaves behind that has met one contact of the roster. -/
def annCache : Db :=
  ((machine.run (boot "acct" "X-JABBER" {}) firstSync).map fun b => b.out.db).getD {}

theorem cache_annCache : Cache annCache := by
  have hrun : (machine.run (boot "acct" "X-JABBER" {}) firstSync).isSome = true := by decide
  obtain ⟨b, hb⟩ := Option.isSome_iff_exists.mp hrun
  have hdb : annCache = b.out.db := by
    unfold annCache
    rw [hb]
    rfl
  rw [hdb]
  exact .left .empty ⟨firstSync, hb⟩

/-- The backend after the import of this cache. -/
def annImported : Backend := ((boot "acct" "X-JABBER" annCache).load {}).syncPhase0IdleCb

/-- The account comes online, and the roster consists of another contact. -/
def bobInstead : List Input :=
  goOnline 1 0 ++ [{ event := .cl (.allMembers 4 (some { current := [8] })) },
    { event := .cl (.contacts 4 (some [{ handle := 8, identifier := "bob" }])) }]

/-- The cached contact may go, and nobody else. -/
theorem sweep_spares_bob :
    ∃ b b', machine.Guarded (fun _ i => i.event.InWindow) annImported bobInstead b
      ∧ b.step { event := .phase2 } = some b'
      ∧ Spared (Swept annCache annImported.book (annImported.received bobInstead)) b b'
      ∧ StaysStored (Swept annCache annImported.book (annImported.received bobInstead)) b b' := by
  have hrun : ((machine.runChecked (fun _ i => decide i.event.InWindow) annImported bobInstead).bind
      fun b => if b.WritesCurrent then (b.step { event := .phase2 }).map (b, ·) else none).isSome
        = true := by decide +kernel
  obtain ⟨⟨c, b'⟩, hbind⟩ := Option.isSome_iff_exists.mp hrun
  obtain ⟨b, hb, hite⟩ := Option.bind_eq_some_iff.mp hbind
  split at hite
  · rename_i hcurrent
    obtain ⟨b', hsweep, heq⟩ := Option.map_eq_some_iff.mp hite
    have hg : machine.Guarded (fun _ i => i.event.InWindow) annImported bobInstead b :=
      Machine.guarded_of_runChecked (fun _ _ hc => of_decide_eq_true hc) hb
    have himport : (boot "acct" "X-JABBER" annCache).step { event := .phase0 } = some annImported := rfl
    have hspares := sweep_spares cache_annCache .nil himport hg hsweep
    exact ⟨b, b', hg, hsweep, hspares.1, hspares.2 hcurrent⟩
  · cases hite

/--
While phase 2 is queued, the cached contact leaves the roster, the account goes offline,
and a contact of the same name is created with a master UID. Phase 2 then writes the old
contact, and the master UID is gone from the database.
-/
theorem sweep_overwrites :
    Cache annCache ∧ ∃ b b', machine.Guarded (fun _ i => i.event.InWindow) annImported
        (goOnline 1 0 ++ [{ event := .cl (.allMembers 4 (some { current := [7] })) },
          { event := .cl (.contacts 4 (some [{ handle := 7, identifier := "ann" }])) },
          { event := .cl (.membersChanged .subscribe [8] [7] [] []) },
          { event := .cl (.contacts 4 (some [{ handle := 8, identifier := "bob" }])) },
          { event := .cl (.connectionStatusChanged none) },
          { event := .createContact [{ name := "X-JABBER", values := ["ann"] },
              { name := "X-OSSO-MASTER-UID", values := ["12"] }] }]) b
      ∧ b.step { event := .phase2 } = some b'
      ∧ ∀ reported, ¬ StaysStored (Swept annCache annImported.book reported) b b' := by
  have hrun : ((machine.runChecked (fun _ i => decide i.event.InWindow) annImported
        (goOnline 1 0 ++ [{ event := .cl (.allMembers 4 (some { current := [7] })) },
          { event := .cl (.contacts 4 (some [{ handle := 7, identifier := "ann" }])) },
          { event := .cl (.membersChanged .subscribe [8] [7] [] []) },
          { event := .cl (.contacts 4 (some [{ handle := 8, identifier := "bob" }])) },
          { event := .cl (.connectionStatusChanged none) },
          { event := .createContact [{ name := "X-JABBER", values := ["ann"] },
              { name := "X-OSSO-MASTER-UID", values := ["12"] }] }])).bind
      fun b => (b.step { event := .phase2 }).bind fun b' =>
        if b.book.uidToContact.lookup "acct-ann" = some 2
            ∧ ("acct-ann", some "12") ∈ b.out.db.masterUids
            ∧ ("acct-ann", some "12") ∉ b'.out.db.masterUids
            ∧ (some "12") ∈ (b.book.contacts 2).masterUids ∧ annImported.book.next = 1
        then some (b, b') else none).isSome = true := by decide +kernel
  obtain ⟨⟨c, c'⟩, hbind⟩ := Option.isSome_iff_exists.mp hrun
  obtain ⟨b, hb, hbind⟩ := Option.bind_eq_some_iff.mp hbind
  obtain ⟨b', hsweep, hite⟩ := Option.bind_eq_some_iff.mp hbind
  split at hite
  · rename_i hfacts
    obtain ⟨hlook, hbefore, hafter, hmem, hnext⟩ := hfacts
    refine ⟨cache_annCache, b, b', Machine.guarded_of_runChecked (fun _ _ hc => of_decide_eq_true hc) hb, hsweep,
      fun reported hstays => ?_⟩
    rcases hstays "acct-ann" 2 hlook with (hstill | hholds) | hswept
    · exact hafter (hstill.masterUids _ hbefore)
    · exact hafter (hholds.masterUids _ hmem)
    · have hlt := hswept.1
      omega
  · cases hite

end Backend

end EdsTelepathy
