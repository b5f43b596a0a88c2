import EdsTelepathy.Backend.Launch
import EdsTelepathy.Proof.Answers

/-!
# The start of the process refines a process that has started

Requests can come before the database is open. Such a process does what one with the database
open from the beginning would do if SQLite failed every one of its calls: its *twin*. So once the
book is loaded, the process is in a state that `boot` leads to, and whatever is true of all of
those is true of it.
-/

namespace EdsTelepathy

/-! ## A database that is not open -/

namespace Outbox

/-- Nothing is queued, and the next `n` calls of the database fail. -/
structure Closed (n : Nat) (o : Outbox) : Prop extends o.Still where
  fails : ∀ ok ∈ o.sql, ok = false
  left : n ≤ o.sql.length

/-- A call that failed is over. -/
def spent (o : Outbox) : Outbox := { o with sql := o.sql.tail }

theorem Closed.mono {n m : Nat} {o : Outbox} (h : o.Closed n) (hm : m ≤ n) : o.Closed m :=
  ⟨h.toStill, h.fails, hm.trans h.left⟩

theorem Closed.withDb {n : Nat} {o : Outbox} (h : o.Closed n) (db : Db) : (o.withDb db).Closed n :=
  ⟨⟨h.changed, h.scheduled, h.queued⟩, h.fails, h.left⟩

theorem Closed.tell {n : Nat} {o : Outbox} (h : o.Closed n) (ns : List Notice) :
    (o.tell ns).Closed n := ⟨h.toStill.tell ns, h.fails, h.left⟩

theorem Closed.spent {n : Nat} {o : Outbox} (h : o.Closed (n + 1)) : o.spent.Closed n := by
  refine ⟨⟨h.changed, h.scheduled, h.queued⟩, ?_, ?_⟩
  · intro ok hok
    exact h.fails ok (List.mem_of_mem_tail hok)
  · have hleft := h.left
    show n ≤ o.sql.tail.length
    rw [List.length_tail]
    omega

theorem Closed.transaction {n : Nat} {o : Outbox} (h : o.Closed (n + 1)) (f : Db → Option Db) :
    o.transaction f = (false, o.spent) := by
  have hhead : o.sql.headD true = false := by
    have hleft := h.left
    have hfails := h.fails
    cases hsql : o.sql with
    | nil =>
      rw [hsql] at hleft
      simp at hleft
    | cons ok rest =>
      rw [hsql] at hfails
      exact hfails ok List.mem_cons_self
  unfold Outbox.transaction
  dsimp only
  rw [hhead]
  rfl

theorem Closed.announceRemoval {n : Nat} {o : Outbox} (h : o.Closed (n + 1))
    (heap : Nat → Contact) (uids : List String) :
    o.announceRemoval heap uids = o.spent.tell (uids.map Notice.remove ++ [.complete]) := by
  unfold Outbox.announceRemoval
  dsimp only
  rw [h.flushDbUpdates, notifyRemotelyUpdatedContacts_eq, h.news heap, tell_nil, h.settled,
    h.transaction, foldl_notify, notifyCompleteAllViews_eq, tell_tell]

end Outbox

/-! ## The twin -/

namespace Backend

/-- The same backend as a process that has opened its account and its database. -/
def booted (pathSuffix vcardField : String) (db : Db) (b : Backend) : Backend :=
  { b with
    pathSuffix := pathSuffix
    vcardField := vcardField
    out := b.out.withDb db
    phase0Queued := true }

/--
`t` is what `b` would be with the database open; `b` is offline, its next calls fail, and what it
has of the account itself is `own`.
-/
structure Twin (own : String × String) (pathSuffix vcardField : String) (db : Db) (n : Nat)
    (b t : Backend) : Prop where
  eq : t = b.booted pathSuffix vcardField db
  closed : b.out.Closed n
  offline : b.tpcl.status ≠ .online
  own : (b.pathSuffix, b.vcardField) = own

variable {own : String × String} {pathSuffix vcardField : String} {db : Db} {n : Nat} {b t : Backend}

theorem Twin.mono {m : Nat} (h : Twin own pathSuffix vcardField db n b t) (hm : m ≤ n) :
    Twin own pathSuffix vcardField db m b t := ⟨h.eq, h.closed.mono hm, h.offline, h.own⟩

theorem Twin.modify (h : Twin own pathSuffix vcardField db n b t) (r : Nat) (f : Contact → Contact) :
    Twin own pathSuffix vcardField db n (b.modify r f) (t.modify r f) := by
  obtain ⟨rfl, hclosed, hoff, hown⟩ := h
  exact ⟨rfl, hclosed, hoff, hown⟩

theorem Twin.book (h : Twin own pathSuffix vcardField db n b t) : t.book = b.book := by
  rw [h.eq]
  rfl

theorem Twin.flush (h : Twin own pathSuffix vcardField db n b t) :
    b.flush = b ∧ t.flush = t := by
  have hstill : t.out.Still := by
    rw [h.eq]
    exact (h.closed.withDb db).toStill
  exact ⟨flush_of_still h.closed.toStill, flush_of_still hstill⟩

theorem Twin.notifyUpdatedContact (h : Twin own pathSuffix vcardField db n b t) (r : Nat) :
    Twin own pathSuffix vcardField db n (b.notifyUpdatedContact r) (t.notifyUpdatedContact r) := by
  obtain ⟨rfl, hclosed, hoff, hown⟩ := h
  have hstill : (b.out.withDb db).Still := (hclosed.withDb db).toStill
  have hone : b.notifyUpdatedContact r
      = { b with out := b.out.tell [.update (b.book.contacts r), .complete] } :=
    congrArg (fun o => { b with out := o }) (hclosed.toStill.notifyUpdatedContact b.book.contacts r)
  have htwin : (b.booted pathSuffix vcardField db).notifyUpdatedContact r
      = { b.booted pathSuffix vcardField db with
          out := (b.out.withDb db).tell [.update (b.book.contacts r), .complete] } :=
    congrArg (fun o => { b.booted pathSuffix vcardField db with out := o })
      (hstill.notifyUpdatedContact b.book.contacts r)
  rw [hone, htwin]
  exact ⟨rfl, hclosed.tell _, hoff, hown⟩

/-- A call of the database fails on both sides. -/
theorem Twin.dbUpdateContact (h : Twin own pathSuffix vcardField db (n + 1) b t) (r : Nat) :
    b.dbUpdateContact r = (false, { b with out := b.out.spent })
      ∧ t.dbUpdateContact r = (false, { t with out := t.out.spent })
      ∧ Twin own pathSuffix vcardField db n { b with out := b.out.spent } { t with out := t.out.spent } := by
  obtain ⟨rfl, hclosed, hoff, hown⟩ := h
  have hone : b.dbUpdateContact r = (false, { b with out := b.out.spent }) := by
    unfold Backend.dbUpdateContact
    rw [hclosed.transaction]
  have htwin : (b.booted pathSuffix vcardField db).dbUpdateContact r
      = (false, { b.booted pathSuffix vcardField db with
          out := (b.booted pathSuffix vcardField db).out.spent }) := by
    unfold Backend.dbUpdateContact
    rw [Outbox.Closed.transaction (o := (b.booted pathSuffix vcardField db).out)
      (hclosed.withDb db)]
  exact ⟨hone, htwin, rfl, hclosed.spent, hoff, hown⟩

/-! ## Requests keep a twin -/

theorem Twin.runUpdateContact (h : Twin own pathSuffix vcardField db n b t) (r : Nat) :
    (t.runUpdateContact r).1 = (b.runUpdateContact r).1
      ∧ Twin own pathSuffix vcardField db n (b.runUpdateContact r).2 (t.runUpdateContact r).2 := by
  obtain ⟨rfl, hclosed, hoff, hown⟩ := h
  exact ⟨rfl, rfl, hclosed, hoff, hown⟩

theorem Twin.createExisting (h : Twin own pathSuffix vcardField db (n + 1) b t) (r : Nat) (c : Contact) :
    Twin own pathSuffix vcardField db n (b.createExisting r c) (t.createExisting r c) := by
  unfold Backend.createExisting
  dsimp only
  obtain ⟨hok, htwin⟩ := (h.modify r fun e => e.mergeSubmitted c).runUpdateContact r
  revert hok htwin
  generalize (b.modify r fun e => e.mergeSubmitted c).runUpdateContact r = x
  generalize (t.modify r fun e => e.mergeSubmitted c).runUpdateContact r = y
  intro hok htwin
  obtain ⟨needed, b₁⟩ := x
  obtain ⟨needed', t₁⟩ := y
  cases hok
  cases needed with
  | true =>
    obtain ⟨hb, ht, hspent⟩ := htwin.dbUpdateContact r
    dsimp only at hb ht ⊢
    rw [hb, ht]
    exact hspent.notifyUpdatedContact r
  | false => exact htwin.mono (Nat.le_succ n)

theorem Twin.createNew (h : Twin own pathSuffix vcardField db (n + 1) b t) (c : Contact) :
    Twin own pathSuffix vcardField db n (b.createNew c).2 (t.createNew c).2 := by
  obtain ⟨rfl, hclosed, hoff, hown⟩ := h
  unfold Backend.createNew
  dsimp only
  split
  · rw [hclosed.transaction, Outbox.Closed.transaction
      (o := (b.booted pathSuffix vcardField db).out) (hclosed.withDb db)]
    exact ⟨rfl, hclosed.spent, hoff, hown⟩
  · exact ⟨rfl, hclosed.mono (Nat.le_succ n), hoff, hown⟩

theorem Twin.enterCreated (h : Twin own pathSuffix vcardField db (n + 1) b t) (c : Contact) :
    Twin own pathSuffix vcardField db n (b.enterCreated c).2 (t.enterCreated c).2 := by
  unfold Backend.enterCreated
  rw [h.book]
  split
  · exact h.createExisting _ c
  · exact h.createNew c

/-- A vcard with nothing but master UIDs names nobody. -/
theorem updateFromEcontact_readable {ec : Contact.EVCard} (h : Startup.readable ec = true)
    (vcardField : String) : (Contact.new.updateFromEcontact ec vcardField).1 = false := by
  have hloop : ∀ (ec : Contact.EVCard) (st : Contact × List (Option String)),
      Startup.readable ec = true → (ec.foldl (Contact.decodeAttribute vcardField) st).1 = st.1 := by
    intro ec
    induction ec with
    | nil =>
      intro st _
      rfl
    | cons a ec ih =>
      intro st hread
      have hname : a.name = "X-OSSO-MASTER-UID" := by
        have hall := List.all_eq_true.mp hread a List.mem_cons_self
        simpa using hall
      have hrest : Startup.readable ec = true :=
        List.all_eq_true.mpr fun x hx =>
          List.all_eq_true.mp hread x (List.mem_cons_of_mem a hx)
      rw [List.foldl_cons, ih _ hrest]
      unfold Contact.decodeAttribute
      rw [if_pos hname]
  have hkept := hloop ec ({ Contact.new with pendingFlags := Contact.new.flags }, []) h
  unfold Contact.updateFromEcontact
  dsimp only
  revert hkept
  generalize ec.foldl (Contact.decodeAttribute vcardField)
    ({ Contact.new with pendingFlags := Contact.new.flags }, []) = x
  obtain ⟨c, us⟩ := x
  intro hkept
  dsimp only at hkept ⊢
  subst hkept
  split
  · rfl
  · rfl

theorem runCreateContact_unasked (hoff : b.tpcl.status ≠ .online) (ec : Contact.EVCard) :
    b.runCreateContact ec
      = if (Contact.new.updateFromEcontact ec b.vcardField).1 then
          b.enterCreated ((Contact.new.updateFromEcontact ec b.vcardField).2.submitted
            (generateUid b.pathSuffix b.book.uidToContact
              (Contact.new.updateFromEcontact ec b.vcardField).2.name))
        else (none, b) := by
  unfold Backend.runCreateContact
  generalize Contact.new.updateFromEcontact ec b.vcardField = card
  obtain ⟨ok, c⟩ := card
  cases ok with
  | true => exact if_neg hoff
  | false => rfl

/-- The twin knows the vcard field; the process knows it as well, or it makes no difference. -/
theorem Twin.createContact (h : Twin own pathSuffix vcardField db (n + 1) b t) {ec : Contact.EVCard}
    (hknown : (b.pathSuffix = pathSuffix ∧ b.vcardField = vcardField) ∨ Startup.readable ec = true) :
    Twin own pathSuffix vcardField db n (b.createContact ec) (t.createContact ec) := by
  have hoff : t.tpcl.status ≠ .online := by
    rw [h.eq]
    exact h.offline
  unfold Backend.createContact
  rw [h.flush.1, h.flush.2, runCreateContact_unasked h.offline, runCreateContact_unasked hoff]
  rcases hknown with ⟨hpath, hfield⟩ | hread
  · have hpath' : t.pathSuffix = b.pathSuffix := by
      rw [h.eq]
      exact hpath.symm
    have hfield' : t.vcardField = b.vcardField := by
      rw [h.eq]
      exact hfield.symm
    rw [hpath', hfield', h.book]
    split
    · exact h.enterCreated _
    · exact h.mono (Nat.le_succ n)
  · rw [if_neg (by rw [updateFromEcontact_readable hread]; decide),
      if_neg (by rw [updateFromEcontact_readable hread]; decide)]
    exact h.mono (Nat.le_succ n)

theorem Twin.scheduleUpdate (h : Twin own pathSuffix vcardField db n b t) (r : Nat) :
    Twin own pathSuffix vcardField db n (b.scheduleUpdate r) (t.scheduleUpdate r) := by
  obtain ⟨rfl, hclosed, hoff, hown⟩ := h
  exact ⟨rfl, hclosed, hoff, hown⟩

theorem Twin.commitModification (h : Twin own pathSuffix vcardField db (n + 1) b t) (r : Nat) :
    Twin own pathSuffix vcardField db n (b.commitModification r) (t.commitModification r) := by
  have hoff : t.tpcl.status ≠ .online := by
    rw [h.eq]
    exact h.offline
  unfold Backend.commitModification Backend.sendFlags
  rw [if_neg fun hon => h.offline hon.1, if_neg fun hon => hoff hon.1]
  obtain ⟨hb, ht, hspent⟩ := (h.scheduleUpdate r).dbUpdateContact r
  unfold Backend.storeModification
  rw [hb, ht]
  exact hspent.notifyUpdatedContact r

theorem Twin.modifyContact (h : Twin own pathSuffix vcardField db (n + 1) b t) {ec : Contact.EVCard}
    (hknown : b.vcardField = vcardField ∨ b.book.uidToContact = ∅) :
    Twin own pathSuffix vcardField db n (b.modifyContact ec) (t.modifyContact ec) := by
  unfold Backend.modifyContact
  rw [h.flush.1, h.flush.2]
  dsimp only
  rw [h.book]
  split
  · exact h.mono (Nat.le_succ n)
  · rename_i r hr
    have hfield : t.vcardField = b.vcardField := by
      rcases hknown with hfield | hempty
      · rw [h.eq]
        exact hfield.symm
      · obtain ⟨uid, -, huid⟩ := Option.bind_eq_some_iff.mp hr
        rw [hempty, AList.lookup_empty] at huid
        cases huid
    have hmod := h.modify r fun c => (c.updateFromEcontact ec b.vcardField).2
    rw [hfield, hmod.book]
    split
    · exact hmod.commitModification r
    · exact hmod.mono (Nat.le_succ n)

theorem Twin.removeMasterUids (h : Twin own pathSuffix vcardField db (n + 1) b t) (r : Nat) :
    Twin own pathSuffix vcardField db n (b.removeMasterUids r) (t.removeMasterUids r) := by
  unfold Backend.removeMasterUids
  rw [h.book]
  split
  · obtain ⟨hb, ht, hspent⟩ := h.dbUpdateContact r
    rw [hb, ht]
    exact hspent.notifyUpdatedContact r
  · exact h.mono (Nat.le_succ n)

theorem deleteContact_closed (h : b.out.Closed (n + 1)) (r : Nat) :
    b.deleteContacts [r] = { b with
      book := b.book.deleteContact r
      out := b.out.spent.tell [.remove (b.book.contacts r).uid, .complete] } := by
  rw [deleteContacts_still h.toStill, h.announceRemoval]
  rfl

theorem Twin.deleteContact (h : Twin own pathSuffix vcardField db (n + 1) b t) (r : Nat) :
    Twin own pathSuffix vcardField db n (b.deleteContacts [r]) (t.deleteContacts [r]) := by
  obtain ⟨rfl, hclosed, hoff, hown⟩ := h
  rw [deleteContact_closed hclosed, deleteContact_closed
    (b := b.booted pathSuffix vcardField db) (hclosed.withDb db)]
  exact ⟨rfl, hclosed.spent.tell _, hoff, hown⟩

theorem Twin.scheduleRemoval (h : Twin own pathSuffix vcardField db n b t) (r : Nat) :
    Twin own pathSuffix vcardField db n (b.scheduleRemoval r) (t.scheduleRemoval r) := by
  obtain ⟨rfl, hclosed, hoff, hown⟩ := h
  exact ⟨rfl, hclosed, hoff, hown⟩

theorem Twin.reallyRemove (h : Twin own pathSuffix vcardField db (n + 1) b t) (r : Nat) :
    Twin own pathSuffix vcardField db n (b.reallyRemove r) (t.reallyRemove r) := by
  have hoff : t.tpcl.status ≠ .online := by
    rw [h.eq]
    exact h.offline
  rw [reallyRemove_offline h.offline, reallyRemove_offline hoff, h.book]
  have hpending := h.modify r Contact.nothingPending
  split
  · exact hpending.deleteContact r
  · exact (hpending.mono (Nat.le_succ n)).scheduleRemoval r

theorem Twin.removeContact (h : Twin own pathSuffix vcardField db (n + 2) b t) (id : String) :
    Twin own pathSuffix vcardField db n (b.removeContact id) (t.removeContact id) := by
  have hle : n ≤ n + 2 := by omega
  unfold Backend.removeContact
  rw [h.flush.1, h.flush.2]
  dsimp only
  rw [h.book]
  split
  · exact h.mono hle
  · rename_i tokens _
    split
    · exact h.mono hle
    · rename_i r _
      have hmod := h.modify r fun c => (c.removeTokens tokens).1
      split
      · obtain ⟨hb, ht, hspent⟩ := (hmod.reallyRemove r).dbUpdateContact r
        rw [hb, ht]
        exact hspent
      · exact (hmod.removeMasterUids r).mono (Nat.le_succ n)

/-! ## What comes from outside -/

theorem startView_still (h : b.out.Still) (id : Nat) :
    b.startView id = { b with out := { b.out with views := b.out.views ++
      [{ id := id, told := if b.membersReady then b.population else [] }] } } := by
  unfold Backend.startView
  dsimp only
  rw [h.notifyRemote]

theorem stopView_still (h : b.out.Still) (id : Nat) :
    b.stopView id
      = { b with out := { b.out with views := b.out.views.eraseP fun v => v.id = id } } := by
  unfold Backend.stopView
  dsimp only
  rw [h.flushDbUpdates]

theorem getContact_still (h : b.out.Still) : b.getContact = b := by
  unfold Backend.getContact
  rw [h.notifyRemote]

theorem Twin.setViews (h : Twin own pathSuffix vcardField db n b t) (views : List View) :
    Twin own pathSuffix vcardField db n { b with out := { b.out with views := views } }
      { t with out := { t.out with views := views } } := by
  obtain ⟨rfl, hclosed, hoff, hown⟩ := h
  exact ⟨rfl, ⟨⟨hclosed.changed, hclosed.scheduled, hclosed.queued⟩, hclosed.fails, hclosed.left⟩,
    hoff, hown⟩

theorem Twin.setInactive (h : Twin own pathSuffix vcardField db n b t) (on : Bool) :
    Twin own pathSuffix vcardField db n { b with out := { b.out with systemInactive := on } }
      { t with out := { t.out with systemInactive := on } } := by
  obtain ⟨rfl, hclosed, hoff, hown⟩ := h
  exact ⟨rfl, ⟨⟨hclosed.changed, hclosed.scheduled, hclosed.queued⟩, hclosed.fails, hclosed.left⟩,
    hoff, hown⟩

/-- **A callback keeps a twin**, if what the process does not know makes no difference. -/
theorem Twin.take (h : Twin own pathSuffix vcardField db 2 b t) {e : Event} {b' : Backend}
    (hout : Startup.comesFromOutside e = true)
    (hcreate : ∀ ec, e = .createContact ec →
      (b.pathSuffix = pathSuffix ∧ b.vcardField = vcardField) ∨ Startup.readable ec = true)
    (hmodify : b.vcardField = vcardField ∨ b.book.uidToContact = ∅) (hst : b.take e = some b') :
    ∃ t', t.take e = some t' ∧ Twin own pathSuffix vcardField db 0 b' t' := by
  have hstill : t.out.Still := by
    rw [h.eq]
    exact (h.closed.withDb db).toStill
  have hviews : t.out.views = b.out.views := by
    rw [h.eq]
    rfl
  cases e with
  | createContact ec =>
    cases hst
    exact ⟨_, rfl, (h.createContact (hcreate ec rfl)).mono (Nat.zero_le 1)⟩
  | modifyContact ec =>
    cases hst
    exact ⟨_, rfl, (h.modifyContact hmodify).mono (Nat.zero_le 1)⟩
  | removeContact id =>
    cases hst
    exact ⟨_, rfl, h.removeContact id⟩
  | startView id =>
    cases hst
    refine ⟨_, rfl, ?_⟩
    have htold : (if t.membersReady then t.population else [])
        = if b.membersReady then b.population else [] := by
      rw [h.eq]
      rfl
    rw [startView_still h.closed.toStill, startView_still hstill, hviews, htold]
    exact (h.setViews _).mono (Nat.zero_le 2)
  | stopView id =>
    cases hst
    refine ⟨_, rfl, ?_⟩
    rw [stopView_still h.closed.toStill, stopView_still hstill, hviews]
    exact (h.setViews _).mono (Nat.zero_le 2)
  | inactivity on =>
    cases hst
    refine ⟨_, rfl, ?_⟩
    rw [h.closed.toStill.setInactivityStatus, hstill.setInactivityStatus]
    exact (h.setInactive on).mono (Nat.zero_le 2)
  | getContact =>
    cases hst
    refine ⟨_, rfl, ?_⟩
    rw [getContact_still h.closed.toStill, getContact_still hstill]
    exact h.mono (Nat.zero_le 2)
  | cl _ => cases hout
  | phase0 => cases hout
  | phase2 => cases hout
  | phase3 _ => cases hout
  | phase3Next _ => cases hout
  | updateContactsIdle => cases hout
  | avatarDataSaved _ _ => cases hout

/-- What a process does before its book is loaded, its twin does. -/
theorem booted_step (pathSuffix vcardField : String) (db : Db) {i : Input} {b' : Backend}
    (hstill : b.out.Still) (hoff : b.tpcl.status ≠ .online)
    (hout : Startup.comesFromOutside i.event = true)
    (hcreate : ∀ ec, i.event = .createContact ec →
      (b.pathSuffix = pathSuffix ∧ b.vcardField = vcardField) ∨ Startup.readable ec = true)
    (hmodify : b.vcardField = vcardField ∨ b.book.uidToContact = ∅)
    (hst : b.step { i with env := Startup.closedDb i.env } = some b') :
    (b.booted pathSuffix vcardField db).step { i with env := Startup.closedDb i.env }
        = some (b'.booted pathSuffix vcardField db)
      ∧ b'.out.Still ∧ b'.tpcl.status ≠ .online
      ∧ b'.pathSuffix = b.pathSuffix ∧ b'.vcardField = b.vcardField := by
  have hclosed : (b.load (Startup.closedDb i.env)).out.Closed 2 := by
    refine ⟨⟨hstill.changed, hstill.scheduled, hstill.queued⟩, ?_, ?_⟩
    · intro ok hok
      exact List.eq_of_mem_replicate hok
    · show 2 ≤ (List.replicate 3 false).length
      decide
  have htwin : Twin (b.pathSuffix, b.vcardField) pathSuffix vcardField db 2
      (b.load (Startup.closedDb i.env)) ((b.booted pathSuffix vcardField db).load (Startup.closedDb i.env)) := ⟨rfl, hclosed, hoff, rfl⟩
  obtain ⟨t', ht', htwin'⟩ := htwin.take hout hcreate hmodify hst
  exact ⟨by rw [← htwin'.eq]; exact ht', htwin'.closed.toStill, htwin'.offline,
    congrArg Prod.fst htwin'.own, congrArg Prod.snd htwin'.own⟩

/-! ## A backend that knows nobody -/

/-- The backend knows nobody, and nothing is queued. -/
structure KnowsNobody (b : Backend) : Prop where
  still : b.out.Still
  offline : b.tpcl.status ≠ .online
  members : b.membersReady = false
  unknown : b.book.uidToContact = ∅

/-- All that can change are the views and the inactivity, and no view is told anything. -/
theorem KnowsNobody.take (h : b.KnowsNobody) {e : Event} {b' : Backend}
    (hout : Startup.comesFromOutside e = true)
    (hcreate : ∀ ec, e = .createContact ec → Startup.readable ec = true) (hst : b.take e = some b') :
    ∃ views on, b' = { b with out := { b.out with views := views, systemInactive := on } }
      ∧ ∀ v ∈ views, v ∈ b.out.views ∨ v.told = [] := by
  have hsame : ∃ views on, b = { b with out := { b.out with views := views, systemInactive := on } }
      ∧ ∀ v ∈ views, v ∈ b.out.views ∨ v.told = [] :=
    ⟨b.out.views, b.out.systemInactive, rfl, fun v hv => .inl hv⟩
  have hflush := flush_of_still h.still
  cases e with
  | createContact ec =>
    cases hst
    have hnobody : b.createContact ec = b := by
      unfold Backend.createContact
      rw [hflush, runCreateContact_unasked h.offline,
        if_neg (by rw [updateFromEcontact_readable (hcreate ec rfl)]; decide)]
    rw [hnobody]
    exact hsame
  | modifyContact ec =>
    cases hst
    have hnobody : b.modifyContact ec = b := by
      unfold Backend.modifyContact
      rw [hflush]
      dsimp only
      rw [h.unknown]
      cases Contact.cardUid ec with
      | none => rfl
      | some uid => rfl
    rw [hnobody]
    exact hsame
  | removeContact id =>
    cases hst
    have hnobody : b.removeContact id = b := by
      unfold Backend.removeContact
      rw [hflush]
      dsimp only
      rw [h.unknown]
      cases splitId id with
      | nil => rfl
      | cons uid tokens => rfl
    rw [hnobody]
    exact hsame
  | startView id =>
    cases hst
    rw [startView_still h.still, h.members]
    refine ⟨b.out.views ++ [{ id := id, told := [] }], b.out.systemInactive, rfl, ?_⟩
    intro v hv
    rcases List.mem_append.mp hv with hold | hnew
    · exact .inl hold
    · rw [List.mem_singleton.mp hnew]
      exact .inr rfl
  | stopView id =>
    cases hst
    rw [stopView_still h.still]
    exact ⟨_, b.out.systemInactive, rfl, fun v hv => .inl (List.mem_of_mem_eraseP hv)⟩
  | inactivity on =>
    cases hst
    rw [h.still.setInactivityStatus]
    exact ⟨b.out.views, on, rfl, fun v hv => .inl hv⟩
  | getContact =>
    cases hst
    rw [getContact_still h.still]
    exact hsame
  | cl _ => cases hout
  | phase0 => cases hout
  | phase2 => cases hout
  | phase3 _ => cases hout
  | phase3Next _ => cases hout
  | updateContactsIdle => cases hout
  | avatarDataSaved _ _ => cases hout

theorem KnowsNobody.step (h : b.KnowsNobody) {i : Input} {b' : Backend}
    (hout : Startup.comesFromOutside i.event = true)
    (hcreate : ∀ ec, i.event = .createContact ec → Startup.readable ec = true)
    (hst : b.step i = some b') :
    b'.KnowsNobody ∧ b'.book = b.book ∧ b'.pathSuffix = b.pathSuffix ∧ b'.out.db = b.out.db
      ∧ ∀ v ∈ b'.out.views, v ∈ b.out.views ∨ v.told = [] := by
  have hload : (b.load i.env).KnowsNobody :=
    ⟨⟨h.still.changed, h.still.scheduled, h.still.queued⟩, h.offline, h.members, h.unknown⟩
  obtain ⟨views, on, rfl, htold⟩ := hload.take hout hcreate hst
  exact ⟨⟨⟨h.still.changed, h.still.scheduled, h.still.queued⟩, h.offline, h.members, h.unknown⟩,
    rfl, rfl, rfl, htold⟩

end Backend

/-! ## The start -/

namespace Startup

/-- Whatever the account and the database turn out to be, the twin is in a state they lead to. -/
def Awaits (p : Startup) : Prop :=
  p.backend.KnowsNobody
    ∧ ∀ pathSuffix vcardField db, Backend.ReachableFrom pathSuffix vcardField db
        (p.backend.booted pathSuffix vcardField db)

/-- How far a process is that has come through the events `past`. -/
def Started (past : List Event) (p : Startup) : Prop :=
  match p.launch with
  | .unopened => p.Awaits
  | .refused => p.Awaits
  | .manager => p.Awaits ∧ .openSync (some p.backend.pathSuffix) ∈ past
  | .account =>
    (p.backend.out.Still ∧ p.backend.tpcl.status ≠ .online)
      ∧ .openSync (some p.backend.pathSuffix) ∈ past ∧ .cmReady (some p.backend.vcardField) ∈ past
      ∧ ∀ db, Backend.ReachableFrom p.backend.pathSuffix p.backend.vcardField db
          (p.backend.booted p.backend.pathSuffix p.backend.vcardField db)
  | .loaded => ∃ pathSuffix vcardField db, .openSync (some pathSuffix) ∈ past
      ∧ .cmReady (some vcardField) ∈ past ∧ .accountReady (some db) ∈ past
      ∧ Backend.ReachableFrom pathSuffix vcardField db p.backend
  | .failed => p.backend.out.Still

theorem started_init : Started [] {} := by
  refine ⟨⟨⟨rfl, rfl, rfl⟩, by decide, rfl, rfl⟩, ?_⟩
  intro pathSuffix vcardField db
  exact ⟨[], rfl⟩

theorem Started.mono {past past' : List Event} {p : Startup} (h : Started past p)
    (hsub : ∀ e ∈ past, e ∈ past') : Started past' p := by
  cases hl : p.launch with
  | unopened =>
    simp only [Started, hl] at h ⊢
    exact h
  | refused =>
    simp only [Started, hl] at h ⊢
    exact h
  | manager =>
    simp only [Started, hl] at h ⊢
    exact ⟨h.1, hsub _ h.2⟩
  | account =>
    simp only [Started, hl] at h ⊢
    exact ⟨h.1, hsub _ h.2.1, hsub _ h.2.2.1, h.2.2.2⟩
  | loaded =>
    simp only [Started, hl] at h ⊢
    obtain ⟨pathSuffix, vcardField, db, hopen, hready, haccount, hreach⟩ := h
    exact ⟨pathSuffix, vcardField, db, hsub _ hopen, hsub _ hready, hsub _ haccount, hreach⟩
  | failed =>
    simp only [Started, hl] at h ⊢
    exact h

theorem Awaits.step {p : Startup} (h : p.Awaits) (hl : p.launch ≠ .account) {i : Backend.Input}
    {b' : Backend} (hout : comesFromOutside i.event = true) (hsurvives : p.survives i.event = true)
    (hst : p.backend.step { i with env := closedDb i.env } = some b') :
    Awaits { p with backend := b' } ∧ b'.pathSuffix = p.backend.pathSuffix := by
  have hread : ∀ ec, i.event = .createContact ec → readable ec = true := by
    intro ec hec
    rw [hec] at hsurvives
    simpa [survives, hl] using hsurvives
  have hkept := h.1.step (i := { i with env := closedDb i.env }) hout hread hst
  refine ⟨⟨hkept.1, ?_⟩, hkept.2.2.1⟩
  intro pathSuffix vcardField db
  have htwin := Backend.booted_step pathSuffix vcardField db h.1.still h.1.offline hout
    (fun ec hec => .inr (hread ec hec)) (.inr h.1.unknown) hst
  exact (h.2 pathSuffix vcardField db).step htwin.1

/-- What is taken up before the book is loaded. -/
theorem takeUp_early {p p' : Startup} {i : Backend.Input} (hl : p.launch ≠ .loaded)
    (hf : p.launch ≠ .failed) (hst : p.takeUp i = some p') :
    ∃ b', p' = { p with backend := b' }
      ∧ p.backend.step { i with env := closedDb i.env } = some b'
      ∧ comesFromOutside i.event = true ∧ p.survives i.event = true := by
  unfold takeUp at hst
  rw [if_neg hl, if_neg fun hno => hf hno.1] at hst
  split at hst
  · rename_i hok
    obtain ⟨b', hb', rfl⟩ := Option.map_eq_some_iff.mp hst
    exact ⟨b', rfl, hb', hok.1, hok.2⟩
  · cases hst

/-- Only the inactivity and the return of contacts do not ask for the error. -/
theorem unasked {e : Backend.Event} (hout : comesFromOutside e = true)
    (hask : asksForLoadError e = false) : (∃ on, e = .inactivity on) ∨ e = .getContact := by
  cases e with
  | inactivity on => exact .inl ⟨on, rfl⟩
  | getContact => exact .inr rfl
  | _ => simp_all [comesFromOutside, asksForLoadError]

/-- A request after the failure finds nothing that it could tell the views. -/
theorem takeUp_failed {p p' : Startup} {i : Backend.Input} (hf : p.launch = .failed)
    (hstill : p.backend.out.Still) (hst : p.takeUp i = some p') :
    p'.launch = .failed ∧ p'.backend.out.Still ∧ p'.backend.book = p.backend.book
      ∧ p'.backend.out.db = p.backend.out.db ∧ p'.backend.out.views = p.backend.out.views := by
  unfold takeUp at hst
  rw [if_neg (by rw [hf]; decide)] at hst
  split at hst
  · -- the request is refused
    obtain rfl := Option.some.inj hst
    unfold refuse
    split
    · exact ⟨hf, hstill, rfl, rfl, rfl⟩
    · exact ⟨hf, hstill, rfl, rfl, rfl⟩
  · rename_i hasked
    split at hst
    · rename_i hok
      obtain ⟨b', hb', rfl⟩ := Option.map_eq_some_iff.mp hst
      have hload : (p.backend.load (closedDb i.env)).out.Still :=
        ⟨hstill.changed, hstill.scheduled, hstill.queued⟩
      have hunasked : asksForLoadError i.event = false := by
        cases hask : asksForLoadError i.event with
        | true => exact absurd ⟨hf, hask⟩ hasked
        | false => rfl
      unfold Backend.step at hb'
      rcases unasked hok.1 hunasked with ⟨on, hevent⟩ | hevent
      · rw [hevent] at hb'
        obtain rfl := Option.some.inj hb'
        rw [hload.setInactivityStatus]
        exact ⟨hf, ⟨hstill.changed, hstill.scheduled, hstill.queued⟩, rfl, rfl, rfl⟩
      · rw [hevent] at hb'
        obtain rfl := Option.some.inj hb'
        rw [Backend.getContact_still hload]
        exact ⟨hf, hload, rfl, rfl, rfl⟩
    · cases hst

/-- The view that is started with the event, if it is one. -/
def viewStarted : Event → Option Nat
  | .input { event := .startView id, env := _ } => some id
  | _ => none

/-- The views that are started with these events. -/
def viewsStarted (es : List Event) : List Nat := es.filterMap viewStarted

theorem viewsStarted_append (es : List Event) (e : Event) :
    viewsStarted (es ++ [e]) = viewsStarted es ++ (viewStarted e).toList := by
  unfold viewsStarted
  rw [List.filterMap_append, List.filterMap_cons]
  cases viewStarted e <;> rfl

/-- After the failure every view that is started is turned away. -/
theorem turnedAway_failed {p p' : Startup} {i : Backend.Input} (hf : p.launch = .failed)
    (hst : p.takeUp i = some p') :
    p'.turnedAway = p.turnedAway ++ (viewStarted (.input i)).toList := by
  obtain ⟨event, env⟩ := i
  unfold takeUp at hst
  rw [if_neg (by rw [hf]; decide)] at hst
  split at hst
  · obtain rfl := Option.some.inj hst
    cases event with
    | startView id => rfl
    | _ => exact (List.append_nil _).symm
  · rename_i hasked
    split at hst
    · obtain ⟨b', -, rfl⟩ := Option.map_eq_some_iff.mp hst
      cases event with
      | startView id => exact absurd ⟨hf, rfl⟩ hasked
      | _ => exact (List.append_nil _).symm
    · cases hst

theorem started_takeUp {past : List Event} {p p' : Startup} (h : Started past p)
    {i : Backend.Input} (hst : p.takeUp i = some p') : Started (past ++ [.input i]) p' := by
  have hmem : ∀ {e : Event}, e ∈ past → e ∈ past ++ [.input i] := fun he =>
    List.mem_append_left _ he
  cases hl : p.launch with
  | unopened =>
    obtain ⟨b', rfl, hb', hout, hsurvives⟩ := takeUp_early (by rw [hl]; decide) (by rw [hl]; decide) hst
    simp only [Started, hl] at h ⊢
    exact (h.step (by rw [hl]; decide) hout hsurvives hb').1
  | refused =>
    obtain ⟨b', rfl, hb', hout, hsurvives⟩ := takeUp_early (by rw [hl]; decide) (by rw [hl]; decide) hst
    simp only [Started, hl] at h ⊢
    exact (h.step (by rw [hl]; decide) hout hsurvives hb').1
  | manager =>
    obtain ⟨b', rfl, hb', hout, hsurvives⟩ := takeUp_early (by rw [hl]; decide) (by rw [hl]; decide) hst
    simp only [Started, hl] at h ⊢
    obtain ⟨hawaits, hpath⟩ := h.1.step (by rw [hl]; decide) hout hsurvives hb'
    refine ⟨hawaits, ?_⟩
    rw [hpath]
    exact hmem h.2
  | account =>
    obtain ⟨b', rfl, hb', hout, hsurvives⟩ := takeUp_early (by rw [hl]; decide) (by rw [hl]; decide) hst
    simp only [Started, hl] at h ⊢
    obtain ⟨⟨hstill, hoff⟩, hopen, hready, hreach⟩ := h
    have htwin := fun db => Backend.booted_step p.backend.pathSuffix p.backend.vcardField db hstill
      hoff hout (fun ec _ => .inl ⟨rfl, rfl⟩) (.inl rfl) hb'
    obtain ⟨-, hstill', hoff', hpath, hfield⟩ := htwin {}
    rw [hpath, hfield]
    exact ⟨⟨hstill', hoff'⟩, hmem hopen, hmem hready, fun db => (hreach db).step (htwin db).1⟩
  | loaded =>
    simp only [Started, hl] at h
    unfold takeUp at hst
    rw [if_pos hl] at hst
    obtain ⟨b', hb', rfl⟩ := Option.map_eq_some_iff.mp hst
    obtain ⟨pathSuffix, vcardField, db, hopen, hready, haccount, hreach⟩ := h
    simp only [Started, hl]
    exact ⟨pathSuffix, vcardField, db, hmem hopen, hmem hready, hmem haccount, hreach.step hb'⟩
  | failed =>
    simp only [Started, hl] at h
    obtain ⟨hl', hstill, -⟩ := takeUp_failed hl h hst
    simp only [Started, hl']
    exact hstill

theorem started_step {past : List Event} {p p' : Startup} {e : Event} (h : Started past p)
    (hst : machine.step p e = some p') : Started (past ++ [e]) p' := by
  have hmem : ∀ {x : Event}, x ∈ past → x ∈ past ++ [e] := fun hx => List.mem_append_left _ hx
  have hlast : e ∈ past ++ [e] := List.mem_append_right _ (List.mem_singleton_self e)
  cases e with
  | openSync account =>
    obtain rfl := Option.some.inj hst
    unfold openSync
    by_cases hl : p.launch = .unopened
    · rw [if_pos hl]
      simp only [Started, hl] at h
      cases account with
      | none => exact h
      | some pathSuffix => exact ⟨⟨⟨h.1.still, h.1.offline, h.1.members, h.1.unknown⟩, h.2⟩, hlast⟩
    · rw [if_neg hl]
      exact h.mono fun x hx => hmem hx
  | cmReady field =>
    change (if p.launch = .manager then some (p.cmReadyCb field) else none) = some p' at hst
    split at hst
    · rename_i hl
      obtain rfl := Option.some.inj hst
      simp only [Started, hl] at h
      cases field with
      | none => exact h.1.1.still
      | some vcardField =>
        exact ⟨⟨h.1.1.still, h.1.1.offline⟩, hmem h.2, hlast, fun db => h.1.2 _ vcardField db⟩
    · cases hst
  | accountReady db =>
    change (if p.launch = .account then some (p.accountReadyCb db) else none) = some p' at hst
    split at hst
    · rename_i hl
      obtain rfl := Option.some.inj hst
      simp only [Started, hl] at h
      obtain ⟨⟨hstill, -⟩, hopen, hready, hreach⟩ := h
      cases db with
      | none => exact hstill
      | some db => exact ⟨_, _, db, hmem hopen, hmem hready, hlast, hreach db⟩
    · cases hst
  | input i => exact started_takeUp h hst

/--
**The start refines a start with everything at hand.** Once the book of a process is loaded, its
backend is in a state that a process comes to which had the account, the vcard field and the rows
of the database from the beginning, whatever was asked of it meanwhile.
-/
theorem loaded_reachable {es : List Event} {p : Startup} (h : machine.run {} es = some p)
    (hl : p.launch = .loaded) :
    ∃ pathSuffix vcardField db, .openSync (some pathSuffix) ∈ es ∧ .cmReady (some vcardField) ∈ es
      ∧ .accountReady (some db) ∈ es ∧ Backend.ReachableFrom pathSuffix vcardField db p.backend := by
  have hstarted : Started es p :=
    Machine.run_inv_past (fun _ _ _ _ hs hst => started_step hs hst) h started_init
  simp only [Started, hl] at hstarted
  exact hstarted

/-- A contact is created, and a view started, while the account is still being prepared. -/
def earlyRequests : List Event :=
  [.openSync (some "acct"), .input { event := .startView 0 }, .cmReady (some "X-JABBER"),
    .input { event := .createContact [{ name := "X-JABBER", values := ["bob"] }] }]

theorem loaded_reachable_early :
    ∃ p, machine.run {} (earlyRequests ++ [.accountReady (some {})]) = some p ∧ p.launch = .loaded
      ∧ ∃ pathSuffix vcardField db,
        .openSync (some pathSuffix) ∈ earlyRequests ++ [.accountReady (some {})]
          ∧ .cmReady (some vcardField) ∈ earlyRequests ++ [.accountReady (some {})]
          ∧ .accountReady (some db) ∈ earlyRequests ++ [.accountReady (some {})]
          ∧ Backend.ReachableFrom pathSuffix vcardField db p.backend := by
  have hrun : (machine.run {} (earlyRequests ++ [.accountReady (some {})])).any
      (fun p => decide (p.launch = .loaded)) = true := by decide
  obtain ⟨p, hp, hl⟩ := (Option.any_eq_true ..).mp hrun
  have hl := of_decide_eq_true hl
  exact ⟨p, hp, hl, loaded_reachable hp hl⟩

/-! ## A start that failed -/

/-- What is left of a process whose start failed. -/
structure Fails (p p' : Startup) : Prop where
  launch : p'.launch = p.launch
  still : p.launch = .failed → p'.backend.out.Still
  nobody : p.launch = .refused → p'.backend.KnowsNobody
  book : p'.backend.book = p.backend.book
  db : p'.backend.out.db = p.backend.out.db
  views : ∀ v ∈ p'.backend.out.views, v ∈ p.backend.out.views ∨ v.told = []

theorem fails_step {p p' p'' : Startup} {e : Event} (hl : p.launch = .failed ∨ p.launch = .refused)
    (h : Fails p p') (hst : machine.step p' e = some p'') : Fails p p'' := by
  have hl' : p'.launch = .failed ∨ p'.launch = .refused := by
    rw [h.launch]
    exact hl
  cases e with
  | openSync account =>
    obtain rfl := Option.some.inj hst
    unfold openSync
    rw [if_neg (by rcases hl' with hno | hno <;> rw [hno] <;> decide)]
    exact h
  | cmReady field =>
    change (if p'.launch = .manager then some (p'.cmReadyCb field) else none) = some p'' at hst
    rw [if_neg (by rcases hl' with hno | hno <;> rw [hno] <;> decide)] at hst
    cases hst
  | accountReady db =>
    change (if p'.launch = .account then some (p'.accountReadyCb db) else none) = some p'' at hst
    rw [if_neg (by rcases hl' with hno | hno <;> rw [hno] <;> decide)] at hst
    cases hst
  | input i =>
    rcases hl' with hfailed | hrefused
    · have hfirst : p.launch = .failed := h.launch.symm.trans hfailed
      obtain ⟨hlaunch, hstill, hbook, hdb, hviews⟩ := takeUp_failed hfailed (h.still hfirst) hst
      refine ⟨hlaunch.trans hfirst.symm, fun _ => hstill, ?_, hbook.trans h.book, hdb.trans h.db, ?_⟩
      · intro hno
        rw [hfirst] at hno
        cases hno
      · rw [hviews]
        exact h.views
    · have hfirst : p.launch = .refused := h.launch.symm.trans hrefused
      obtain ⟨b', rfl, hb', hout, hsurvives⟩ :=
        takeUp_early (by rw [hrefused]; decide) (by rw [hrefused]; decide) hst
      have hread : ∀ ec, i.event = .createContact ec → readable ec = true := by
        intro ec hec
        rw [hec] at hsurvives
        simpa [survives, hrefused] using hsurvives
      obtain ⟨hnobody, hbook, -, hdb, hviews⟩ :=
        (h.nobody hfirst).step (i := { i with env := closedDb i.env }) hout hread hb'
      refine ⟨h.launch, ?_, fun _ => hnobody, hbook.trans h.book, hdb.trans h.db, ?_⟩
      · intro hno
        rw [hfirst] at hno
        cases hno
      · intro v hv
        rcases hviews v hv with hold | htold
        · exact h.views v hold
        · exact .inr htold

/-- What a start that failed has turned away so far. -/
structure TurnsAway (p : Startup) (es : List Event) (p' : Startup) : Prop where
  fails : Fails p p'
  failed : p.launch = .failed → p'.turnedAway = p.turnedAway ++ viewsStarted es
  refused : p.launch = .refused → p'.turnedAway = p.turnedAway

theorem turnsAway_step {p p' p'' : Startup} {es : List Event} {e : Event}
    (hl : p.launch = .failed ∨ p.launch = .refused) (h : TurnsAway p es p')
    (hst : machine.step p' e = some p'') : TurnsAway p (es ++ [e]) p'' := by
  have hfails := fails_step hl h.fails hst
  -- what is no input turns nobody away
  have hsame : p''.turnedAway = p'.turnedAway → viewStarted e = none → TurnsAway p (es ++ [e]) p'' := by
    intro heq hnone
    refine ⟨hfails, fun hf => ?_, fun hr => heq.trans (h.refused hr)⟩
    rw [viewsStarted_append, hnone, heq]
    exact (h.failed hf).trans (congrArg _ (List.append_nil _).symm)
  cases e with
  | openSync account =>
    obtain rfl := Option.some.inj hst
    refine hsame ?_ rfl
    unfold openSync
    split
    · split <;> rfl
    · rfl
  | cmReady field =>
    change (if p'.launch = .manager then some (p'.cmReadyCb field) else none) = some p'' at hst
    split at hst
    · obtain rfl := Option.some.inj hst
      refine hsame ?_ rfl
      unfold cmReadyCb
      split <;> rfl
    · cases hst
  | accountReady db =>
    change (if p'.launch = .account then some (p'.accountReadyCb db) else none) = some p'' at hst
    split at hst
    · obtain rfl := Option.some.inj hst
      refine hsame ?_ rfl
      unfold accountReadyCb
      split <;> rfl
    · cases hst
  | input i =>
    have hlaunch := h.fails.launch
    refine ⟨hfails, fun hf => ?_, fun hr => ?_⟩
    · rw [turnedAway_failed (hlaunch.trans hf) hst, h.failed hf, viewsStarted_append,
        List.append_assoc]
    · obtain ⟨b', rfl, -⟩ := takeUp_early (by rw [hlaunch, hr]; decide) (by rw [hlaunch, hr]; decide) hst
      exact h.refused hr

end Startup

end EdsTelepathy
