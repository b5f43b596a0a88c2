import EdsTelepathy.Proof.Indexes
import EdsTelepathy.Proof.Keyed
import EdsTelepathy.Proof.Rows

/-!
# Database updates that wait

`contacts_to_update_in_db` is written to the database by the same idle source that tells
the views. The source is cancelled whenever the views are told by somebody else, and only
the queue of the views is emptied then: the contacts that wait for the database are left
without anybody to write them. A flush empties its queue whether or not the transaction
succeeds. `KeepsQueue` is the condition under which a post does neither, and the law of the
queue holds in every run whose posts all meet it.
-/

namespace EdsTelepathy

namespace Outbox

/-- Whoever waits for the database has the idle source to wait for. -/
def Scheduled (o : Outbox) : Prop := o.contactsToUpdateInDb ≠ ∅ → o.updateScheduled = true

/-- A flush would write everybody: SQLite reports no error, and every contact has its row. -/
def Flushes (heap : Nat → Contact) (o : Outbox) : Prop :=
  o.contactsToUpdateInDb = ∅ ∨
    o.sql.headD true = true ∧ ∀ r ∈ Table.values o.contactsToUpdateInDb, o.db.HasRow (heap r)

/--
What a post has to find: nobody waits for the database when the idle source is cancelled,
and whoever waits can be written when the queue is flushed.
-/
def KeepsQueue (o : Outbox) (p : Posting) : Prop :=
  match p.post with
  | .notifyRemote => o.contactsToUpdateInDb = ∅
  | .notifyOne _ => o.views = [] ∨ o.contactsToUpdateInDb = ∅
  | .inactivity on =>
    on = true ∨ o.systemInactive = false ∨ Table.size o.contactsRemotelyChanged = 0
      ∨ o.contactsToUpdateInDb = ∅
  | .settle => o.Flushes p.heap
  | .flush => o.Flushes p.heap
  | .idle => o.Flushes p.heap
  | .delete uids =>
    Flushes p.heap { o with
      contactsToUpdateInDb := uids.foldl (fun t u => t.erase u) o.contactsToUpdateInDb }
  | _ => True

instance (heap : Nat → Contact) (o : Outbox) : Decidable (o.Flushes heap) :=
  inferInstanceAs (Decidable (_ ∨ _ ∧ _))

instance (o : Outbox) : DecidablePred o.KeepsQueue
  | ⟨_, .notifyRemote⟩ => inferInstanceAs (Decidable (_ = _))
  | ⟨_, .notifyOne _⟩ => inferInstanceAs (Decidable (_ ∨ _))
  | ⟨_, .inactivity _⟩ => inferInstanceAs (Decidable (_ ∨ _ ∨ _ ∨ _))
  | ⟨heap, .settle⟩ => inferInstanceAs (Decidable (o.Flushes heap))
  | ⟨heap, .flush⟩ => inferInstanceAs (Decidable (o.Flushes heap))
  | ⟨heap, .idle⟩ => inferInstanceAs (Decidable (o.Flushes heap))
  | ⟨heap, .delete _⟩ => inferInstanceAs (Decidable (Flushes heap _))
  | ⟨_, .queue _ _⟩ | ⟨_, .write _⟩ | ⟨_, .merged _⟩ | ⟨_, .addView _ _⟩ | ⟨_, .dropView _⟩
  | ⟨_, .populate _⟩ => .isTrue trivial

/-- Why a contact may leave the queue when a post is made. -/
inductive Unqueues (o : Outbox) (p : Posting) (uid : String) (r : Nat) : Prop where
  /-- It is stored as it is now. -/
  | committed : (o.carry p).db.Stores (p.heap r) → Unqueues o p uid r
  | deleted {uids : List String} : p.post = .delete uids → uid ∈ uids → Unqueues o p uid r

/-- Whoever leaves the queue has a reason to. -/
def UnqueuesWell (o : Outbox) (p : Posting) : Prop :=
  ∀ uid r, o.contactsToUpdateInDb.lookup uid = some r →
    (o.carry p).contactsToUpdateInDb.lookup uid ≠ some r → o.Unqueues p uid r

/-! ## The idle source -/

theorem scheduled_of_empty {o : Outbox} (h : o.contactsToUpdateInDb = ∅) : o.Scheduled :=
  fun hne => absurd h hne

theorem Scheduled.of_same {o o' : Outbox} (h : o.Scheduled)
    (hqueue : o'.contactsToUpdateInDb = o.contactsToUpdateInDb)
    (hid : o'.updateScheduled = o.updateScheduled) : o'.Scheduled := by
  unfold Scheduled
  rw [hqueue, hid]
  exact h

theorem flushDbUpdates_toUpdate (heap : Nat → Contact) (o : Outbox) :
    (o.flushDbUpdates heap).contactsToUpdateInDb = ∅ := by
  obtain ⟨_, _, heq⟩ := flushDbUpdates_eq heap o
  rw [heq]

theorem notifyRemote_toUpdate (heap : Nat → Contact) (o : Outbox) :
    (o.notifyRemotelyUpdatedContactsAndComplete heap).contactsToUpdateInDb
      = o.contactsToUpdateInDb := by
  rw [notifyRemotelyUpdatedContactsAndComplete_eq]
  rfl

theorem deleteContacts_toUpdate (heap : Nat → Contact) (o : Outbox) (uids : List String) :
    (o.deleteContacts heap uids).contactsToUpdateInDb = ∅ := by
  unfold deleteContacts
  obtain ⟨_, _, heq⟩ := announceRemoval_eq heap { o with
    contactsRemotelyChanged := uids.foldl (fun t u => t.erase u) o.contactsRemotelyChanged
    contactsToUpdateInDb := uids.foldl (fun t u => t.erase u) o.contactsToUpdateInDb } uids
  rw [heq]

/-- **The idle source is there as long as somebody waits for the database.** -/
theorem scheduled_carry {o : Outbox} {p : Posting} (h : o.Scheduled) (hp : o.KeepsQueue p) :
    (o.carry p).Scheduled := by
  obtain ⟨heap, post⟩ := p
  cases post with
  | queue rs updateDb => exact fun _ => rfl
  | notifyRemote => exact scheduled_of_empty ((notifyRemote_toUpdate heap o).trans hp)
  | settle => exact scheduled_of_empty (flushDbUpdates_toUpdate heap _)
  | notifyOne r =>
    show (o.notifyUpdatedContact heap r).Scheduled
    rw [notifyUpdatedContact_eq]
    by_cases hviews : o.views = []
    · rw [if_pos hviews]
      exact h
    · rw [if_neg hviews]
      -- either there is no view, or the queue is empty as the assumption says
      rcases hp with hp | hp
      · exact absurd hp hviews
      · exact scheduled_of_empty hp
  | flush => exact scheduled_of_empty (flushDbUpdates_toUpdate heap o)
  | write f =>
    obtain ⟨db, heq⟩ := transaction_eq o f
    show (o.transaction f).2.Scheduled
    rw [heq]
    exact h.of_same rfl rfl
  | merged r =>
    unfold carry
    dsimp only
    split
    · exact h
    · exact h.of_same rfl rfl
  | delete uids => exact scheduled_of_empty (deleteContacts_toUpdate heap o uids)
  | idle => exact scheduled_of_empty (flushDbUpdates_toUpdate heap _)
  | inactivity on =>
    show (o.setInactivityStatus heap on).Scheduled
    unfold setInactivityStatus
    by_cases hsame : on = o.systemInactive
    · rw [if_pos hsame]
      exact h
    · rw [if_neg hsame]
      dsimp only
      split
      · -- the inactivity ends and somebody is told
        rename_i htold
        rw [Bool.and_eq_true, decide_eq_true_eq] at htold
        obtain ⟨hoff, hsome⟩ := htold
        refine scheduled_of_empty ((notifyRemote_toUpdate heap _).trans ?_)
        rcases hp with hp | hp | hp | hp
        · rw [hp] at hoff
          cases hoff
        · rw [hp] at hsame
          exact absurd (by simpa using hoff) hsame
        · omega
        · exact hp
      · exact h.of_same rfl rfl
  | addView id told => exact h.of_same rfl rfl
  | dropView id => exact h.of_same rfl rfl
  | populate told => exact h.of_same rfl rfl

/-! ## Leaving the queue -/

/-- The entries of a queue that is keyed by the uids have different uids. -/
theorem nodup_uids {t : Table String Nat} {heap : Nat → Contact}
    (h : ∀ k r, t.lookup k = some r → (heap r).uid = k) :
    (((Table.values t).map heap).map Contact.uid).Nodup := by
  have hkeys : ((Table.values t).map heap).map Contact.uid = t.keys := by
    unfold Table.values AList.keys List.keys
    rw [List.map_map, List.map_map]
    refine List.map_congr_left fun e he => ?_
    exact h e.1 e.2 (AList.mem_lookup_iff.mpr he)
  rw [hkeys]
  exact t.keys_nodup

/-- **A flush that writes everybody leaves everybody in the database as he is.** -/
theorem flushDbUpdates_stores {heap : Nat → Contact} {o : Outbox} (h : o.Flushes heap)
    (hkeyed : ∀ k r, o.contactsToUpdateInDb.lookup k = some r → (heap r).uid = k) {k : String}
    {r : Nat} (hr : o.contactsToUpdateInDb.lookup k = some r) :
    (o.flushDbUpdates heap).db.Stores (heap r) := by
  rcases h with h | ⟨hsql, hrows⟩
  · rw [h] at hr
    cases hr
  · have hmem : r ∈ Table.values o.contactsToUpdateInDb := Table.mem_values.mpr ⟨k, hr⟩
    have hrows' : ∀ c ∈ (Table.values o.contactsToUpdateInDb).map heap, o.db.HasRow c := by
      intro c hc
      obtain ⟨r', hr', rfl⟩ := List.mem_map.mp hc
      exact hrows r' hr'
    obtain ⟨db, hdb, hstored, -⟩ := Db.updateContacts_stores (nodup_uids hkeyed) hrows'
    have hflushed : (o.flushDbUpdates heap).db = db := by
      unfold flushDbUpdates
      split
      · rename_i hnil
        rw [hnil] at hmem
        cases hmem
      · unfold transaction
        dsimp only
        rw [if_pos hsql, hdb]
    rw [hflushed]
    exact hstored (heap r) (List.mem_map_of_mem hmem)

/-- What the database is after a deletion: flushed, and then perhaps without the contacts. -/
theorem announceRemoval_db (heap : Nat → Contact) (o : Outbox) (uids : List String) :
    (o.announceRemoval heap uids).db = (o.flushDbUpdates heap).db ∨
      (o.announceRemoval heap uids).db = (o.flushDbUpdates heap).db.removeContacts uids := by
  unfold announceRemoval
  dsimp only
  rw [foldl_notify, notifyCompleteAllViews_eq, tell_tell, notifyRemotelyUpdatedContacts_eq]
  unfold transaction
  dsimp only
  split
  · exact .inr rfl
  · exact .inl rfl

/-- To queue contacts does not take anybody out of the queue. -/
theorem toUpdate_updateContacts {heap : Nat → Contact} {o : Outbox} {uid : String} {r : Nat}
    (h : o.contactsToUpdateInDb.lookup uid = some r) (rs : List Nat) (updateDb : Bool) :
    (o.updateContacts heap rs updateDb).contactsToUpdateInDb.lookup uid = some r := by
  refine foldl_inv (I := fun o' : Outbox => o'.contactsToUpdateInDb.lookup uid = some r)
    (fun o' r' h' => ?_) rs h
  have hmark : ∀ {x : Outbox}, x.contactsToUpdateInDb.lookup uid = some r →
      (if updateDb && (x.contactsToUpdateInDb.lookup (heap r').uid).isNone then
        { x with contactsToUpdateInDb := x.contactsToUpdateInDb.insert (heap r').uid r' }
      else x).contactsToUpdateInDb.lookup uid = some r := by
    intro x hx
    split
    · rename_i hnone
      rw [Bool.and_eq_true] at hnone
      have hne : uid ≠ (heap r').uid := by
        rintro rfl
        rw [hx] at hnone
        cases hnone.2
      exact (AList.lookup_insert_ne hne).trans hx
    · exact hx
  unfold queueContact
  dsimp only
  split
  · exact hmark h'
  · exact hmark (x := { o' with
      contactsRemotelyChanged := o'.contactsRemotelyChanged.insert (heap r').uid r' }) h'

theorem lookup_of_foldl_erase {t : Table String Nat} {us : List String} {u : String} {r : Nat}
    (h : (us.foldl (fun t u => t.erase u) t).lookup u = some r) : t.lookup u = some r := by
  induction us generalizing t with
  | nil => exact h
  | cons x xs ih => exact (Table.lookup_erase_eq_some.mp (ih h)).2

/-- **Whoever leaves the queue is in the database as he is, or is deleted.** -/
theorem unqueuesWell_carry {o : Outbox} {p : Posting} (hkeyed : o.KeyedAt p) (hp : o.KeepsQueue p) :
    o.UnqueuesWell p := by
  intro uid r hin hout
  have hkey : ∀ k r, o.contactsToUpdateInDb.lookup k = some r → (p.heap r).uid = k :=
    fun k r hr => hkeyed k r (.inr hr)
  obtain ⟨heap, post⟩ := p
  -- the views are told before the flush, which does not matter to it
  have htold : o.Flushes heap →
      (flushDbUpdates heap (o.notifyRemotelyUpdatedContactsAndComplete heap)).db.Stores (heap r) := by
    intro hf
    rw [notifyRemotelyUpdatedContactsAndComplete_eq]
    exact flushDbUpdates_stores (o := (o.tell _).settled) hf hkey hin
  cases post with
  | queue rs updateDb => exact absurd (toUpdate_updateContacts hin rs updateDb) hout
  | notifyRemote =>
    exact absurd ((congrArg (·.lookup uid) (notifyRemote_toUpdate heap o)).trans hin) hout
  | settle => exact .committed (htold hp)
  | notifyOne r' =>
    refine absurd ?_ hout
    show (o.notifyUpdatedContact heap r').contactsToUpdateInDb.lookup uid = some r
    rw [notifyUpdatedContact_eq]
    split <;> exact hin
  | flush => exact .committed (flushDbUpdates_stores hp hkey hin)
  | write f =>
    obtain ⟨db, heq⟩ := transaction_eq o f
    refine absurd ?_ hout
    show (o.transaction f).2.contactsToUpdateInDb.lookup uid = some r
    rw [heq]
    exact hin
  | merged r' =>
    refine absurd ?_ hout
    unfold carry
    dsimp only
    split <;> exact hin
  | delete uids =>
    by_cases hu : uid ∈ uids
    · exact .deleted rfl hu
    · -- the others are flushed, and what is removed afterwards is not theirs
      refine .committed ?_
      generalize ho : ({ o with
          contactsRemotelyChanged := uids.foldl (fun t u => t.erase u) o.contactsRemotelyChanged
          contactsToUpdateInDb := uids.foldl (fun t u => t.erase u) o.contactsToUpdateInDb } :
            Outbox) = o₁
      have hflushes : o₁.Flushes heap := by
        rw [← ho]
        exact hp
      have hin₁ : o₁.contactsToUpdateInDb.lookup uid = some r := by
        rw [← ho]
        exact (lookup_foldl_erase hu).trans hin
      have hkey₁ : ∀ k r, o₁.contactsToUpdateInDb.lookup k = some r → (heap r).uid = k := by
        intro k r' hr'
        rw [← ho] at hr'
        exact hkey k r' (lookup_of_foldl_erase hr')
      have hheld := flushDbUpdates_stores hflushes hkey₁ hin₁
      show (deleteContacts heap o uids).db.Stores (heap r)
      have hdel : o.deleteContacts heap uids = o₁.announceRemoval heap uids := by
        rw [← ho]
        rfl
      rw [hdel]
      rcases announceRemoval_db heap o₁ uids with heq | heq
      · rw [heq]
        exact hheld
      · rw [heq]
        exact hheld.removeContacts (by rw [hkey uid r hin]; exact hu)
  | idle =>
    refine .committed ?_
    show (flushDbUpdates heap _).db.Stores (heap r)
    split
    · exact htold hp
    · exact flushDbUpdates_stores hp hkey hin
  | inactivity on =>
    refine absurd ?_ hout
    show (o.setInactivityStatus heap on).contactsToUpdateInDb.lookup uid = some r
    unfold setInactivityStatus
    split
    · exact hin
    · dsimp only
      split
      · exact (congrArg (·.lookup uid)
          (notifyRemote_toUpdate heap { o with systemInactive := on })).trans hin
      · exact hin
  | addView id told => exact absurd hin hout
  | dropView id => exact absurd hin hout
  | populate told => exact absurd hin hout

end Outbox

namespace Backend

/-- All posts of the event find what they have to. -/
def QueueKept (b : Backend) (i : Input) : Prop :=
  AllAlong Outbox.carry Outbox.KeepsQueue (b.load i.env).out ((b.load i.env).posts i.event)

instance (b : Backend) (i : Input) : Decidable (b.QueueKept i) :=
  inferInstanceAs (Decidable (AllAlong _ _ _ _))

/--
**Queued database updates are not lost in a run that keeps the queue.**

In every state of such a run, whoever waits for the database has the idle source to wait
for. Every step that keeps the queue does to the outbox what its posts do, and whoever
leaves the queue when one of them is made is in the database as he is at that moment, or is
deleted.
-/
theorem no_update_lost {pathSuffix vcardField : String} {db : Db} {is : List Input} {b : Backend}
    (h : machine.Guarded QueueKept (boot pathSuffix vcardField db) is b) :
    (b.out.contactsToUpdateInDb ≠ ∅ → b.out.updateScheduled = true)
      ∧ ∀ (i : Input) (b' : Backend), b.QueueKept i → machine.step b i = some b' →
          b'.out = ((b.load i.env).posts i.event).foldl Outbox.carry (b.load i.env).out
            ∧ AllAlong Outbox.carry Outbox.UnqueuesWell (b.load i.env).out
                ((b.load i.env).posts i.event) := by
  have hscheduled : b.out.Scheduled := by
    refine h.inv (I := fun b : Backend => b.out.Scheduled) (fun b i b' hb hkept hs => ?_)
      (Outbox.scheduled_of_empty rfl)
    have hload : (b.load i.env).out.Scheduled := hb.of_same rfl rfl
    rw [take_out hs]
    exact AllAlong.foldl_inv (fun _ _ h hp => Outbox.scheduled_carry h hp) hkept hload
  have hqueued : Queued b := queued_reachable ⟨is, h.run_eq⟩
  refine ⟨hscheduled, fun i b' hkept hs => ⟨take_out hs, ?_⟩⟩
  have hkeyed := (keyed_take (hqueued.sane.load i.env) hqueued.saves
    ⟨hqueued.keyed.changed, hqueued.keyed.toUpdate⟩ hs).2
  exact (hkeyed.and hkept).mono fun _ _ h => Outbox.unqueuesWell_carry h.1 h.2

/-- A contact of the roster gets another alias, and the idle source writes it. -/
theorem no_update_lost_renamed :
    ∃ b b', machine.Guarded QueueKept (boot "acct" "X-JABBER" {})
        (firstSync ++ [{ event := .cl (.details (.aliasesChanged [(7, "Ann")])) }]) b
      ∧ machine.step b { event := .updateContactsIdle } = some b'
      ∧ b.out.contactsToUpdateInDb ≠ ∅ ∧ b'.out.contactsToUpdateInDb = ∅
      ∧ b.out.updateScheduled = true
      ∧ AllAlong Outbox.carry Outbox.UnqueuesWell (b.load {}).out
          ((b.load {}).posts .updateContactsIdle) := by
  have hrun : ((machine.runChecked (fun b i => decide (QueueKept b i)) (boot "acct" "X-JABBER" {})
      (firstSync ++ [{ event := .cl (.details (.aliasesChanged [(7, "Ann")])) }])).bind fun b =>
        (machine.step b { event := .updateContactsIdle }).bind fun b' =>
          if QueueKept b { event := .updateContactsIdle } ∧ b.out.contactsToUpdateInDb ≠ ∅
            ∧ b'.out.contactsToUpdateInDb = ∅ then some (b, b') else none).isSome = true := by
    decide +kernel
  obtain ⟨⟨c, c'⟩, hbind⟩ := Option.isSome_iff_exists.mp hrun
  obtain ⟨b, hb, hbind⟩ := Option.bind_eq_some_iff.mp hbind
  obtain ⟨b', hstep, hite⟩ := Option.bind_eq_some_iff.mp hbind
  split at hite
  · rename_i hfacts
    obtain ⟨hkept, hwaits, hnobody⟩ := hfacts
    have hg : machine.Guarded QueueKept _ _ b :=
      Machine.guarded_of_runChecked (fun _ _ hc => of_decide_eq_true hc) hb
    obtain ⟨hsched, hlost⟩ := no_update_lost hg
    exact ⟨b, b', hg, hstep, hwaits, hnobody, hsched hwaits, (hlost _ b' hkept hstep).2⟩
  · cases hite

/--
A contact is added to the roster and queued for the database. A view is started before the
idle source runs, and nobody is left to write the contact.
-/
theorem update_stranded :
    ∃ b, ReachableFrom "acct" "X-JABBER" {} b ∧ b.out.contactsToUpdateInDb ≠ ∅
      ∧ b.out.updateScheduled = false := by
  have hrun : ((machine.run (boot "acct" "X-JABBER" {})
      [{ event := .phase0 }, { event := .cl (.connectionStatusChanged (some 1)) },
       { event := .cl (.membersChanged .subscribe [7] [] [] []) },
       { event := .cl (.contacts 1 (some [{ handle := 7, identifier := "bob" }])) },
       { event := .startView 1 }]).map fun b =>
      (b.out.contactsToUpdateInDb.keys, b.out.updateScheduled)) = some (["acct-bob"], false) := by
    decide +kernel
  obtain ⟨b, hb, heq⟩ := Option.map_eq_some_iff.mp hrun
  obtain ⟨hkeys, hsched⟩ := Prod.mk.inj heq
  refine ⟨b, ⟨_, hb⟩, fun h => ?_, hsched⟩
  rw [h] at hkeys
  cases hkeys

end Backend

end EdsTelepathy
