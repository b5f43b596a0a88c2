import EdsTelepathy.Backend.Answers
import EdsTelepathy.Proof.FiniteMap
import EdsTelepathy.Proof.Recorded
import EdsTelepathy.Proof.Waiting

/-!
# A batch of removals and its answer

`remove_contacts_idle_cb` flushes once, removes one contact after the other, and writes those
that really go at the end in one call. Its outbox is *clear* from the flush on: nothing is queued,
and whatever a removal tells the views it completes. So the batch does to everything but the
database what single requests do one after the other. The rows come to the same as well if no
contact is named twice, because the updates that are put off are about other uids than what is
written meanwhile.
-/

namespace EdsTelepathy

/-! ## The map under updates that are put off -/

namespace CacheMap

/-- An update that fails leaves the map as it is. -/
def put (m : CacheMap) (c : Contact) : CacheMap := (m.update c).getD m

theorem put_apply (m : CacheMap) (c : Contact) (uid : String) :
    m.put c uid
      = if uid = c.uid ∧ (m c.uid).isSome = true ∧ c.name ≠ none then some c else m uid := by
  unfold put update
  by_cases hrow : (m c.uid).isSome = true
  · by_cases hname : c.name = none
    · simp [hrow, hname]
    · by_cases huid : uid = c.uid
      · simp [hrow, hname, huid]
      · simp [hrow, hname, huid]
  · simp [hrow]

theorem put_put_comm {c d : Contact} (h : c.uid ≠ d.uid) (m : CacheMap) :
    (m.put c).put d = (m.put d).put c := by
  funext uid
  simp only [put_apply]
  by_cases h1 : uid = c.uid
  · have h2 : uid ≠ d.uid := fun he => h (h1.symm.trans he)
    simp [h2, h]
  · simp [h1, h.symm]

theorem delete_put_comm {c : Contact} {uid : String} (h : c.uid ≠ uid) (m : CacheMap) :
    (m.put c).delete uid = (m.delete uid).put c := by
  funext u
  have hc : m.delete uid c.uid = m c.uid := by simp [delete, h]
  rw [put_apply, hc]
  unfold delete
  by_cases hu : u = uid
  · have hne : u ≠ c.uid := fun he => h (he.symm.trans hu)
    simp [hu, h.symm]
  · simp [hu, put_apply]

/-- Updates of contacts that have names do not fail. -/
theorem foldlM_update {cs : List Contact} (h : ∀ c ∈ cs, c.name ≠ none) (m : CacheMap) :
    cs.foldlM update m = some (cs.foldl put m) := by
  induction cs generalizing m with
  | nil => rfl
  | cons c cs ih =>
    have hone : m.update c = some (m.put c) := by
      unfold put update
      split
      · simp [h c List.mem_cons_self]
      · rfl
    rw [List.foldlM_cons, hone]
    exact ih (fun d hd => h d (List.mem_cons_of_mem _ hd)) _

/-- What commutes with each update commutes with all of them. -/
theorem foldl_put_comm {cs : List Contact} {f : CacheMap → CacheMap}
    (h : ∀ c ∈ cs, ∀ m : CacheMap, f (m.put c) = (f m).put c) (m : CacheMap) :
    f (cs.foldl put m) = cs.foldl put (f m) := by
  induction cs generalizing m with
  | nil => rfl
  | cons c cs ih =>
    rw [List.foldl_cons, List.foldl_cons, ih (fun d hd => h d (List.mem_cons_of_mem _ hd)),
      h c List.mem_cons_self]

end CacheMap

/-! ## A clear outbox -/

namespace Outbox

/-- Nothing is queued for the views or the database. -/
structure Still (o : Outbox) : Prop where
  changed : o.contactsRemotelyChanged = ∅
  scheduled : o.updateScheduled = false
  queued : o.contactsToUpdateInDb = ∅

/-- Nothing is queued, and no SQL error is coming. -/
structure Clear (o : Outbox) : Prop extends o.Still where
  sql : o.sql = []

/-- The outbox with another database. -/
def withDb (o : Outbox) (db : Db) : Outbox := { o with db := db }

theorem Clear.withDb {o : Outbox} (h : o.Clear) (db : Db) : (o.withDb db).Clear :=
  ⟨⟨h.changed, h.scheduled, h.queued⟩, h.sql⟩

theorem Still.tell {o : Outbox} (h : o.Still) (ns : List Notice) : (o.tell ns).Still :=
  ⟨h.changed, h.scheduled, h.queued⟩

theorem Clear.tell {o : Outbox} (h : o.Clear) (ns : List Notice) : (o.tell ns).Clear :=
  ⟨h.toStill.tell ns, h.sql⟩

theorem Still.settled {o : Outbox} (h : o.Still) : o.settled = o := by
  unfold Outbox.settled
  rw [← h.changed, ← h.scheduled]

theorem Still.eraseChanged {o : Outbox} (h : o.Still) (uid : String) :
    { o with contactsRemotelyChanged := o.contactsRemotelyChanged.erase uid } = o := by
  have hchanged := h.changed
  cases o
  dsimp only at hchanged
  subst hchanged
  rfl

theorem Still.eraseQueued {o : Outbox} (h : o.Still) (uid : String) :
    { o with contactsToUpdateInDb := o.contactsToUpdateInDb.erase uid } = o := by
  have hqueued := h.queued
  cases o
  dsimp only at hqueued
  subst hqueued
  rfl

theorem Still.news {o : Outbox} (h : o.Still) (heap : Nat → Contact) : o.news heap = [] := by
  unfold Outbox.news
  rw [h.changed]
  rfl

theorem Still.flushDbUpdates {o : Outbox} (h : o.Still) (heap : Nat → Contact) :
    o.flushDbUpdates heap = o := by
  unfold Outbox.flushDbUpdates
  rw [h.queued]
  rfl

theorem Still.notifyRemote {o : Outbox} (h : o.Still) (heap : Nat → Contact) :
    o.notifyRemotelyUpdatedContactsAndComplete heap = o := by
  rw [notifyRemotelyUpdatedContactsAndComplete_eq]
  unfold completeNews
  rw [if_pos (h.news heap), tell_nil, h.settled]

theorem Still.notifyUpdatedContact {o : Outbox} (h : o.Still) (heap : Nat → Contact) (r : Nat) :
    o.notifyUpdatedContact heap r = o.tell [.update (heap r), .complete] := by
  rw [notifyUpdatedContact_eq]
  split
  · rename_i hviews
    exact (tell_of_noViews hviews _).symm
  · dsimp only
    rw [h.eraseChanged, h.news heap, (h.tell _).settled]
    rfl

theorem Still.setInactivityStatus {o : Outbox} (h : o.Still) (heap : Nat → Contact) (on : Bool) :
    o.setInactivityStatus heap on = { o with systemInactive := on } := by
  unfold Outbox.setInactivityStatus
  split
  · rename_i hon
    rw [hon]
  · dsimp only
    rw [if_neg]
    rw [h.changed, show Table.size (∅ : Table String Nat) = 0 from rfl]
    simp

/-- `delete_contacts` has everything told and written that waits. -/
theorem still_deleteContacts (heap : Nat → Contact) (o : Outbox) (uids : List String) :
    (o.deleteContacts heap uids).Still := by
  unfold Outbox.deleteContacts
  obtain ⟨_, _, heq⟩ := announceRemoval_eq heap { o with
    contactsRemotelyChanged := uids.foldl (fun t u => t.erase u) o.contactsRemotelyChanged
    contactsToUpdateInDb := uids.foldl (fun t u => t.erase u) o.contactsToUpdateInDb } uids
  rw [heq]
  exact ⟨rfl, rfl, rfl⟩

/-- Where nothing is queued, nothing is after a post that queues nobody. -/
theorem Still.carry {o : Outbox} (h : o.Still) {p : Posting} (hp : p.post.queues = false) :
    (o.carry p).Still := by
  obtain ⟨heap, post⟩ := p
  unfold Outbox.carry
  dsimp only
  cases post with
  | queue rs updateDb => cases hp
  | notifyRemote =>
    dsimp only
    rw [h.notifyRemote]
    exact h
  | settle =>
    dsimp only
    rw [h.notifyRemote, h.flushDbUpdates]
    exact h
  | notifyOne r =>
    dsimp only
    rw [h.notifyUpdatedContact]
    exact h.tell _
  | flush =>
    dsimp only
    rw [h.flushDbUpdates]
    exact h
  | write f =>
    obtain ⟨db, heq⟩ := transaction_eq o f
    dsimp only
    rw [heq]
    exact ⟨h.changed, h.scheduled, h.queued⟩
  | merged r =>
    dsimp only
    split
    · exact h
    · rw [notifyCompleteAllViews_eq]
      exact ⟨h.changed, h.scheduled, h.queued⟩
  | delete uids => exact still_deleteContacts heap o uids
  | idle =>
    dsimp only
    unfold updateContactsIdleCb
    rw [h.notifyRemote, ite_self]
    dsimp only
    rw [h.flushDbUpdates]
    exact ⟨h.changed, rfl, h.queued⟩
  | inactivity on =>
    dsimp only
    rw [h.setInactivityStatus]
    exact ⟨h.changed, h.scheduled, h.queued⟩
  | addView id told => exact ⟨h.changed, h.scheduled, h.queued⟩
  | dropView id => exact ⟨h.changed, h.scheduled, h.queued⟩
  | populate told => exact ⟨h.changed, h.scheduled, h.queued⟩

theorem Clear.transaction {o : Outbox} (h : o.Clear) (f : Db → Option Db) :
    o.transaction f = ((f o.db).isSome, o.withDb ((f o.db).getD o.db)) := by
  unfold Outbox.transaction Outbox.withDb
  have hsql := h.sql
  cases o
  subst hsql
  dsimp only [List.headD_nil, List.tail_nil]
  rw [if_pos rfl]
  split
  · rename_i db hdb
    rw [hdb]
    rfl
  · rename_i hdb
    rw [hdb]
    rfl

theorem Clear.announceRemoval {o : Outbox} (h : o.Clear) (heap : Nat → Contact) (uids : List String) :
    o.announceRemoval heap uids
      = (o.tell (uids.map Notice.remove ++ [.complete])).withDb (o.db.removeContacts uids) := by
  unfold Outbox.announceRemoval
  dsimp only
  rw [h.flushDbUpdates, notifyRemotelyUpdatedContacts_eq, h.news heap, tell_nil, h.settled,
    h.transaction, foldl_notify, notifyCompleteAllViews_eq, tell_tell]
  rfl

end Outbox

/-! ## One removal -/

/-- Every contact in the uid index has a name: `g_str_hash` takes no other key for the name index. -/
def Book.Named (b : Book) : Prop :=
  ∀ k r, b.uidToContact.lookup k = some r → (b.contacts r).name ≠ none

theorem Db.updateContacts_isSome {cs : List Contact} (h : ∀ c ∈ cs, c.name ≠ none) (db : Db) :
    (db.updateContacts cs).isSome = true := by
  induction cs generalizing db with
  | nil => rfl
  | cons c cs ih =>
    have hone : ∃ db', db.realUpdateContact c = some db' := by
      have hne : db.realUpdateContact c ≠ none := fun hnone =>
        h c List.mem_cons_self (realUpdateContact_eq_none.mp hnone).2
      exact Option.ne_none_iff_exists'.mp hne
    obtain ⟨db', hdb'⟩ := hone
    unfold updateContacts
    rw [List.foldlM_cons, hdb']
    exact ih (fun d hd => h d (List.mem_cons_of_mem _ hd)) db'

/-- The uid that a remove request names. -/
def namedUid (id : String) : String := (Backend.splitId id).headD ""

theorem lookup_namedUid {uids : Table String Nat} {id : String} {r : Nat} {tokens : List String}
    (h : resolve uids id = some (r, tokens)) : uids.lookup (namedUid id) = some r := by
  unfold resolve at h
  unfold namedUid
  cases hsplit : Backend.splitId id with
  | nil =>
    rw [hsplit] at h
    cases h
  | cons uid rest =>
    rw [hsplit] at h
    obtain ⟨x, hx, heq⟩ := Option.map_eq_some_iff.mp h
    cases heq
    exact hx

namespace Backend

/-- The backend with another database. -/
def withDb (b : Backend) (db : Db) : Backend := { b with out := b.out.withDb db }

@[simp] theorem withDb_book (b : Backend) (db : Db) : (b.withDb db).book = b.book := rfl

theorem modify_self (b : Backend) (r : Nat) (f : Contact → Contact) :
    (b.modify r f).book.contacts r = f (b.book.contacts r) := Book.modify_contacts_self b.book r f

/-- The flush that begins a request has everything told and written that waits. -/
theorem still_flush (b : Backend) : b.flush.out.Still := by
  show ((b.out.notifyRemotelyUpdatedContactsAndComplete b.book.contacts).flushDbUpdates
    b.book.contacts).Still
  obtain ⟨_, _, heq⟩ := Outbox.flushDbUpdates_eq b.book.contacts
    (b.out.notifyRemotelyUpdatedContactsAndComplete b.book.contacts)
  rw [heq, Outbox.notifyRemotelyUpdatedContactsAndComplete_eq]
  exact ⟨rfl, rfl, rfl⟩

/-- The flush clears the outbox where no SQL error is coming. -/
theorem clear_flush {b : Backend} (h : b.out.sql = []) : b.flush.out.Clear := by
  refine ⟨still_flush b, ?_⟩
  show (Outbox.flushDbUpdates b.book.contacts _).sql = []
  rw [Outbox.notifyRemotelyUpdatedContactsAndComplete_eq]
  unfold Outbox.flushDbUpdates
  split
  · exact h
  · obtain ⟨db, heq⟩ := Outbox.transaction_eq
      (b.out.tell (b.out.completeNews b.book.contacts)).settled fun db => db.updateContacts
        ((Table.values (b.out.tell (b.out.completeNews b.book.contacts)).settled.contactsToUpdateInDb).map
          b.book.contacts)
    dsimp only
    rw [heq]
    exact congrArg List.tail h

/-- **A request leaves nothing queued.** -/
theorem still_request {b b' : Backend} {e : Event} (he : ¬ e.NoRequest) (hs : b.take e = some b') :
    b'.out.Still := by
  have hposts : ∃ ps, b.posts e = b.settlePost :: ps ∧ NoneQueues ps := by
    cases e with
    | createContact ec => exact ⟨_, rfl, noneQueues_runCreatePosts _ ec⟩
    | modifyContact ec => exact ⟨_, rfl, noneQueues_modifyPosts _ ec⟩
    | removeContact id => exact ⟨_, rfl, noneQueues_removePosts _ id⟩
    | _ => exact absurd trivial he
  obtain ⟨ps, hps, hnone⟩ := hposts
  rw [take_out hs, hps, List.foldl_cons]
  exact (allAlong_of_forall (f := Outbox.carry) (fun p hp _ => hnone p hp) _).foldl_inv
    (I := Outbox.Still) (fun _ _ h hp => h.carry hp) (still_flush b)

theorem flush_of_still {b : Backend} (h : b.out.Still) : b.flush = b := by
  unfold flush
  dsimp only
  rw [h.notifyRemote, h.flushDbUpdates]

theorem runRemoveContact_unknown {b : Backend} (h : b.out.Clear) {id : String}
    (hid : resolve b.book.uidToContact id = none) : b.runRemoveContact id = (none, b) := by
  unfold runRemoveContact
  rw [h.flushDbUpdates]
  unfold resolve at hid
  cases hsplit : splitId id with
  | nil => rfl
  | cons uid tokens =>
    rw [hsplit] at hid
    dsimp only at hid ⊢
    rw [Option.map_eq_none_iff.mp hid]

theorem runRemoveContact_found {b : Backend} (h : b.out.Clear) {id : String} {r : Nat}
    {tokens : List String} (hid : resolve b.book.uidToContact id = some (r, tokens)) :
    b.runRemoveContact id
      = (some (r, ((b.book.contacts r).removeTokens tokens).2),
        if ((b.book.contacts r).removeTokens tokens).2 then
          (b.modify r fun c => (c.removeTokens tokens).1).reallyRemove r
        else (b.modify r fun c => (c.removeTokens tokens).1).removeMasterUids r) := by
  unfold runRemoveContact
  rw [h.flushDbUpdates]
  unfold resolve at hid
  cases hsplit : splitId id with
  | nil =>
    rw [hsplit] at hid
    cases hid
  | cons uid rest =>
    rw [hsplit] at hid
    obtain ⟨x, hx, heq⟩ := Option.map_eq_some_iff.mp hid
    cases heq
    dsimp only
    rw [hx]

theorem deleteContacts_still {b : Backend} (h : b.out.Still) (r : Nat) :
    b.deleteContacts [r] = { b with
      book := b.book.deleteContact r
      out := b.out.announceRemoval b.book.contacts [(b.book.contacts r).uid] } := by
  have hsame : { b.out with
      contactsRemotelyChanged := b.out.contactsRemotelyChanged.erase (b.book.contacts r).uid
      contactsToUpdateInDb := b.out.contactsToUpdateInDb.erase (b.book.contacts r).uid } = b.out :=
    (congrArg (fun o : Outbox => { o with
      contactsToUpdateInDb := o.contactsToUpdateInDb.erase (b.book.contacts r).uid })
      (h.eraseChanged _)).trans (h.eraseQueued _)
  exact congrArg (fun o : Outbox => { b with
    book := b.book.deleteContact r
    out := o.announceRemoval b.book.contacts [(b.book.contacts r).uid] }) hsame

theorem deleteContacts_clear {b : Backend} (h : b.out.Clear) (r : Nat) :
    b.deleteContacts [r] = { b with
      book := b.book.deleteContact r
      out := (b.out.tell [.remove (b.book.contacts r).uid, .complete]).withDb
        (b.out.db.removeContacts [(b.book.contacts r).uid]) } := by
  rw [deleteContacts_still h.toStill, h.announceRemoval]
  rfl

theorem dbUpdateContact_clear {b : Backend} (h : b.out.Clear) {r : Nat}
    (hname : (b.book.contacts r).name ≠ none) :
    b.dbUpdateContact r
      = (true, b.withDb ((b.out.db.updateContacts [b.book.contacts r]).getD b.out.db)) := by
  have hone : (b.out.db.updateContacts [b.book.contacts r]).isSome = true :=
    Db.updateContacts_isSome (fun c hc => by rw [List.mem_singleton.mp hc]; exact hname) _
  unfold dbUpdateContact
  rw [h.transaction]
  dsimp only
  rw [hone]
  rfl

/-- What a removal leaves of the book of a backend whose outbox is clear. -/
structure Removal (b b' : Backend) (r : Nat) : Prop where
  clear : b'.out.Clear
  tpcl : b'.tpcl = b.tpcl
  contacts : ∀ x, x ≠ r → b'.book.contacts x = b.book.contacts x
  keys : Contact.SameKeys (b.book.contacts r) (b'.book.contacts r)
  flags : (b'.book.contacts r).flags = (b.book.contacts r).flags
  index : ∀ k x, b'.book.uidToContact.lookup k = some x → b.book.uidToContact.lookup k = some x

theorem removal_modify {b : Backend} (h : b.out.Clear) {r : Nat} {f : Contact → Contact}
    (hf : Contact.SameKeys (b.book.contacts r) (f (b.book.contacts r)))
    (hflags : (f (b.book.contacts r)).flags = (b.book.contacts r).flags) :
    Removal b (b.modify r f) r := by
  refine ⟨h, rfl, fun x hx => Book.modify_contacts_of_ne hx, ?_, ?_, fun k x hx => hx⟩
  · rw [modify_self]
    exact hf
  · rw [modify_self]
    exact hflags

theorem Removal.trans {b b' b'' : Backend} {r : Nat} (h : Removal b b' r) (h' : Removal b' b'' r) :
    Removal b b'' r :=
  ⟨h'.clear, h'.tpcl.trans h.tpcl, fun x hx => (h'.contacts x hx).trans (h.contacts x hx),
    h.keys.trans h'.keys, h'.flags.trans h.flags, fun k x hx => h.index k x (h'.index k x hx)⟩

theorem removal_deleteContacts {b : Backend} (h : b.out.Clear) (r : Nat) :
    Removal b (b.deleteContacts [r]) r := by
  rw [deleteContacts_clear h]
  refine ⟨(h.tell _).withDb _, rfl, fun x _ => ?_, ?_, ?_, fun k x hx => ?_⟩
  · exact congrFun (Book.deleteContact_contacts b.book r) x
  · show Contact.SameKeys _ ((b.book.deleteContact r).contacts r)
    rw [Book.deleteContact_contacts]
    exact ⟨rfl, rfl, rfl⟩
  · exact congrArg Contact.flags (congrFun (Book.deleteContact_contacts b.book r) r)
  · have hx' : (b.book.deleteContact r).uidToContact.lookup k = some x := hx
    rw [Book.deleteContact_uid] at hx'
    exact (Table.lookup_erase_eq_some.mp hx').2

theorem removal_scheduleRemoval {b : Backend} (h : b.out.Clear) (r : Nat) :
    Removal b (b.scheduleRemoval r) r := by
  have hmark : Removal b (b.modify r Contact.markDelete) r := removal_modify h ⟨rfl, rfl, rfl⟩ rfl
  exact ⟨h, rfl, hmark.contacts, hmark.keys, hmark.flags, hmark.index⟩

theorem removal_reallyRemove {b : Backend} (h : b.out.Clear) (r : Nat) :
    Removal b (b.reallyRemove r) r := by
  have hzero : Removal b (b.modify r Contact.nothingPending) r :=
    removal_modify h ⟨rfl, rfl, rfl⟩ rfl
  refine hzero.trans ?_
  show Removal _ ((b.modify r Contact.nothingPending).requestRemoval r) r
  generalize b.modify r Contact.nothingPending = b at hzero
  have hclear := hzero.clear
  unfold requestRemoval
  split
  · exact removal_deleteContacts hclear r
  · split
    · cases b.tpcl.runRemoveContact (b.book.contacts r) b.wire with
      | mk ok w =>
        cases ok with
        | true => exact ⟨hclear, rfl, fun _ _ => rfl, ⟨rfl, rfl, rfl⟩, rfl, fun _ _ hx => hx⟩
        | false =>
          have hput := removal_scheduleRemoval hclear r
          exact ⟨hclear, rfl, hput.contacts, hput.keys, hput.flags, hput.index⟩
    · exact removal_scheduleRemoval hclear r

/-- What `run_remove_contact` does where only master UIDs go, if they were changed. -/
theorem removeMasterUids_clear {b : Backend} (h : b.out.Clear) {r : Nat}
    (hname : (b.book.contacts r).name ≠ none) :
    b.removeMasterUids r
      = if (b.book.contacts r).pendingFlags.has scheduleUpdateMasterUid then
          { b.modify r Contact.masterUidsStored with
            out := (b.out.tell [.update (b.book.contacts r).masterUidsStored, .complete]).withDb
              ((b.out.db.updateContacts [b.book.contacts r]).getD b.out.db) }
        else b := by
  unfold removeMasterUids
  split
  · rw [dbUpdateContact_clear h hname]
    dsimp only
    generalize (b.out.db.updateContacts [b.book.contacts r]).getD b.out.db = db
    have hself : ((b.withDb db).modify r Contact.masterUidsStored).book.contacts r
        = (b.book.contacts r).masterUidsStored := Book.modify_contacts_self b.book r _
    unfold notifyUpdatedContact
    rw [Outbox.Still.notifyUpdatedContact (o := ((b.withDb db).modify r _).out) (h.withDb db).toStill,
      hself]
    rfl
  · rfl

theorem removal_removeMasterUids {b : Backend} (h : b.out.Clear) {r : Nat}
    (hname : (b.book.contacts r).name ≠ none) : Removal b (b.removeMasterUids r) r := by
  rw [removeMasterUids_clear h hname]
  split
  · have hstored : Removal b (b.modify r Contact.masterUidsStored) r :=
      removal_modify h ⟨rfl, rfl, rfl⟩ rfl
    exact ⟨(h.tell _).withDb _, rfl, hstored.contacts, hstored.keys, hstored.flags, hstored.index⟩
  · exact ⟨h, rfl, fun _ _ => rfl, ⟨rfl, rfl, rfl⟩, rfl, fun _ _ hx => hx⟩

theorem removal_run {b : Backend} (h : b.out.Clear) (hnamed : b.book.Named) {id : String} {r : Nat}
    {tokens : List String} (hid : resolve b.book.uidToContact id = some (r, tokens)) :
    Removal b (b.runRemoveContact id).2 r := by
  have hkeys := Contact.sameKeys_removeTokens (b.book.contacts r) tokens
  have htokens : Removal b (b.modify r fun c => (c.removeTokens tokens).1) r :=
    removal_modify h hkeys (Contact.removeTokens_keeps _ tokens).2
  rw [runRemoveContact_found h hid]
  refine htokens.trans ?_
  dsimp only
  split
  · exact removal_reallyRemove htokens.clear r
  · refine removal_removeMasterUids htokens.clear ?_
    rw [htokens.keys.2.1]
    exact hnamed _ r (lookup_namedUid hid)

theorem Removal.named {b b' : Backend} {r : Nat} (h : Removal b b' r) (hnamed : b.book.Named) :
    b'.book.Named := by
  intro k x hx
  have hx' := hnamed k x (h.index k x hx)
  by_cases hxr : x = r
  · subst hxr
    rw [h.keys.2.1]
    exact hx'
  · rw [h.contacts x hxr]
    exact hx'

/-- A removal changes no uid. -/
theorem Removal.uid {b b' : Backend} {r : Nat} (h : Removal b b' r) (x : Nat) :
    (b'.book.contacts x).uid = (b.book.contacts x).uid := by
  by_cases hxr : x = r
  · subst hxr
    exact h.keys.1
  · rw [h.contacts x hxr]

theorem Removal.name {b b' : Backend} {r : Nat} (h : Removal b b' r) (x : Nat) :
    (b'.book.contacts x).name = (b.book.contacts x).name := by
  by_cases hxr : x = r
  · subst hxr
    exact h.keys.2.1
  · rw [h.contacts x hxr]

/-- The flags of nobody change. -/
theorem Removal.sameFlags {b b' : Backend} {r : Nat} (h : Removal b b' r) (x : Nat) :
    (b'.book.contacts x).flags = (b.book.contacts x).flags := by
  by_cases hxr : x = r
  · subst hxr
    exact h.flags
  · rw [h.contacts x hxr]

/-- A contact that is not invalid stays in the index, whatever comes of its removal. -/
theorem reallyRemove_index {b : Backend} {r : Nat}
    (hvalid : (b.book.contacts r).flags.has contactInvalid = false) :
    (b.reallyRemove r).book.uidToContact = b.book.uidToContact := by
  have hflags : ((b.modify r Contact.nothingPending).book.contacts r).flags
      = (b.book.contacts r).flags := by rw [modify_self]; rfl
  unfold reallyRemove requestRemoval
  rw [hflags, hvalid, if_neg Bool.false_ne_true]
  split
  · split <;> rfl
  · rfl

/-- Where only master UIDs go, the tables stay, and so does a mark. -/
theorem removeMasterUids_keeps {b : Backend} (h : b.out.Clear) {r : Nat}
    (hname : (b.book.contacts r).name ≠ none) :
    (b.removeMasterUids r).book.uidToContact = b.book.uidToContact
      ∧ (b.removeMasterUids r).book.contactsToDelete = b.book.contactsToDelete
      ∧ ((b.book.contacts r).pendingFlags.has scheduleDelete = true →
        ((b.removeMasterUids r).book.contacts r).pendingFlags.has scheduleDelete = true) := by
  rw [removeMasterUids_clear h hname]
  split
  · refine ⟨rfl, rfl, ?_⟩
    intro hmark
    show (((b.modify r Contact.masterUidsStored).book.contacts r).pendingFlags.has scheduleDelete) = true
    rw [modify_self]
    exact (BitVec.clear_has_of_disjoint (by decide)).trans hmark
  · exact ⟨rfl, rfl, id⟩

theorem run_index {b : Backend} (h : b.out.Clear) (hnamed : b.book.Named) {id : String} {r : Nat}
    {tokens : List String} (hid : resolve b.book.uidToContact id = some (r, tokens))
    (hvalid : (b.book.contacts r).flags.has contactInvalid = false) :
    (b.runRemoveContact id).2.book.uidToContact = b.book.uidToContact := by
  have hself := modify_self b r fun c => (c.removeTokens tokens).1
  have hname : ((b.modify r fun c => (c.removeTokens tokens).1).book.contacts r).name ≠ none := by
    rw [hself, (Contact.sameKeys_removeTokens _ tokens).2.1]
    exact hnamed _ r (lookup_namedUid hid)
  rw [runRemoveContact_found h hid]
  dsimp only
  split
  · refine reallyRemove_index ?_
    rw [hself, (Contact.removeTokens_keeps _ tokens).2]
    exact hvalid
  · exact (removeMasterUids_keeps (b := b.modify r fun c => (c.removeTokens tokens).1) h hname).1

/-! ### The database -/

/-- The calls that a removal makes at once. -/
def callsAtOnce (b : Backend) (id : String) : List DbCall :=
  match resolve b.book.uidToContact id with
  | none => []
  | some (r, tokens) =>
    let p := (b.book.contacts r).removeTokens tokens
    if p.2 then (if p.1.flags.has contactInvalid then [.removeContacts [p.1.uid]] else [])
    else if p.1.pendingFlags.has scheduleUpdateMasterUid then [.updateContact p.1] else []

/-- The database after some calls; one that fails leaves it as it is. -/
def after (ks : List DbCall) (db : Db) : Db := ks.foldl (fun db k => (k.apply db).getD db) db

theorem reallyRemove_withDb {b : Backend} (h : b.out.Clear) (r : Nat) (db : Db) :
    (b.withDb db).reallyRemove r
      = (b.reallyRemove r).withDb (after (if (b.book.contacts r).flags.has contactInvalid then
          [.removeContacts [(b.book.contacts r).uid]] else []) db) := by
  have hself := modify_self b r Contact.nothingPending
  have hflags : ((b.modify r Contact.nothingPending).book.contacts r).flags
      = (b.book.contacts r).flags := by rw [hself]; rfl
  have huid : ((b.modify r Contact.nothingPending).book.contacts r).uid
      = (b.book.contacts r).uid := by rw [hself]; rfl
  show ((b.modify r Contact.nothingPending).withDb db).requestRemoval r
    = ((b.modify r Contact.nothingPending).requestRemoval r).withDb _
  have hclear : (b.modify r Contact.nothingPending).out.Clear := h
  rw [← hflags, ← huid]
  generalize b.modify r Contact.nothingPending = b at hclear
  by_cases hinvalid : (b.book.contacts r).flags.has contactInvalid = true
  · have hone : b.requestRemoval r = b.deleteContacts [r] := if_pos hinvalid
    have hother : (b.withDb db).requestRemoval r = (b.withDb db).deleteContacts [r] := if_pos hinvalid
    rw [if_pos hinvalid, hone, hother, deleteContacts_clear hclear,
      deleteContacts_clear (b := b.withDb db) (hclear.withDb db)]
    rfl
  · rw [if_neg hinvalid]
    by_cases hon : b.tpcl.status = .online
    · cases hrun : b.tpcl.runRemoveContact (b.book.contacts r) b.wire with
      | mk ok w =>
        have hother : (b.withDb db).tpcl.runRemoveContact ((b.withDb db).book.contacts r)
          (b.withDb db).wire = (ok, w) := hrun
        unfold requestRemoval
        rw [if_neg hinvalid, if_pos hon, hrun, hother]
        refine ((if_neg hinvalid).trans (if_pos hon)).trans ?_
        cases ok <;> rfl
    · have hone : b.requestRemoval r = b.scheduleRemoval r := (if_neg hinvalid).trans (if_neg hon)
      have hother : (b.withDb db).requestRemoval r = (b.withDb db).scheduleRemoval r :=
        (if_neg hinvalid).trans (if_neg hon)
      rw [hone, hother]
      rfl

theorem removeMasterUids_withDb {b : Backend} (h : b.out.Clear) {r : Nat}
    (hname : (b.book.contacts r).name ≠ none) (db : Db) :
    (b.withDb db).removeMasterUids r
      = (b.removeMasterUids r).withDb
        (after (if (b.book.contacts r).pendingFlags.has scheduleUpdateMasterUid then
          [.updateContact (b.book.contacts r)] else []) db) := by
  rw [removeMasterUids_clear h hname, removeMasterUids_clear (b := b.withDb db) (h.withDb db) hname]
  by_cases hdue : (b.book.contacts r).pendingFlags.has scheduleUpdateMasterUid = true
  · rw [if_pos hdue, if_pos hdue]
    exact if_pos hdue
  · rw [if_neg hdue, if_neg hdue]
    exact if_neg hdue

/-- **The database decides nothing** about a removal, and is changed by the calls made at once. -/
theorem runRemoveContact_withDb {b : Backend} (h : b.out.Clear) (hnamed : b.book.Named) (id : String)
    (db : Db) :
    (b.withDb db).runRemoveContact id
      = ((b.runRemoveContact id).1, (b.runRemoveContact id).2.withDb (after (b.callsAtOnce id) db)) := by
  have hclear' : (b.withDb db).out.Clear := h.withDb db
  unfold callsAtOnce
  cases hid : resolve b.book.uidToContact id with
  | none =>
    rw [runRemoveContact_unknown h hid, runRemoveContact_unknown hclear' hid]
    rfl
  | some p =>
    obtain ⟨r, tokens⟩ := p
    rw [runRemoveContact_found h hid, runRemoveContact_found hclear' hid]
    have hself := modify_self b r fun c => (c.removeTokens tokens).1
    have hname : ((b.modify r fun c => (c.removeTokens tokens).1).book.contacts r).name ≠ none := by
      rw [hself, (Contact.sameKeys_removeTokens _ tokens).2.1]
      exact hnamed _ r (lookup_namedUid hid)
    have hreally := reallyRemove_withDb (b := b.modify r fun c => (c.removeTokens tokens).1) h r db
    have hkept := removeMasterUids_withDb (b := b.modify r fun c => (c.removeTokens tokens).1) h hname db
    rw [hself] at hreally hkept
    dsimp only
    refine Prod.ext rfl ?_
    by_cases hlast : ((b.book.contacts r).removeTokens tokens).2 = true
    · rw [if_pos hlast, if_pos hlast]
      exact (if_pos hlast).trans hreally
    · rw [if_neg hlast, if_neg hlast]
      exact (if_neg hlast).trans hkept

/-- A single request is a removal, and the update that goes with one that is real. -/
theorem removeContact_run {b : Backend} (h : b.out.Clear) (id : String) :
    b.removeContact id = match b.runRemoveContact id with
      | (some (r, true), b') => (b'.dbUpdateContact r).2
      | (_, b') => b' := by
  rw [removeContact_resolve, flush_of_still h.toStill]
  cases hid : resolve b.book.uidToContact id with
  | none => rw [runRemoveContact_unknown h hid]
  | some p =>
    obtain ⟨r, tokens⟩ := p
    rw [runRemoveContact_found h hid]
    dsimp only
    cases ((b.book.contacts r).removeTokens tokens).2 <;> rfl

/-- The map after some calls. -/
def mapAfter (ks : List DbCall) (m : CacheMap) : CacheMap :=
  ks.foldl (fun m k => (k.applyMap m).getD m) m

/-- Every contact of the uid index is there under its uid. -/
def UidKeyed (b : Backend) : Prop :=
  ∀ k r, b.book.uidToContact.lookup k = some r → (b.book.contacts r).uid = k

/-- What is written at once is about the uid that the request names. -/
theorem callsAtOnce_cases {b : Backend} (hkeyed : b.UidKeyed) (id : String) :
    b.callsAtOnce id = [] ∨ b.callsAtOnce id = [.removeContacts [namedUid id]]
      ∨ ∃ c : Contact, c.uid = namedUid id ∧ b.callsAtOnce id = [.updateContact c] := by
  unfold callsAtOnce
  cases hid : resolve b.book.uidToContact id with
  | none => exact .inl rfl
  | some p =>
    obtain ⟨r, tokens⟩ := p
    have huid : ((b.book.contacts r).removeTokens tokens).1.uid = namedUid id :=
      (Contact.sameKeys_removeTokens _ tokens).1.trans (hkeyed _ r (lookup_namedUid hid))
    dsimp only
    split
    · split
      · exact .inr (.inl (by rw [huid]))
      · exact .inl rfl
    · split
      · exact .inr (.inr ⟨_, huid, rfl⟩)
      · exact .inl rfl

theorem agree_after {b : Backend} (hkeyed : b.UidKeyed) (id : String) {db : Db} {m : CacheMap}
    (h : Db.Agree db m) : Db.Agree (after (b.callsAtOnce id) db) (mapAfter (b.callsAtOnce id) m) := by
  rcases callsAtOnce_cases hkeyed id with hks | hks | ⟨c, -, hks⟩
  · rw [hks]
    exact h
  · rw [hks]
    exact Db.agree_delete h [namedUid id]
  · rw [hks]
    exact DbCall.agree_updateContacts h [c]

theorem foldlM_update_one (m : CacheMap) (c : Contact) :
    ([c].foldlM CacheMap.update m).getD m = m.put c := by
  unfold CacheMap.put
  rw [List.foldlM_cons]
  cases m.update c <;> rfl

/-- An update about another uid can be put off until the calls have been made. -/
theorem mapAfter_put {b : Backend} (hkeyed : b.UidKeyed) {id : String} {c : Contact}
    (hc : c.uid ≠ namedUid id) (m : CacheMap) :
    mapAfter (b.callsAtOnce id) (m.put c) = (mapAfter (b.callsAtOnce id) m).put c := by
  rcases callsAtOnce_cases hkeyed id with hks | hks | ⟨d, hd, hks⟩
  · rw [hks]
    rfl
  · rw [hks]
    exact CacheMap.delete_put_comm hc m
  · rw [hks]
    have hone : ∀ m : CacheMap, mapAfter [.updateContact d] m = m.put d := fun m => foldlM_update_one m d
    rw [hone, hone]
    exact CacheMap.put_put_comm (hd ▸ hc) m

/-! ## The batch -/

/-- What holds before each turn of the loop of `remove_contacts_idle_cb`. -/
structure Midway (st : Backend × RemoveLocals) : Prop where
  clear : st.1.out.Clear
  keyed : st.1.UidKeyed
  named : st.1.book.Named
  pending : ∀ x ∈ st.2.contactsToUpdate, (st.1.book.contacts x).name ≠ none

theorem Removal.midway {b b' : Backend} {l : RemoveLocals} {r : Nat} (h : Removal b b' r)
    (hmid : Midway (b, l)) : Midway (b', l) := by
  refine ⟨h.clear, ?_, h.named hmid.named, ?_⟩
  · intro k x hx
    rw [h.uid x]
    exact hmid.keyed k x (h.index k x hx)
  · intro x hx
    rw [h.name x]
    exact hmid.pending x hx

/-- The three things a turn of the loop can be. -/
inductive RemovalTurn (st : Backend × RemoveLocals) (id : String) : Prop where
  | unknown (hid : resolve st.1.book.uidToContact id = none)
      (hrun : st.1.runRemoveContact id = (none, st.1)) (hinto : removeInto st id = st)
  | kept (r : Nat) (tokens : List String) (b' : Backend)
      (hid : resolve st.1.book.uidToContact id = some (r, tokens))
      (hrun : st.1.runRemoveContact id = (some (r, false), b')) (hremoval : Removal st.1 b' r)
      (hinto : removeInto st id = (b', st.2))
  | gone (r : Nat) (tokens : List String) (b' : Backend)
      (hid : resolve st.1.book.uidToContact id = some (r, tokens))
      (hreally : ((st.1.book.contacts r).removeTokens tokens).2 = true)
      (hrun : st.1.runRemoveContact id = (some (r, true), b')) (hremoval : Removal st.1 b' r)
      (hinto : removeInto st id =
        (b', { idsRemoved := (b'.book.contacts r).uid :: st.2.idsRemoved
               contactsToUpdate := st.2.contactsToUpdate ++ [r] }))

theorem removalTurn {st : Backend × RemoveLocals} (h : Midway st) (id : String) : RemovalTurn st id := by
  cases hid : resolve st.1.book.uidToContact id with
  | none =>
    have hrun := runRemoveContact_unknown h.clear hid
    refine .unknown hid hrun ?_
    unfold removeInto
    rw [hrun]
  | some p =>
    obtain ⟨r, tokens⟩ := p
    have hremoval := removal_run h.clear h.named hid
    have hfound := runRemoveContact_found h.clear hid
    cases hrun : st.1.runRemoveContact id with
    | mk found b' =>
      rw [hrun] at hremoval hfound
      have hfst := congrArg Prod.fst hfound
      dsimp only at hfst hremoval
      subst hfst
      cases hreally : ((st.1.book.contacts r).removeTokens tokens).2 with
      | false =>
        rw [hreally] at hrun
        refine .kept r tokens b' hid hrun hremoval ?_
        unfold removeInto
        rw [hrun]
      | true =>
        rw [hreally] at hrun
        refine .gone r tokens b' hid hreally hrun hremoval ?_
        unfold removeInto
        rw [hrun]

/--
Ids that the source can take: none is empty, where it would look up `NULL`, and none names an invalid
contact, which would be freed before the caller reads it.
-/
structure Removable (b : Backend) (ids : List String) : Prop where
  nonempty : ∀ id ∈ ids, id ≠ ""
  valid : ∀ id ∈ ids, ∀ r, b.book.uidToContact.lookup (namedUid id) = some r →
    (b.book.contacts r).flags.has contactInvalid = false

theorem midway_removeInto {st : Backend × RemoveLocals} (h : Midway st) (id : String) :
    Midway (removeInto st id) := by
  cases removalTurn h id with
  | unknown hid hrun hinto =>
    rw [hinto]
    exact h
  | kept r tokens b' hid hrun hremoval hinto =>
    rw [hinto]
    exact hremoval.midway h
  | gone r tokens b' hid hreally hrun hremoval hinto =>
    rw [hinto]
    have hmid := hremoval.midway h
    refine ⟨hmid.clear, hmid.keyed, hmid.named, ?_⟩
    intro x hx
    rcases List.mem_append.mp hx with hold | hnew
    · exact hmid.pending x hold
    · rw [List.mem_singleton.mp hnew]
      dsimp only
      rw [hremoval.name r]
      exact h.named _ r (lookup_namedUid hid)

/-- A turn leaves the index as it is, and the ids to come as harmless as they were. -/
theorem removable_removeInto {st : Backend × RemoveLocals} (h : Midway st) {id : String}
    {ids : List String} (hids : Removable st.1 (id :: ids)) :
    (removeInto st id).1.book.uidToContact = st.1.book.uidToContact
      ∧ Removable (removeInto st id).1 ids := by
  have hrest : Removable st.1 ids :=
    ⟨fun i hi => hids.nonempty i (List.mem_cons_of_mem _ hi),
      fun i hi => hids.valid i (List.mem_cons_of_mem _ hi)⟩
  have hkept : ∀ {b' : Backend} {r : Nat}, Removal st.1 b' r →
      b'.book.uidToContact = st.1.book.uidToContact → Removable b' ids := by
    intro b' r hremoval hindex
    refine ⟨hrest.nonempty, fun i hi x hx => ?_⟩
    rw [hindex] at hx
    rw [hremoval.sameFlags x]
    exact hrest.valid i hi x hx
  cases removalTurn h id with
  | unknown hid hrun hinto =>
    rw [hinto]
    exact ⟨rfl, hrest⟩
  | kept r tokens b' hid hrun hremoval hinto =>
    have hindex := run_index h.clear h.named hid
      (hids.valid id List.mem_cons_self r (lookup_namedUid hid))
    rw [hrun] at hindex
    rw [hinto]
    exact ⟨hindex, hkept hremoval hindex⟩
  | gone r tokens b' hid hreally hrun hremoval hinto =>
    have hindex := run_index h.clear h.named hid
      (hids.valid id List.mem_cons_self r (lookup_namedUid hid))
    rw [hrun] at hindex
    rw [hinto]
    exact ⟨hindex, hkept hremoval hindex⟩

theorem foldl_removeInto_index (ids : List String) {st : Backend × RemoveLocals} (h : Midway st)
    (hids : Removable st.1 ids) :
    (ids.foldl removeInto st).1.book.uidToContact = st.1.book.uidToContact := by
  induction ids generalizing st with
  | nil => rfl
  | cons id ids ih =>
    obtain ⟨hindex, hrest⟩ := removable_removeInto h hids
    exact (ih (midway_removeInto h id) hrest).trans hindex

/-- The database has had the updates that the batch has put off. -/
def Ahead (st : Backend × RemoveLocals) (db : Db) : Prop :=
  ∃ m, Db.Agree st.1.out.db m
    ∧ Db.Agree db ((st.2.contactsToUpdate.map st.1.book.contacts).foldl CacheMap.put m)

theorem runRemoveContact_db {b : Backend} (h : b.out.Clear) (hnamed : b.book.Named) (id : String) :
    (b.runRemoveContact id).2.out.db = after (b.callsAtOnce id) b.out.db := by
  have hsame := runRemoveContact_withDb h hnamed id b.out.db
  rw [show b.withDb b.out.db = b from rfl] at hsame
  exact congrArg (fun p => p.2.out.db) hsame

/-- The updates put off before are about other contacts, and a removal leaves these as they are. -/
theorem pending_same {b b' : Backend} {r : Nat} {id : String} {rs : List Nat} (h : Removal b b' r)
    (hr : (b.book.contacts r).uid = namedUid id)
    (hapart : ∀ x ∈ rs, (b.book.contacts x).uid ≠ namedUid id) :
    rs.map b'.book.contacts = rs.map b.book.contacts := by
  refine List.map_congr_left ?_
  intro x hx
  refine h.contacts x ?_
  intro hxr
  subst hxr
  exact hapart x hx hr

/-- **One turn.** A single request does what a turn of the loop does, and is ahead of it by what is put off. -/
theorem removeContact_aside {st : Backend × RemoveLocals} (h : Midway st) (id : String) (db : Db) :
    ∃ db', (st.1.withDb db).removeContact id = (removeInto st id).1.withDb db'
      ∧ ((∀ x ∈ st.2.contactsToUpdate, (st.1.book.contacts x).uid ≠ namedUid id) → Ahead st db →
        Ahead (removeInto st id) db') := by
  have hclear' : (st.1.withDb db).out.Clear := h.clear.withDb db
  have hwith := runRemoveContact_withDb h.clear h.named id db
  have hdb := runRemoveContact_db h.clear h.named id
  have hcomm : (∀ x ∈ st.2.contactsToUpdate, (st.1.book.contacts x).uid ≠ namedUid id) → ∀ m : CacheMap,
      mapAfter (st.1.callsAtOnce id)
          ((st.2.contactsToUpdate.map st.1.book.contacts).foldl CacheMap.put m)
        = (st.2.contactsToUpdate.map st.1.book.contacts).foldl CacheMap.put
            (mapAfter (st.1.callsAtOnce id) m) := by
    intro hapart m
    refine CacheMap.foldl_put_comm ?_ m
    intro c hc m
    obtain ⟨x, hx, rfl⟩ := List.mem_map.mp hc
    exact mapAfter_put h.keyed (hapart x hx) m
  rw [removeContact_run hclear' id, hwith]
  cases removalTurn h id with
  | unknown hid hrun hinto =>
    rw [hrun, hinto]
    have hnone : st.1.callsAtOnce id = [] := by
      unfold callsAtOnce
      rw [hid]
    refine ⟨db, ?_, fun _ hahead => hahead⟩
    rw [hnone]
    rfl
  | kept r tokens b' hid hrun hremoval hinto =>
    rw [hrun] at hdb ⊢
    rw [hinto]
    refine ⟨after (st.1.callsAtOnce id) db, rfl, ?_⟩
    intro hapart hahead
    obtain ⟨m, hm, hput⟩ := hahead
    refine ⟨mapAfter (st.1.callsAtOnce id) m, ?_, ?_⟩
    · rw [hdb]
      exact agree_after h.keyed id hm
    · rw [pending_same hremoval (h.keyed _ r (lookup_namedUid hid)) hapart, ← hcomm hapart]
      exact agree_after h.keyed id hput
  | gone r tokens b' hid hreally hrun hremoval hinto =>
    rw [hrun] at hdb ⊢
    rw [hinto]
    have hname : ((b'.withDb (after (st.1.callsAtOnce id) db)).book.contacts r).name ≠ none := by
      rw [withDb_book, hremoval.name r]
      exact h.named _ r (lookup_namedUid hid)
    dsimp only
    rw [dbUpdateContact_clear (b := b'.withDb _) (hremoval.clear.withDb _) hname]
    refine ⟨_, rfl, ?_⟩
    intro hapart hahead
    obtain ⟨m, hm, hput⟩ := hahead
    refine ⟨mapAfter (st.1.callsAtOnce id) m, ?_, ?_⟩
    · rw [hdb]
      exact agree_after h.keyed id hm
    · rw [List.map_append, List.foldl_append, pending_same hremoval (h.keyed _ r (lookup_namedUid hid)) hapart,
        ← hcomm hapart]
      have hone := DbCall.agree_updateContacts (agree_after h.keyed id hput) [b'.book.contacts r]
      rw [foldlM_update_one] at hone
      exact hone

/-- **All turns.** -/
theorem foldl_removeContact_aside (ids : List String) {st : Backend × RemoveLocals} (h : Midway st)
    (db : Db) :
    ∃ db', ids.foldl removeContact (st.1.withDb db) = (ids.foldl removeInto st).1.withDb db'
      ∧ Midway (ids.foldl removeInto st)
      ∧ ((ids.map namedUid).Nodup →
          (∀ x ∈ st.2.contactsToUpdate, (st.1.book.contacts x).uid ∉ ids.map namedUid) →
          Ahead st db → Ahead (ids.foldl removeInto st) db') := by
  induction ids generalizing st db with
  | nil => exact ⟨db, rfl, h, fun _ _ hahead => hahead⟩
  | cons id ids ih =>
    obtain ⟨db₁, heq, hstep⟩ := removeContact_aside h id db
    obtain ⟨db', hrest, hmid, hahead'⟩ := ih (midway_removeInto h id) db₁
    rw [List.foldl_cons, List.foldl_cons, heq]
    refine ⟨db', hrest, hmid, ?_⟩
    intro hnd hapart hahead
    rw [List.map_cons] at hnd hapart
    obtain ⟨hnew, hnd⟩ := List.nodup_cons.mp hnd
    refine hahead' hnd ?_ (hstep (fun x hx heq => hapart x hx (heq ▸ List.mem_cons_self)) hahead)
    -- the contacts that are put off now have been named before
    have hpending : ∀ x ∈ (removeInto st id).2.contactsToUpdate,
        ((removeInto st id).1.book.contacts x).uid = namedUid id
          ∨ x ∈ st.2.contactsToUpdate
            ∧ ((removeInto st id).1.book.contacts x).uid = (st.1.book.contacts x).uid := by
      cases removalTurn h id with
      | unknown hid hrun hinto =>
        rw [hinto]
        exact fun x hx => .inr ⟨hx, rfl⟩
      | kept r tokens b' hid hrun hremoval hinto =>
        rw [hinto]
        exact fun x hx => .inr ⟨hx, hremoval.uid x⟩
      | gone r tokens b' hid hreally hrun hremoval hinto =>
        rw [hinto]
        intro x hx
        rcases List.mem_append.mp hx with hold | hlast
        · exact .inr ⟨hold, hremoval.uid x⟩
        · rw [List.mem_singleton.mp hlast]
          exact .inl ((hremoval.uid r).trans (h.keyed _ r (lookup_namedUid hid)))
    intro x hx
    rcases hpending x hx with huid | ⟨hold, huid⟩
    · rw [huid]
      exact hnew
    · rw [huid]
      exact fun hin => hapart x hold (List.mem_cons_of_mem _ hin)

/-- The end of the batch catches up with what was put off. -/
theorem writeRemoved_spec {st : Backend × RemoveLocals} (h : Midway st) :
    ∃ db, writeRemoved st = st.1.withDb db
      ∧ ∀ m, Db.Agree st.1.out.db m →
        Db.Agree db ((st.2.contactsToUpdate.map st.1.book.contacts).foldl CacheMap.put m) := by
  unfold writeRemoved
  split
  · rename_i hnone
    refine ⟨st.1.out.db, rfl, ?_⟩
    intro m hm
    rw [hnone]
    exact hm
  · rw [h.clear.transaction]
    refine ⟨_, rfl, ?_⟩
    intro m hm
    have hnames : ∀ c ∈ st.2.contactsToUpdate.map st.1.book.contacts, c.name ≠ none := by
      intro c hc
      obtain ⟨x, hx, rfl⟩ := List.mem_map.mp hc
      exact h.pending x hx
    have hall := DbCall.agree_updateContacts hm (st.2.contactsToUpdate.map st.1.book.contacts)
    rw [CacheMap.foldlM_update hnames] at hall
    exact hall

/-- The flush that begins a request keeps a database that shows a map. -/
theorem agree_flush {b : Backend} {m : CacheMap} (hm : Db.Agree b.out.db m) :
    ∃ m', Db.Agree b.flush.out.db m' := by
  show ∃ m', Db.Agree ((b.out.notifyRemotelyUpdatedContactsAndComplete b.book.contacts).flushDbUpdates
    b.book.contacts).db m'
  rw [Outbox.notifyRemotelyUpdatedContactsAndComplete_eq]
  unfold Outbox.flushDbUpdates
  split
  · exact ⟨m, hm⟩
  · dsimp only
    rcases Outbox.transaction_db (b.out.tell (b.out.completeNews b.book.contacts)).settled
      (fun db => db.updateContacts ((Table.values
        (b.out.tell (b.out.completeNews b.book.contacts)).settled.contactsToUpdateInDb).map
          b.book.contacts)) with hsame | hwritten
    · exact ⟨m, by rw [hsame]; exact hm⟩
    · have hall := DbCall.agree_updateContacts hm ((Table.values
        (b.out.tell (b.out.completeNews b.book.contacts)).settled.contactsToUpdateInDb).map
          b.book.contacts)
      rw [show b.out.db.updateContacts _ = some _ from hwritten] at hall
      exact ⟨_, hall⟩

/-- Two contacts that the cache holds. -/
def twoRows : Db :=
  { contacts := AList.insert "acct-bob" { name := "bob" } (AList.insert "acct-ann" { name := "ann" } ∅) }

/-- A modification leaves every contact under its uid. -/
theorem modifyContact_index (b : Backend) (ec : Contact.EVCard) :
    (b.modifyContact ec).book.uidToContact = b.book.uidToContact := by
  unfold modifyContact
  dsimp only
  cases (Contact.cardUid ec).bind b.flush.book.uidToContact.lookup with
  | none => rfl
  | some r =>
    dsimp only
    split
    · unfold commitModification
      rw [storeModification_book]
      have hsent : ∀ b : Backend, ((b.sendFlags r).scheduleUpdate r).book.uidToContact
          = b.book.uidToContact := by
        intro b
        show (b.sendFlags r).book.uidToContact = _
        rw [sendFlags_book]
        split <;> rfl
      split <;> exact hsent (b.flush.modify r _)
    · rfl

/-- A request that is not taken up leaves the book as it is. -/
theorem modifyContacts_refused (s : Contact.Surroundings) (b : Backend) {obstacle : Option Obstacle}
    {vcards : List Contact.EVCard} (h : obstacle ≠ none ∨ 1 < vcards.length) :
    (b.modifyContacts s obstacle vcards).2.book = b.book := by
  have hone : ∀ {o : Obstacle} {ec : Contact.EVCard},
      (b.modifyContactIdleCb s (some o) ec).2.book = b.book := by
    intro o ec
    cases o <;> rfl
  cases vcards with
  | nil =>
    obtain ⟨o, rfl⟩ := Option.ne_none_iff_exists'.mp (h.resolve_right (by simp))
    exact hone
  | cons ec rest =>
    cases rest with
    | nil =>
      obtain ⟨o, rfl⟩ := Option.ne_none_iff_exists'.mp (h.resolve_right (by simp))
      exact hone
    | cons _ _ => rfl

/-- **What a modification is answered, a request for the contact is answered after it.** -/
theorem getContact_modified {s : Contact.Surroundings} {b b' : Backend} {obstacle : Option Obstacle}
    {ec v : Contact.EVCard} (h : b.modifyContacts s obstacle [ec] = (.ok v, b')) {uid : String}
    (huid : Contact.cardUid ec = some uid) (hne : uid ≠ "") :
    (b'.getContactIdleCb s (some uid)).1 = .ok v := by
  have hidle : b.modifyContactIdleCb s obstacle ec = (.ok v, b') := h
  unfold modifyContactIdleCb at hidle
  cases obstacle with
  | some o => cases o <;> cases hidle
  | none =>
    dsimp only at hidle
    rw [huid, Option.bind_some] at hidle
    cases hr : b.book.uidToContact.lookup uid with
    | none =>
      rw [hr] at hidle
      cases hidle
    | some r =>
      rw [hr] at hidle
      obtain ⟨hv, rfl⟩ := Prod.mk.inj hidle
      have hlook : (b.modifyContact ec).getContact.book.uidToContact.lookup uid = some r := by
        show (b.modifyContact ec).book.uidToContact.lookup uid = some r
        rw [modifyContact_index]
        exact hr
      unfold getContactIdleCb
      dsimp only
      rw [if_neg hne, hlook]
      exact hv

end Backend

end EdsTelepathy
