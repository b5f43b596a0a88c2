import EdsTelepathy.Proof.Posts

/-!
# What the views are told

All notifications go to all views. So whatever a post does to the views, it appends one
list of notices to each of them, and the functions of the outbox that tell the views are
given here in that form: the list, and what else changes.
-/

namespace EdsTelepathy

namespace Outbox

/-- Send several notices to every view. -/
def tell (o : Outbox) (ns : List Notice) : Outbox :=
  { o with views := o.views.map fun v => { v with told := v.told ++ ns } }

@[simp] theorem tell_nil (o : Outbox) : o.tell [] = o := by
  unfold tell
  simp

@[simp] theorem tell_tell (o : Outbox) (ns ms : List Notice) :
    (o.tell ns).tell ms = o.tell (ns ++ ms) := by
  unfold tell
  simp [Function.comp_def]

theorem tell_of_noViews {o : Outbox} (h : o.views = []) (ns : List Notice) : o.tell ns = o := by
  unfold tell
  rw [h]
  cases o
  dsimp only at h
  subst h
  rfl

theorem notify_eq (o : Outbox) (n : Notice) : o.notify n = o.tell [n] := rfl

theorem notifyCompleteAllViews_eq (o : Outbox) : o.notifyCompleteAllViews = o.tell [.complete] := rfl

/-- Notices sent one after the other. -/
theorem foldl_notify {α : Type} (f : α → Notice) (xs : List α) (o : Outbox) :
    xs.foldl (fun o x => o.notify (f x)) o = o.tell (xs.map f) := by
  induction xs generalizing o with
  | nil => simp
  | cons x xs ih => rw [List.foldl_cons, ih, notify_eq, tell_tell]; rfl

/-- The updates that the changed contacts are told with. -/
def news (heap : Nat → Contact) (o : Outbox) : List Notice :=
  ((Table.values o.contactsRemotelyChanged).filter fun r => (heap r).isVisible).map
    fun r => .update (heap r)

theorem mem_news {heap : Nat → Contact} {o : Outbox} {k : String} {r : Nat}
    (h : o.contactsRemotelyChanged.lookup k = some r) (hv : (heap r).isVisible = true) :
    .update (heap r) ∈ o.news heap :=
  List.mem_map.mpr
    ⟨r, List.mem_filter.mpr ⟨Table.mem_values.mpr ⟨k, h⟩, hv⟩, rfl⟩

/-- The changed contacts have been told, and none is waiting. -/
def settled (o : Outbox) : Outbox :=
  { o with updateScheduled := false, contactsRemotelyChanged := ∅ }

/-- **`notify_remotely_updated_contacts` tells the news and forgets them.** -/
theorem notifyRemotelyUpdatedContacts_eq (heap : Nat → Contact) (o : Outbox) :
    (o.notifyRemotelyUpdatedContacts heap).2 = (o.tell (o.news heap)).settled := by
  unfold notifyRemotelyUpdatedContacts
  dsimp only
  split
  · rename_i h
    rw [tell_of_noViews h]
    rfl
  · dsimp only
    rw [foldl_notify]
    rfl

/-- The news, and that they are complete. -/
def completeNews (heap : Nat → Contact) (o : Outbox) : List Notice :=
  if o.news heap = [] then [] else o.news heap ++ [.complete]

theorem notifyRemotelyUpdatedContactsAndComplete_eq (heap : Nat → Contact) (o : Outbox) :
    o.notifyRemotelyUpdatedContactsAndComplete heap
      = (o.tell (o.completeNews heap)).settled := by
  have hout := notifyRemotelyUpdatedContacts_eq heap o
  have hcount : o.views ≠ [] →
      (o.notifyRemotelyUpdatedContacts heap).1 = (o.news heap).length := by
    intro h
    unfold notifyRemotelyUpdatedContacts news
    rw [List.length_map]
    dsimp only
    rw [if_neg h]
  unfold notifyRemotelyUpdatedContactsAndComplete completeNews
  generalize o.notifyRemotelyUpdatedContacts heap = p at hout hcount
  obtain ⟨n, o'⟩ := p
  dsimp only at hout hcount ⊢
  subst hout
  by_cases hviews : o.views = []
  · -- without views, whatever is told changes nothing
    have htold : ∀ ns, o.tell ns = o := tell_of_noViews hviews
    have hnone : o.settled.tell [.complete] = o.settled := tell_of_noViews (o := o.settled) hviews _
    rw [htold, htold, notifyCompleteAllViews_eq, hnone]
    split <;> rfl
  · rw [hcount hviews]
    by_cases hnews : o.news heap = []
    · rw [if_pos hnews, hnews]
      rfl
    · rw [if_neg hnews, if_pos (List.length_pos_iff.mpr hnews), ← tell_tell]
      rfl

theorem notifyUpdatedContact_eq (heap : Nat → Contact) (o : Outbox) (r : Nat) :
    o.notifyUpdatedContact heap r
      = if o.views = [] then o
        else
          let rest := { o with
            contactsRemotelyChanged := o.contactsRemotelyChanged.erase (heap r).uid }
          (o.tell (rest.news heap ++ [.update (heap r), .complete])).settled := by
  unfold notifyUpdatedContact
  split
  · rfl
  · dsimp only
    rw [notifyRemotelyUpdatedContacts_eq, notifyCompleteAllViews_eq, notify_eq, tell_tell]
    rw [show o.tell (news heap _ ++ [.update (heap r), .complete])
      = (o.tell (news heap _)).tell [.update (heap r), .complete] from (tell_tell ..).symm]
    rfl

/-! ## What the other functions leave to tell -/

/-- A database call changes the database and uses up one outcome. -/
theorem transaction_eq (o : Outbox) (f : Db → Option Db) :
    ∃ db, (o.transaction f).2 = { o with db := db, sql := o.sql.tail } := by
  unfold transaction
  dsimp only
  split
  · split
    · exact ⟨_, rfl⟩
    · exact ⟨o.db, rfl⟩
  · exact ⟨o.db, rfl⟩

/-- `flush_db_updates` writes to the database and empties the queue. -/
theorem flushDbUpdates_eq (heap : Nat → Contact) (o : Outbox) :
    ∃ db sql, o.flushDbUpdates heap
      = { o with db := db, sql := sql, contactsToUpdateInDb := ∅ } := by
  unfold flushDbUpdates
  split
  · rename_i hnil
    have hempty : o.contactsToUpdateInDb = ∅ :=
      AList.ext (List.map_eq_nil_iff.mp hnil)
    refine ⟨o.db, o.sql, ?_⟩
    rw [← hempty]
  · obtain ⟨db, heq⟩ := transaction_eq o fun db =>
      db.updateContacts ((Table.values o.contactsToUpdateInDb).map heap)
    dsimp only
    rw [heq]
    exact ⟨db, o.sql.tail, rfl⟩

/-- What `delete_contacts` tells the views, and what it leaves. -/
theorem announceRemoval_eq (heap : Nat → Contact) (o : Outbox) (uids : List String) :
    ∃ db sql, o.announceRemoval heap uids
      = { (o.tell (o.news heap ++ uids.map Notice.remove ++ [.complete])).settled with
          db := db, sql := sql, contactsToUpdateInDb := ∅ } := by
  obtain ⟨db, sql, hflush⟩ := flushDbUpdates_eq heap o
  have hnews : news heap { o with db := db, sql := sql, contactsToUpdateInDb := ∅ }
      = o.news heap := rfl
  unfold announceRemoval
  dsimp only
  rw [foldl_notify, notifyCompleteAllViews_eq, tell_tell, notifyRemotelyUpdatedContacts_eq,
    hflush, hnews]
  obtain ⟨db', heq⟩ := transaction_eq
    (settled (tell { o with db := db, sql := sql, contactsToUpdateInDb := ∅ } (o.news heap)))
    fun db => some (db.removeContacts uids)
  rw [heq, List.append_assoc, ← tell_tell o]
  exact ⟨db', sql.tail, rfl⟩

end Outbox

end EdsTelepathy
