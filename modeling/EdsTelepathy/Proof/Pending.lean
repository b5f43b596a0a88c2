import EdsTelepathy.Proof.Told

/-!
# Change notifications that wait

The changed contacts wait for the idle source, or for the end of an inactivity. The law of
the two flags and the set is `Pending`, and it is kept by every post, in whatever order
posts are made and whatever happens to the contacts in between. What makes a contact leave
the set is `Leaves`. Of all posts only `notify_updated_contact` needs an argument: it takes
the contact it is about out of the set under its uid, so the set must not hold another
contact under that uid. It does not where a request is not interrupted, which has the set told and
emptied before it does anything else.
-/

namespace EdsTelepathy

namespace Outbox

/-- The law of the set of changed contacts; 50 is `MAX_PENDING_CONTACTS`. -/
structure Pending (o : Outbox) : Prop where
  /-- Whoever waits will be told: by the idle source, or when the inactivity ends. -/
  scheduled : o.contactsRemotelyChanged ≠ ∅ → o.updateScheduled = true ∨ o.systemInactive = true
  /-- Without the idle source, few wait for the end of the inactivity. -/
  bounded : o.systemInactive = true → o.updateScheduled = false →
    Table.size o.contactsRemotelyChanged ≤ 50

/-- Why a contact may leave the set when a post is made. -/
inductive Leaves (o : Outbox) (p : Posting) (uid : String) (r : Nat) : Prop where
  /-- Its vcard, as it is now, was sent to every view there is. -/
  | sent {ns : List Notice} : .update (p.heap r) ∈ ns →
      (o.carry p).views = o.views.map (fun v => { v with told := v.told ++ ns }) →
      Leaves o p uid r
  | invisible : (p.heap r).isVisible = false → Leaves o p uid r
  | deleted {uids : List String} : p.post = .delete uids → uid ∈ uids → Leaves o p uid r
  | noView : o.views = [] → Leaves o p uid r

/-- Whoever leaves the set has a reason to. -/
def LeavesWell (o : Outbox) (p : Posting) : Prop :=
  ∀ uid r, o.contactsRemotelyChanged.lookup uid = some r →
    (o.carry p).contactsRemotelyChanged.lookup uid ≠ some r → o.Leaves p uid r

/--
`notify_updated_contact` is not called for one of two contacts with the same uid while the other one
waits: unless that one is not visible, or there is nobody to tell.
-/
def NotifiesOwn (o : Outbox) (p : Posting) : Prop :=
  ∀ r r', p.post = .notifyOne r → o.contactsRemotelyChanged.lookup (p.heap r).uid = some r' →
    r' = r ∨ (p.heap r').isVisible = false ∨ o.views = []

/-! ## The law -/

theorem pending_of_empty {o : Outbox} (h : o.contactsRemotelyChanged = ∅) : o.Pending where
  scheduled := fun hne => absurd h hne
  bounded := fun _ _ => by rw [h]; exact Nat.zero_le 50

/-- The law only speaks of the set and the two flags. -/
theorem Pending.of_same {o o' : Outbox} (h : o.Pending)
    (hset : o'.contactsRemotelyChanged = o.contactsRemotelyChanged)
    (hid : o'.updateScheduled = o.updateScheduled)
    (hinactive : o'.systemInactive = o.systemInactive) : o'.Pending where
  scheduled := by rw [hset, hid, hinactive]; exact h.scheduled
  bounded := by rw [hset, hid, hinactive]; exact h.bounded

theorem flushDbUpdates_changed (heap : Nat → Contact) (o : Outbox) :
    (o.flushDbUpdates heap).contactsRemotelyChanged = o.contactsRemotelyChanged := by
  obtain ⟨_, _, heq⟩ := flushDbUpdates_eq heap o
  rw [heq]

theorem Pending.flush {o : Outbox} (h : o.Pending) (heap : Nat → Contact) :
    (o.flushDbUpdates heap).Pending := by
  obtain ⟨_, _, heq⟩ := flushDbUpdates_eq heap o
  rw [heq]
  exact h.of_same rfl rfl rfl

/-- After a deletion nobody waits any more. -/
theorem deleteContacts_changed (heap : Nat → Contact) (o : Outbox) (uids : List String) :
    (o.deleteContacts heap uids).contactsRemotelyChanged = ∅ := by
  unfold deleteContacts
  obtain ⟨_, _, heq⟩ := announceRemoval_eq heap { o with
    contactsRemotelyChanged := uids.foldl (fun t u => t.erase u) o.contactsRemotelyChanged
    contactsToUpdateInDb := uids.foldl (fun t u => t.erase u) o.contactsToUpdateInDb } uids
  rw [heq]
  rfl

/-- **Every post keeps the law.** -/
theorem pending_carry {o : Outbox} (h : o.Pending) (p : Posting) : (o.carry p).Pending := by
  obtain ⟨heap, post⟩ := p
  cases post with
  | queue rs updateDb => exact ⟨fun _ => .inl rfl, fun _ hid => by cases hid⟩
  | notifyRemote =>
    refine pending_of_empty ?_
    show (o.notifyRemotelyUpdatedContactsAndComplete heap).contactsRemotelyChanged = ∅
    rw [notifyRemotelyUpdatedContactsAndComplete_eq]
    rfl
  | settle =>
    refine pending_of_empty ?_
    show (flushDbUpdates heap (o.notifyRemotelyUpdatedContactsAndComplete heap)).contactsRemotelyChanged
      = ∅
    rw [flushDbUpdates_changed, notifyRemotelyUpdatedContactsAndComplete_eq]
    rfl
  | notifyOne r =>
    show (o.notifyUpdatedContact heap r).Pending
    rw [notifyUpdatedContact_eq]
    split
    · exact h
    · exact pending_of_empty rfl
  | flush => exact h.flush heap
  | write f =>
    obtain ⟨db, heq⟩ := transaction_eq o f
    show (o.transaction f).2.Pending
    rw [heq]
    exact h.of_same rfl rfl rfl
  | merged r =>
    unfold carry
    dsimp only
    split
    · exact h
    · exact h.of_same rfl rfl rfl
  | delete uids => exact pending_of_empty (deleteContacts_changed heap o uids)
  | idle =>
    show (o.updateContactsIdleCb heap).Pending
    unfold updateContactsIdleCb
    dsimp only
    by_cases hnow : (!o.systemInactive || decide (50 < Table.size o.contactsRemotelyChanged)) = true
    · refine pending_of_empty ?_
      rw [if_pos hnow]
      show (flushDbUpdates heap _).contactsRemotelyChanged = ∅
      rw [flushDbUpdates_changed, notifyRemotelyUpdatedContactsAndComplete_eq]
      rfl
    · -- the system is inactive and few contacts wait, so they go on waiting
      rw [if_neg hnow]
      obtain ⟨_, _, heq⟩ := flushDbUpdates_eq heap o
      rw [heq]
      simp only [Bool.or_eq_true, Bool.not_eq_true', decide_eq_true_eq, not_or,
        Bool.not_eq_false, Nat.not_lt] at hnow
      exact ⟨fun _ => .inr hnow.1, fun _ _ => hnow.2⟩
  | inactivity on =>
    show (o.setInactivityStatus heap on).Pending
    unfold setInactivityStatus
    split
    · exact h
    · rename_i hne
      dsimp only
      split
      · refine pending_of_empty ?_
        rw [notifyRemotelyUpdatedContactsAndComplete_eq]
        rfl
      · rename_i hsize
        cases on with
        | true =>
          -- the system was active: only the idle source can have been waited for
          have hactive : o.systemInactive = false := by
            cases hs : o.systemInactive with
            | true => exact absurd hs.symm hne
            | false => rfl
          refine ⟨fun _ => .inr rfl, fun _ hid => ?_⟩
          by_cases hempty : o.contactsRemotelyChanged = ∅
          · show Table.size o.contactsRemotelyChanged ≤ 50
            rw [hempty]
            exact Nat.zero_le 50
          · have hid' : o.updateScheduled = false := hid
            rcases h.scheduled hempty with hs | hs
            · rw [hid'] at hs; cases hs
            · rw [hactive] at hs; cases hs
        | false =>
          refine ⟨fun hsome => ?_, fun hin => by cases hin⟩
          simp only [Bool.not_false, Bool.true_and, decide_eq_true_eq, Nat.not_lt,
            Nat.le_zero_eq] at hsize
          exact absurd (AList.ext (List.length_eq_zero_iff.mp hsize)) hsome
  | addView id told => exact h.of_same rfl rfl rfl
  | dropView id => exact h.of_same rfl rfl rfl
  | populate told => exact h.of_same rfl rfl rfl

/-! ## Leaving the set -/

/-- Whoever waits when the news are told is sent to every view, or is not visible. -/
theorem leaves_told {o : Outbox} {p : Posting} {uid : String} {r : Nat} {ns : List Notice}
    (h : o.contactsRemotelyChanged.lookup uid = some r) (hsub : o.news p.heap ⊆ ns)
    (hviews : (o.carry p).views = (o.tell ns).views) : o.Leaves p uid r := by
  cases hv : (p.heap r).isVisible with
  | true => exact .sent (hsub (mem_news h hv)) hviews
  | false => exact .invisible hv

theorem news_subset_completeNews (heap : Nat → Contact) (o : Outbox) :
    o.news heap ⊆ o.completeNews heap := by
  intro n hn
  unfold completeNews
  rw [if_neg (List.ne_nil_of_mem hn)]
  exact List.mem_append_left _ hn

/-- To queue contacts does not take anybody out of the set. -/
theorem lookup_updateContacts {heap : Nat → Contact} {o : Outbox} {uid : String} {r : Nat}
    (h : o.contactsRemotelyChanged.lookup uid = some r) (rs : List Nat) (updateDb : Bool) :
    (o.updateContacts heap rs updateDb).contactsRemotelyChanged.lookup uid = some r := by
  refine foldl_inv (I := fun o' : Outbox => o'.contactsRemotelyChanged.lookup uid = some r)
    (fun o' r' h' => ?_) rs h
  have hmark : ∀ {o'' : Outbox}, o''.contactsRemotelyChanged.lookup uid = some r →
      (if updateDb && (o''.contactsToUpdateInDb.lookup (heap r').uid).isNone then
        { o'' with contactsToUpdateInDb := o''.contactsToUpdateInDb.insert (heap r').uid r' }
      else o'').contactsRemotelyChanged.lookup uid = some r := by
    intro o'' h''
    split <;> exact h''
  unfold queueContact
  dsimp only
  split
  · exact hmark h'
  · rename_i hnone
    refine hmark ?_
    have hne : uid ≠ (heap r').uid := by
      rintro rfl
      rw [h'] at hnone
      exact hnone rfl
    show (o'.contactsRemotelyChanged.insert (heap r').uid r').lookup uid = some r
    rw [AList.lookup_insert_ne hne]
    exact h'

theorem lookup_foldl_erase {t : Table String Nat} {us : List String} {u : String} (h : u ∉ us) :
    (us.foldl (fun t u => t.erase u) t).lookup u = t.lookup u := by
  induction us generalizing t with
  | nil => rfl
  | cons x xs ih =>
    rw [List.foldl_cons, ih fun hmem => h (List.mem_cons_of_mem x hmem)]
    exact AList.lookup_erase_ne fun heq => h (heq ▸ List.mem_cons_self)

/-- **Whoever leaves the set was told, is not visible, is deleted, or nobody listens.** -/
theorem leavesWell_carry {o : Outbox} {p : Posting} (hown : o.NotifiesOwn p) : o.LeavesWell p := by
  intro uid r hin hout
  obtain ⟨heap, post⟩ := p
  cases post with
  -- what is queued comes on top of what waits
  | queue rs updateDb => exact absurd (lookup_updateContacts hin rs updateDb) hout
  | notifyRemote =>
    refine leaves_told hin (news_subset_completeNews heap o) ?_
    show (o.notifyRemotelyUpdatedContactsAndComplete heap).views = _
    rw [notifyRemotelyUpdatedContactsAndComplete_eq]
    rfl
  | settle =>
    refine leaves_told hin (news_subset_completeNews heap o) ?_
    show (flushDbUpdates heap (o.notifyRemotelyUpdatedContactsAndComplete heap)).views = _
    obtain ⟨_, _, heq⟩ := flushDbUpdates_eq heap (o.notifyRemotelyUpdatedContactsAndComplete heap)
    rw [heq, notifyRemotelyUpdatedContactsAndComplete_eq]
    rfl
  | notifyOne r' =>
    have hcarry : o.carry ⟨heap, .notifyOne r'⟩ = o.notifyUpdatedContact heap r' := rfl
    rw [notifyUpdatedContact_eq] at hcarry
    split at hcarry
    · rename_i hnone
      exact .noView hnone
    · dsimp only at hcarry
      by_cases hu : uid = (heap r').uid
      · -- the contact itself: it is sent after the others
        subst hu
        rcases hown r' r rfl hin with rfl | hv | hnone
        · exact .sent (List.mem_append_right _ List.mem_cons_self) (by rw [hcarry]; rfl)
        · exact .invisible hv
        · exact .noView hnone
      · cases hv : (heap r).isVisible with
        | false => exact .invisible hv
        | true =>
          refine .sent (List.mem_append_left _ (mem_news (k := uid) ?_ hv))
            (by rw [hcarry]; rfl)
          -- the others go on waiting when the contact itself is taken out
          exact (AList.lookup_erase_ne hu).trans hin
  | flush => exact absurd ((congrArg (·.lookup uid) (flushDbUpdates_changed heap o)).trans hin) hout
  | write f =>
    obtain ⟨db, heq⟩ := transaction_eq o f
    refine absurd ?_ hout
    -- a transaction writes rows, and nobody stops waiting for it
    show (o.transaction f).2.contactsRemotelyChanged.lookup uid = some r
    rw [heq]
    exact hin
  | merged r' =>
    refine absurd ?_ hout
    unfold carry
    dsimp only
    split <;> exact hin
  | delete uids =>
    by_cases hu : uid ∈ uids
    · exact .deleted rfl hu
    · -- the others are told before the removals
      cases hv : (heap r).isVisible with
      | false => exact .invisible hv
      | true =>
        obtain ⟨ns, hviews, hmem⟩ := deleteContacts_tells heap o uids
        exact .sent (hmem hu hin hv) hviews
  | idle =>
    have hcarry : o.carry ⟨heap, .idle⟩ = o.updateContactsIdleCb heap := rfl
    unfold updateContactsIdleCb at hcarry
    dsimp only at hcarry
    split at hcarry
    · refine leaves_told hin (news_subset_completeNews heap o) ?_
      obtain ⟨_, _, heq⟩ := flushDbUpdates_eq heap (o.notifyRemotelyUpdatedContactsAndComplete heap)
      rw [hcarry, heq, notifyRemotelyUpdatedContactsAndComplete_eq]
      rfl
    · refine absurd ?_ hout
      rw [hcarry]
      exact (congrArg (·.lookup uid) (flushDbUpdates_changed heap o)).trans hin
  | inactivity on =>
    have hcarry : o.carry ⟨heap, .inactivity on⟩ = o.setInactivityStatus heap on := rfl
    unfold setInactivityStatus at hcarry
    split at hcarry
    · exact absurd (by rw [hcarry]; exact hin) hout
    · dsimp only at hcarry
      split at hcarry
      · -- a view that wakes up is told all that waits
        refine leaves_told hin (news_subset_completeNews heap { o with systemInactive := on }) ?_
        rw [hcarry, notifyRemotelyUpdatedContactsAndComplete_eq]
        rfl
      · exact absurd (by rw [hcarry]; exact hin) hout
  | addView id told => exact absurd hin hout
  | dropView id => exact absurd hin hout
  | populate told => exact absurd hin hout
where
  /-- What a deletion tells the views: everybody who waits and stays, among other things. -/
  deleteContacts_tells (heap : Nat → Contact) (o : Outbox) (uids : List String) :
      ∃ ns, (o.deleteContacts heap uids).views
          = o.views.map (fun v => { v with told := v.told ++ ns })
        ∧ ∀ {uid : String} {r : Nat}, uid ∉ uids →
            o.contactsRemotelyChanged.lookup uid = some r → (heap r).isVisible = true →
            .update (heap r) ∈ ns := by
    generalize ho : ({ o with
        contactsRemotelyChanged := uids.foldl (fun t u => t.erase u) o.contactsRemotelyChanged
        contactsToUpdateInDb := uids.foldl (fun t u => t.erase u) o.contactsToUpdateInDb } :
          Outbox) = o₁
    have hdel : o.deleteContacts heap uids = o₁.announceRemoval heap uids := by
      rw [← ho]; rfl
    obtain ⟨_, _, heq⟩ := announceRemoval_eq heap o₁ uids
    refine ⟨o₁.news heap ++ uids.map Notice.remove ++ [.complete], ?_, ?_⟩
    · rw [hdel, heq, ← ho]
      rfl
    · intro uid r hu hin hv
      refine List.mem_append_left _ (List.mem_append_left _ (mem_news (k := uid) ?_ hv))
      rw [← ho]
      exact (lookup_foldl_erase hu).trans hin

end Outbox

/-! ## Which posts an event makes -/

/-- Only `update_contacts` puts contacts into the queues. -/
def Post.queues : Post → Bool
  | queue _ _ => true
  | _ => false

/-- Whether the post is a call of `notify_updated_contact`. -/
def Post.isOne : Post → Bool
  | notifyOne _ => true
  | _ => false

/-- The contact that `notify_updated_contact` is called for. -/
def Post.one : Post → Option Nat
  | .notifyOne r => some r
  | _ => none

namespace Outbox

instance (o : Outbox) : DecidablePred o.NotifiesOwn := fun p =>
  decidable_of_iff (∀ r ∈ p.post.one, ∀ r' ∈ o.contactsRemotelyChanged.lookup (p.heap r).uid,
      r' = r ∨ (p.heap r').isVisible = false ∨ o.views = [])
    ⟨fun h r r' hr hin => h r (by rw [hr]; rfl) r' hin, fun h r hr r' hin =>
      h r r' (by
        obtain ⟨heap, post⟩ := p
        cases post <;> cases hr
        rfl) hin⟩

/-- Where nobody waits, nobody waits after a post that queues nobody. -/
theorem changed_carry {o : Outbox} {p : Posting} (h : o.contactsRemotelyChanged = ∅)
    (hp : p.post.queues = false) : (o.carry p).contactsRemotelyChanged = ∅ := by
  obtain ⟨heap, post⟩ := p
  have hnotified : ∀ o' : Outbox,
      (o'.notifyRemotelyUpdatedContactsAndComplete heap).contactsRemotelyChanged = ∅ := by
    intro o'
    rw [notifyRemotelyUpdatedContactsAndComplete_eq]
    rfl
  cases post with
  | queue rs updateDb => cases hp
  | notifyRemote => exact hnotified o
  | settle => exact (flushDbUpdates_changed heap _).trans (hnotified o)
  | notifyOne r =>
    show (o.notifyUpdatedContact heap r).contactsRemotelyChanged = ∅
    rw [notifyUpdatedContact_eq]
    split
    · exact h
    · rfl
  | flush => exact (flushDbUpdates_changed heap o).trans h
  | write f =>
    obtain ⟨db, heq⟩ := transaction_eq o f
    show (o.transaction f).2.contactsRemotelyChanged = ∅
    rw [heq]
    exact h
  | merged r =>
    unfold carry
    dsimp only
    split <;> exact h
  | delete uids => exact deleteContacts_changed heap o uids
  | idle =>
    show (flushDbUpdates heap _).contactsRemotelyChanged = ∅
    rw [flushDbUpdates_changed]
    split
    · exact hnotified o
    · exact h
  | inactivity on =>
    show (o.setInactivityStatus heap on).contactsRemotelyChanged = ∅
    unfold setInactivityStatus
    split
    · exact h
    · dsimp only
      split
      · exact hnotified _
      · exact h
  | addView id told => exact h
  | dropView id => exact h
  | populate told => exact h

theorem notifiesOwn_of_empty {o : Outbox} (h : o.contactsRemotelyChanged = ∅) (p : Posting) :
    o.NotifiesOwn p := by
  intro r r' _ hin
  rw [h] at hin
  cases hin

/-- Posts that queue nobody, made where nobody waits. -/
theorem notifiesOwn_along {o : Outbox} {ps : List Posting} (h : o.contactsRemotelyChanged = ∅)
    (hps : ∀ p ∈ ps, p.post.queues = false) : AllAlong carry NotifiesOwn o ps := by
  induction ps generalizing o with
  | nil => trivial
  | cons p ps ih =>
    exact ⟨notifiesOwn_of_empty h p,
      ih (changed_carry h (hps p List.mem_cons_self)) fun q hq => hps q (List.mem_cons_of_mem p hq)⟩

end Outbox

namespace Backend

/-- The posts queue nobody. -/
def NoneQueues (ps : List Posting) : Prop := ∀ p ∈ ps, p.post.queues = false

/-- None of the posts is a call of `notify_updated_contact`. -/
def NoneOne (ps : List Posting) : Prop := ∀ p ∈ ps, p.post.isOne = false

theorem noneQueues_enterPosts (b : Backend) (c : Contact) : NoneQueues (b.enterPosts c) := by
  unfold NoneQueues enterPosts
  split
  · split
    · simp [updatePost, Post.queues]
    · simp
  · dsimp only
    split
    · simp [Post.queues]
    · simp

theorem noneQueues_runCreatePosts (b : Backend) (ec : Contact.EVCard) :
    NoneQueues (b.runCreatePosts ec) := by
  unfold runCreatePosts
  split
  · simp [NoneQueues]
  · dsimp only
    split
    · split
      · exact noneQueues_enterPosts _ _
      · simp [NoneQueues]
    · exact noneQueues_enterPosts _ _

theorem noneQueues_storePosts (b : Backend) (r : Nat) (settle : Contact → Contact) :
    NoneQueues (b.storePosts r settle) := by
  simp [NoneQueues, storePosts, updatePost, Post.queues]

theorem noneQueues_modifyPosts (b : Backend) (ec : Contact.EVCard) :
    NoneQueues (b.modifyPosts ec) := by
  unfold modifyPosts
  split
  · simp [NoneQueues]
  · dsimp only
    split
    · exact noneQueues_storePosts _ _ _
    · simp [NoneQueues]

theorem noneQueues_removePosts (b : Backend) (id : String) : NoneQueues (b.removePosts id) := by
  unfold removePosts
  split
  · simp [NoneQueues]
  · split
    · simp [NoneQueues]
    · unfold removeFoundPosts
      dsimp only
      split
      · split <;> simp [NoneQueues, deletePosts, updatePost, Post.queues]
      · split
        · exact noneQueues_storePosts _ _ _
        · simp [NoneQueues]

theorem noneOne_signalPosts (b : Backend) (s : Signal) : NoneOne (b.signalPosts s) := by
  have hcopy : ∀ (b : Backend) (db : Bool) (rs : List Nat), NoneOne (b.copyPosts db rs) := by
    intro b db rs
    unfold copyPosts
    split <;> simp [NoneOne, Post.isOne]
  have hdelete : ∀ (b : Backend) (rs : List Nat), NoneOne (b.deletePosts rs) := by
    intro b rs
    simp [NoneOne, deletePosts, Post.isOne]
  unfold signalPosts
  split
  · cases s with
    | getMembersDone result => simp [NoneOne]
    | statusChanged st => simp [NoneOne]
    | contactsAdded cs =>
      dsimp only
      unfold addedPosts
      dsimp only
      split <;> split <;> simp [NoneOne, Post.isOne]
    | contactsRemoved cs =>
      dsimp only
      unfold removedPosts
      dsimp only
      split
      · simp [NoneOne]
      · exact hdelete _ _
    | avatarDataChanged c =>
      dsimp only
      unfold avatarDataPosts
      split
      · split <;> simp [NoneOne, Post.isOne]
      · simp [NoneOne]
    | _ cs => exact hcopy _ _ _
  · simp [NoneOne]

theorem noneOne_signalsPosts (b : Backend) (ss : List Signal) : NoneOne (b.signalsPosts ss) := by
  induction ss generalizing b with
  | nil => intro p hp; cases hp
  | cons s ss ih =>
    intro p hp
    rcases List.mem_append.mp hp with hp | hp
    · exact noneOne_signalPosts b s p hp
    · exact ih _ p hp

theorem noneQueues_phase3Posts (b : Backend) (p : Phase3) : NoneQueues (b.phase3Posts p) := by
  unfold phase3Posts
  split
  · split
    · unfold renamedPosts
      split
      · simp [NoneQueues]
      · dsimp only
        split
        · simp [NoneQueues, mergePosts, deletePosts, Post.queues]
        · simp [NoneQueues]
    · simp [NoneQueues]
  · split <;> simp [NoneQueues, Post.queues]
  · simp [NoneQueues]

theorem noneOne_phase3Posts (b : Backend) (p : Phase3) : NoneOne (b.phase3Posts p) := by
  unfold phase3Posts
  split
  · split
    · unfold renamedPosts
      split
      · simp [NoneOne]
      · dsimp only
        split
        · simp [NoneOne, mergePosts, deletePosts, Post.isOne]
        · simp [NoneOne]
    · simp [NoneOne]
  · split <;> simp [NoneOne, Post.isOne]
  · simp [NoneOne]

/-- A request has whoever waits told first, so nobody waits when it posts its own. -/
theorem notifiesOwn_settled (b : Backend) {ps : List Posting} (hps : NoneQueues ps) :
    AllAlong Outbox.carry Outbox.NotifiesOwn b.out (b.settlePost :: ps) := by
  refine ⟨fun r r' he => (by cases he), Outbox.notifiesOwn_along ?_ hps⟩
  show (Outbox.flushDbUpdates _ _).contactsRemotelyChanged = ∅
  rw [Outbox.flushDbUpdates_changed, Outbox.notifyRemotelyUpdatedContactsAndComplete_eq]
  rfl

/-- **No event calls `notify_updated_contact` for one of two contacts with the same uid.** -/
theorem notifiesOwn_posts (b : Backend) (e : Event) :
    AllAlong Outbox.carry Outbox.NotifiesOwn b.out (b.posts e) := by
  have hnone : ∀ {ps : List Posting}, NoneOne ps →
      AllAlong Outbox.carry Outbox.NotifiesOwn b.out ps := by
    intro ps hps
    refine allAlong_of_forall (fun p hp o r r' he => ?_) b.out
    have hone := hps p hp
    rw [he] at hone
    cases hone
  cases e with
  | createContact ec => exact notifiesOwn_settled b (noneQueues_runCreatePosts _ ec)
  | modifyContact ec => exact notifiesOwn_settled b (noneQueues_modifyPosts _ ec)
  | removeContact id => exact notifiesOwn_settled b (noneQueues_removePosts _ id)
  | cl e =>
    refine hnone ?_
    unfold posts
    dsimp only
    split
    · exact noneOne_signalsPosts _ _
    · simp [NoneOne]
  | phase2 =>
    refine hnone ?_
    unfold posts
    dsimp only
    split
    · unfold phase2Posts
      dsimp only
      split <;> simp [NoneOne, deletePosts, Post.isOne]
    · simp [NoneOne]
  | phase3Next order =>
    refine hnone ?_
    unfold posts
    dsimp only
    split
    · exact noneOne_phase3Posts b _
    · simp [NoneOne]
  | avatarDataSaved i ok =>
    refine hnone ?_
    unfold posts
    dsimp only
    split
    · split <;> simp [NoneOne, Post.isOne]
    · simp [NoneOne]
  | phase0 => exact hnone (by simp [posts, NoneOne, Post.isOne])
  | phase3 order => exact hnone (by simp [posts, NoneOne])
  | updateContactsIdle => exact hnone (by simp [posts, NoneOne, Post.isOne])
  | startView id => exact hnone (by simp [posts, NoneOne, Post.isOne])
  | stopView id => exact hnone (by simp [posts, NoneOne, Post.isOne])
  | inactivity on => exact hnone (by simp [posts, NoneOne, Post.isOne])
  | getContact => exact hnone (by simp [posts, NoneOne, Post.isOne])

/-- The law holds in every state. -/
theorem pending_reachable {pathSuffix vcardField : String} {db : Db} {b : Backend}
    (h : ReachableFrom pathSuffix vcardField db b) : b.out.Pending := by
  obtain ⟨is, his⟩ := h
  refine Machine.run_inv (I := fun b : Backend => b.out.Pending) (fun b i b' hb hs => ?_) his
    (Outbox.pending_of_empty rfl)
  have hload : (b.load i.env).out.Pending := hb.of_same rfl rfl rfl
  rw [take_out hs]
  exact foldl_inv (I := Outbox.Pending) (fun _ p h => Outbox.pending_carry h p) _ hload

end Backend

end EdsTelepathy
