import EdsTelepathy.Proof.Changes
import EdsTelepathy.Proof.Leftover
import EdsTelepathy.Proof.Pending

/-!
# The keys of the two queues

Both queues are keyed by the uid of the contact. A contact never gets another uid, so an
entry that was made under the right key stays there, whatever happens to the contact: a
flush reads every contact at the address that was queued, and finds it under the uid that
it was queued with.
-/

namespace EdsTelepathy

namespace Outbox

/-- The entries of both queues are addresses below `n`, under the uids given. -/
structure Keyed (n : Nat) (uid : Nat → String) (o : Outbox) : Prop where
  changed : ∀ k r, o.contactsRemotelyChanged.lookup k = some r → r < n ∧ uid r = k
  toUpdate : ∀ k r, o.contactsToUpdateInDb.lookup k = some r → r < n ∧ uid r = k

/-- A post that sees these uids, and queues nobody else. -/
structure Fits (n : Nat) (uid : Nat → String) (p : Posting) : Prop where
  heap : ∀ r < n, (p.heap r).uid = uid r
  queue : ∀ rs db, p.post = .queue rs db → ∀ r ∈ rs, r < n

/-- The queues are keyed by the uids that the post sees. -/
def KeyedAt (o : Outbox) (p : Posting) : Prop :=
  ∀ k r, o.contactsRemotelyChanged.lookup k = some r ∨ o.contactsToUpdateInDb.lookup k = some r →
    (p.heap r).uid = k

/-- Nobody is in the queues of `o'` who is not in those of `o`. -/
structure Fewer (o o' : Outbox) : Prop where
  changed : ∀ k r, o'.contactsRemotelyChanged.lookup k = some r →
    o.contactsRemotelyChanged.lookup k = some r
  toUpdate : ∀ k r, o'.contactsToUpdateInDb.lookup k = some r →
    o.contactsToUpdateInDb.lookup k = some r

theorem Fewer.of_same {o o' : Outbox} (h : o'.contactsRemotelyChanged = o.contactsRemotelyChanged)
    (h' : o'.contactsToUpdateInDb = o.contactsToUpdateInDb) : Fewer o o' :=
  ⟨fun k r hr => by rwa [h] at hr, fun k r hr => by rwa [h'] at hr⟩

theorem Fewer.trans {o o' o'' : Outbox} (h : Fewer o o') (h' : Fewer o' o'') : Fewer o o'' :=
  ⟨fun k r hr => h.changed k r (h'.changed k r hr),
    fun k r hr => h.toUpdate k r (h'.toUpdate k r hr)⟩

theorem Fewer.keyed {o o' : Outbox} {n : Nat} {uid : Nat → String} (h : Fewer o o')
    (hk : o.Keyed n uid) : o'.Keyed n uid :=
  ⟨fun k r hr => hk.changed k r (h.changed k r hr),
    fun k r hr => hk.toUpdate k r (h.toUpdate k r hr)⟩

theorem fewer_settled (o : Outbox) (ns : List Notice) : Fewer o (o.tell ns).settled :=
  ⟨fun _ _ hr => (by cases hr), fun _ _ hr => hr⟩

theorem fewer_flush (heap : Nat → Contact) (o : Outbox) : Fewer o (o.flushDbUpdates heap) := by
  obtain ⟨_, _, heq⟩ := flushDbUpdates_eq heap o
  rw [heq]
  exact ⟨fun _ _ hr => hr, fun k r hr => by cases hr⟩

theorem fewer_notifyRemote (heap : Nat → Contact) (o : Outbox) :
    Fewer o (o.notifyRemotelyUpdatedContactsAndComplete heap) := by
  rw [notifyRemotelyUpdatedContactsAndComplete_eq]
  exact fewer_settled o _

/-- Only `update_contacts` puts anybody into the queues. -/
theorem fewer_carry {o : Outbox} {p : Posting} (hp : p.post.queues = false) :
    Fewer o (o.carry p) := by
  obtain ⟨heap, post⟩ := p
  cases post with
  | queue rs updateDb => cases hp
  | notifyRemote => exact fewer_notifyRemote heap o
  | settle => exact (fewer_notifyRemote heap o).trans (fewer_flush heap _)
  | notifyOne r =>
    show Fewer o (o.notifyUpdatedContact heap r)
    rw [notifyUpdatedContact_eq]
    split
    · exact .of_same rfl rfl
    · exact fewer_settled o _
  | flush => exact fewer_flush heap o
  | write f =>
    obtain ⟨db, heq⟩ := transaction_eq o f
    show Fewer o (o.transaction f).2
    rw [heq]
    exact .of_same rfl rfl
  | merged r =>
    unfold carry
    dsimp only
    split <;> exact .of_same rfl rfl
  | delete uids =>
    show Fewer o (announceRemoval heap _ uids)
    obtain ⟨_, _, heq⟩ := announceRemoval_eq heap { o with
      contactsRemotelyChanged := uids.foldl (fun t u => t.erase u) o.contactsRemotelyChanged
      contactsToUpdateInDb := uids.foldl (fun t u => t.erase u) o.contactsToUpdateInDb } uids
    rw [heq]
    -- the removals are announced after the queues have been told, and these are empty then
    exact ⟨fun _ _ hr => (by cases hr), fun _ _ hr => (by cases hr)⟩
  | idle =>
    show Fewer o (updateContactsIdleCb heap o)
    unfold updateContactsIdleCb
    dsimp only
    have hflush : ∀ o' : Outbox, Fewer o' { o'.flushDbUpdates heap with updateScheduled := false } :=
      fun o' => (fewer_flush heap o').trans (.of_same rfl rfl)
    split
    · exact (fewer_notifyRemote heap o).trans (hflush _)
    · exact hflush o
  | inactivity on =>
    show Fewer o (o.setInactivityStatus heap on)
    unfold setInactivityStatus
    split
    · exact .of_same rfl rfl
    · dsimp only
      split
      · have hflag : Fewer o { o with systemInactive := on } := .of_same rfl rfl
        exact hflag.trans (fewer_notifyRemote heap _)
      · exact .of_same rfl rfl
  | addView id told => exact .of_same rfl rfl
  | dropView id => exact .of_same rfl rfl
  | populate told => exact .of_same rfl rfl

theorem Keyed.queueContact {o : Outbox} {n : Nat} {uid : Nat → String} {heap : Nat → Contact}
    (h : o.Keyed n uid) (updateDb : Bool) {r : Nat} (hr : r < n) (hu : (heap r).uid = uid r) :
    (queueContact heap updateDb o r).Keyed n uid := by
  have hinsert : ∀ {t : Table String Nat},
      (∀ k r, t.lookup k = some r → r < n ∧ uid r = k) →
      ∀ k r', (t.insert (heap r).uid r).lookup k = some r' → r' < n ∧ uid r' = k := by
    intro t ht k r' hl
    rcases Table.lookup_insert_eq_some.mp hl with ⟨rfl, rfl⟩ | ⟨-, hold⟩
    · exact ⟨hr, hu.symm⟩
    · exact ht k r' hold
  have hmark : ∀ {x : Outbox}, x.Keyed n uid →
      Keyed n uid (if updateDb && (x.contactsToUpdateInDb.lookup (heap r).uid).isNone then
        { x with contactsToUpdateInDb := x.contactsToUpdateInDb.insert (heap r).uid r } else x) := by
    intro x h'
    split
    · exact ⟨h'.changed, hinsert h'.toUpdate⟩
    · exact h'
  unfold Outbox.queueContact
  dsimp only
  split
  · exact hmark h
  · exact hmark (x := { o with
      contactsRemotelyChanged := o.contactsRemotelyChanged.insert (heap r).uid r })
      ⟨hinsert h.changed, h.toUpdate⟩

/-- **A post that fits keeps the keys.** -/
theorem Keyed.carry {o : Outbox} {n : Nat} {uid : Nat → String} {p : Posting} (h : o.Keyed n uid)
    (hp : Fits n uid p) : (o.carry p).Keyed n uid := by
  by_cases hq : p.post.queues = true
  · obtain ⟨heap, post⟩ := p
    cases post with
    | queue rs updateDb =>
      have hfold : ∀ (rs : List Nat) {o : Outbox}, (∀ r ∈ rs, r < n) → o.Keyed n uid →
          (rs.foldl (Outbox.queueContact heap updateDb) o).Keyed n uid := by
        intro rs
        induction rs with
        | nil => exact fun _ h => h
        | cons r rs ih =>
          intro o hrs h
          have hr := hrs r List.mem_cons_self
          exact ih (fun r' hr' => hrs r' (List.mem_cons_of_mem r hr'))
            (h.queueContact updateDb hr (hp.heap r hr))
      have hall := hfold rs (hp.queue rs updateDb rfl) h
      exact ⟨hall.changed, hall.toUpdate⟩
    | _ => cases hq
  · exact (fewer_carry (by simpa using hq)).keyed h

theorem Keyed.at {o : Outbox} {n : Nat} {uid : Nat → String} {p : Posting} (h : o.Keyed n uid)
    (hp : Fits n uid p) : o.KeyedAt p := by
  rintro k r (hr | hr)
  · obtain ⟨hlt, hu⟩ := h.changed k r hr
    exact (hp.heap r hlt).trans hu
  · obtain ⟨hlt, hu⟩ := h.toUpdate k r hr
    exact (hp.heap r hlt).trans hu

theorem Keyed.along {o : Outbox} {n : Nat} {uid : Nat → String} {ps : List Posting}
    (h : o.Keyed n uid) (hps : ∀ p ∈ ps, Fits n uid p) :
    AllAlong Outbox.carry KeyedAt o ps ∧ (ps.foldl Outbox.carry o).Keyed n uid := by
  induction ps generalizing o with
  | nil => exact ⟨trivial, h⟩
  | cons p ps ih =>
    have hp := hps p List.mem_cons_self
    obtain ⟨h1, h2⟩ := ih (h.carry hp) fun q hq => hps q (List.mem_cons_of_mem p hq)
    exact ⟨⟨h.at hp, h1⟩, h2⟩

/-- Contacts that join later, and changes that leave the uids alone, do not matter. -/
theorem Keyed.later {o : Outbox} {n m : Nat} {uid uid' : Nat → String} (h : o.Keyed n uid)
    (hle : n ≤ m) (hu : ∀ r < n, uid' r = uid r) : o.Keyed m uid' where
  changed := fun k r hr =>
    have ⟨hlt, hk⟩ := h.changed k r hr
    ⟨Nat.lt_of_lt_of_le hlt hle, (hu r hlt).trans hk⟩
  toUpdate := fun k r hr =>
    have ⟨hlt, hk⟩ := h.toUpdate k r hr
    ⟨Nat.lt_of_lt_of_le hlt hle, (hu r hlt).trans hk⟩

end Outbox

namespace Backend

/-- The queues are keyed by the uids of the contact objects. -/
def QueuesKeyed (b : Backend) : Prop :=
  b.out.Keyed b.book.next fun r => (b.book.contacts r).uid

/-- The post fits the contact objects. -/
def Fits (b : Backend) (p : Posting) : Prop :=
  Outbox.Fits b.book.next (fun r => (b.book.contacts r).uid) p

/-- The posts of a handler that fit the contact objects it leaves. -/
theorem QueuesKeyed.step {b b' : Backend} {ps : List Posting} (h : b.QueuesKeyed)
    (hle : b.book.next ≤ b'.book.next)
    (hu : ∀ r < b.book.next, (b'.book.contacts r).uid = (b.book.contacts r).uid)
    (hps : ∀ p ∈ ps, b'.Fits p) (hout : b'.out = ps.foldl Outbox.carry b.out) :
    b'.QueuesKeyed ∧ AllAlong Outbox.carry Outbox.KeyedAt b.out ps := by
  obtain ⟨halong, hend⟩ := (Outbox.Keyed.later h hle hu).along hps
  exact ⟨by unfold QueuesKeyed; rw [hout]; exact hend, halong⟩

/-- A post that queues nobody, made with the contact objects as the handler leaves them. -/
theorem fits_of_heap {b : Backend} {p : Posting} (hq : p.post.queues = false)
    (hheap : ∀ r, (p.heap r).uid = (b.book.contacts r).uid) : b.Fits p where
  heap := fun r _ => hheap r
  queue := fun rs db he => by rw [he] at hq; cases hq

/-! ## Signals -/

theorem uid_modify {b : Book} {r : Nat} {f : Contact → Contact}
    (hf : ∀ c : Contact, (f c).uid = c.uid) (x : Nat) :
    ((b.modify r f).contacts x).uid = (b.contacts x).uid := by
  by_cases he : x = r
  · subst he
    rw [Book.modify_contacts_self, hf]
  · rw [Book.modify_contacts_of_ne he]

/-- Whoever `tp_cl_contacts_added` is to update is a contact object. -/
theorem toUpdate_lt (pathSuffix : String) (cs : List Contact) {s : Book × Book.AddedArrays}
    (h : s.1.Allocated) (hs : ∀ r ∈ s.2.toUpdate, r < s.1.next) :
    ∀ r ∈ (cs.foldl (Book.contactAddedInto pathSuffix) s).2.toUpdate,
      r < (cs.foldl (Book.contactAddedInto pathSuffix) s).1.next := by
  induction cs generalizing s with
  | nil => exact hs
  | cons c cs ih =>
    refine ih (Book.allocated_contactAdded h pathSuffix c) fun r hr => ?_
    have hle : s.1.next ≤ (s.1.contactAdded pathSuffix c).next :=
      Book.next_apply s.1 (.contactAdded pathSuffix c)
    unfold Book.contactAddedInto at hr ⊢
    dsimp only at hr ⊢
    split at hr
    · rename_i r' hl
      rcases List.mem_append.mp hr with hr | hr
      · exact Nat.lt_of_lt_of_le (hs r hr) hle
      · rw [List.mem_singleton] at hr
        subst hr
        exact Nat.lt_of_lt_of_le (h.name _ _ hl) hle
    · rename_i hl
      rcases List.mem_append.mp hr with hr | hr
      · exact Nat.lt_of_lt_of_le (hs r hr) hle
      · rw [List.mem_singleton] at hr
        subst hr
        unfold Book.contactAdded
        rw [hl]
        exact Nat.lt_succ_self _

/-- Whoever `tp_cl_avatar_tokens_changed_cb` is to update is in the handle table. -/
theorem avatarTokens_lt {files : List String} (cs : List Contact) {s : Book × List Nat}
    (h : Table.All (· < s.1.next) s.1.handleToContact) (hs : ∀ r ∈ s.2, r < s.1.next) :
    ∀ r ∈ (cs.foldl (Book.avatarTokenInto files) s).2, r < s.1.next := by
  induction cs generalizing s with
  | nil => exact hs
  | cons c cs ih =>
    have hsame : (s.1.mergeByHandle Contact.avatarTokenFrom c).next = s.1.next
        ∧ (s.1.mergeByHandle Contact.avatarTokenFrom c).handleToContact
          = s.1.handleToContact := by
      unfold Book.mergeByHandle
      split <;> exact ⟨rfl, rfl⟩
    have hstep := ih (s := Book.avatarTokenInto files s c) ?_ ?_
    · intro r hr
      have hr' := hstep r hr
      unfold Book.avatarTokenInto at hr'
      rwa [hsame.1] at hr'
    · unfold Book.avatarTokenInto
      dsimp only
      rw [hsame.1, hsame.2]
      exact h
    · intro r hr
      unfold Book.avatarTokenInto at hr ⊢
      dsimp only at hr ⊢
      rw [hsame.1]
      split at hr
      · rename_i r' hl
        split at hr
        · exact hs r hr
        · rcases List.mem_append.mp hr with hr | hr
          · exact hs r hr
          · rw [List.mem_singleton] at hr
            subst hr
            exact h _ _ hl
      · exact hs r hr

theorem byHandle_lt {b : Book} (h : b.Allocated) {cs : List Contact} {r : Nat}
    (hr : r ∈ b.byHandle cs) : r < b.next := by
  obtain ⟨c, -, hl⟩ := List.mem_filterMap.mp hr
  exact h.handle _ _ hl

theorem fits_copyPosts {b : Backend} {db : Bool} {rs : List Nat} (hrs : ∀ r ∈ rs, r < b.book.next) :
    ∀ p ∈ b.copyPosts db rs, b.Fits p := by
  unfold copyPosts
  split
  · simp
  · intro p hp
    rw [List.mem_singleton] at hp
    subst hp
    refine ⟨fun _ _ => rfl, fun rs' db' he r hr => ?_⟩
    cases he
    exact hrs r hr

theorem next_mergeByHandle (f : Contact → Contact → Contact) (cs : List Contact) (b : Book) :
    (cs.foldl (Book.mergeByHandle f) b).next = b.next := by
  refine foldl_inv (I := fun b' : Book => b'.next = b.next) (fun b' c h => ?_) cs rfl
  unfold Book.mergeByHandle
  split <;> exact h

/-- The posts of a signal fit the contact objects as its handler leaves them. -/
theorem fits_signalPosts {b : Backend} (h : b.book.Allocated) (s : Signal) :
    ∀ p ∈ b.signalPosts s, (b.onSignal s).Fits p := by
  -- a handler that copies by handle posts the contacts it found, and allocates none
  have hcopy : ∀ (f : Contact → Contact → Contact) (db : Bool) (cs : List Contact),
      ∀ p ∈ (b.mergeByHandle f db cs).copyPosts db (b.book.byHandle cs),
        (b.mergeByHandle f db cs).Fits p := by
    intro f db cs
    refine fits_copyPosts fun r hr => ?_
    show r < (cs.foldl (Book.mergeByHandle f) b.book).next
    rw [next_mergeByHandle]
    exact byHandle_lt h hr
  unfold signalPosts onSignal
  by_cases hm : b.membersReady = true
  · rw [if_pos hm]
    cases s with
    | getMembersDone result => simp
    | statusChanged st => simp
    | contactsAdded cs =>
      dsimp only
      rw [if_pos hm]
      -- the array grows in the loop; all that is in it was allocated by then
      have hupdate := toUpdate_lt b.pathSuffix cs (s := (b.book, {})) h
        (fun r hr => by cases hr)
      intro p hp
      have hcases : p.heap = (b.tpClContactsAdded cs).book.contacts ∧
          ∀ rs db, p.post = .queue rs db →
            rs = (cs.foldl (Book.contactAddedInto b.pathSuffix) (b.book, {})).2.toUpdate := by
        unfold addedPosts at hp
        dsimp only at hp
        simp only [List.mem_cons, List.mem_append] at hp
        rcases hp with rfl | (hp | hp) | rfl | hp
        · exact ⟨rfl, fun _ _ he => by cases he⟩
        · split at hp
          · cases hp
          · rw [List.mem_singleton] at hp
            subst hp
            exact ⟨rfl, fun _ _ he => by cases he⟩
        · split at hp
          · cases hp
          · rw [List.mem_singleton] at hp
            subst hp
            exact ⟨rfl, fun _ _ he => by cases he; rfl⟩
        · exact ⟨rfl, fun _ _ he => by cases he⟩
        · cases hp
      refine ⟨fun r _ => by rw [hcases.1], fun rs db he r hr => ?_⟩
      rw [hcases.2 rs db he] at hr
      exact hupdate r hr
    | contactsRemoved cs =>
      dsimp only
      rw [if_pos hm]
      unfold removedPosts tpClContactsRemoved
      dsimp only
      split
      · simp
      · intro p hp
        unfold deletePosts at hp
        rw [List.mem_singleton] at hp
        subst hp
        -- the uid is cleared with the entries, but the objects stay as they are
        refine fits_of_heap rfl fun r => ?_
        unfold deleteContacts
        dsimp only
        rw [Book.foldl_deleteContact_contacts]
    | avatarTokensChanged cs =>
      dsimp only
      rw [if_pos hm]
      refine fits_copyPosts fun r hr => ?_
      show r < (cs.foldl (Book.avatarTokenInto b.avatarFiles) (b.book, [])).1.next
      rw [fst_foldl_avatarTokenInto, next_mergeByHandle]
      exact avatarTokens_lt (s := (b.book, [])) cs h.handle (by simp) r hr
    | avatarDataChanged c =>
      dsimp only
      rw [if_pos hm]
      unfold avatarDataPosts tpClAvatarDataChangedCb
      cases hl : b.book.handleToContact.lookup c.handle with
      | none => simp
      | some r =>
        dsimp only
        intro p hp
        split at hp
        · rw [List.mem_singleton] at hp
          subst hp
          refine ⟨fun x _ => ?_, fun rs db he x hx => ?_⟩
          · exact (uid_modify (f := c.avatarDataFrom)
              (fun c' => (Carried.sameEntry .avatarData c c').uid) x).symm
          · cases he
            rw [List.mem_singleton] at hx
            subst hx
            exact h.handle _ _ hl
        · cases hp
    | flagsChanged cs =>
      dsimp only
      rw [if_pos hm]
      exact hcopy _ _ cs
    | aliasesChanged cs =>
      dsimp only
      rw [if_pos hm]
      exact hcopy _ _ cs
    | presencesChanged cs =>
      dsimp only
      rw [if_pos hm]
      exact hcopy _ _ cs
    | capabilitiesChanged cs =>
      dsimp only
      rw [if_pos hm]
      exact hcopy _ _ cs
    | contactInfoChanged cs =>
      dsimp only
      rw [if_pos hm]
      exact hcopy _ _ cs
  · rw [if_neg hm]
    simp

/-- What the handler of a signal leaves of the book: more addresses, and the uids. -/
theorem book_onSignal {b : Backend} (h : b.book.Allocated) {s : Signal}
    (hs : ∀ c ∈ s.contacts, c.Plain) :
    (b.onSignal s).book.Allocated ∧ b.book.next ≤ (b.onSignal s).book.next
      ∧ ∀ r < b.book.next, ((b.onSignal s).book.contacts r).uid = (b.book.contacts r).uid := by
  rw [onSignal_book]
  have hproper : AllAlong Book.apply (fun book ed => ed.Proper book ∧ ¬ Edit.Staged ed) b.book
      (b.signalEdits s) :=
    (proper_signal b hs).and
      (allAlong_of_forall (fun ed hed _ hst => not_mem_signalEdits b s hst hed) b.book)
  refine AllAlong.foldl_inv (I := fun book : Book => book.Allocated ∧ b.book.next ≤ book.next
    ∧ ∀ r < b.book.next, (book.contacts r).uid = (b.book.contacts r).uid)
    (fun book ed hI hP => ⟨?_, ?_, fun r hr => ?_⟩) hproper ⟨h, Nat.le_refl _, fun _ _ => rfl⟩
  · exact Book.allocated_apply hI.1 hP.1 fun r c he => absurd (by rw [he]; trivial) hP.2
  · exact Nat.le_trans hI.2.1 (Book.next_apply book ed)
  · exact (Book.becomes_apply hP.1 (Nat.lt_of_lt_of_le hr hI.2.1)).uid.trans (hI.2.2 r hr)

theorem keyed_signals {b : Backend} (halloc : b.book.Allocated) (h : b.QueuesKeyed)
    {ss : List Signal} (hs : ∀ s ∈ ss, ∀ c ∈ s.contacts, c.Plain) :
    (ss.foldl onSignal b).QueuesKeyed
      ∧ AllAlong Outbox.carry Outbox.KeyedAt b.out (b.signalsPosts ss) := by
  induction ss generalizing b with
  | nil => exact ⟨h, trivial⟩
  | cons s ss ih =>
    obtain ⟨halloc', hle, hu⟩ := book_onSignal halloc (hs s List.mem_cons_self)
    obtain ⟨h1, h2⟩ := h.step hle hu (fits_signalPosts halloc s) (onSignal_out b s)
    obtain ⟨h3, h4⟩ := ih halloc' h1 fun s' h' => hs s' (List.mem_cons_of_mem s h')
    refine ⟨h3, h2.append ?_⟩
    rw [← onSignal_out]
    exact h4

/-! ## The other events -/

/-- The contact objects that the posts see have the uids of those there were. -/
def SeeUids (b : Backend) (ps : List Posting) : Prop :=
  ∀ p ∈ ps, ∀ r < b.book.next, (p.heap r).uid = (b.book.contacts r).uid

theorem seeUids_nil (b : Backend) : b.SeeUids [] := fun p hp => by cases hp

theorem SeeUids.cons {b : Backend} {p : Posting} {ps : List Posting} (h : b.SeeUids ps)
    (hp : ∀ r < b.book.next, (p.heap r).uid = (b.book.contacts r).uid) : b.SeeUids (p :: ps) := by
  intro q hq
  rcases List.mem_cons.mp hq with rfl | hq
  · exact hp
  · exact h q hq

theorem SeeUids.append {b : Backend} {ps qs : List Posting} (h : b.SeeUids ps)
    (h' : b.SeeUids qs) : b.SeeUids (ps ++ qs) := by
  intro p hp
  rcases List.mem_append.mp hp with hp | hp
  · exact h p hp
  · exact h' p hp

theorem SeeUids.of_modify {b b' : Backend} {ps : List Posting} (h : b'.SeeUids ps)
    (hnext : b'.book.next = b.book.next)
    (hu : ∀ r, (b'.book.contacts r).uid = (b.book.contacts r).uid) : b.SeeUids ps := by
  intro p hp r hr
  exact (h p hp r (by rw [hnext]; exact hr)).trans (hu r)

theorem uid_runUpdateContact (b : Backend) (r x : Nat) :
    ((b.runUpdateContact r).2.book.contacts x).uid = (b.book.contacts x).uid := by
  rw [runUpdateContact_book]
  exact uid_modify (fun c => (Contact.touch_keeps (.updated (b.unblocks r)) c).1) x

theorem seeUids_enterPosts (b : Backend) (c : Contact) : b.SeeUids (b.enterPosts c) := by
  unfold enterPosts
  split
  · rename_i r _
    have hu : ∀ x, (((b.modify r fun e => e.mergeSubmitted c).runUpdateContact r).2.book.contacts
        x).uid = (b.book.contacts x).uid := fun x =>
      (uid_runUpdateContact _ r x).trans
        (uid_modify (fun e => (Contact.mergeSubmitted_keeps e c).1) x)
    generalize (b.modify r fun e => e.mergeSubmitted c).runUpdateContact r = q at hu
    obtain ⟨_ | _, b₁⟩ := q
    · exact seeUids_nil b
    · exact ((seeUids_nil b).cons fun x _ => hu x).cons fun x _ => hu x
  · dsimp only
    split
    · refine (seeUids_nil b).cons fun x hx => ?_
      have heq : (b.book.createContact c).contacts x = b.book.contacts x :=
        Book.createContact_contacts_of_ne (Nat.ne_of_lt hx)
      show ((b.book.createContact c).contacts x).uid = _
      rw [heq]
    · exact seeUids_nil b

theorem seeUids_runCreatePosts (b : Backend) (ec : Contact.EVCard) :
    b.SeeUids (b.runCreatePosts ec) := by
  unfold runCreatePosts
  split
  · exact seeUids_nil b
  · dsimp only
    split
    · split
      · exact seeUids_enterPosts _ _
      · exact seeUids_nil b
    · exact seeUids_enterPosts _ _

theorem seeUids_storePosts (b : Backend) (r : Nat) {f : Contact → Contact}
    (hf : ∀ c : Contact, (f c).uid = c.uid) : b.SeeUids (b.storePosts r f) := by
  refine ((seeUids_nil b).cons fun x _ => ?_).cons fun _ _ => rfl
  show ((if (b.dbUpdateContact r).1 then b.modify r f else b).book.contacts x).uid = _
  split
  · exact uid_modify hf x
  · rfl

theorem uid_sendFlags (b : Backend) (r x : Nat) :
    ((b.sendFlags r).book.contacts x).uid = (b.book.contacts x).uid := by
  rw [sendFlags_book]
  split
  · exact uid_modify (f := Contact.flagsAsked) (fun _ => rfl) x
  · rfl

theorem next_sendFlags (b : Backend) (r : Nat) : (b.sendFlags r).book.next = b.book.next := by
  rw [sendFlags_book]
  split <;> rfl

theorem seeUids_modifyPosts (b : Backend) (ec : Contact.EVCard) : b.SeeUids (b.modifyPosts ec) := by
  unfold modifyPosts
  split
  · exact seeUids_nil b
  · rename_i r _
    dsimp only
    split
    · have hstore := seeUids_storePosts
        (((b.modify r fun c => (c.updateFromEcontact ec b.vcardField).2).sendFlags r).scheduleUpdate
          r) r (f := Contact.bookkeepingDone) fun _ => rfl
      refine hstore.of_modify (next_sendFlags _ r) fun x => ?_
      exact (uid_sendFlags _ r x).trans
        (uid_modify (fun c => (Contact.decoded_updateFromEcontact c ec b.vcardField).uid) x)
    · exact seeUids_nil b

theorem seeUids_deletePosts (b : Backend) (rs : List Nat) : b.SeeUids (b.deletePosts rs) :=
  (seeUids_nil b).cons fun _ _ => rfl

theorem uid_requestRemoval (b : Backend) (r x : Nat) :
    ((b.requestRemoval r).book.contacts x).uid = (b.book.contacts x).uid := by
  have hscheduled : ∀ b' : Backend,
      ((b'.scheduleRemoval r).book.contacts x).uid = (b'.book.contacts x).uid :=
    fun b' => uid_modify (b := b'.book) (f := Contact.markDelete) (fun _ => rfl) x
  unfold requestRemoval
  split
  · unfold deleteContacts
    dsimp only
    rw [Book.foldl_deleteContact_contacts]
  · split
    · split
      · rfl
      · exact hscheduled _
    · exact hscheduled b

theorem seeUids_removePosts (b : Backend) (id : String) : b.SeeUids (b.removePosts id) := by
  unfold removePosts
  split
  · exact seeUids_nil b
  · split
    · exact seeUids_nil b
    · rename_i tokens _ _ r _
      have hu := uid_modify (b := b.book) (r := r) (f := fun c => (c.removeTokens tokens).1)
        fun c => (Contact.removeTokens_keeps c tokens).1
      have hcleared : ∀ b' : Backend, ∀ x,
          ((b'.modify r Contact.nothingPending).book.contacts x).uid = (b'.book.contacts x).uid :=
        fun b' => uid_modify (b := b'.book) (f := Contact.nothingPending) fun _ => rfl
      unfold removeFoundPosts
      dsimp only
      split
      · refine .append ?_ ((seeUids_nil b).cons fun x _ => ?_)
        · split
          · refine (seeUids_deletePosts _ _).of_modify rfl fun x => ?_
            exact (hcleared _ x).trans (hu x)
          · exact seeUids_nil b
        · exact (uid_requestRemoval _ r x).trans ((hcleared _ x).trans (hu x))
      · split
        · exact (seeUids_storePosts _ r (f := Contact.masterUidsStored) fun _ => rfl).of_modify
            rfl hu
        · exact seeUids_nil b

theorem seeUids_phase3Posts (b : Backend) (p : Phase3) : b.SeeUids (b.phase3Posts p) := by
  unfold phase3Posts
  split
  · rename_i r todo _ _
    have hasked := asked_runAddContact b (b.book.contacts r)
    split
    · rename_i c w heq
      rw [heq] at hasked
      have hu : ∀ x, ((b.modify r fun _ => c.clearAdd).book.contacts x).uid
          = (b.book.contacts x).uid := by
        intro x
        show ((b.book.modify r fun _ => c.clearAdd).contacts x).uid = _
        by_cases he : x = r
        · subst he
          rw [Book.modify_contacts_self]
          exact hasked.uid
        · rw [Book.modify_contacts_of_ne he]
      unfold renamedPosts
      split
      · exact seeUids_nil b
      · dsimp only
        split
        · rename_i dest _
          have hmerge : ∀ b' : Backend, ∀ src x,
              ((b'.modify dest fun d => d.mergeFrom (b'.book.contacts src)).book.contacts x).uid
                = (b'.book.contacts x).uid := fun b' src =>
            uid_modify fun d => (Contact.mergeFrom_keeps d (b'.book.contacts src)).1
          unfold mergePosts
          refine .cons ?_ fun x _ => (hmerge _ r x).trans (hu x)
          exact (seeUids_deletePosts _ _).of_modify rfl fun x => (hmerge _ r x).trans (hu x)
        · exact seeUids_nil b
    · exact seeUids_nil b
  · split
    · exact seeUids_nil b
    · exact (seeUids_nil b).cons fun _ _ => rfl
  · exact seeUids_nil b

/-! ## Images that are being written -/

/-- The images that are being written are of contact objects. -/
def SavesAllocated (b : Backend) : Prop := ∀ r ∈ b.avatarSaves, r < b.book.next

theorem saves_createContact (b : Backend) (ec : Contact.EVCard) :
    (b.createContact ec).avatarSaves = b.avatarSaves := by
  have henter : ∀ (b : Backend) (c : Contact), (b.enterCreated c).2.avatarSaves = b.avatarSaves := by
    intro b c
    unfold enterCreated createExisting createNew runUpdateContact
    split
    · dsimp only
      split
      · rename_i heq
        obtain ⟨-, rfl⟩ := Prod.mk.inj heq
        rfl
      · rename_i heq
        obtain ⟨-, rfl⟩ := Prod.mk.inj heq
        rfl
    · dsimp only
      split <;> rfl
  unfold createContact
  cases hcandidate : b.flush.candidate ec with
  | none =>
    obtain ⟨w, hrun⟩ := runCreateContact_stopped hcandidate
    rw [hrun]
    rfl
  | some c =>
    obtain ⟨-, w, hrun⟩ := runCreateContact_candidate hcandidate
    rw [hrun, henter]
    rfl

theorem saves_storeModification (b : Backend) (r : Nat) :
    (b.storeModification r).avatarSaves = b.avatarSaves := by
  unfold storeModification dbUpdateContact
  dsimp only
  split
  · rename_i heq
    obtain ⟨-, rfl⟩ := Prod.mk.inj heq
    rfl
  · rename_i heq
    obtain ⟨-, rfl⟩ := Prod.mk.inj heq
    rfl

theorem saves_modifyContact (b : Backend) (ec : Contact.EVCard) :
    (b.modifyContact ec).avatarSaves = b.avatarSaves := by
  have hsend : ∀ (b : Backend) (r : Nat), (b.sendFlags r).avatarSaves = b.avatarSaves := by
    intro b r
    unfold sendFlags
    split
    · split <;> rfl
    · rfl
  unfold modifyContact
  dsimp only
  split
  · rfl
  · split
    · exact (saves_storeModification _ _).trans (hsend _ _)
    · rfl

theorem saves_removeContact (b : Backend) (id : String) :
    (b.removeContact id).avatarSaves = b.avatarSaves := by
  unfold removeContact
  dsimp only
  split
  · rfl
  · split
    · rfl
    · split
      · unfold reallyRemove requestRemoval dbUpdateContact
        dsimp only
        split
        · rfl
        · split
          · split <;> rfl
          · rfl
      · unfold removeMasterUids dbUpdateContact
        dsimp only
        split
        · split
          · rename_i heq
            obtain ⟨-, rfl⟩ := Prod.mk.inj heq
            rfl
          · rename_i heq
            obtain ⟨-, rfl⟩ := Prod.mk.inj heq
            rfl
        · rfl

theorem SyncOnly.saves {b b' : Backend} (h : SyncOnly b b') : b'.avatarSaves = b.avatarSaves := by
  obtain ⟨_, _, _, _, -, rfl⟩ := h
  rfl

theorem saves_stepPhase3 {b b' : Backend} {p : Phase3} {order : List Nat}
    (h : b.stepPhase3 p order = some b') : b'.avatarSaves = b.avatarSaves := by
  cases stepPhase3_turn h with
  | update _ _ =>
    unfold phase3Update runUpdateContact
    dsimp only
    split
    · rename_i heq
      obtain ⟨-, rfl⟩ := Prod.mk.inj heq
      rfl
    · rename_i heq
      obtain ⟨-, rfl⟩ := Prod.mk.inj heq
      rfl
  | add _ _ =>
    unfold phase3Add phase3Added phase3Renamed
    split
    · dsimp only
      split
      · rfl
      · split <;> rfl
    · rfl
  | delete _ _ =>
    unfold phase3Delete
    split <;> rfl
  | snapshot _ _ _ => rfl
  | ended _ => exact (syncOnly_finishOnlineInitialization _).saves

theorem saves_onSignal (b : Backend) {s : Signal} {r : Nat}
    (hr : r ∈ (b.onSignal s).avatarSaves) :
    r ∈ b.avatarSaves ∨ ∃ h, b.book.handleToContact.lookup h = some r := by
  have hite : ∀ {x : Backend}, x.avatarSaves = b.avatarSaves →
      r ∈ (if b.membersReady then x else b).avatarSaves → r ∈ b.avatarSaves := by
    intro x he hr
    split at hr
    · rwa [he] at hr
    · exact hr
  cases s with
  | getMembersDone result =>
    cases result with
    | none =>
      have he : (b.onSignal (.getMembersDone none)).avatarSaves = b.avatarSaves :=
        (syncOnly_finishOnlineInitialization b).saves
      rw [he] at hr
      exact .inl hr
    | some cs => exact .inl hr
  | statusChanged st =>
    cases st with
    | online => exact .inl (hite (syncOnly_syncPhase1 b).saves hr)
    | offline => exact .inl (hite (x := b.tpClStatusChangedCb .offline) rfl hr)
  | contactsRemoved cs =>
    refine .inl (hite ?_ hr)
    unfold tpClContactsRemoved
    dsimp only
    split <;> rfl
  | avatarDataChanged c =>
    unfold onSignal at hr
    dsimp only at hr
    split at hr
    · unfold tpClAvatarDataChangedCb at hr
      split at hr
      · rename_i r' hl
        rcases List.mem_append.mp hr with hr | hr
        · exact .inl hr
        · rw [List.mem_singleton] at hr
          subst hr
          exact .inr ⟨_, hl⟩
      · exact .inl hr
    · exact .inl hr
  | contactsAdded cs => exact .inl (hite (x := b.tpClContactsAdded cs) rfl hr)
  | flagsChanged cs => exact .inl (hite (x := b.tpClFlagsChanged cs) rfl hr)
  | aliasesChanged cs => exact .inl (hite (x := b.tpClAliasesChangedCb cs) rfl hr)
  | presencesChanged cs => exact .inl (hite (x := b.tpClPresenceChangedCb cs) rfl hr)
  | avatarTokensChanged cs => exact .inl (hite (x := b.tpClAvatarTokensChangedCb cs) rfl hr)
  | capabilitiesChanged cs => exact .inl (hite (x := b.tpClCapabilitiesChangedCb cs) rfl hr)
  | contactInfoChanged cs => exact .inl (hite (x := b.tpClContactInfoChangedCb cs) rfl hr)

theorem savesAllocated_signals {b : Backend} (halloc : b.book.Allocated) (h : b.SavesAllocated)
    {ss : List Signal} (hs : ∀ s ∈ ss, ∀ c ∈ s.contacts, c.Plain) :
    (ss.foldl onSignal b).SavesAllocated := by
  induction ss generalizing b with
  | nil => exact h
  | cons s ss ih =>
    obtain ⟨halloc', hle, -⟩ := book_onSignal halloc (hs s List.mem_cons_self)
    refine ih halloc' (fun r hr => ?_) fun s' h' => hs s' (List.mem_cons_of_mem s h')
    rcases saves_onSignal b hr with hold | ⟨x, hx⟩
    · exact Nat.lt_of_lt_of_le (h r hold) hle
    · exact Nat.lt_of_lt_of_le (halloc.handle x r hx) hle

/-! ## Runs -/

theorem savesAllocated_take {b b' : Backend} {e : Event} (h : Sane b) (hsaves : b.SavesAllocated)
    (hs : b.take e = some b') : b'.SavesAllocated := by
  have hle := next_take h hs
  have hsame : b'.avatarSaves = b.avatarSaves → b'.SavesAllocated := by
    intro he r hr
    rw [he] at hr
    exact Nat.lt_of_lt_of_le (hsaves r hr) hle
  cases take_taken hs with
  | @cl _ cl signals hstep =>
    have hplain : ∀ s ∈ signals, ∀ c ∈ s.contacts, c.Plain := (Cl.plain_step h.plain hstep).2
    exact savesAllocated_signals (b := { b with tpcl := cl }) h.allocated hsaves hplain
  | phase0 _ =>
    refine hsame ?_
    unfold syncPhase0IdleCb
    obtain ⟨views, hsync⟩ := tpReadyCb_spec
      { b with
        book := b.out.db.fetchContacts.foldl Book.importContact b.book
        phase0Queued := false }
    exact hsync.saves
  | phase2 _ =>
    refine hsame ?_
    unfold syncPhase2IdleCb
    dsimp only
    split <;> rfl
  | phase3 _ _ =>
    refine hsame ?_
    unfold beginPhase3
    split
    · rfl
    · exact (syncOnly_finishOnlineInitialization _).saves
  | phase3Next _ hstep =>
    have hstep3 := saves_stepPhase3 hstep
    exact hsame hstep3
  | createContact ec => exact hsame (saves_createContact b ec)
  | modifyContact ec => exact hsame (saves_modifyContact b ec)
  | removeContact id => exact hsame (saves_removeContact b id)
  | updateContactsIdle => exact hsaves
  | startView id => exact hsaves
  | stopView id => exact hsaves
  | inactivity on => exact hsaves
  | @avatarDataSaved i r ok _ =>
    intro x hx
    have hx' : x ∈ b.avatarSaves.eraseIdx i := by
      unfold avatarDataSavedCb at hx
      split at hx <;> exact hx
    have hmem : x ∈ b.avatarSaves := List.mem_of_mem_eraseIdx hx'
    exact Nat.lt_of_lt_of_le (hsaves x hmem) hle
  | getContact => exact hsaves

/-- Posts that queue nobody and see the uids that there were. -/
theorem keyed_posts {b b' : Backend} {e : Event} (h : Sane b) (hk : b.QueuesKeyed)
    (hs : b.take e = some b') (hps : ∀ p ∈ b.posts e, b.Fits p) :
    b'.QueuesKeyed ∧ AllAlong Outbox.carry Outbox.KeyedAt b.out (b.posts e) := by
  obtain ⟨halong, hend⟩ := Outbox.Keyed.along hk hps
  rw [← take_out hs] at hend
  exact ⟨Outbox.Keyed.later hend (next_take h hs) fun r hr => (becomes_take h hs hr).uid, halong⟩

theorem SeeUids.fits {b : Backend} {ps : List Posting} (h : b.SeeUids ps) (hq : NoneQueues ps) :
    ∀ p ∈ ps, b.Fits p := fun p hp =>
  ⟨h p hp, fun rs db he => by have := hq p hp; rw [he] at this; cases this⟩

/-- **Every event keeps the keys.** -/
theorem keyed_take {b b' : Backend} {e : Event} (h : Sane b) (hsaves : b.SavesAllocated)
    (hk : b.QueuesKeyed) (hs : b.take e = some b') :
    b'.QueuesKeyed ∧ AllAlong Outbox.carry Outbox.KeyedAt b.out (b.posts e) := by
  -- what reads the contacts as they are now fits, unless it queues some
  have hhere : ∀ {post : Post}, post.queues = false → ∀ p ∈ [(⟨b.book.contacts, post⟩ : Posting)],
      b.Fits p := by
    intro post hq p hp
    rw [List.mem_singleton] at hp
    subst hp
    exact fits_of_heap hq fun _ => rfl
  have hrequest : ∀ {ps : List Posting}, b.flush.SeeUids ps → NoneQueues ps →
      ∀ p ∈ b.settlePost :: ps, b.Fits p := by
    intro ps hps hq p hp
    rcases List.mem_cons.mp hp with rfl | hp
    · exact fits_of_heap rfl fun _ => rfl
    · exact SeeUids.fits (b := b) hps hq p hp
  cases e with
  | cl e =>
    cases take_taken hs with
    | @cl _ cl signals hstep =>
      have hsignals := keyed_signals (b := { b with tpcl := cl }) h.allocated hk
        (Cl.plain_step h.plain hstep).2
      refine ⟨hsignals.1, ?_⟩
      unfold posts
      dsimp only
      rw [hstep]
      exact hsignals.2
  | createContact ec =>
    exact keyed_posts h hk hs (hrequest (seeUids_runCreatePosts _ ec) (noneQueues_runCreatePosts _ ec))
  | modifyContact ec =>
    exact keyed_posts h hk hs (hrequest (seeUids_modifyPosts _ ec) (noneQueues_modifyPosts _ ec))
  | removeContact id =>
    exact keyed_posts h hk hs (hrequest (seeUids_removePosts _ id) (noneQueues_removePosts _ id))
  | phase0 =>
    refine keyed_posts h hk hs fun p hp => ?_
    unfold posts at hp
    rw [List.mem_singleton] at hp
    subst hp
    -- the import allocates, so the objects of before keep their uids
    have hbook : b'.book = b.out.db.fetchContacts.foldl Book.importContact b.book := by
      rw [take_book hs]
      exact List.foldl_map ..
    refine ⟨fun r hr => ?_, fun rs db he => by cases he⟩
    show ((b.out.db.fetchContacts.foldl Book.importContact b.book).contacts r).uid = _
    rw [← hbook]
    exact (becomes_take h hs hr).uid
  | phase2 =>
    refine keyed_posts h hk hs ?_
    unfold posts
    dsimp only
    split
    · unfold phase2Posts
      dsimp only
      intro p hp
      rcases List.mem_cons.mp hp with rfl | hp
      · exact fits_of_heap rfl fun _ => rfl
      · rcases List.mem_cons.mp hp with rfl | hp
        · exact fits_of_heap rfl fun _ => rfl
        · split at hp
          · cases hp
          · exact hhere rfl p hp
    · simp
  | phase3 order => exact keyed_posts h hk hs (by simp [posts])
  | phase3Next order =>
    refine keyed_posts h hk hs ?_
    unfold posts
    dsimp only
    split
    · refine (seeUids_phase3Posts b _).fits ?_
      exact noneQueues_phase3Posts b _
    · simp
  | updateContactsIdle => exact keyed_posts h hk hs (hhere rfl)
  | startView id =>
    refine keyed_posts h hk hs fun p hp => ?_
    rcases List.mem_cons.mp hp with rfl | hp
    · exact fits_of_heap rfl fun _ => rfl
    · exact hhere rfl p hp
  | stopView id =>
    refine keyed_posts h hk hs fun p hp => ?_
    rcases List.mem_cons.mp hp with rfl | hp
    · exact fits_of_heap rfl fun _ => rfl
    · exact hhere rfl p hp
  | inactivity on => exact keyed_posts h hk hs (hhere rfl)
  | avatarDataSaved i ok =>
    refine keyed_posts h hk hs ?_
    unfold posts
    dsimp only
    split
    · rename_i r hr
      split
      · intro p hp
        rw [List.mem_singleton] at hp
        subst hp
        -- an image that is being written is of an object that was allocated
        refine ⟨fun _ _ => rfl, fun rs db he x hx => ?_⟩
        cases he
        rw [List.mem_singleton] at hx
        subst hx
        exact hsaves _ (List.mem_of_getElem? hr)
      · simp
    · simp
  | getContact => exact keyed_posts h hk hs (hhere rfl)

/-- What every state has, besides being sane: keyed queues. -/
structure Queued (b : Backend) : Prop where
  sane : Sane b
  saves : b.SavesAllocated
  keyed : b.QueuesKeyed

theorem queued_boot (pathSuffix vcardField : String) (db : Db) :
    Queued (boot pathSuffix vcardField db) where
  sane := sane_boot pathSuffix vcardField db
  saves := fun r hr => by cases hr
  keyed := ⟨fun _ _ hr => (by cases hr), fun _ _ hr => (by cases hr)⟩

theorem queued_step {b b' : Backend} {i : Input} (h : Queued b) (hs : machine.step b i = some b') :
    Queued b' := by
  have hload : Sane (b.load i.env) := h.sane.load i.env
  exact ⟨sane_take hload hs, savesAllocated_take hload h.saves hs,
    (keyed_take hload h.saves ⟨h.keyed.changed, h.keyed.toUpdate⟩ hs).1⟩

theorem queued_reachable {pathSuffix vcardField : String} {db : Db} {b : Backend}
    (h : ReachableFrom pathSuffix vcardField db b) : Queued b := by
  obtain ⟨is, hrun⟩ := h
  exact Machine.run_inv (fun _ _ _ hI hs => queued_step hI hs) hrun
    (queued_boot pathSuffix vcardField db)

end Backend

end EdsTelepathy
