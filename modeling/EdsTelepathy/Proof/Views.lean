import EdsTelepathy.Proof.Connection
import EdsTelepathy.Proof.Keyed
import EdsTelepathy.Proof.Pending

/-!
# What the views hear

Whatever the backend tells, it tells all views, and closes with `notify_complete_all_views` before
the callback returns. So from the moment two views run both hear the same, one batch after the
other, whenever they were started. And a view that is sent its population misses nothing and hears
nothing twice: the contacts that wait to be told were told just before, and before the members are
ready none waits, which is what the `g_critical` of `notify_all_contacts_updated_for_view` is about.
-/

namespace EdsTelepathy

/-- The view after it was told some more. -/
def View.hear (ns : List Notice) (v : View) : View := { v with told := v.told ++ ns }

/-- Views that are told nothing are as before. -/
theorem map_hear_nil (vs : List View) : vs.map (View.hear []) = vs := by
  refine List.map_id'' ?_ vs
  intro v
  unfold View.hear
  rw [List.append_nil]

theorem View.hear_hear (ns ms : List Notice) : View.hear ms ∘ View.hear ns = View.hear (ns ++ ms) := by
  funext v
  unfold hear
  simp

/-- Nothing, or a list of notices that ends with `e_data_book_view_notify_complete`. -/
def Closed (ns : List Notice) : Prop := ns = [] ∨ ∃ ms, ns = ms ++ [.complete]

theorem Closed.append {ns ms : List Notice} (h : Closed ns) (h' : Closed ms) : Closed (ns ++ ms) := by
  rcases h' with rfl | ⟨ks, rfl⟩
  · rw [List.append_nil]
    exact h
  · exact .inr ⟨ns ++ ks, (List.append_assoc ..).symm⟩

theorem closed_complete (ns : List Notice) : Closed (ns ++ [.complete]) := .inr ⟨ns, rfl⟩

/--
What happens to the views: some are stopped, those that stay hear one closed list of notices, and
those that are added have heard a closed list.
-/
inductive Hears (vs : List View) : List View → Prop where
  | mk (kept added : List View) (heard : List Notice) :
      kept.Sublist vs → Closed heard → (∀ v ∈ added, Closed v.told) →
      Hears vs (kept.map (View.hear heard) ++ added)

namespace Hears

theorem told {vs : List View} {ns : List Notice} (h : Closed ns) : Hears vs (vs.map (View.hear ns)) := by
  have hmk := mk vs [] ns (List.Sublist.refl vs) h (fun v hv => by cases hv)
  rw [List.append_nil] at hmk
  exact hmk

theorem refl (vs : List View) : Hears vs vs := by
  have htold : Hears vs (vs.map (View.hear [])) := told (.inl rfl)
  rw [map_hear_nil] at htold
  exact htold

theorem trans {vs ws us : List View} (h : Hears vs ws) (h' : Hears ws us) : Hears vs us := by
  obtain ⟨kept, added, heard, hkept, hheard, hadded⟩ := h
  obtain ⟨kept', added', heard', hkept', hheard', hadded'⟩ := h'
  obtain ⟨stayed, recent, rfl, hstayed, hrecent⟩ := List.sublist_append_iff.mp hkept'
  obtain ⟨both, hboth, rfl⟩ := List.sublist_map_iff.mp hstayed
  rw [List.map_append, List.map_map, View.hear_hear, List.append_assoc]
  refine mk both _ (heard ++ heard') (hboth.trans hkept) (hheard.append hheard') ?_
  intro v hv
  rcases List.mem_append.mp hv with hold | hnew
  · -- a view that was added meanwhile hears the rest
    obtain ⟨w, hw, rfl⟩ := List.mem_map.mp hold
    exact (hadded w (hrecent.subset hw)).append hheard'
  · exact hadded' v hnew

end Hears

/-- Whether the post sends a population. -/
def Post.populates : Post → Bool
  | addView _ _ => true
  | populate _ => true
  | _ => false

namespace Outbox

theorem closed_completeNews (heap : Nat → Contact) (o : Outbox) : Closed (o.completeNews heap) := by
  unfold completeNews
  split
  · exact .inl rfl
  · exact closed_complete _

theorem flushDbUpdates_views (heap : Nat → Contact) (o : Outbox) :
    (o.flushDbUpdates heap).views = o.views := by
  obtain ⟨db, sql, heq⟩ := flushDbUpdates_eq heap o
  rw [heq]

theorem hears_notifyRemote (heap : Nat → Contact) (o : Outbox) :
    Hears o.views (o.notifyRemotelyUpdatedContactsAndComplete heap).views := by
  rw [notifyRemotelyUpdatedContactsAndComplete_eq]
  exact .told (closed_completeNews heap o)

/-- A post that sends a population sends a closed one. -/
def SendsClosed (p : Posting) : Prop :=
  match p.post with
  | .addView _ told => Closed told
  | .populate told => Closed told
  | _ => True

/-- **Every post is heard by all views alike.** -/
theorem hears_carry (o : Outbox) {p : Posting} (hp : SendsClosed p) :
    Hears o.views (o.carry p).views := by
  obtain ⟨heap, post⟩ := p
  cases post with
  | queue rs updateDb =>
    have hviews : (o.updateContacts heap rs updateDb).views = o.views := by
      show (rs.foldl (queueContact heap updateDb) o).views = o.views
      refine foldl_inv (I := fun o' : Outbox => o'.views = o.views) ?_ rs rfl
      intro o' r h
      unfold queueContact
      dsimp only
      split <;> split <;> exact h
    show Hears o.views (o.updateContacts heap rs updateDb).views
    rw [hviews]
    exact .refl _
  | notifyRemote => exact hears_notifyRemote heap o
  | settle =>
    show Hears o.views (flushDbUpdates heap _).views
    rw [flushDbUpdates_views]
    exact hears_notifyRemote heap o
  | notifyOne r =>
    show Hears o.views (o.notifyUpdatedContact heap r).views
    rw [notifyUpdatedContact_eq]
    split
    · exact .refl _
    · dsimp only
      rw [List.append_cons]
      exact .told (closed_complete _)
  | flush =>
    show Hears o.views (o.flushDbUpdates heap).views
    rw [flushDbUpdates_views]
    exact .refl _
  | write f =>
    obtain ⟨db, heq⟩ := transaction_eq o f
    show Hears o.views (o.transaction f).2.views
    rw [heq]
    exact .refl _
  | merged r =>
    show Hears o.views (if o.views = [] then o
      else (o.notify (.update (heap r))).notifyCompleteAllViews).views
    split
    · exact .refl _
    · rw [notifyCompleteAllViews_eq, notify_eq, tell_tell]
      exact .told (closed_complete [.update (heap r)])
  | delete uids =>
    show Hears o.views (Outbox.announceRemoval heap { o with
      contactsRemotelyChanged := uids.foldl (fun t u => t.erase u) o.contactsRemotelyChanged
      contactsToUpdateInDb := uids.foldl (fun t u => t.erase u) o.contactsToUpdateInDb } uids).views
    obtain ⟨db, sql, heq⟩ := announceRemoval_eq heap { o with
      contactsRemotelyChanged := uids.foldl (fun t u => t.erase u) o.contactsRemotelyChanged
      contactsToUpdateInDb := uids.foldl (fun t u => t.erase u) o.contactsToUpdateInDb } uids
    rw [heq]
    exact .told (closed_complete _)
  | idle =>
    show Hears o.views (flushDbUpdates heap _).views
    rw [flushDbUpdates_views]
    split
    · exact hears_notifyRemote heap o
    · exact .refl _
  | inactivity on =>
    show Hears o.views (o.setInactivityStatus heap on).views
    unfold setInactivityStatus
    split
    · exact .refl _
    · dsimp only
      split
      · exact hears_notifyRemote heap { o with systemInactive := on }
      · exact .refl _
  | addView id told =>
    have hmk : Hears o.views (o.views.map (View.hear []) ++ [{ id := id, told := told }]) :=
      .mk o.views [{ id := id, told := told }] [] (List.Sublist.refl _) (.inl rfl) (fun v hv => by rw [List.mem_singleton.mp hv]; exact hp)
    rw [map_hear_nil] at hmk
    exact hmk
  | dropView id =>
    have hmk : Hears o.views ((o.views.eraseP fun v => v.id = id).map (View.hear []) ++ []) :=
      .mk _ [] [] List.eraseP_sublist (.inl rfl) (fun v hv => by cases hv)
    rw [map_hear_nil, List.append_nil] at hmk
    exact hmk
  | populate told => exact .told hp

theorem hears_posts {ps : List Posting} (hps : ∀ p ∈ ps, SendsClosed p) (o : Outbox) :
    Hears o.views (ps.foldl carry o).views := by
  induction ps generalizing o with
  | nil => exact .refl _
  | cons p ps ih =>
    rw [List.foldl_cons]
    exact (hears_carry o (hps p List.mem_cons_self)).trans
      (ih (fun q hq => hps q (List.mem_cons_of_mem p hq)) _)

end Outbox

namespace Backend

/-- None of the posts sends a population. -/
def NonePopulates (ps : List Posting) : Prop := ∀ p ∈ ps, p.post.populates = false

theorem nonePopulates_nil : NonePopulates [] := fun p hp => by cases hp

theorem nonePopulates_storePosts (b : Backend) (r : Nat) (settle : Contact → Contact) :
    NonePopulates (b.storePosts r settle) := by
  simp [NonePopulates, storePosts, updatePost, Post.populates]

theorem nonePopulates_deletePosts (b : Backend) (rs : List Nat) : NonePopulates (b.deletePosts rs) := by
  simp [NonePopulates, deletePosts, Post.populates]

theorem nonePopulates_enterPosts (b : Backend) (c : Contact) : NonePopulates (b.enterPosts c) := by
  unfold enterPosts
  split
  · split
    · simp [NonePopulates, updatePost, Post.populates]
    · exact nonePopulates_nil
  · dsimp only
    split
    · simp [NonePopulates, Post.populates]
    · exact nonePopulates_nil

theorem nonePopulates_runCreatePosts (b : Backend) (ec : Contact.EVCard) :
    NonePopulates (b.runCreatePosts ec) := by
  unfold runCreatePosts
  split
  · exact nonePopulates_nil
  · dsimp only
    split
    · split
      · exact nonePopulates_enterPosts _ _
      · exact nonePopulates_nil
    · exact nonePopulates_enterPosts _ _

theorem nonePopulates_modifyPosts (b : Backend) (ec : Contact.EVCard) :
    NonePopulates (b.modifyPosts ec) := by
  unfold modifyPosts
  split
  · exact nonePopulates_nil
  · dsimp only
    split
    · exact nonePopulates_storePosts _ _ _
    · exact nonePopulates_nil

theorem nonePopulates_removePosts (b : Backend) (id : String) : NonePopulates (b.removePosts id) := by
  unfold removePosts
  split
  · exact nonePopulates_nil
  · split
    · exact nonePopulates_nil
    · unfold removeFoundPosts
      dsimp only
      split
      · split <;> simp [NonePopulates, deletePosts, updatePost, Post.populates]
      · split
        · exact nonePopulates_storePosts _ _ _
        · exact nonePopulates_nil

theorem nonePopulates_phase3Posts (b : Backend) (p : Phase3) : NonePopulates (b.phase3Posts p) := by
  unfold phase3Posts
  split
  · split
    · unfold renamedPosts
      split
      · exact nonePopulates_nil
      · dsimp only
        split
        · simp [NonePopulates, mergePosts, deletePosts, Post.populates]
        · exact nonePopulates_nil
    · exact nonePopulates_nil
  · split <;> simp [NonePopulates, Post.populates]
  · exact nonePopulates_nil

theorem nonePopulates_signalPosts (b : Backend) (s : Signal) : NonePopulates (b.signalPosts s) := by
  have hcopy : ∀ (b : Backend) (db : Bool) (rs : List Nat), NonePopulates (b.copyPosts db rs) := by
    intro b db rs
    unfold copyPosts
    split <;> simp [NonePopulates, Post.populates]
  unfold signalPosts
  split
  · cases s with
    | getMembersDone result => exact nonePopulates_nil
    | statusChanged st => exact nonePopulates_nil
    | contactsAdded cs =>
      dsimp only
      unfold addedPosts
      dsimp only
      split <;> split <;> simp [NonePopulates, Post.populates]
    | contactsRemoved cs =>
      dsimp only
      unfold removedPosts
      dsimp only
      split
      · exact nonePopulates_nil
      · exact nonePopulates_deletePosts _ _
    | avatarDataChanged c =>
      dsimp only
      unfold avatarDataPosts
      split
      · split <;> simp [NonePopulates, Post.populates]
      · exact nonePopulates_nil
    | _ cs => exact hcopy _ _ _
  · exact nonePopulates_nil

theorem nonePopulates_signalsPosts (b : Backend) (ss : List Signal) :
    NonePopulates (b.signalsPosts ss) := by
  induction ss generalizing b with
  | nil => exact nonePopulates_nil
  | cons s ss ih =>
    intro p hp
    rcases List.mem_append.mp hp with hp | hp
    · exact nonePopulates_signalPosts b s p hp
    · exact ih _ p hp

/-- Whether the event is the import, or a view that starts. -/
def Event.populates : Event → Bool
  | .phase0 => true
  | .startView _ => true
  | _ => false

/-- Populations are sent when the members are ready, and to views that start. -/
theorem nonePopulates_posts (b : Backend) {e : Event} (he : e.populates = false) :
    NonePopulates (b.posts e) := by
  have hrequest : ∀ {ps : List Posting}, NonePopulates ps → NonePopulates (b.settlePost :: ps) := by
    intro ps hps p hp
    rcases List.mem_cons.mp hp with rfl | hrest
    · rfl
    · exact hps p hrest
  cases e with
  | phase0 => cases he
  | startView id => cases he
  | createContact ec => exact hrequest (nonePopulates_runCreatePosts _ ec)
  | modifyContact ec => exact hrequest (nonePopulates_modifyPosts _ ec)
  | removeContact id => exact hrequest (nonePopulates_removePosts _ id)
  | cl e =>
    unfold posts
    dsimp only
    split
    · exact nonePopulates_signalsPosts _ _
    · exact nonePopulates_nil
  | phase2 =>
    unfold posts
    dsimp only
    split
    · unfold phase2Posts
      dsimp only
      split <;> simp [NonePopulates, deletePosts, Post.populates]
    · exact nonePopulates_nil
  | phase3Next order =>
    unfold posts
    dsimp only
    split
    · exact nonePopulates_phase3Posts b _
    · exact nonePopulates_nil
  | avatarDataSaved i ok =>
    unfold posts
    dsimp only
    split
    · split <;> simp [NonePopulates, Post.populates]
    · exact nonePopulates_nil
  | phase3 order => exact nonePopulates_nil
  | updateContactsIdle => simp [posts, NonePopulates, Post.populates]
  | stopView id => simp [posts, NonePopulates, Post.populates]
  | inactivity on => simp [posts, NonePopulates, Post.populates]
  | getContact => simp [posts, NonePopulates, Post.populates]

theorem sendsClosed_posts (b : Backend) (e : Event) : ∀ p ∈ b.posts e, Outbox.SendsClosed p := by
  cases he : e.populates with
  | false =>
    intro p hp
    have hone := nonePopulates_posts b he p hp
    obtain ⟨heap, post⟩ := p
    cases post with
    | addView id told => cases hone
    | populate told => cases hone
    | _ => trivial
  | true =>
    cases e with
    | phase0 =>
      intro p hp
      rw [List.mem_singleton.mp hp]
      exact closed_complete _
    | startView id =>
      intro p hp
      rcases List.mem_cons.mp hp with rfl | hp
      · trivial
      · rw [List.mem_singleton.mp hp]
        show Closed (if b.membersReady then b.population else [])
        split
        · exact closed_complete _
        · exact .inl rfl
    | _ => cases he

/--
**All views hear the same.** In every run, from any state: the views that stay are told one list of
notices, the same for all of them, and the views that are started meanwhile have heard a list of
their own; each of these lists is empty or ends with the notice that it is complete.
-/
theorem views_hear_the_same {b b' : Backend} {is : List Input} (h : machine.run b is = some b') :
    Hears b.out.views b'.out.views := by
  refine Machine.run_inv (I := fun s : Backend => Hears b.out.views s.out.views) ?_ h (.refl _)
  intro s i s' hI hs
  have hout := take_out (b := s.load i.env) hs
  have hstep := Outbox.hears_posts (sendsClosed_posts (s.load i.env) i.event) (s.load i.env).out
  rw [← hout] at hstep
  exact hI.trans hstep

/-! ## Nobody waits when a population is sent -/

/-- Before the members are ready nothing is heard of the roster, and nobody waits to be told. -/
structure Early (b : Backend) : Prop extends Unsynced b where
  changed : b.out.contactsRemotelyChanged = ∅
  saves : b.avatarSaves = []

theorem Early.posts {b b' : Backend} {e : Event} (h : Early b) (hs : b.take e = some b')
    (hps : NoneQueues (b.posts e)) : b'.out.contactsRemotelyChanged = ∅ := by
  rw [take_out hs]
  generalize b.posts e = ps at hps
  have hchanged := h.changed
  generalize b.out = o at hchanged
  induction ps generalizing o with
  | nil => exact hchanged
  | cons p ps ih =>
    exact ih (fun q hq => hps q (List.mem_cons_of_mem p hq)) _
      (Outbox.changed_carry hchanged (hps p List.mem_cons_self))

theorem noneQueues_request {b : Backend} {ps : List Posting} (hps : NoneQueues ps) :
    NoneQueues (b.settlePost :: ps) := by
  intro p hp
  rcases List.mem_cons.mp hp with rfl | hrest
  · rfl
  · exact hps p hrest

theorem early_take {b b' : Backend} {e : Event} (h : Early b) (hm : b.membersReady = false)
    (hs : b.take e = some b') : b'.membersReady = true ∨ Early b' := by
  have hunsynced := unsynced_take h.toUnsynced hm hs
  have hplain : NoneQueues (b.posts e) → b'.avatarSaves = b.avatarSaves →
      b'.membersReady = true ∨ Early b' := by
    intro hps hsaves
    rcases hunsynced with hready | hunsynced'
    · exact .inl hready
    · exact .inr { hunsynced' with changed := h.posts hs hps, saves := hsaves.trans h.saves }
  cases take_taken hs with
  | cl hstep =>
    obtain ⟨heq, hcl⟩ := unsynced_cl h.toUnsynced hm hstep
    rw [heq]
    exact .inr { hcl with changed := h.changed, saves := h.saves }
  | phase0 _ =>
    obtain ⟨views, hsync⟩ := tpReadyCb_spec
      { b with
        book := b.out.db.fetchContacts.foldl Book.importContact b.book
        phase0Queued := false }
    exact .inl hsync.sameAgenda.ready
  | phase2 hq =>
    rw [h.phase2] at hq
    cases hq
  | phase3 hq _ =>
    rw [h.phase3] at hq
    omega
  | phase3Next hp _ =>
    rw [h.running] at hp
    cases hp
  | createContact ec =>
    exact hplain (noneQueues_request (noneQueues_runCreatePosts _ ec)) (saves_createContact b ec)
  | modifyContact ec =>
    exact hplain (noneQueues_request (noneQueues_modifyPosts _ ec)) (saves_modifyContact b ec)
  | removeContact id =>
    exact hplain (noneQueues_request (noneQueues_removePosts _ id)) (saves_removeContact b id)
  | updateContactsIdle => exact hplain (by simp [NoneQueues, posts, Post.queues]) rfl
  | startView id => exact hplain (by simp [NoneQueues, posts, Post.queues]) rfl
  | stopView id => exact hplain (by simp [NoneQueues, posts, Post.queues]) rfl
  | inactivity on => exact hplain (by simp [NoneQueues, posts, Post.queues]) rfl
  | avatarDataSaved ok hr =>
    rw [h.saves] at hr
    cases hr
  | getContact => exact hplain (by simp [NoneQueues, posts, Post.queues]) rfl

/-- Only the import makes the members ready, and it is done once. -/
theorem ready_eq_take {b b' : Backend} {e : Event} (h : b.take e = some b') (he : e ≠ .phase0) :
    b'.membersReady = b.membersReady ∧ b'.phase0Queued = b.phase0Queued := by
  have hsame : SameAgenda b b' → b'.membersReady = b.membersReady ∧ b'.phase0Queued = b.phase0Queued :=
    fun hs => ⟨hs.ready, hs.imported⟩
  cases take_taken h with
  | @cl _ cl signals hstep =>
    have hs := sameAgenda_onSignals { b with tpcl := cl } signals
    exact ⟨hs.ready, hs.imported⟩
  | phase0 _ => exact absurd rfl he
  | phase2 _ =>
    unfold syncPhase2IdleCb
    dsimp only
    split <;> exact ⟨rfl, rfl⟩
  | phase3 _ _ =>
    unfold beginPhase3
    split
    · exact ⟨rfl, rfl⟩
    · have hs := (syncOnly_finishOnlineInitialization
        { b with phase3Queued := b.phase3Queued - 1 }).sameAgenda
      exact ⟨hs.ready, hs.imported⟩
  | phase3Next _ hstep =>
    obtain ⟨_, -, -, -, hqueued, hready, -, -⟩ := advances_stepPhase3 hstep
    exact ⟨hready, hqueued⟩
  | createContact ec => exact hsame (dataOnly_createContact b ec).sameAgenda
  | modifyContact ec => exact hsame (dataOnly_modifyContact b ec).sameAgenda
  | removeContact id => exact hsame (dataOnly_removeContact b id).sameAgenda
  | updateContactsIdle => exact ⟨rfl, rfl⟩
  | startView id => exact ⟨rfl, rfl⟩
  | stopView id => exact ⟨rfl, rfl⟩
  | inactivity on => exact ⟨rfl, rfl⟩
  | @avatarDataSaved i r ok _ =>
    have hs := (dataOnly_avatarDataSaved { b with avatarSaves := b.avatarSaves.eraseIdx i } r ok).sameAgenda
    exact ⟨hs.ready, hs.imported⟩
  | getContact => exact ⟨rfl, rfl⟩

/-- The import is what makes the members ready, and until then it is early. -/
structure Opening (b : Backend) : Prop where
  early : b.membersReady = false → Early b
  unready : b.phase0Queued = true → b.membersReady = false

theorem Early.load {b : Backend} (h : Early b) (env : Env) : Early (b.load env) :=
  { owed := h.owed, phase2 := h.phase2, phase3 := h.phase3, running := h.running,
    changed := h.changed, saves := h.saves }

theorem opening_step {b b' : Backend} {i : Input} (h : Opening b) (hs : b.step i = some b') :
    Opening b' := by
  by_cases hphase0 : i.event = .phase0
  · obtain ⟨event, env⟩ := i
    subst hphase0
    cases take_taken (b := b.load env) hs with
    | phase0 _ =>
      obtain ⟨views, hsync⟩ := tpReadyCb_spec
        { b.load env with
          book := (b.load env).out.db.fetchContacts.foldl Book.importContact (b.load env).book
          phase0Queued := false }
      have hready : (b.load env).syncPhase0IdleCb.membersReady = true := hsync.sameAgenda.ready
      have hqueued : (b.load env).syncPhase0IdleCb.phase0Queued = false := hsync.sameAgenda.imported
      refine ⟨?_, ?_⟩
      · intro hm
        rw [hready] at hm
        cases hm
      · intro hq
        rw [hqueued] at hq
        cases hq
  · obtain ⟨hready, hqueued⟩ := ready_eq_take (b := b.load i.env) hs hphase0
    refine ⟨?_, ?_⟩
    · intro hm
      have hm₀ : b.membersReady = false := hready.symm.trans hm
      refine (early_take (b := b.load i.env) ((h.early hm₀).load i.env) hm₀ hs).resolve_left ?_
      rw [hm]
      exact Bool.false_ne_true
    · intro hq
      rw [hready]
      exact h.unready (hqueued.symm.trans hq)

theorem opening_reachable {pathSuffix vcardField : String} {db : Db} {b : Backend}
    (h : ReachableFrom pathSuffix vcardField db b) : Opening b := by
  obtain ⟨is, hrun⟩ := h
  refine Machine.run_inv (I := Opening) (fun s i s' hI hs => opening_step hI hs) hrun ⟨?_, fun _ => rfl⟩
  exact fun _ => { owed := rfl, phase2 := rfl, phase3 := rfl, running := rfl, changed := rfl, saves := rfl }

/--
**Nobody waits when a population is sent**: whatever happens next, wherever it sends all contacts to
a view or to all views, no contact is left that waits to be told. So the `g_critical` of
`notify_all_contacts_updated_for_view` is never reached.
-/
theorem nothing_pending_when_populated {pathSuffix vcardField : String} {db : Db} {b b' : Backend}
    {i : Input} (h : ReachableFrom pathSuffix vcardField db b) (hs : machine.step b i = some b') :
    AllAlong Outbox.carry (fun o p => p.post.populates = true → o.contactsRemotelyChanged = ∅)
      (b.load i.env).out ((b.load i.env).posts i.event) := by
  have hopening := opening_reachable h
  cases hpop : i.event.populates with
  | false =>
    refine allAlong_of_forall ?_ _
    intro p hp o hyes
    rw [nonePopulates_posts (b.load i.env) hpop p hp] at hyes
    cases hyes
  | true =>
    obtain ⟨event, env⟩ := i
    cases event with
    | phase0 =>
      have htake : (b.load env).take .phase0 = some b' := hs
      cases take_taken htake with
      | phase0 hqueued => exact ⟨fun _ => (hopening.early (hopening.unready hqueued)).changed, trivial⟩
    | startView id =>
      refine ⟨fun hyes => (by cases hyes), fun _ => ?_, trivial⟩
      show ((b.load env).out.notifyRemotelyUpdatedContactsAndComplete _).contactsRemotelyChanged = ∅
      rw [Outbox.notifyRemotelyUpdatedContactsAndComplete_eq]
      rfl
    | _ => cases hpop

/-- The cache holds one contact. -/
def oneRow : Db := { contacts := AList.insert "acct-ann" { name := "ann" } ∅ }

/-- The first view is started before the import and the second after it; then a contact is renamed. -/
def twoViews : List Input :=
  [{ event := .startView 1 }, { event := .phase0 }, { event := .startView 2 },
   { event := .modifyContact [{ name := "UID", values := ["acct-ann"] },
      { name := "X-OSSO-MASTER-UID", values := ["12"] }] }]

/-- Both views hear of the change, the first one after its population. -/
theorem views_hear_the_same_two :
    ∃ b b', machine.run (boot "acct" "X-JABBER" oneRow) (twoViews.take 3) = some b
      ∧ machine.run b (twoViews.drop 3) = some b' ∧ Hears b.out.views b'.out.views
      ∧ b'.out.views.map (fun v => v.told.length) = [4, 4] := by
  have hrun : ((machine.run (boot "acct" "X-JABBER" oneRow) (twoViews.take 3)).bind fun b =>
      (machine.run b (twoViews.drop 3)).map fun b' => b'.out.views.map fun v => v.told.length)
      = some [4, 4] := by decide +kernel
  obtain ⟨b, hb, hrest⟩ := Option.bind_eq_some_iff.mp hrun
  obtain ⟨b', hb', hlengths⟩ := Option.map_eq_some_iff.mp hrest
  exact ⟨b, b', hb, hb', views_hear_the_same hb', hlengths⟩

/-- The import of a contact finds nobody who waits. -/
theorem nothing_pending_when_populated_import :
    ∃ b', machine.step (boot "acct" "X-JABBER" oneRow) { event := .phase0 } = some b'
      ∧ AllAlong Outbox.carry (fun o p => p.post.populates = true → o.contactsRemotelyChanged = ∅)
        ((boot "acct" "X-JABBER" oneRow).load {}).out
        (((boot "acct" "X-JABBER" oneRow).load {}).posts .phase0) :=
  ⟨_, rfl, nothing_pending_when_populated (i := { event := .phase0 }) ⟨[], rfl⟩ rfl⟩

end Backend

end EdsTelepathy
