import EdsTelepathy.Backend.Interrupted
import EdsTelepathy.Proof.Edits
import EdsTelepathy.Proof.Indexes
import EdsTelepathy.Proof.Pending

/-!
# Change notifications and requests that are interrupted

A request that is not interrupted does what it does as one step of the main machine.

The law of the changed contacts is kept by every post, so it is kept by every act, whatever is nested in
what. A request that is not interrupted has the set emptied before it calls `notify_updated_contact`;
one that goes on after a call to the server finds what was queued meanwhile, and takes out what waits
under the uid of its contact. That need not be its contact any more.
-/

namespace EdsTelepathy

namespace Backend

/-! ## Requests that are not interrupted -/

/-- A request that goes on at once after each of its calls, up to its end. -/
inductive Completes : Backend → Option Frame → Backend → Prop where
  | ended {b : Backend} : Completes b none b
  | goesOn {b b' : Backend} {f : Frame} :
      Completes (b.goOn f).1 (b.goOn f).2 b' → Completes b (some f) b'

theorem modify_comp (b : Backend) (r : Nat) (f g : Contact → Contact) :
    (b.modify r f).modify r g = b.modify r fun c => g (f c) := by
  unfold modify
  rw [Book.modify_modify]

theorem modify_id {b : Backend} {r : Nat} {f : Contact → Contact}
    (h : f (b.book.contacts r) = b.book.contacts r) : b.modify r f = b := by
  unfold modify Book.modify
  rw [h, Function.update_eq_self]

theorem flagsAsked_of_not_has {c : Contact} (h : c.pendingFlags.has scheduleUpdateFlags = false) :
    c.flagsAsked = c := by
  unfold Contact.flagsAsked
  rw [BitVec.clear_of_not_has h]

theorem unblockAsked_eq (c : Contact) (unblocked : Bool) :
    c.unblockAsked unblocked
      = if c.pendingFlags.has scheduleUnblock then c.unblockReturned unblocked else c := rfl

/-- What the bus has heard when `run_update_contact` has sent the flags. -/
def flagsWire (b : Backend) (r : Nat) : Wire :=
  if (b.book.contacts r).pendingFlags.has scheduleUpdateFlags then
    (b.tpcl.runUpdateFlags (b.book.contacts r) b.wire).2
  else b.wire

/-- What `run_update_contact` asks about the unblocking, and what the bus has heard then. -/
def unblockAnswer (b : Backend) (r : Nat) (w : Wire) : Bool × Wire :=
  if (b.book.contacts r).pendingFlags.has scheduleUnblock then
    b.tpcl.runUnblockContact (b.book.contacts r) w
  else (false, w)

theorem completes_createUnblock {b x : Backend} {r : Nat} {changed : Bool}
    {ecs : List Contact.EVCard}
    (h : Completes (({ b with wire := (b.unblockAnswer r b.wire).2 }.modify r fun c =>
        c.unblockAsked (b.unblockAnswer r b.wire).1).createUpdated r
          (changed || (b.book.contacts r).pendingFlags.has scheduleUnblock)) (some (.creates ecs)) x) :
    Completes (b.createUnblock r changed ecs).1 (some (b.createUnblock r changed ecs).2) x := by
  unfold createUnblock
  unfold unblockAnswer at h
  cases hu : (b.book.contacts r).pendingFlags.has scheduleUnblock with
  | true =>
    rw [hu, Bool.or_true, if_pos rfl] at h
    rw [if_pos rfl]
    refine .goesOn ?_
    show Completes ((Backend.modify _ r _).createUpdated r true) _ x
    have hmodify : ({ b with wire := (b.tpcl.runUnblockContact (b.book.contacts r) b.wire).2 }.modify r
        fun c => c.unblockAsked (b.tpcl.runUnblockContact (b.book.contacts r) b.wire).1)
        = ({ b with wire := (b.tpcl.runUnblockContact (b.book.contacts r) b.wire).2 }.modify r
        fun c => c.unblockReturned (b.tpcl.runUnblockContact (b.book.contacts r) b.wire).1) := by
      unfold modify Book.modify
      dsimp only
      rw [unblockAsked_eq, if_pos hu]
    rw [hmodify] at h
    exact h
  | false =>
    rw [hu, Bool.or_false, if_neg Bool.false_ne_true, modify_id] at h
    · exact h
    · exact (unblockAsked_eq _ _).trans (if_neg (by rw [hu]; exact Bool.false_ne_true))

/-- Master UIDs and variants are told apart from the flags and the unblocking. -/
theorem asked_has {m : Flags} (hflags : scheduleUpdateFlags &&& m = 0#32)
    (hunblock : scheduleUnblock &&& m = 0#32) (c : Contact) (unblocked : Bool) :
    (c.flagsAsked.unblockAsked unblocked).pendingFlags.has m = c.pendingFlags.has m := by
  have hasked : c.flagsAsked.pendingFlags.has m = c.pendingFlags.has m :=
    BitVec.clear_has_of_disjoint hflags
  rw [unblockAsked_eq]
  split
  · cases unblocked with
    | true => exact (BitVec.clear_has_of_disjoint hunblock).trans hasked
    | false => exact hasked
  · exact hasked

/-- The pieces of `run_update_contact`, put together again. -/
theorem createUpdated_eq (b : Backend) (r : Nat) :
    (({ b with wire := (b.unblockAnswer r (b.flagsWire r)).2 }.modify r fun c =>
        c.flagsAsked.unblockAsked (b.unblockAnswer r (b.flagsWire r)).1).createUpdated r
          ((b.book.contacts r).pendingFlags.has scheduleUpdateFlags
            || (b.book.contacts r).pendingFlags.has scheduleUnblock))
      = match b.runUpdateContact r with
        | (true, b) => (b.dbUpdateContact r).2.notifyUpdatedContact r
        | (false, b) => b := by
  generalize hu : (b.unblockAnswer r (b.flagsWire r)).1 = unblocked
  generalize hw : (b.unblockAnswer r (b.flagsWire r)).2 = w
  have hrun : b.runUpdateContact r = ((b.book.contacts r).needsUpdate,
      { b.modify r (fun c => c.updated unblocked) with wire := w }) := by
    subst hu hw
    rfl
  have hcontact : (({ b with wire := w }.modify r fun c =>
      c.flagsAsked.unblockAsked unblocked).book.contacts r)
      = (b.book.contacts r).flagsAsked.unblockAsked unblocked :=
    Book.modify_contacts_self b.book r fun c => c.flagsAsked.unblockAsked unblocked
  have hupdated : ({ b with wire := w }.modify r fun c => c.flagsAsked.unblockAsked unblocked).modify r
      Contact.bookkeepingDone = { b.modify r (fun c => c.updated unblocked) with wire := w } :=
    modify_comp ..
  unfold createUpdated
  dsimp only
  rw [hrun, hcontact, asked_has (by decide) (by decide), asked_has (by decide) (by decide), hupdated]
  show (if (b.book.contacts r).needsUpdate then _ else _) = _
  cases (b.book.contacts r).needsUpdate <;> rfl

theorem completes_createUpdate {b x : Backend} {r : Nat} {ecs : List Contact.EVCard}
    (h : Completes (match b.runUpdateContact r with
      | (true, b) => (b.dbUpdateContact r).2.notifyUpdatedContact r
      | (false, b) => b) (some (.creates ecs)) x) :
    Completes (b.createUpdate r ecs).1 (some (b.createUpdate r ecs).2) x := by
  rw [← createUpdated_eq] at h
  -- the flags have been sent, if there was something to send
  obtain ⟨sent, hb⟩ : ∃ sent, sent = { b with wire := b.flagsWire r }.modify r Contact.flagsAsked :=
    ⟨_, rfl⟩
  have hsent : Completes (sent.createUnblock r
      ((b.book.contacts r).pendingFlags.has scheduleUpdateFlags) ecs).1
      (some (sent.createUnblock r
        ((b.book.contacts r).pendingFlags.has scheduleUpdateFlags) ecs).2) x := by
    refine completes_createUnblock ?_
    have hcontact : sent.book.contacts r = (b.book.contacts r).flagsAsked := by
      rw [hb]
      exact Book.modify_contacts_self ..
    have hhas : (b.book.contacts r).flagsAsked.pendingFlags.has scheduleUnblock
        = (b.book.contacts r).pendingFlags.has scheduleUnblock :=
      BitVec.clear_has_of_disjoint (by decide)
    have hanswer : sent.unblockAnswer r sent.wire = b.unblockAnswer r (b.flagsWire r) := by
      unfold unblockAnswer
      rw [hcontact, hhas, hb]
      rfl
    have hmodify (w : Wire) (f : Contact → Contact) : { sent with wire := w }.modify r f
        = { b with wire := w }.modify r fun c => f c.flagsAsked := by
      rw [hb]
      exact modify_comp { b with wire := w } r _ f
    rw [hanswer, hmodify, hcontact, hhas]
    exact h
  unfold createUpdate
  unfold flagsWire at hb
  cases hf : (b.book.contacts r).pendingFlags.has scheduleUpdateFlags with
  | true =>
    rw [if_pos rfl]
    rw [hf, hb, hf, if_pos rfl] at hsent
    exact .goesOn hsent
  | false =>
    rw [if_neg Bool.false_ne_true]
    rw [hf, if_neg Bool.false_ne_true, modify_id (flagsAsked_of_not_has hf)] at hb
    rw [hf, hb] at hsent
    exact hsent

theorem completes_createEntered {b x : Backend} {c : Contact} {ecs : List Contact.EVCard}
    (hsome : ∀ r b', b.enterCreated c = (some r, b') → Completes b' (some (.creates ecs)) x)
    (hnone : ∀ b', b.enterCreated c = (none, b') → x = b') :
    Completes (b.createEntered c ecs).1 (b.createEntered c ecs).2 x := by
  unfold enterCreated at hsome hnone
  unfold createEntered
  cases hname : b.book.nameToContact.lookup c.name with
  | some r =>
    rw [hname] at hsome
    exact completes_createUpdate (hsome r _ rfl)
  | none =>
    rw [hname] at hsome hnone
    dsimp only at hsome hnone ⊢
    rcases hnew : b.createNew c with ⟨_ | r, b'⟩
    · rw [hnone b' hnew]
      exact .ended
    · exact hsome r b' hnew

/-- One turn of the loop. -/
theorem completes_create {b x : Backend} {ec : Contact.EVCard} {ecs : List Contact.EVCard}
    (hsome : ∀ r b', ({ b with out := b.out.flushDbUpdates b.book.contacts } : Backend).runCreateContact
      ec = (some r, b') → Completes b' (some (.creates ecs)) x)
    (hnone : ∀ b', ({ b with out := b.out.flushDbUpdates b.book.contacts } : Backend).runCreateContact
      ec = (none, b') → x = b') :
    Completes b (some (.creates (ec :: ecs))) x := by
  refine .goesOn ?_
  show Completes (b.createNext ec ecs).1 (b.createNext ec ecs).2 x
  unfold runCreateContact at hsome hnone
  unfold createNext
  dsimp only at hsome hnone ⊢
  rcases hcard : Contact.new.updateFromEcontact ec b.vcardField with ⟨_ | _, c⟩
  · rw [hcard] at hnone
    rw [hnone _ rfl]
    exact .ended
  · rw [hcard] at hsome hnone
    dsimp only at hsome hnone ⊢
    split
    · rename_i hon
      rw [if_pos hon] at hsome hnone
      rcases hadd : Backend.runAddContact { b with out := b.out.flushDbUpdates b.book.contacts }
        (c.submitted (generateUid b.pathSuffix b.book.uidToContact c.name)) with ⟨_ | _, c', w⟩
      · rw [hadd] at hnone
        rw [hnone _ rfl]
        exact .goesOn .ended
      · rw [hadd] at hsome hnone
        exact .goesOn (completes_createEntered hsome hnone)
    · rename_i hoff
      rw [if_neg hoff] at hsome hnone
      exact completes_createEntered hsome hnone

/-- **A batch of contacts to create that is not interrupted** does what it does as one step. -/
theorem creates_completes (b : Backend) (s : Contact.Surroundings) (vcards : List Contact.EVCard) :
    Completes (b.createsStart vcards).1 (some (b.createsStart vcards).2)
      (b.createContacts s none vcards).2 := by
  have hloop : ∀ (ecs : List Contact.EVCard) (b : Backend) (done : List Contact.EVCard),
      Completes b (some (.creates ecs)) (createLoop (createOne s) b done ecs).2.2 := by
    intro ecs
    induction ecs with
    | nil => exact fun b _ => .goesOn .ended
    | cons ec ecs ih =>
      intro b done
      refine completes_create (fun r b' hrun => ?_) fun b' hrun => ?_
      · have hone : createOne s b ec = (some ((b'.book.contacts r).toEcontact s), b') := by
          unfold createOne
          dsimp only
          rw [hrun]
        unfold createLoop
        rw [hone]
        exact ih b' _
      · have hone : createOne s b ec = (none, b') := by
          unfold createOne
          dsimp only
          rw [hrun]
        unfold createLoop
        rw [hone]
  exact hloop (queueVcards vcards) b.getContact []

/-- **A modification that is not interrupted** does what it does as one step. -/
theorem modifies_completes (b : Backend) (ec : Contact.EVCard) :
    Completes (b.modifyStart ec).1 (b.modifyStart ec).2 (b.modifyContact ec) := by
  unfold modifyStart modifyContact
  dsimp only
  cases (Contact.cardUid ec).bind b.flush.book.uidToContact.lookup with
  | none => exact .ended
  | some r =>
    dsimp only
    generalize b.flush.modify r (fun c => (c.updateFromEcontact ec b.flush.vcardField).2) = b
    split
    · unfold commitModification sendFlags
      split
      · rcases hsent : b.tpcl.runUpdateFlags (b.book.contacts r) b.wire with ⟨ok, w⟩
        refine .goesOn ?_
        cases ok <;> exact .ended
      · exact .ended
    · exact .ended

theorem removeMasterUids_tpcl (b : Backend) (r : Nat) : (b.removeMasterUids r).tpcl = b.tpcl := by
  have htpcl : (b.dbUpdateContact r).2.tpcl = b.tpcl := rfl
  unfold removeMasterUids
  split
  · rcases hdb : b.dbUpdateContact r with ⟨_ | _, b'⟩ <;> rw [hdb] at htpcl <;> exact htpcl
  · rfl

/-- A contact that goes, when the call about it returns at once. -/
theorem completes_removeReally {b x : Backend} {r : Nat} {ids : List String} {locals : RemoveLocals}
    (h : (b.reallyRemove r).tpcl = b.tpcl → Completes (b.reallyRemove r)
      (some (.removes b.tpcl.status ids (locals.gone (b.reallyRemove r) r))) x) :
    Completes (b.removeReally r b.tpcl.status ids locals).1
      (some (b.removeReally r b.tpcl.status ids locals).2) x := by
  unfold reallyRemove at h
  unfold removeReally
  have htpcl : (b.modify r Contact.nothingPending).tpcl = b.tpcl := rfl
  rw [← htpcl] at h ⊢
  generalize b.modify r Contact.nothingPending = b at h
  unfold requestRemoval at h
  dsimp only
  by_cases hinvalid : (b.book.contacts r).flags.has contactInvalid = true
  · rw [if_pos hinvalid] at h ⊢
    exact h rfl
  · rw [if_neg hinvalid] at h ⊢
    by_cases hon : b.tpcl.status = .online
    · rw [if_pos hon] at h ⊢
      refine .goesOn ?_
      rcases hcall : b.tpcl.runRemoveContact (b.book.contacts r) b.wire with ⟨_ | _, w⟩
      · rw [hcall] at h
        exact h rfl
      · rw [hcall] at h
        exact h rfl
    · rw [if_neg hon] at h ⊢
      exact h rfl

/-- One turn of the loop. -/
theorem completes_remove {b x : Backend} {id : String} {ids : List String} {locals : RemoveLocals}
    (h : (removeInto (b, locals) id).1.tpcl = b.tpcl → Completes (removeInto (b, locals) id).1
      (some (.removes b.tpcl.status ids (removeInto (b, locals) id).2)) x) :
    Completes b (some (.removes b.tpcl.status (id :: ids) locals)) x := by
  refine .goesOn ?_
  show Completes (b.removeNext id b.tpcl.status ids locals).1
    (some (b.removeNext id b.tpcl.status ids locals).2) x
  unfold removeInto runRemoveContact at h
  unfold removeNext
  dsimp only at h ⊢
  cases hsplit : splitId id with
  | nil =>
    rw [hsplit] at h
    exact h rfl
  | cons uid tokens =>
    rw [hsplit] at h
    dsimp only at h ⊢
    cases hlook : b.book.uidToContact.lookup uid with
    | none =>
      rw [hlook] at h
      exact h rfl
    | some r =>
      rw [hlook] at h
      dsimp only at h ⊢
      cases hreally : ((b.book.contacts r).removeTokens tokens).2 with
      | true =>
        rw [hreally, if_pos rfl] at h
        exact completes_removeReally (b := Backend.modify _ r _) h
      | false =>
        rw [hreally, if_neg Bool.false_ne_true] at h
        exact h (removeMasterUids_tpcl _ r)

/-- **A batch of contacts to remove that is not interrupted** does what it does as one step. -/
theorem removes_completes (b : Backend) (ids : List String) :
    Completes (b.removesStart ids).1 (some (b.removesStart ids).2) (b.removeContacts none ids).2 := by
  have hloop : ∀ (ids : List String) (b : Backend) (locals : RemoveLocals),
      Completes b (some (.removes b.tpcl.status ids locals))
        (writeRemoved (ids.foldl removeInto (b, locals))) := by
    intro ids
    induction ids with
    | nil => exact fun b locals => .goesOn .ended
    | cons id ids ih =>
      intro b locals
      refine completes_remove fun htpcl => ?_
      rw [List.foldl_cons, ← htpcl]
      exact ih _ _
  exact hloop ids b.flush {}

end Backend

namespace Outbox

/--
`notify_updated_contact` takes out a contact that waits and is visible, and what it tells the views is
about others.
-/
def Overlooks (o : Outbox) (p : Posting) : Prop :=
  ∃ r ∈ p.post.one, ∃ r' ∈ o.contactsRemotelyChanged.lookup (p.heap r).uid,
    o.views ≠ [] ∧ (p.heap r').isVisible = true ∧ .update (p.heap r') ∉
      news p.heap { o with
        contactsRemotelyChanged := o.contactsRemotelyChanged.erase (p.heap r).uid }
          ++ [.update (p.heap r), .complete]

instance (o : Outbox) (p : Posting) : Decidable (o.Overlooks p) :=
  inferInstanceAs (Decidable (∃ r ∈ p.post.one, ∃ r' ∈ o.contactsRemotelyChanged.lookup _, _ ∧ _ ∧ _))

theorem not_overlooks {o : Outbox} {p : Posting} (h : o.LeavesWell p) : ¬ o.Overlooks p := by
  rintro ⟨r, hr, r', hin, hviews, hv, htold⟩
  obtain ⟨heap, post⟩ := p
  obtain rfl : post = .notifyOne r := by
    cases post <;> cases hr
    rfl
  have hcarry : o.carry ⟨heap, .notifyOne r⟩ = o.notifyUpdatedContact heap r := rfl
  rw [notifyUpdatedContact_eq, if_neg hviews] at hcarry
  have hgone : (o.carry ⟨heap, .notifyOne r⟩).contactsRemotelyChanged.lookup (heap r).uid ≠ some r' := by
    rw [hcarry]
    exact fun h => by cases h
  cases h _ _ hin hgone with
  | sent hmem htell =>
    obtain ⟨v, vs, hvs⟩ := List.exists_cons_of_ne_nil hviews
    rw [hcarry] at htell
    dsimp only [settled, tell] at htell
    rw [hvs, List.map_cons, List.map_cons, List.cons.injEq] at htell
    have hsame := List.append_cancel_left (congrArg View.told htell.1)
    exact htold (hsame ▸ hmem)
  | invisible hi =>
    rw [hv] at hi
    cases hi
  | deleted hd => cases hd
  | noView hnone => exact hviews hnone

end Outbox

namespace Backend

/-! ## The posts of an act -/

/-- The posts of the end of `run_update_contact` and of what follows it. -/
def createUpdatedPosts (b : Backend) (r : Nat) (changed : Bool) : List Posting :=
  let c := b.book.contacts r
  let changed := changed || c.pendingFlags.has scheduleUpdateMasterUid
    || c.pendingFlags.has scheduleUpdateVariants
  let b := b.modify r Contact.bookkeepingDone
  if changed then [b.updatePost r, ⟨b.book.contacts, .notifyOne r⟩] else []

/-- The posts of `run_update_contact` from the unblocking on. -/
def createUnblockPosts (b : Backend) (r : Nat) (changed : Bool) : List Posting :=
  if (b.book.contacts r).pendingFlags.has scheduleUnblock then [] else b.createUpdatedPosts r changed

/-- The posts of `run_create_contact` from the lookup by name to the next call. -/
def createEnteredPosts (b : Backend) (c : Contact) : List Posting :=
  match b.book.nameToContact.lookup c.name with
  | some r =>
    let b := b.modify r fun e => e.mergeSubmitted c
    if (b.book.contacts r).pendingFlags.has scheduleUpdateFlags then []
    else b.createUnblockPosts r false
  | none =>
    let heap := (b.book.createContact c).contacts
    if c.pendingFlags.has scheduleAdd then
      [⟨heap, .write fun db => db.addContacts [heap b.book.next]⟩]
    else []

/-- The posts of `run_create_contact` to the next call. -/
def createNextPosts (b : Backend) (ec : Contact.EVCard) : List Posting :=
  ⟨b.book.contacts, .flush⟩ ::
    match Contact.new.updateFromEcontact ec b.vcardField with
    | (false, _) => []
    | (true, c) =>
      let c := c.submitted (generateUid b.pathSuffix b.book.uidToContact c.name)
      if b.tpcl.status = .online then []
      else { b with out := b.out.flushDbUpdates b.book.contacts }.createEnteredPosts c

/-- The posts of `modify_contact_idle_cb` after the flags. -/
def modifySentPosts (b : Backend) (r : Nat) (sent : Bool) : List Posting :=
  ((if sent then b.modify r Contact.flagsAsked else b).scheduleUpdate r).storePosts r
    Contact.bookkeepingDone

/-- The posts of `modify_contact_idle_cb` to the next call. -/
def modifyStartPosts (b : Backend) (ec : Contact.EVCard) : List Posting :=
  b.settlePost ::
    let b := b.flush
    match (Contact.cardUid ec).bind b.book.uidToContact.lookup with
    | none => []
    | some r =>
      let b := b.modify r fun c => (c.updateFromEcontact ec b.vcardField).2
      if (b.book.contacts r).needsUpdate then
        if b.tpcl.status = .online ∧ (b.book.contacts r).pendingFlags.has scheduleUpdateFlags then []
        else b.modifySentPosts r false
      else []

/-- The posts of `run_remove_contact` to the next call. -/
def removeNextPosts (b : Backend) (id : String) : List Posting :=
  ⟨b.book.contacts, .flush⟩ ::
    let b := { b with out := b.out.flushDbUpdates b.book.contacts }
    match splitId id with
    | [] => []
    | uid :: tokens =>
      match b.book.uidToContact.lookup uid with
      | none => []
      | some r =>
        let really := ((b.book.contacts r).removeTokens tokens).2
        let b := b.modify r fun c => (c.removeTokens tokens).1
        if really then
          let b := b.modify r Contact.nothingPending
          if (b.book.contacts r).flags.has contactInvalid then b.deletePosts [r] else []
        else if (b.book.contacts r).pendingFlags.has scheduleUpdateMasterUid then
          b.storePosts r Contact.masterUidsStored
        else []

/-- The posts of a frame to the next call. -/
def goOnPosts (b : Backend) : Frame → List Posting
  | .creates [] => []
  | .creates (ec :: _) => b.createNextPosts ec
  | .adding ok c _ => if ok then b.createEnteredPosts c else []
  | .updating r _ => (b.modify r Contact.flagsAsked).createUnblockPosts r true
  | .unblocking r ok _ => (b.modify r fun c => c.unblockReturned ok).createUpdatedPosts r true
  | .modifying r ok => b.modifySentPosts r ok
  | .removes _ [] locals =>
    if locals.contactsToUpdate = [] then []
    else
      [⟨b.book.contacts, .write fun db =>
        db.updateContacts (locals.contactsToUpdate.map b.book.contacts)⟩]
  | .removes _ (id :: _) _ => b.removeNextPosts id
  | .removing .. => []

/-- The posts of an act. -/
def actPosts (b : Backend) (frames : List Frame) : Act → List Posting
  | .event e => b.posts e
  | .creates _ => [⟨b.book.contacts, .notifyRemote⟩]
  | .modifies ec => b.modifyStartPosts ec
  | .removes _ => [b.settlePost]
  | .goOn =>
    match frames with
    | f :: _ => b.goOnPosts f
    | [] => []

/-! ## The posts are what the act does -/

theorem createUpdated_out (b : Backend) (r : Nat) (changed : Bool) :
    (b.createUpdated r changed).out
      = (b.createUpdatedPosts r changed).foldl Outbox.carry b.out := by
  unfold createUpdated createUpdatedPosts
  dsimp only
  split <;> rfl

theorem createUnblock_out (b : Backend) (r : Nat) (changed : Bool) (ecs : List Contact.EVCard) :
    (b.createUnblock r changed ecs).1.out
      = (b.createUnblockPosts r changed).foldl Outbox.carry b.out := by
  unfold createUnblock createUnblockPosts
  split
  · rfl
  · exact createUpdated_out b r changed

theorem createEntered_out (b : Backend) (c : Contact) (ecs : List Contact.EVCard) :
    (b.createEntered c ecs).1.out = (b.createEnteredPosts c).foldl Outbox.carry b.out := by
  unfold createEntered createEnteredPosts
  cases b.book.nameToContact.lookup c.name with
  | some r =>
    dsimp only
    unfold createUpdate
    split
    · rfl
    · exact createUnblock_out (b.modify r fun e => e.mergeSubmitted c) r false ecs
  | none =>
    dsimp only
    have hnew : (b.createNew c).2.out = (if c.pendingFlags.has scheduleAdd then
        [(⟨(b.book.createContact c).contacts, .write fun db =>
          db.addContacts [(b.book.createContact c).contacts b.book.next]⟩ : Posting)]
        else []).foldl Outbox.carry b.out := by
      unfold createNew
      dsimp only
      split <;> rfl
    rcases hcreated : b.createNew c with ⟨_ | r, b'⟩ <;> rw [hcreated] at hnew <;> exact hnew

theorem createNext_out (b : Backend) (ec : Contact.EVCard) (ecs : List Contact.EVCard) :
    (b.createNext ec ecs).1.out = (b.createNextPosts ec).foldl Outbox.carry b.out := by
  unfold createNext createNextPosts
  rw [List.foldl_cons]
  dsimp only
  rcases Contact.new.updateFromEcontact ec b.vcardField with ⟨_ | _, c⟩
  · rfl
  · dsimp only
    split
    · rfl
    · exact createEntered_out _ _ ecs

theorem modifySent_out (b : Backend) (r : Nat) (sent : Bool) :
    (b.modifySent r sent).out = (b.modifySentPosts r sent).foldl Outbox.carry b.out := by
  unfold modifySent modifySentPosts storeModification
  refine (store_out _ r _).trans ?_
  cases sent <;> rfl

theorem modifyStart_out (b : Backend) (ec : Contact.EVCard) :
    (b.modifyStart ec).1.out = (b.modifyStartPosts ec).foldl Outbox.carry b.out := by
  show _ = List.foldl Outbox.carry b.flush.out _
  unfold modifyStart
  dsimp only
  cases (Contact.cardUid ec).bind b.flush.book.uidToContact.lookup with
  | none => rfl
  | some r =>
    dsimp only
    split
    · split
      · rfl
      · exact modifySent_out _ r false
    · rfl

theorem removeNext_out (b : Backend) (id : String) (status : ClStatus) (ids : List String)
    (locals : RemoveLocals) :
    (b.removeNext id status ids locals).1.out
      = (b.removeNextPosts id).foldl Outbox.carry b.out := by
  unfold removeNext removeNextPosts
  rw [List.foldl_cons]
  dsimp only
  cases splitId id with
  | nil => rfl
  | cons uid tokens =>
    dsimp only
    cases b.book.uidToContact.lookup uid with
    | none => rfl
    | some r =>
      dsimp only
      split
      · unfold removeReally
        dsimp only
        split
        · rfl
        · split <;> rfl
      · unfold removeMasterUids
        split
        · exact store_out _ r _
        · rfl

theorem goOn_out (b : Backend) (f : Frame) :
    (b.goOn f).1.out = (b.goOnPosts f).foldl Outbox.carry b.out := by
  cases f with
  | creates ecs =>
    cases ecs with
    | nil => rfl
    | cons ec ecs => exact createNext_out b ec ecs
  | adding ok c ecs =>
    cases ok with
    | true => exact createEntered_out b c ecs
    | false => rfl
  | updating r ecs => exact createUnblock_out (b.modify r Contact.flagsAsked) r true ecs
  | unblocking r ok ecs => exact createUpdated_out (b.modify r fun c => c.unblockReturned ok) r true
  | modifying r ok => exact modifySent_out b r ok
  | removes status ids locals =>
    cases ids with
    | nil =>
      unfold goOn goOnPosts writeRemoved
      dsimp only
      split <;> rfl
    | cons id ids => exact removeNext_out b id status ids locals
  | removing r ok status ids locals =>
    cases ok <;> rfl

/-- **What an act does to the outbox is to make its posts.** -/
theorem act_out {b : Backend} {frames : List Frame} {a : Act} {s : Interrupted}
    (h : b.act frames a = some s) :
    s.backend.out = (b.actPosts frames a).foldl Outbox.carry b.out := by
  cases a with
  | event e =>
    obtain ⟨b', hb, rfl⟩ := Option.map_eq_some_iff.mp h
    exact take_out hb
  | creates vcards =>
    cases h
    rfl
  | modifies ec =>
    cases h
    exact modifyStart_out b ec
  | removes ids =>
    cases h
    rfl
  | goOn =>
    cases frames with
    | nil => cases h
    | cons f frames =>
      cases h
      exact goOn_out b f

/-! ## The law -/

/-- A step is an act. -/
theorem act_of_step {s s' : Interrupted} {m : Interrupted.Input} (h : interruptedMachine.step s m = some s') :
    (s.backend.load m.env).act s.frames m.act = some s' := by
  unfold interruptedMachine Interrupted.step at h
  dsimp only at h
  split at h
  · exact h
  · cases h

/-- The law holds in every state, whatever requests are going on. -/
theorem pending_interrupted {pathSuffix vcardField : String} {db : Db} {s : Interrupted}
    (h : InterruptedFrom pathSuffix vcardField db s) : s.backend.out.Pending := by
  obtain ⟨ms, hms⟩ := h
  refine Machine.run_inv (I := fun s : Interrupted => s.backend.out.Pending) (fun s m s' hs hstep => ?_)
    hms (Outbox.pending_of_empty rfl)
  have hload : (s.backend.load m.env).out.Pending := hs.of_same rfl rfl rfl
  rw [act_out (act_of_step hstep)]
  exact foldl_inv (I := Outbox.Pending) (fun _ p h => Outbox.pending_carry h p) _ hload

/-- Only a request that goes on can find another contact under the uid of its own. -/
theorem notifiesOwn_actPosts (b : Backend) (frames : List Frame) {a : Act} (ha : a ≠ .goOn) :
    AllAlong Outbox.carry Outbox.NotifiesOwn b.out (b.actPosts frames a) := by
  cases a with
  | event e => exact notifiesOwn_posts b e
  | creates vcards => exact ⟨fun r r' he => (by cases he), trivial⟩
  | modifies ec =>
    refine notifiesOwn_settled b ?_
    dsimp only
    split
    · simp [NoneQueues]
    · split
      · split
        · simp [NoneQueues]
        · exact noneQueues_storePosts _ _ _
      · simp [NoneQueues]
  | removes ids => exact ⟨fun r r' he => (by cases he), trivial⟩
  | goOn => exact absurd rfl ha

/--
If a request goes on and calls `notify_updated_contact`, no other contact that is visible waits under
the uid of its contact, or there is nobody to tell.
-/
def OwnNotices (s : Interrupted) (m : Interrupted.Input) : Prop :=
  m.act = .goOn → AllAlong Outbox.carry Outbox.NotifiesOwn (s.backend.load m.env).out
    ((s.backend.load m.env).actPosts s.frames m.act)

instance (s : Interrupted) (m : Interrupted.Input) : Decidable (OwnNotices s m) :=
  inferInstanceAs (Decidable (_ → AllAlong _ _ _ _))

/-- Ann is blocked and created again; while the server is asked to unblock her the request waits. -/
def unblocksAnn : List Interrupted.Input :=
  let answers := [{ handle := 7 }, { name := some "ann" }]
  firstSync.map (fun i => { act := .event i.event, env := i.env })
    ++ [{ act := .event (.startView 1) },
      { act := .event (.cl (.membersChanged .deny [7] [] [] [])) },
      { act := .event (.cl (.done 4 true)) },
      { act := .creates [[{ name := "X-JABBER", values := ["ann"] }]] },
      { act := .goOn, env := { replies := answers ++ List.replicate 8 {} } },
      { act := .goOn, env := { replies := List.replicate 2 {} } }]

end Backend

end EdsTelepathy
