import EdsTelepathy.Proof.Edits

/-!
# What an event does to the outbox

Every event changes the outbox by a list of *posts*: something is queued, the changed
contacts are told, the database updates are flushed, contacts are deleted, and so on. A
post is made with the contact objects as they are at that moment, which may be in the
middle of the event. The list is computed here from the state, and `take_out` says that
making the posts is what the event does to the outbox. A property of the two queues is
then a matter of the thirteen posts, whatever the events are that make them.
-/

namespace EdsTelepathy

/-- One thing that is done to the outbox. -/
inductive Post where
  /-- `update_contacts`. -/
  | queue (rs : List Nat) (updateDb : Bool)
  /-- `notify_remotely_updated_contacts_and_complete`. -/
  | notifyRemote
  /-- The start of a request: the changed contacts are told and the updates flushed. -/
  | settle
  /-- `notify_updated_contact`. -/
  | notifyOne (r : Nat)
  /-- `flush_db_updates`. -/
  | flush
  /-- A database call that is made at once. -/
  | write (f : Db → Option Db)
  /-- The notification of `merge_contacts`. -/
  | merged (r : Nat)
  /-- `delete_contacts`. -/
  | delete (uids : List String)
  /-- `update_contacts_idle_cb`. -/
  | idle
  /-- `set_inactivity_status`. -/
  | inactivity (on : Bool)
  /-- The view is appended to the list, and sent its population. -/
  | addView (id : Nat) (told : List Notice)
  /-- The view is taken out of the list. -/
  | dropView (id : Nat)
  /-- `notify_all_contacts_updated`. -/
  | populate (told : List Notice)

/-- A post, with the contact objects as they are when it is made. -/
structure Posting where
  heap : Nat → Contact
  post : Post

namespace Outbox

/-- The part of `delete_contacts` that is about the outbox. -/
def deleteContacts (heap : Nat → Contact) (o : Outbox) (uids : List String) : Outbox :=
  { o with
    contactsRemotelyChanged := uids.foldl (fun t u => t.erase u) o.contactsRemotelyChanged
    contactsToUpdateInDb := uids.foldl (fun t u => t.erase u) o.contactsToUpdateInDb }.announceRemoval
      heap uids

/-- Make one post. -/
def carry (o : Outbox) (p : Posting) : Outbox :=
  match p.post with
  | .queue rs updateDb => o.updateContacts p.heap rs updateDb
  | .notifyRemote => o.notifyRemotelyUpdatedContactsAndComplete p.heap
  | .settle => (o.notifyRemotelyUpdatedContactsAndComplete p.heap).flushDbUpdates p.heap
  | .notifyOne r => o.notifyUpdatedContact p.heap r
  | .flush => o.flushDbUpdates p.heap
  | .write f => (o.transaction f).2
  | .merged r =>
    if o.views = [] then o else (o.notify (.update (p.heap r))).notifyCompleteAllViews
  | .delete uids => o.deleteContacts p.heap uids
  | .idle => o.updateContactsIdleCb p.heap
  | .inactivity on => o.setInactivityStatus p.heap on
  | .addView id told => { o with views := o.views ++ [{ id := id, told := told }] }
  | .dropView id => { o with views := o.views.eraseP fun v => v.id = id }
  | .populate told => { o with views := o.views.map fun v => { v with told := v.told ++ told } }

end Outbox

namespace Backend

/-! ## The posts of an event -/

/-- The posts of the handlers that copy a field by handle. -/
def copyPosts (b : Backend) (updateDb : Bool) (rs : List Nat) : List Posting :=
  if rs = [] then [] else [⟨b.book.contacts, .queue rs updateDb⟩]

/-- The posts of `tp_cl_contacts_added`. -/
def addedPosts (b : Backend) (cs : List Contact) : List Posting :=
  let (book, arrays) := cs.foldl (Book.contactAddedInto b.pathSuffix) (b.book, {})
  let heap := book.contacts
  ⟨heap, .flush⟩ ::
    ((if arrays.toAdd = [] then []
      else [⟨heap, .write fun db => db.addContacts (arrays.toAdd.map heap)⟩])
    ++ (if arrays.toUpdate = [] then [] else [⟨heap, .queue arrays.toUpdate true⟩])
    ++ [⟨heap, .notifyRemote⟩])

/-- The posts of `delete_contacts`. -/
def deletePosts (b : Backend) (rs : List Nat) : List Posting :=
  [⟨b.book.contacts, .delete (rs.map fun r => (b.book.contacts r).uid)⟩]

/-- The posts of `tp_cl_contacts_removed`. -/
def removedPosts (b : Backend) (cs : List Contact) : List Posting :=
  let rs := b.book.byHandle cs
  let b := { b with
    book := rs.foldl (fun book r => book.modify r Contact.clearDelete) b.book }
  if rs = [] then [] else b.deletePosts rs

/-- The posts of `tp_cl_avatar_data_changed_cb`. -/
def avatarDataPosts (b : Backend) (cIn : Contact) : List Posting :=
  match b.book.handleToContact.lookup cIn.handle with
  | some r =>
    if cIn.avatarToken ≠ none ∧ (b.book.contacts r).avatarToken ≠ cIn.avatarToken then
      [⟨b.book.contacts, .queue [r] true⟩]
    else []
  | none => []

/-- The posts of the handler of a signal. -/
def signalPosts (b : Backend) (s : Signal) : List Posting :=
  if b.membersReady then
    match s with
    | .getMembersDone _ => []
    | .statusChanged _ => []
    | .contactsAdded cs => b.addedPosts cs
    | .contactsRemoved cs => b.removedPosts cs
    | .flagsChanged cs => (b.tpClFlagsChanged cs).copyPosts true (b.book.byHandle cs)
    | .aliasesChanged cs => (b.tpClAliasesChangedCb cs).copyPosts true (b.book.byHandle cs)
    | .presencesChanged cs => (b.tpClPresenceChangedCb cs).copyPosts false (b.book.byHandle cs)
    | .capabilitiesChanged cs =>
      (b.tpClCapabilitiesChangedCb cs).copyPosts false (b.book.byHandle cs)
    | .contactInfoChanged cs =>
      (b.tpClContactInfoChangedCb cs).copyPosts true (b.book.byHandle cs)
    | .avatarTokensChanged cs =>
      (b.tpClAvatarTokensChangedCb cs).copyPosts true
        (cs.foldl (Book.avatarTokenInto b.avatarFiles) (b.book, [])).2
    | .avatarDataChanged c => b.avatarDataPosts c
  else []

/-- The posts of the handlers of several signals, one after the other. -/
def signalsPosts : Backend → List Signal → List Posting
  | _, [] => []
  | b, s :: ss => b.signalPosts s ++ (b.onSignal s).signalsPosts ss

/-- `e_book_backend_tp_db_update_contact`, as a post. -/
def updatePost (b : Backend) (r : Nat) : Posting :=
  ⟨b.book.contacts, .write fun db => db.updateContacts [b.book.contacts r]⟩

/-- The posts of `run_create_contact` from the lookup by name on. -/
def enterPosts (b : Backend) (c : Contact) : List Posting :=
  match b.book.nameToContact.lookup c.name with
  | some r =>
    match (b.modify r fun e => e.mergeSubmitted c).runUpdateContact r with
    | (true, b) => [b.updatePost r, ⟨b.book.contacts, .notifyOne r⟩]
    | (false, _) => []
  | none =>
    let heap := (b.book.createContact c).contacts
    if c.pendingFlags.has scheduleAdd then
      [⟨heap, .write fun db => db.addContacts [heap b.book.next]⟩]
    else []

/-- The posts of `run_create_contact`. -/
def runCreatePosts (b : Backend) (ec : Contact.EVCard) : List Posting :=
  match Contact.new.updateFromEcontact ec b.vcardField with
  | (false, _) => []
  | (true, c) =>
    let c := c.submitted (generateUid b.pathSuffix b.book.uidToContact c.name)
    if b.tpcl.status = .online then
      match b.runAddContact c with
      | (true, c, w) => { b with wire := w }.enterPosts c
      | (false, _, _) => []
    else b.enterPosts c

/-- The contact is written, its bookkeeping is settled if that succeeds, and the views are told. -/
def storePosts (b : Backend) (r : Nat) (settle : Contact → Contact) : List Posting :=
  [b.updatePost r,
    ⟨(if (b.dbUpdateContact r).1 then b.modify r settle else b).book.contacts, .notifyOne r⟩]

/-- The posts of `modify_contact_idle_cb` after its start. -/
def modifyPosts (b : Backend) (ec : Contact.EVCard) : List Posting :=
  match (Contact.cardUid ec).bind b.book.uidToContact.lookup with
  | none => []
  | some r =>
    let b := b.modify r fun c => (c.updateFromEcontact ec b.vcardField).2
    if (b.book.contacts r).needsUpdate then
      ((b.sendFlags r).scheduleUpdate r).storePosts r Contact.bookkeepingDone
    else []

/-- The posts of `run_remove_contact` for a contact that was found. -/
def removeFoundPosts (b : Backend) (r : Nat) (tokens : List String) : List Posting :=
  let really := ((b.book.contacts r).removeTokens tokens).2
  let b := b.modify r fun c => (c.removeTokens tokens).1
  if really then
    (if (b.book.contacts r).flags.has contactInvalid then
      (b.modify r Contact.nothingPending).deletePosts [r] else [])
      ++ [(b.reallyRemove r).updatePost r]
  else if (b.book.contacts r).pendingFlags.has scheduleUpdateMasterUid then
    b.storePosts r Contact.masterUidsStored
  else []

/-- The posts of `remove_contacts_idle_cb` after its start. -/
def removePosts (b : Backend) (id : String) : List Posting :=
  match splitId id with
  | [] => []
  | uid :: tokens =>
    match b.book.uidToContact.lookup uid with
    | none => []
    | some r => b.removeFoundPosts r tokens

/-- The start of a request. -/
def settlePost (b : Backend) : Posting := ⟨b.book.contacts, .settle⟩

/-- The posts of `merge_contacts`. -/
def mergePosts (b : Backend) (dest src : Nat) : List Posting :=
  let b := b.modify dest fun d => d.mergeFrom (b.book.contacts src)
  ⟨b.book.contacts, .merged dest⟩ :: b.deletePosts [src]

/-- The posts of the second loop of phase 3 where the request succeeded. -/
def renamedPosts (b : Backend) (r : Nat) (oldName : Option String) : List Posting :=
  if oldName = (b.book.contacts r).name then []
  else
    let b := { b with book := b.book.forgetName oldName }
    match b.book.nameToContact.lookup (b.book.contacts r).name with
    | some existing => b.mergePosts existing r
    | none => []

/-- The posts of a piece of phase 3. -/
def phase3Posts (b : Backend) (p : Phase3) : List Posting :=
  match p.stage, p.todo with
  | .add, r :: _ =>
    match b.runAddContact (b.book.contacts r) with
    | (true, c, w) =>
      { b.modify r (fun _ => c.clearAdd) with wire := w }.renamedPosts r (b.book.contacts r).name
    | (false, _, _) => []
  | .delete, [] =>
    if p.contactsToUpdateInDb = [] then []
    else
      [⟨b.book.contacts, .write fun db =>
        db.updateContacts (p.contactsToUpdateInDb.map b.book.contacts)⟩]
  | _, _ => []

/-- The posts of phase 2. -/
def phase2Posts (b : Backend) (closure : GetMembersClosure) : List Posting :=
  let heap := b.book.contacts
  ⟨heap, .write fun db => db.addContacts (closure.contactsToAdd.map heap)⟩
    :: ⟨heap, .write fun db => db.updateContacts (closure.contactsToUpdate.map heap)⟩
    :: if unseen b.book = [] then [] else b.deletePosts (unseen b.book)

/-- The posts of an event. -/
def posts (b : Backend) : Event → List Posting
  | .cl e =>
    match b.tpcl.step e with
    | some (cl, signals) => { b with tpcl := cl }.signalsPosts signals
    | none => []
  | .phase0 =>
    let b := { b with book := b.out.db.fetchContacts.foldl Book.importContact b.book }
    [⟨b.book.contacts, .populate b.population⟩]
  | .phase2 =>
    match b.phase2Queued with
    | closure :: _ => b.phase2Posts closure
    | [] => []
  | .phase3 _ => []
  | .phase3Next _ =>
    match b.phase3 with
    | p :: _ => b.phase3Posts p
    | [] => []
  | .createContact ec => b.settlePost :: b.flush.runCreatePosts ec
  | .modifyContact ec => b.settlePost :: b.flush.modifyPosts ec
  | .removeContact id => b.settlePost :: b.flush.removePosts id
  | .updateContactsIdle => [⟨b.book.contacts, .idle⟩]
  | .startView id =>
    [⟨b.book.contacts, .notifyRemote⟩,
      ⟨b.book.contacts, .addView id (if b.membersReady then b.population else [])⟩]
  | .stopView id => [⟨b.book.contacts, .flush⟩, ⟨b.book.contacts, .dropView id⟩]
  | .inactivity on => [⟨b.book.contacts, .inactivity on⟩]
  | .avatarDataSaved i ok =>
    match b.avatarSaves[i]? with
    | some r => if ok then [⟨b.book.contacts, .queue [r] true⟩] else []
    | none => []
  | .getContact => [⟨b.book.contacts, .notifyRemote⟩]

/-! ## The posts are what the event does -/

theorem mergeByHandle_out (b : Backend) (f : Contact → Contact → Contact) (db : Bool)
    (cs : List Contact) :
    (b.mergeByHandle f db cs).out
      = ((b.mergeByHandle f db cs).copyPosts db (b.book.byHandle cs)).foldl Outbox.carry b.out := by
  unfold copyPosts mergeByHandle
  dsimp only
  split <;> rfl

theorem tpClContactsAdded_out (b : Backend) (cs : List Contact) :
    (b.tpClContactsAdded cs).out = (b.addedPosts cs).foldl Outbox.carry b.out := by
  unfold tpClContactsAdded addedPosts
  dsimp only
  rw [List.foldl_cons, List.foldl_append, List.foldl_append]
  split <;> split <;> rfl

theorem tpClContactsRemoved_out (b : Backend) (cs : List Contact) :
    (b.tpClContactsRemoved cs).out = (b.removedPosts cs).foldl Outbox.carry b.out := by
  unfold tpClContactsRemoved removedPosts
  dsimp only
  split
  · rfl
  · rfl

theorem tpClAvatarTokensChangedCb_out (b : Backend) (cs : List Contact) :
    (b.tpClAvatarTokensChangedCb cs).out
      = ((b.tpClAvatarTokensChangedCb cs).copyPosts true
          (cs.foldl (Book.avatarTokenInto b.avatarFiles) (b.book, [])).2).foldl
            Outbox.carry b.out := by
  unfold tpClAvatarTokensChangedCb copyPosts
  dsimp only
  split <;> rfl

theorem tpClAvatarDataChangedCb_out (b : Backend) (c : Contact) :
    (b.tpClAvatarDataChangedCb c).out = (b.avatarDataPosts c).foldl Outbox.carry b.out := by
  unfold tpClAvatarDataChangedCb avatarDataPosts
  cases b.book.handleToContact.lookup c.handle with
  | none => rfl
  | some r =>
    dsimp only
    split <;> rfl

/-- The handler of a signal makes the posts of the signal. -/
theorem onSignal_out (b : Backend) (s : Signal) :
    (b.onSignal s).out = (b.signalPosts s).foldl Outbox.carry b.out := by
  unfold onSignal signalPosts
  cases s with
  | getMembersDone result =>
    have hout : (b.tpClGetMembersCb result).out = b.out := by
      cases result with
      | none => exact (syncOnly_finishOnlineInitialization b).out
      | some cs => rfl
    dsimp only
    split <;> exact hout
  | statusChanged st =>
    have hout : (b.tpClStatusChangedCb st).out = b.out := by
      cases st with
      | online => exact (syncOnly_syncPhase1 b).out
      | offline => rfl
    dsimp only
    split
    · exact hout
    · rfl
  | contactsAdded cs =>
    dsimp only
    split
    · exact tpClContactsAdded_out b cs
    · rfl
  | contactsRemoved cs =>
    dsimp only
    split
    · exact tpClContactsRemoved_out b cs
    · rfl
  | avatarTokensChanged cs =>
    dsimp only
    split
    · exact tpClAvatarTokensChangedCb_out b cs
    · rfl
  | avatarDataChanged c =>
    dsimp only
    split
    · exact tpClAvatarDataChangedCb_out b c
    · rfl
  | _ cs =>
    dsimp only
    split
    · exact mergeByHandle_out b _ _ cs
    · rfl

theorem onSignals_out (b : Backend) (ss : List Signal) :
    (ss.foldl onSignal b).out = (b.signalsPosts ss).foldl Outbox.carry b.out := by
  induction ss generalizing b with
  | nil => rfl
  | cons s ss ih =>
    unfold signalsPosts
    rw [List.foldl_append, ← onSignal_out]
    exact ih (b.onSignal s)

/-! ### Requests -/

theorem runUpdateContact_out (b : Backend) (r : Nat) : (b.runUpdateContact r).2.out = b.out := rfl

theorem enterCreated_out (b : Backend) (c : Contact) :
    (b.enterCreated c).2.out = (b.enterPosts c).foldl Outbox.carry b.out := by
  unfold enterCreated enterPosts
  cases b.book.nameToContact.lookup c.name with
  | some r =>
    have hrun := runUpdateContact_out (b.modify r fun e => e.mergeSubmitted c) r
    dsimp only
    unfold createExisting
    dsimp only
    rcases heq : (b.modify r fun e => e.mergeSubmitted c).runUpdateContact r with ⟨_ | _, b₁⟩
    · rw [heq] at hrun
      exact hrun
    · rw [heq] at hrun
      have hout : b₁.out = b.out := hrun
      dsimp only [List.foldl_cons, List.foldl_nil]
      rw [← hout]
      rfl
  | none =>
    dsimp only
    unfold createNew
    dsimp only
    split <;> rfl

theorem runCreateContact_out (b : Backend) (ec : Contact.EVCard) :
    (b.runCreateContact ec).2.out = (b.runCreatePosts ec).foldl Outbox.carry b.out := by
  unfold runCreateContact runCreatePosts
  rcases Contact.new.updateFromEcontact ec b.vcardField with ⟨_ | _, c⟩
  · rfl
  · dsimp only
    split
    · rcases b.runAddContact _ with ⟨_ | _, c', w⟩
      · rfl
      · exact enterCreated_out { b with wire := w } c'
    · exact enterCreated_out _ _

/-- Writing a contact and telling the views is the same wherever it is done. -/
theorem store_out (b : Backend) (r : Nat) (settle : Contact → Contact) :
    (match b.dbUpdateContact r with
      | (true, b) => (b.modify r settle).notifyUpdatedContact r
      | (false, b) => b.notifyUpdatedContact r).out
      = (b.storePosts r settle).foldl Outbox.carry b.out := by
  unfold storePosts
  rcases heq : b.dbUpdateContact r with ⟨_ | _, b₁⟩
  · have hb : b₁ = (b.dbUpdateContact r).2 := by rw [heq]
    subst hb
    rfl
  · have hb : b₁ = (b.dbUpdateContact r).2 := by rw [heq]
    subst hb
    rfl

theorem sendFlags_out (b : Backend) (r : Nat) : (b.sendFlags r).out = b.out := by
  unfold sendFlags
  split
  · split <;> rfl
  · rfl

theorem modifyContact_out (b : Backend) (ec : Contact.EVCard) :
    (b.modifyContact ec).out
      = (b.settlePost :: b.flush.modifyPosts ec).foldl Outbox.carry b.out := by
  show _ = (b.flush.modifyPosts ec).foldl Outbox.carry b.flush.out
  unfold modifyContact modifyPosts
  dsimp only
  cases (Contact.cardUid ec).bind b.flush.book.uidToContact.lookup with
  | none => rfl
  | some r =>
    dsimp only
    split
    · unfold commitModification storeModification
      refine (store_out _ r _).trans ?_
      have hsent := sendFlags_out
        (b.flush.modify r fun c => (c.updateFromEcontact ec b.flush.vcardField).2) r
      exact congrArg (List.foldl Outbox.carry · _) hsent
    · rfl

theorem reallyRemove_out (b : Backend) (r : Nat) :
    (b.reallyRemove r).out
      = (if (b.book.contacts r).flags.has contactInvalid then
          (b.modify r Contact.nothingPending).deletePosts [r] else []).foldl Outbox.carry b.out := by
  have hflags : ((b.modify r Contact.nothingPending).book.contacts r).flags
      = (b.book.contacts r).flags := by
    show ((b.book.modify r Contact.nothingPending).contacts r).flags = _
    rw [Book.modify_contacts_self]
    rfl
  unfold reallyRemove requestRemoval
  rw [hflags]
  split
  · rfl
  · split
    · split <;> rfl
    · rfl

theorem removeContact_out (b : Backend) (id : String) :
    (b.removeContact id).out
      = (b.settlePost :: b.flush.removePosts id).foldl Outbox.carry b.out := by
  show _ = (b.flush.removePosts id).foldl Outbox.carry b.flush.out
  unfold removeContact removePosts
  dsimp only
  cases splitId id with
  | nil => rfl
  | cons uid tokens =>
    dsimp only
    cases b.flush.book.uidToContact.lookup uid with
    | none => rfl
    | some r =>
      dsimp only
      unfold removeFoundPosts
      dsimp only
      split
      · rw [List.foldl_append]
        have hr := reallyRemove_out (b.flush.modify r fun c => (c.removeTokens tokens).1) r
        exact congrArg (List.foldl Outbox.carry · [Backend.updatePost _ r]) hr
      · unfold removeMasterUids
        split
        · exact store_out _ r _
        · rfl

/-! ### Phases -/

theorem phase3Added_out (b : Backend) (r : Nat) (oldName : Option String) :
    (b.phase3Added r oldName).2.out = (b.renamedPosts r oldName).foldl Outbox.carry b.out := by
  unfold phase3Added renamedPosts
  split
  · rfl
  · unfold phase3Renamed
    dsimp only
    cases (b.book.forgetName oldName).nameToContact.lookup
      ((b.book.forgetName oldName).contacts r).name with
    | none => rfl
    | some existing => rfl

theorem stepPhase3_out {b b' : Backend} {p : Phase3} {order : List Nat}
    (h : b.stepPhase3 p order = some b') :
    b'.out = (b.phase3Posts p).foldl Outbox.carry b.out := by
  unfold phase3Posts
  cases stepPhase3_turn h with
  | @update r todo hs ht =>
    rw [hs, ht]
    unfold phase3Update
    have hrun := runUpdateContact_out b r
    rcases heq : b.runUpdateContact r with ⟨_ | _, b₁⟩
    · rw [heq] at hrun; exact hrun
    · rw [heq] at hrun; exact hrun
  | @add r todo hs ht =>
    rw [hs, ht]
    unfold phase3Add
    dsimp only
    rcases b.runAddContact (b.book.contacts r) with ⟨_ | _, c, w⟩
    · rfl
    · exact phase3Added_out { b.modify r (fun _ => c.clearAdd) with wire := w } r _
  | @delete r todo hs ht =>
    rw [hs, ht]
    unfold phase3Delete
    dsimp only
    rcases b.tpcl.runRemoveContact (b.book.contacts r) b.wire with ⟨_ | _, w⟩
    · rfl
    · rfl
  | snapshot hne ht _ =>
    rw [ht]
    cases hs : p.stage with
    | delete => exact absurd hs hne
    | _ => rfl
  | ended hend =>
    rw [hend.1, hend.2]
    unfold endPhase3
    dsimp only
    rw [(syncOnly_finishOnlineInitialization _).out]
    split <;> rfl

theorem syncPhase2IdleCb_out (b : Backend) (closure : GetMembersClosure) :
    (b.syncPhase2IdleCb closure).out = (b.phase2Posts closure).foldl Outbox.carry b.out := by
  unfold syncPhase2IdleCb phase2Posts
  dsimp only
  split
  · rfl
  · rfl

theorem syncPhase0IdleCb_out (b : Backend) :
    b.syncPhase0IdleCb.out = (b.posts .phase0).foldl Outbox.carry b.out := by
  unfold syncPhase0IdleCb tpReadyCb
  dsimp only
  split
  · rw [(syncOnly_syncPhase1 _).out]
    rfl
  · rfl

/-- **What an event does to the outbox is to make its posts.** -/
theorem take_out {b b' : Backend} {e : Event} (h : b.take e = some b') :
    b'.out = (b.posts e).foldl Outbox.carry b.out := by
  cases take_taken h with
  | @cl e cl signals hstep =>
    unfold posts
    dsimp only
    rw [hstep]
    exact onSignals_out { b with tpcl := cl } signals
  | phase0 _ => exact syncPhase0IdleCb_out b
  | phase2 hq =>
    unfold posts
    dsimp only
    rw [hq]
    exact syncPhase2IdleCb_out _ _
  | phase3 _ _ =>
    unfold beginPhase3
    split
    · rfl
    · rw [(syncOnly_finishOnlineInitialization _).out]
      rfl
  | @phase3Next _ p rest _ hp hstep =>
    unfold posts
    dsimp only
    rw [hp]
    exact stepPhase3_out (b := { b with phase3 := rest }) hstep
  | createContact ec => exact runCreateContact_out b.flush ec
  | modifyContact ec => exact modifyContact_out b ec
  | removeContact id => exact removeContact_out b id
  | updateContactsIdle => rfl
  | startView id => rfl
  | stopView id => rfl
  | inactivity on => rfl
  | @avatarDataSaved i r ok hr =>
    unfold posts
    dsimp only
    rw [hr]
    unfold avatarDataSavedCb
    dsimp only
    split <;> rfl
  | getContact => rfl

end Backend

end EdsTelepathy
