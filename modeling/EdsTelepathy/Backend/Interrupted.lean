import EdsTelepathy.Backend.Answers

/-!
# Requests that are interrupted

A request that asks the server runs the main loop until it has the answer. Whatever else the backend
has to do is done meanwhile, other requests included, and the request goes on in the state it finds
then. The requests are given here once more, cut at these places. One that waits is a frame, and the
frames are a stack, since the main loop of the inner request returns first.

What a request holds in local variables is in its frame: a contact by its address, or by value where it
is in no table yet. Everything else it reads from the book when it goes on. How a call ends is decided
when it is made and kept in the frame, where nobody looks at it before the main loop has returned.

`run_create_contact` holds a reference to its contact. The other two hold none, and what they read of a
contact that is freed meanwhile is what was left in it. The pieces of phase 3 are events as they are in
the main machine, also while a request waits that came later, which only adds runs.
-/

namespace EdsTelepathy

/-- `run_update_contact` when `run_unblock_contact` has returned. -/
def Contact.unblockReturned (c : Contact) (unblocked : Bool) : Contact :=
  if unblocked then { c with pendingFlags := c.pendingFlags &&& ~~~scheduleUnblock }
  else { c with flags := c.flags &&& ~~~deny }

namespace Backend

/-- What a request has still to do. -/
inductive Frame where
  /-- `create_contacts_idle_cb`, before the next vcard. -/
  | creates (econtacts : List Contact.EVCard)
  /-- `run_create_contact` in `run_add_contact`, which returns `ok` and leaves the contact so. -/
  | adding (ok : Bool) (contact : Contact) (econtacts : List Contact.EVCard)
  /-- `run_create_contact` in `run_update_flags`. -/
  | updating (r : Nat) (econtacts : List Contact.EVCard)
  /-- `run_create_contact` in `run_unblock_contact`. -/
  | unblocking (r : Nat) (ok : Bool) (econtacts : List Contact.EVCard)
  /-- `modify_contact_idle_cb` in `run_update_flags`. -/
  | modifying (r : Nat) (ok : Bool)
  /-- `remove_contacts_idle_cb`, before the next id; the status was read at its start. -/
  | removes (status : ClStatus) (ids : List String) (locals : RemoveLocals)
  /-- `run_remove_contact` in the function of that name of the contact list layer. -/
  | removing (r : Nat) (ok : Bool) (status : ClStatus) (ids : List String) (locals : RemoveLocals)

/-- Whether the main loop runs. -/
def Frame.waits : Frame → Bool
  | creates _ | removes .. => false
  | _ => true

/-! ## Create -/

/-- The end of `run_update_contact`, and what `run_create_contact` does after it. -/
def createUpdated (b : Backend) (r : Nat) (changed : Bool) : Backend :=
  let c := b.book.contacts r
  let changed := changed || c.pendingFlags.has scheduleUpdateMasterUid
    || c.pendingFlags.has scheduleUpdateVariants
  let b := b.modify r Contact.bookkeepingDone
  if changed then (b.dbUpdateContact r).2.notifyUpdatedContact r else b

/-- `run_update_contact` from the unblocking on. -/
def createUnblock (b : Backend) (r : Nat) (changed : Bool) (econtacts : List Contact.EVCard) :
    Backend × Frame :=
  if (b.book.contacts r).pendingFlags.has scheduleUnblock then
    let (ok, w) := b.tpcl.runUnblockContact (b.book.contacts r) b.wire
    ({ b with wire := w }, .unblocking r ok econtacts)
  else (b.createUpdated r changed, .creates econtacts)

/-- `run_update_contact`. -/
def createUpdate (b : Backend) (r : Nat) (econtacts : List Contact.EVCard) : Backend × Frame :=
  if (b.book.contacts r).pendingFlags.has scheduleUpdateFlags then
    ({ b with wire := (b.tpcl.runUpdateFlags (b.book.contacts r) b.wire).2 }, .updating r econtacts)
  else b.createUnblock r false econtacts

/-- `run_create_contact` from the lookup by name on; if it returns `NULL`, the batch is over. -/
def createEntered (b : Backend) (c : Contact) (econtacts : List Contact.EVCard) :
    Backend × Option Frame :=
  match b.book.nameToContact.lookup c.name with
  | some r =>
    let (b, f) := (b.modify r fun e => e.mergeSubmitted c).createUpdate r econtacts
    (b, some f)
  | none =>
    match b.createNew c with
    | (some _, b) => (b, some (.creates econtacts))
    | (none, b) => (b, none)

/-- `run_create_contact`. -/
def createNext (b : Backend) (ec : Contact.EVCard) (econtacts : List Contact.EVCard) :
    Backend × Option Frame :=
  let b := { b with out := b.out.flushDbUpdates b.book.contacts }
  match Contact.new.updateFromEcontact ec b.vcardField with
  | (false, _) => (b, none)
  | (true, c) =>
    let c := c.submitted (generateUid b.pathSuffix b.book.uidToContact c.name)
    if b.tpcl.status = .online then
      let (ok, c, w) := b.runAddContact c
      ({ b with wire := w }, some (.adding ok c econtacts))
    else b.createEntered c econtacts

/-! ## Modify -/

/-- `modify_contact_idle_cb` after the flags. -/
def modifySent (b : Backend) (r : Nat) (sent : Bool) : Backend :=
  ((if sent then b.modify r Contact.flagsAsked else b).scheduleUpdate r).storeModification r

/-- `modify_contact_idle_cb`. -/
def modifyStart (b : Backend) (ec : Contact.EVCard) : Backend × Option Frame :=
  let b := b.flush
  match (Contact.cardUid ec).bind b.book.uidToContact.lookup with
  | none => (b, none)
  | some r =>
    let b := b.modify r fun c => (c.updateFromEcontact ec b.vcardField).2
    if (b.book.contacts r).needsUpdate then
      if b.tpcl.status = .online ∧ (b.book.contacts r).pendingFlags.has scheduleUpdateFlags then
        let (ok, w) := b.tpcl.runUpdateFlags (b.book.contacts r) b.wire
        ({ b with wire := w }, some (.modifying r ok))
      else (b.modifySent r false, none)
    else (b, none)

/-! ## Remove -/

/-- `remove_contacts_idle_cb` where the contact that `run_remove_contact` returned really goes. -/
def RemoveLocals.gone (locals : RemoveLocals) (b : Backend) (r : Nat) : RemoveLocals :=
  { idsRemoved := (b.book.contacts r).uid :: locals.idsRemoved
    contactsToUpdate := locals.contactsToUpdate ++ [r] }

/-- `run_remove_contact` where the contact itself goes. -/
def removeReally (b : Backend) (r : Nat) (status : ClStatus) (ids : List String)
    (locals : RemoveLocals) : Backend × Frame :=
  let b := b.modify r Contact.nothingPending
  if (b.book.contacts r).flags.has contactInvalid then
    let b := b.deleteContacts [r]
    (b, .removes status ids (locals.gone b r))
  else if status = .online then
    let (ok, w) := b.tpcl.runRemoveContact (b.book.contacts r) b.wire
    ({ b with wire := w }, .removing r ok status ids locals)
  else
    let b := b.scheduleRemoval r
    (b, .removes status ids (locals.gone b r))

/-- `run_remove_contact`. -/
def removeNext (b : Backend) (id : String) (status : ClStatus) (ids : List String)
    (locals : RemoveLocals) : Backend × Frame :=
  let b := { b with out := b.out.flushDbUpdates b.book.contacts }
  match splitId id with
  | [] => (b, .removes status ids locals)
  | uid :: tokens =>
    match b.book.uidToContact.lookup uid with
    | none => (b, .removes status ids locals)
    | some r =>
      let really := ((b.book.contacts r).removeTokens tokens).2
      let b := b.modify r fun c => (c.removeTokens tokens).1
      if really then b.removeReally r status ids locals
      else (b.removeMasterUids r, .removes status ids locals)

/-! ## Going on -/

/-- A frame up to the next call, or to its end. -/
def goOn (b : Backend) : Frame → Backend × Option Frame
  | .creates [] => (b, none)
  | .creates (ec :: econtacts) => b.createNext ec econtacts
  | .adding ok c econtacts => if ok then b.createEntered c econtacts else (b, none)
  | .updating r econtacts =>
    let (b, f) := (b.modify r Contact.flagsAsked).createUnblock r true econtacts
    (b, some f)
  | .unblocking r ok econtacts =>
    ((b.modify r fun c => c.unblockReturned ok).createUpdated r true, some (.creates econtacts))
  | .modifying r ok => (b.modifySent r ok, none)
  | .removes _ [] locals => (writeRemoved (b, locals), none)
  | .removes status (id :: ids) locals =>
    let (b, f) := b.removeNext id status ids locals
    (b, some f)
  | .removing r ok status ids locals =>
    let b := if ok then b else b.scheduleRemoval r
    (b, some (.removes status ids (locals.gone b r)))

/-- The backend with the requests it is in the middle of, the innermost one first. -/
structure Interrupted where
  backend : Backend
  frames : List Frame := []

/-- What happens next. -/
inductive Act where
  /-- Whatever else the main loop does; a request among these is one whose calls return at once. -/
  | event (e : Event)
  /-- `e_book_backend_tp_create_contacts` is taken up. -/
  | creates (vcards : List Contact.EVCard)
  /-- `e_book_backend_tp_modify_contacts` is taken up. -/
  | modifies (ec : Contact.EVCard)
  /-- `e_book_backend_tp_remove_contacts` is taken up. -/
  | removes (ids : List String)
  /-- The innermost request goes on. -/
  | goOn
  deriving DecidableEq

/-- An act with what the environment decides. -/
structure Interrupted.Input where
  act : Act
  env : Env := {}
  deriving DecidableEq

/-- `create_contacts_idle_cb` before its loop. -/
def createsStart (b : Backend) (vcards : List Contact.EVCard) : Backend × Frame :=
  (b.getContact, .creates (queueVcards vcards))

/-- `remove_contacts_idle_cb` before its loop. -/
def removesStart (b : Backend) (ids : List String) : Backend × Frame :=
  (b.flush, .removes b.tpcl.status ids {})

/-- An act in a backend that has the choices of the environment, and the frames it leaves on the stack. -/
def act (b : Backend) (frames : List Frame) : Act → Option Interrupted
  | .event e => (b.take e).map fun b => { backend := b, frames := frames }
  | .creates vcards =>
    let (b, f) := b.createsStart vcards
    some { backend := b, frames := f :: frames }
  | .modifies ec =>
    let (b, f) := b.modifyStart ec
    some { backend := b, frames := f.toList ++ frames }
  | .removes ids =>
    let (b, f) := b.removesStart ids
    some { backend := b, frames := f :: frames }
  | .goOn =>
    match frames with
    | f :: frames =>
      let (b, f) := b.goOn f
      some { backend := b, frames := f.toList ++ frames }
    | [] => none

/-- Only a request that waits lets others run. -/
def Interrupted.step (s : Interrupted) (m : Interrupted.Input) : Option Interrupted :=
  if m.act = .goOn ∨ s.frames.head?.all Frame.waits then (s.backend.load m.env).act s.frames m.act
  else none

/-- The backend as a machine whose requests are interrupted. -/
def interruptedMachine : Machine Interrupted Interrupted.Input where
  step := Interrupted.step

/-- What a process that is interrupted can come to from a database. -/
def InterruptedFrom (pathSuffix vcardField : String) (db : Db) (s : Interrupted) : Prop :=
  interruptedMachine.Reaches { backend := boot pathSuffix vcardField db } s

end Backend

end EdsTelepathy
