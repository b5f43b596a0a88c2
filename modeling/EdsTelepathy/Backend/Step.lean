import EdsTelepathy.Backend.Sync

/-!
# What can happen to the backend

One event is one callback: an event of the contact list layer with the signal handlers it
sets off, a queued idle source, a piece of phase 3, or a request of the address book.
Requests are taken one contact at a time; a batch is a sequence of them. The outcome of
the database calls and the answers of the blocking requests come with the event.
-/

namespace EdsTelepathy

namespace Backend

/-- The handlers of the signals; all but the callback of `get_members` wait for `tp_ready_cb`. -/
def onSignal (b : Backend) (s : Signal) : Backend :=
  match s with
  | .getMembersDone result => b.tpClGetMembersCb result
  | .statusChanged s => if b.membersReady then b.tpClStatusChangedCb s else b
  | .contactsAdded cs => if b.membersReady then b.tpClContactsAdded cs else b
  | .contactsRemoved cs => if b.membersReady then b.tpClContactsRemoved cs else b
  | .flagsChanged cs => if b.membersReady then b.tpClFlagsChanged cs else b
  | .aliasesChanged cs => if b.membersReady then b.tpClAliasesChangedCb cs else b
  | .presencesChanged cs => if b.membersReady then b.tpClPresenceChangedCb cs else b
  | .avatarTokensChanged cs => if b.membersReady then b.tpClAvatarTokensChangedCb cs else b
  | .capabilitiesChanged cs => if b.membersReady then b.tpClCapabilitiesChangedCb cs else b
  | .contactInfoChanged cs => if b.membersReady then b.tpClContactInfoChangedCb cs else b
  | .avatarDataChanged c => if b.membersReady then b.tpClAvatarDataChangedCb c else b

/-- `start_book_view_idle_cb`. -/
def startView (b : Backend) (id : Nat) : Backend :=
  let out := b.out.notifyRemotelyUpdatedContactsAndComplete b.book.contacts
  let told := if b.membersReady then b.population else []
  { b with out := { out with views := out.views ++ [{ id := id, told := told }] } }

/-- `stop_book_view_idle_cb`. -/
def stopView (b : Backend) (id : Nat) : Backend :=
  let out := b.out.flushDbUpdates b.book.contacts
  { b with out := { out with views := out.views.eraseP fun v => v.id = id } }

/-- `get_contact_idle_cb` and `get_contact_list_idle_cb`, up to the answer. -/
def getContact (b : Backend) : Backend :=
  { b with out := b.out.notifyRemotelyUpdatedContactsAndComplete b.book.contacts }

/--
What the environment decides about a step: SQLite's outcomes, the bus's answers, and which
images are in the file system.
-/
structure Env where
  sql : List Bool := []
  replies : List Reply := []
  avatarFiles : List String := []
  deriving DecidableEq

/-- A callback that runs. -/
inductive Event where
  | cl (e : Cl.Event)
  /-- `_sync_phase_0_idle_cb`. -/
  | phase0
  /-- `_sync_phase_2_idle_cb`. -/
  | phase2
  /-- `_sync_phase_3_idle_cb` starts, with its first snapshot. -/
  | phase3 (order : List Nat)
  /-- The running phase 3 goes on. -/
  | phase3Next (order : List Nat)
  | createContact (ec : Contact.EVCard)
  | modifyContact (ec : Contact.EVCard)
  | removeContact (id : String)
  /-- `update_contacts_idle_cb`. -/
  | updateContactsIdle
  | startView (id : Nat)
  | stopView (id : Nat)
  | inactivity (on : Bool)
  /-- The `i`-th image that is being written is done. -/
  | avatarDataSaved (i : Nat) (ok : Bool)
  | getContact
  deriving DecidableEq

/-- An event with what the environment decides. -/
structure Input where
  event : Event
  env : Env := {}
  deriving DecidableEq

/-- The choices of the environment are put where the functions find them. -/
def load (b : Backend) (env : Env) : Backend :=
  { b with
    out := { b.out with sql := env.sql }
    wire := { replies := env.replies }
    avatarFiles := env.avatarFiles }

/-- What an event does, where it can occur. -/
def take (b : Backend) : Event → Option Backend
  | .cl e => (b.tpcl.step e).map fun p => p.2.foldl onSignal { b with tpcl := p.1 }
  | .phase0 => if b.phase0Queued then some b.syncPhase0IdleCb else none
  | .phase2 =>
    match b.phase2Queued with
    | closure :: rest => some ({ b with phase2Queued := rest }.syncPhase2IdleCb closure)
    | [] => none
  | .phase3 order =>
    if 0 < b.phase3Queued ∧ order.isPerm (Table.values (workTable b.book .update)) then
      some ({ b with phase3Queued := b.phase3Queued - 1 }.beginPhase3 order)
    else none
  | .phase3Next order =>
    match b.phase3 with
    | p :: rest => { b with phase3 := rest }.stepPhase3 p order
    | [] => none
  | .createContact ec => some (b.createContact ec)
  | .modifyContact ec => some (b.modifyContact ec)
  | .removeContact id => some (b.removeContact id)
  | .updateContactsIdle =>
    if b.out.updateScheduled then
      some { b with out := b.out.updateContactsIdleCb b.book.contacts }
    else none
  | .startView id => some (b.startView id)
  | .stopView id => some (b.stopView id)
  | .inactivity on => some { b with out := b.out.setInactivityStatus b.book.contacts on }
  | .avatarDataSaved i ok =>
    match b.avatarSaves[i]? with
    | some r => some ({ b with avatarSaves := b.avatarSaves.eraseIdx i }.avatarDataSavedCb r ok)
    | none => none
  | .getContact => some b.getContact

/-- One step of the backend. -/
def step (b : Backend) (i : Input) : Option Backend := (b.load i.env).take i.event

/-- The backend as a machine. -/
def machine : Machine Backend Input where
  step := step

/-- What a process can come to from a database. -/
def ReachableFrom (pathSuffix vcardField : String) (db : Db) (b : Backend) : Prop :=
  machine.Reaches (boot pathSuffix vcardField db) b

end Backend

end EdsTelepathy
