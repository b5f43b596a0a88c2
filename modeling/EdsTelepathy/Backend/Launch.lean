import EdsTelepathy.Backend.Step

/-!
# The start and the end of the process

`e_book_backend_tp_open_sync` returns before the book can be used: the connection manager and then
the account have to be prepared, and only then is the database opened and the contact list layer
started. Requests are taken up from the beginning; until the account is ready there is no database
that they could write to. An error on the way sets `load_error`, which most requests ask for first.

All that the end of a process leaves behind is the database, and `e_book_backend_tp_dispose` writes
what still waits for it.
-/

namespace EdsTelepathy

/-- `e_book_backend_tp_dispose`, as far as it can be seen afterwards. -/
def Backend.dispose (b : Backend) : Backend :=
  { b with out := b.out.flushDbUpdates b.book.contacts }

/-- How far the loading has come. -/
inductive Launch where
  /-- `load_started` is not set yet. -/
  | unopened
  /-- There was no account: `load_started` is set, and nothing else will happen. -/
  | refused
  /-- Waiting for `cm_ready_cb`: `vcard_field` is `NULL`. -/
  | manager
  /-- Waiting for `account_ready_cb`: the database is closed. -/
  | account
  /-- The database is open, and the import is queued. -/
  | loaded
  /-- `load_error`. -/
  | failed
  deriving DecidableEq

/-- A backend with how far its loading has come. -/
structure Startup where
  launch : Launch := .unopened
  backend : Backend := { phase0Queued := false }
  /-- The views that were told at once that the book was not loaded correctly. -/
  turnedAway : List Nat := []

namespace Startup

/-- What can happen to the process. -/
inductive Event where
  /-- `e_book_backend_tp_open_sync`, with the account of the source if there is one. -/
  | openSync (account : Option String)
  /-- `cm_ready_cb`, with the vcard field of the protocol. -/
  | cmReady (vcardField : Option String)
  /-- `account_ready_cb`, with the rows of the database that was opened. -/
  | accountReady (db : Option Db)
  /-- Something that the backend takes up. -/
  | input (i : Backend.Input)

/--
`e_book_backend_tp_open_sync`, with what it returns. That `tp_connection_manager_new` fails is left
out: the manager that is prepared then is `NULL`, and nobody looks at the error.
-/
def openSync (p : Startup) (account : Option String) : Bool × Startup :=
  if p.launch = .unopened then
    match account with
    | some pathSuffix =>
      (true, { p with launch := .manager, backend := { p.backend with pathSuffix := pathSuffix } })
    | none => (false, { p with launch := .refused })
  else (true, p)

/--
`cm_ready_cb`. A protocol that is known and names no vcard field is left out: `vcard_field` would stay
`NULL` although the account is prepared.
-/
def cmReadyCb (p : Startup) (vcardField : Option String) : Startup :=
  match vcardField with
  | some vcardField =>
    { p with launch := .account, backend := { p.backend with vcardField := vcardField } }
  | none => { p with launch := .failed }

/-- `account_ready_cb`. -/
def accountReadyCb (p : Startup) (db : Option Db) : Startup :=
  match db with
  | some db =>
    { p with
      launch := .loaded
      backend := { p.backend with out := { p.backend.out with db := db }, phase0Queued := true } }
  | none => { p with launch := .failed }

/-- Whether the vcard can be read while `vcard_field` is `NULL`, which `strcmp` does not survive. -/
def readable (ec : Contact.EVCard) : Bool := ec.all fun a => a.name = "X-OSSO-MASTER-UID"

/-- Whether the process survives the callback. -/
def survives (p : Startup) : Backend.Event → Bool
  | .createContact ec => p.launch = .account || readable ec
  | _ => true

/-- What can come at any time; nothing else is queued before the book is loaded. -/
def comesFromOutside : Backend.Event → Bool
  | .createContact _ | .modifyContact _ | .removeContact _ => true
  | .startView _ | .stopView _ | .inactivity _ | .getContact => true
  | _ => false

/-- Whether `load_error` is asked for first. -/
def asksForLoadError : Backend.Event → Bool
  | .createContact _ | .modifyContact _ | .removeContact _ | .startView _ | .stopView _ => true
  | _ => false

/-- The request is answered with an error; a view that is started is told that it is complete. -/
def refuse (p : Startup) : Backend.Event → Startup
  | .startView id => { p with turnedAway := p.turnedAway ++ [id] }
  | _ => p

/-- The calls of a database that is not open: each of them fails. -/
def closedDb (env : Backend.Env) : Backend.Env := { env with sql := List.replicate 3 false }

/-- What the process does with something that the backend takes up. -/
def takeUp (p : Startup) (i : Backend.Input) : Option Startup :=
  if p.launch = .loaded then (p.backend.step i).map fun b => { p with backend := b }
  else if p.launch = .failed ∧ asksForLoadError i.event then some (p.refuse i.event)
  else if comesFromOutside i.event ∧ p.survives i.event then
    (p.backend.step { i with env := closedDb i.env }).map fun b => { p with backend := b }
  else none

/-- What the process does with an event, where it can occur. -/
def step (p : Startup) : Event → Option Startup
  | .openSync account => some (p.openSync account).2
  | .cmReady vcardField => if p.launch = .manager then some (p.cmReadyCb vcardField) else none
  | .accountReady db => if p.launch = .account then some (p.accountReadyCb db) else none
  | .input i => p.takeUp i

/-- The process as a machine. -/
def machine : Machine Startup Event where
  step := step

end Startup

end EdsTelepathy
