import EdsTelepathy.Cl.State

/-!
# Blocking roster requests

The `e_book_backend_tp_cl_run_*` functions. Each makes a series of D-Bus calls and waits
for every reply. The replies are drawn from a list that the caller chooses, so a theorem
about all lists is about every pattern of failures; besides the outcome a reply says
whether the connection was still up when it arrived, since the main loop runs meanwhile.
The requests made are recorded in the order they were sent.

A list's channel is usable while its slot is set, and all slots are emptied together with
the connection, so after a disconnect no channel is usable.
-/

namespace EdsTelepathy

/-- A D-Bus request sent by one of the blocking functions. -/
inductive Request where
  | requestHandles (name : Option String)
  | inspectHandles (handle : Nat)
  | getGroupFlags (l : ListId)
  | addMembers (l : ListId) (handles : List Nat)
  | removeMembers (l : ListId) (handles : List Nat)
  deriving DecidableEq

/-- The answer to a blocking request. -/
structure Reply where
  ok : Bool := true
  /-- What `RequestHandles` returns. -/
  handle : Nat := 0
  /-- What `InspectHandles` returns. -/
  name : Option String := none
  /-- What `GetGroupFlags` returns. -/
  canAdd : Bool := true
  canRemove : Bool := true
  /-- The error, if it is one, is `TP_ERROR_INVALID_HANDLE`. -/
  invalidHandle : Bool := false
  /-- `priv->conn` is still there when the call returns. -/
  connected : Bool := true
  deriving DecidableEq

/-- The answer when no other was chosen: the bus is gone. -/
def Reply.lost : Reply := { ok := false, connected := false }

/-- The bus as seen by a blocking function: answers still to come, requests sent. -/
structure Wire where
  replies : List Reply := []
  sent : List Request := []
  deriving DecidableEq

/-- Send a request and wait for the answer. -/
def Wire.ask (w : Wire) (r : Request) : Reply × Wire :=
  (w.replies.headD Reply.lost, { replies := w.replies.tail, sent := w.sent ++ [r] })

/-- How a blocking function ended. -/
inductive Outcome where
  /-- It returned `TRUE`. -/
  | success
  /-- It returned `FALSE`; the error may be `TP_ERROR_INVALID_HANDLE`. -/
  | failure (invalidHandle : Bool)
  deriving DecidableEq

/-- Whether a blocking function returned `TRUE`. -/
def Outcome.ok : Outcome → Bool
  | .success => true
  | .failure _ => false

namespace Cl

/-- The handle to put in an array, if the condition holds. -/
def handleIf (b : Bool) (h : Nat) : List Nat := if b then [h] else []

/-- The loop of `run_update_flags`, from the lists still to visit. -/
def updateFlagsLoop (channels : ListId → Bool) (wanted : Flags) (contact : Contact) :
    List ListId → Bool → Wire → Bool × Wire
  | [], _, w => (true, w)
  | l :: ls, connected, w =>
    let flag := l.flag .current
    let add := handleIf (wanted.has flag && !contact.flags.has flag) contact.handle
    let remove := handleIf (contact.flags.has flag && !wanted.has flag) contact.handle
    if connected && channels l then
      let (r, w) := w.ask (.addMembers l add)
      if r.connected then
        let (r, w) := w.ask (.removeMembers l remove)
        updateFlagsLoop channels wanted contact ls r.connected w
      else (false, w)
    else updateFlagsLoop channels wanted contact ls connected w

/-- `e_book_backend_tp_cl_run_update_flags`. -/
def runUpdateFlags (cl : Cl) (updated : Contact) (w : Wire) : Bool × Wire :=
  if cl.isConnected then
    if 0 < updated.handle then
      match cl.lookup updated.handle with
      | some r =>
        updateFlagsLoop cl.channels updated.pendingFlags (cl.contacts r) ListId.all true w
      | none => (false, w)
    else (false, w)
  else (false, w)

/--
What `run_update_flags` returns, and how often it passes an error to `error_out`. The first one stays
there: `g_propagate_error` over an error that is set only warns, so this counts the attempts.
-/
structure FlagsReport where
  ok : Bool
  errors : Nat
  deriving DecidableEq

/-- The loop once more, with its error: a call that fails passes its error on, and the loop goes on. -/
def reportFlagsLoop (channels : ListId → Bool) (wanted : Flags) (contact : Contact) :
    List ListId → Bool → Nat → Wire → FlagsReport × Wire
  | [], _, errors, w => ({ ok := true, errors := errors }, w)
  | l :: ls, connected, errors, w =>
    let flag := l.flag .current
    let add := handleIf (wanted.has flag && !contact.flags.has flag) contact.handle
    let remove := handleIf (contact.flags.has flag && !wanted.has flag) contact.handle
    if connected && channels l then
      let (a, w) := w.ask (.addMembers l add)
      let errors := if a.ok then errors else errors + 1
      if a.connected then
        let (r, w) := w.ask (.removeMembers l remove)
        let errors := if r.ok then errors else errors + 1
        reportFlagsLoop channels wanted contact ls r.connected errors w
      else
        -- `verify_is_connected` sets an error of its own
        ({ ok := false, errors := errors + 1 }, w)
    else reportFlagsLoop channels wanted contact ls connected errors w

/-- `e_book_backend_tp_cl_run_update_flags` with its error. -/
def reportUpdateFlags (cl : Cl) (updated : Contact) (w : Wire) : FlagsReport × Wire :=
  if cl.isConnected then
    if 0 < updated.handle then
      match cl.lookup updated.handle with
      | some r =>
        reportFlagsLoop cl.channels updated.pendingFlags (cl.contacts r) ListId.all true 0 w
      | none => ({ ok := false, errors := 1 }, w)
    else ({ ok := false, errors := 1 }, w)
  else ({ ok := false, errors := 1 }, w)

/-- The loop of `run_add_contact` over the lists the contact is marked for. -/
def addContactLoop (channels : ListId → Bool) (contact : Contact) :
    List ListId → Bool → Wire → Outcome × Wire
  | [], _, w => (.success, w)
  | l :: ls, connected, w =>
    if contact.pendingFlags.has (l.flag .current) && (connected && channels l) then
      let (r, w) := w.ask (.getGroupFlags l)
      if r.ok then
        if r.canAdd then
          let (r', w) := w.ask (.addMembers l [contact.handle])
          if r'.ok then addContactLoop channels contact ls (r.connected && r'.connected) w
          else (.failure r'.invalidHandle, w)
        else addContactLoop channels contact ls r.connected w
      else (.failure r.invalidHandle, w)
    else addContactLoop channels contact ls connected w

/--
`e_book_backend_tp_cl_run_add_contact`. The contact is returned as the function leaves
it: its handle is set once it is known, its name once the handle was inspected, whatever
happens after that.
-/
def runAddContact (cl : Cl) (c : Contact) (w : Wire) : Outcome × Contact × Wire :=
  if cl.isConnected then
    let (r, w) := w.ask (.requestHandles c.name)
    if r.ok then
      if r.connected then
        let c := { c with handle := r.handle }
        let (r, w) := w.ask (.inspectHandles c.handle)
        if r.ok then
          let c := c.updateName r.name
          let (o, w) := addContactLoop cl.channels c ListId.all r.connected w
          (o, c, w)
        else (.failure r.invalidHandle, c, w)
      else (.failure false, c, w)
    else (.failure r.invalidHandle, c, w)
  else (.failure false, c, w)

/-- The loop of `run_remove_contact` over the lists the roster contact is on. -/
def removeContactLoop (channels : ListId → Bool) (contact : Contact) :
    List ListId → Bool → Wire → Bool × Wire
  | [], _, w => (true, w)
  | l :: ls, connected, w =>
    if contact.flags.has l.allFlags && (connected && channels l) then
      let (r, w) := w.ask (.getGroupFlags l)
      if r.ok && r.connected then
        if r.canRemove then
          let (r, w) := w.ask (.removeMembers l [contact.handle])
          if r.ok then removeContactLoop channels contact ls r.connected w
          else (false, w)
        else removeContactLoop channels contact ls r.connected w
      else (false, w)
    else removeContactLoop channels contact ls connected w

/-- `e_book_backend_tp_cl_run_remove_contact`. -/
def runRemoveContact (cl : Cl) (c : Contact) (w : Wire) : Bool × Wire :=
  if cl.isConnected then
    match cl.lookup c.handle with
    | some r => removeContactLoop cl.channels (cl.contacts r) ListId.all true w
    | none => (false, w)
  else (false, w)

/-- `e_book_backend_tp_cl_run_unblock_contact`. -/
def runUnblockContact (cl : Cl) (c : Contact) (w : Wire) : Bool × Wire :=
  if cl.isConnected then
    match cl.lookup c.handle with
    | some r =>
      if cl.channels .deny then
        let (g, w) := w.ask (.getGroupFlags .deny)
        if g.ok && g.connected then
          if g.canRemove then
            let (x, w) := w.ask (.removeMembers .deny [(cl.contacts r).handle])
            (x.ok, w)
          else (true, w)
        else (false, w)
      else (true, w)
    | none => (false, w)
  else (false, w)

end Cl

end EdsTelepathy
