import EdsTelepathy.Cl.Requests
import EdsTelepathy.Cl.Step
import EdsTelepathy.Lib.Program

/-!
# Blocking requests, call by call

A `tp_cli_*_run_*` call runs the main loop until its reply is there. Connections go and come
meanwhile, members change, and a handler may change the pending flags of the contact that
the request is about. So the functions of `Cl.Requests` are given here once more, as
programs that read the layer as it is when a call returns: `priv->conn`, the slots of
`contact_list_channels` and the flags are looked at where the source looks at them, and a
program faults where the source follows a pointer that is `NULL`, or that points to a freed
channel. What they do to the contact is left to `Cl.Requests`.
-/

namespace EdsTelepathy

namespace Cl

/-- What the functions read. -/
structure Live where
  cl : Cl
  /-- `pending_flags` of the contact that was passed in. -/
  pendingFlags : Flags := 0
  /-- How often `free_channels_and_connection` has run. -/
  freed : Nat := 0

/-- What comes of one nested call. -/
structure Answer where
  /-- The reply, less `connected`, which the events decide. -/
  reply : Reply := {}
  /-- What the main loop of the call processes. -/
  events : List Event := []
  /-- The pending flags of the contact, if a handler changes them. -/
  pendingFlags : Option Flags := none
  deriving DecidableEq

/-- One event of a nested main loop. -/
def Live.handle (s : Live) (e : Event) : Live :=
  match s.cl.step e with
  | some (cl, _) =>
    { s with
      cl := cl
      freed := if e = .connectionStatusChanged none then s.freed + 1 else s.freed }
  | none => s

/-- The state when the call returns. -/
def Live.after (s : Live) (a : Answer) : Live :=
  let s := a.events.foldl Live.handle s
  { s with pendingFlags := a.pendingFlags.getD s.pendingFlags }

/-- How a function returns, and whether it has set `error_out`. -/
structure Returned where
  ok : Bool
  error : Bool := false
  deriving DecidableEq

/-- A blocking function. It takes note of a list that it passes over for want of a channel. -/
abbrev Blocking := Program Request Reply Live ListId Returned

/-- `return FALSE` after an error has been set. -/
def failed : Blocking := .ret { ok := false, error := true }

/-- The program follows `priv->conn`. -/
def followConn (s : Live) (p : Blocking) : Blocking := if s.cl.isConnected then p else .fault

/-- The program follows `priv->contact_list_channels[l]`. -/
def followSlot (l : ListId) (s : Live) (p : Blocking) : Blocking :=
  if s.cl.channels l then p else .fault

/-- The program follows a copy of a slot that it made after this many frees. -/
def followCopy (freed : Nat) (s : Live) (p : Blocking) : Blocking :=
  if s.freed = freed then p else .fault

/-- The loop of `run_update_flags`; an error of a call is passed on, and the loop goes on. -/
def updateFlagsProgram (r : Nat) : List ListId → Bool → Live → Blocking
  | [], error, _ => .ret { ok := true, error := error }
  | l :: ls, error, s =>
    let contact := s.cl.contacts r
    let flag := l.flag .current
    let add := handleIf (s.pendingFlags.has flag && !contact.flags.has flag) contact.handle
    let remove := handleIf (contact.flags.has flag && !s.pendingFlags.has flag) contact.handle
    if s.cl.channels l then
      followSlot l s <| .ask (.addMembers l add) fun a s =>
        if s.cl.isConnected then
          followSlot l s <| .ask (.removeMembers l remove) fun b s =>
            updateFlagsProgram r ls (error || !a.ok || !b.ok) s
        else failed
    else .note l (updateFlagsProgram r ls error s)

/-- The loop of `run_add_contact`. -/
def addContactProgram (handle : Nat) : List ListId → Live → Blocking
  | [], _ => .ret { ok := true }
  | l :: ls, s =>
    if s.pendingFlags.has (l.flag .current) then
      if s.cl.channels l then
        followSlot l s <| .ask (.getGroupFlags l) fun g s =>
          if g.ok then
            if g.canAdd then
              followSlot l s <| .ask (.addMembers l [handle]) fun m s =>
                if m.ok then addContactProgram handle ls s else failed
            else addContactProgram handle ls s
          else failed
      else .note l (addContactProgram handle ls s)
    else addContactProgram handle ls s

/-- The loop of `run_remove_contact`. -/
def removeContactProgram (r handle : Nat) : List ListId → Live → Blocking
  | [], _ => .ret { ok := true }
  | l :: ls, s =>
    if (s.cl.contacts r).flags.has l.allFlags then
      if s.cl.channels l then
        if s.cl.isConnected then
          followSlot l s <| .ask (.getGroupFlags l) fun g s =>
            if g.ok && s.cl.isConnected then
              if g.canRemove then
                followSlot l s <| .ask (.removeMembers l [handle]) fun m s =>
                  if m.ok then removeContactProgram r handle ls s else failed
              else removeContactProgram r handle ls s
            else failed
        else failed
      else .note l (removeContactProgram r handle ls s)
    else removeContactProgram r handle ls s

/-- The four functions. -/
inductive RosterRequest where
  | updateFlags | addContact | removeContact | unblockContact
  deriving DecidableEq

namespace RosterRequest

/-- A function, for the contact `c` of the address book and its roster contact at `r`. -/
def body (f : RosterRequest) (r : Nat) (c : Contact) (s : Live) : Blocking :=
  match f with
  | updateFlags => updateFlagsProgram r ListId.all false s
  | addContact =>
    followConn s <| .ask (.requestHandles c.name) fun h s =>
      if h.ok && s.cl.isConnected then
        followConn s <| .ask (.inspectHandles h.handle) fun n s =>
          if n.ok then addContactProgram h.handle ListId.all s else failed
      else failed
  | removeContact => removeContactProgram r (s.cl.contacts r).handle ListId.all s
  | unblockContact =>
    if s.cl.channels .deny then
      followCopy s.freed s <| .ask (.getGroupFlags .deny) fun g s' =>
        if g.ok && s'.cl.isConnected then
          if g.canRemove then
            followCopy s.freed s' <|
              .ask (.removeMembers .deny [(s'.cl.contacts r).handle]) fun m _ =>
                .ret { ok := m.ok, error := !m.ok }
          else .ret { ok := true }
        else failed
    else .ret { ok := true }

/-- The roster contact that the function looks up; the function that adds one does not. -/
def rosterContact (f : RosterRequest) (cl : Cl) (c : Contact) : Option Nat :=
  match f with
  | updateFlags => if 0 < c.handle then cl.lookup c.handle else none
  | addContact => some 0
  | removeContact | unblockContact => cl.lookup c.handle

/-- A call of the function: nothing is done without a connection, or for an unknown contact. -/
def program (f : RosterRequest) (c : Contact) (s : Live) : Blocking :=
  if s.cl.isConnected then
    match f.rosterContact s.cl c with
    | some r => f.body r c s
    | none => failed
  else failed

end RosterRequest

end Cl

end EdsTelepathy
