import EdsTelepathy.Cl.Details
import EdsTelepathy.Cl.Members
import EdsTelepathy.Cl.Walk
import EdsTelepathy.Lib.Run

/-!
# What can happen to the contact list layer

The account connects and disconnects, the connection manager emits `MembersChanged` and
reports details of contacts, and the callbacks that are owed run, each once, in any order.
An event that answers a call names the call by its position in `calls`; it is enabled only
there.
-/

namespace EdsTelepathy

namespace Cl

/-- `e_book_backend_tp_cl_go_offline`. -/
def goOffline (cl : Cl) : Cl × List Signal :=
  let rs := Table.values cl.contactsHash
  let cl := { cl with
    contacts := fun r =>
      if r ∈ rs then
        { cl.contacts r with
          status := some "unknown", genericStatus := "unknown", statusMessage := none,
          capabilities := 0 }
      else cl.contacts r }
  let signals :=
    if rs = [] then [] else [.presencesChanged (cl.read rs), .capabilitiesChanged (cl.read rs)]
  ({ cl with contactsHash := ∅ }, signals)

/-- `e_book_backend_tp_cl_set_status`. -/
def setStatus (cl : Cl) (s : ClStatus) : Cl × List Signal :=
  if s = cl.status then (cl, [])
  else
    match s with
    | .online => ({ cl with status := .online }, [.statusChanged .online])
    | .offline =>
      let (cl, signals) := { cl with status := .offline }.goOffline
      (cl, signals ++ [.statusChanged .offline])

/-- `free_channels_and_connection`. -/
def freeChannelsAndConnection (cl : Cl) : Cl :=
  { cl with channels := fun _ => false, conn := none }

/-- `_setup_tp_connection`. -/
def setupTpConnection (cl : Cl) (conn : Nat) : Cl :=
  if cl.isConnected then cl else { cl with conn := some conn }.call .connectionReady

/-- `connection_status_changed_cb`: the connection that is up, or that there is none. -/
def connectionStatusChangedCb (cl : Cl) (conn : Option Nat) : Cl × List Signal :=
  match conn with
  | some c => (cl.setupTpConnection c, [])
  | none =>
    let (cl, signals) := cl.setStatus .offline
    (cl.freeChannelsAndConnection, signals)

/-- `get_contact_list_channels`, in the order the source asks. -/
def getContactListChannels (cl : Cl) : Cl :=
  [ListId.subscribe, .publish, .stored, .allow, .deny].foldl
    (fun cl l => cl.call (.requestHandles l)) cl

/-- `tp_connection_ready_cb`. -/
def tpConnectionReadyCb (cl : Cl) (ok : Bool) : Cl :=
  if ok && cl.isConnected then cl.getContactListChannels else cl

/-- `request_handles_for_contact_list_cb`. -/
def requestHandlesForContactListCb (cl : Cl) (l : ListId) (ok : Bool) : Cl :=
  if ok && cl.isConnected then cl.call (.requestChannel l) else cl

/-- `tp_request_channel_cb`. -/
def tpRequestChannelCb (cl : Cl) (l : ListId) (ok : Bool) : Cl :=
  if ok && cl.isConnected then
    { cl with channels := Function.update cl.channels l true }.call (.channelReady l)
  else cl

/--
`tp_channel_ready_cb`. Where the channel could not be prepared the source crashes: it passes `error`
and not its address to `g_clear_error`. Here the callback then does nothing, as it was meant to.
-/
def tpChannelReadyCb (cl : Cl) (l : ListId) (ok : Bool) : Cl × List Signal :=
  if ok && cl.isConnected then
    -- the subscribe list alone decides that the account is online
    if l = .subscribe then cl.setStatus .online else (cl, [])
  else (cl, [])

/-- An event of the layer. Replies carry what the connection manager answered. -/
inductive Event where
  | connectionStatusChanged (conn : Option Nat)
  | membersChanged (l : ListId) (added removed localPending remotePending : List Nat)
  | details (d : Details)
  | done (i : Nat) (ok : Bool)
  | allMembers (i : Nat) (reply : Option AllMembers)
  | contacts (i : Nat) (reply : Option (List TpContact))
  deriving DecidableEq

/-- Take the `i`-th call off the list of owed callbacks. -/
def takeCall (cl : Cl) (i : Nat) : Option (Call × Cl) :=
  match cl.calls[i]? with
  | some p => some (p.2, { cl with calls := cl.calls.eraseIdx i })
  | none => none

/-- What the layer does with an event, and the signals it emits meanwhile. -/
def step (cl : Cl) : Event → Option (Cl × List Signal)
  | .connectionStatusChanged conn => some (cl.connectionStatusChangedCb conn)
  | .membersChanged l added removed lp rp =>
    some (cl.tpChannelMembersChangedCb l added removed lp rp, [])
  | .details d => some (cl.detailsCb d)
  | .done i ok =>
    match cl.takeCall i with
    | some (.connectionReady, cl) => some (cl.tpConnectionReadyCb ok, [])
    | some (.requestHandles l, cl) => some (cl.requestHandlesForContactListCb l ok, [])
    | some (.requestChannel l, cl) => some (cl.tpRequestChannelCb l ok, [])
    | some (.channelReady l, cl) => some (cl.tpChannelReadyCb l ok)
    | some (.handleMembersChangedIdle k, cl) => some (cl.handleMembersChangedIdleCb k)
    | _ => none
  | .allMembers i reply =>
    match cl.takeCall i with
    | some (.getAllMembers l rest, cl) => some (cl.channelGetAllMembersCb l rest reply)
    | _ => none
  | .contacts i reply =>
    match cl.takeCall i with
    | some (.getContacts, cl) => some (cl.getContactsCb reply)
    | some (.membersChangedWithDetails k, cl) => some (cl.membersChangedWithDetailsCb k reply)
    | _ => none

end Cl

end EdsTelepathy
