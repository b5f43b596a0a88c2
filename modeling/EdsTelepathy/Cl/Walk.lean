import EdsTelepathy.Cl.State

/-!
# Reading the roster

`e_book_backend_tp_cl_get_members` asks the lists one after the other, skipping those
that have no channel, and then inspects every handle it has collected. The answer goes
to the callback of the caller, once.
-/

namespace EdsTelepathy

namespace Cl

/-- `finish_get_channel_members`. -/
def finishGetChannelMembers (cl : Cl) : Cl × List Signal :=
  if cl.isConnected then
    if cl.contactsHash.entries = [] then (cl, [.getMembersDone (some [])])
    else (cl.call .getContacts, [])
  else (cl, [.getMembersDone none])

/-- `get_next_channel_members`, with the lists from `closure->list_id` on. -/
def getNextChannelMembers (cl : Cl) : List ListId → Cl × List Signal
  | [] => if cl.isConnected then cl.finishGetChannelMembers else (cl, [.getMembersDone none])
  | l :: rest =>
    if cl.isConnected then
      if cl.channels l then (cl.call (.getAllMembers l rest), [])
      else cl.getNextChannelMembers rest
    else (cl, [.getMembersDone none])

/-- The body of the three loops of `channel_get_all_members_cb`. -/
def memberListed (flag : Flags) (cl : Cl) (h : Nat) : Cl :=
  match cl.lookup h with
  | some r => cl.modify r fun c => { c with handle := h, flags := c.flags ||| flag }
  | none =>
    { cl with
      contacts := Function.update cl.contacts cl.next
        { Contact.new with handle := h, flags := flag }
      next := cl.next + 1
      contactsHash := cl.contactsHash.insert h cl.next }

/-- The members of one list, as `GetAllMembers` returns them. -/
structure AllMembers where
  current : List Nat := []
  localPending : List Nat := []
  remotePending : List Nat := []
  deriving DecidableEq

/-- `channel_get_all_members_cb`; `none` is the error reply. -/
def channelGetAllMembersCb (cl : Cl) (l : ListId) (rest : List ListId)
    (reply : Option AllMembers) : Cl × List Signal :=
  match reply with
  | none => (cl, [.getMembersDone none])
  | some m =>
    if cl.isConnected then
      let cl := m.current.foldl (memberListed (l.flag .current)) cl
      let cl := m.localPending.foldl (memberListed (l.flag .localPending)) cl
      let cl := m.remotePending.foldl (memberListed (l.flag .remotePending)) cl
      cl.getNextChannelMembers rest
    else (cl, [.getMembersDone none])

/-- `get_contacts_cb`; `none` is the error reply. -/
def getContactsCb (cl : Cl) (reply : Option (List TpContact)) : Cl × List Signal :=
  match reply with
  | none => (cl, [.getMembersDone none])
  | some tps =>
    if cl.isConnected then
      let (cl, contacts) := cl.updateContactDetails tps
      let signals :=
        if contacts = [] then []
        else
          [.aliasesChanged (cl.read contacts), .avatarTokensChanged (cl.read contacts),
           .presencesChanged (cl.read contacts), .flagsChanged (cl.read contacts)]
      (cl, .getMembersDone (some (cl.read contacts)) :: signals)
    else (cl, [.getMembersDone none])

/-- `e_book_backend_tp_cl_get_members`: nothing happens unless the status is online. -/
def getMembers (cl : Cl) : Cl × List Signal :=
  match cl.status with
  | .online => cl.getNextChannelMembers ListId.all
  | .offline => (cl, [])

end Cl

end EdsTelepathy
