import EdsTelepathy.Cl.State

/-!
# MembersChanged

`tp_channel_members_changed_cb` changes the flags of known contacts at once and gives
unknown handles a nameless contact object, but everything else waits: the signals to
the address book and the removal of contacts that left their last list run in a closure,
from an idle source or, when there are new handles to inspect, from the reply.
-/

namespace EdsTelepathy

namespace Cl

/-- `CLEAR_LIST_FLAGS` followed by setting one bit of the list. -/
def setStanding (l : ListId) (s : Standing) (c : Contact) : Contact :=
  { c with flags := (c.flags &&& ~~~l.allFlags) ||| l.flag s }

/-- `flags_to_remove` taken away from the flags. -/
def clearStanding (l : ListId) (c : Contact) : Contact :=
  { c with flags := c.flags &&& ~~~l.allFlags }

/-- The body of the loops over `added`, `local_pending` and `remote_pending`. -/
def memberSet (l : ListId) (s : Standing) (st : Cl × MembersChangedClosure) (h : Nat) :
    Cl × MembersChangedClosure :=
  match st.1.lookup h with
  | some r =>
    (st.1.modify r (setStanding l s),
     { st.2 with contactsToUpdate := st.2.contactsToUpdate ++ [r] })
  | none =>
    ({ st.1 with
        contacts := Function.update st.1.contacts st.1.next
          { Contact.new with handle := h, flags := l.flag s }
        next := st.1.next + 1 },
     { st.2 with
        contactsToAdd := st.2.contactsToAdd ++ [st.1.next]
        handlesToInspect := st.2.handlesToInspect ++ [h] })

/-- The body of the loop over `removed`. -/
def memberRemoved (l : ListId) (st : Cl × MembersChangedClosure) (h : Nat) :
    Cl × MembersChangedClosure :=
  match st.1.lookup h with
  | some r =>
    let cl := st.1.modify r (clearStanding l)
    let closure := { st.2 with contactsToUpdate := st.2.contactsToUpdate ++ [r] }
    if (cl.contacts r).flags = 0 then
      (cl, { closure with contactsToRemove := closure.contactsToRemove ++ [r] })
    else (cl, closure)
  | none => st

/-- The loop that enters the new contacts into the hash table. -/
def enterAdded (cl : Cl) (rs : List Nat) : Cl :=
  { cl with
    contactsHash := Table.insertAll cl.contactsHash (fun r => (cl.contacts r).handle) rs }

/-- `tp_channel_members_changed_cb`. -/
def tpChannelMembersChangedCb (cl : Cl) (l : ListId)
    (added removed localPending remotePending : List Nat) : Cl :=
  if cl.isConnected then
    let st := added.foldl (memberSet l .current) (cl, {})
    let st := removed.foldl (memberRemoved l) st
    let st := localPending.foldl (memberSet l .localPending) st
    let st := remotePending.foldl (memberSet l .remotePending) st
    let cl := st.1.enterAdded st.2.contactsToAdd
    if st.2.handlesToInspect = [] then cl.call (.handleMembersChangedIdle st.2)
    else cl.call (.membersChangedWithDetails st.2)
  else cl

/-- A signal about an array of contacts, unless the array is empty. -/
def emit (cl : Cl) (rs : List Nat) (sig : List Contact → Signal) : List Signal :=
  if rs = [] then [] else [sig (cl.read rs)]

/-- `update_changed_members`. -/
def updateChangedMembers (cl : Cl) (k : MembersChangedClosure) (updated : List Nat) :
    Cl × List Signal :=
  let signals := cl.emit k.contactsToAdd .contactsAdded
    ++ cl.emit k.contactsToRemove .contactsRemoved
    ++ cl.emit k.contactsToUpdate .flagsChanged
  let cl := { cl with
    contactsHash :=
      Table.eraseAll cl.contactsHash (fun r => (cl.contacts r).handle) k.contactsToRemove }
  (cl, signals ++ cl.emit updated .aliasesChanged ++ cl.emit updated .avatarTokensChanged
    ++ cl.emit updated .presencesChanged)

/-- `remove_invalid_contacts`, as a filter (the order of the array is not kept either). -/
def removeInvalidContacts (cl : Cl) (rs : List Nat) : List Nat :=
  rs.filter fun r =>
    (cl.contacts r).name ≠ none ∧ (cl.lookup (cl.contacts r).handle).isSome

/-- `members_changed_with_details_cb`; `none` is the error reply. -/
def membersChangedWithDetailsCb (cl : Cl) (k : MembersChangedClosure)
    (reply : Option (List TpContact)) : Cl × List Signal :=
  match reply with
  | none => (cl, [])
  | some tps =>
    if cl.isConnected then
      let (cl, updated) := cl.updateContactDetails tps
      let k := { k with
        contactsToAdd := cl.removeInvalidContacts k.contactsToAdd
        contactsToRemove := cl.removeInvalidContacts k.contactsToRemove
        contactsToUpdate := cl.removeInvalidContacts k.contactsToUpdate }
      cl.updateChangedMembers k updated
    else (cl, [])

/-- `handle_members_changed_idle_cb`. -/
def handleMembersChangedIdleCb (cl : Cl) (k : MembersChangedClosure) : Cl × List Signal :=
  if cl.isConnected then cl.updateChangedMembers k [] else (cl, [])

end Cl

end EdsTelepathy
