import EdsTelepathy.Contact
import EdsTelepathy.Lib.Table

/-!
# The contact list layer

The state of `e-book-backend-tp-cl.c`. It owns one roster contact object for every
handle it has heard of on the current connection, in `contactsHash`, and tells the
address book about them by signals. Everything it asks of the connection manager is
asynchronous: a call is recorded in `calls` together with the number of the connection
it was made on, and its callback runs when the reply is delivered, in any order, possibly
after that connection was lost and another one came up. The idle sources it queues are
calls of the same kind.

A connection number is only an identity: the code compares `priv->conn` with `NULL` and
nothing else.
-/

namespace EdsTelepathy

/-- `EBookBackendTpClStatus`. -/
inductive ClStatus where
  | offline | online
  deriving DecidableEq, Repr

/-- `ChannelMembersChangedClosure`: references to contact objects, and handle numbers. -/
structure MembersChangedClosure where
  contactsToAdd : List Nat := []
  contactsToUpdate : List Nat := []
  contactsToRemove : List Nat := []
  handlesToInspect : List Nat := []
  deriving DecidableEq

/-- A callback that is owed: the reply of a call in flight, or a queued idle source. -/
inductive Call where
  /-- `tp_connection_ready_cb`. -/
  | connectionReady
  /-- `request_handles_for_contact_list_cb`. -/
  | requestHandles (l : ListId)
  /-- `tp_request_channel_cb`. -/
  | requestChannel (l : ListId)
  /-- `tp_channel_ready_cb`. -/
  | channelReady (l : ListId)
  /-- `channel_get_all_members_cb`, with the lists still to ask after this one. -/
  | getAllMembers (l : ListId) (rest : List ListId)
  /-- `get_contacts_cb`. -/
  | getContacts
  /-- `members_changed_with_details_cb`. -/
  | membersChangedWithDetails (closure : MembersChangedClosure)
  /-- `handle_members_changed_idle_cb`. -/
  | handleMembersChangedIdle (closure : MembersChangedClosure)
  deriving DecidableEq

/-- `EBookBackendTpClPrivate`, with the heap its contact objects live in. -/
structure Cl where
  conn : Option Nat := none
  status : ClStatus := .offline
  /-- `contact_list_channels[i] != NULL`. -/
  channels : ListId → Bool := fun _ => false
  /-- The contact object at each address. -/
  contacts : Nat → Contact := fun _ => Contact.new
  /-- The next free address. -/
  next : Nat := 0
  contactsHash : Table Nat Nat := ∅
  /-- Callbacks owed, each with the connection it was requested on. -/
  calls : List (Nat × Call) := []

/-- What the layer emits; the contacts are those of the array at the time of emission. -/
inductive Signal where
  | statusChanged (s : ClStatus)
  | contactsAdded (cs : List Contact)
  | contactsRemoved (cs : List Contact)
  | flagsChanged (cs : List Contact)
  | aliasesChanged (cs : List Contact)
  | presencesChanged (cs : List Contact)
  | avatarTokensChanged (cs : List Contact)
  | capabilitiesChanged (cs : List Contact)
  | contactInfoChanged (cs : List Contact)
  | avatarDataChanged (c : Contact)
  /-- The callback of `get_members`, with the contacts or with an error. -/
  | getMembersDone (result : Option (List Contact))
  deriving DecidableEq

/-- What an inspection reports about a handle (a `TpContact`). -/
structure TpContact where
  handle : Nat
  identifier : String
  aliasName : Option String := none
  presenceType : String := "unset"
  presenceStatus : Option String := none
  presenceMessage : Option String := none
  avatarToken : Option String := none
  deriving DecidableEq

namespace Cl

/-- Change the contact object at an address. -/
def modify (cl : Cl) (r : Nat) (f : Contact → Contact) : Cl :=
  { cl with contacts := Function.update cl.contacts r (f (cl.contacts r)) }

@[simp] theorem modify_contacts_self (cl : Cl) (r : Nat) (f : Contact → Contact) :
    (cl.modify r f).contacts r = f (cl.contacts r) := Function.update_self ..

theorem modify_contacts_of_ne {cl : Cl} {r r' : Nat} {f : Contact → Contact} (h : r' ≠ r) :
    (cl.modify r f).contacts r' = cl.contacts r' := Function.update_of_ne h ..

/-- `g_hash_table_lookup (priv->contacts_hash, handle)`. -/
def lookup (cl : Cl) (h : Nat) : Option Nat := cl.contactsHash.lookup h

/-- Record a call made on the current connection. -/
def call (cl : Cl) (c : Call) : Cl :=
  { cl with calls := cl.calls ++ [(cl.conn.getD 0, c)] }

/-- `verify_is_connected`. -/
def isConnected (cl : Cl) : Bool := cl.conn.isSome

/-- The body of the loop of `update_contact_details`. -/
def updateContactDetail (st : Cl × List Nat) (tp : TpContact) : Cl × List Nat :=
  match st.1.lookup tp.handle with
  | none => st
  | some r =>
    (st.1.modify r fun c =>
      { c.updateName (some tp.identifier) with
        aliasName := tp.aliasName
        genericStatus := tp.presenceType
        status := tp.presenceStatus
        statusMessage := tp.presenceMessage
        avatarToken := tp.avatarToken },
     st.2 ++ [r])

/-- `update_contact_details`. -/
def updateContactDetails (cl : Cl) (tps : List TpContact) : Cl × List Nat :=
  tps.foldl updateContactDetail (cl, [])

/-- The contents of an array of contact objects. -/
def read (cl : Cl) (rs : List Nat) : List Contact := rs.map cl.contacts

end Cl

end EdsTelepathy
