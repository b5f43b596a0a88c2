import EdsTelepathy.Cl.Members
import EdsTelepathy.Lib.Adjacent

/-!
# Details of roster contacts

Signals of the connection, and replies to `inspect_additional_features`, that say something
new about known handles. They all do the same: each handle reported is looked up, the
contact found is changed, and the contacts changed are passed on in one signal; a handle
that is not in the table is ignored. What a call returned and what the corresponding signal
carried go through the same function, so one event stands for both.
-/

namespace EdsTelepathy

/-- A presence of `PresencesChanged`, its type by its name. -/
structure Presence where
  type : String := "unset"
  status : Option String := none
  message : Option String := none
  deriving DecidableEq

/-- `ContactCapability`: what one entry of `GetCapabilities` says about a handle. -/
structure ContactCapability where
  handle : Nat
  channelType : String
  specific : Flags := 0
  deriving DecidableEq

/-- What the connection manager reports about handles. -/
inductive Details where
  | aliasesChanged (aliases : List (Nat × String))
  | presencesChanged (presences : List (Nat × Presence))
  | avatarUpdated (handle : Nat) (token : String)
  | avatarRetrieved (handle : Nat) (token : String) (data : List UInt8) (mime : String)
  /--
  `capabilities_changed_cb` and `get_capabilities_for_members_cb`; `order` is what
  `g_array_sort` makes of the contacts.
  -/
  | capabilities (caps : List ContactCapability) (order : List Nat)
  /-- `contact_capabilities_changed_cb` and `get_contact_capabilities_for_members_cb`. -/
  | contactCapabilities (caps : List (Nat × Flags)) (order : List Nat)
  /-- `contact_info_changed_cb`; the information is the vcard it is turned into, if any. -/
  | contactInfoChanged (handle : Nat) (info : Option String)
  | contactInfoForMembers (infos : List (Nat × Option String))
  deriving DecidableEq

def capText : Flags := 2
def capVoice : Flags := 4
def capVideo : Flags := 8
def capImmutableStreams : Flags := 16

def tpChannelMediaCapabilityAudio : Flags := 1
def tpChannelMediaCapabilityVideo : Flags := 2
def tpChannelMediaCapabilityImmutableStreams : Flags := 32

/--
What `tp_value_array_unpack` leaves of an entry. Its last argument is `cap->specific` where the
address was meant, which is the zero of a cleared array: a `NULL` location, that nothing is
written to.
-/
def ContactCapability.unpacked (cap : ContactCapability) : ContactCapability :=
  { cap with specific := 0 }

namespace Contact

/-- What one entry of `update_capabilities` does to the contact. -/
def withCapability (cap : ContactCapability) (c : Contact) : Contact :=
  let c :=
    if cap.channelType = "org.freedesktop.Telepathy.Channel.Type.StreamedMedia" then
      let caps := c.capabilities &&& ~~~(capVoice ||| capVideo)
      let caps := if cap.specific.has tpChannelMediaCapabilityAudio then caps ||| capVoice else caps
      let caps := if cap.specific.has tpChannelMediaCapabilityVideo then caps ||| capVideo else caps
      let caps :=
        if cap.specific.has tpChannelMediaCapabilityImmutableStreams then
          caps ||| capImmutableStreams
        else caps
      { c with capabilities := caps }
    else c
  if cap.channelType = "org.freedesktop.Telepathy.Channel.Type.Text" then
    { c with capabilities := c.capabilities ||| capText }
  else c

end Contact

namespace Cl

/-- The loop body of the callbacks: the contact of the handle, if there is one, is changed. -/
def detailChanged (f : Contact → Contact) (h : Nat) (st : Cl × List Nat) : Cl × List Nat :=
  match st.1.lookup h with
  | some r => (st.1.modify r f, st.2 ++ [r])
  | none => st

/-- The loop of the callbacks: the contacts changed, in order. -/
def detailsChanged {α : Type} (handle : α → Nat) (f : α → Contact → Contact) (cl : Cl)
    (xs : List α) : Cl × List Nat :=
  xs.foldl (fun st x => detailChanged (f x) (handle x) st) (cl, [])

/-- `aliases_changed_cb`. -/
def aliasesChangedCb (cl : Cl) (aliases : List (Nat × String)) : Cl × List Signal :=
  let (cl, rs) := cl.detailsChanged Prod.fst (fun a c => { c with aliasName := some a.2 }) aliases
  (cl, cl.emit rs .aliasesChanged)

/-- `presences_changed_cb`. -/
def presencesChangedCb (cl : Cl) (presences : List (Nat × Presence)) : Cl × List Signal :=
  let (cl, rs) := cl.detailsChanged Prod.fst (fun p c =>
    { c with
      genericStatus := p.2.type
      status := p.2.status
      statusMessage := p.2.message }) presences
  (cl, cl.emit rs .presencesChanged)

/-- `avatar_updated_cb`. -/
def avatarUpdatedCb (cl : Cl) (h : Nat) (token : String) : Cl × List Signal :=
  match cl.lookup h with
  | some r =>
    if (cl.contacts r).avatarToken = some token then (cl, [])
    else
      let cl := cl.modify r fun c => { c with avatarToken := some token }
      (cl, [.avatarTokensChanged (cl.read [r])])
  | none => (cl, [])

/-- `avatar_retrieved_cb`. -/
def avatarRetrievedCb (cl : Cl) (h : Nat) (token : String) (data : List UInt8) (mime : String) :
    Cl × List Signal :=
  match cl.lookup h with
  | some r =>
    let cl := cl.modify r fun c =>
      { c with
        avatarLen := data.length
        avatarData := some data
        avatarMime := some mime
        avatarToken := some token }
    (cl, [.avatarDataChanged (cl.contacts r)])
  | none => (cl, [])

/--
`contact_handle_sort_func`. It is given the addresses of two places of the array and takes them
for contacts, so the handle it reads is the low word of the pointer that is there; and
`-1 ? x : y` is `x`.
-/
def contactHandleSortFunc (low : Nat → BitVec 32) (a b : Nat) : Int :=
  if low a < low b then 1 else 0

/-- `g_array_sort`: some order of the contacts. -/
def arranged (order rs : List Nat) : List Nat := if order.isPerm rs then order else rs

/-- The loop that removes duplicates; it reads the handles of the contacts. -/
def withoutDuplicates (cl : Cl) (rs : List Nat) : List Nat :=
  Distinct.withoutAdjacent (fun r => (cl.contacts r).handle) rs

/-- `update_capabilities`; an entry for each channel type, so a contact may be named twice. -/
def updateCapabilities (cl : Cl) (caps : List ContactCapability) (order : List Nat) :
    Cl × List Signal :=
  let (cl, rs) := cl.detailsChanged ContactCapability.handle Contact.withCapability caps
  (cl, cl.emit (cl.withoutDuplicates (arranged order rs)) .capabilitiesChanged)

/-- `update_contact_capabilities`. -/
def updateContactCapabilities (cl : Cl) (caps : List (Nat × Flags)) (order : List Nat) :
    Cl × List Signal :=
  let (cl, rs) := cl.detailsChanged Prod.fst (fun p c => { c with capabilities := p.2 }) caps
  (cl, cl.emit (cl.withoutDuplicates (arranged order rs)) .capabilitiesChanged)

/-- `capabilities_changed_cb`, and `get_capabilities_for_members_cb`. -/
def capabilitiesChangedCb (cl : Cl) (caps : List ContactCapability) (order : List Nat) :
    Cl × List Signal :=
  cl.updateCapabilities (caps.map ContactCapability.unpacked) order

/-- The loop body of the contact info callbacks: only information that is there is passed on. -/
def contactInfoReported (st : Cl × List Nat) (p : Nat × Option String) : Cl × List Nat :=
  match st.1.lookup p.1 with
  | some r =>
    (st.1.modify r fun c => { c with contactInfo := p.2 },
      if p.2 = none then st.2 else st.2 ++ [r])
  | none => st

/-- `get_contact_info_for_members_cb`. -/
def getContactInfoForMembersCb (cl : Cl) (infos : List (Nat × Option String)) :
    Cl × List Signal :=
  let (cl, rs) := infos.foldl contactInfoReported (cl, [])
  (cl, cl.emit rs .contactInfoChanged)

/-- `contact_info_changed_cb`: what `get_contact_info_for_members_cb` does for one contact. -/
def contactInfoChangedCb (cl : Cl) (h : Nat) (info : Option String) : Cl × List Signal :=
  cl.getContactInfoForMembersCb [(h, info)]

/-- The callback of a report; all of them ask `verify_is_connected` first. -/
def detailsCb (cl : Cl) (d : Details) : Cl × List Signal :=
  if cl.isConnected then
    match d with
    | .aliasesChanged aliases => cl.aliasesChangedCb aliases
    | .presencesChanged presences => cl.presencesChangedCb presences
    | .avatarUpdated h token => cl.avatarUpdatedCb h token
    | .avatarRetrieved h token data mime => cl.avatarRetrievedCb h token data mime
    | .capabilities caps order => cl.capabilitiesChangedCb caps order
    | .contactCapabilities caps order => cl.updateContactCapabilities caps order
    | .contactInfoChanged h info => cl.contactInfoChangedCb h info
    | .contactInfoForMembers infos => cl.getContactInfoForMembersCb infos
  else (cl, [])

end Cl

end EdsTelepathy
