import EdsTelepathy.Cl.Details

/-!
# Capabilities as classes of channels

The `ContactCapabilities` interface reports for every handle the classes of channels that can be
requested: the properties a request has to fix, and those it may give. `get_contact_capabilities`
turns them into the flags of the contact.
-/

namespace EdsTelepathy

/-- A requestable channel class. -/
structure ChannelClass where
  /-- The fixed properties: each key once, with its value where that is a string. -/
  fixed : List (String × Option String)
  /-- The names of the allowed properties. -/
  allowed : List String
  deriving DecidableEq

namespace ChannelClass

/-- `tp_asv_get_string (fixed, TP_PROP_CHANNEL_CHANNEL_TYPE)`. -/
def channelType (c : ChannelClass) : Option String :=
  (c.fixed.lookup "org.freedesktop.Telepathy.Channel.ChannelType").join

/-- The loop over the allowed properties of a class of streamed media channels. -/
def streamedMedia (caps : Flags) (property : String) : Flags :=
  if property = "org.freedesktop.Telepathy.Channel.Type.StreamedMedia.InitialAudio" then
    caps ||| capVoice
  else if property = "org.freedesktop.Telepathy.Channel.Type.StreamedMedia.InitialVideo" then
    caps ||| capVideo
  else if property = "org.freedesktop.Telepathy.Channel.Type.StreamedMedia.ImmutableStreams" then
    caps ||| capImmutableStreams
  else caps

/-- The loop over the allowed properties of a class of call channels. -/
def call (caps : Flags) (property : String) : Flags :=
  if property = "org.freedesktop.Telepathy.Channel.Type.Call1.InitialAudio" then caps ||| capVoice
  else if property = "org.freedesktop.Telepathy.Channel.Type.Call1.InitialVideo" then
    caps ||| capVideo
  else caps

/-- The loop over the classes; one that fixes more than the target is passed over. -/
def addTo (caps : Flags) (c : ChannelClass) : Flags :=
  if c.fixed.length ≠ 2 then caps
  else if c.channelType = some "org.freedesktop.Telepathy.Channel.Type.StreamedMedia" then
    c.allowed.foldl streamedMedia caps
  else if c.channelType = some "org.freedesktop.Telepathy.Channel.Type.Call1" then
    c.allowed.foldl call caps
  else if c.channelType = some "org.freedesktop.Telepathy.Channel.Type.Text" then caps ||| capText
  else caps

end ChannelClass

/-- `get_contact_capabilities`; the table comes in the order in which it is walked. -/
def getContactCapabilities (caps : List (Nat × List ChannelClass)) : List (Nat × Flags) :=
  caps.map fun p => (p.1, p.2.foldl ChannelClass.addTo 0)

/-- `contact_capabilities_changed_cb`, and `get_contact_capabilities_for_members_cb`. -/
def Cl.contactCapabilitiesChangedCb (cl : Cl) (caps : List (Nat × List ChannelClass))
    (order : List Nat) : Cl × List Signal :=
  cl.detailsCb (.contactCapabilities (getContactCapabilities caps) order)

end EdsTelepathy
