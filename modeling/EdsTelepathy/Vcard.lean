import EdsTelepathy.Cl.Details

/-!
# The vcard of a contact

`e_book_backend_tp_contact_to_econtact`: the attributes that the backend makes of a
contact, one after the other, and after them those of the information the contact
published. An attribute that is added goes to the head of the list that a reader walks,
so the reader meets the last one first.
-/

namespace EdsTelepathy

namespace Contact

/-- What the export takes from elsewhere. -/
structure Surroundings where
  vcardField : String
  profileName : String := ""
  /-- `e_vcard_new_from_string`. -/
  parse : String → EVCard := fun _ => []
  /-- The URI of the image with a token, if there is a file for it. -/
  avatarUri : String → Option String := fun _ => none
  -- the protocol names its field in lower case
  field_ne_uid : vcardField ≠ "UID" := by decide
  field_ne_masterUid : vcardField ≠ "X-OSSO-MASTER-UID" := by decide

/-- `e_vcard_add_attribute`. -/
def addAttribute (evc : EVCard) (attr : Attribute) : EVCard := attr :: evc

/-- `e_book_backend_tp_merge_vcard_with_contact_info`. -/
def mergeVcardWithContactInfo (evc contactInfo : EVCard) : EVCard :=
  contactInfo.foldl addAttribute evc

/-! ## The attributes one by one -/

def uidAttribute (c : Contact) : Attribute := { name := "UID", values := [c.uid] }

/-- The address, with the old ones as a parameter. -/
def nameAttribute (c : Contact) (s : Surroundings) : Attribute :=
  { name := s.vcardField
    params := [("TYPE", [s.profileName]),
        ("X-OSSO-VALID", [if c.flags.has contactInvalid then "no" else "yes"])]
      ++ (if c.variants = [] then [] else [("X-OSSO-VARIANTS", c.variants)])
    values := c.name.toList }

/-- The alias, unless it is the address. -/
def nicknameAttribute (c : Contact) : List Attribute :=
  match c.aliasName with
  | none => []
  | some a => if some a = c.name then [] else [{ name := "NICKNAME", values := [a] }]

def masterUidAttribute (uid : Option String) : Attribute :=
  { name := "X-OSSO-MASTER-UID", values := uid.toList }

/-- The handle, printed as a signed number. -/
def handleAttribute (c : Contact) : List Attribute :=
  if c.handle = 0 then []
  else [{ name := "X-TELEPATHY-HANDLE", values := [toString (BitVec.ofNat 32 c.handle).toInt] }]

/-- Where the contact stands on a list. -/
def listAnswer (c : Contact) (l : ListId) : String :=
  if c.flags.has (l.flag .current) then "yes"
  else if c.flags.has (l.flag .localPending) then "local-pending"
  else if c.flags.has (l.flag .remotePending) then "remote-pending"
  else "no"

def listAttribute (c : Contact) (name : String) (l : ListId) : Attribute :=
  { name := name, values := [c.listAnswer l] }

def subscribedAttribute (c : Contact) : Attribute := c.listAttribute "X-TELEPATHY-SUBSCRIBED" .subscribe
def publishedAttribute (c : Contact) : Attribute := c.listAttribute "X-TELEPATHY-PUBLISHED" .publish
def blockedAttribute (c : Contact) : Attribute := c.listAttribute "X-TELEPATHY-BLOCKED" .deny

/-- The presence: its name, its type where that is another word, and the message. -/
def presenceAttribute (c : Contact) : List Attribute :=
  match c.status with
  | none => []
  | some status =>
    [{ name := "X-TELEPATHY-PRESENCE"
       values := [status] ++ (if c.genericStatus = status then [] else [c.genericStatus])
        ++ c.statusMessage.toList }]

def capabilitiesAttribute (c : Contact) : List Attribute :=
  if c.capabilities = 0 then []
  else
    let words := [(capText, "text"), (capVoice, "voice"), (capVideo, "video"),
      (capImmutableStreams, "immutable-streams")]
    [{ name := "X-TELEPATHY-CAPABILITIES"
       values := (words.filter fun w => c.capabilities.has w.1).map Prod.snd }]

/-- The image, if there is a file with it. -/
def photoAttribute (c : Contact) (s : Surroundings) : List Attribute :=
  match c.avatarToken with
  | none => []
  | some token =>
    if token = "" then []
    else
      match s.avatarUri token with
      | none => []
      | some uri => [{ name := "PHOTO", params := [("VALUE", ["URI"])], values := [uri] }]

/-! ## The whole vcard -/

/-- The attributes that the backend makes itself, in the order in which it adds them. -/
def ownAttributes (c : Contact) (s : Surroundings) : List Attribute :=
  [c.uidAttribute, c.nameAttribute s] ++ c.nicknameAttribute ++ c.masterUids.map masterUidAttribute
    ++ c.handleAttribute ++ [c.subscribedAttribute, c.publishedAttribute, c.blockedAttribute]
    ++ c.presenceAttribute ++ c.capabilitiesAttribute ++ c.photoAttribute s

/-- `e_book_backend_tp_contact_to_econtact`. -/
def toEcontact (c : Contact) (s : Surroundings) : EVCard :=
  let evc := (c.ownAttributes s).foldl addAttribute []
  match c.contactInfo with
  | none => evc
  | some info => mergeVcardWithContactInfo evc (s.parse info)

end Contact

end EdsTelepathy
