import EdsTelepathy.Types

/-!
# The contact record

`e-book-backend-tp-contact.c`: the record shared by the roster layer and the address
book, its copy, its visibility, and the decoding of a submitted vcard into it.

A string that may be `NULL` is an `Option`. The two exceptions are `uid`, which every
contact of the address book has, and `genericStatus`, which always points to a constant;
a roster contact, whose `uid` is `NULL`, carries the empty string there and nothing
reads it.
-/

namespace EdsTelepathy

/-- `_EBookBackendTpContact`, less the reference count. -/
structure Contact where
  handle : Nat := 0
  name : Option String := none
  /-- `alias`. -/
  aliasName : Option String := none
  genericStatus : String := "unknown"
  status : Option String := some "unknown"
  statusMessage : Option String := none
  avatarToken : Option String := none
  avatarMime : Option String := none
  avatarLen : Nat := 0
  avatarData : Option (List UInt8) := none
  contactInfo : Option String := none
  flags : Flags := 0
  pendingFlags : Flags := 0
  uid : String := ""
  masterUids : List (Option String) := []
  capabilities : Flags := 0
  variants : List String := []
  deriving DecidableEq

namespace Contact

/-- `e_book_backend_tp_contact_new`. -/
def new : Contact := {}

/-- `g_strdup` of a byte buffer: the bytes before the first zero byte, and that zero. -/
def strdupBytes (bytes : List UInt8) : List UInt8 := bytes.takeWhile (· ≠ 0) ++ [0]

/--
`e_book_backend_tp_contact_dup`. The array of master UIDs is first given its final
length, filled with `NULL`, and the copies are appended after that.
-/
def dup (c : Contact) : Contact :=
  { handle := c.handle
    name := c.name
    aliasName := c.aliasName
    genericStatus := c.genericStatus
    status := c.status
    statusMessage := c.statusMessage
    avatarToken := c.avatarToken
    avatarMime := c.avatarMime
    avatarLen := c.avatarLen
    avatarData := c.avatarData.map strdupBytes
    contactInfo := c.contactInfo
    flags := c.flags
    pendingFlags := c.pendingFlags
    uid := c.uid
    masterUids := List.replicate c.masterUids.length none ++ c.masterUids
    capabilities := c.capabilities
    variants := c.variants.foldl (fun vs v => vs.insert v) [] }

/--
The copy where `behind` is what the memory holds after the image. A copy of a string that is
not terminated goes on reading there; `dup` takes it to stop at the end of the image.
-/
def dupIn (behind : List UInt8) (c : Contact) : Contact :=
  { c.dup with avatarData := c.avatarData.map fun data => strdupBytes (data ++ behind) }

theorem dup_eq_dupIn (c : Contact) : c.dup = c.dupIn [] := by
  unfold dupIn
  simp only [List.append_nil]
  rfl

/-- Copying a set into another adds its elements. -/
theorem mem_foldl_insert {vs ws : List String} {v : String} :
    v ∈ ws.foldl (fun vs v => vs.insert v) vs ↔ v ∈ vs ∨ v ∈ ws := by
  induction ws generalizing vs with
  | nil => simp
  | cons w ws ih =>
    rw [List.foldl_cons, ih, List.mem_insert_iff, List.mem_cons]
    constructor
    · rintro ((h | h) | h)
      · exact .inr (.inl h)
      · exact .inl h
      · exact .inr (.inr h)
    · rintro (h | h | h)
      · exact .inl (.inr h)
      · exact .inl (.inl h)
      · exact .inr h

/-- `e_book_backend_tp_contact_is_visible`. -/
def isVisible (c : Contact) : Bool :=
  if c.pendingFlags.has scheduleDelete then false
  else if c.flags &&& allListFlags = publish then false
  else true

theorem isVisible_iff {c : Contact} :
    c.isVisible = true
      ↔ c.pendingFlags.has scheduleDelete = false ∧ c.flags &&& allListFlags ≠ publish := by
  unfold isVisible
  cases c.pendingFlags.has scheduleDelete <;> simp

/-! ## Decoding a vcard -/

/-- An `EVCardAttribute`: its name, its parameters and its values. -/
structure Attribute where
  name : String
  params : List (String × List String) := []
  values : List String := []
  deriving DecidableEq

/-- `e_vcard_attribute_get_value`: the first value, or `NULL`. -/
def Attribute.value (a : Attribute) : Option String := a.values.head?

/-- An `EVCard`, as the list that `e_vcard_get_attributes` walks. -/
abbrev EVCard := List Attribute

/-- `e_contact_get_const (contact, E_CONTACT_UID)`. -/
def cardUid (ec : EVCard) : Option String :=
  (ec.find? (fun a => a.name = "UID")).bind Attribute.value

/-- `master_uids_differ`. -/
def masterUidsDiffer (a b : List (Option String)) : Bool := a ≠ b

/-- `e_book_backend_tp_contact_update_tp_attribute`. -/
def updateTpAttribute (c : Contact) (attr : Attribute) (flag : Flags) : Contact :=
  if attr.value = some "yes" then
    if c.flags.has flag then c
    else { c with pendingFlags := c.pendingFlags ||| flag ||| scheduleUpdateFlags }
  else if attr.value = some "no" then
    if c.flags.has flag then
      -- the source writes `&=` where the other branch has `|=`
      { c with pendingFlags := (c.pendingFlags &&& flag) ||| scheduleUpdateFlags }
    else c
  else c

/-- One turn of the attribute loop of `update_from_econtact`, with the master UIDs seen so far. -/
def decodeAttribute (vcardField : String) (st : Contact × List (Option String))
    (attr : Attribute) : Contact × List (Option String) :=
  if attr.name = "X-OSSO-MASTER-UID" then (st.1, st.2 ++ [attr.value])
  else if attr.name = vcardField then ({ st.1 with name := attr.value }, st.2)
  else if attr.name = "X-TELEPATHY-SUBSCRIBED" then (st.1.updateTpAttribute attr subscribe, st.2)
  else if attr.name = "X-TELEPATHY-PUBLISHED" then (st.1.updateTpAttribute attr publish, st.2)
  else if attr.name = "X-TELEPATHY-BLOCKED" then (st.1.updateTpAttribute attr deny, st.2)
  else st

/-- `e_book_backend_tp_contact_update_from_econtact`: the answer and the contact as left. -/
def updateFromEcontact (c : Contact) (ec : EVCard) (vcardField : String) : Bool × Contact :=
  let c := { c with pendingFlags := c.flags }
  let (c, masterUids) := ec.foldl (decodeAttribute vcardField) (c, [])
  let c :=
    if masterUidsDiffer masterUids c.masterUids then
      { c with pendingFlags := c.pendingFlags ||| scheduleUpdateMasterUid, masterUids := masterUids }
    else c
  (c.name ≠ none && c.name ≠ some "", c)

/-! ## Names, master UIDs and variants -/

/-- `e_book_backend_tp_contact_update_name`. -/
def updateName (c : Contact) (newName : Option String) : Contact :=
  match newName with
  | none => c
  | some n =>
    if c.name = some n then c
    else
      match c.name with
      | some old =>
        { c with
          variants := c.variants.insert old
          pendingFlags := c.pendingFlags ||| scheduleUpdateVariants
          name := some n }
      | none => { c with name := some n }

theorem updateName_some (c : Contact) (n : String) : (c.updateName (some n)).name = some n := by
  unfold updateName
  dsimp only
  split
  · rename_i h; exact h
  · split <;> rfl

/-- The loop body of `e_book_backend_tp_contact_update_master_uids`. -/
def addMasterUid (c : Contact) (uid : Option String) : Contact :=
  if uid ∈ c.masterUids then c
  else
    { c with
      masterUids := c.masterUids ++ [uid]
      pendingFlags := c.pendingFlags ||| scheduleUpdateMasterUid }

/-- `e_book_backend_tp_contact_update_master_uids`. -/
def updateMasterUids (c : Contact) (uids : List (Option String)) : Contact :=
  uids.foldl addMasterUid c

/-- `g_ptr_array_remove_index_fast`: the last element takes the place of the removed one. -/
def removeIndexFast (xs : List (Option String)) (i : Nat) : List (Option String) :=
  match xs.getLast? with
  | some last => (xs.set i last).dropLast
  | none => xs

/-- `e_book_backend_tp_contact_remove_master_uid`. -/
def removeMasterUid (c : Contact) (uid : String) : Contact :=
  match c.masterUids.findIdx? (· = some uid) with
  | none => c
  | some i =>
    { c with
      masterUids := removeIndexFast c.masterUids i
      pendingFlags := c.pendingFlags ||| scheduleUpdateMasterUid }

/-- `e_book_backend_tp_contact_remove_all_master_uids`. -/
def removeAllMasterUids (c : Contact) : Contact :=
  if c.masterUids = [] then c
  else { c with masterUids := [], pendingFlags := c.pendingFlags ||| scheduleUpdateMasterUid }

/-- `e_book_backend_tp_contact_add_variants_from_contact`. -/
def addVariantsFromContact (dest src : Contact) : Contact :=
  let dest := { dest with variants := src.variants.foldl (fun vs v => vs.insert v) dest.variants }
  if src.variants = [] then dest
  else { dest with pendingFlags := dest.pendingFlags ||| scheduleUpdateVariants }

end Contact

end EdsTelepathy
