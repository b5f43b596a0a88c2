import EdsTelepathy.Backend.Step
import EdsTelepathy.Lib.Sorted
import EdsTelepathy.Vcard

/-!
# In which order a view is sent the book

`notify_all_contacts_updated_for_view`: the visible contacts are collected in the order in which
the hash table is walked and sorted by two tags. What the tags are made of comes from the libraries,
which are parameters here.
-/

namespace EdsTelepathy

/-- `ContactSortOrder`. -/
inductive ContactSortOrder where
  | firstLast
  | lastFirst
  | nickname
  deriving DecidableEq

/-- What the tags take from the libraries. -/
structure Collation where
  /-- `e_contact_get_const` of `E_CONTACT_GIVEN_NAME`. -/
  givenName : Contact.EVCard → Option String
  /-- `e_contact_get_const` of `E_CONTACT_FAMILY_NAME`. -/
  familyName : Contact.EVCard → Option String
  /-- `e_contact_get_const` of `E_CONTACT_NICKNAME`. -/
  nickname : Contact.EVCard → Option String
  /-- `g_utf8_casefold` and `g_utf8_collate_key`. -/
  collateKey : String → String

/-- The tags of a `ContactSortData`. -/
structure SortTags where
  tag1 : Option String
  tag2 : Option String := none
  deriving DecidableEq

namespace SortTags

/-- The first attribute of the name, in any case, with `e_vcard_attribute_get_value`. -/
def fieldValue (vcardField : String) (ec : Contact.EVCard) : Option String :=
  (ec.find? fun a => a.name.toList.map Char.toLower = vcardField.toList.map Char.toLower).bind
    Contact.Attribute.value

/-- The nickname, or what the protocol calls the contact. -/
def fallback (k : Collation) (vcardField : String) (ec : Contact.EVCard) : Option String :=
  match k.nickname ec with
  | some nickname => some nickname
  | none => fieldValue vcardField ec

/-- `contact_sort_data_new`, before the tags are collated. -/
def plain (k : Collation) (sortOrder : ContactSortOrder) (vcardField : String)
    (ec : Contact.EVCard) : SortTags :=
  match sortOrder with
  | .nickname => { tag1 := fallback k vcardField ec }
  | _ =>
    match k.givenName ec, k.familyName ec with
    | some first, some last =>
      if sortOrder = .firstLast then { tag1 := some first, tag2 := some last }
      else { tag1 := some last, tag2 := some first }
    | some first, none => { tag1 := some first }
    | none, some last => { tag1 := some last }
    | none, none => { tag1 := fallback k vcardField ec }

/-- `contact_sort_data_new`. -/
def new (k : Collation) (sortOrder : ContactSortOrder) (vcardField : String)
    (ec : Contact.EVCard) : SortTags :=
  let tags := plain k sortOrder vcardField ec
  { tag1 := tags.tag1.map k.collateKey, tag2 := tags.tag2.map k.collateKey }

/-- `contact_sort_data_compare`; `g_strcmp0` puts `NULL` first. -/
def compare (a b : SortTags) : Ordering := (Ord.compare a.tag1 b.tag1).then (Ord.compare a.tag2 b.tag2)

end SortTags

namespace Backend

/-- The tags of a contact's vcard. -/
def sortTags (k : Collation) (sortOrder : ContactSortOrder) (s : Contact.Surroundings)
    (c : Contact) : SortTags :=
  SortTags.new k sortOrder s.vcardField (c.toEcontact s)

/-- The contacts that `notify_all_contacts_updated_for_view` sends; `order` is how it meets them. -/
def sortedContacts (k : Collation) (sortOrder : ContactSortOrder) (s : Contact.Surroundings)
    (b : Backend) (order : List Nat) : List Contact :=
  Sorted.sortBy SortTags.compare (sortTags k sortOrder s)
    ((order.map b.book.contacts).filter Contact.isVisible)

/-- `notify_all_contacts_updated_for_view`. -/
def notifyAllContactsUpdatedForView (k : Collation) (sortOrder : ContactSortOrder)
    (s : Contact.Surroundings) (b : Backend) (order : List Nat) : List Notice :=
  (b.sortedContacts k sortOrder s order).map Notice.update ++ [.complete]

end Backend

end EdsTelepathy
