import EdsTelepathy.Backend.Outbox
import EdsTelepathy.Lib.Loop

/-!
# Signals of the contact list layer

The handlers that `tp_ready_cb` connects. Most of them do the same thing with a
different field, and are one definition: look every contact up by its handle, change
the ones that are found, queue them for the views and perhaps for the database.
-/

namespace EdsTelepathy

/-! ## Fresh uids -/

/-- The `n`-th candidate of `e_book_backend_tp_generate_uid`. -/
def uidCandidate (pathSuffix : String) (name : Option String) (count : Nat) : String :=
  let base := pathSuffix ++ "-" ++ name.getD "(null)"
  if count = 0 then base else base ++ "-" ++ toString count

/-- The loop of `generate_uid`: the first candidate from `count` on that is not a key. -/
def generateUidFrom (pathSuffix : String) (name : Option String) (uids : Table String Nat) :
    Nat → Nat → String
  | 0, count => uidCandidate pathSuffix name count
  | fuel + 1, count =>
    if (uids.lookup (uidCandidate pathSuffix name count)).isSome then
      generateUidFrom pathSuffix name uids fuel (count + 1)
    else uidCandidate pathSuffix name count

/-- `e_book_backend_tp_generate_uid`. One candidate more than there are keys is enough. -/
def generateUid (pathSuffix : String) (uids : Table String Nat) (name : Option String) : String :=
  generateUidFrom pathSuffix name uids (Table.size uids) 0

/-- `G_MAXINT`. -/
def gMaxInt : Int := 2147483647

/-- The variables of `e_book_backend_tp_generate_uid`; the counter is a `gint`. -/
structure UidSearch where
  count : Int
  tmp : String

/-- The body of its loop; there is no next counter after the largest. -/
def UidSearch.next (pathSuffix : String) (name : Option String) (s : UidSearch) :
    Option UidSearch :=
  if s.count < gMaxInt then
    let count := s.count + 1
    some { count, tmp := pathSuffix ++ "-" ++ name.getD "(null)" ++ "-" ++ toString count }
  else none

/-- `e_book_backend_tp_generate_uid` as it is written, for as many lookups as it is granted. -/
def searchUid (pathSuffix : String) (uids : Table String Nat) (name : Option String)
    (fuel : Nat) : Option String :=
  let start := { count := 0, tmp := pathSuffix ++ "-" ++ name.getD "(null)" }
  (Loop.whileLoop (fun s : UidSearch => (uids.lookup s.tmp).isSome)
    (UidSearch.next pathSuffix name) fuel start).map UidSearch.tmp

namespace Contact

/-- `pending_flags &= ~SCHEDULE_ADD`. -/
def clearAdd (c : Contact) : Contact :=
  { c with pendingFlags := c.pendingFlags &&& ~~~scheduleAdd }

/-- `pending_flags &= ~SCHEDULE_DELETE`. -/
def clearDelete (c : Contact) : Contact :=
  { c with pendingFlags := c.pendingFlags &&& ~~~scheduleDelete }

/-- What `tp_cl_contacts_added` copies into a contact that is known by name. -/
def confirmed (cIn c : Contact) : Contact :=
  { c with
    flags := cIn.flags
    handle := cIn.handle
    aliasName := cIn.aliasName
    pendingFlags := c.pendingFlags &&& ~~~scheduleAdd }

/-- What `tp_cl_avatar_tokens_changed_cb` copies: a token that is missing is not copied. -/
def avatarTokenFrom (cIn c : Contact) : Contact :=
  if cIn.avatarToken = none then c else { c with avatarToken := cIn.avatarToken }

/-- What `tp_cl_avatar_data_changed_cb` copies. -/
def avatarDataFrom (cIn c : Contact) : Contact :=
  { avatarTokenFrom cIn c with
    avatarMime := cIn.avatarMime
    avatarData := cIn.avatarData
    avatarLen := cIn.avatarLen }

/-- Whether the contact has an image that is not in the file system. -/
def needsImage (files : List String) (c : Contact) : Bool :=
  match c.avatarToken with
  | some token => token ≠ "" && token ∉ files
  | none => false

end Contact

namespace Book

/-! ## Removal -/

/-- Take one contact out of the indexes, under the keys it has now. -/
def deleteContact (b : Book) (r : Nat) : Book :=
  let c := b.contacts r
  let b := if 0 < c.handle then { b with handleToContact := b.handleToContact.erase c.handle } else b
  { b with
    nameToContact := b.nameToContact.erase c.name
    uidToContact := b.uidToContact.erase c.uid }

/-- The contacts that an array of roster contacts names by handle. -/
def byHandle (b : Book) (cs : List Contact) : List Nat :=
  cs.filterMap fun c => b.handleToContact.lookup c.handle

/-- The loop body of the handlers that copy a field from the roster contact. -/
def mergeByHandle (f : Contact → Contact → Contact) (b : Book) (c : Contact) : Book :=
  match b.handleToContact.lookup c.handle with
  | some r => b.modify r (f c)
  | none => b

/-- The loop body of `tp_cl_avatar_tokens_changed_cb`, with the array of contacts to update. -/
def avatarTokenInto (files : List String) (st : Book × List Nat) (c : Contact) :
    Book × List Nat :=
  let book := st.1.mergeByHandle Contact.avatarTokenFrom c
  (book,
    match st.1.handleToContact.lookup c.handle with
    | some r => if (book.contacts r).needsImage files then st.2 else st.2 ++ [r]
    | none => st.2)

/-- The loop body of `tp_cl_contacts_added` where the name is known. -/
def contactConfirmed (b : Book) (r : Nat) (c : Contact) : Book := b.modify r c.confirmed

/-- The loop body of `tp_cl_contacts_added` where the name is new. -/
def contactFound (pathSuffix : String) (b : Book) (c : Contact) : Book :=
  let b' := b.alloc { c.dup with uid := generateUid pathSuffix b.uidToContact c.name }
  { b' with nameToContact := b'.nameToContact.insert c.name b.next }

/-- The end of the loop body of `tp_cl_contacts_added`: enter the contact under its handle and uid. -/
def enterAdded (b : Book) (r : Nat) : Book :=
  { b with
    handleToContact := b.handleToContact.insert (b.contacts r).handle r
    uidToContact := b.uidToContact.insert (b.contacts r).uid r }

/-- The loop body of `tp_cl_contacts_added`, and the contact it ends with. -/
def contactAdded (pathSuffix : String) (b : Book) (c : Contact) : Book :=
  match b.nameToContact.lookup c.name with
  | some r => (b.contactConfirmed r c).enterAdded r
  | none => (b.contactFound pathSuffix c).enterAdded b.next

/-- The arrays `contacts_to_add` and `contacts_to_update` of `tp_cl_contacts_added`. -/
structure AddedArrays where
  toAdd : List Nat := []
  toUpdate : List Nat := []

/-- `contactAdded` with the arrays the handler fills. -/
def contactAddedInto (pathSuffix : String) (st : Book × AddedArrays) (c : Contact) :
    Book × AddedArrays :=
  (st.1.contactAdded pathSuffix c,
    match st.1.nameToContact.lookup c.name with
    | some r => { st.2 with toUpdate := st.2.toUpdate ++ [r] }
    | none =>
      { toAdd := st.2.toAdd ++ [st.1.next], toUpdate := st.2.toUpdate ++ [st.1.next] })

end Book

namespace Backend

/-- `delete_contacts`. -/
def deleteContacts (b : Backend) (rs : List Nat) : Backend :=
  let heap := b.book.contacts
  let uids := rs.map fun r => (heap r).uid
  let out := { b.out with
    contactsRemotelyChanged := uids.foldl (fun t u => t.erase u) b.out.contactsRemotelyChanged
    contactsToUpdateInDb := uids.foldl (fun t u => t.erase u) b.out.contactsToUpdateInDb }
  { b with
    book := rs.foldl Book.deleteContact b.book
    out := out.announceRemoval heap uids }

/-- The handlers that copy fields by handle: `f` is what they copy. -/
def mergeByHandle (b : Backend) (f : Contact → Contact → Contact) (updateDb : Bool)
    (cs : List Contact) : Backend :=
  let rs := b.book.byHandle cs
  let book := cs.foldl (Book.mergeByHandle f) b.book
  { b with
    book := book
    out := if rs = [] then b.out else b.out.updateContacts book.contacts rs updateDb }

/-- `tp_cl_aliases_changed_cb`. -/
def tpClAliasesChangedCb (b : Backend) (cs : List Contact) : Backend :=
  b.mergeByHandle (fun src c => { c with aliasName := src.aliasName }) true cs

/-- `tp_cl_presence_changed_cb`. -/
def tpClPresenceChangedCb (b : Backend) (cs : List Contact) : Backend :=
  b.mergeByHandle
    (fun src c =>
      { c with
        genericStatus := src.genericStatus
        status := src.status
        statusMessage := src.statusMessage }) false cs

/-- `tp_cl_flags_changed`. -/
def tpClFlagsChanged (b : Backend) (cs : List Contact) : Backend :=
  b.mergeByHandle (fun src c => { c with flags := src.flags }) true cs

/-- `tp_cl_capabilities_changed_cb`. -/
def tpClCapabilitiesChangedCb (b : Backend) (cs : List Contact) : Backend :=
  b.mergeByHandle (fun src c => { c with capabilities := src.capabilities }) false cs

/-- `tp_cl_contact_info_changed_cb`. -/
def tpClContactInfoChangedCb (b : Backend) (cs : List Contact) : Backend :=
  b.mergeByHandle (fun src c => { c with contactInfo := src.contactInfo }) true cs

/--
`tp_cl_avatar_tokens_changed_cb`. A contact whose image is missing is not queued: the image is
requested, and the contact is queued when it has been written.
-/
def tpClAvatarTokensChangedCb (b : Backend) (cs : List Contact) : Backend :=
  let (book, rs) := cs.foldl (Book.avatarTokenInto b.avatarFiles) (b.book, [])
  { b with
    book := book
    out := if rs = [] then b.out else b.out.updateContacts book.contacts rs true }

/-- `tp_cl_avatar_data_changed_cb`; the image is then written to its file. -/
def tpClAvatarDataChangedCb (b : Backend) (cIn : Contact) : Backend :=
  match b.book.handleToContact.lookup cIn.handle with
  | some r =>
    let c := b.book.contacts r
    let out :=
      if cIn.avatarToken ≠ none ∧ c.avatarToken ≠ cIn.avatarToken then
        b.out.updateContacts b.book.contacts [r] true
      else b.out
    { b with
      book := b.book.modify r cIn.avatarDataFrom
      out := out
      avatarSaves := b.avatarSaves ++ [r] }
  | none => b

/-- `avatar_data_saved_cb`. -/
def avatarDataSavedCb (b : Backend) (r : Nat) (ok : Bool) : Backend :=
  if ok then { b with out := b.out.updateContacts b.book.contacts [r] true } else b

/-- `tp_cl_contacts_added`. -/
def tpClContactsAdded (b : Backend) (cs : List Contact) : Backend :=
  let (book, arrays) := cs.foldl (Book.contactAddedInto b.pathSuffix) (b.book, {})
  let heap := book.contacts
  let out := b.out.flushDbUpdates heap
  let out :=
    if arrays.toAdd = [] then out
    else (out.transaction (fun db => db.addContacts (arrays.toAdd.map heap))).2
  let out := if arrays.toUpdate = [] then out else out.updateContacts heap arrays.toUpdate true
  { b with book := book, out := out.notifyRemotelyUpdatedContactsAndComplete heap }

/-- `tp_cl_contacts_removed`. -/
def tpClContactsRemoved (b : Backend) (cs : List Contact) : Backend :=
  let rs := b.book.byHandle cs
  let b := { b with
    book := rs.foldl (fun book r => book.modify r Contact.clearDelete) b.book }
  if rs = [] then b else b.deleteContacts rs

end Backend

end EdsTelepathy
