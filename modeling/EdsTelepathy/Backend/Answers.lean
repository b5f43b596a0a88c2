import EdsTelepathy.Backend.Batch
import EdsTelepathy.Backend.Step

/-!
# What the clients are answered

The requests to remove contacts, to modify one and to return one, with what they are answered.
`remove_contacts_idle_cb` works through a batch: it writes the contacts that really go at the end,
in one call, and lists their uids, the last one first.
-/

namespace EdsTelepathy

/-- The errors these requests are answered with. -/
inductive RequestError where
  | notOpened
  | noSuchBook
  | noSpace
  | invalidArg
  | notSupported
  | contactNotFound
  deriving DecidableEq

/-- What keeps a request from being taken up. -/
inductive Obstacle where
  /-- `priv->load_error`. -/
  | loadError
  /-- `!priv->tpdb`. -/
  | noBook
  /-- `e_book_backend_tp_db_check_available_disk_space` says no. -/
  | noSpace
  deriving DecidableEq

/-- `e_data_book_respond_remove_contacts`. -/
structure RemoveAnswer where
  error : Option RequestError
  idsRemoved : List String
  deriving DecidableEq

namespace Backend

/-! ## Remove -/

/-- `run_remove_contact`: the contact it returns, with `really_remove`. -/
def runRemoveContact (b : Backend) (id : String) : Option (Nat × Bool) × Backend :=
  let b := { b with out := b.out.flushDbUpdates b.book.contacts }
  match splitId id with
  | [] => (none, b)
  | uid :: tokens =>
    match b.book.uidToContact.lookup uid with
    | none => (none, b)
    | some r =>
      let really := ((b.book.contacts r).removeTokens tokens).2
      let b := b.modify r fun c => (c.removeTokens tokens).1
      (some (r, really), if really then b.reallyRemove r else b.removeMasterUids r)

/-- The variables of `remove_contacts_idle_cb`. -/
structure RemoveLocals where
  idsRemoved : List String := []
  contactsToUpdate : List Nat := []

/-- The body of its loop. The uid of an invalid contact, which is deleted by then, is read all the same. -/
def removeInto (st : Backend × RemoveLocals) (id : String) : Backend × RemoveLocals :=
  match st.1.runRemoveContact id with
  | (some (r, true), b) =>
    (b, { idsRemoved := (b.book.contacts r).uid :: st.2.idsRemoved
          contactsToUpdate := st.2.contactsToUpdate ++ [r] })
  | (_, b) => (b, st.2)

/-- The end of it: the contacts that go are written. -/
def writeRemoved (st : Backend × RemoveLocals) : Backend :=
  if st.2.contactsToUpdate = [] then st.1
  else
    { st.1 with out := (st.1.out.transaction fun db =>
        db.updateContacts (st.2.contactsToUpdate.map st.1.book.contacts)).2 }

/-- `remove_contacts_idle_cb`. -/
def removeContacts (b : Backend) (obstacle : Option Obstacle) (ids : List String) :
    RemoveAnswer × Backend :=
  match obstacle with
  | some .loadError => ({ error := some .notOpened, idsRemoved := [] }, b)
  | some .noBook => ({ error := some .noSuchBook, idsRemoved := [] }, b)
  | some .noSpace => ({ error := some .noSpace, idsRemoved := [] }, b)
  | none =>
    let st := ids.foldl removeInto (b.flush, {})
    ({ error := none, idsRemoved := st.2.idsRemoved }, writeRemoved st)

/-! ## Modify -/

/-- `modify_contact_idle_cb`, with the vcard it answers. -/
def modifyContactIdleCb (s : Contact.Surroundings) (b : Backend) (obstacle : Option Obstacle)
    (ec : Contact.EVCard) : Except RequestError Contact.EVCard × Backend :=
  match obstacle with
  | some .loadError => (.error .invalidArg, b)
  | some .noBook => (.error .noSuchBook, b.getContact)
  | some .noSpace => (.error .noSpace, b.getContact)
  | none =>
    let b' := b.modifyContact ec
    match (Contact.cardUid ec).bind b.book.uidToContact.lookup with
    | some r => (.ok ((b'.book.contacts r).toEcontact s), b')
    | none => (.error .invalidArg, b')

/-- `e_book_backend_tp_modify_contacts`; no vcard at all is taken for an empty one. -/
def modifyContacts (s : Contact.Surroundings) (b : Backend) (obstacle : Option Obstacle)
    (vcards : List Contact.EVCard) : Except RequestError Contact.EVCard × Backend :=
  match vcards with
  | _ :: _ :: _ => (.error .notSupported, b)
  | [ec] => b.modifyContactIdleCb s obstacle ec
  | [] => b.modifyContactIdleCb s obstacle []

/-! ## Get -/

/-- `get_contact_idle_cb`, with the vcard it answers. -/
def getContactIdleCb (s : Contact.Surroundings) (b : Backend) (uid : Option String) :
    Except RequestError Contact.EVCard × Backend :=
  let b := b.getContact
  match uid with
  | none => (.error .invalidArg, b)
  | some uid =>
    if uid = "" then (.error .invalidArg, b)
    else
      match b.book.uidToContact.lookup uid with
      | none => (.error .contactNotFound, b)
      | some r => (.ok ((b.book.contacts r).toEcontact s), b)

end Backend

end EdsTelepathy
