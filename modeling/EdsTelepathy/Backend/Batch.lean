import EdsTelepathy.Backend.Requests
import EdsTelepathy.Vcard

/-!
# A batch of contacts to create

`e_book_backend_tp_create_contacts` and its idle callback, which calls `run_create_contact`
for one vcard after the other and answers the request. The call is a parameter of the loop:
what becomes of the answer does not depend on what the call does.
-/

namespace EdsTelepathy

/-- The errors a request is answered with. -/
inductive ClientError where
  | invalidArg | noSpace
  deriving DecidableEq

/-- What keeps a request from being taken up at all. -/
inductive Refusal where
  /-- `priv->load_error`. -/
  | loadError
  /-- `e_book_backend_tp_db_check_available_disk_space` says no. -/
  | noSpace
  deriving DecidableEq

/-- `e_data_book_respond_create_contacts`: the error, if any, and the contacts. -/
structure CreateAnswer (β : Type) where
  error : Option ClientError
  econtacts : List β
  deriving DecidableEq

/-- What follows the label `done`. -/
def respond {β : Type} (statusOk : Bool) (status : ClientError) (econtacts : List β) :
    CreateAnswer β :=
  { error := if statusOk then none else some status, econtacts := econtacts }

section Loop

variable {σ α β : Type}

/-- `e_book_backend_tp_create_contacts`: each vcard is put before those that came earlier. -/
def queueVcards (vcards : List α) : List α := vcards.foldl (fun econtacts v => v :: econtacts) []

/--
The loop of `create_contacts_idle_cb`: `status`, where it was set, the contacts created so far,
the last one first, and what the calls left behind.
-/
def createLoop (run : σ → α → Option β × σ) (s : σ) (econtacts : List β) :
    List α → Option ClientError × List β × σ
  | [] => (none, econtacts, s)
  | v :: rest =>
    match run s v with
    | (some contact, s) => createLoop run s (contact :: econtacts) rest
    | (none, s) => (some .invalidArg, [], s)

/-- `create_contacts_idle_cb`, from the refusals on; the loop leaves `status_ok` as it was. -/
def answerCreate (run : σ → α → Option β × σ) (refusal : Option Refusal) (s : σ) (vcards : List α) :
    CreateAnswer β × σ :=
  match refusal with
  | some .loadError => (respond false .invalidArg [], s)
  | some .noSpace => (respond false .noSpace [], s)
  | none =>
    let (status, econtacts, s) := createLoop run s [] (queueVcards vcards)
    (respond true (status.getD .invalidArg) econtacts, s)

end Loop

namespace Backend

/-- One turn of the loop: `run_create_contact` and `to_econtact` of the contact it returned. -/
def createOne (s : Contact.Surroundings) (b : Backend) (ec : Contact.EVCard) :
    Option Contact.EVCard × Backend :=
  let b := { b with out := b.out.flushDbUpdates b.book.contacts }
  match b.runCreateContact ec with
  | (some r, b) => (some ((b.book.contacts r).toEcontact s), b)
  | (none, b) => (none, b)

/-- `create_contacts_idle_cb`. -/
def createContacts (b : Backend) (s : Contact.Surroundings) (refusal : Option Refusal)
    (vcards : List Contact.EVCard) : CreateAnswer Contact.EVCard × Backend :=
  let b :=
    if refusal = some .loadError then b
    else { b with out := b.out.notifyRemotelyUpdatedContactsAndComplete b.book.contacts }
  answerCreate (createOne s) refusal b vcards

/-- A batch of one does what the request for a single contact does. -/
theorem createContacts_single (b : Backend) (s : Contact.Surroundings) (ec : Contact.EVCard) :
    (b.createContacts s none [ec]).2 = b.createContact ec := by
  have hflush : b.flush.runCreateContact ec = ({ b with
      out := (b.out.notifyRemotelyUpdatedContactsAndComplete b.book.contacts).flushDbUpdates
        b.book.contacts } : Backend).runCreateContact ec := rfl
  unfold createContacts answerCreate createContact
  dsimp only [queueVcards, List.foldl_cons, List.foldl_nil]
  unfold createLoop createOne
  rw [if_neg (by decide), hflush]
  dsimp only
  generalize Backend.runCreateContact _ ec = created
  obtain ⟨_ | r, b'⟩ := created <;> rfl

end Backend

end EdsTelepathy
