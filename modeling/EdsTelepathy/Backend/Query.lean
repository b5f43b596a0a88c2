import EdsTelepathy.Backend.Batch
import EdsTelepathy.Backend.Step

/-!
# Queries

`get_contact_list_idle_cb`: the vcards of the contacts that match a query. A query is parsed by
the library, which is a parameter here; only the query for everything is known to the backend
itself. An answer is given as the contacts whose vcards are in it.
-/

namespace EdsTelepathy

namespace Backend

/-- The query that asks for every contact. -/
def matchAll : String := "(contains \"x-evolution-any-field\" \"\")"

/-- `!g_ascii_strcasecmp (closure->query, _)`. -/
def isMatchAll (query : String) : Bool := query.toList.map Char.toLower = matchAll.toList.map Char.toLower

/-- The loop body of `get_contact_list_idle_cb`; a vcard is never empty, since it has its delimiters. -/
def matchInto (s : Contact.Surroundings) (getAll : Bool) (sexp : Contact.EVCard → Bool)
    (contactList : List Contact) (c : Contact) : List Contact :=
  if getAll || sexp (c.toEcontact s) then c :: contactList else contactList

/-- `get_contact_list_idle_cb`; `parse` is `e_book_backend_sexp_new` with `e_book_backend_sexp_match_vcard`. -/
def getContactListIdleCb (parse : String → Option (Contact.EVCard → Bool)) (s : Contact.Surroundings)
    (b : Backend) (query : Option String) : Except ClientError (List Contact) × Backend :=
  let b := b.getContact
  match query with
  | none => (.error .invalidArg, b)
  | some query =>
    if query = "" then (.error .invalidArg, b)
    else
      match parse query with
      | none => (.error .invalidArg, b)
      | some sexp =>
        let contacts := (Table.values b.book.uidToContact).map b.book.contacts
        (.ok (contacts.foldl (matchInto s (isMatchAll query) sexp) []), b)

end Backend

end EdsTelepathy
