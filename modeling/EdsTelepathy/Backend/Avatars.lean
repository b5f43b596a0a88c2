import EdsTelepathy.Backend.Step
import EdsTelepathy.Lib.Path

/-!
# Image files

The file of an image is named after the token of the image. It is written when the image has
been received, and looked for when the token has changed and when the vcard is made.
-/

namespace EdsTelepathy

open Path

/-- `g_build_filename (g_get_home_dir (), ".osso-abook", "avatars", NULL)`. -/
def avatarDirectory (home : List Char) : List Char :=
  buildFilename [home, ".osso-abook".toList, "avatars".toList]

namespace Contact

/-- The same with the token of the contact; a token that is `NULL` ends the arguments. -/
def avatarPath (home : List Char) (c : Contact) : List Char :=
  match c.avatarToken with
  | some token => buildFilename [home, ".osso-abook".toList, "avatars".toList, token.toList]
  | none => avatarDirectory home

/--
The file that `tp_cl_avatar_tokens_changed_cb` and `e_book_backend_tp_contact_to_econtact` look
for: none where the token is missing or empty.
-/
def avatarFile (home : List Char) (c : Contact) : Option (List Char) :=
  match c.avatarToken with
  | some token => if token = "" then none else some (c.avatarPath home)
  | none => none

end Contact

namespace Backend

/--
The file that `tp_cl_avatar_data_changed_cb` writes, the token having been copied. The path is left as
`get_avatar_path` makes it; `g_file_new_for_path` canonicalises it, which resolves `..` by name.
-/
def avatarFileWritten (home : List Char) (b : Backend) (cIn : Contact) : Option (List Char) :=
  (b.book.handleToContact.lookup cIn.handle).map fun r =>
    (cIn.avatarDataFrom (b.book.contacts r)).avatarPath home

/-- The loop body of `tp_cl_avatar_tokens_changed_cb`, with the files that it tests. -/
def avatarFileTested (home : List Char) (st : Book × List (List Char)) (cIn : Contact) :
    Book × List (List Char) :=
  let book := st.1.mergeByHandle Contact.avatarTokenFrom cIn
  (book,
    match st.1.handleToContact.lookup cIn.handle with
    | some r => st.2 ++ ((book.contacts r).avatarFile home).toList
    | none => st.2)

/-- The files that `tp_cl_avatar_tokens_changed_cb` tests. -/
def avatarFilesTested (home : List Char) (b : Backend) (cs : List Contact) : List (List Char) :=
  (cs.foldl (avatarFileTested home) (b.book, [])).2

end Backend

end EdsTelepathy
