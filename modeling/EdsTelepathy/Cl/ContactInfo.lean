import EdsTelepathy.Lib.Grouping
import EdsTelepathy.Vcard

/-!
# Contact information as a vcard

What the connection manager knows about a contact is a list of fields, each with parameters and
values, and `contact_info_to_vcard_str` makes a vcard of it. The parameters come as strings,
`type=home` or just a name. Those that set a value are collected in a hash table first, so that
a name is given to the attribute once, with all its values; the iteration over the table is an
argument. What the vcard library makes of a parameter it is given is an argument as well.
-/

namespace EdsTelepathy

namespace ContactInfo

open Contact (Attribute EVCard)

/-- An `EVCardAttributeParam`: its name and its values. -/
abbrev Param := String × List String

/-- `e_vcard_attribute_param_new`. -/
def Param.new (name : String) : Param := (name, [])

/-- `e_vcard_attribute_param_add_value`. -/
def Param.addValue (p : Param) (value : String) : Param := (p.1, p.2 ++ [value])

/-! ## Strings -/

/-- The pieces of `g_strsplit`, of which the last is not split any further. -/
def pieces (d : Char) : Nat → List Char → List (List Char)
  | 0, s => [s]
  | n + 1, s =>
    match s.dropWhile (· ≠ d) with
    | [] => [s]
    | _ :: rest => s.takeWhile (· ≠ d) :: pieces d n rest

/-- `g_strsplit`, for a delimiter of one character; the empty string has no pieces. -/
def gStrsplit (s : List Char) (d : Char) (maxTokens : Nat) : List (List Char) :=
  if s = [] then [] else pieces d (maxTokens - 1) s

/-- `g_ascii_strup`. -/
def gAsciiStrup (s : List Char) : String := String.ofList (s.map Char.toUpper)

/-! ## Parameters -/

section Adding

variable {α : Type}

/-- The attribute and `param_table`. -/
structure Adding (α : Type) where
  attr : α
  paramTable : Table String Param := ∅

/-- The loop body of `contact_info_attribute_add_params`. -/
def addParameter (addParam : α → Param → α) (st : Adding α) (p : String) : Option (Adding α) :=
  match gStrsplit p.toList '=' 2 with
  -- no piece, so `list[0]` is the `NULL` at the end and `list[1]` lies behind the vector
  | [] => none
  | [_] => some { st with attr := addParam st.attr (Param.new (gAsciiStrup p.toList)) }
  | name :: value :: _ =>
    some { st with
      paramTable := Grouping.put Param.new Param.addValue st.paramTable
        (gAsciiStrup name) (gAsciiStrup value) }

/-- `contact_info_attribute_add_params`; there is no result where it reads behind a vector. -/
def contactInfoAttributeAddParams (addParam : α → Param → α) (order : List Param) (attr : α)
    (parameters : List String) : Option α :=
  (parameters.foldlM (addParameter addParam) { attr := attr }).map fun st =>
    (Table.listed order st.paramTable).foldl addParam st.attr

end Adding

/-! ## The vcard -/

/-- A field of the information: what `tp_value_array_unpack` takes out of an entry. -/
structure Field where
  fieldName : String
  parameters : List String := []
  fieldValue : List String := []
  deriving DecidableEq

/-- What the vcard library does, and the hash table. -/
structure Library where
  /-- `e_vcard_attribute_add_param`. -/
  addParam : Attribute → Param → Attribute
  /-- `e_vcard_to_string`. -/
  toString : EVCard → String
  /-- How the table that is made of these parameters is iterated over. -/
  order : List String → List Param := fun _ => []

/-- `e_vcard_attribute_add_value`. -/
def addValue (attr : Attribute) (value : String) : Attribute :=
  { attr with values := attr.values ++ [value] }

/-- The loop body of `contact_info_to_vcard_str`. -/
def addField (lib : Library) (evc : EVCard) (f : Field) : Option EVCard :=
  let attr : Attribute := { name := f.fieldName }
  let attr :=
    if f.parameters = [] then some attr
    else contactInfoAttributeAddParams lib.addParam (lib.order f.parameters) attr f.parameters
  attr.map fun attr => Contact.addAttribute evc (f.fieldValue.foldl addValue attr)

/-- `contact_info_to_vcard_str`: the vcard or `NULL`, if there is a result. -/
def contactInfoToVcardStr (lib : Library) (contactInfo : List Field) : Option (Option String) :=
  if contactInfo = [] then some none
  else (contactInfo.foldlM (addField lib) []).map fun evc => some (lib.toString evc)

end ContactInfo

end EdsTelepathy
