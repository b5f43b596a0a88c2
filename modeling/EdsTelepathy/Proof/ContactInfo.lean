import EdsTelepathy.Cl.ContactInfo
import Mathlib.Data.List.TakeWhile

/-!
# Parameters are grouped without loss

Strings without an equals sign go to the attribute at once, as parameters without values; the
others go through the table, each name with the texts that are set for it, and reach the
attribute when the table is iterated over. So whatever the order of the iteration, the
attribute is given one parameter for a name that is set. The empty string is the exception: it
has no pieces, and the loop looks for a second one behind the end of the vector.
-/

namespace EdsTelepathy

namespace ContactInfo

/-! ## What the strings say -/

/-- The name before the first equals sign and the text after it, in capitals. -/
def setting (p : String) : Option (String × String) :=
  if '=' ∈ p.toList then
    some (gAsciiStrup (p.toList.takeWhile (· ≠ '=')),
      gAsciiStrup (p.toList.dropWhile (· ≠ '=')).tail)
  else none

/-- The values that the strings set. -/
def settings (parameters : List String) : List (String × String) := parameters.filterMap setting

/-- The strings without an equals sign, in capitals. -/
def bareNames (parameters : List String) : List String :=
  (parameters.filter fun p => '=' ∉ p.toList).map fun p => gAsciiStrup p.toList

/-- The parameters given are those of the strings, grouped by name. -/
structure Grouped (parameters : List String) (given : List Param) : Prop where
  /-- Each string without an equals sign is a parameter without values. -/
  bare : given.filter (fun p => p.2 = []) = (bareNames parameters).map fun name => (name, [])
  /-- Each name that is set is one parameter, with the texts in the order of the strings. -/
  valued : ∀ name, given.filter (fun p => p.1 = name ∧ p.2 ≠ []) =
    if Grouping.under (settings parameters) name = [] then []
    else [(name, Grouping.under (settings parameters) name)]

theorem setting_eq_none {p : String} : setting p = none ↔ '=' ∉ p.toList := by
  unfold setting
  split
  · rename_i hmem
    exact ⟨fun h => (by cases h), fun hnot => absurd hmem hnot⟩
  · rename_i hnot
    exact ⟨fun _ => hnot, fun _ => rfl⟩

theorem gStrsplit_two {s : List Char} (hs : s ≠ []) (d : Char) :
    gStrsplit s d 2 =
      if d ∈ s then [s.takeWhile (· ≠ d), (s.dropWhile (· ≠ d)).tail] else [s] := by
  unfold gStrsplit
  rw [if_neg hs]
  show pieces d 1 s = _
  unfold pieces
  split
  · rename_i hnil
    have hnot : d ∉ s := by
      intro hd
      have hall := List.dropWhile_eq_nil_iff.mp hnil d hd
      simp at hall
    rw [if_neg hnot]
  · rename_i rest hcons
    have hmem : d ∈ s := by
      by_contra hnot
      have hnil : s.dropWhile (· ≠ d) = [] := by
        rw [List.dropWhile_eq_nil_iff]
        intro x hx
        simpa using fun he : x = d => hnot (he ▸ hx)
      rw [hnil] at hcons
      cases hcons
    rw [if_pos hmem, hcons]
    rfl

/-! ## The loop -/

variable {α : Type} {addParam : α → Param → α}

theorem addParameter_empty (addParam : α → Param → α) (st : Adding α) :
    addParameter addParam st "" = none := rfl

theorem addParameter_bare {p : String} (hp : p ≠ "") (h : setting p = none) (st : Adding α) :
    addParameter addParam st p
      = some { st with attr := addParam st.attr (Param.new (gAsciiStrup p.toList)) } := by
  have hs : p.toList ≠ [] := fun hnil => hp (String.toList_eq_nil_iff.mp hnil)
  unfold addParameter
  rw [gStrsplit_two hs, if_neg (setting_eq_none.mp h)]

theorem addParameter_setting {p : String} {i : String × String} (h : setting p = some i)
    (st : Adding α) :
    addParameter addParam st p
      = some { st with
          paramTable := Grouping.put Param.new Param.addValue st.paramTable i.1 i.2 } := by
  unfold setting at h
  split at h
  · rename_i hmem
    obtain rfl := Option.some.inj h
    have hs : p.toList ≠ [] := List.ne_nil_of_mem hmem
    unfold addParameter
    rw [gStrsplit_two hs, if_pos hmem]
  · cases h

/-- What the loop makes of strings that are not empty. -/
theorem addParameters_eq {parameters : List String} (h : ∀ p ∈ parameters, p ≠ "")
    (st : Adding α) :
    parameters.foldlM (addParameter addParam) st
      = some { attr := ((bareNames parameters).map Param.new).foldl addParam st.attr
               paramTable := Grouping.putAll Param.new Param.addValue st.paramTable
                 (settings parameters) } := by
  induction parameters generalizing st with
  | nil => rfl
  | cons p rest ih =>
    have ih := ih fun p' hp' => h p' (List.mem_cons_of_mem p hp')
    rw [List.foldlM_cons]
    cases hset : setting p with
    | none =>
      have hnot : '=' ∉ p.toList := setting_eq_none.mp hset
      have hbare : bareNames (p :: rest) = gAsciiStrup p.toList :: bareNames rest := by
        unfold bareNames
        rw [List.filter_cons_of_pos (by simpa using hnot), List.map_cons]
      have hsets : settings (p :: rest) = settings rest := List.filterMap_cons_none hset
      rw [addParameter_bare (h p List.mem_cons_self) hset, hbare, hsets]
      exact ih _
    | some i =>
      have hmem : '=' ∈ p.toList := by
        by_contra hnot
        rw [setting_eq_none.mpr hnot] at hset
        cases hset
      have hbare : bareNames (p :: rest) = bareNames rest := by
        unfold bareNames
        rw [List.filter_cons_of_neg (by simpa using hmem)]
      have hsets : settings (p :: rest) = i :: settings rest := List.filterMap_cons_some hset
      rw [addParameter_setting hset, hbare, hsets]
      exact ih _

/-- A loop with a turn that has no result has none. -/
theorem foldlM_none {β γ : Type} {f : β → γ → Option β} {x : γ} (hx : ∀ s, f s x = none)
    {xs : List γ} (h : x ∈ xs) (s : β) : xs.foldlM f s = none := by
  induction xs generalizing s with
  | nil => cases h
  | cons y ys ih =>
    rw [List.foldlM_cons]
    rcases List.mem_cons.mp h with rfl | h
    · rw [hx]
      rfl
    · cases f s y with
      | none => rfl
      | some s' => exact ih h s'

/-! ## The table -/

/-- The table that the strings make. -/
def tableOf (parameters : List String) : Table String Param :=
  Grouping.putAll Param.new Param.addValue ∅ (settings parameters)

theorem foldl_addValue (p : Param) (values : List String) :
    values.foldl Param.addValue p = (p.1, p.2 ++ values) := by
  induction values generalizing p with
  | nil => rw [List.foldl_nil, List.append_nil]
  | cons v values ih =>
    rw [List.foldl_cons, ih]
    unfold Param.addValue
    rw [List.append_assoc, List.singleton_append]

theorem lookup_tableOf (parameters : List String) (name : String) :
    (tableOf parameters).lookup name =
      if Grouping.under (settings parameters) name = [] then none
      else some (name, Grouping.under (settings parameters) name) := by
  unfold tableOf
  rw [Grouping.lookup_putAll, foldl_addValue]
  rfl

/-- A parameter of the table has the name it is under, and values. -/
theorem tableOf_entry {parameters : List String} {name : String} {p : Param}
    (h : (tableOf parameters).lookup name = some p) : p.1 = name ∧ p.2 ≠ [] := by
  rw [lookup_tableOf] at h
  split at h
  · cases h
  · rename_i hsome
    obtain rfl := Option.some.inj h
    exact ⟨rfl, hsome⟩

/-! ## What the attribute is given -/

/-- The parameters that the attribute is given, one after the other. -/
def givenParams (order : List Param) (parameters : List String) : List Param :=
  (bareNames parameters).map Param.new ++ Table.listed order (tableOf parameters)

theorem addParams_eq {parameters : List String} (h : ∀ p ∈ parameters, p ≠ "")
    (addParam : α → Param → α) (order : List Param) (attr : α) :
    contactInfoAttributeAddParams addParam order attr parameters
      = some ((givenParams order parameters).foldl addParam attr) := by
  unfold contactInfoAttributeAddParams givenParams
  rw [addParameters_eq h, List.foldl_append]
  rfl

theorem addParams_empty {parameters : List String} (h : "" ∈ parameters)
    (addParam : α → Param → α) (order : List Param) (attr : α) :
    contactInfoAttributeAddParams addParam order attr parameters = none := by
  unfold contactInfoAttributeAddParams
  rw [foldlM_none (addParameter_empty addParam) h]
  rfl

theorem grouped_givenParams (order : List Param) (parameters : List String) :
    Grouped parameters (givenParams order parameters) := by
  have hvalues : ∀ p ∈ Table.listed order (tableOf parameters), p.2 ≠ [] := by
    intro p hp
    have hmem := (Table.listed_perm order (tableOf parameters)).mem_iff.mp hp
    obtain ⟨name, hname⟩ := Table.mem_values.mp hmem
    exact (tableOf_entry hname).2
  have hnew : ∀ p ∈ (bareNames parameters).map Param.new, p.2 = [] := by
    intro p hp
    obtain ⟨name, -, rfl⟩ := List.mem_map.mp hp
    rfl
  unfold givenParams
  constructor
  · rw [List.filter_append, List.filter_eq_self.mpr fun p hp => decide_eq_true (hnew p hp),
      List.filter_eq_nil_iff.mpr fun p hp => by simpa using hvalues p hp, List.append_nil]
    rfl
  · intro name
    have hname : (Table.listed order (tableOf parameters)).filter (fun p => p.1 = name ∧ p.2 ≠ [])
        = ((tableOf parameters).lookup name).toList := by
      rw [← Table.filter_listed Prod.fst (fun _ _ h => (tableOf_entry h).1) order name]
      refine List.filter_congr fun p hp => ?_
      simp [hvalues p hp]
    rw [List.filter_append, hname, lookup_tableOf,
      List.filter_eq_nil_iff.mpr fun p hp => by simp [hnew p hp], List.nil_append]
    split <;> rfl

/--
**When the parameters are grouped without loss.** Whatever the order of the iteration, the
attribute is given each name that is set once, with all its texts, and each string without an
equals sign as a parameter of its own, if and only if no string is empty.
-/
theorem params_grouped (order : List Param) (parameters : List String) :
    (∃ given : List Param,
        (∀ (α : Type) (addParam : α → Param → α) (attr : α),
          contactInfoAttributeAddParams addParam order attr parameters
            = some (given.foldl addParam attr))
        ∧ Grouped parameters given)
      ↔ ∀ p ∈ parameters, p ≠ "" := by
  constructor
  · rintro ⟨given, hgiven, -⟩ p hp rfl
    have hnone := addParams_empty hp (fun _ _ => ()) order ()
    rw [hgiven Unit (fun _ _ => ()) ()] at hnone
    cases hnone
  · intro h
    exact ⟨givenParams order parameters, fun α addParam attr => addParams_eq h addParam order attr,
      grouped_givenParams order parameters⟩

example : contactInfoAttributeAddParams (fun given p => given ++ [p]) [] []
      ["type=home", "x-osso-readonly", "Type=voice=2"]
    = some [("X-OSSO-READONLY", []), ("TYPE", ["HOME", "VOICE=2"])] := by decide

/-- One empty string, and the attribute is given nothing: the loop reads behind the vector. -/
theorem params_lost :
    ¬ ∃ given : List Param,
        (∀ (α : Type) (addParam : α → Param → α) (attr : α),
          contactInfoAttributeAddParams addParam [] attr [""] = some (given.foldl addParam attr))
        ∧ Grouped [""] given := by
  rintro ⟨given, hgiven, -⟩
  have hnone : contactInfoAttributeAddParams (fun _ _ => ()) [] () [""] = none := rfl
  rw [hgiven Unit (fun _ _ => ()) ()] at hnone
  cases hnone

/-! ## The vcard -/

/-- The attribute that a field becomes. -/
def fieldAttribute (lib : Library) (f : Field) : Contact.Attribute :=
  f.fieldValue.foldl addValue
    ((givenParams (lib.order f.parameters) f.parameters).foldl lib.addParam { name := f.fieldName })

theorem givenParams_nil (order : List Param) : givenParams order [] = [] :=
  List.perm_nil.mp (Table.listed_perm order ∅)

theorem addField_empty {f : Field} (h : "" ∈ f.parameters) (lib : Library) (evc : Contact.EVCard) :
    addField lib evc f = none := by
  unfold addField
  dsimp only
  rw [if_neg (List.ne_nil_of_mem h), addParams_empty h]
  rfl

theorem addField_eq {f : Field} (h : "" ∉ f.parameters) (lib : Library) (evc : Contact.EVCard) :
    addField lib evc f = some (fieldAttribute lib f :: evc) := by
  unfold addField fieldAttribute
  dsimp only
  split
  · rename_i hnil
    rw [hnil, givenParams_nil]
    rfl
  · rw [addParams_eq fun p hp he => h (he ▸ hp)]
    rfl

theorem addFields_eq {contactInfo : List Field} (h : ∀ f ∈ contactInfo, "" ∉ f.parameters)
    (lib : Library) (evc : Contact.EVCard) :
    contactInfo.foldlM (addField lib) evc
      = some ((contactInfo.map (fieldAttribute lib)).reverse ++ evc) := by
  induction contactInfo generalizing evc with
  | nil => rfl
  | cons f rest ih =>
    rw [List.foldlM_cons, addField_eq (h f List.mem_cons_self), List.map_cons, List.reverse_cons,
      List.append_assoc]
    exact ih (fun f' hf' => h f' (List.mem_cons_of_mem f hf')) _

/-- **The vcard has an attribute for every field**, unless a field has an empty parameter. -/
theorem vcard_str_eq {contactInfo : List Field} (hne : contactInfo ≠ [])
    (h : ∀ f ∈ contactInfo, "" ∉ f.parameters) (lib : Library) :
    contactInfoToVcardStr lib contactInfo
      = some (some (lib.toString (contactInfo.map (fieldAttribute lib)).reverse)) := by
  unfold contactInfoToVcardStr
  rw [if_neg hne, addFields_eq h, List.append_nil]
  rfl

theorem vcard_str_eq_none {lib : Library} {contactInfo : List Field} :
    contactInfoToVcardStr lib contactInfo = none ↔ ∃ f ∈ contactInfo, "" ∈ f.parameters := by
  constructor
  · intro hnone
    by_contra hall
    push Not at hall
    by_cases hne : contactInfo = []
    · rw [hne] at hnone
      cases hnone
    · rw [vcard_str_eq hne hall] at hnone
      cases hnone
  · rintro ⟨f, hf, hempty⟩
    unfold contactInfoToVcardStr
    rw [if_neg (List.ne_nil_of_mem hf), foldlM_none (addField_empty hempty lib) hf]
    rfl

end ContactInfo

end EdsTelepathy
