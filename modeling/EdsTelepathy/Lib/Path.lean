import Mathlib.Data.List.DropRight

/-!
# File names

`g_build_filename`: elements joined by single slashes. Empty elements are ignored, the slashes
between two elements are replaced by one, those in front of the first element and behind the
last one are kept, and an element that stands alone is taken as it is. An element in the middle
that is nothing but slashes is ignored too; at the end its slashes are kept all the same.

A path is the list of its characters. What is derived is what the last element adds to a path:
nothing, or its slashes, or a slash and the element without the slashes in front of it.
-/

namespace Path

/-- `G_IS_DIR_SEPARATOR`. -/
def isSep (c : Char) : Bool := c = '/'

/-- An element without the slashes in front of it and behind it. -/
def core (e : List Char) : List Char := (e.dropWhile isSep).rdropWhile isSep

/-- The elements joined, the slashes at both ends kept. -/
def joined (es : List (List Char)) : List Char :=
  (es.head?.elim [] fun e => e.takeWhile isSep)
    ++ ['/'].intercalate ((es.map core).filter (· ≠ []))
    ++ es.getLast?.elim [] fun e => e.rtakeWhile isSep

/-- `g_build_filename`. -/
def buildFilename (elements : List (List Char)) : List Char :=
  match elements.filter (· ≠ []) with
  | [e] => e
  | es => joined es

/-- What the last element adds. -/
def tail (e : List Char) : List Char :=
  if e = [] then []
  else if core e = [] then e
  else '/' :: e.dropWhile isSep

/-- The element ends in something that is no slash. -/
def Solid (e : List Char) : Prop := ∃ pre c, e = pre ++ [c] ∧ isSep c = false

/-! ## One element -/

theorem core_eq_nil {e : List Char} : core e = [] ↔ ∀ c ∈ e, isSep c = true := by
  unfold core
  rw [List.rdropWhile_eq_nil_iff]
  constructor
  · intro h c hc
    rw [← List.takeWhile_append_dropWhile (p := isSep) (l := e)] at hc
    rcases List.mem_append.mp hc with hc | hc
    · exact List.mem_takeWhile_imp hc
    · exact h c hc
  · intro h c hc
    exact h c ((List.dropWhile_sublist isSep).subset hc)

/-- What is behind the slashes in front is the element and the slashes behind it. -/
theorem core_append_trailing {e : List Char} (h : core e ≠ []) :
    core e ++ e.rtakeWhile isSep = e.dropWhile isSep := by
  have hlead : ∀ a b : List Char, b.rdropWhile isSep ≠ [] →
      (a ++ b).rtakeWhile isSep = b.rtakeWhile isSep := by
    intro a b hb
    have hlen : ¬ (b.reverse.takeWhile isSep).length = b.reverse.length := by
      intro he
      have hall : b.reverse.takeWhile isSep = b.reverse :=
        (List.takeWhile_prefix isSep).eq_of_length he
      refine hb (List.rdropWhile_eq_nil_iff.mpr fun c hc => ?_)
      rw [← List.mem_reverse, ← hall] at hc
      exact List.mem_takeWhile_imp hc
    unfold List.rtakeWhile
    rw [List.reverse_append, List.takeWhile_append, if_neg hlen]
  have hsame := hlead (e.takeWhile isSep) (e.dropWhile isSep) h
  rw [List.takeWhile_append_dropWhile] at hsame
  rw [hsame]
  exact List.rdropWhile_append_rtakeWhile

theorem Solid.core_ne_nil {e : List Char} (h : Solid e) : core e ≠ [] := by
  obtain ⟨pre, c, rfl, hc⟩ := h
  intro hnil
  rw [core_eq_nil.mp hnil c (List.mem_append_right pre (List.mem_singleton_self c))] at hc
  cases hc

theorem Solid.trailing {e : List Char} (h : Solid e) : e.rtakeWhile isSep = [] := by
  obtain ⟨pre, c, rfl, hc⟩ := h
  exact List.rtakeWhile_concat_neg isSep pre c (by rw [hc]; exact Bool.false_ne_true)

theorem Solid.ne_nil {e : List Char} (h : Solid e) : e ≠ [] := by
  obtain ⟨pre, c, rfl, -⟩ := h
  exact List.append_ne_nil_of_right_ne_nil pre (List.cons_ne_nil c [])

theorem Solid.append (a : List Char) {e : List Char} (h : Solid e) : Solid (a ++ e) := by
  obtain ⟨pre, c, rfl, hc⟩ := h
  exact ⟨a ++ pre, c, (List.append_assoc a pre [c]).symm, hc⟩

/-! ## The last element -/

theorem intercalate_concat {xss : List (List Char)} (h : xss ≠ []) (ys : List Char) :
    ['/'].intercalate (xss ++ [ys]) = ['/'].intercalate xss ++ '/' :: ys := by
  induction xss with
  | nil => exact absurd rfl h
  | cons xs xss ih =>
    cases xss with
    | nil => simp [List.intercalate_cons_cons, List.intercalate_singleton]
    | cons xs' xss =>
      rw [List.cons_append, List.cons_append, List.intercalate_cons_cons,
        List.intercalate_cons_cons, ← List.cons_append, ih (List.cons_ne_nil xs' xss)]
      simp

/-- An element that stands alone is joined to nothing. -/
theorem buildFilename_eq_joined {elements : List (List Char)}
    (h : ∀ e, elements.filter (· ≠ []) = [e] → core e ≠ []) :
    buildFilename elements = joined (elements.filter (· ≠ [])) := by
  unfold buildFilename
  split
  · rename_i e he
    rw [he]
    have hcore := h e he
    show e = e.takeWhile isSep ++ ['/'].intercalate ([core e].filter (· ≠ [])) ++ e.rtakeWhile isSep
    rw [List.filter_cons_of_pos (by simpa using hcore), List.filter_nil, List.intercalate_singleton,
      List.append_assoc, core_append_trailing hcore, List.takeWhile_append_dropWhile]
  · rfl

/-- **What the last element adds to a path** whose last element is solid. -/
theorem buildFilename_concat (pre : List (List Char)) {d : List Char} (hd : Solid d) (e : List Char) :
    buildFilename (pre ++ [d] ++ [e]) = buildFilename (pre ++ [d]) ++ tail e := by
  have hpre : (pre ++ [d]).filter (· ≠ []) = pre.filter (· ≠ []) ++ [d] := by
    rw [List.filter_append, List.filter_cons_of_pos (by simpa using hd.ne_nil), List.filter_nil]
  generalize hes : pre.filter (· ≠ []) = es at hpre
  have hleft : buildFilename (pre ++ [d]) = joined (es ++ [d]) := by
    rw [buildFilename_eq_joined, hpre]
    intro e' he'
    rw [hpre] at he'
    have hlast := congrArg List.getLast? he'
    rw [List.getLast?_concat] at hlast
    obtain rfl : d = e' := Option.some.inj hlast
    exact hd.core_ne_nil
  -- an element that is empty is left out
  by_cases he : e = []
  · subst he
    have hsame : (pre ++ [d] ++ [[]]).filter (· ≠ []) = (pre ++ [d]).filter (· ≠ []) := by
      rw [List.filter_append, List.filter_cons_of_neg (by simp), List.filter_nil, List.append_nil]
    unfold buildFilename tail
    rw [hsame, if_pos rfl, List.append_nil]
  · have hall : (pre ++ [d] ++ [e]).filter (· ≠ []) = es ++ [d] ++ [e] := by
      rw [List.filter_append, hpre, List.filter_cons_of_pos (by simpa using he), List.filter_nil]
    have hright : buildFilename (pre ++ [d] ++ [e]) = joined (es ++ [d] ++ [e]) := by
      rw [buildFilename_eq_joined, hall]
      intro e' he'
      rw [hall] at he'
      have hlen := congrArg List.length he'
      simp at hlen
    rw [hright, hleft]
    -- the first element is the same, so the slashes in front are
    have hhead : (es ++ [d] ++ [e]).head? = (es ++ [d]).head? :=
      List.head?_append_of_ne_nil _ (List.append_ne_nil_of_right_ne_nil es (List.cons_ne_nil d []))
    have hcores : ((es ++ [d]).map core).filter (· ≠ []) ≠ [] := by
      refine List.ne_nil_of_mem (a := core d) (List.mem_filter.mpr ⟨?_, by simpa using hd.core_ne_nil⟩)
      exact List.mem_map_of_mem (List.mem_append_right es (List.mem_singleton_self d))
    have hmap : (es ++ [d] ++ [e]).map core = (es ++ [d]).map core ++ [core e] := List.map_append
    unfold joined tail
    rw [hhead, List.getLast?_concat, List.getLast?_concat, if_neg he, hmap, List.filter_append,
      Option.elim_some, Option.elim_some, hd.trailing, List.append_nil]
    -- an element of slashes alone stays as it is at the end
    by_cases hcore : core e = []
    · have hsep : e.rtakeWhile isSep = e := (List.rtakeWhile_eq_self_iff).mpr (core_eq_nil.mp hcore)
      rw [if_pos hcore, hcore, hsep]
      simp
    · rw [if_neg hcore, List.filter_cons_of_pos (by simpa using hcore), List.filter_nil,
        intercalate_concat hcores, ← core_append_trailing hcore]
      simp only [List.append_assoc, List.cons_append]

theorem buildFilename_singleton (d : List Char) : buildFilename [d] = d := by
  by_cases hd : d = []
  · rw [hd]
    rfl
  · unfold buildFilename
    rw [List.filter_cons_of_pos (by simpa using hd), List.filter_nil]

/-- A directory and the name of something in it. -/
theorem buildFilename_pair {d : List Char} (hd : Solid d) (e : List Char) :
    buildFilename [d, e] = d ++ tail e := by
  have hconcat := buildFilename_concat [] hd e
  rw [List.nil_append, buildFilename_singleton] at hconcat
  exact hconcat

/-! ## Suffixes -/

/-- A suffix without slashes does not reach over a slash. -/
theorem suffix_over_sep {ext : List Char} (hext : ∀ c ∈ ext, isSep c = false) (a r : List Char) :
    ext <:+ a ++ '/' :: r ↔ ext <:+ r := by
  constructor
  · intro h
    by_cases hlen : ext.length ≤ r.length
    · exact List.suffix_of_suffix_length_le h ⟨a ++ ['/'], by simp⟩ hlen
    · have hsep : '/' :: r <:+ ext :=
        List.suffix_of_suffix_length_le (List.suffix_append a ('/' :: r)) h (by
          rw [List.length_cons]
          omega)
      have hslash := hext '/' (hsep.subset List.mem_cons_self)
      cases hslash
  · exact fun h => h.trans ⟨a ++ ['/'], by simp⟩

theorem suffix_dropWhile {ext : List Char} (hext : ∀ c ∈ ext, isSep c = false) (e : List Char) :
    ext <:+ e ↔ ext <:+ e.dropWhile isSep := by
  conv_lhs => rw [← List.takeWhile_append_dropWhile (p := isSep) (l := e)]
  rcases List.eq_nil_or_concat (e.takeWhile isSep) with hnil | ⟨pre, c, hconcat⟩
  · rw [hnil, List.nil_append]
  · have hc : c = '/' := by
      have hin : c ∈ e.takeWhile isSep := by rw [hconcat]; simp
      have hsep : isSep c = true := List.mem_takeWhile_imp hin
      exact of_decide_eq_true hsep
    rw [hconcat, List.concat_eq_append, hc, List.append_assoc, List.singleton_append]
    exact suffix_over_sep hext pre _

/-- A suffix without slashes is one of the last element, unless it is one of the directory. -/
theorem suffix_tail {ext d : List Char} (hext : ∀ c ∈ ext, isSep c = false) (hne : ext ≠ [])
    (hd : ¬ ext <:+ d) (e : List Char) : ext <:+ d ++ tail e ↔ ext <:+ e := by
  unfold tail
  by_cases he : e = []
  · rw [if_pos he, List.append_nil, he]
    exact ⟨fun h => absurd h hd, fun h => absurd (List.suffix_nil.mp h) hne⟩
  · rw [if_neg he]
    by_cases hcore : core e = []
    · rw [if_pos hcore]
      have hnot : ∀ a : List Char, ¬ ext <:+ a ++ e := by
        intro a h
        obtain ⟨pre, c, rfl⟩ := (List.eq_nil_or_concat e).resolve_left he
        have hc : c = '/' :=
          of_decide_eq_true (core_eq_nil.mp hcore c (by simp))
        rw [List.concat_eq_append, hc, ← List.append_assoc] at h
        exact hne (List.suffix_nil.mp ((suffix_over_sep hext (a ++ pre) []).mp h))
      exact ⟨fun h => absurd h (hnot d), fun h => absurd h (hnot [])⟩
    · rw [if_neg hcore, suffix_over_sep hext, ← suffix_dropWhile hext]

end Path
