import EdsTelepathy.Contact

/-!
# The copy of a contact

Most fields are copied one by one, and those copies are good, and so is that of the set of
variants. Two others are not. The array of master UIDs is given the length of the original
before the copies are appended to it, so as many `NULL`s stand in front of them. The image is
copied as if it were a string, which ends at the first zero byte.
-/

namespace EdsTelepathy

namespace Contact

/-- The contact is the same in everything but who holds it. -/
structure SameContact (c c' : Contact) : Prop where
  /-- The fields that are a number or a string. -/
  plain : { c' with
      avatarData := c.avatarData, masterUids := c.masterUids, variants := c.variants } = c
  masterUids : c'.masterUids = c.masterUids
  noNull : none ∉ c'.masterUids
  variants : ∀ v, v ∈ c'.variants ↔ v ∈ c.variants
  /-- There is an image if there was one, and it has its `avatar_len` bytes. -/
  image : Option.Rel (fun data data' => data.take c.avatarLen <+: data') c.avatarData c'.avatarData

/-- No UIDs, and no zero byte in the image but at its end. -/
structure Copyable (c : Contact) : Prop where
  noUids : c.masterUids = []
  noZero : ∀ data, c.avatarData = some data → 0 ∉ (data.take c.avatarLen).dropLast

/-! ## The two loops -/

theorem masterUids_dupIn (behind : List UInt8) (c : Contact) :
    (c.dupIn behind).masterUids = List.replicate c.masterUids.length none ++ c.masterUids := rfl

/-- The copy has as many UIDs as the original only where there are none. -/
theorem length_masterUids_dupIn (behind : List UInt8) (c : Contact) :
    (c.dupIn behind).masterUids.length = 2 * c.masterUids.length := by
  rw [masterUids_dupIn, List.length_append, List.length_replicate]
  omega

theorem mem_variants_dupIn {behind : List UInt8} {c : Contact} {v : String} :
    v ∈ (c.dupIn behind).variants ↔ v ∈ c.variants := by
  have h : v ∈ (c.dupIn behind).variants ↔ v ∈ [] ∨ v ∈ c.variants := mem_foldl_insert
  rw [h]
  exact or_iff_right List.not_mem_nil

/-! ## The image -/

@[simp] theorem strdupBytes_zero (bytes : List UInt8) : strdupBytes (0 :: bytes) = [0] := rfl

theorem strdupBytes_cons {x : UInt8} (hx : x ≠ 0) (bytes : List UInt8) :
    strdupBytes (x :: bytes) = x :: strdupBytes bytes := by
  unfold strdupBytes
  rw [List.takeWhile_cons_of_pos (by simpa using hx), List.cons_append]

/-- A copy that stops at a zero byte has all of `image` if that is where the image ends. -/
theorem prefix_strdupBytes {image bytes : List UInt8} (h : image <+: bytes) :
    image <+: strdupBytes bytes ↔ 0 ∉ image.dropLast := by
  induction image generalizing bytes with
  | nil => exact iff_of_true List.nil_prefix List.not_mem_nil
  | cons x image ih =>
    obtain ⟨rest, rfl⟩ := h
    rw [List.cons_append]
    by_cases hx : x = 0
    · rw [hx, strdupBytes_zero, List.cons_prefix_cons]
      cases image with
      | nil => simp
      | cons y image => simp
    · rw [strdupBytes_cons hx, List.cons_prefix_cons, ih (List.prefix_append image rest)]
      cases image with
      | nil => simp
      | cons y image =>
        rw [List.dropLast_cons_cons, List.mem_cons, not_or]
        exact ⟨fun ⟨_, hrest⟩ => ⟨Ne.symm hx, hrest⟩, fun ⟨_, hrest⟩ => ⟨rfl, hrest⟩⟩

theorem image_dupIn (behind : List UInt8) (c : Contact) :
    Option.Rel (fun data data' => data.take c.avatarLen <+: data') c.avatarData
        (c.dupIn behind).avatarData
      ↔ ∀ data, c.avatarData = some data → 0 ∉ (data.take c.avatarLen).dropLast := by
  have hcopy : (c.dupIn behind).avatarData
      = c.avatarData.map fun data => strdupBytes (data ++ behind) := rfl
  rw [hcopy]
  cases c.avatarData with
  | none => exact iff_of_true .none (fun data h => (by cases h))
  | some data =>
    have hprefix : data.take c.avatarLen <+: data ++ behind :=
      (List.take_prefix c.avatarLen data).trans (List.prefix_append data behind)
    rw [Option.map_some]
    constructor
    · rintro ⟨h⟩ data' hdata
      obtain rfl : data = data' := Option.some.inj hdata
      exact (prefix_strdupBytes hprefix).mp h
    · exact fun h => .some ((prefix_strdupBytes hprefix).mpr (h data rfl))

/-- One UID has become two, and an image with a zero byte in it has been cut there. -/
theorem dup_differs :
    ({ new with masterUids := [some "pas-id-1"] } : Contact).dup.masterUids
        = [none, some "pas-id-1"]
      ∧ ({ new with avatarLen := 3, avatarData := some [137, 0, 80] } : Contact).dup.avatarData
        = some [137, 0]
      ∧ ¬ SameContact { new with masterUids := [some "pas-id-1"] }
          ({ new with masterUids := [some "pas-id-1"] } : Contact).dup
      ∧ ¬ SameContact { new with avatarLen := 3, avatarData := some [137, 0, 80] }
          ({ new with avatarLen := 3, avatarData := some [137, 0, 80] } : Contact).dup := by
  refine ⟨by decide +kernel, by decide +kernel, fun h => ?_, fun h => ?_⟩
  · exact absurd h.masterUids (by decide +kernel)
  · have himage := h.image
    rw [dup_eq_dupIn, image_dupIn] at himage
    exact himage _ rfl (by decide +kernel)

/--
**The copy of a contact is the contact** exactly where it has no master UIDs and no zero byte in
its image, the last of it apart; whatever the memory holds behind the image.
-/
theorem same_dupIn (behind : List UInt8) (c : Contact) :
    SameContact c (c.dupIn behind) ↔ Copyable c := by
  constructor
  · intro h
    have hlength := congrArg List.length h.masterUids
    rw [length_masterUids_dupIn] at hlength
    exact ⟨List.eq_nil_of_length_eq_zero (by omega), (image_dupIn behind c).mp h.image⟩
  · intro h
    have hnil : (c.dupIn behind).masterUids = [] := by
      rw [masterUids_dupIn, h.noUids]
      rfl
    refine ⟨rfl, hnil.trans h.noUids.symm, ?_, fun v => mem_variants_dupIn,
      (image_dupIn behind c).mpr h.noZero⟩
    rw [hnil]
    exact List.not_mem_nil

end Contact

end EdsTelepathy
