import EdsTelepathy.Proof.Mirror

/-!
# Capabilities

What a report of capabilities makes of the contacts, and who is named in the signal about it.

The type-specific flags of an entry are unpacked through a location that is not there, so an
entry for streamed media says that the contact can do nothing; and the bit for immutable
streams is not among those that the entry clears first. The contacts of the signal are told
apart by a sort and a walk over neighbours, and the comparator of the sort is no ordering.
-/

namespace EdsTelepathy

namespace Cl

/-! ## The loop over the entries -/

theorem detailChanged_eq {cl : Cl} {st : Cl × List Nat} (hhash : st.1.contactsHash = cl.contactsHash)
    (f : Contact → Contact) (h : Nat) :
    detailChanged f h st
      = match cl.lookup h with
        | some r => (st.1.modify r f, st.2 ++ [r])
        | none => st := by
  have hlook : st.1.lookup h = cl.lookup h := by
    unfold lookup
    rw [hhash]
  exact congrArg (fun found : Option Nat =>
    match found with
    | some r => (st.1.modify r f, st.2 ++ [r])
    | none => st) hlook

/-- What the loop makes of a contact is what the entries about it make of it, in their order. -/
theorem detailsChanged_contacts {α : Type} (handle : α → Nat) (f : α → Contact → Contact) (cl : Cl)
    (xs : List α) (r : Nat) :
    (cl.detailsChanged handle f xs).1.contacts r
      = (xs.filter fun x => cl.lookup (handle x) = some r).foldl (fun c x => f x c)
        (cl.contacts r) := by
  have hgen : ∀ (xs : List α) (st : Cl × List Nat), st.1.contactsHash = cl.contactsHash →
      (xs.foldl (fun st x => detailChanged (f x) (handle x) st) st).1.contacts r
        = (xs.filter fun x => cl.lookup (handle x) = some r).foldl (fun c x => f x c)
          (st.1.contacts r) := by
    intro xs
    induction xs with
    | nil => exact fun _ _ => rfl
    | cons x xs ih =>
      intro st hhash
      rw [List.foldl_cons, List.filter_cons, detailChanged_eq hhash]
      cases hx : cl.lookup (handle x) with
      | none => exact ih st hhash
      | some r' =>
        dsimp only
        rw [ih (st.1.modify r' (f x), st.2 ++ [r']) hhash]
        by_cases he : r' = r
        · subst he
          rw [if_pos (decide_eq_true rfl), List.foldl_cons, modify_contacts_self]
        · have hne : ¬ (decide (some r' = some r) = true) := fun h =>
            he (Option.some.inj (of_decide_eq_true h))
          rw [if_neg hne, modify_contacts_of_ne (Ne.symm he)]
  exact hgen xs (cl, []) rfl

/-- The array of contacts that the loop fills. -/
def contactsOf (cl : Cl) (hs : List Nat) : List Nat := hs.filterMap cl.lookup

theorem detailsChanged_refs {α : Type} (handle : α → Nat) (f : α → Contact → Contact) (cl : Cl)
    (xs : List α) : (cl.detailsChanged handle f xs).2 = cl.contactsOf (xs.map handle) := by
  have hgen : ∀ (xs : List α) (st : Cl × List Nat), st.1.contactsHash = cl.contactsHash →
      (xs.foldl (fun st x => detailChanged (f x) (handle x) st) st).2
        = st.2 ++ cl.contactsOf (xs.map handle) := by
    intro xs
    induction xs with
    | nil => exact fun st _ => (List.append_nil st.2).symm
    | cons x xs ih =>
      intro st hhash
      unfold contactsOf at ih ⊢
      rw [List.foldl_cons, List.map_cons, List.filterMap_cons, detailChanged_eq hhash]
      cases hx : cl.lookup (handle x) with
      | none => exact ih st hhash
      | some r' =>
        dsimp only
        rw [ih (st.1.modify r' (f x), st.2 ++ [r']) hhash, List.append_assoc, List.singleton_append]
  exact hgen xs (cl, []) rfl

end Cl

/-! ## Decoding -/

/-- The entry is about calls. -/
def ContactCapability.IsMedia (cap : ContactCapability) : Prop :=
  cap.channelType = "org.freedesktop.Telepathy.Channel.Type.StreamedMedia"

instance (cap : ContactCapability) : Decidable cap.IsMedia :=
  inferInstanceAs (Decidable (_ = _))

namespace Contact

/-- The three bits of the contact are the type-specific flags of the entry. -/
structure Decodes (c : Contact) (cap : ContactCapability) : Prop where
  voice : c.capabilities.has capVoice = cap.specific.has tpChannelMediaCapabilityAudio
  video : c.capabilities.has capVideo = cap.specific.has tpChannelMediaCapabilityVideo
  immutableStreams : c.capabilities.has capImmutableStreams
    = cap.specific.has tpChannelMediaCapabilityImmutableStreams

theorem withCapability_unpacked (cap : ContactCapability) (c : Contact) :
    (c.withCapability cap.unpacked).capabilities
      = let caps := if cap.IsMedia then c.capabilities &&& ~~~(capVoice ||| capVideo)
          else c.capabilities
        if cap.channelType = "org.freedesktop.Telepathy.Channel.Type.Text" then caps ||| capText
        else caps := by
  have hzero : ∀ m : Flags, cap.unpacked.specific.has m = false := fun m => BitVec.zero_has m
  have hchannel : cap.unpacked.channelType = cap.channelType := rfl
  unfold withCapability
  rw [hchannel]
  by_cases hmedia : cap.IsMedia
  · have hmedia' : cap.channelType = "org.freedesktop.Telepathy.Channel.Type.StreamedMedia" := hmedia
    simp only [if_pos hmedia, if_pos hmedia', hzero, Bool.false_eq_true, if_false]
    split <;> rfl
  · have hmedia' : ¬ cap.channelType = "org.freedesktop.Telepathy.Channel.Type.StreamedMedia" := hmedia
    simp only [if_neg hmedia, if_neg hmedia']
    split <;> rfl

/-- No entry touches the bit for immutable streams. -/
theorem withCapability_immutable (cap : ContactCapability) (c : Contact) :
    (c.withCapability cap.unpacked).capabilities.has capImmutableStreams
      = c.capabilities.has capImmutableStreams := by
  rw [withCapability_unpacked]
  have hclear : (c.capabilities &&& ~~~(capVoice ||| capVideo)).has capImmutableStreams
      = c.capabilities.has capImmutableStreams := BitVec.clear_has_of_disjoint (by decide)
  dsimp only
  split <;> split <;> simp only [BitVec.or_has_of_disjoint (w := _) (v := capText)
    (m := capImmutableStreams) (by decide), hclear]

/-- No entry sets the bits for calls, and one that is about calls clears them. -/
theorem withCapability_calls (cap : ContactCapability) (c : Contact) {m : Flags}
    (hm : m = capVoice ∨ m = capVideo) (h : cap.IsMedia ∨ c.capabilities.has m = false) :
    (c.withCapability cap.unpacked).capabilities.has m = false := by
  have htext : capText &&& m = 0#32 := by rcases hm with rfl | rfl <;> decide
  have hwithin : m &&& ~~~(capVoice ||| capVideo) = 0#32 := by rcases hm with rfl | rfl <;> decide
  have hclear : (c.capabilities &&& ~~~(capVoice ||| capVideo)).has m = false :=
    BitVec.clear_has_of_within hwithin
  rw [withCapability_unpacked]
  dsimp only
  have hcaps : (if cap.IsMedia then c.capabilities &&& ~~~(capVoice ||| capVideo)
      else c.capabilities).has m = false := by
    split
    · exact hclear
    · rename_i hmedia
      exact h.resolve_left hmedia
  split
  · rw [BitVec.or_has_of_disjoint htext]
    exact hcaps
  · exact hcaps

/-- What the entries about a contact leave of the bit for immutable streams. -/
theorem foldl_withCapability_immutable (caps : List ContactCapability) (c : Contact) :
    (caps.foldl (fun c cap => c.withCapability cap.unpacked) c).capabilities.has capImmutableStreams
      = c.capabilities.has capImmutableStreams := by
  induction caps generalizing c with
  | nil => rfl
  | cons cap caps ih => rw [List.foldl_cons, ih, withCapability_immutable]

theorem foldl_withCapability_calls {caps : List ContactCapability} {c : Contact} {m : Flags}
    (hm : m = capVoice ∨ m = capVideo)
    (h : (∃ cap ∈ caps, cap.IsMedia) ∨ c.capabilities.has m = false) :
    (caps.foldl (fun c cap => c.withCapability cap.unpacked) c).capabilities.has m = false := by
  induction caps generalizing c with
  | nil => exact h.resolve_left fun ⟨_, hin, _⟩ => List.not_mem_nil hin
  | cons cap caps ih =>
    rw [List.foldl_cons]
    refine ih ?_
    rcases h with ⟨media, hin, hmedia⟩ | hclear
    · rcases List.mem_cons.mp hin with rfl | hin
      · exact .inr (withCapability_calls _ c hm (.inl hmedia))
      · exact .inl ⟨media, hin, hmedia⟩
    · exact .inr (withCapability_calls cap c hm (.inr hclear))

end Contact

namespace Cl

/-- The report has been decoded: the entries about calls, and nobody else is touched. -/
structure Decoded (cl cl' : Cl) (caps : List ContactCapability) : Prop where
  named : ∀ cap ∈ caps, cap.IsMedia → ∀ r, cl.lookup cap.handle = some r →
    (cl'.contacts r).Decodes cap
  others : ∀ r, (∀ cap ∈ caps, cl.lookup cap.handle ≠ some r) → cl'.contacts r = cl.contacts r

/-- Each entry about calls says that its contact cannot call, and its other bit is known. -/
def NothingNew (cl : Cl) (caps : List ContactCapability) : Prop :=
  ∀ cap ∈ caps, cap.IsMedia → ∀ r, cl.lookup cap.handle = some r →
    cap.specific.has tpChannelMediaCapabilityAudio = false
      ∧ cap.specific.has tpChannelMediaCapabilityVideo = false
      ∧ cap.specific.has tpChannelMediaCapabilityImmutableStreams
        = (cl.contacts r).capabilities.has capImmutableStreams

theorem capabilities_contacts {cl : Cl} (hc : cl.isConnected = true) (caps : List ContactCapability)
    (order : List Nat) (r : Nat) :
    (cl.detailsCb (.capabilities caps order)).1.contacts r
      = (caps.filter fun cap => cl.lookup cap.handle = some r).foldl
        (fun c cap => c.withCapability cap.unpacked) (cl.contacts r) := by
  unfold detailsCb
  rw [if_pos hc]
  show (cl.detailsChanged ContactCapability.handle Contact.withCapability
    (caps.map ContactCapability.unpacked)).1.contacts r = _
  rw [detailsChanged_contacts, List.filter_map, List.foldl_map]
  rfl

/--
**A report of capabilities is decoded** exactly where it says that nobody named in it can call,
and of immutable streams what is known already.
-/
theorem capabilities_decoded {cl : Cl} (hc : cl.isConnected = true) (caps : List ContactCapability)
    (order : List Nat) :
    Decoded cl (cl.detailsCb (.capabilities caps order)).1 caps ↔ cl.NothingNew caps := by
  have hcalls : ∀ cap ∈ caps, cap.IsMedia → ∀ r, cl.lookup cap.handle = some r →
      ∀ m, m = capVoice ∨ m = capVideo →
        ((cl.detailsCb (.capabilities caps order)).1.contacts r).capabilities.has m = false := by
    intro cap hcap hmedia r hr m hm
    rw [capabilities_contacts hc]
    refine Contact.foldl_withCapability_calls hm (.inl ⟨cap, ?_, hmedia⟩)
    exact List.mem_filter.mpr ⟨hcap, decide_eq_true hr⟩
  have himmutable : ∀ r,
      ((cl.detailsCb (.capabilities caps order)).1.contacts r).capabilities.has capImmutableStreams
        = (cl.contacts r).capabilities.has capImmutableStreams := by
    intro r
    rw [capabilities_contacts hc, Contact.foldl_withCapability_immutable]
  constructor
  · intro h cap hcap hmedia r hr
    obtain ⟨hvoice, hvideo, hstreams⟩ := h.named cap hcap hmedia r hr
    refine ⟨?_, ?_, ?_⟩
    · rw [← hvoice, hcalls cap hcap hmedia r hr capVoice (.inl rfl)]
    · rw [← hvideo, hcalls cap hcap hmedia r hr capVideo (.inr rfl)]
    · rw [← hstreams, himmutable]
  · intro h
    refine ⟨fun cap hcap hmedia r hr => ?_, fun r hnone => ?_⟩
    · obtain ⟨haudio, hvideo, hstreams⟩ := h cap hcap hmedia r hr
      refine ⟨?_, ?_, ?_⟩
      · rw [haudio, hcalls cap hcap hmedia r hr capVoice (.inl rfl)]
      · rw [hvideo, hcalls cap hcap hmedia r hr capVideo (.inr rfl)]
      · rw [hstreams, himmutable]
    · have hempty : (caps.filter fun cap => cl.lookup cap.handle = some r) = [] :=
        List.filter_eq_nil_iff.mpr fun cap hcap he => hnone cap hcap (of_decide_eq_true he)
      rw [capabilities_contacts hc, hempty]
      rfl

end Cl

/-- An entry for the contact of the roster, by its type-specific flags. -/
def mediaEntry (specific : Flags) : ContactCapability where
  handle := 7
  channelType := "org.freedesktop.Telepathy.Channel.Type.StreamedMedia"
  specific := specific

/-- The contact of the roster cannot call, and the report says so. -/
theorem capabilities_decoded_ann :
    ∃ b, Backend.ReachableFrom "acct" "X-JABBER" {} b ∧ b.tpcl.lookup 7 = some 0
      ∧ Cl.Decoded b.tpcl (b.tpcl.detailsCb (.capabilities [mediaEntry 0] [])).1 [mediaEntry 0] := by
  have hrun : ((Backend.machine.run (Backend.boot "acct" "X-JABBER" {}) Backend.firstSync).map fun b =>
      decide (b.tpcl.isConnected = true ∧ b.tpcl.lookup 7 = some 0
        ∧ (b.tpcl.contacts 0).capabilities.has capImmutableStreams = false)) = some true := by
    decide +kernel
  obtain ⟨b, hb, hfacts⟩ := Option.map_eq_some_iff.mp hrun
  obtain ⟨hc, hann, hstreams⟩ := of_decide_eq_true hfacts
  refine ⟨b, ⟨_, hb⟩, hann, (Cl.capabilities_decoded hc [mediaEntry 0] []).mpr ?_⟩
  intro cap hcap _ r hr
  rw [List.mem_singleton.mp hcap] at hr ⊢
  obtain rfl := Option.some.inj (hann.symm.trans hr)
  exact ⟨by decide, by decide, hstreams.symm⟩

/-- The contact can do audio, and the report of it is lost. -/
theorem capabilities_lost :
    ∃ b, Backend.ReachableFrom "acct" "X-JABBER" {} b ∧ b.tpcl.lookup 7 = some 0
      ∧ ((b.tpcl.detailsCb (.capabilities [mediaEntry tpChannelMediaCapabilityAudio] [0])).1.contacts
          0).capabilities.has capVoice = false
      ∧ ¬ Cl.Decoded b.tpcl
          (b.tpcl.detailsCb (.capabilities [mediaEntry tpChannelMediaCapabilityAudio] [0])).1
          [mediaEntry tpChannelMediaCapabilityAudio] := by
  have hrun : ((Backend.machine.run (Backend.boot "acct" "X-JABBER" {}) Backend.firstSync).map fun b =>
      decide (b.tpcl.lookup 7 = some 0
        ∧ ((b.tpcl.detailsCb (.capabilities [mediaEntry tpChannelMediaCapabilityAudio] [0])).1.contacts
          0).capabilities.has capVoice = false)) = some true := by
    decide +kernel
  obtain ⟨b, hb, hfacts⟩ := Option.map_eq_some_iff.mp hrun
  obtain ⟨hann, hvoice⟩ := of_decide_eq_true hfacts
  refine ⟨b, ⟨_, hb⟩, hann, hvoice, fun h => ?_⟩
  have hsays := (h.named _ (List.mem_singleton_self _) rfl 0 hann).voice
  rw [hvoice] at hsays
  exact absurd hsays (by decide)

/-! ## Who is named -/

namespace Cl

/-- A comparator that `g_array_sort` can work with, on the elements of an array. -/
structure Consistent (cmp : Nat → Nat → Int) (rs : List Nat) : Prop where
  antisymm : ∀ a ∈ rs, ∀ b ∈ rs, (cmp a b).sign = -(cmp b a).sign
  trans : ∀ a ∈ rs, ∀ b ∈ rs, ∀ c ∈ rs, cmp a b ≤ 0 → cmp b c ≤ 0 → cmp a c ≤ 0

/-- What `g_array_sort` may leave of an array. -/
structure MaySort (cmp : Nat → Nat → Int) (rs order : List Nat) : Prop where
  perm : order.Perm rs
  ordered : Consistent cmp rs → order.Pairwise fun a b => cmp a b ≤ 0

/--
The comparator is consistent on no two contacts that it tells apart, so any order may be left.
-/
theorem maySort_iff (low : Nat → BitVec 32) {rs order : List Nat} :
    MaySort (contactHandleSortFunc low) rs order ↔ order.Perm rs := by
  refine ⟨fun h => h.perm, fun hperm => ⟨hperm, fun hcons => ?_⟩⟩
  have hnever : ∀ a ∈ rs, ∀ b ∈ rs, ¬ low a < low b := by
    intro a ha b hb hlt
    have hsign := hcons.antisymm a ha b hb
    unfold contactHandleSortFunc at hsign
    rw [if_pos hlt, if_neg fun hgt => absurd hgt (BitVec.lt_asymm hlt)] at hsign
    exact absurd hsign (by decide)
  refine List.pairwise_of_forall_mem_list fun a ha b hb => ?_
  unfold contactHandleSortFunc
  rw [if_neg (hnever a (hperm.subset ha) b (hperm.subset hb))]

/-- The signal names each known contact of the array once, and nobody else. -/
def NamedOnce (cl : Cl) (hs : List Nat) (res : Cl × List Signal) : Prop :=
  ∃ rs, rs.Nodup ∧ (∀ r, r ∈ rs ↔ ∃ h ∈ hs, cl.lookup h = some r)
    ∧ res.2 = res.1.emit rs .capabilitiesChanged

/-- The handles of the array that are known. -/
def knownOf (cl : Cl) (hs : List Nat) : List Nat := hs.filter fun h => (cl.lookup h).isSome

/-- No known contact is in the array twice, or no two are in it. -/
def Tellable (cl : Cl) (hs : List Nat) : Prop :=
  (cl.knownOf hs).Nodup ∨ ∀ x ∈ cl.knownOf hs, ∀ y ∈ cl.knownOf hs, x = y

theorem mem_contactsOf {cl : Cl} {hs : List Nat} {r : Nat} :
    r ∈ cl.contactsOf hs ↔ ∃ h ∈ hs, cl.lookup h = some r := List.mem_filterMap

theorem known_contactsOf (cl : Cl) (hs : List Nat) : Known cl (cl.contactsOf hs) := by
  intro r hr
  obtain ⟨h, -, hl⟩ := mem_contactsOf.mp hr
  exact ⟨h, hl⟩

/-- The handles of the contacts of the array. -/
theorem map_handle_contactsOf {cl cl' : Cl} (h : ByHandle cl) (ho : DetailsOnly cl cl')
    (hs : List Nat) :
    (cl.contactsOf hs).map (fun r => (cl'.contacts r).handle) = cl.knownOf hs := by
  induction hs with
  | nil => rfl
  | cons x hs ih =>
    unfold contactsOf knownOf at ih ⊢
    rw [List.filterMap_cons, List.filter_cons]
    cases hx : cl.lookup x with
    | none => exact ih
    | some r =>
      obtain ⟨hlt, hh⟩ := h.entry x r hx
      dsimp only [Option.isSome_some]
      rw [if_pos rfl, List.map_cons, ih, ho.sameHandles.handle r hlt, hh]

theorem read_eq_of_emit {cl : Cl} {rs rs' : List Nat}
    (h : cl.emit rs .capabilitiesChanged = cl.emit rs' .capabilitiesChanged) :
    cl.read rs = cl.read rs' := by
  unfold emit at h
  split at h <;> split at h
  · rename_i hr hr'
    rw [hr, hr']
  · cases h
  · cases h
  · exact Signal.capabilitiesChanged.inj (List.cons.inj h).1

/-- What the walk over neighbours makes of the orders that the sort may leave. -/
theorem named_once_iff {cl cl' : Cl} (h : ByHandle cl) (ho : DetailsOnly cl cl')
    (low : Nat → BitVec 32) (hs : List Nat) :
    (∀ order, MaySort (contactHandleSortFunc low) (cl.contactsOf hs) order →
      NamedOnce cl hs (cl', cl'.emit (cl'.withoutDuplicates (arranged order (cl.contactsOf hs)))
        .capabilitiesChanged))
      ↔ cl.Tellable hs := by
  let key : Nat → Nat := fun r => (cl'.contacts r).handle
  have hinj : ∀ a ∈ cl.contactsOf hs, ∀ b ∈ cl.contactsOf hs, key a = key b → a = b :=
    fun a ha b hb he => h.eq_of_handle ho (known_contactsOf cl hs) ha hb he
  have hkeys : (cl.contactsOf hs).map key = cl.knownOf hs := map_handle_contactsOf h ho hs
  have harranged : ∀ order, order.Perm (cl.contactsOf hs) →
      arranged order (cl.contactsOf hs) = order := fun order hp => if_pos (List.isPerm_iff.mpr hp)
  unfold Tellable
  rw [← hkeys]
  constructor
  · intro hall
    by_contra hnot
    rw [not_or] at hnot
    obtain ⟨hdup, hdiffer⟩ := hnot
    -- one contact is between two mentions of another one
    have hdiffers : ¬ ∀ r ∈ cl.contactsOf hs, ∀ r' ∈ cl.contactsOf hs, key r = key r' := by
      refine fun hsame => hdiffer fun a ha b hb => ?_
      obtain ⟨r, hr, rfl⟩ := List.mem_map.mp ha
      obtain ⟨r', hr', rfl⟩ := List.mem_map.mp hb
      exact hsame r hr r' hr'
    obtain ⟨x, y, rest, hperm, hne⟩ :=
      Distinct.exists_around (fun hnodup => hdup (hnodup.map_on hinj)) hdiffers
    obtain ⟨rs, hnodup, hmem, hemit⟩ := hall _ ((maySort_iff low).mpr hperm.symm)
    rw [harranged _ hperm.symm] at hemit
    obtain ⟨zs, hleft⟩ : ∃ zs, (cl'.withoutDuplicates (rest ++ [x, y, x])).Perm (x :: y :: x :: zs) :=
      Distinct.withoutAdjacent_twice rest hne
    have hhandles : (cl'.withoutDuplicates (rest ++ [x, y, x])).map key = rs.map key := by
      have hread := congrArg (List.map Contact.handle) (read_eq_of_emit hemit)
      unfold read at hread
      rw [List.map_map, List.map_map] at hread
      exact hread
    have hrs : (rs.map key).Nodup := hnodup.map_on fun a ha b hb he =>
      hinj a (mem_contactsOf.mpr ((hmem a).mp ha)) b (mem_contactsOf.mpr ((hmem b).mp hb)) he
    rw [← hhandles, (hleft.map key).nodup_iff] at hrs
    exact (List.nodup_cons.mp hrs).1 (List.mem_cons_of_mem _ List.mem_cons_self)
  · intro htell order hsort
    have hperm := hsort.perm
    rw [harranged order hperm]
    refine ⟨cl'.withoutDuplicates order, ?_, fun r => ?_, rfl⟩
    · rcases htell with hnodup | hconst
      · have horder : (order.map key).Nodup := (hperm.map key).nodup_iff.mpr hnodup
        exact (Distinct.withoutAdjacent_of_nodup horder).nodup_iff.mpr (horder.of_map key)
      · have hone : (cl'.withoutDuplicates order).length ≤ 1 :=
          Distinct.withoutAdjacent_of_const fun a ha b hb =>
            hconst _ (List.mem_map_of_mem (hperm.subset ha)) _ (List.mem_map_of_mem (hperm.subset hb))
        match cl'.withoutDuplicates order, hone with
        | [], _ => exact List.nodup_nil
        | [r], _ => exact List.nodup_singleton r
    · unfold withoutDuplicates
      rw [Distinct.mem_withoutAdjacent fun a ha b hb he =>
        hinj a (hperm.subset ha) b (hperm.subset hb) he, hperm.mem_iff, mem_contactsOf]

end Cl

namespace Backend

/--
**The signal names each contact once**, whatever order the sort may leave, exactly where there
is nothing to sort: no known contact is in the array twice, or no two are in it.
-/
theorem capabilities_named_once {pathSuffix vcardField : String} {db : Db} {b : Backend}
    (hreach : ReachableFrom pathSuffix vcardField db b) (low : Nat → BitVec 32) :
    (∀ caps : List ContactCapability,
      (∀ order, Cl.MaySort (Cl.contactHandleSortFunc low)
          (b.tpcl.contactsOf (caps.map ContactCapability.handle)) order →
        b.tpcl.NamedOnce (caps.map ContactCapability.handle) (b.tpcl.updateCapabilities caps order))
        ↔ b.tpcl.Tellable (caps.map ContactCapability.handle))
    ∧ ∀ caps : List (Nat × Flags),
      (∀ order, Cl.MaySort (Cl.contactHandleSortFunc low) (b.tpcl.contactsOf (caps.map Prod.fst)) order →
        b.tpcl.NamedOnce (caps.map Prod.fst) (b.tpcl.updateContactCapabilities caps order))
        ↔ b.tpcl.Tellable (caps.map Prod.fst) := by
  have h := reachable_byHandle hreach
  refine ⟨fun caps => ?_, fun caps => ?_⟩
  · have ho := (Cl.detailsChanged_spec ContactCapability.handle (f := Contact.withCapability)
      Cl.sameRecord_withCapability b.tpcl caps).1
    rw [← Cl.named_once_iff h ho low, ← Cl.detailsChanged_refs ContactCapability.handle
      Contact.withCapability]
    rfl
  · have ho := (Cl.detailsChanged_spec Prod.fst
      (f := fun (p : Nat × Flags) c => { c with capabilities := p.2 })
      (fun _ _ => ⟨rfl, rfl, rfl, rfl⟩) b.tpcl caps).1
    rw [← Cl.named_once_iff h ho low, ← Cl.detailsChanged_refs Prod.fst
      (fun (p : Nat × Flags) c => { c with capabilities := p.2 })]
    rfl

/-- Two contacts come from the roster. -/
def twoSynced : List Input :=
  { event := .phase0 } :: goOnline 1 0
    ++ [{ event := .cl (.allMembers 4 (some { current := [7, 8] })) },
        { event := .cl (.contacts 4 (some [{ handle := 7, identifier := "ann" },
          { handle := 8, identifier := "bob" }])) },
        { event := .phase2 }]

/-- One record for each of the two. -/
def twoRecords : List (Nat × Flags) := [(7, capText), (8, capText)]

theorem capabilities_named_once_two :
    ∃ b, ReachableFrom "acct" "X-JABBER" {} b ∧ b.tpcl.contactsOf (twoRecords.map Prod.fst) = [0, 1]
      ∧ b.tpcl.NamedOnce (twoRecords.map Prod.fst)
          (b.tpcl.updateContactCapabilities twoRecords [0, 1]) := by
  have hrun : ((machine.run (boot "acct" "X-JABBER" {}) twoSynced).map fun b =>
      decide (b.tpcl.contactsOf (twoRecords.map Prod.fst) = [0, 1]
        ∧ (b.tpcl.knownOf (twoRecords.map Prod.fst)).Nodup)) = some true := by
    decide +kernel
  obtain ⟨b, hb, hfacts⟩ := Option.map_eq_some_iff.mp hrun
  obtain ⟨hrefs, hknown⟩ := of_decide_eq_true hfacts
  refine ⟨b, ⟨_, hb⟩, hrefs, ?_⟩
  exact ((capabilities_named_once ⟨_, hb⟩ fun _ => 0).2 twoRecords).mpr (.inl hknown) [0, 1]
    ((Cl.maySort_iff _).mpr (by rw [hrefs]))

/-- Two records for one contact, with one for another contact between them. -/
def aroundBob : List ContactCapability :=
  [mediaEntry 0, { mediaEntry 0 with handle := 8 },
    { mediaEntry 0 with channelType := "org.freedesktop.Telepathy.Channel.Type.Text" }]

/-- The sort may leave the array as it is, and then the contact is named twice. -/
theorem capabilities_named_twice :
    ∃ b, ReachableFrom "acct" "X-JABBER" {} b
      ∧ Cl.MaySort (Cl.contactHandleSortFunc fun r => BitVec.ofNat 32 r)
          (b.tpcl.contactsOf (aroundBob.map ContactCapability.handle)) [0, 1, 0]
      ∧ (b.tpcl.updateCapabilities aroundBob [0, 1, 0]).2.map
          (fun s => s.contacts.map Contact.handle) = [[7, 8, 7]]
      ∧ ¬ b.tpcl.NamedOnce (aroundBob.map ContactCapability.handle)
          (b.tpcl.updateCapabilities aroundBob [0, 1, 0]) := by
  have hrun : ((machine.run (boot "acct" "X-JABBER" {}) twoSynced).map fun b =>
      decide (b.tpcl.contactsOf (aroundBob.map ContactCapability.handle) = [0, 1, 0]
        ∧ (b.tpcl.updateCapabilities aroundBob [0, 1, 0]).2.map
          (fun s => s.contacts.map Contact.handle) = [[7, 8, 7]])) = some true := by
    decide +kernel
  obtain ⟨b, hb, hfacts⟩ := Option.map_eq_some_iff.mp hrun
  obtain ⟨hrefs, hnamed⟩ := of_decide_eq_true hfacts
  refine ⟨b, ⟨_, hb⟩, (Cl.maySort_iff _).mpr (by rw [hrefs]), hnamed, ?_⟩
  rintro ⟨rs, hnodup, hmem, hemit⟩
  have hsub : rs ⊆ [0, 1] := by
    intro r hr
    have hin := Cl.mem_contactsOf.mpr ((hmem r).mp hr)
    rw [hrefs] at hin
    simp only [List.mem_cons, List.not_mem_nil, or_false] at hin ⊢
    tauto
  have htwo : rs.length ≤ 2 := (hnodup.subperm hsub).length_le
  rw [hemit] at hnamed
  unfold Cl.emit at hnamed
  split at hnamed
  · cases hnamed
  · have hthree := congrArg List.length (List.cons.inj hnamed).1
    unfold Signal.contacts Cl.read at hthree
    rw [List.length_map, List.length_map] at hthree
    exact absurd (hthree ▸ htwo) (by decide)

end Backend

end EdsTelepathy
