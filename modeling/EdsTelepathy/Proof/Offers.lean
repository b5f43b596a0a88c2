import EdsTelepathy.Cl.Capabilities
import EdsTelepathy.Proof.Capabilities

/-!
# What the classes of channels say

Other than the flags of the older interface, those of `ContactCapabilities` are decoded
faithfully: a contact can do afterwards what one of its classes offers and nothing else, in
whatever order the classes and their properties come. And since the handles are the keys of a
table, nobody is named twice in the signal, however little the comparator of its sort is worth.
-/

namespace EdsTelepathy

namespace ChannelClass

/-- What a class of channels says that its contact can do. -/
inductive Offers (c : ChannelClass) : Flags → Prop where
  | text : c.channelType = some "org.freedesktop.Telepathy.Channel.Type.Text" → Offers c capText
  | audio : c.channelType = some "org.freedesktop.Telepathy.Channel.Type.StreamedMedia" →
      "org.freedesktop.Telepathy.Channel.Type.StreamedMedia.InitialAudio" ∈ c.allowed →
      Offers c capVoice
  | video : c.channelType = some "org.freedesktop.Telepathy.Channel.Type.StreamedMedia" →
      "org.freedesktop.Telepathy.Channel.Type.StreamedMedia.InitialVideo" ∈ c.allowed →
      Offers c capVideo
  | immutableStreams :
      c.channelType = some "org.freedesktop.Telepathy.Channel.Type.StreamedMedia" →
      "org.freedesktop.Telepathy.Channel.Type.StreamedMedia.ImmutableStreams" ∈ c.allowed →
      Offers c capImmutableStreams
  | callAudio : c.channelType = some "org.freedesktop.Telepathy.Channel.Type.Call1" →
      "org.freedesktop.Telepathy.Channel.Type.Call1.InitialAudio" ∈ c.allowed → Offers c capVoice
  | callVideo : c.channelType = some "org.freedesktop.Telepathy.Channel.Type.Call1" →
      "org.freedesktop.Telepathy.Channel.Type.Call1.InitialVideo" ∈ c.allowed → Offers c capVideo

/-- The flag that a property of a streamed media class stands for. -/
def mediaFlag (property : String) : Flags := streamedMedia 0 property

/-- The flag that a property of a call class stands for. -/
def callFlag (property : String) : Flags := call 0 property

theorem streamedMedia_eq (caps : Flags) (property : String) :
    streamedMedia caps property = caps ||| mediaFlag property := by
  unfold mediaFlag streamedMedia
  split
  · simp
  · split
    · simp
    · split
      · simp
      · simp

theorem call_eq (caps : Flags) (property : String) : call caps property = caps ||| callFlag property := by
  unfold callFlag call
  split
  · simp
  · split
    · simp
    · simp

theorem foldl_streamedMedia_has {caps m : Flags} {properties : List String} :
    (properties.foldl streamedMedia caps).has m = true
      ↔ caps.has m = true ∨ ∃ p ∈ properties, (mediaFlag p).has m = true := by
  rw [show streamedMedia = fun caps p => caps ||| mediaFlag p from
    funext fun caps => funext fun p => streamedMedia_eq caps p, BitVec.foldl_or_has]
  simp

theorem foldl_call_has {caps m : Flags} {properties : List String} :
    (properties.foldl call caps).has m = true
      ↔ caps.has m = true ∨ ∃ p ∈ properties, (callFlag p).has m = true := by
  rw [show call = fun caps p => caps ||| callFlag p from
    funext fun caps => funext fun p => call_eq caps p, BitVec.foldl_or_has]
  simp

theorem mediaFlag_has {p : String} {m : Flags} :
    (mediaFlag p).has m = true
      ↔ p = "org.freedesktop.Telepathy.Channel.Type.StreamedMedia.InitialAudio" ∧ capVoice.has m = true
        ∨ p = "org.freedesktop.Telepathy.Channel.Type.StreamedMedia.InitialVideo" ∧ capVideo.has m = true
        ∨ p = "org.freedesktop.Telepathy.Channel.Type.StreamedMedia.ImmutableStreams"
          ∧ capImmutableStreams.has m = true := by
  unfold mediaFlag streamedMedia
  split
  · rename_i hp
    subst hp
    simp
  · rename_i haudio
    split
    · rename_i hp
      subst hp
      simp
    · rename_i hvideo
      split
      · rename_i hp
        subst hp
        simp
      · rename_i hstreams
        simp [haudio, hvideo, hstreams]

theorem callFlag_has {p : String} {m : Flags} :
    (callFlag p).has m = true
      ↔ p = "org.freedesktop.Telepathy.Channel.Type.Call1.InitialAudio" ∧ capVoice.has m = true
        ∨ p = "org.freedesktop.Telepathy.Channel.Type.Call1.InitialVideo" ∧ capVideo.has m = true := by
  unfold callFlag call
  split
  · rename_i hp
    subst hp
    simp
  · rename_i haudio
    split
    · rename_i hp
      subst hp
      simp
    · rename_i hvideo
      simp [haudio, hvideo]

/-- A class of streamed media channels offers what its properties stand for. -/
theorem offers_media {c : ChannelClass} {m : Flags}
    (htype : c.channelType = some "org.freedesktop.Telepathy.Channel.Type.StreamedMedia") :
    (∃ p ∈ c.allowed, (mediaFlag p).has m = true) ↔ ∃ f, c.Offers f ∧ f.has m = true := by
  constructor
  · rintro ⟨p, hp, hhas⟩
    rcases mediaFlag_has.mp hhas with ⟨rfl, h⟩ | ⟨rfl, h⟩ | ⟨rfl, h⟩
    · exact ⟨_, .audio htype hp, h⟩
    · exact ⟨_, .video htype hp, h⟩
    · exact ⟨_, .immutableStreams htype hp, h⟩
  · rintro ⟨f, hoffers, hhas⟩
    cases hoffers with
    | audio _ hp => exact ⟨_, hp, mediaFlag_has.mpr (.inl ⟨rfl, hhas⟩)⟩
    | video _ hp => exact ⟨_, hp, mediaFlag_has.mpr (.inr (.inl ⟨rfl, hhas⟩))⟩
    | immutableStreams _ hp => exact ⟨_, hp, mediaFlag_has.mpr (.inr (.inr ⟨rfl, hhas⟩))⟩
    | text h | callAudio h | callVideo h => rw [htype] at h; simp at h

/-- So does a class of call channels. -/
theorem offers_call {c : ChannelClass} {m : Flags}
    (htype : c.channelType = some "org.freedesktop.Telepathy.Channel.Type.Call1") :
    (∃ p ∈ c.allowed, (callFlag p).has m = true) ↔ ∃ f, c.Offers f ∧ f.has m = true := by
  constructor
  · rintro ⟨p, hp, hhas⟩
    rcases callFlag_has.mp hhas with ⟨rfl, h⟩ | ⟨rfl, h⟩
    · exact ⟨_, .callAudio htype hp, h⟩
    · exact ⟨_, .callVideo htype hp, h⟩
  · rintro ⟨f, hoffers, hhas⟩
    cases hoffers with
    | callAudio _ hp => exact ⟨_, hp, callFlag_has.mpr (.inl ⟨rfl, hhas⟩)⟩
    | callVideo _ hp => exact ⟨_, hp, callFlag_has.mpr (.inr ⟨rfl, hhas⟩)⟩
    | text h | audio h | video h | immutableStreams h => rw [htype] at h; simp at h

/-- What is left are texts. -/
theorem offers_other {c : ChannelClass} {f : Flags} (hoffers : c.Offers f)
    (hmedia : c.channelType ≠ some "org.freedesktop.Telepathy.Channel.Type.StreamedMedia")
    (hcall : c.channelType ≠ some "org.freedesktop.Telepathy.Channel.Type.Call1") :
    c.channelType = some "org.freedesktop.Telepathy.Channel.Type.Text" ∧ f = capText := by
  cases hoffers with
  | text h => exact ⟨h, rfl⟩
  | audio h | video h | immutableStreams h => exact absurd h hmedia
  | callAudio h | callVideo h => exact absurd h hcall

/-- **What a class adds** is what it offers, if it fixes the type and the target and no more. -/
theorem addTo_has {caps m : Flags} {c : ChannelClass} :
    (addTo caps c).has m = true
      ↔ caps.has m = true ∨ c.fixed.length = 2 ∧ ∃ f, c.Offers f ∧ f.has m = true := by
  unfold addTo
  split
  · rename_i hfixed
    simp [hfixed]
  · rename_i hfixed
    have htwo : c.fixed.length = 2 := by omega
    rw [and_iff_right htwo]
    split
    · rename_i htype
      rw [foldl_streamedMedia_has, offers_media htype]
    · rename_i hmedia
      split
      · rename_i htype
        rw [foldl_call_has, offers_call htype]
      · rename_i hcall
        split
        · rename_i htype
          rw [BitVec.or_has, Bool.or_eq_true]
          refine or_congr_right ⟨fun h => ⟨_, .text htype, h⟩, ?_⟩
          rintro ⟨f, hoffers, hhas⟩
          rwa [(offers_other hoffers hmedia hcall).2] at hhas
        · rename_i htext
          refine ⟨.inl, ?_⟩
          rintro (h | ⟨f, hoffers, -⟩)
          · exact h
          · exact absurd (offers_other hoffers hmedia hcall).1 htext

/-- The flags say exactly what some class offers. -/
def Decodes (classes : List ChannelClass) (caps : Flags) : Prop :=
  ∀ m, caps.has m = true
    ↔ ∃ c ∈ classes, c.fixed.length = 2 ∧ ∃ f, c.Offers f ∧ f.has m = true

theorem decodes_foldl (classes : List ChannelClass) : Decodes classes (classes.foldl addTo 0) := by
  have hgen : ∀ (classes : List ChannelClass) (caps m : Flags),
      (classes.foldl addTo caps).has m = true
        ↔ caps.has m = true
          ∨ ∃ c ∈ classes, c.fixed.length = 2 ∧ ∃ f, c.Offers f ∧ f.has m = true := by
    intro classes
    induction classes with
    | nil => simp
    | cons c classes ih =>
      intro caps m
      rw [List.foldl_cons, ih, addTo_has, or_assoc]
      simp only [List.mem_cons, exists_eq_or_imp]
  intro m
  have hzero : BitVec.has (0 : Flags) m = false := BitVec.zero_has m
  have h := hgen classes 0 m
  rw [hzero] at h
  simpa using h

end ChannelClass

namespace Cl

/-- The only entry of a list with the key of that entry. -/
theorem filter_key_eq {α β : Type} [DecidableEq α] {xs : List (α × β)} (hnd : (xs.map Prod.fst).Nodup)
    {x : α × β} (hx : x ∈ xs) : (xs.filter fun y => y.1 = x.1) = [x] := by
  induction xs with
  | nil => cases hx
  | cons y ys ih =>
    rw [List.map_cons, List.nodup_cons] at hnd
    rcases List.mem_cons.mp hx with rfl | hlater
    · have hnone : (ys.filter fun y => y.1 = x.1) = [] := by
        rw [List.filter_eq_nil_iff]
        intro y hy
        have hne : y.1 ≠ x.1 := fun heq => hnd.1 (List.mem_map.mpr ⟨y, hy, heq⟩)
        simpa using hne
      simp [hnone]
    · have hne : y.1 ≠ x.1 := fun heq => hnd.1 (heq ▸ List.mem_map_of_mem hlater)
      simpa [hne] using ih hnd.2 hlater

theorem contactCapabilities_contacts {cl : Cl} (hc : cl.isConnected = true)
    (caps : List (Nat × List ChannelClass)) (order : List Nat) (r : Nat) :
    (cl.contactCapabilitiesChangedCb caps order).1.contacts r
      = (caps.filter fun p => cl.lookup p.1 = some r).foldl
        (fun c p => { c with capabilities := p.2.foldl ChannelClass.addTo 0 }) (cl.contacts r) := by
  unfold contactCapabilitiesChangedCb detailsCb
  rw [if_pos hc]
  show (cl.detailsChanged Prod.fst (fun (p : Nat × Flags) c => { c with capabilities := p.2 })
    (getContactCapabilities caps)).1.contacts r = _
  unfold getContactCapabilities
  rw [detailsChanged_contacts, List.filter_map, List.foldl_map]
  rfl

theorem map_fst_getContactCapabilities (caps : List (Nat × List ChannelClass)) :
    (getContactCapabilities caps).map Prod.fst = caps.map Prod.fst := by
  unfold getContactCapabilities
  rw [List.map_map]
  rfl

/-- With no handle twice in the report, no order of the array makes the signal name anybody twice. -/
theorem contactCapabilities_named {cl : Cl} (h : ByHandle cl) (caps : List (Nat × Flags))
    (order : List Nat) (hkeys : (caps.map Prod.fst).Nodup) :
    cl.NamedOnce (caps.map Prod.fst) (cl.updateContactCapabilities caps order) := by
  have ho := (detailsChanged_spec Prod.fst
    (f := fun (p : Nat × Flags) c => { c with capabilities := p.2 })
    (fun _ _ => ⟨rfl, rfl, rfl, rfl⟩) cl caps).1
  have hrefs := detailsChanged_refs Prod.fst
    (fun (p : Nat × Flags) c => { c with capabilities := p.2 }) cl caps
  have htell : cl.Tellable (caps.map Prod.fst) := .inl (hkeys.filter _)
  have hall := (named_once_iff h ho (fun _ => 0) (caps.map Prod.fst)).mpr htell
  rw [← hrefs] at hall
  by_cases hperm : order.isPerm
      (cl.detailsChanged Prod.fst (fun (p : Nat × Flags) c => { c with capabilities := p.2 }) caps).2
  · exact hall order ((maySort_iff _).mpr (List.isPerm_iff.mp hperm))
  · have hsame := hall _ ((maySort_iff _).mpr (List.Perm.refl _))
    have hself : ∀ rs : List Nat, arranged rs rs = rs := by
      intro rs
      unfold arranged
      rw [ite_self]
    rw [hself] at hsame
    unfold updateContactCapabilities arranged
    dsimp only
    rw [if_neg hperm]
    exact hsame

end Cl

namespace Backend

/--
**A report of channel classes is decoded faithfully.** In every reachable state with a connection:
each contact that the table has under its handle can do what its classes offer and nothing else,
nobody else is touched, and the signal names each of those contacts once, in whatever order the
table is walked and the array is sorted.
-/
theorem channelClasses_decoded {pathSuffix vcardField : String} {db : Db} {b : Backend}
    (hreach : ReachableFrom pathSuffix vcardField db b) (hc : b.tpcl.isConnected = true)
    {caps : List (Nat × List ChannelClass)} (hkeys : (caps.map Prod.fst).Nodup) (order : List Nat) :
    (∀ h classes r, (h, classes) ∈ caps → b.tpcl.lookup h = some r →
        ∃ flags, ChannelClass.Decodes classes flags
          ∧ (b.tpcl.contactCapabilitiesChangedCb caps order).1.contacts r
            = { b.tpcl.contacts r with capabilities := flags })
      ∧ (∀ r, (∀ h ∈ caps.map Prod.fst, b.tpcl.lookup h ≠ some r) →
        (b.tpcl.contactCapabilitiesChangedCb caps order).1.contacts r = b.tpcl.contacts r)
      ∧ b.tpcl.NamedOnce (caps.map Prod.fst) (b.tpcl.contactCapabilitiesChangedCb caps order) := by
  have hbyHandle := reachable_byHandle hreach
  refine ⟨?_, ?_, ?_⟩
  · intro h classes r hin hr
    refine ⟨_, ChannelClass.decodes_foldl classes, ?_⟩
    -- a contact is found under one handle only
    have hone : (caps.filter fun p => b.tpcl.lookup p.1 = some r) = [(h, classes)] := by
      rw [← Cl.filter_key_eq hkeys hin]
      refine List.filter_congr fun p _ => decide_eq_decide.mpr ⟨?_, ?_⟩
      · intro hp
        rw [← (hbyHandle.entry p.1 r hp).2, (hbyHandle.entry h r hr).2]
      · intro hp
        rw [hp]
        exact hr
    rw [Cl.contactCapabilities_contacts hc, hone]
    rfl
  · intro r hnone
    have hempty : (caps.filter fun p => b.tpcl.lookup p.1 = some r) = [] := by
      rw [List.filter_eq_nil_iff]
      intro p hp he
      exact hnone p.1 (List.mem_map_of_mem hp) (of_decide_eq_true he)
    rw [Cl.contactCapabilities_contacts hc, hempty]
    rfl
  · have hnamed := Cl.contactCapabilities_named hbyHandle (getContactCapabilities caps) order (by
      rw [Cl.map_fst_getContactCapabilities]
      exact hkeys)
    rw [Cl.map_fst_getContactCapabilities] at hnamed
    unfold Cl.contactCapabilitiesChangedCb Cl.detailsCb
    rw [if_pos hc]
    exact hnamed

/-- Ann can take calls with sound, and Bob can be written to; one class of Ann fixes too much. -/
def twoReports : List (Nat × List ChannelClass) :=
  [(8, [{ fixed := [("org.freedesktop.Telepathy.Channel.ChannelType",
              some "org.freedesktop.Telepathy.Channel.Type.Text"),
            ("org.freedesktop.Telepathy.Channel.TargetHandleType", none)]
          allowed := [] }]),
    (7, [{ fixed := [("org.freedesktop.Telepathy.Channel.TargetHandleType", none),
              ("org.freedesktop.Telepathy.Channel.ChannelType",
                some "org.freedesktop.Telepathy.Channel.Type.Call1")]
           allowed := ["org.freedesktop.Telepathy.Channel.Type.Call1.InitialAudio"] },
         { fixed := [("org.freedesktop.Telepathy.Channel.ChannelType",
              some "org.freedesktop.Telepathy.Channel.Type.Text"),
            ("org.freedesktop.Telepathy.Channel.TargetHandleType", none),
            ("org.freedesktop.Telepathy.Channel.Type.Text.MessageTypes", none)]
           allowed := [] }])]

theorem channelClasses_decoded_two :
    ∃ b, ReachableFrom "acct" "X-JABBER" {} b ∧ b.tpcl.lookup 7 = some 0 ∧ b.tpcl.lookup 8 = some 1
      ∧ (∀ h classes r, (h, classes) ∈ twoReports → b.tpcl.lookup h = some r →
        ∃ flags, ChannelClass.Decodes classes flags
          ∧ (b.tpcl.contactCapabilitiesChangedCb twoReports [0, 1]).1.contacts r
            = { b.tpcl.contacts r with capabilities := flags })
      ∧ (∀ r, (∀ h ∈ twoReports.map Prod.fst, b.tpcl.lookup h ≠ some r) →
        (b.tpcl.contactCapabilitiesChangedCb twoReports [0, 1]).1.contacts r = b.tpcl.contacts r)
      ∧ b.tpcl.NamedOnce (twoReports.map Prod.fst)
          (b.tpcl.contactCapabilitiesChangedCb twoReports [0, 1]) := by
  have hrun : ((machine.run (boot "acct" "X-JABBER" {}) twoSynced).map fun b =>
      decide (b.tpcl.isConnected = true ∧ b.tpcl.lookup 7 = some 0 ∧ b.tpcl.lookup 8 = some 1))
      = some true := by decide +kernel
  obtain ⟨b, hb, hfacts⟩ := Option.map_eq_some_iff.mp hrun
  obtain ⟨hc, hann, hbob⟩ := of_decide_eq_true hfacts
  exact ⟨b, ⟨_, hb⟩, hann, hbob, channelClasses_decoded ⟨_, hb⟩ hc (by decide) [0, 1]⟩

end Backend

end EdsTelepathy
