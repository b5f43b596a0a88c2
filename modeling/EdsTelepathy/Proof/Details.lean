import EdsTelepathy.Cl.Step

/-!
# What a report changes

A report about handles leaves the table, the channels and the calls alone. It changes
nothing of a contact but its details, and the only signals are about contacts of the table.
-/

namespace EdsTelepathy

/-- The two records are of the same contact in the same place: only details differ. -/
structure Contact.SameRecord (c c' : Contact) : Prop where
  handle : c'.handle = c.handle
  name : c'.name = c.name
  flags : c'.flags = c.flags
  pendingFlags : c'.pendingFlags = c.pendingFlags

theorem Contact.SameRecord.refl (c : Contact) : c.SameRecord c := ⟨rfl, rfl, rfl, rfl⟩

theorem Contact.SameRecord.trans {c c' c'' : Contact} (h : c.SameRecord c')
    (h' : c'.SameRecord c'') : c.SameRecord c'' :=
  ⟨h'.handle.trans h.handle, h'.name.trans h.name, h'.flags.trans h.flags,
    h'.pendingFlags.trans h.pendingFlags⟩

namespace Signal

/-- The contacts that a signal is about. -/
def contacts : Signal → List Contact
  | statusChanged _ => []
  | contactsAdded cs => cs
  | contactsRemoved cs => cs
  | flagsChanged cs => cs
  | aliasesChanged cs => cs
  | presencesChanged cs => cs
  | avatarTokensChanged cs => cs
  | capabilitiesChanged cs => cs
  | contactInfoChanged cs => cs
  | avatarDataChanged c => [c]
  | getMembersDone none => []
  | getMembersDone (some cs) => cs

/-- Whether the signal only passes details on. -/
def isDetail : Signal → Bool
  | aliasesChanged _ => true
  | presencesChanged _ => true
  | avatarTokensChanged _ => true
  | capabilitiesChanged _ => true
  | contactInfoChanged _ => true
  | avatarDataChanged _ => true
  | _ => false

end Signal

namespace Cl

/-- Only details of contacts are different. -/
def DetailsOnly (cl cl' : Cl) : Prop :=
  ∃ heap, cl' = { cl with contacts := heap } ∧ ∀ a, (cl.contacts a).SameRecord (heap a)

/-- What a report leaves, and what it emits. -/
structure ReportEnd (cl : Cl) (r : Cl × List Signal) : Prop where
  only : DetailsOnly cl r.1
  signals : ∀ s ∈ r.2, s.isDetail = true ∧
    ∀ c ∈ s.contacts, ∃ h a, cl.lookup h = some a ∧ c = r.1.contacts a

theorem DetailsOnly.refl (cl : Cl) : DetailsOnly cl cl :=
  ⟨cl.contacts, rfl, fun a => .refl (cl.contacts a)⟩

theorem DetailsOnly.lookup {cl cl' : Cl} (h : DetailsOnly cl cl') (x : Nat) :
    cl'.lookup x = cl.lookup x := by
  obtain ⟨heap, rfl, -⟩ := h
  rfl

theorem DetailsOnly.modify {cl cl' : Cl} (h : DetailsOnly cl cl') (r : Nat)
    {f : Contact → Contact} (hf : ∀ c : Contact, c.SameRecord (f c)) :
    DetailsOnly cl (cl'.modify r f) := by
  obtain ⟨heap, rfl, hheap⟩ := h
  refine ⟨_, rfl, fun a => ?_⟩
  show (cl.contacts a).SameRecord (Function.update heap r (f (heap r)) a)
  by_cases ha : a = r
  · subst ha
    rw [Function.update_self]
    exact (hheap a).trans (hf (heap a))
  · rw [Function.update_of_ne ha]
    exact hheap a

theorem reported_silent {cl : Cl} : ReportEnd cl (cl, []) :=
  ⟨.refl cl, fun _ h => by cases h⟩

/-- The contacts found by a loop are contacts of the table. -/
def Known (cl : Cl) (rs : List Nat) : Prop := ∀ a ∈ rs, ∃ h, cl.lookup h = some a

theorem Known.snoc {cl : Cl} {rs : List Nat} (h : Known cl rs) {x a : Nat}
    (hx : cl.lookup x = some a) : Known cl (rs ++ [a]) := by
  intro b hb
  rcases List.mem_append.mp hb with hb | hb
  · exact h b hb
  · rw [List.mem_singleton] at hb
    exact ⟨x, hb ▸ hx⟩

/-- A signal about the contacts that a loop has found. -/
theorem reported_emit {cl cl' : Cl} (h : DetailsOnly cl cl') {rs : List Nat} (hrs : Known cl rs)
    {sig : List Contact → Signal} (hsig : ∀ cs, (sig cs).isDetail = true ∧ (sig cs).contacts = cs) :
    ReportEnd cl (cl', cl'.emit rs sig) := by
  refine ⟨h, fun s hs => ?_⟩
  unfold emit at hs
  split at hs
  · cases hs
  · rw [List.mem_singleton] at hs
    subst hs
    refine ⟨(hsig _).1, fun c hc => ?_⟩
    rw [(hsig _).2] at hc
    obtain ⟨a, ha, rfl⟩ := List.mem_map.mp hc
    obtain ⟨x, hx⟩ := hrs a ha
    exact ⟨x, a, hx, rfl⟩

/-- Sorting is arranging. -/
theorem arranged_perm (order rs : List Nat) : (arranged order rs).Perm rs := by
  unfold arranged
  split
  · rename_i h
    exact List.isPerm_iff.mp h
  · exact .refl rs

theorem withoutDuplicates_subset {cl : Cl} {order rs : List Nat} {a : Nat}
    (h : a ∈ cl.withoutDuplicates (arranged order rs)) : a ∈ rs :=
  (arranged_perm order rs).subset (Distinct.withoutAdjacent_subset _ _ h)

theorem detailsChanged_spec {α : Type} (handle : α → Nat) {f : α → Contact → Contact}
    (hf : ∀ x c, Contact.SameRecord c (f x c)) (cl : Cl) (xs : List α) :
    DetailsOnly cl (cl.detailsChanged handle f xs).1 ∧
      Known cl (cl.detailsChanged handle f xs).2 := by
  refine foldl_inv (I := fun st : Cl × List Nat => DetailsOnly cl st.1 ∧ Known cl st.2)
    (fun st x h => ?_) xs ⟨.refl cl, fun _ ha => by cases ha⟩
  unfold detailChanged
  split
  · rename_i r hr
    rw [h.1.lookup] at hr
    exact ⟨h.1.modify r (hf x), h.2.snoc hr⟩
  · exact h

theorem contactInfoReported_spec (cl : Cl) (infos : List (Nat × Option String)) :
    DetailsOnly cl (infos.foldl contactInfoReported (cl, [])).1 ∧
      Known cl (infos.foldl contactInfoReported (cl, [])).2 := by
  refine foldl_inv (I := fun st : Cl × List Nat => DetailsOnly cl st.1 ∧ Known cl st.2)
    (fun st p h => ?_) infos ⟨.refl cl, fun _ ha => by cases ha⟩
  unfold contactInfoReported
  split
  · rename_i r hr
    rw [h.1.lookup] at hr
    refine ⟨?_, ?_⟩
    · show DetailsOnly cl (st.1.modify r fun c => { c with contactInfo := p.2 })
      exact h.1.modify r fun c => ⟨rfl, rfl, rfl, rfl⟩
    dsimp only
    split
    · exact h.2
    · exact h.2.snoc hr
  · exact h

theorem reported_contactInfo (cl : Cl) (infos : List (Nat × Option String)) :
    ReportEnd cl (cl.getContactInfoForMembersCb infos) := by
  have hspec := contactInfoReported_spec cl infos
  exact reported_emit hspec.1 hspec.2 fun _ => ⟨rfl, rfl⟩

theorem sameRecord_withCapability (cap : ContactCapability) (c : Contact) :
    c.SameRecord (c.withCapability cap) := by
  unfold Contact.withCapability
  dsimp only
  by_cases hmedia : cap.channelType = "org.freedesktop.Telepathy.Channel.Type.StreamedMedia"
  · rw [if_pos hmedia]
    split
    · exact ⟨rfl, rfl, rfl, rfl⟩
    · exact ⟨rfl, rfl, rfl, rfl⟩
  · rw [if_neg hmedia]
    split
    · exact ⟨rfl, rfl, rfl, rfl⟩
    · exact .refl c

/-- **A report changes details only.** -/
theorem detailsCb_reported (cl : Cl) (d : Details) : ReportEnd cl (cl.detailsCb d) := by
  unfold detailsCb
  split
  · cases d with
    | aliasesChanged aliases =>
      have hspec := detailsChanged_spec Prod.fst
        (f := fun (a : Nat × String) c => { c with aliasName := some a.2 })
        (fun _ _ => ⟨rfl, rfl, rfl, rfl⟩) cl aliases
      exact reported_emit hspec.1 hspec.2 fun _ => ⟨rfl, rfl⟩
    | presencesChanged presences =>
      have hspec := detailsChanged_spec Prod.fst
        (f := fun (p : Nat × Presence) c => { c with
          genericStatus := p.2.type
          status := p.2.status
          statusMessage := p.2.message })
        (fun _ _ => ⟨rfl, rfl, rfl, rfl⟩) cl presences
      exact reported_emit hspec.1 hspec.2 fun _ => ⟨rfl, rfl⟩
    | avatarUpdated h token =>
      show ReportEnd cl (cl.avatarUpdatedCb h token)
      unfold avatarUpdatedCb
      split
      · rename_i r hr
        split
        · exact reported_silent
        · -- an image is a detail, and its signal is about its contact
          refine ⟨?_, fun s hs => ?_⟩
          · show DetailsOnly cl (cl.modify r fun c => { c with avatarToken := some token })
            exact (DetailsOnly.refl cl).modify r fun c => ⟨rfl, rfl, rfl, rfl⟩
          rw [List.mem_singleton] at hs
          subst hs
          refine ⟨rfl, fun c hc => ⟨h, r, hr, ?_⟩⟩
          exact List.mem_singleton.mp hc
      · exact reported_silent
    | avatarRetrieved h token data mime =>
      show ReportEnd cl (cl.avatarRetrievedCb h token data mime)
      unfold avatarRetrievedCb
      split
      · rename_i r hr
        refine ⟨?_, fun s hs => ?_⟩
        · show DetailsOnly cl (cl.modify r fun c => { c with
            avatarLen := data.length
            avatarData := some data
            avatarMime := some mime
            avatarToken := some token })
          exact (DetailsOnly.refl cl).modify r fun c => ⟨rfl, rfl, rfl, rfl⟩
        rw [List.mem_singleton] at hs
        subst hs
        refine ⟨rfl, fun c hc => ⟨h, r, hr, ?_⟩⟩
        exact List.mem_singleton.mp hc
      · exact reported_silent
    | capabilities caps order =>
      have hspec := detailsChanged_spec ContactCapability.handle (f := Contact.withCapability)
        sameRecord_withCapability cl (caps.map ContactCapability.unpacked)
      exact reported_emit hspec.1 (fun a ha => hspec.2 a (withoutDuplicates_subset ha))
        fun _ => ⟨rfl, rfl⟩
    | contactCapabilities caps order =>
      have hspec := detailsChanged_spec Prod.fst
        (f := fun (p : Nat × Flags) c => { c with capabilities := p.2 })
        (fun _ _ => ⟨rfl, rfl, rfl, rfl⟩) cl caps
      exact reported_emit hspec.1 (fun a ha => hspec.2 a (withoutDuplicates_subset ha))
        fun _ => ⟨rfl, rfl⟩
    | contactInfoChanged h info => exact reported_contactInfo cl [(h, info)]
    | contactInfoForMembers infos => exact reported_contactInfo cl infos
  · exact reported_silent

end Cl

end EdsTelepathy
