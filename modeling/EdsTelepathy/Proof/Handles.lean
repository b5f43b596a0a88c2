import EdsTelepathy.Proof.Roster

/-!
# The roster contacts behind the signals

Whatever the connection manager reports, every entry of `contactsHash` is under the handle
of its contact. So a signal that the address book takes by handle (contacts that are new,
or are in the reply to `get_members`; presences; capabilities) is about handles of the
table. And a handle leaves the table in two ways only: the account goes offline, or the
contact has been announced as removed.
-/

namespace EdsTelepathy

/-- The signals that give a contact of the address book a handle or a presence. -/
def Signal.isHeard : Signal → Bool
  | contactsAdded _ => true
  | presencesChanged _ => true
  | capabilitiesChanged _ => true
  | getMembersDone _ => true
  | _ => false

/-- The signals after a removal: they take nobody out of the address book. -/
def Signal.isQuiet : Signal → Bool
  | flagsChanged _ => true
  | aliasesChanged _ => true
  | avatarTokensChanged _ => true
  | presencesChanged _ => true
  | _ => false

namespace Cl

/--
Every entry of the table is under the handle of its contact, and what waits in an idle
source announces nobody.
-/
structure ByHandle (cl : Cl) : Prop where
  entry : ∀ h x, cl.lookup h = some x → x < cl.next ∧ (cl.contacts x).handle = h
  idle : ∀ p ∈ cl.calls, ∀ k ∈ p.2.idleClosure, k.contactsToAdd = []

theorem byHandle_init : ByHandle {} :=
  ⟨fun _ _ h => (by cases h), fun _ h => (by cases h)⟩

/-- Nothing of the table has changed, nor the handles of its contacts. -/
structure SameHandles (cl cl' : Cl) : Prop where
  hash : cl'.contactsHash = cl.contactsHash
  next : cl.next ≤ cl'.next
  handle : ∀ x < cl.next, (cl'.contacts x).handle = (cl.contacts x).handle

theorem SameHandles.refl (cl : Cl) : SameHandles cl cl := ⟨rfl, Nat.le_refl _, fun _ _ => rfl⟩

theorem SameHandles.trans {cl cl' cl'' : Cl} (h : SameHandles cl cl') (h' : SameHandles cl' cl'') :
    SameHandles cl cl'' :=
  ⟨h'.hash.trans h.hash, Nat.le_trans h.next h'.next, fun x hx =>
    (h'.handle x (Nat.lt_of_lt_of_le hx h.next)).trans (h.handle x hx)⟩

theorem SameHandles.lookup {cl cl' : Cl} (h : SameHandles cl cl') (x : Nat) :
    cl'.lookup x = cl.lookup x := by
  unfold Cl.lookup
  rw [h.hash]

theorem sameHandles_modify (cl : Cl) (r : Nat) {f : Contact → Contact}
    (hf : (f (cl.contacts r)).handle = (cl.contacts r).handle) : SameHandles cl (cl.modify r f) := by
  refine ⟨rfl, Nat.le_refl _, fun x _ => ?_⟩
  by_cases he : x = r
  · subst he
    rw [modify_contacts_self]
    exact hf
  · rw [modify_contacts_of_ne he]

/-- A new contact object is at an address of its own. -/
theorem sameHandles_alloc (cl : Cl) (c : Contact) :
    SameHandles cl { cl with
      contacts := Function.update cl.contacts cl.next c, next := cl.next + 1 } :=
  ⟨rfl, Nat.le_succ _, fun _ hx =>
    congrArg Contact.handle (Function.update_of_ne (Nat.ne_of_lt hx) ..)⟩

theorem Inspected.sameHandles {cl cl' : Cl} (h : Inspected cl cl') : SameHandles cl cl' :=
  ⟨h.hash, Nat.le_of_eq h.next.symm, fun x _ => (h.contact x).1⟩

theorem DetailsOnly.sameHandles {cl cl' : Cl} (h : DetailsOnly cl cl') : SameHandles cl cl' := by
  obtain ⟨heap, rfl, hheap⟩ := h
  exact ⟨rfl, Nat.le_refl _, fun x _ => (hheap x).handle⟩

/-- The table and its contacts are as before, and every call is an old one or announces nobody. -/
theorem ByHandle.of_same {cl cl' : Cl} (h : ByHandle cl) (hs : SameHandles cl cl')
    (hcalls : ∀ p ∈ cl'.calls, p ∈ cl.calls ∨ ∀ k ∈ p.2.idleClosure, k.contactsToAdd = []) :
    ByHandle cl' := by
  refine ⟨fun x r hr => ?_, fun p hp => ?_⟩
  · rw [hs.lookup] at hr
    obtain ⟨hlt, hx⟩ := h.entry x r hr
    exact ⟨Nat.lt_of_lt_of_le hlt hs.next, (hs.handle r hlt).trans hx⟩
  · rcases hcalls p hp with hold | hnew
    · exact h.idle p hold
    · exact hnew

/-- A call that is not an idle source with a closure can be made at any time. -/
theorem ByHandle.call {cl : Cl} (h : ByHandle cl) {c : Call}
    (hc : ∀ k ∈ c.idleClosure, k.contactsToAdd = []) : ByHandle (cl.call c) := by
  refine h.of_same ⟨rfl, Nat.le_refl _, fun _ _ => rfl⟩ fun p hp => ?_
  rcases List.mem_append.mp hp with hp | hp
  · exact .inl hp
  · rw [List.mem_singleton] at hp
    subst hp
    exact .inr hc

theorem ByHandle.takeCall {cl cl₁ : Cl} {i : Nat} {c : Call} (h : ByHandle cl)
    (ht : cl.takeCall i = some (c, cl₁)) :
    ByHandle cl₁ ∧ (∀ x, cl₁.lookup x = cl.lookup x) ∧ ∀ k ∈ c.idleClosure, k.contactsToAdd = [] := by
  obtain ⟨k, hget, rfl⟩ := takeCall_eq ht
  refine ⟨h.of_same ⟨rfl, Nat.le_refl _, fun _ _ => rfl⟩ fun p hp =>
    .inl (List.mem_of_mem_eraseIdx hp), fun _ => rfl, ?_⟩
  exact h.idle _ (List.mem_of_getElem? hget)

/-! ## MembersChanged -/

/-- The loops have made contacts for the handles to inspect, each under its own handle. -/
structure Gathering (cl : Cl) (st : Cl × MembersChangedClosure) : Prop where
  same : SameHandles cl st.1
  calls : st.1.calls = cl.calls
  made : ∀ r ∈ st.2.contactsToAdd, r < st.1.next
  nobody : st.2.handlesToInspect = [] → st.2.contactsToAdd = []

theorem gathering_memberSet {cl : Cl} (l : ListId) (s : Standing) {st : Cl × MembersChangedClosure}
    (h : Gathering cl st) (x : Nat) : Gathering cl (memberSet l s st x) := by
  unfold memberSet
  split
  · exact ⟨h.same.trans (sameHandles_modify st.1 _ rfl), h.calls, h.made, h.nobody⟩
  · refine ⟨h.same.trans (sameHandles_alloc st.1 _), h.calls, fun r hr => ?_, fun hnil => ?_⟩
    · have hnext : st.1.next < st.1.next + 1 := Nat.lt_succ_self _
      rcases List.mem_append.mp hr with hr | hr
      · exact Nat.lt_trans (h.made r hr) hnext
      · rw [List.mem_singleton.mp hr]
        exact hnext
    · simp at hnil

theorem gathering_memberRemoved {cl : Cl} (l : ListId) {st : Cl × MembersChangedClosure}
    (h : Gathering cl st) (x : Nat) : Gathering cl (memberRemoved l st x) := by
  unfold memberRemoved
  split
  · rename_i r hr
    have hsame : SameHandles cl (st.1.modify r (clearStanding l)) :=
      h.same.trans (sameHandles_modify st.1 r rfl)
    dsimp only
    split
    · exact ⟨hsame, h.calls, h.made, h.nobody⟩
    · exact ⟨hsame, h.calls, h.made, h.nobody⟩
  · exact h

/-- The new contacts enter the table, and the closure waits. -/
theorem byHandle_membersChanged {cl : Cl} (h : ByHandle cl) (l : ListId)
    (added removed lp rp : List Nat) :
    ByHandle (cl.tpChannelMembersChangedCb l added removed lp rp)
      ∧ ∀ x, (cl.lookup x).isSome = true →
        ((cl.tpChannelMembersChangedCb l added removed lp rp).lookup x).isSome = true := by
  unfold tpChannelMembersChangedCb
  split
  · have hset : ∀ s (xs : List Nat) {st}, Gathering cl st →
        Gathering cl (xs.foldl (memberSet l s) st) := fun s xs _ hst =>
      foldl_inv (I := Gathering cl) (fun st x hst => gathering_memberSet l s hst x) xs hst
    have hremove : ∀ (xs : List Nat) {st}, Gathering cl st →
        Gathering cl (xs.foldl (memberRemoved l) st) := fun xs _ hst =>
      foldl_inv (I := Gathering cl) (fun st x hst => gathering_memberRemoved l hst x) xs hst
    have hstart : Gathering cl (cl, {}) :=
      ⟨.refl cl, rfl, fun _ hr => (by cases hr), fun _ => rfl⟩
    have hend := hset .remotePending rp (hset .localPending lp
      (hremove removed (hset .current added hstart)))
    dsimp only
    generalize rp.foldl (memberSet l .remotePending) _ = st at hend ⊢
    have henter : ByHandle (st.1.enterAdded st.2.contactsToAdd) := by
      refine ⟨fun x r hr => ?_, fun p hp => ?_⟩
      · rcases Table.lookup_insertAll hr with ⟨hin, hx⟩ | ⟨hold, -⟩
        · exact ⟨hend.made r hin, hx⟩
        · have hold' : cl.lookup x = some r := (hend.same.lookup x).symm.trans hold
          obtain ⟨hlt, hx⟩ := h.entry x r hold'
          exact ⟨Nat.lt_of_lt_of_le hlt hend.same.next, (hend.same.handle r hlt).trans hx⟩
      · have hp' : p ∈ st.1.calls := hp
        rw [hend.calls] at hp'
        exact h.idle p hp'
    have hkept : ∀ x, (cl.lookup x).isSome = true →
        ((st.1.enterAdded st.2.contactsToAdd).lookup x).isSome = true := by
      intro x hx
      rw [← hend.same.lookup] at hx
      exact Table.lookup_insertAll_isSome (.inl hx)
    split
    · rename_i hnil
      refine ⟨henter.call fun k hk => ?_, hkept⟩
      cases hk
      exact hend.nobody hnil
    · exact ⟨henter.call fun k hk => (by cases hk), hkept⟩
  · exact ⟨h, fun _ hx => hx⟩

/-! ## The other callbacks -/

theorem known_updateContactDetails (cl : Cl) (tps : List TpContact) :
    Known cl (cl.updateContactDetails tps).2 := by
  have hinv : Inspected cl (cl.updateContactDetails tps).1
      ∧ Known cl (cl.updateContactDetails tps).2 := by
    refine foldl_inv (I := fun st : Cl × List Nat => Inspected cl st.1 ∧ Known cl st.2)
      (fun st tp hst => ?_) tps ⟨inspected_updateContactDetails cl [], fun _ hr => (by cases hr)⟩
    have hone := inspected_updateContactDetails st.1 [tp]
    have hfst : (st.1.updateContactDetails [tp]).1 = (updateContactDetail st tp).1 := by
      show (updateContactDetail (st.1, []) tp).1 = _
      unfold updateContactDetail
      dsimp only
      split <;> rfl
    rw [hfst] at hone
    refine ⟨⟨hone.hash.trans hst.1.hash, hone.next.trans hst.1.next, hone.calls.trans hst.1.calls,
      fun r => ⟨(hone.contact r).1.trans (hst.1.contact r).1,
        (hone.contact r).2.trans (hst.1.contact r).2⟩⟩, ?_⟩
    unfold updateContactDetail
    split
    · exact hst.2
    · rename_i r hr
      rw [hst.1.sameHandles.lookup] at hr
      exact hst.2.snoc hr
  exact hinv.2

/-- The contacts that a loop has found are under their handles. -/
theorem ByHandle.read {cl cl' : Cl} (h : ByHandle cl) (hs : SameHandles cl cl') {rs : List Nat}
    (hrs : Known cl rs) : ∀ c ∈ cl'.read rs, (cl.lookup c.handle).isSome = true := by
  intro c hc
  obtain ⟨r, hr, rfl⟩ := List.mem_map.mp hc
  obtain ⟨x, hx⟩ := hrs r hr
  obtain ⟨hlt, hh⟩ := h.entry x r hx
  rw [hs.handle r hlt, hh, hx]
  rfl

theorem byHandle_memberListed {cl : Cl} (h : ByHandle cl) (flag : Flags) (x : Nat) :
    ByHandle (memberListed flag cl x)
      ∧ ∀ y, (cl.lookup y).isSome = true → ((memberListed flag cl x).lookup y).isSome = true := by
  unfold memberListed
  split
  · rename_i r hr
    have hsame : SameHandles cl (cl.modify r fun c => { c with handle := x, flags := c.flags ||| flag }) :=
      sameHandles_modify cl r (h.entry x r hr).2.symm
    exact ⟨h.of_same hsame fun _ hp => .inl hp, fun y hy => hy⟩
  · rename_i hnone
    refine ⟨⟨fun y r hr => ?_, h.idle⟩, fun y hy => ?_⟩
    · rcases Table.lookup_insert_eq_some.mp hr with ⟨rfl, rfl⟩ | ⟨-, hold⟩
      · refine ⟨Nat.lt_succ_self _, ?_⟩
        dsimp only
        rw [Function.update_self]
      · obtain ⟨hlt, hh⟩ := h.entry y r hold
        refine ⟨Nat.lt_succ_of_lt hlt, ?_⟩
        exact (congrArg Contact.handle (Function.update_of_ne (Nat.ne_of_lt hlt) ..)).trans hh
    · show ((cl.contactsHash.insert x cl.next).lookup y).isSome = true
      rw [Table.lookup_insert_ite]
      split
      · rfl
      · exact hy

theorem byHandle_foldl_memberListed {cl : Cl} (h : ByHandle cl) (flag : Flags) (xs : List Nat) :
    ByHandle (xs.foldl (memberListed flag) cl)
      ∧ ∀ y, (cl.lookup y).isSome = true →
        ((xs.foldl (memberListed flag) cl).lookup y).isSome = true := by
  refine foldl_inv (I := fun cl' : Cl => ByHandle cl' ∧ ∀ y, (cl.lookup y).isSome = true →
    (cl'.lookup y).isSome = true) (fun cl' x hI => ?_) xs ⟨h, fun _ hy => hy⟩
  obtain ⟨h1, h2⟩ := byHandle_memberListed hI.1 flag x
  exact ⟨h1, fun y hy => h2 y (hI.2 y hy)⟩

/-- What a callback leaves, and what it says: the handles that are heard are in the table. -/
structure HandleEnd (cl : Cl) (r : Cl × List Signal) : Prop where
  byHandle : ByHandle r.1
  heard : ∀ s ∈ r.2, s.isHeard = true → ∀ c ∈ s.contacts, (cl.lookup c.handle).isSome = true

/-- Nobody has left the table. -/
def KeepsEntries (cl cl' : Cl) : Prop :=
  ∀ x, (cl.lookup x).isSome = true → (cl'.lookup x).isSome = true

/-- Whoever has left the table has been announced, and nobody has been heard of since. -/
def Announced (cl : Cl) (r : Cl × List Signal) : Prop :=
  ∀ x, (cl.lookup x).isSome = true → r.1.lookup x = none →
    ∃ before cs after, r.2 = before ++ .contactsRemoved cs :: after
      ∧ (∃ c ∈ cs, c.handle = x) ∧ ∀ s ∈ after, s.isQuiet = true

theorem KeepsEntries.announced {cl : Cl} {r : Cl × List Signal} (h : KeepsEntries cl r.1) :
    Announced cl r := by
  intro x hx hnone
  have hsome := h x hx
  rw [hnone] at hsome
  cases hsome

theorem SameHandles.keepsEntries {cl cl' : Cl} (h : SameHandles cl cl') : KeepsEntries cl cl' := by
  intro x hx
  rw [h.lookup]
  exact hx

theorem mem_emit {cl : Cl} {rs : List Nat} {sig : List Contact → Signal} {s : Signal}
    (h : s ∈ cl.emit rs sig) : s = sig (cl.read rs) := by
  unfold emit at h
  split at h
  · cases h
  · exact List.mem_singleton.mp h

/-- The second half of `MembersChanged`. -/
theorem handleEnd_updateChangedMembers {cl cl₁ : Cl} (h : ByHandle cl) (hs : Inspected cl cl₁)
    {k : MembersChangedClosure} {updated : List Nat}
    (hadd : ∀ r ∈ k.contactsToAdd, (cl.lookup (cl₁.contacts r).handle).isSome = true)
    (hupd : Known cl updated) :
    HandleEnd cl (cl₁.updateChangedMembers k updated)
      ∧ Announced cl (cl₁.updateChangedMembers k updated) := by
  have hsame := hs.sameHandles
  have h₁ : ByHandle cl₁ := h.of_same hsame fun p hp => .inl (hs.calls ▸ hp)
  have hheard := h.read hsame hupd
  unfold updateChangedMembers
  dsimp only
  refine ⟨⟨⟨fun x r hr => ?_, h₁.idle⟩, fun s hs' hh c hc => ?_⟩, fun x hx hnone => ?_⟩
  · -- the table only lost entries
    exact h₁.entry x r (Table.lookup_eraseAll.mp hr).1
  · -- additions and information are about contacts that the table has
    simp only [List.mem_append] at hs'
    rcases hs' with ((((hs' | hs') | hs') | hs') | hs') | hs'
    · rw [mem_emit hs'] at hc
      obtain ⟨r, hr, rfl⟩ := List.mem_map.mp hc
      exact hadd r hr
    · rw [mem_emit hs'] at hh; cases hh
    · rw [mem_emit hs'] at hh; cases hh
    · rw [mem_emit hs'] at hh; cases hh
    · rw [mem_emit hs'] at hh; cases hh
    · rw [mem_emit hs'] at hc
      exact hheard c hc
  · -- the handle was erased because of a contact that was announced as removed
    obtain ⟨r, hr⟩ := Option.isSome_iff_exists.mp hx
    have hex : ∃ x' ∈ k.contactsToRemove, (cl₁.contacts x').handle = x := by
      by_contra hcon
      push Not at hcon
      have hkept : (Table.eraseAll cl₁.contactsHash (fun r => (cl₁.contacts r).handle)
          k.contactsToRemove).lookup x = some r :=
        Table.lookup_eraseAll.mpr ⟨(hsame.lookup x).trans hr, hcon⟩
      exact absurd (hkept.symm.trans hnone) nofun
    obtain ⟨x', hin, hx'⟩ := hex
    have hne : k.contactsToRemove ≠ [] := List.ne_nil_of_mem hin
    refine ⟨cl₁.emit k.contactsToAdd .contactsAdded, cl₁.read k.contactsToRemove,
      cl₁.emit k.contactsToUpdate .flagsChanged ++ cl₁.emit updated .aliasesChanged
        ++ cl₁.emit updated .avatarTokensChanged ++ cl₁.emit updated .presencesChanged, ?_,
      ⟨cl₁.contacts x', List.mem_map.mpr ⟨x', hin, rfl⟩, hx'⟩, ?_⟩
    · have hone : cl₁.emit k.contactsToRemove .contactsRemoved
          = [.contactsRemoved (cl₁.read k.contactsToRemove)] := if_neg hne
      rw [hone]
      simp only [List.append_assoc, List.cons_append, List.nil_append]
      rfl
    · intro s hs'
      simp only [List.mem_append] at hs'
      rcases hs' with ((hs' | hs') | hs') | hs' <;> rw [mem_emit hs'] <;> rfl

/-- A callback that leaves the handles alone and says nothing that is heard. -/
theorem HandleEnd.silent {cl cl' : Cl} (h : ByHandle cl') (hk : KeepsEntries cl cl')
    {signals : List Signal} (hq : ∀ s ∈ signals, s.isHeard = false) :
    HandleEnd cl (cl', signals) ∧ Announced cl (cl', signals) := by
  refine ⟨⟨h, fun s hs hh => ?_⟩, KeepsEntries.announced hk⟩
  rw [hq s hs] at hh
  cases hh

/-- The calls that set the connection and its channels up. -/
theorem byHandle_setUp {cl : Cl} (h : ByHandle cl) (l : ListId) (ok : Bool) :
    ByHandle (cl.tpConnectionReadyCb ok) ∧ ByHandle (cl.requestHandlesForContactListCb l ok)
      ∧ ByHandle (cl.tpRequestChannelCb l ok) := by
  refine ⟨?_, ?_, ?_⟩
  · unfold tpConnectionReadyCb
    split
    · exact foldl_inv (fun cl' l' h' => h'.call fun _ hk => (by cases hk)) _ h
    · exact h
  · unfold requestHandlesForContactListCb
    split
    · exact h.call fun _ hk => (by cases hk)
    · exact h
  · unfold tpRequestChannelCb
    split
    · have hchannel : ByHandle { cl with channels := Function.update cl.channels l true } :=
        ⟨h.entry, h.idle⟩
      exact hchannel.call fun _ hk => (by cases hk)
    · exact h

theorem hash_setUp (cl : Cl) (l : ListId) (ok : Bool) :
    (cl.tpConnectionReadyCb ok).contactsHash = cl.contactsHash
      ∧ (cl.requestHandlesForContactListCb l ok).contactsHash = cl.contactsHash
      ∧ (cl.tpRequestChannelCb l ok).contactsHash = cl.contactsHash := by
  refine ⟨?_, ?_, ?_⟩
  · unfold tpConnectionReadyCb
    split <;> rfl
  · unfold requestHandlesForContactListCb
    split <;> rfl
  · unfold tpRequestChannelCb
    split <;> rfl

theorem handleEnd_channelReady {cl : Cl} (h : ByHandle cl) (l : ListId) (ok : Bool) :
    HandleEnd cl (cl.tpChannelReadyCb l ok) ∧ Announced cl (cl.tpChannelReadyCb l ok) := by
  have hsame : HandleEnd cl (cl, []) ∧ Announced cl (cl, []) :=
    HandleEnd.silent h (fun _ hx => hx) fun _ hs => (by cases hs)
  unfold tpChannelReadyCb
  split
  · split
    · unfold setStatus
      split
      · exact hsame
      · have hon : ByHandle { cl with status := .online } := ⟨h.entry, h.idle⟩
        have hkeeps : KeepsEntries cl { cl with status := .online } := fun _ hx => hx
        refine HandleEnd.silent hon hkeeps fun s hs => ?_
        rw [List.mem_singleton.mp hs]
        rfl
    · exact hsame
  · exact hsame

theorem byHandle_getNextChannelMembers {cl : Cl} (h : ByHandle cl) (ls : List ListId) :
    ByHandle (cl.getNextChannelMembers ls).1 := by
  induction ls with
  | nil =>
    unfold getNextChannelMembers finishGetChannelMembers
    split
    · split
      · exact h
      · exact h.call fun _ hk => (by cases hk)
    · exact h
  | cons l rest ih =>
    unfold getNextChannelMembers
    split
    · split
      · exact h.call fun _ hk => (by cases hk)
      · exact ih
    · exact h

theorem handleEnd_allMembers {cl : Cl} (h : ByHandle cl) (l : ListId) (rest : List ListId)
    (reply : Option AllMembers) :
    HandleEnd cl (cl.channelGetAllMembersCb l rest reply)
      ∧ Announced cl (cl.channelGetAllMembersCb l rest reply) := by
  have hfails : HandleEnd cl (cl, [.getMembersDone none]) ∧ Announced cl (cl, [.getMembersDone none]) := by
    refine ⟨⟨h, fun s hs _ c hc => ?_⟩, KeepsEntries.announced fun _ hx => hx⟩
    rw [List.mem_singleton.mp hs] at hc
    cases hc
  unfold channelGetAllMembersCb
  cases reply with
  | none => exact hfails
  | some m =>
    dsimp only
    split
    · obtain ⟨h1, k1⟩ := byHandle_foldl_memberListed h (l.flag .current) m.current
      obtain ⟨h2, k2⟩ := byHandle_foldl_memberListed h1 (l.flag .localPending) m.localPending
      obtain ⟨h3, k3⟩ := byHandle_foldl_memberListed h2 (l.flag .remotePending) m.remotePending
      generalize m.remotePending.foldl (memberListed (l.flag .remotePending)) _ = cl₁ at h3 k3 ⊢
      have hkeeps : KeepsEntries cl (cl₁.getNextChannelMembers rest).1 := by
        obtain ⟨calls, heq⟩ := getNextChannelMembers_eq cl₁ rest
        rw [heq]
        exact fun x hx => k3 x (k2 x (k1 x hx))
      refine ⟨⟨byHandle_getNextChannelMembers h3 rest, fun s hs _ c hc => ?_⟩,
        KeepsEntries.announced hkeeps⟩
      -- the walk ends with an empty roster at most
      cases s with
      | getMembersDone result =>
        cases result with
        | none => cases hc
        | some cs =>
          rw [getNextChannelMembers_done hs] at hc
          cases hc
      | _ =>
        rcases getNextChannelMembers_signals cl₁ rest with hnil | ⟨result, hone, -⟩
        · rw [hnil] at hs; cases hs
        · rw [hone] at hs
          cases List.mem_singleton.mp hs
    · exact hfails

theorem handleEnd_getContacts {cl : Cl} (h : ByHandle cl) (reply : Option (List TpContact)) :
    HandleEnd cl (cl.getContactsCb reply) ∧ Announced cl (cl.getContactsCb reply) := by
  have hfails : HandleEnd cl (cl, [.getMembersDone none]) ∧ Announced cl (cl, [.getMembersDone none]) := by
    refine ⟨⟨h, fun s hs _ c hc => ?_⟩, KeepsEntries.announced fun _ hx => hx⟩
    rw [List.mem_singleton.mp hs] at hc
    cases hc
  unfold getContactsCb
  cases reply with
  | none => exact hfails
  | some tps =>
    dsimp only
    split
    · have hi := inspected_updateContactDetails cl tps
      have hread := h.read hi.sameHandles (known_updateContactDetails cl tps)
      refine ⟨⟨h.of_same hi.sameHandles fun p hp => .inl (hi.calls ▸ hp), fun s hs _ c hc => ?_⟩,
        KeepsEntries.announced hi.sameHandles.keepsEntries⟩
      refine hread c ?_
      rcases List.mem_cons.mp hs with rfl | hs
      · exact hc
      · split at hs
        · cases hs
        · simp only [List.mem_cons, List.not_mem_nil, or_false] at hs
          rcases hs with rfl | rfl | rfl | rfl <;> exact hc
    · exact hfails

theorem handleEnd_details {cl : Cl} (h : ByHandle cl) (k : MembersChangedClosure)
    (reply : Option (List TpContact)) :
    HandleEnd cl (cl.membersChangedWithDetailsCb k reply)
      ∧ Announced cl (cl.membersChangedWithDetailsCb k reply) := by
  have hsame : HandleEnd cl (cl, []) ∧ Announced cl (cl, []) :=
    HandleEnd.silent h (fun _ hx => hx) fun _ hs => (by cases hs)
  unfold membersChangedWithDetailsCb
  cases reply with
  | none => exact hsame
  | some tps =>
    dsimp only
    split
    · have hi := inspected_updateContactDetails cl tps
      refine handleEnd_updateChangedMembers h hi (fun r hr => ?_) (known_updateContactDetails cl tps)
      -- only contacts of the table are announced
      have hvalid := of_decide_eq_true (List.mem_filter.mp hr).2
      rw [← hi.sameHandles.lookup]
      exact hvalid.2
    · exact hsame

theorem handleEnd_idle {cl : Cl} (h : ByHandle cl) {k : MembersChangedClosure}
    (hk : k.contactsToAdd = []) :
    HandleEnd cl (cl.handleMembersChangedIdleCb k)
      ∧ Announced cl (cl.handleMembersChangedIdleCb k) := by
  unfold handleMembersChangedIdleCb
  split
  · refine handleEnd_updateChangedMembers h ⟨rfl, rfl, rfl, fun _ => ⟨rfl, rfl⟩⟩ (fun r hr => ?_)
      fun _ hr => (by cases hr)
    rw [hk] at hr
    cases hr
  · exact HandleEnd.silent h (fun _ hx => hx) fun _ hs => (by cases hs)

theorem handleEnd_report {cl : Cl} (h : ByHandle cl) (d : Details) :
    HandleEnd cl (cl.detailsCb d) ∧ Announced cl (cl.detailsCb d) := by
  have hrep := detailsCb_reported cl d
  have hsame := hrep.only.sameHandles
  have hcalls : (cl.detailsCb d).1.calls = cl.calls := by
    obtain ⟨heap, heq, -⟩ := hrep.only
    rw [heq]
  refine ⟨⟨h.of_same hsame fun p hp => .inl (hcalls ▸ hp), fun s hs _ c hc => ?_⟩,
    KeepsEntries.announced hsame.keepsEntries⟩
  obtain ⟨x, a, hx, rfl⟩ := (hrep.signals s hs).2 c hc
  obtain ⟨hlt, hh⟩ := h.entry x a hx
  rw [hsame.handle a hlt, hh, hx]
  rfl

end Cl

/-! ## Going offline -/

/-- What every contact of the address book is while there is no connection. -/
structure Contact.Offline (c : Contact) : Prop where
  generic : c.genericStatus = "unknown"
  status : c.status = some "unknown"
  capabilities : c.capabilities = 0

instance (c : Contact) : Decidable c.Offline :=
  decidable_of_iff (c.genericStatus = "unknown" ∧ c.status = some "unknown" ∧ c.capabilities = 0)
    ⟨fun h => ⟨h.1, h.2.1, h.2.2⟩, fun h => ⟨h.generic, h.status, h.capabilities⟩⟩

namespace Cl

/-- What is emitted where the account goes offline. -/
def farewell (cs : List Contact) : List Signal :=
  (if cs = [] then [] else [.presencesChanged cs, .capabilitiesChanged cs])
    ++ [.statusChanged .offline]

/-- What a disconnect does while the account is online: everybody of the table is reported offline. -/
theorem disconnect_online {cl : Cl} (h : ByHandle cl) (hon : cl.status = .online) :
    ∃ cs : List Contact,
      (cl.connectionStatusChangedCb none).2 = farewell cs
      ∧ (∀ c ∈ cs, c.Offline) ∧ (∀ c ∈ cs, (cl.lookup c.handle).isSome = true)
      ∧ (∀ x, (cl.lookup x).isSome = true → ∃ c ∈ cs, c.handle = x)
      ∧ (cl.connectionStatusChangedCb none).1.contactsHash = ∅ := by
  let off : Contact → Contact := fun c =>
    { c with status := some "unknown", genericStatus := "unknown", statusMessage := none, capabilities := 0 }
  let heap : Nat → Contact := fun r =>
    if r ∈ Table.values cl.contactsHash then off (cl.contacts r) else cl.contacts r
  have hheap : ∀ r ∈ Table.values cl.contactsHash, heap r = off (cl.contacts r) := fun r hr => if_pos hr
  have hne : ClStatus.offline ≠ cl.status := by rw [hon]; decide
  refine ⟨(Table.values cl.contactsHash).map heap, ?_, fun c hc => ?_, fun c hc => ?_, fun x hx => ?_, ?_⟩
  · unfold connectionStatusChangedCb setStatus farewell
    rw [if_neg hne]
    unfold goOffline
    dsimp only
    by_cases hnil : Table.values cl.contactsHash = []
    · rw [hnil]; rfl
    · rw [if_neg hnil, if_neg (by simpa using hnil)]
      rfl
  · obtain ⟨r, hr, rfl⟩ := List.mem_map.mp hc
    rw [hheap r hr]
    exact ⟨rfl, rfl, rfl⟩
  · obtain ⟨r, hr, rfl⟩ := List.mem_map.mp hc
    obtain ⟨x, hx⟩ := Table.mem_values.mp hr
    have hh : (heap r).handle = x := by
      rw [hheap r hr]
      exact (h.entry x r hx).2
    rw [hh]
    exact Option.isSome_iff_exists.mpr ⟨r, hx⟩
  · obtain ⟨r, hr⟩ := Option.isSome_iff_exists.mp hx
    have hin : r ∈ Table.values cl.contactsHash := Table.mem_values.mpr ⟨x, hr⟩
    refine ⟨heap r, List.mem_map.mpr ⟨r, hin, rfl⟩, ?_⟩
    rw [hheap r hin]
    exact (h.entry x r hr).2
  · unfold connectionStatusChangedCb setStatus
    rw [if_neg hne]
    rfl

/-- **Every signal that is heard is about handles of the table, and who leaves it is announced.** -/
theorem handles_step {cl cl' : Cl} {e : Event} {signals : List Signal} (h : ByHandle cl)
    (hs : cl.step e = some (cl', signals)) :
    HandleEnd cl (cl', signals)
      ∧ ((e = .connectionStatusChanged none ∧ cl.status = .online)
        ∨ Announced cl (cl', signals)) := by
  have hcb := step_callback hs
  generalize hr : (cl', signals) = r at hcb ⊢
  -- the state a call has been taken from has the same table
  have htaken : ∀ {i : Nat} {c : Call} {cl₁ : Cl} {q : Cl × List Signal},
      cl.takeCall i = some (c, cl₁) → HandleEnd cl₁ q ∧ Announced cl₁ q →
      HandleEnd cl q ∧ ((e = .connectionStatusChanged none ∧ cl.status = .online) ∨ Announced cl q) := by
    intro i c cl₁ q ht hq
    have hlook := (h.takeCall ht).2.1
    refine ⟨⟨hq.1.byHandle, fun s hs' hh c' hc' => ?_⟩, .inr fun x hx => ?_⟩
    · rw [← hlook]
      exact hq.1.heard s hs' hh c' hc'
    · rw [← hlook] at hx
      exact hq.2 x hx
  have hset : ∀ {cl₁ cl₂ : Cl}, ByHandle cl₂ → cl₂.contactsHash = cl₁.contactsHash →
      HandleEnd cl₁ (cl₂, []) ∧ Announced cl₁ (cl₂, []) := by
    intro cl₁ cl₂ h₂ hhash
    refine HandleEnd.silent h₂ (fun x hx => ?_) fun _ hs' => (by cases hs')
    unfold lookup
    rw [hhash]
    exact hx
  cases hcb with
  | connection conn =>
    cases conn with
    | some c =>
      have hend : HandleEnd cl (cl.setupTpConnection c, []) ∧ Announced cl (cl.setupTpConnection c, []) := by
        unfold setupTpConnection
        split
        · exact hset h rfl
        · refine hset ?_ rfl
          have hconn : ByHandle { cl with conn := some c } := ⟨h.entry, h.idle⟩
          exact hconn.call fun _ hk => (by cases hk)
      exact ⟨hend.1, .inr hend.2⟩
    | none =>
      by_cases hon : cl.status = .online
      · obtain ⟨cs, hsig, -, hin, -, hhash⟩ := disconnect_online h hon
        refine ⟨⟨⟨fun x r' hr' => ?_, ?_⟩, fun s hs' _ c hc => ?_⟩, .inl ⟨rfl, hon⟩⟩
        · unfold lookup at hr'
          rw [hhash] at hr'
          cases hr'
        · unfold connectionStatusChangedCb setStatus
          rw [if_neg (by rw [hon]; decide)]
          exact h.idle
        · refine hin c ?_
          rw [hsig] at hs'
          unfold farewell at hs'
          rcases List.mem_append.mp hs' with hs' | hs'
          · split at hs'
            · cases hs'
            · simp only [List.mem_cons, List.not_mem_nil, or_false] at hs'
              rcases hs' with rfl | rfl <;> exact hc
          · rw [List.mem_singleton.mp hs'] at hc
            cases hc
      · have hoff : ClStatus.offline = cl.status := by
          cases hst : cl.status with
          | online => exact absurd hst hon
          | offline => rfl
        have heq : cl.connectionStatusChangedCb none = (cl.freeChannelsAndConnection, []) := by
          unfold connectionStatusChangedCb setStatus
          rw [if_pos hoff]
        rw [heq]
        have hfree : ByHandle cl.freeChannelsAndConnection := ⟨h.entry, h.idle⟩
        have hend : HandleEnd cl _ ∧ Announced cl _ := hset hfree rfl
        exact ⟨hend.1, .inr hend.2⟩
  | members l added removed lp rp =>
    obtain ⟨h₁, hkeeps⟩ := byHandle_membersChanged h l added removed lp rp
    have hnone : ∀ s ∈ ([] : List Signal), s.isHeard = false := fun _ hs' => (by cases hs')
    have hend := HandleEnd.silent h₁ hkeeps hnone
    exact ⟨hend.1, .inr hend.2⟩
  | report d =>
    have hend := handleEnd_report h d
    exact ⟨hend.1, .inr hend.2⟩
  | connectionReady ok ht =>
    exact htaken ht (hset (byHandle_setUp (h.takeCall ht).1 .subscribe ok).1 (hash_setUp _ .subscribe ok).1)
  | requestHandles ok ht =>
    exact htaken ht (hset (byHandle_setUp (h.takeCall ht).1 _ ok).2.1 (hash_setUp _ _ ok).2.1)
  | requestChannel ok ht =>
    exact htaken ht (hset (byHandle_setUp (h.takeCall ht).1 _ ok).2.2 (hash_setUp _ _ ok).2.2)
  | channelReady ok ht => exact htaken ht (handleEnd_channelReady (h.takeCall ht).1 _ ok)
  | @idle i k cl₁ ok ht =>
    exact htaken ht (handleEnd_idle (h.takeCall ht).1 ((h.takeCall ht).2.2 k rfl))
  | allMembers reply ht => exact htaken ht (handleEnd_allMembers (h.takeCall ht).1 _ _ reply)
  | getContacts reply ht => exact htaken ht (handleEnd_getContacts (h.takeCall ht).1 reply)
  | details reply ht => exact htaken ht (handleEnd_details (h.takeCall ht).1 _ reply)

end Cl

end EdsTelepathy
