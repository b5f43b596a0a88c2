import EdsTelepathy.Proof.Calls
import EdsTelepathy.Proof.Standing

/-!
# What a roster contact looks like

The contact list layer only ever sets list bits in the flags of its contacts, and the
only thing that is ever pending for one of them is to store a variant of its name. So a
contact that comes with a signal never brings an operation with it: what is pending in
the book was put there by the book.
-/

namespace EdsTelepathy

/-- A contact with list flags and nothing but variants pending. -/
structure Contact.Plain (c : Contact) : Prop where
  flags : c.flags &&& ~~~allListFlags = 0#32
  pending : c.pendingFlags &&& ~~~scheduleUpdateVariants = 0#32

/-- A contact that was just allocated is plain. -/
theorem Contact.plain_new : Contact.new.Plain := ⟨by decide, by decide⟩

/-- A new name may make the old one a variant, which is the one thing that can be pending. -/
theorem Contact.Plain.updateName {c : Contact} (h : c.Plain) (n : Option String) :
    (c.updateName n).Plain := by
  refine ⟨?_, ?_⟩
  · unfold Contact.updateName
    split
    · exact h.flags
    · split
      · exact h.flags
      · split <;> exact h.flags
  · unfold Contact.updateName
    split
    · exact h.pending
    · split
      · exact h.pending
      · split
        · exact BitVec.within_or h.pending (by decide)
        · exact h.pending

/-- No bookkeeping bit is set in the flags, and no operation is pending. -/
theorem Contact.Plain.has_flags {c : Contact} (h : c.Plain) {m : Flags}
    (hm : allListFlags &&& m = 0#32) : c.flags.has m = false :=
  BitVec.has_false_of_within h.flags hm

/-- Of the pending bits only the one for the variants can be set. -/
theorem Contact.Plain.has_pending {c : Contact} (h : c.Plain) {m : Flags}
    (hm : scheduleUpdateVariants &&& m = 0#32) : c.pendingFlags.has m = false :=
  BitVec.has_false_of_within h.pending hm

/-- The copy of a plain contact is plain. -/
theorem Contact.Plain.dup {c : Contact} (h : c.Plain) : c.dup.Plain := ⟨h.flags, h.pending⟩

namespace Cl

/-- Every contact object of the layer is plain. -/
def Plain (cl : Cl) : Prop := ∀ r, (cl.contacts r).Plain

/-- A change of one object that keeps it plain keeps all of them plain. -/
theorem Plain.modify {cl : Cl} (h : cl.Plain) {r : Nat} {f : Contact → Contact}
    (hf : ∀ c : Contact, c.Plain → (f c).Plain) : (cl.modify r f).Plain := by
  intro r'
  by_cases he : r' = r
  · subst he
    rw [modify_contacts_self]
    exact hf _ (h r')
  · rw [modify_contacts_of_ne he]
    exact h r'

theorem Plain.update {cl : Cl} (h : cl.Plain) {r : Nat} {c : Contact} (hc : c.Plain) :
    ∀ r', (Function.update cl.contacts r c r').Plain := by
  intro r'
  by_cases he : r' = r
  · subst he
    rw [Function.update_self]; exact hc
  · rw [Function.update_of_ne he]; exact h r'

/-- A member is allocated with the flag of the list it was reported on. -/
theorem plain_fresh (h : Nat) (l : ListId) (s : Standing) :
    ({ Contact.new with handle := h, flags := l.flag s } : Contact).Plain :=
  ⟨flag_within l s, Contact.plain_new.pending⟩

/-! ## What the callbacks make of the contacts -/

/-- A change of membership moves list flags and nothing else. -/
theorem plain_memberSet (l : ListId) (s : Standing) {st : Cl × MembersChangedClosure}
    (h : st.1.Plain) (x : Nat) : (memberSet l s st x).1.Plain := by
  unfold memberSet
  split
  · refine h.modify fun c hc => ⟨?_, hc.pending⟩
    exact BitVec.within_or (BitVec.within_and _ hc.flags) (flag_within l s)
  · exact h.update (plain_fresh x l s)

/-- So does the end of a membership. -/
theorem plain_memberRemoved (l : ListId) {st : Cl × MembersChangedClosure} (h : st.1.Plain)
    (x : Nat) : (memberRemoved l st x).1.Plain := by
  unfold memberRemoved
  split
  · rename_i r _
    have hclear : (st.1.modify r (clearStanding l)).Plain :=
      h.modify fun c hc => ⟨BitVec.within_and _ hc.flags, hc.pending⟩
    dsimp only
    split
    · exact hclear
    · exact hclear
  · exact h

/-- **A change of the members** leaves plain contacts, of whatever list it is. -/
theorem plain_membersChanged {cl : Cl} (h : cl.Plain) (l : ListId)
    (added removed lp rp : List Nat) :
    (cl.tpChannelMembersChangedCb l added removed lp rp).Plain := by
  have hset : ∀ s (xs : List Nat), ∀ {st : Cl × MembersChangedClosure}, st.1.Plain →
      (xs.foldl (memberSet l s) st).1.Plain := fun s xs st hst =>
    foldl_inv (I := fun st : Cl × MembersChangedClosure => st.1.Plain)
      (fun _ x hst => plain_memberSet l s hst x) xs hst
  have hremoved : ∀ (xs : List Nat), ∀ {st : Cl × MembersChangedClosure}, st.1.Plain →
      (xs.foldl (memberRemoved l) st).1.Plain := fun xs st hst =>
    foldl_inv (I := fun st : Cl × MembersChangedClosure => st.1.Plain)
      (fun _ x hst => plain_memberRemoved l hst x) xs hst
  unfold tpChannelMembersChangedCb
  split
  · have hadded : (added.foldl (memberSet l .current) (cl, {})).1.Plain := hset .current added h
    have hall := hset .remotePending rp (hset .localPending lp (hremoved removed hadded))
    dsimp only
    split
    · exact hall
    · exact hall
  · exact h

/-- So do the replies that list all the members. -/
theorem plain_memberListed {cl : Cl} (h : cl.Plain) (l : ListId) (s : Standing) (x : Nat) :
    (memberListed (l.flag s) cl x).Plain := by
  unfold memberListed
  split
  · exact h.modify fun c hc => ⟨BitVec.within_or hc.flags (flag_within l s), hc.pending⟩
  · exact h.update (plain_fresh x l s)

/-- The details that a reply brings are no flags; the name may make the old one a variant. -/
theorem plain_updateContactDetails {cl : Cl} (h : cl.Plain) (tps : List TpContact) :
    (cl.updateContactDetails tps).1.Plain := by
  refine foldl_inv (I := fun st : Cl × List Nat => st.1.Plain) (fun st tp hst => ?_) tps h
  unfold updateContactDetail
  split
  · exact hst
  · dsimp only
    refine hst.modify fun c hc => ?_
    have hname := hc.updateName (some tp.identifier)
    exact ⟨hname.flags, hname.pending⟩

/-- Going offline takes presences and capabilities away, and no flags. -/
theorem plain_goOffline {cl : Cl} (h : cl.Plain) : cl.goOffline.1.Plain := by
  intro r
  unfold goOffline
  dsimp only
  split
  · exact ⟨(h r).flags, (h r).pending⟩
  · exact h r

/-! ## What is emitted -/

/-- The callback leaves plain contacts, and emits plain contacts. -/
def PlainEnd (p : Cl × List Signal) : Prop :=
  p.1.Plain ∧ ∀ s ∈ p.2, ∀ c ∈ s.contacts, c.Plain

/-- A callback that emits nothing has only its contacts to answer for. -/
theorem PlainEnd.silent {cl : Cl} (h : cl.Plain) : PlainEnd (cl, []) :=
  ⟨h, fun s hs => by cases hs⟩

theorem Plain.read {cl : Cl} (h : cl.Plain) {rs : List Nat} {c : Contact} (hc : c ∈ cl.read rs) :
    c.Plain := by
  obtain ⟨r, -, rfl⟩ := List.mem_map.mp hc
  exact h r

/-- A signal carries copies of contacts of the layer. -/
theorem plain_emit {cl : Cl} {rs : List Nat} {sig : List Contact → Signal} {s : Signal}
    (hs : s ∈ cl.emit rs sig) (h : cl.Plain) (hsig : ∀ cs, (sig cs).contacts = cs) :
    ∀ c ∈ s.contacts, c.Plain := by
  intro c hc
  unfold emit at hs
  split at hs
  · cases hs
  · rw [List.mem_singleton] at hs
    subst hs
    rw [hsig] at hc
    exact h.read hc

theorem plain_updateChangedMembers {cl : Cl} (h : cl.Plain) (k : MembersChangedClosure)
    (updated : List Nat) : PlainEnd (cl.updateChangedMembers k updated) := by
  refine ⟨h, fun s hs => ?_⟩
  unfold updateChangedMembers at hs
  simp only [List.mem_append, or_assoc] at hs
  rcases hs with hs | hs | hs | hs | hs | hs <;> exact plain_emit hs h fun _ => rfl

theorem plain_getNextChannelMembers {cl : Cl} (h : cl.Plain) (ls : List ListId) :
    PlainEnd (cl.getNextChannelMembers ls) := by
  obtain ⟨calls, heq⟩ := getNextChannelMembers_eq cl ls
  refine ⟨by rw [heq]; exact h, fun s hs c hc => ?_⟩
  rcases getNextChannelMembers_signals cl ls with hnil | ⟨result, hone, hres⟩
  · rw [hnil] at hs; cases hs
  · rw [hone, List.mem_singleton] at hs
    subst hs
    cases result with
    | none => cases hc
    | some cs =>
      obtain rfl := getNextChannelMembers_done (by rw [hone]; exact List.mem_singleton_self _)
      cases hc

theorem plain_setStatus {cl : Cl} (h : cl.Plain) (s : ClStatus) : PlainEnd (cl.setStatus s) := by
  unfold setStatus
  split
  · exact .silent h
  · cases s with
    | online =>
      refine ⟨h, fun s hs c hc => ?_⟩
      rw [List.mem_singleton] at hs
      subst hs
      cases hc
    | offline =>
      have hoff : ({ cl with status := .offline } : Cl).Plain := h
      have hgo := plain_goOffline hoff
      refine ⟨hgo, fun s hs c hc => ?_⟩
      rcases List.mem_append.mp hs with hs | hs
      · unfold goOffline at hs hgo
        dsimp only at hs hgo
        split at hs
        · cases hs
        · simp only [List.mem_cons, List.not_mem_nil, or_false] at hs
          rcases hs with rfl | rfl
          · obtain ⟨r, -, rfl⟩ := List.mem_map.mp hc
            exact hgo r
          · obtain ⟨r, -, rfl⟩ := List.mem_map.mp hc
            exact hgo r
      · rw [List.mem_singleton] at hs
        subst hs
        cases hc

theorem plain_getContacts {cl : Cl} (h : cl.Plain) (reply : Option (List TpContact)) :
    PlainEnd (cl.getContactsCb reply) := by
  have herror : PlainEnd (cl, [.getMembersDone none]) := by
    refine ⟨h, fun s hs c hc => ?_⟩
    rw [List.mem_singleton] at hs
    subst hs
    cases hc
  unfold getContactsCb
  cases reply with
  | none => exact herror
  | some tps =>
    dsimp only
    split
    · have hup := plain_updateContactDetails h tps
      refine ⟨hup, fun s hs c hc => ?_⟩
      suffices hin : c ∈ (cl.updateContactDetails tps).1.read (cl.updateContactDetails tps).2 from
        hup.read hin
      rcases List.mem_cons.mp hs with rfl | hs
      · exact hc
      · split at hs
        · cases hs
        · simp only [List.mem_cons, List.not_mem_nil, or_false] at hs
          rcases hs with rfl | rfl | rfl | rfl <;> exact hc
    · exact herror

theorem plain_details {cl : Cl} (h : cl.Plain) (k : MembersChangedClosure)
    (reply : Option (List TpContact)) : PlainEnd (cl.membersChangedWithDetailsCb k reply) := by
  unfold membersChangedWithDetailsCb
  cases reply with
  | none => exact .silent h
  | some tps =>
    dsimp only
    split
    · exact plain_updateChangedMembers (plain_updateContactDetails h tps) _ _
    · exact .silent h

theorem plain_allMembers {cl : Cl} (h : cl.Plain) (l : ListId) (rest : List ListId)
    (reply : Option AllMembers) : PlainEnd (cl.channelGetAllMembersCb l rest reply) := by
  have herror : PlainEnd (cl, [.getMembersDone none]) := by
    refine ⟨h, fun s hs c hc => ?_⟩
    rw [List.mem_singleton] at hs
    subst hs
    cases hc
  have hlisted : ∀ s (xs : List Nat), ∀ {cl : Cl}, cl.Plain → (xs.foldl (memberListed (l.flag s)) cl).Plain :=
    fun s xs cl hcl => foldl_inv (I := Cl.Plain) (fun _ x hcl => plain_memberListed hcl l s x) xs hcl
  unfold channelGetAllMembersCb
  cases reply with
  | none => exact herror
  | some m =>
    dsimp only
    split
    · exact plain_getNextChannelMembers (hlisted .remotePending _
        (hlisted .localPending _ (hlisted .current _ h))) rest
    · exact herror

/-- A report leaves the flags of every contact as they are. -/
theorem plain_detailsCb {cl : Cl} (h : cl.Plain) (d : Details) : PlainEnd (cl.detailsCb d) := by
  obtain ⟨⟨heap, heq, hheap⟩, hsignals⟩ := detailsCb_reported cl d
  generalize cl.detailsCb d = r at heq hsignals
  obtain ⟨cl', signals⟩ := r
  dsimp only at heq
  subst heq
  have hplain : ∀ a, (heap a).Plain := fun a =>
    ⟨by rw [(hheap a).flags]; exact (h a).flags,
      by rw [(hheap a).pendingFlags]; exact (h a).pending⟩
  refine ⟨hplain, fun s hs c hc => ?_⟩
  obtain ⟨-, hc'⟩ := hsignals s hs
  obtain ⟨-, a, -, rfl⟩ := hc' c hc
  exact hplain a

/-- **Every step of the layer leaves and emits plain contacts.** -/
theorem plain_step {cl cl' : Cl} {e : Event} {signals : List Signal} (h : cl.Plain)
    (hs : cl.step e = some (cl', signals)) : PlainEnd (cl', signals) := by
  have hcb := step_callback hs
  generalize (cl', signals) = r at hcb
  have htake : ∀ {i c cl₁}, cl.takeCall i = some (c, cl₁) → cl₁.Plain := by
    intro i c cl₁ ht
    obtain ⟨k, -, rfl⟩ := takeCall_eq ht
    exact h
  cases hcb with
  | connection conn =>
    cases conn with
    | some conn =>
      refine .silent ?_
      unfold setupTpConnection
      split <;> exact h
    | none => exact plain_setStatus h .offline
  | members l added removed lp rp => exact .silent (plain_membersChanged h l added removed lp rp)
  | connectionReady ok ht =>
    have h₁ := htake ht
    refine .silent ?_
    unfold tpConnectionReadyCb
    split <;> exact h₁
  | requestHandles ok ht =>
    have h₁ := htake ht
    refine .silent ?_
    unfold requestHandlesForContactListCb
    split <;> exact h₁
  | requestChannel ok ht =>
    have h₁ := htake ht
    refine .silent ?_
    unfold tpRequestChannelCb
    split <;> exact h₁
  -- the layer goes online here, or nothing happens
  | channelReady ok ht =>
    unfold tpChannelReadyCb
    split
    · split
      · exact plain_setStatus (htake ht) .online
      · exact .silent (htake ht)
    · exact .silent (htake ht)
  | idle ok ht =>
    unfold handleMembersChangedIdleCb
    split
    · exact plain_updateChangedMembers (htake ht) _ []
    · exact .silent (htake ht)
  | allMembers reply ht => exact plain_allMembers (htake ht) _ _ reply
  | getContacts reply ht => exact plain_getContacts (htake ht) reply
  | details reply ht => exact plain_details (htake ht) _ reply
  | report d => exact plain_detailsCb h d

theorem plain_init : Plain {} := fun _ => Contact.plain_new

end Cl

end EdsTelepathy
