import EdsTelepathy.Proof.Reports

/-!
# How a change of the lists is passed on

The callbacks of the roster layer other than reports. A change of somebody's lists is not
passed on at once: `MembersChanged` leaves a closure behind, and the reading of the roster
ends with a signal for everybody that the last reply names. `PassesOn` is the condition under
which nothing is lost on the way.
-/

namespace EdsTelepathy

namespace Cl

/-- What a deferred call passes on when it runs, given the details in the reply to it. -/
def passing (cl : Cl) : Call → Option (List TpContact) → MembersChangedClosure
  | .handleMembersChangedIdle k, _ => k
  | .membersChangedWithDetails k, some tps => cl.validated tps k
  | .getContacts, some tps => { contactsToUpdate := tps.filterMap fun tp => cl.lookup tp.handle }
  | _, _ => {}

/--
The closure is about contacts that the table has under their handles, if it has the handles.
And whose lists were to be passed on: they are by this closure, or by what is left to do
(`rest`), or they are right anyway (`A`).
-/
def Passed (cl : Cl) (A : Nat → Prop) (rest : Cl) (k : MembersChangedClosure) : Prop :=
  (∀ r ∈ k.contactsToAdd ++ k.contactsToUpdate, ∀ x ∈ cl.lookup (cl.contacts r).handle, x = r)
    ∧ ∀ h ∈ cl.contactsHash.keys, cl.Pending h →
      (∃ r ∈ k.contactsToUpdate, (cl.contacts r).handle = h) ∨ rest.Pending h ∨ A h

instance (cl : Cl) (A : Nat → Prop) [DecidablePred A] (rest : Cl) (k : MembersChangedClosure) :
    Decidable (cl.Passed A rest k) := inferInstanceAs (Decidable (_ ∧ _))

/--
The condition on an event: information is only taken back where there is none (`C`), and no
change of the lists gets lost, by an error, a reply that does not name the contact, or a
connection that is gone.
-/
def PassesOn (cl : Cl) (A C : Nat → Prop) : Event → Prop
  | .details d => cl.isConnected = true → ∀ h ∈ d.cleared, C h
  | .done i _ => ∀ p ∈ cl.takeCall i,
    cl.Passed A p.2 (if cl.isConnected then cl.passing p.1 none else {})
  | .allMembers i reply => (cl.isConnected = true ∧ reply ≠ none)
    ∨ ∀ p ∈ cl.takeCall i, cl.Passed A p.2 {}
  | .contacts i reply => ∀ p ∈ cl.takeCall i,
    cl.Passed A p.2 (if cl.isConnected then cl.passing p.1 reply else {})
  | _ => True

instance (cl : Cl) (A C : Nat → Prop) [DecidablePred A] [DecidablePred C] :
    DecidablePred (cl.PassesOn A C)
  | .details d => inferInstanceAs (Decidable (_ → ∀ h ∈ d.cleared, C h))
  | .done i _ => inferInstanceAs (Decidable (∀ p ∈ cl.takeCall i,
      cl.Passed A p.2 (if cl.isConnected then cl.passing p.1 none else {})))
  | .allMembers i reply => inferInstanceAs (Decidable ((cl.isConnected = true ∧ reply ≠ none)
      ∨ ∀ p ∈ cl.takeCall i, cl.Passed A p.2 {}))
  | .contacts i reply => inferInstanceAs (Decidable (∀ p ∈ cl.takeCall i,
      cl.Passed A p.2 (if cl.isConnected then cl.passing p.1 reply else {})))
  | .connectionStatusChanged _ => .isTrue trivial
  | .membersChanged _ _ _ _ _ => .isTrue trivial

/-- The handles that the event names together with their details. -/
def Event.named : Event → List Nat
  | .contacts _ (some tps) => tps.map TpContact.handle
  | _ => []

/-- The handles whose information the event is about. -/
def informedBy (cl : Cl) : Event → List Nat
  | .details d => cl.informed d
  | _ => []

variable {A C : Nat → Prop} {named reports : List Nat}

/-! ## `MembersChanged` -/

/-- While the signal is read: whose lists have changed is noted, and who is new was not known. -/
structure Noting (cl : Cl) (st : Cl × MembersChangedClosure) : Prop extends Gathering cl st where
  fields : ∀ r < cl.next, ∀ f, f ≠ .flags → Carried.Agrees f (st.1.contacts r) (cl.contacts r)
  flags : ∀ r < cl.next, (cl.contacts r).flags = (st.1.contacts r).flags
    ∨ r ∈ st.2.contactsToUpdate
  fresh : ∀ r ∈ st.2.contactsToAdd, cl.next ≤ r ∧ cl.lookup (st.1.contacts r).handle = none

theorem noting_start (cl : Cl) : Noting cl (cl, {}) where
  same := .refl cl
  calls := rfl
  made := fun _ hr => (by cases hr)
  nobody := fun _ => rfl
  fields := fun _ _ f _ => .refl f _
  flags := fun _ _ => .inl rfl
  fresh := fun _ hr => (by cases hr)

/-- A known contact is put on a list, or taken off, and noted. -/
theorem Noting.changed {cl : Cl} (h : ByHandle cl) {st st' : Cl × MembersChangedClosure}
    (hst : Noting cl st) (hg : Gathering cl st') {x r : Nat} (hr : st.1.lookup x = some r)
    {change : Contact → Contact} (hchange : ∀ c, ∃ src, change c = Carried.flags.copy src c)
    (hcon : st'.1.contacts = (st.1.modify r change).contacts)
    (hadd : st'.2.contactsToAdd = st.2.contactsToAdd)
    (hupdate : st'.2.contactsToUpdate = st.2.contactsToUpdate ++ [r]) : Noting cl st' := by
  rw [hst.same.lookup] at hr
  obtain ⟨hlt, -⟩ := h.entry x r hr
  refine { hg with fields := fun r' hr' f hf => ?_, flags := fun r' hr' => ?_, fresh := fun r' hr' => ?_ }
  · rw [hcon]
    by_cases he : r' = r
    · subst he
      obtain ⟨src, hsrc⟩ := hchange (st.1.contacts r')
      rw [modify_contacts_self, hsrc]
      exact (Carried.agrees_copy_of_ne hf src _).symm.trans (hst.fields r' hr' f hf)
    · rw [modify_contacts_of_ne he]
      exact hst.fields r' hr' f hf
  · rw [hcon, hupdate, List.mem_append, List.mem_singleton]
    by_cases he : r' = r
    · exact .inr (.inr he)
    · rw [modify_contacts_of_ne he]
      exact (hst.flags r' hr').imp_right .inl
  · rw [hadd] at hr'
    obtain ⟨hge, hnone⟩ := hst.fresh r' hr'
    rw [hcon, modify_contacts_of_ne (by omega)]
    exact ⟨hge, hnone⟩

theorem noting_memberSet {cl : Cl} (h : ByHandle cl) (l : ListId) (s : Standing)
    {st : Cl × MembersChangedClosure} (hst : Noting cl st) (x : Nat) :
    Noting cl (memberSet l s st x) := by
  have hg := gathering_memberSet l s hst.toGathering x
  unfold memberSet at hg ⊢
  cases hl : st.1.lookup x with
  | some r =>
    rw [hl] at hg
    exact hst.changed h hg hl (fun c => ⟨setStanding l s c, rfl⟩) rfl rfl rfl
  | none =>
    rw [hl] at hg
    have hle := hst.same.next
    refine { hg with fields := fun r hr f hf => ?_, flags := fun r hr => ?_, fresh := fun r hr => ?_ }
    · dsimp only
      rw [Function.update_of_ne (by omega)]
      exact hst.fields r hr f hf
    · dsimp only
      rw [Function.update_of_ne (by omega)]
      exact hst.flags r hr
    · dsimp only
      rcases List.mem_append.mp hr with hr | hr
      · obtain ⟨hge, hnone⟩ := hst.fresh r hr
        rw [Function.update_of_ne (Nat.ne_of_lt (hst.made r hr))]
        exact ⟨hge, hnone⟩
      · rw [List.mem_singleton.mp hr, Function.update_self]
        exact ⟨hle, (hst.same.lookup x).symm.trans hl⟩

theorem noting_memberRemoved {cl : Cl} (h : ByHandle cl) (l : ListId)
    {st : Cl × MembersChangedClosure} (hst : Noting cl st) (x : Nat) :
    Noting cl (memberRemoved l st x) := by
  have hg := gathering_memberRemoved l hst.toGathering x
  unfold memberRemoved at hg ⊢
  cases hl : st.1.lookup x with
  | some r =>
    rw [hl] at hg
    dsimp only at hg ⊢
    split
    · rename_i hz
      rw [if_pos hz] at hg
      exact hst.changed h hg hl (fun c => ⟨clearStanding l c, rfl⟩) rfl rfl rfl
    · rename_i hz
      rw [if_neg hz] at hg
      exact hst.changed h hg hl (fun c => ⟨clearStanding l c, rfl⟩) rfl rfl rfl
  | none => exact hst

/-- **The first half of `MembersChanged`**: a closure waits that will pass the changes on. -/
theorem tells_membersChanged {cl : Cl} (h : ByHandle cl) (l : ListId) (added removed lp rp : List Nat) :
    Tells cl A C named [] (cl.tpChannelMembersChangedCb l added removed lp rp, []) := by
  unfold tpChannelMembersChangedCb
  split
  · have hset : ∀ s (xs : List Nat) {st}, Noting cl st → Noting cl (xs.foldl (memberSet l s) st) :=
      fun s xs _ hst => foldl_inv (I := Noting cl) (fun st x hst => noting_memberSet h l s hst x) xs hst
    have hremove : ∀ (xs : List Nat) {st}, Noting cl st → Noting cl (xs.foldl (memberRemoved l) st) :=
      fun xs _ hst => foldl_inv (I := Noting cl) (fun st x hst => noting_memberRemoved h l hst x) xs hst
    have hend := hset .remotePending rp (hset .localPending lp
      (hremove removed (hset .current added (noting_start cl))))
    dsimp only
    generalize rp.foldl (memberSet l .remotePending) _ = st at hend ⊢
    have hlook : ∀ {x r}, (cl.lookup x).isSome = true →
        (st.1.enterAdded st.2.contactsToAdd).lookup x = some r → cl.lookup x = some r := by
      intro x r hx hr
      rcases Table.lookup_insertAll hr with ⟨hin, hxr⟩ | ⟨hold, -⟩
      · have hnone := (hend.fresh r hin).2
        rw [hxr] at hnone
        rw [hnone] at hx
        cases hx
      · exact (hend.same.lookup x).symm.trans hold
    -- either way the closure is the last of the calls
    have hwait : ∀ c : Call, c.closure = some st.2 →
        Tells cl A C named [] ((st.1.enterAdded st.2.contactsToAdd).call c, []) := by
      intro c hc
      have hpend : ∀ {x r}, cl.lookup x = some r →
          (st.1.enterAdded st.2.contactsToAdd).lookup x = some r → cl.Pending x →
          ((st.1.enterAdded st.2.contactsToAdd).call c).Pending x := fun hx hx' hp =>
        hp.append (hx'.trans hx.symm) ⟨_, congrArg (· ++ _) hend.calls⟩
      refine ⟨fun x r hs hr => hlook hs hr, trivial, fun f x r hf _ hx _ => .inr ?_,
        fun x r hx hx' => ?_, fun x r hx _ => .inr (.inr ⟨?_, List.not_mem_nil⟩)⟩
      · exact hend.fields r (h.entry x r hx).1 f hf
      · rcases hend.flags r (h.entry x r hx).1 with hsame | hin
        · by_cases hp : cl.Pending x
          · exact .inr (.inl (hpend hx hx' hp))
          · exact .inr (.inr ⟨hsame, fun hp' => absurd hp' hp⟩)
        · refine .inr (.inl (.inr ⟨r, hx', _, List.mem_append_right _ (List.mem_singleton_self _), ?_⟩))
          exact ⟨st.2, hc, hin⟩
      · exact hend.fields r (h.entry x r hx).1 .contactInfo (by decide)
    split
    · exact hwait _ rfl
    · exact hwait _ rfl
  · exact tells_frame rfl rfl (fun _ _ hp => .inl hp) trivial

/-! ## Setting up a connection -/

/-- A callback that makes calls, and changes nobody. -/
theorem tells_setUp {cl cl₁ cl' : Cl} {i : Nat} {c : Call} {signals : List Signal}
    (ht : cl.takeCall i = some (c, cl₁)) (hwalk : c.isWalk = false) (hclosure : c.closure = none)
    (heq : ∃ status calls channels, cl' = { cl₁ with
      status := status, calls := cl₁.calls ++ calls, channels := channels })
    (hrel : cl'.RelaysAll named signals) : Tells cl A C named [] (cl', signals) := by
  obtain ⟨status, calls, channels, rfl⟩ := heq
  have hpend : ∀ x, cl.Pending x → cl₁.Pending x := by
    intro x hp
    rcases pending_takeCall ht hp with hp' | hw | ⟨r, -, k, hk, -⟩
    · exact hp'
    · rw [hwalk] at hw; cases hw
    · rw [hclosure] at hk; cases hk
  obtain ⟨-, -, rfl⟩ := takeCall_eq ht
  exact tells_frame rfl rfl (fun x _ hp => .inl ((hpend x hp).append rfl ⟨calls, rfl⟩)) hrel

theorem tpConnectionReadyCb_eq (cl : Cl) (ok : Bool) :
    ∃ calls, cl.tpConnectionReadyCb ok = { cl with calls := cl.calls ++ calls } := by
  unfold tpConnectionReadyCb
  split
  · refine foldl_inv (I := fun cl' : Cl => ∃ calls, cl' = { cl with calls := cl.calls ++ calls })
      (fun cl' l hI => ?_) _ ⟨[], by rw [List.append_nil]⟩
    obtain ⟨calls, rfl⟩ := hI
    exact ⟨calls ++ [_], by rw [← List.append_assoc]; rfl⟩
  · exact ⟨[], by rw [List.append_nil]⟩

theorem tells_connectionReady {cl cl₁ : Cl} {i : Nat}
    (ht : cl.takeCall i = some (.connectionReady, cl₁)) (ok : Bool) :
    Tells cl A C named [] (cl₁.tpConnectionReadyCb ok, []) := by
  obtain ⟨calls, heq⟩ := tpConnectionReadyCb_eq cl₁ ok
  exact tells_setUp ht rfl rfl ⟨cl₁.status, calls, cl₁.channels, heq⟩ trivial

theorem tells_requestHandles {cl cl₁ : Cl} {i : Nat} {l : ListId}
    (ht : cl.takeCall i = some (.requestHandles l, cl₁)) (ok : Bool) :
    Tells cl A C named [] (cl₁.requestHandlesForContactListCb l ok, []) := by
  refine tells_setUp ht rfl rfl ?_ trivial
  unfold requestHandlesForContactListCb
  split
  · exact ⟨cl₁.status, [_], cl₁.channels, rfl⟩
  · exact ⟨cl₁.status, [], cl₁.channels, by rw [List.append_nil]⟩

theorem tells_requestChannel {cl cl₁ : Cl} {i : Nat} {l : ListId}
    (ht : cl.takeCall i = some (.requestChannel l, cl₁)) (ok : Bool) :
    Tells cl A C named [] (cl₁.tpRequestChannelCb l ok, []) := by
  refine tells_setUp ht rfl rfl ?_ trivial
  unfold tpRequestChannelCb
  split
  · exact ⟨cl₁.status, [_], _, rfl⟩
  · exact ⟨cl₁.status, [], cl₁.channels, by rw [List.append_nil]⟩

theorem tells_channelReady {cl cl₁ : Cl} {i : Nat} {l : ListId}
    (ht : cl.takeCall i = some (.channelReady l, cl₁)) (ok : Bool) :
    Tells cl A C named [] (cl₁.tpChannelReadyCb l ok) := by
  have hsilent : Tells cl A C named [] (cl₁, []) :=
    tells_setUp ht rfl rfl ⟨cl₁.status, [], cl₁.channels, by rw [List.append_nil]⟩ trivial
  unfold tpChannelReadyCb
  split
  · split
    · unfold setStatus
      split
      · exact hsilent
      · exact tells_setUp ht rfl rfl ⟨.online, [], cl₁.channels, by rw [List.append_nil]⟩
          ⟨rfl, trivial⟩
    · exact hsilent
  · exact hsilent

/-! ## Details in a reply -/

/-- A reply changes what it says about the contacts that it names, and nothing else. -/
structure Detailing (cl : Cl) (st : Cl × List Nat) : Prop where
  inspected : Inspected cl st.1
  rest : ∀ r, r ∉ st.2 → st.1.contacts r = cl.contacts r
  others : ∀ r f, f ≠ .aliasName → f ≠ .presence → Carried.Agrees f (st.1.contacts r) (cl.contacts r)

theorem detailing_none (cl : Cl) : Detailing cl (cl, []) :=
  ⟨⟨rfl, rfl, rfl, fun _ => ⟨rfl, rfl⟩⟩, fun _ _ => rfl, fun _ f _ _ => .refl f _⟩

theorem detailing_updateContactDetails (cl : Cl) (tps : List TpContact) :
    Detailing cl (cl.updateContactDetails tps) := by
  have hloop := foldl_inv (I := fun st : Cl × List Nat =>
      (∀ r, r ∉ st.2 → st.1.contacts r = cl.contacts r)
        ∧ ∀ r f, f ≠ .aliasName → f ≠ .presence →
          Carried.Agrees f (st.1.contacts r) (cl.contacts r))
    (f := updateContactDetail) (s := (cl, [])) (fun st tp h => ?_) tps
    ⟨fun _ _ => rfl, fun _ f _ _ => .refl f _⟩
  · exact ⟨inspected_updateContactDetails cl tps, hloop.1, hloop.2⟩
  obtain ⟨hrest, hothers⟩ := h
  unfold updateContactDetail
  split
  · exact ⟨hrest, hothers⟩
  · rename_i r₀ _
    refine ⟨fun r hr => ?_, fun r f hfa hfp => ?_⟩
    · rw [List.mem_append, List.mem_singleton, not_or] at hr
      dsimp only
      rw [modify_contacts_of_ne hr.2]
      exact hrest r hr.1
    · dsimp only
      by_cases he : r = r₀
      · subst he
        rw [modify_contacts_self]
        refine Carried.Agrees.trans ?_ (hothers r f hfa hfp)
        have hreport := Contact.sameReport_updateName (st.1.contacts r) (some tp.identifier)
        have hflags := (updateName_keeps (st.1.contacts r) (some tp.identifier)).2
        cases f with
        | aliasName => exact absurd rfl hfa
        | presence => exact absurd rfl hfp
        | flags => exact hflags.symm
        | capabilities => exact hreport.capabilities.symm
        | contactInfo => exact hreport.contactInfo.symm
        | avatarToken => trivial
        | avatarData => trivial
      · rw [modify_contacts_of_ne he]
        exact hothers r f hfa hfp

theorem updateContactDetails_found (cl : Cl) (tps : List TpContact) :
    (cl.updateContactDetails tps).2 = tps.filterMap fun tp => cl.lookup tp.handle := by
  have hloop : ∀ (tps : List TpContact) (st : Cl × List Nat),
      (tps.foldl updateContactDetail st).2
        = st.2 ++ tps.filterMap fun tp => st.1.lookup tp.handle := by
    intro tps
    induction tps with
    | nil => intro st; exact (List.append_nil st.2).symm
    | cons tp tps ih =>
      intro st
      rw [List.foldl_cons, ih, List.filterMap_cons]
      simp only [lookup_updateContactDetail]
      unfold updateContactDetail
      cases hl : st.1.lookup tp.handle with
      | none => rfl
      | some r =>
        dsimp only
        rw [List.append_assoc]
        rfl
  exact hloop tps (cl, [])

/-- A signal about contacts of the table carries its field for their handles. -/
theorem told_known {cl cl' : Cl} (h : ByHandle cl) {sig : List Contact → Signal} {f : Carried}
    (hsig : ∀ cs, (sig cs).carries = some f ∧ (sig cs).contacts = cs) {rs : List Nat} {x r : Nat}
    (hx : cl.lookup x = some r) (hr : r ∈ rs)
    (hsame : (cl'.contacts r).handle = (cl.contacts r).handle) : Told (cl'.emit rs sig) f x :=
  told_emit hsig hr (hsame.trans (h.entry x r hx).2)

/-! ## The second half of `MembersChanged` -/

/-- Whom a signal may be about: a contact that the table has under its handle, if at all. -/
theorem own_updated {cl rest : Cl} {st : Cl × List Nat} {k : MembersChangedClosure}
    (hlook : ∀ x, rest.lookup x = cl.lookup x) (hcon : rest.contacts = cl.contacts)
    (hd : Detailing rest st) {r : Nat} (hr : ∀ x ∈ cl.lookup (cl.contacts r).handle, x = r) :
    (st.1.updateChangedMembers k st.2).1.Own (st.1.contacts r) := by
  intro x hx
  have hold : cl.lookup (cl.contacts r).handle = some x := by
    have h := (Table.lookup_eraseAll.mp hx).1
    rw [hd.inspected.hash, (hd.inspected.contact r).1, hcon] at h
    exact (hlook _).symm.trans h
  rw [hr x hold]
  rfl

/-- **A closure runs**: it passes on what it has gathered. -/
theorem tells_updateChangedMembers {cl rest : Cl} {i : Nat} {c : Call} {k : MembersChangedClosure}
    {st : Cl × List Nat} (h : ByHandle cl) (ht : cl.takeCall i = some (c, rest))
    (hd : Detailing rest st) (hknown : Known cl st.2)
    (hadd : ∀ r ∈ k.contactsToAdd, (cl.lookup (cl.contacts r).handle).isSome = true)
    (hpassed : cl.Passed A rest k) (hnamed : ∀ x ∈ named, ∀ r, cl.lookup x = some r → r ∈ st.2) :
    Tells cl A C named [] (st.1.updateChangedMembers k st.2) := by
  obtain ⟨-, -, hrest⟩ := takeCall_eq ht
  have hlook : ∀ x, rest.lookup x = cl.lookup x := fun x => by rw [hrest]; rfl
  have hcon : rest.contacts = cl.contacts := by rw [hrest]
  have hhandle : ∀ r, (st.1.contacts r).handle = (cl.contacts r).handle := fun r => by
    rw [(hd.inspected.contact r).1, hcon]
  obtain ⟨hcurrent, hpass⟩ := hpassed
  have hownKnown : ∀ r ∈ st.2, (st.1.updateChangedMembers k st.2).1.Own (st.1.contacts r) := by
    intro r hr
    obtain ⟨x, hx⟩ := hknown r hr
    refine own_updated hlook hcon hd fun y hy => ?_
    rw [(h.entry x r hx).2, hx] at hy
    exact (Option.some.inj hy).symm
  have hown : ∀ r ∈ k.contactsToAdd ++ k.contactsToUpdate,
      (st.1.updateChangedMembers k st.2).1.Own (st.1.contacts r) := fun r hr =>
    own_updated hlook hcon hd (hcurrent r hr)
  have hkept : ∀ {x r}, (st.1.updateChangedMembers k st.2).1.lookup x = some r ↔
      cl.lookup x = some r ∧ ∀ r' ∈ k.contactsToRemove, (cl.contacts r').handle ≠ x := by
    intro x r
    refine Table.lookup_eraseAll.trans (and_congr ?_ ?_)
    · rw [hd.inspected.hash]
      show rest.lookup x = some r ↔ _
      rw [hlook]
    · simp only [hhandle]
  have hcon' : (st.1.updateChangedMembers k st.2).1.contacts = st.1.contacts := rfl
  -- everything but the announcement, which comes first
  let later := st.1.emit k.contactsToRemove .contactsRemoved
    ++ st.1.emit k.contactsToUpdate .flagsChanged
    ++ (st.1.updateChangedMembers k st.2).1.emit st.2 .aliasesChanged
    ++ (st.1.updateChangedMembers k st.2).1.emit st.2 .avatarTokensChanged
    ++ (st.1.updateChangedMembers k st.2).1.emit st.2 .presencesChanged
  have hsignals : (st.1.updateChangedMembers k st.2).2
      = st.1.emit k.contactsToAdd .contactsAdded ++ later := by
    show _ ++ _ ++ _ ++ _ ++ _ ++ _ = _
    simp only [later, List.append_assoc]
    rfl
  have hcarried : ∀ s ∈ later, (∃ cs, s = .contactsRemoved cs) ∨ ((∃ f, s.carries = some f)
      ∧ ∀ c ∈ s.contacts, (st.1.updateChangedMembers k st.2).1.Own c) := by
    have hread : ∀ {rs : List Nat}, (∀ r ∈ rs, (st.1.updateChangedMembers k st.2).1.Own (st.1.contacts r)) →
        ∀ c ∈ st.1.read rs, (st.1.updateChangedMembers k st.2).1.Own c := by
      intro rs hrs c hc
      obtain ⟨r, hr, rfl⟩ := List.mem_map.mp hc
      exact hrs r hr
    intro s hs
    simp only [later, List.mem_append] at hs
    rcases hs with (((hs | hs) | hs) | hs) | hs
    · exact .inl ⟨_, mem_emit hs⟩
    · rw [mem_emit hs]
      exact .inr ⟨⟨.flags, rfl⟩, hread fun r hr => hown r (List.mem_append_right _ hr)⟩
    · rw [mem_emit hs]
      exact .inr ⟨⟨.aliasName, rfl⟩, hread hownKnown⟩
    · rw [mem_emit hs]
      exact .inr ⟨⟨.avatarToken, rfl⟩, hread hownKnown⟩
    · rw [mem_emit hs]
      exact .inr ⟨⟨.presence, rfl⟩, hread hownKnown⟩
  have hremoved : ∀ r ∈ k.contactsToRemove, Left later (cl.contacts r).handle := by
    intro r hr
    have hin : .contactsRemoved (st.1.read k.contactsToRemove)
        ∈ st.1.emit k.contactsToRemove .contactsRemoved := by
      have hone : st.1.emit k.contactsToRemove .contactsRemoved
          = [.contactsRemoved (st.1.read k.contactsToRemove)] := if_neg (List.ne_nil_of_mem hr)
      rw [hone]
      exact List.mem_singleton_self _
    exact ⟨_, List.mem_append_left _ (List.mem_append_left _ (List.mem_append_left _
      (List.mem_append_left _ hin))), st.1.contacts r, List.mem_map_of_mem hr, hhandle r⟩
  have hflags : ∀ r ∈ k.contactsToUpdate, Told later .flags (cl.contacts r).handle := by
    intro r hr
    have htold : Told (st.1.emit k.contactsToUpdate .flagsChanged) .flags (cl.contacts r).handle :=
      told_emit (fun _ => ⟨rfl, rfl⟩) hr (hhandle r)
    exact htold.append_right.append_left.append_left.append_left
  have halias : ∀ x r, cl.lookup x = some r → r ∈ st.2 → Told later .aliasName x := by
    intro x r hx hr
    have htold : Told ((st.1.updateChangedMembers k st.2).1.emit st.2 .aliasesChanged) .aliasName x :=
      told_known h (fun _ => ⟨rfl, rfl⟩) hx hr (hhandle r)
    exact htold.append_right.append_left.append_left
  have hpresence : ∀ x r, cl.lookup x = some r → r ∈ st.2 → Told later .presence x := by
    intro x r hx hr
    have htold : Told ((st.1.updateChangedMembers k st.2).1.emit st.2 .presencesChanged) .presence x :=
      told_known h (fun _ => ⟨rfl, rfl⟩) hx hr (hhandle r)
    exact htold.append_right
  have hall : ∀ {f x}, Told later f x → Told (st.1.updateChangedMembers k st.2).2 f x := by
    intro f x htold
    rw [hsignals]
    exact htold.append_right
  refine ⟨fun x r _ hx => (hkept.mp hx).1, ?_, fun f x r hff hfi hx _ => ?_, fun x r hx hx' => ?_,
    fun x r hx _ => .inr (.inr ⟨?_, List.not_mem_nil⟩)⟩
  · rw [hsignals]
    unfold emit
    split
    · exact relaysAll_of_carried hcarried
    · refine ⟨fun c hc => ?_, relaysAll_of_carried hcarried⟩
      obtain ⟨r, hr, rfl⟩ := List.mem_map.mp hc
      obtain ⟨y, hy⟩ := Option.isSome_iff_exists.mp (hadd r hr)
      have hyr : y = r := hcurrent r (List.mem_append_left _ hr) y hy
      subst hyr
      refine ⟨hown y (List.mem_append_left _ hr), ?_, fun hin => ?_⟩
      · rw [hhandle]
        by_cases hgone : ∃ r' ∈ k.contactsToRemove, (cl.contacts r').handle = (cl.contacts y).handle
        · obtain ⟨r', hr', hh⟩ := hgone
          rw [← hh]
          exact .inr (hremoved r' hr')
        · have hstays : (st.1.updateChangedMembers k st.2).1.lookup (cl.contacts y).handle = some y :=
            hkept.mpr ⟨hy, fun r' hr' hh => hgone ⟨r', hr', hh⟩⟩
          rw [hstays]
          exact .inl rfl
      · rw [hhandle] at hin ⊢
        exact hpresence _ y hy (hnamed _ hin y hy)
  · by_cases hin : r ∈ st.2
    · by_cases hfa : f = .aliasName
      · subst hfa
        exact .inl (hall (halias x r hx hin))
      · by_cases hfp : f = .presence
        · subst hfp
          exact .inl (hall (hpresence x r hx hin))
        · right
          rw [hcon', ← hcon]
          exact hd.others r f hfa hfp
    · right
      rw [hcon', hd.rest r hin, hcon]
      exact .refl f _
  · have hsame : (cl.contacts r).flags = ((st.1.updateChangedMembers k st.2).1.contacts r).flags := by
      rw [hcon', (hd.inspected.contact r).2, hcon]
    by_cases hp : cl.Pending x
    · have hkey : x ∈ cl.contactsHash.keys := by
        have hs : cl.contactsHash.lookup x = some r := hx
        exact AList.mem_keys.mp (AList.lookup_isSome.mp (by rw [hs]; rfl))
      rcases hpass x hkey hp with ⟨r', hr', hh⟩ | hp' | ha
      · rw [← hh]
        exact .inl (hall (hflags r' hr'))
      · refine .inr (.inl (hp'.append (hx'.trans ((hlook x).trans hx).symm) ⟨[], ?_⟩))
        rw [List.append_nil]
        exact hd.inspected.calls
      · exact .inr (.inr ⟨hsame, fun _ => ha⟩)
    · exact .inr (.inr ⟨hsame, fun hp' => absurd hp' hp⟩)
  · have hinfo := hd.others r .contactInfo (by decide) (by decide)
    rw [hcon] at hinfo
    exact hinfo

/-- Nothing is passed on where nothing was to be, or where it is right anyway. -/
theorem tells_dropped {cl rest : Cl} {i : Nat} {c : Call} {signals : List Signal}
    (ht : cl.takeCall i = some (c, rest)) (hpassed : cl.Passed A rest {})
    (hrel : rest.RelaysAll named signals) : Tells cl A C named [] (rest, signals) := by
  obtain ⟨-, -, hrest⟩ := takeCall_eq ht
  refine tells_frame (by rw [hrest]) (by rw [hrest]) (fun x hx hp => ?_) hrel
  have hkey : x ∈ cl.contactsHash.keys := AList.mem_keys.mp (AList.lookup_isSome.mp hx)
  exact (hpassed.2 x hkey hp).resolve_left fun ⟨r, hr, _⟩ => (by cases hr)

theorem tells_idle {cl rest : Cl} {i : Nat} {k : MembersChangedClosure} (h : ByHandle cl)
    (ht : cl.takeCall i = some (.handleMembersChangedIdle k, rest))
    (hpassed : cl.Passed A rest (if cl.isConnected then k else {})) :
    Tells cl A C [] [] (rest.handleMembersChangedIdleCb k) := by
  obtain ⟨-, -, hrest⟩ := takeCall_eq ht
  have hconn : rest.isConnected = cl.isConnected := by rw [hrest]; rfl
  unfold handleMembersChangedIdleCb
  rw [hconn]
  by_cases hc : cl.isConnected = true
  · rw [if_pos hc] at hpassed ⊢
    have hnobody : k.contactsToAdd = [] := (h.takeCall ht).2.2 k rfl
    refine tells_updateChangedMembers h ht (detailing_none rest) (fun _ hr => (by cases hr))
      (fun r hr => ?_) hpassed (fun _ hx => (by cases hx))
    rw [hnobody] at hr
    cases hr
  · rw [if_neg hc] at hpassed ⊢
    exact tells_dropped ht hpassed trivial

theorem known_rest {cl rest : Cl} {i : Nat} {c : Call} (ht : cl.takeCall i = some (c, rest))
    (tps : List TpContact) : Known cl (rest.updateContactDetails tps).2 := by
  obtain ⟨-, -, hrest⟩ := takeCall_eq ht
  intro r hr
  obtain ⟨x, hx⟩ := known_updateContactDetails rest tps r hr
  rw [hrest] at hx
  exact ⟨x, hx⟩

theorem mem_named {cl rest : Cl} {i : Nat} {c : Call} (ht : cl.takeCall i = some (c, rest))
    {tps : List TpContact} {x r : Nat} (hx : x ∈ tps.map TpContact.handle)
    (hr : cl.lookup x = some r) : r ∈ (rest.updateContactDetails tps).2 := by
  obtain ⟨-, -, hrest⟩ := takeCall_eq ht
  obtain ⟨tp, htp, rfl⟩ := List.mem_map.mp hx
  rw [updateContactDetails_found, hrest]
  exact List.mem_filterMap.mpr ⟨tp, htp, hr⟩

theorem tells_details {cl rest : Cl} {i : Nat} {k : MembersChangedClosure} (h : ByHandle cl)
    (ht : cl.takeCall i = some (.membersChangedWithDetails k, rest))
    {reply : Option (List TpContact)}
    (hpassed : cl.Passed A rest
      (if cl.isConnected then cl.passing (.membersChangedWithDetails k) reply else {})) :
    Tells cl A C (Event.contacts i reply).named [] (rest.membersChangedWithDetailsCb k reply) := by
  obtain ⟨-, -, hrest⟩ := takeCall_eq ht
  have hconn : rest.isConnected = cl.isConnected := by rw [hrest]; rfl
  unfold membersChangedWithDetailsCb
  cases reply with
  | none =>
    have hnothing : cl.Passed A rest {} := by
      split at hpassed <;> exact hpassed
    exact tells_dropped ht hnothing trivial
  | some tps =>
    dsimp only
    rw [hconn]
    by_cases hc : cl.isConnected = true
    · rw [if_pos hc] at hpassed ⊢
      simp only [removeInvalidContacts_eq]
      have hvalid : cl.passing (.membersChangedWithDetails k) (some tps) = rest.validated tps k := by
        rw [hrest]; rfl
      rw [hvalid] at hpassed
      refine tells_updateChangedMembers h ht (detailing_updateContactDetails rest tps)
        (known_rest ht tps) (fun r hr => ?_) hpassed fun x hx r hr => mem_named ht hx hr
      have hlook := (of_decide_eq_true (List.mem_filter.mp hr).2).2
      rw [hrest] at hlook
      exact hlook
    · rw [if_neg hc] at hpassed ⊢
      exact tells_dropped ht hpassed trivial

/-! ## The reading of the roster -/

/-- The walk goes on with a call, unless the table is empty. -/
theorem getNextChannelMembers_goesOn {cl : Cl} (hc : cl.isConnected = true) (ls : List ListId) :
    (0 < (cl.getNextChannelMembers ls).1.owed ∧ (cl.getNextChannelMembers ls).2 = [])
      ∨ (cl.contactsHash.entries = []
        ∧ (cl.getNextChannelMembers ls).2 = [.getMembersDone (some [])]) := by
  induction ls with
  | nil =>
    unfold getNextChannelMembers finishGetChannelMembers
    rw [if_pos hc, if_pos hc]
    split
    · rename_i hnil
      exact .inr ⟨hnil, rfl⟩
    · refine .inl ⟨?_, rfl⟩
      rw [owed_call]
      exact Nat.succ_pos _
  | cons l rest ih =>
    unfold getNextChannelMembers
    rw [if_pos hc]
    split
    · refine .inl ⟨?_, rfl⟩
      rw [owed_call]
      exact Nat.succ_pos _
    · exact ih

/-- While a list is read: flags are set, and new entries are made. -/
structure Listing (cl cl' : Cl) : Prop where
  byHandle : ByHandle cl'
  conn : cl'.conn = cl.conn
  next : cl.next ≤ cl'.next
  stays : ∀ x, (cl.lookup x).isSome = true → (cl'.lookup x).isSome = true
  kept : ∀ x r, (cl.lookup x).isSome = true → cl'.lookup x = some r → cl.lookup x = some r
  fields : ∀ r < cl.next, ∀ f, f ≠ .flags → Carried.Agrees f (cl'.contacts r) (cl.contacts r)

theorem listing_memberListed {cl cl' : Cl} (hl : Listing cl cl') (flag : Flags) (x : Nat) :
    Listing cl (memberListed flag cl' x) := by
  obtain ⟨hby, hstays⟩ := byHandle_memberListed hl.byHandle flag x
  unfold memberListed at hby hstays ⊢
  cases hx : cl'.lookup x with
  | some r =>
    rw [hx] at hby hstays
    refine ⟨hby, hl.conn, hl.next, hl.stays, hl.kept, fun r' hr' f hf => ?_⟩
    dsimp only
    by_cases he : r' = r
    · subst he
      rw [modify_contacts_self]
      refine Carried.Agrees.trans ?_ (hl.fields r' hr' f hf)
      cases f with
      | flags => exact absurd rfl hf
      | presence => exact ⟨rfl, rfl, rfl⟩
      | avatarToken => trivial
      | avatarData => trivial
      | _ => rfl
    · rw [modify_contacts_of_ne he]
      exact hl.fields r' hr' f hf
  | none =>
    rw [hx] at hby hstays
    refine ⟨hby, hl.conn, Nat.le_succ_of_le hl.next, fun y hy => hstays y (hl.stays y hy),
      fun y r hy hr => ?_, fun r hr f hf => ?_⟩
    · rcases Table.lookup_insert_eq_some.mp hr with ⟨hyx, -⟩ | ⟨-, hold⟩
      · have hs := hl.stays y hy
        rw [hyx, hx] at hs
        cases hs
      · exact hl.kept y r hy hold
    · have hne : r ≠ cl'.next := Nat.ne_of_lt (Nat.lt_of_lt_of_le hr hl.next)
      dsimp only
      rw [Function.update_of_ne hne]
      exact hl.fields r hr f hf

theorem tells_allMembers {cl rest : Cl} {i : Nat} {l : ListId} {ls : List ListId} (h : ByHandle cl)
    (ht : cl.takeCall i = some (.getAllMembers l ls, rest)) {reply : Option AllMembers}
    (hpassed : (cl.isConnected = true ∧ reply ≠ none) ∨ cl.Passed A rest {}) :
    Tells cl A C named [] (rest.channelGetAllMembersCb l ls reply) := by
  have hby := (h.takeCall ht).1
  obtain ⟨-, -, hrest⟩ := takeCall_eq ht
  have hconn : rest.isConnected = cl.isConnected := by rw [hrest]; rfl
  have hend : cl.Passed A rest {} → Tells cl A C named [] (rest, [.getMembersDone none]) := fun hp =>
    tells_dropped ht hp ⟨trivial, trivial⟩
  unfold channelGetAllMembersCb
  cases reply with
  | none => exact hend (hpassed.resolve_left fun hp => hp.2 rfl)
  | some m =>
    dsimp only
    rw [hconn]
    by_cases hc : cl.isConnected = true
    · rw [if_pos hc]
      -- listing the members of a channel makes contacts, and touches their flags alone
      have hlist : ∀ (flag : Flags) (xs : List Nat) {cl'}, Listing rest cl' →
          Listing rest (xs.foldl (memberListed flag) cl') := fun flag xs _ hl =>
        foldl_inv (I := Listing rest) (fun _ x hl => listing_memberListed hl flag x) xs hl
      have hstart : Listing rest rest :=
        ⟨hby, rfl, Nat.le_refl _, fun _ hx => hx, fun _ _ _ hr => hr, fun _ _ f _ => .refl f _⟩
      have hl := hlist (l.flag .remotePending) m.remotePending
        (hlist (l.flag .localPending) m.localPending (hlist (l.flag .current) m.current hstart))
      generalize m.remotePending.foldl (memberListed (l.flag .remotePending)) _ = cl' at hl ⊢
      have hconn' : cl'.isConnected = true := by
        unfold isConnected at hconn ⊢
        rw [hl.conn]
        exact hconn.trans hc
      obtain ⟨calls, heq⟩ := getNextChannelMembers_eq cl' ls
      have hgoes := getNextChannelMembers_goesOn hconn' ls
      generalize cl'.getNextChannelMembers ls = r at heq hgoes
      obtain ⟨cl'', signals⟩ := r
      dsimp only at heq hgoes
      have hrel : cl''.RelaysAll named signals := by
        rcases hgoes with ⟨-, rfl⟩ | ⟨-, rfl⟩
        · trivial
        · exact ⟨fun _ hc => (by cases hc), trivial⟩
      have hkept : ∀ x r, (cl.lookup x).isSome = true → cl''.lookup x = some r →
          cl.lookup x = some r := by
        intro x r hx hr
        rw [heq] at hr
        rw [hrest] at hl
        exact hl.kept x r hx hr
      have hfields : ∀ {x r}, cl.lookup x = some r → ∀ f, f ≠ .flags →
          Carried.Agrees f (cl''.contacts r) (cl.contacts r) := by
        intro x r hx f hf
        rw [heq]
        rw [hrest] at hl
        exact hl.fields r (h.entry x r hx).1 f hf
      refine ⟨hkept, hrel, fun f x r hf _ hx _ => .inr (hfields hx f hf), fun x r hx hx' => ?_,
        fun x r hx _ => .inr (.inr ⟨hfields hx .contactInfo (by decide), List.not_mem_nil⟩)⟩
      -- either the walk goes on, or nobody is known at its end
      rcases hgoes with ⟨howed, -⟩ | ⟨hempty, -⟩
      · exact .inr (.inl (.inl howed))
      · rw [heq] at hx'
        have hkey : x ∈ cl'.contactsHash.keys := by
          have hs : cl'.contactsHash.lookup x = some r := hx'
          exact AList.mem_keys.mp (AList.lookup_isSome.mp (by rw [hs]; rfl))
        unfold AList.keys at hkey
        rw [hempty] at hkey
        cases hkey
    · rw [if_neg hc]
      exact hend (hpassed.resolve_left fun hp => hc hp.1)

theorem tells_getContacts {cl rest : Cl} {i : Nat} (h : ByHandle cl)
    (ht : cl.takeCall i = some (.getContacts, rest)) {reply : Option (List TpContact)}
    (hpassed : cl.Passed A rest (if cl.isConnected then cl.passing .getContacts reply else {})) :
    Tells cl A C named [] (rest.getContactsCb reply) := by
  obtain ⟨-, -, hrest⟩ := takeCall_eq ht
  have hconn : rest.isConnected = cl.isConnected := by rw [hrest]; rfl
  unfold getContactsCb
  cases reply with
  | none =>
    have hnothing : cl.Passed A rest {} := by
      split at hpassed <;> exact hpassed
    exact tells_dropped ht hnothing ⟨trivial, trivial⟩
  | some tps =>
    dsimp only
    rw [hconn]
    by_cases hc : cl.isConnected = true
    · rw [if_pos hc] at hpassed ⊢
      have hd := detailing_updateContactDetails rest tps
      have hknown := known_rest ht tps
      have hfound := updateContactDetails_found rest tps
      generalize rest.updateContactDetails tps = st at hd hknown hfound ⊢
      have hlook : ∀ x, st.1.lookup x = cl.lookup x := fun x => by
        unfold lookup
        rw [hd.inspected.hash, hrest]
      have hcon : rest.contacts = cl.contacts := by rw [hrest]
      have hhandle : ∀ r, (st.1.contacts r).handle = (cl.contacts r).handle := fun r => by
        rw [(hd.inspected.contact r).1, hcon]
      have hown : ∀ c ∈ st.1.read st.2, st.1.Own c := by
        intro c hc x hx
        obtain ⟨r, hr, rfl⟩ := List.mem_map.mp hc
        obtain ⟨y, hy⟩ := hknown r hr
        rw [hlook, hhandle, (h.entry y r hy).2, hy] at hx
        rw [Option.some.inj hx]
      -- the signals after the callback carry three fields for whom the reply names
      generalize hsignals : (if st.2 = [] then [] else
          [.aliasesChanged (st.1.read st.2), .avatarTokensChanged (st.1.read st.2),
            .presencesChanged (st.1.read st.2), .flagsChanged (st.1.read st.2)] : List Signal) = later
      have htold : ∀ f, f = .aliasName ∨ f = .presence ∨ f = .flags →
          ∀ c ∈ st.1.read st.2, Told later f c.handle := by
        intro f hf c hc
        have hne : st.2 ≠ [] := fun hnil => by
          unfold read at hc
          rw [hnil] at hc
          cases hc
        rw [if_neg hne] at hsignals
        subst hsignals
        rcases hf with rfl | rfl | rfl
        · exact ⟨.aliasesChanged (st.1.read st.2), by simp, rfl, c, hc, rfl⟩
        · exact ⟨.presencesChanged (st.1.read st.2), by simp, rfl, c, hc, rfl⟩
        · exact ⟨.flagsChanged (st.1.read st.2), by simp, rfl, c, hc, rfl⟩
      have hnamed : ∀ {f x r}, f = .aliasName ∨ f = .presence ∨ f = .flags → cl.lookup x = some r →
          r ∈ st.2 → Told (.getMembersDone (some (st.1.read st.2)) :: later) f x := by
        intro f x r hf hx hr
        obtain ⟨s, hs, hcarries, c, hc, hh⟩ := htold f hf (st.1.contacts r) (List.mem_map_of_mem hr)
        refine ⟨s, List.mem_cons_of_mem _ hs, hcarries, c, hc, hh.trans ?_⟩
        rw [hhandle, (h.entry x r hx).2]
      refine ⟨fun x r _ hx => (hlook x).symm.trans hx, ⟨fun c hc => ⟨hown c hc, ?_, ?_⟩, ?_⟩,
        fun f x r hff hfi hx _ => ?_, fun x r hx hx' => ?_,
        fun x r hx _ => .inr (.inr ⟨?_, List.not_mem_nil⟩)⟩
      · obtain ⟨r, hr, rfl⟩ := List.mem_map.mp hc
        obtain ⟨y, hy⟩ := hknown r hr
        rw [hlook, hhandle, (h.entry y r hy).2, hy]
        rfl
      · exact fun f hf => htold f hf c hc
      · rw [← hsignals]
        split
        · trivial
        · exact ⟨hown, hown, hown, hown, trivial⟩
      · by_cases hin : r ∈ st.2
        · by_cases hfa : f = .aliasName
          · exact .inl (hnamed (.inl hfa) hx hin)
          · by_cases hfp : f = .presence
            · exact .inl (hnamed (.inr (.inl hfp)) hx hin)
            · right
              rw [← hcon]
              exact hd.others r f hfa hfp
        · right
          dsimp only
          rw [hd.rest r hin, hcon]
          exact .refl f _
      · have hsame : (cl.contacts r).flags = (st.1.contacts r).flags := by
          rw [(hd.inspected.contact r).2, hcon]
        by_cases hp : cl.Pending x
        · have hkey : x ∈ cl.contactsHash.keys := by
            have hs : cl.contactsHash.lookup x = some r := hx
            exact AList.mem_keys.mp (AList.lookup_isSome.mp (by rw [hs]; rfl))
          rcases hpassed.2 x hkey hp with ⟨r', hr', hh⟩ | hp' | ha
          · left
            have hin : r' ∈ st.2 := by
              rw [hfound, hrest]
              exact hr'
            obtain ⟨y, hy⟩ := hknown r' hin
            have hyx : y = x := (h.entry y r' hy).2.symm.trans hh
            rw [hyx] at hy
            exact hnamed (.inr (.inr rfl)) hy hin
          · refine .inr (.inl (hp'.append ?_ ⟨[], ?_⟩))
            · dsimp only
              rw [hlook, hrest]
              rfl
            · rw [List.append_nil]
              exact hd.inspected.calls
          · exact .inr (.inr ⟨hsame, fun _ => ha⟩)
        · exact .inr (.inr ⟨hsame, fun hp' => absurd hp' hp⟩)
      · have hinfo := hd.others r .contactInfo (by decide) (by decide)
        rw [hcon] at hinfo
        exact hinfo
    · rw [if_neg hc] at hpassed ⊢
      exact tells_dropped ht hpassed ⟨trivial, trivial⟩

/-! ## Any callback -/

/-- A connection comes, or goes while the account is offline. -/
theorem tells_connection {cl : Cl} {conn : Option Nat}
    (hstay : ¬ (conn = none ∧ cl.status = .online)) :
    Tells cl A C named [] (cl.connectionStatusChangedCb conn) := by
  unfold connectionStatusChangedCb
  cases conn with
  | some n =>
    dsimp only
    unfold setupTpConnection
    split
    · exact tells_frame rfl rfl (fun _ _ hp => .inl hp) trivial
    · exact tells_frame rfl rfl (fun _ _ hp => .inl (hp.append rfl ⟨[_], rfl⟩)) trivial
  | none =>
    have hoff : cl.status = .offline := by
      cases hst : cl.status with
      | online => exact absurd ⟨rfl, hst⟩ hstay
      | offline => rfl
    have hquiet : cl.setStatus .offline = (cl, []) := if_pos hoff.symm
    rw [hquiet]
    exact tells_frame rfl rfl (fun _ _ hp => .inl (hp.append rfl ⟨[], (List.append_nil _).symm⟩)) trivial

/-- **Every callback passes on what it changes**, or leaves it to one that is still to run. -/
theorem tells_step {cl : Cl} {e : Event} {r : Cl × List Signal} (h : ByHandle cl)
    (hok : cl.PassesOn A C e) (hstay : ¬ (e = .connectionStatusChanged none ∧ cl.status = .online))
    (hs : cl.step e = some r) : Tells cl A C e.named (cl.informedBy e) r := by
  cases step_callback hs with
  | connection conn => exact tells_connection fun ⟨hnone, hon⟩ => hstay ⟨by rw [hnone], hon⟩
  | members l added removed lp rp => exact tells_membersChanged h l added removed lp rp
  | report d => exact tells_report h hok
  | connectionReady ok ht => exact tells_connectionReady ht ok
  | requestHandles ok ht => exact tells_requestHandles ht ok
  | requestChannel ok ht => exact tells_requestChannel ht ok
  | channelReady ok ht => exact tells_channelReady ht ok
  | idle ok ht => exact tells_idle h ht (hok _ ht)
  | allMembers reply ht => exact tells_allMembers h ht (hok.imp_right fun hp => hp _ ht)
  | getContacts reply ht => exact tells_getContacts h ht (hok _ ht)
  | details reply ht => exact tells_details h ht (hok _ ht)

end Cl

end EdsTelepathy
