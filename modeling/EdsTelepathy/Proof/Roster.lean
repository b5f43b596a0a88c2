import EdsTelepathy.Proof.Standing
import EdsTelepathy.Proof.Calls

/-!
# The hash table and the roster

`ro` is the roster as the connection manager last described it. While closures are
pending the hash table may still hold contacts that have left their last list: their
flags are zero and a pending closure is going to remove them. That is the invariant. A
signal keeps it, because it changes the flags at once and defers the removal of exactly
the contacts whose flags became zero.

A completion removes by handle and without looking at the flags again, and an inspection
that fails, or a contact that never got a name, is not removed at all. `Settles` is the
condition that neither matters at that moment.
-/

namespace EdsTelepathy

/-- The standings of every handle. -/
abbrev Roster := Nat → Standings

namespace Roster

/-- One handle gets a standing on one list, or loses the one it had. -/
def set (l : ListId) (x : Option Standing) (ro : Roster) (h : Nat) : Roster :=
  Function.update ro h (Function.update (ro h) l x)

/-- What a `MembersChanged` signal says. -/
def changed (ro : Roster) (l : ListId) (added removed lp rp : List Nat) : Roster :=
  let ro := added.foldl (set l (some .current)) ro
  let ro := removed.foldl (set l none) ro
  let ro := lp.foldl (set l (some .localPending)) ro
  rp.foldl (set l (some .remotePending)) ro

theorem set_self (l : ListId) (x : Option Standing) (ro : Roster) (h : Nat) :
    set l x ro h h = Function.update (ro h) l x := Function.update_self ..

theorem set_of_ne {l : ListId} {x : Option Standing} {ro : Roster} {h h' : Nat} (hne : h' ≠ h) :
    set l x ro h h' = ro h' := Function.update_of_ne hne ..

end Roster

/-- The closure of the half of `MembersChanged` that waits in an idle source. -/
def Call.idleClosure : Call → Option MembersChangedClosure
  | .handleMembersChangedIdle k => some k
  | _ => none

/-- The closure of the half of `MembersChanged` that waits for an inspection. -/
def Call.inspectionClosure : Call → Option MembersChangedClosure
  | .membersChangedWithDetails k => some k
  | _ => none

/-- The closure of a deferred half of `MembersChanged`. -/
def Call.closure (c : Call) : Option MembersChangedClosure :=
  c.idleClosure <|> c.inspectionClosure

namespace Cl

/-- Some pending closure is going to remove the contact. -/
def Covered (cl : Cl) (r : Nat) : Prop :=
  ∃ p ∈ cl.calls, ∃ k ∈ p.2.closure, r ∈ k.contactsToRemove

instance (cl : Cl) (r : Nat) : Decidable (cl.Covered r) :=
  inferInstanceAs (Decidable (∃ p ∈ cl.calls, ∃ k ∈ p.2.closure, r ∈ k.contactsToRemove))

/-- No deferred closure is pending. -/
def NoDeferred (cl : Cl) : Prop := ∀ p ∈ cl.calls, p.2.closure = none

/-- The hash table holds exactly the handles on some list, with exactly their standings. -/
structure Tracks (cl : Cl) (ro : Roster) : Prop where
  known : ∀ h r, cl.lookup h = some r →
    r < cl.next ∧ (cl.contacts r).handle = h ∧ FlagsOf (cl.contacts r).flags (ro h)
  listed : ∀ h, (cl.lookup h).isSome = true ↔ ∃ l, (ro h l).isSome = true

/-- What holds while closures are pending. -/
structure RosterInv (cl : Cl) (ro : Roster) : Prop where
  known : ∀ h r, cl.lookup h = some r →
    r < cl.next ∧ (cl.contacts r).handle = h ∧ FlagsOf (cl.contacts r).flags (ro h)
  absent : ∀ h, cl.lookup h = none → ∀ l, ro h l = none
  gone : ∀ h r, cl.lookup h = some r → (cl.contacts r).flags = 0 → cl.Covered r

theorem RosterInv.of_tracks {cl : Cl} {ro : Roster} (h : Tracks cl ro) : RosterInv cl ro where
  known := h.known
  absent := by
    intro x hx l
    cases hl : ro x l with
    | none => rfl
    | some s =>
      have := (h.listed x).mpr ⟨l, by rw [hl]; rfl⟩
      rw [hx] at this; cases this
  gone := by
    intro x r hx hz
    obtain ⟨-, -, hf⟩ := h.known x r hx
    obtain ⟨l, hl⟩ := (h.listed x).mp (by rw [hx]; rfl)
    rw [(flagsOf_eq_zero hf).mp hz l] at hl; cases hl

/-- **Once nothing is pending the table is exact.** -/
theorem RosterInv.tracks {cl : Cl} {ro : Roster} (h : RosterInv cl ro) (hd : cl.NoDeferred) :
    Tracks cl ro where
  known := h.known
  listed := by
    intro x
    constructor
    · intro hx
      obtain ⟨r, hr⟩ := Option.isSome_iff_exists.mp hx
      by_contra hnone
      have hz : (cl.contacts r).flags = 0 := by
        refine (flagsOf_eq_zero (h.known x r hr).2.2).mpr fun l => ?_
        cases hl : ro x l with
        | none => rfl
        | some s => exact absurd ⟨l, by rw [hl]; rfl⟩ hnone
      obtain ⟨p, hp, k, hk, -⟩ := h.gone x r hr hz
      rw [hd p hp] at hk; cases hk
    · rintro ⟨l, hl⟩
      by_contra hx
      rw [h.absent x (by simpa using hx) l] at hl; cases hl

/-! ## Inside one signal -/

/-- The state of the handler after the handles of `seen`, which were all different. -/
structure Mid (cl₀ : Cl) (seen : List Nat) (ro : Roster) (st : Cl × MembersChangedClosure) :
    Prop where
  hash : st.1.contactsHash = cl₀.contactsHash
  calls : st.1.calls = cl₀.calls
  known : ∀ h r, cl₀.lookup h = some r →
    r < st.1.next ∧ (st.1.contacts r).handle = h ∧ FlagsOf (st.1.contacts r).flags (ro h)
  absent : ∀ h, cl₀.lookup h = none → h ∉ seen → ∀ l, ro h l = none
  added : ∀ r ∈ st.2.contactsToAdd, r < st.1.next ∧ cl₀.lookup (st.1.contacts r).handle = none
    ∧ (st.1.contacts r).handle ∈ seen
    ∧ FlagsOf (st.1.contacts r).flags (ro (st.1.contacts r).handle)
    ∧ ∃ l, ro (st.1.contacts r).handle l ≠ none
  entered : ∀ h, cl₀.lookup h = none → (∃ l, ro h l ≠ none) →
    ∃ r ∈ st.2.contactsToAdd, (st.1.contacts r).handle = h
  gone : ∀ h r, cl₀.lookup h = some r → (st.1.contacts r).flags = 0 →
    r ∈ st.2.contactsToRemove ∨ cl₀.Covered r

theorem Mid.start {cl : Cl} {ro : Roster} (h : RosterInv cl ro) : Mid cl [] ro (cl, {}) where
  hash := rfl
  calls := rfl
  known := h.known
  absent := fun x hx _ => h.absent x hx
  added := by intro r hr; cases hr
  entered := by
    rintro x hx ⟨l, hl⟩
    exact absurd (h.absent x hx l) hl
  gone := fun x r hx hz => .inr (h.gone x r hx hz)

/-- A contact of the table gets other flags. -/
theorem Mid.modify {cl₀ : Cl} {seen : List Nat} {ro : Roster} {st : Cl × MembersChangedClosure}
    {l : ListId} {x : Option Standing} {h r : Nat} {f : Contact → Contact}
    {k : MembersChangedClosure} (hm : Mid cl₀ seen ro st) (hr : cl₀.lookup h = some r)
    (hhandle : ∀ c, (f c).handle = c.handle)
    (hflags : FlagsOf (f (st.1.contacts r)).flags (Function.update (ro h) l x))
    (hadd : k.contactsToAdd = st.2.contactsToAdd)
    (hkeep : ∀ r' ∈ st.2.contactsToRemove, r' ∈ k.contactsToRemove)
    (hzero : (f (st.1.contacts r)).flags = 0 → r ∈ k.contactsToRemove) :
    Mid cl₀ (h :: seen) (Roster.set l x ro h) (st.1.modify r f, k) := by
  obtain ⟨hlt, hh, -⟩ := hm.known h r hr
  have hself := modify_contacts_self st.1 r f
  have hother : ∀ r', r' ≠ r → (st.1.modify r f).contacts r' = st.1.contacts r' :=
    fun r' hne => modify_contacts_of_ne hne
  -- a contact with another handle is another contact
  have hne_of : ∀ r', (st.1.contacts r').handle ≠ h → r' ≠ r := by
    rintro r' hne rfl
    exact hne hh
  refine ⟨hm.hash, hm.calls, ?_, ?_, ?_, ?_, ?_⟩
  · intro h' r' hr'
    obtain ⟨hlt', hh', hf'⟩ := hm.known h' r' hr'
    by_cases he : h' = h
    · subst he
      have hrr : r' = r := Option.some.inj (hr'.symm.trans hr)
      subst hrr
      rw [hself, Roster.set_self, hhandle]
      exact ⟨hlt', hh', hflags⟩
    · rw [hother r' (hne_of r' (by rw [hh']; exact he)), Roster.set_of_ne he]
      exact ⟨hlt', hh', hf'⟩
  · intro h' hnone hseen
    have hne : h' ≠ h := fun he => hseen (by rw [he]; exact List.mem_cons_self)
    rw [Roster.set_of_ne hne]
    exact hm.absent h' hnone fun hs => hseen (List.mem_cons_of_mem h hs)
  · intro r' hr'
    have hr'' : r' ∈ st.2.contactsToAdd := by rw [← hadd]; exact hr'
    obtain ⟨h1, h2, h3, h4, h5⟩ := hm.added r' hr''
    have hne : (st.1.contacts r').handle ≠ h := by
      intro he
      rw [he, hr] at h2; cases h2
    rw [hother r' (hne_of r' hne), Roster.set_of_ne hne]
    exact ⟨h1, h2, List.mem_cons_of_mem h h3, h4, h5⟩
  · intro h' hnone hl
    have hne : h' ≠ h := by
      rintro rfl
      rw [hr] at hnone; cases hnone
    rw [Roster.set_of_ne hne] at hl
    obtain ⟨r', hr', hh'⟩ := hm.entered h' hnone hl
    have hrne := hne_of r' (by rw [hh']; exact hne)
    exact ⟨r', by rw [hadd]; exact hr', by rw [hother r' hrne]; exact hh'⟩
  · intro h' r' hr' hz
    by_cases he : r' = r
    · subst he
      rw [hself] at hz
      exact .inl (hzero hz)
    · rw [hother r' he] at hz
      rcases hm.gone h' r' hr' hz with hin | hc
      · exact .inl (hkeep r' hin)
      · exact .inr hc

/-- A handle that is not in the table gets a contact of its own. -/
theorem Mid.fresh {cl₀ : Cl} {seen : List Nat} {ro : Roster} {st : Cl × MembersChangedClosure}
    {l : ListId} {s : Standing} {h : Nat} {k : MembersChangedClosure} (hm : Mid cl₀ seen ro st)
    (hnone : cl₀.lookup h = none) (hseen : h ∉ seen)
    (hk : k.contactsToAdd = st.2.contactsToAdd ++ [st.1.next])
    (hrem : k.contactsToRemove = st.2.contactsToRemove) :
    Mid cl₀ (h :: seen) (Roster.set l (some s) ro h)
      ({ st.1 with
          contacts := Function.update st.1.contacts st.1.next
            { Contact.new with handle := h, flags := l.flag s }
          next := st.1.next + 1 }, k) := by
  have hempty := hm.absent h hnone hseen
  have hold : ∀ r', r' < st.1.next →
      Function.update st.1.contacts st.1.next { Contact.new with handle := h, flags := l.flag s } r'
        = st.1.contacts r' := fun r' hlt => Function.update_of_ne (by omega) ..
  refine ⟨hm.hash, hm.calls, ?_, ?_, ?_, ?_, ?_⟩
  · -- the contacts of before are at other addresses, and of other handles
    intro h' r' hr'
    obtain ⟨hlt', hh', hf'⟩ := hm.known h' r' hr'
    have hne : h' ≠ h := by
      rintro rfl
      rw [hr'] at hnone; cases hnone
    dsimp only
    rw [hold r' hlt', Roster.set_of_ne hne]
    exact ⟨by omega, hh', hf'⟩
  · intro h' hn hs
    have hne : h' ≠ h := fun he => hs (by rw [he]; exact List.mem_cons_self)
    rw [Roster.set_of_ne hne]
    exact hm.absent h' hn fun hin => hs (List.mem_cons_of_mem h hin)
  · intro r' hr'
    dsimp only at hr' ⊢
    rw [hk, List.mem_append, List.mem_singleton] at hr'
    rcases hr' with hr' | rfl
    · obtain ⟨h1, h2, h3, h4, h5⟩ := hm.added r' hr'
      have hne : (st.1.contacts r').handle ≠ h := fun he => hseen (he ▸ h3)
      rw [hold r' h1, Roster.set_of_ne hne]
      exact ⟨by omega, h2, List.mem_cons_of_mem h h3, h4, h5⟩
    · -- the contact is new, and on this list alone
      rw [Function.update_self]
      dsimp only
      rw [Roster.set_self]
      refine ⟨by omega, hnone, List.mem_cons_self, flagsOf_new l s hempty, l, ?_⟩
      rw [Function.update_self]; simp
  · intro h' hn hl
    dsimp only
    by_cases he : h' = h
    · subst he
      refine ⟨st.1.next, by rw [hk]; simp, ?_⟩
      rw [Function.update_self]
    · rw [Roster.set_of_ne he] at hl
      obtain ⟨r', hr', hh'⟩ := hm.entered h' hn hl
      refine ⟨r', by rw [hk]; exact List.mem_append_left _ hr', ?_⟩
      rw [hold r' (hm.added r' hr').1]
      exact hh'
  · intro h' r' hr' hz
    obtain ⟨hlt', -, -⟩ := hm.known h' r' hr'
    dsimp only at hz
    rw [hold r' hlt'] at hz
    rcases hm.gone h' r' hr' hz with hin | hc
    · exact .inl (by rw [hrem]; exact hin)
    · exact .inr hc

theorem mid_memberSet {cl₀ : Cl} {seen : List Nat} {ro : Roster} {st : Cl × MembersChangedClosure}
    {h : Nat} (l : ListId) (s : Standing) (hm : Mid cl₀ seen ro st) (hseen : h ∉ seen) :
    Mid cl₀ (h :: seen) (Roster.set l (some s) ro h) (memberSet l s st h) := by
  have hlook : st.1.lookup h = cl₀.lookup h := by unfold lookup; rw [hm.hash]
  unfold memberSet
  cases hr : st.1.lookup h with
  | some r =>
    have hr' : cl₀.lookup h = some r := hlook.symm.trans hr
    have hf := flagsOf_set l s (hm.known h r hr').2.2
    refine hm.modify hr' (fun _ => rfl) hf rfl (fun _ h => h) fun hz => ?_
    -- a contact that is on this list has some flag
    have := (flagsOf_eq_zero hf).mp hz l
    rw [Function.update_self] at this; cases this
  | none => exact hm.fresh (hlook.symm.trans hr) hseen rfl rfl

theorem mid_memberRemoved {cl₀ : Cl} {seen : List Nat} {ro : Roster}
    {st : Cl × MembersChangedClosure} {h : Nat} (l : ListId) (hm : Mid cl₀ seen ro st)
    (hseen : h ∉ seen) : Mid cl₀ (h :: seen) (Roster.set l none ro h) (memberRemoved l st h) := by
  have hlook : st.1.lookup h = cl₀.lookup h := by unfold lookup; rw [hm.hash]
  unfold memberRemoved
  cases hr : st.1.lookup h with
  | some r =>
    have hr' : cl₀.lookup h = some r := hlook.symm.trans hr
    have hf := flagsOf_clear l (hm.known h r hr').2.2
    have hself := congrArg Contact.flags (modify_contacts_self st.1 r (clearStanding l))
    dsimp only
    split
    · refine hm.modify hr' (fun _ => rfl) hf rfl (fun r' hr' => ?_) fun _ => ?_
      · exact List.mem_append_left _ hr'
      · exact List.mem_append_right _ (List.mem_singleton_self r)
    · rename_i hnz
      exact hm.modify hr' (fun _ => rfl) hf rfl (fun _ h => h) fun hz =>
        absurd (hself.trans hz) hnz
  | none =>
    have hnone := hlook.symm.trans hr
    have hempty := hm.absent h hnone hseen
    have hsame : Roster.set l none ro h = ro := by
      unfold Roster.set
      have : Function.update (ro h) l none = ro h := by
        rw [← hempty l]; exact Function.update_eq_self l (ro h)
      rw [this]; exact Function.update_eq_self h ro
    rw [hsame]
    exact ⟨hm.hash, hm.calls, hm.known,
      fun h' hn hs => hm.absent h' hn fun hin => hs (List.mem_cons_of_mem h hin),
      fun r hr => by
        obtain ⟨h1, h2, h3, h4⟩ := hm.added r hr
        exact ⟨h1, h2, List.mem_cons_of_mem h h3, h4⟩,
      hm.entered, hm.gone⟩

/-- One of the four loops of the handler. -/
theorem mid_foldl {cl₀ : Cl} {l : ListId} {x : Option Standing}
    {f : Cl × MembersChangedClosure → Nat → Cl × MembersChangedClosure}
    (hf : ∀ seen ro st h, Mid cl₀ seen ro st → h ∉ seen →
      Mid cl₀ (h :: seen) (Roster.set l x ro h) (f st h)) :
    ∀ (hs seen : List Nat) {ro : Roster} {st : Cl × MembersChangedClosure}, Mid cl₀ seen ro st →
      (hs ++ seen).Nodup → Mid cl₀ (hs.reverse ++ seen) (hs.foldl (Roster.set l x) ro) (hs.foldl f st) := by
  intro hs
  induction hs with
  | nil => intro seen ro st hm _; exact hm
  | cons h hs ih =>
    intro seen ro st hm hnd
    rw [List.cons_append, List.nodup_cons] at hnd
    have hnot : h ∉ seen := fun hin => hnd.1 (List.mem_append_right hs hin)
    have hnext := ih (h :: seen) (hf seen ro st h hm hnot) (by
      refine (List.perm_middle.nodup_iff).mpr ?_
      rw [List.nodup_cons]; exact hnd)
    rw [List.reverse_cons, List.append_assoc]
    exact hnext

/-- The end of the handler: the new contacts are entered and the closure is left behind. -/
theorem Mid.finish {cl₀ : Cl} {seen : List Nat} {ro : Roster} {st : Cl × MembersChangedClosure}
    {c : Call} (hm : Mid cl₀ seen ro st) (hc : c.closure = some st.2) :
    RosterInv ((st.1.enterAdded st.2.contactsToAdd).call c) ro := by
  have hlook : ∀ h r, ((st.1.enterAdded st.2.contactsToAdd).call c).lookup h = some r →
      (r ∈ st.2.contactsToAdd ∧ (st.1.contacts r).handle = h) ∨ cl₀.lookup h = some r := by
    intro h r hr
    rcases Table.lookup_insertAll hr with hnew | ⟨hold, -⟩
    · exact .inl hnew
    · refine .inr ?_
      unfold lookup
      rw [← hm.hash]; exact hold
  refine ⟨?_, ?_, ?_⟩
  · intro h r hr
    -- an entry by handle is a new one, or it was there
    rcases hlook h r hr with ⟨hin, hh⟩ | hold
    · obtain ⟨h1, -, -, h4, -⟩ := hm.added r hin
      rw [hh] at h4
      exact ⟨h1, hh, h4⟩
    · exact hm.known h r hold
  · intro h hnone l
    have hno : ¬ ((st.1.contactsHash.lookup h).isSome = true
        ∨ ∃ r ∈ st.2.contactsToAdd, (st.1.contacts r).handle = h) := by
      intro hc
      have := Table.lookup_insertAll_isSome hc
      unfold lookup call enterAdded at hnone
      dsimp only at hnone
      rw [hnone] at this; cases this
    have hold : cl₀.lookup h = none := by
      unfold lookup
      rw [← hm.hash]
      by_contra hc
      exact hno (.inl (by simpa [Option.ne_none_iff_isSome] using hc))
    by_contra hl
    exact hno (.inr (hm.entered h hold ⟨l, hl⟩))
  · -- whoever is off every list is in a closure that is owed
    intro h r hr hz
    have hcov : cl₀.Covered r → ((st.1.enterAdded st.2.contactsToAdd).call c).Covered r := by
      rintro ⟨p, hp, k, hk, hin⟩
      refine ⟨p, List.mem_append_left _ ?_, k, hk, hin⟩
      rw [← hm.calls] at hp; exact hp
    rcases hlook h r hr with ⟨hin, hh⟩ | hold
    · obtain ⟨-, -, -, h4, l, hl⟩ := hm.added r hin
      exact absurd ((flagsOf_eq_zero h4).mp hz l) hl
    · rcases hm.gone h r hold hz with hrem | hc'
      · exact ⟨_, List.mem_append_right _ (List.mem_singleton_self _), st.2, hc, hrem⟩
      · exact hcov hc'

/-- **A signal keeps the invariant.** -/
theorem rosterInv_membersChanged {cl : Cl} {ro : Roster} {l : ListId}
    {added removed lp rp : List Nat} (h : RosterInv cl ro) (hconn : cl.isConnected = true)
    (hnd : (added ++ removed ++ lp ++ rp).Nodup) :
    RosterInv (cl.tpChannelMembersChangedCb l added removed lp rp)
      (ro.changed l added removed lp rp) := by
  have hnext : ∀ xs ys seen : List Nat, seen.Perm xs → (xs ++ ys).Nodup → (ys ++ seen).Nodup :=
    fun xs ys seen hp hn =>
      (List.perm_append_comm.trans (List.Perm.append_left ys hp.symm)).nodup_iff.mp hn
  have hseen : ∀ xs ys seen : List Nat, seen.Perm xs → (ys.reverse ++ seen).Perm (xs ++ ys) :=
    fun xs ys seen hp =>
      ((List.reverse_perm ys).append hp).trans List.perm_append_comm
  have hn3 := hnd.of_append_left
  have hn2 := hn3.of_append_left
  have hp0 : ([] : List Nat).Perm [] := .refl _
  have hp1 := hseen [] added [] hp0
  have hp2 := hseen _ removed _ hp1
  have hp3 := hseen _ lp _ hp2
  have hm1 := mid_foldl (fun _ _ _ _ => mid_memberSet l .current) added [] (Mid.start h)
    (hnext [] added [] hp0 hn2.of_append_left)
  have hm2 := mid_foldl (fun _ _ _ _ => mid_memberRemoved l) removed _ hm1
    (hnext _ removed _ hp1 hn2)
  have hm3 := mid_foldl (fun _ _ _ _ => mid_memberSet l .localPending) lp _ hm2
    (hnext _ lp _ hp2 hn3)
  have hm4 := mid_foldl (fun _ _ _ _ => mid_memberSet l .remotePending) rp _ hm3
    (hnext _ rp _ hp3 hnd)
  unfold tpChannelMembersChangedCb
  rw [if_pos hconn]
  dsimp only
  split
  · exact hm4.finish rfl
  · exact hm4.finish rfl

/-! ## Completions -/

/-- The inspection changes names and presences, not handles, flags or the table. -/
structure Inspected (cl cl' : Cl) : Prop where
  hash : cl'.contactsHash = cl.contactsHash
  next : cl'.next = cl.next
  calls : cl'.calls = cl.calls
  contact : ∀ r, (cl'.contacts r).handle = (cl.contacts r).handle
    ∧ (cl'.contacts r).flags = (cl.contacts r).flags

theorem updateName_keeps (c : Contact) (n : Option String) :
    (c.updateName n).handle = c.handle ∧ (c.updateName n).flags = c.flags := by
  unfold Contact.updateName
  split
  · exact ⟨rfl, rfl⟩
  · split
    · exact ⟨rfl, rfl⟩
    · split <;> exact ⟨rfl, rfl⟩

theorem inspected_updateContactDetails (cl : Cl) (tps : List TpContact) :
    Inspected cl (cl.updateContactDetails tps).1 := by
  refine foldl_inv (I := fun st : Cl × List Nat => Inspected cl st.1) (fun st tp h => ?_) tps
    ⟨rfl, rfl, rfl, fun _ => ⟨rfl, rfl⟩⟩
  unfold updateContactDetail
  split
  · exact h
  · rename_i r hr
    refine ⟨h.hash, h.next, h.calls, fun r' => ?_⟩
    by_cases he : r' = r
    · subst he
      dsimp only
      rw [modify_contacts_self]
      obtain ⟨h1, h2⟩ := updateName_keeps (st.1.contacts r') (some tp.identifier)
      exact ⟨h1.trans (h.contact r').1, h2.trans (h.contact r').2⟩
    · dsimp only
      rw [modify_contacts_of_ne he]
      exact h.contact r'

/-- Details give a name to the contacts they are about, and to no other. -/
theorem named_updateContactDetail (st : Cl × List Nat) (tp : TpContact) (r : Nat) :
    ((updateContactDetail st tp).1.contacts r).name ≠ none
      ↔ (st.1.contacts r).name ≠ none ∨ st.1.lookup tp.handle = some r := by
  unfold updateContactDetail
  cases hl : st.1.lookup tp.handle with
  | none =>
    dsimp only
    constructor
    · exact .inl
    · rintro (h | h)
      · exact h
      · cases h
  | some r' =>
    dsimp only
    by_cases he : r = r'
    · subst he
      rw [modify_contacts_self]
      constructor
      · intro _; exact .inr rfl
      · intro _ hn
        rw [Contact.updateName_some] at hn
        cases hn
    · rw [modify_contacts_of_ne he]
      constructor
      · exact .inl
      · rintro (h | h)
        · exact h
        · exact absurd (Option.some.inj h).symm he

theorem lookup_updateContactDetail (st : Cl × List Nat) (tp : TpContact) (x : Nat) :
    (updateContactDetail st tp).1.lookup x = st.1.lookup x := by
  unfold updateContactDetail
  split <;> rfl

theorem named_updateContactDetails (tps : List TpContact) (st : Cl × List Nat) (r : Nat) :
    ((tps.foldl updateContactDetail st).1.contacts r).name ≠ none
      ↔ (st.1.contacts r).name ≠ none ∨ ∃ tp ∈ tps, st.1.lookup tp.handle = some r := by
  induction tps generalizing st with
  | nil => simp
  | cons tp tps ih =>
    rw [List.foldl_cons, ih, named_updateContactDetail]
    simp only [lookup_updateContactDetail, List.mem_cons, exists_eq_or_imp, or_assoc]

/-- `remove_invalid_contacts` keeps the contact, once the details in `tps` are in. -/
def Valid (cl : Cl) (tps : List TpContact) (r : Nat) : Prop :=
  ((cl.contacts r).name ≠ none ∨ ∃ tp ∈ tps, cl.lookup tp.handle = some r)
    ∧ (cl.lookup (cl.contacts r).handle).isSome = true

instance (cl : Cl) (tps : List TpContact) (r : Nat) : Decidable (cl.Valid tps r) := by
  unfold Valid; infer_instance

/-- What a reply with the details in `tps` leaves of the closure that waited for it. -/
def validated (cl : Cl) (tps : List TpContact) (k : MembersChangedClosure) :
    MembersChangedClosure :=
  { k with
    contactsToAdd := k.contactsToAdd.filter fun r => cl.Valid tps r
    contactsToRemove := k.contactsToRemove.filter fun r => cl.Valid tps r
    contactsToUpdate := k.contactsToUpdate.filter fun r => cl.Valid tps r }

/-- What is valid is decided by the details and by the roster they arrive at. -/
theorem removeInvalidContacts_eq (cl : Cl) (tps : List TpContact) (rs : List Nat) :
    (cl.updateContactDetails tps).1.removeInvalidContacts rs
      = rs.filter fun r => cl.Valid tps r := by
  have hi := inspected_updateContactDetails cl tps
  unfold removeInvalidContacts
  refine List.filter_congr fun r _ => decide_eq_decide.mpr ?_
  have hnamed : ((cl.updateContactDetails tps).1.contacts r).name ≠ none ↔ _ :=
    named_updateContactDetails tps (cl, []) r
  unfold Valid lookup at *
  rw [hi.hash, (hi.contact r).1, hnamed]

theorem RosterInv.inspected {cl cl' : Cl} {ro : Roster} (h : RosterInv cl ro)
    (hi : Inspected cl cl') : RosterInv cl' ro := by
  have hlook : ∀ x, cl'.lookup x = cl.lookup x := fun x => by unfold lookup; rw [hi.hash]
  refine ⟨fun x r hr => ?_, fun x hx => ?_, fun x r hr hz => ?_⟩
  · rw [hlook] at hr
    obtain ⟨h1, h2, h3⟩ := h.known x r hr
    rw [hi.next, (hi.contact r).1, (hi.contact r).2]
    exact ⟨h1, h2, h3⟩
  · rw [hlook] at hx
    exact h.absent x hx
  · rw [hlook] at hr
    rw [(hi.contact r).2] at hz
    obtain ⟨p, hp, k, hk, hin⟩ := h.gone x r hr hz
    exact ⟨p, by rw [hi.calls]; exact hp, k, hk, hin⟩

/--
Running a closure that takes the contacts `rs` out of the table does the right thing:
what it takes out is on no list, and what it leaves behind is on one, or gone already,
or left to another closure.
-/
def Prompt (cl : Cl) (k : MembersChangedClosure) (rs : List Nat) : Prop :=
  (∀ r ∈ rs, ∀ r' ∈ cl.lookup (cl.contacts r).handle, (cl.contacts r').flags = 0)
    ∧ ∀ r ∈ k.contactsToRemove, r ∉ rs → cl.lookup (cl.contacts r).handle = some r →
        (cl.contacts r).flags = 0 → cl.Covered r

instance (cl : Cl) (k : MembersChangedClosure) (rs : List Nat) : Decidable (cl.Prompt k rs) :=
  inferInstanceAs (Decidable (_ ∧ _))

/-- The contacts that the reply of an inspection lets the closure take out. -/
def removable (cl : Cl) (k : MembersChangedClosure) : Option (List TpContact) → List Nat
  | none => []
  | some tps => (cl.updateContactDetails tps).1.removeInvalidContacts k.contactsToRemove

/-- The deferred half of `MembersChanged` that the event runs, if any, does the right thing. -/
def Settles (cl : Cl) : Event → Prop
  | .done i _ => ∀ p ∈ cl.takeCall i, ∀ k ∈ p.1.idleClosure, p.2.Prompt k k.contactsToRemove
  | .contacts i reply =>
    ∀ p ∈ cl.takeCall i, ∀ k ∈ p.1.inspectionClosure, p.2.Prompt k (p.2.removable k reply)
  | _ => True

instance (cl : Cl) : DecidablePred cl.Settles
  | .done i _ => inferInstanceAs (Decidable
      (∀ p ∈ cl.takeCall i, ∀ k ∈ p.1.idleClosure, p.2.Prompt k k.contactsToRemove))
  | .contacts i reply => inferInstanceAs (Decidable
      (∀ p ∈ cl.takeCall i, ∀ k ∈ p.1.inspectionClosure, p.2.Prompt k (p.2.removable k reply)))
  | .connectionStatusChanged _ => .isTrue trivial
  | .membersChanged _ _ _ _ _ => .isTrue trivial
  | .allMembers _ _ => .isTrue trivial
  | .details _ => .isTrue trivial

/-- A call is taken; what its closure was to remove is owed no longer. -/
theorem covered_takeCall {cl cl₁ : Cl} {i : Nat} {c : Call} {k : MembersChangedClosure} {r : Nat}
    (ht : cl.takeCall i = some (c, cl₁)) (hc : c.closure = some k) (h : cl.Covered r) :
    r ∈ k.contactsToRemove ∨ cl₁.Covered r := by
  obtain ⟨n, hperm⟩ := takeCall_perm ht
  obtain ⟨p, hp, k', hk', hin⟩ := h
  rcases List.mem_cons.mp (hperm.mem_iff.mp hp) with rfl | hp'
  · rw [hc] at hk'
    cases hk'
    exact .inl hin
  · exact .inr ⟨p, hp', k', hk', hin⟩

/-- **A completion keeps the invariant where it is prompt.** -/
theorem rosterInv_updateChangedMembers {cl cl₁ cl₂ : Cl} {ro : Roster} {i : Nat} {c : Call}
    {k k' : MembersChangedClosure} (updated : List Nat) (h : RosterInv cl ro)
    (ht : cl.takeCall i = some (c, cl₁)) (hc : c.closure = some k) (hi : Inspected cl₁ cl₂)
    (hprompt : cl₁.Prompt k k'.contactsToRemove) :
    RosterInv (cl₂.updateChangedMembers k' updated).1 ro := by
  obtain ⟨n, -, hcl₁⟩ := takeCall_eq ht
  have hlook₁ : ∀ x, cl₂.lookup x = cl.lookup x := fun x => by
    unfold lookup; rw [hi.hash, hcl₁]
  have hcon : ∀ r, (cl₂.contacts r).handle = (cl.contacts r).handle
      ∧ (cl₂.contacts r).flags = (cl.contacts r).flags := by
    intro r
    have := hi.contact r
    rw [hcl₁] at this; exact this
  have hpr : ∀ r ∈ k'.contactsToRemove, ∀ r', cl.lookup (cl.contacts r).handle = some r' →
      (cl.contacts r').flags = 0 := by
    have := hprompt.1
    rw [hcl₁] at this; exact this
  have hleft : ∀ r ∈ k.contactsToRemove, r ∉ k'.contactsToRemove →
      cl.lookup (cl.contacts r).handle = some r → (cl.contacts r).flags = 0 → cl₁.Covered r := by
    have := hprompt.2
    rw [hcl₁] at this ⊢; exact this
  have hlook : ∀ x r, (cl₂.updateChangedMembers k' updated).1.lookup x = some r ↔
      cl.lookup x = some r ∧ ∀ r' ∈ k'.contactsToRemove, (cl.contacts r').handle ≠ x := by
    intro x r
    unfold updateChangedMembers lookup
    dsimp only
    rw [Table.lookup_eraseAll]
    have := hlook₁ x
    unfold lookup at this
    rw [this]
    simp only [(hcon _).1]
  refine ⟨fun x r hr => ?_, fun x hx l => ?_, fun x r hr hz => ?_⟩
  · obtain ⟨h1, h2, h3⟩ := h.known x r ((hlook x r).mp hr).1
    have hn : cl₂.next = cl.next := by rw [hi.next, hcl₁]
    refine ⟨?_, ?_, ?_⟩
    · rw [← hn] at h1; exact h1
    · exact (hcon r).1.trans h2
    · have hfl : ((cl₂.updateChangedMembers k' updated).1.contacts r).flags = (cl.contacts r).flags :=
        (hcon r).2
      rw [hfl]; exact h3
  · cases hold : cl.lookup x with
    | none => exact h.absent x hold l
    | some r =>
      -- it was taken out, so it was on no list
      have hex : ∃ r' ∈ k'.contactsToRemove, (cl.contacts r').handle = x := by
        by_contra hno
        push Not at hno
        rw [(hlook x r).mpr ⟨hold, hno⟩] at hx; cases hx
      obtain ⟨r', hr', hx'⟩ := hex
      have hz := hpr r' hr' r (by rw [hx']; exact hold)
      exact (flagsOf_eq_zero (h.known x r hold).2.2).mp hz l
  · obtain ⟨hold, hne⟩ := (hlook x r).mp hr
    have hz' : (cl.contacts r).flags = 0 := (hcon r).2.symm.trans hz
    have hx := (h.known x r hold).2.1
    have hcalls : cl₂.calls = cl₁.calls := hi.calls
    have hgo : cl₁.Covered r → (cl₂.updateChangedMembers k' updated).1.Covered r := by
      rintro ⟨p, hp, k'', hk'', hin⟩
      exact ⟨p, by rw [← hcalls] at hp; exact hp, k'', hk'', hin⟩
    rcases covered_takeCall ht hc (h.gone x r hold hz') with hin | hcov
    · by_cases hin' : r ∈ k'.contactsToRemove
      · exact absurd hx (hne r hin')
      · exact hgo (hleft r hin hin' (by rw [hx]; exact hold) hz')
    · exact hgo hcov

/-- A closure is dropped without having removed anything. -/
theorem rosterInv_dropped {cl cl₁ : Cl} {ro : Roster} {i : Nat} {c : Call}
    {k : MembersChangedClosure} (h : RosterInv cl ro) (ht : cl.takeCall i = some (c, cl₁))
    (hc : c.closure = some k) (hprompt : cl₁.Prompt k []) : RosterInv cl₁ ro := by
  obtain ⟨n, -, hcl₁⟩ := takeCall_eq ht
  have hlook : ∀ x, cl₁.lookup x = cl.lookup x := fun x => by rw [hcl₁]; rfl
  have hcon : ∀ r, cl₁.contacts r = cl.contacts r := fun r => by rw [hcl₁]
  refine ⟨fun x r hr => ?_, fun x hx => ?_, fun x r hr hz => ?_⟩
  · rw [hlook] at hr
    rw [hcon, show cl₁.next = cl.next by rw [hcl₁]]
    exact h.known x r hr
  · rw [hlook] at hx
    exact h.absent x hx
  · have hold := (hlook x).symm.trans hr
    have hx := (h.known x r hold).2.1
    rcases covered_takeCall ht hc (h.gone x r hold (by rw [← hcon]; exact hz)) with hin | hcov
    · exact hprompt.2 r hin List.not_mem_nil (by rw [hcon, hx]; exact hr) hz
    · exact hcov

theorem rosterInv_idle {cl cl₁ : Cl} {ro : Roster} {i : Nat} {k : MembersChangedClosure}
    (h : RosterInv cl ro) (hconn : cl.isConnected = true)
    (ht : cl.takeCall i = some (.handleMembersChangedIdle k, cl₁))
    (hprompt : cl₁.Prompt k k.contactsToRemove) :
    RosterInv (cl₁.handleMembersChangedIdleCb k).1 ro := by
  unfold handleMembersChangedIdleCb
  rw [if_pos ((sameLink_takeCall ht).2.trans hconn)]
  exact rosterInv_updateChangedMembers [] h ht rfl
    ⟨rfl, rfl, rfl, fun _ => ⟨rfl, rfl⟩⟩ hprompt

theorem rosterInv_details {cl cl₁ : Cl} {ro : Roster} {i : Nat} {k : MembersChangedClosure}
    (reply : Option (List TpContact)) (h : RosterInv cl ro) (hconn : cl.isConnected = true)
    (ht : cl.takeCall i = some (.membersChangedWithDetails k, cl₁))
    (hprompt : cl₁.Prompt k (cl₁.removable k reply)) :
    RosterInv (cl₁.membersChangedWithDetailsCb k reply).1 ro := by
  unfold membersChangedWithDetailsCb
  cases reply with
  | none => exact rosterInv_dropped h ht rfl hprompt
  | some tps =>
    dsimp only
    rw [if_pos ((sameLink_takeCall ht).2.trans hconn)]
    exact rosterInv_updateChangedMembers _ h ht rfl (inspected_updateContactDetails cl₁ tps)
      hprompt

/-! ## Runs -/

/-- What the connection manager's signal means for the roster; other events say nothing. -/
def rosterAfter (ro : Roster) : Event → Roster
  | .membersChanged l added removed lp rp => ro.changed l added removed lp rp
  | _ => ro

/-- The layer together with the roster. -/
def rosterMachine : Machine (Cl × Roster) Event where
  step s e := (s.1.step e).map fun p => (p.1, rosterAfter s.2 e)

/--
The events in question: a signal in which no handle occurs twice, the deferred half of an
earlier one, or a report about details.
-/
def RosterEvent (cl : Cl) : Event → Prop
  | .membersChanged _ added removed lp rp => (added ++ removed ++ lp ++ rp).Nodup
  | .done i _ => ∃ p ∈ cl.takeCall i, p.1.idleClosure.isSome = true
  | .contacts i _ => ∃ p ∈ cl.takeCall i, p.1.inspectionClosure.isSome = true
  | .details _ => True
  | _ => False

instance (cl : Cl) : DecidablePred cl.RosterEvent
  | .membersChanged _ added removed lp rp =>
    inferInstanceAs (Decidable (added ++ removed ++ lp ++ rp).Nodup)
  | .done i _ => inferInstanceAs (Decidable
      (∃ p ∈ cl.takeCall i, p.1.idleClosure.isSome = true))
  | .contacts i _ => inferInstanceAs (Decidable
      (∃ p ∈ cl.takeCall i, p.1.inspectionClosure.isSome = true))
  | .details _ => .isTrue trivial
  | .connectionStatusChanged _ => .isFalse not_false
  | .allMembers _ _ => .isFalse not_false

/-- The closure says which call it is from. -/
theorem eq_of_idleClosure {c : Call} {k : MembersChangedClosure} (h : k ∈ c.idleClosure) :
    c = .handleMembersChangedIdle k := by
  cases c <;> cases h
  rfl

theorem eq_of_inspectionClosure {c : Call} {k : MembersChangedClosure}
    (h : k ∈ c.inspectionClosure) : c = .membersChangedWithDetails k := by
  cases c <;> cases h
  rfl

/-- One event of the roster keeps the invariant and the connection. -/
theorem rosterInv_step {s s' : Cl × Roster} {e : Event}
    (h : RosterInv s.1 s.2 ∧ s.1.isConnected = true) (hok : RosterEvent s.1 e ∧ Settles s.1 e)
    (hs : rosterMachine.step s e = some s') : RosterInv s'.1 s'.2 ∧ s'.1.isConnected = true := by
  obtain ⟨cl, ro⟩ := s
  obtain ⟨hinv, hconn⟩ := h
  obtain ⟨hev, hset⟩ := hok
  obtain ⟨⟨cl', signals⟩, hstep, rfl⟩ := Option.map_eq_some_iff.mp hs
  dsimp only at hinv hconn hev hset hstep ⊢
  cases e with
  | membersChanged l added removed lp rp =>
    cases hstep
    exact ⟨rosterInv_membersChanged hinv hconn hev,
      (sameLink_membersChanged cl l added removed lp rp).2.trans hconn⟩
  | done i ok =>
    -- the answer to a call is for a closure that it owes
    obtain ⟨⟨c, cl₁⟩, ht, hsome⟩ := hev
    obtain ⟨k, hk⟩ := Option.isSome_iff_exists.mp hsome
    have hset' := hset _ ht k hk
    obtain rfl := eq_of_idleClosure hk
    have ht' : cl.takeCall i = some (.handleMembersChangedIdle k, cl₁) := ht
    simp only [step, ht', Option.some.injEq] at hstep
    have hcl' : (cl₁.handleMembersChangedIdleCb k).1 = cl' := congrArg Prod.fst hstep
    rw [← hcl']
    exact ⟨rosterInv_idle hinv hconn ht hset',
      ((sameLink_takeCall ht).trans (sameLink_idle cl₁ k).1).2.trans hconn⟩
  | contacts i reply =>
    obtain ⟨⟨c, cl₁⟩, ht, hsome⟩ := hev
    obtain ⟨k, hk⟩ := Option.isSome_iff_exists.mp hsome
    have hset' := hset _ ht k hk
    obtain rfl := eq_of_inspectionClosure hk
    have ht' : cl.takeCall i = some (.membersChangedWithDetails k, cl₁) := ht
    simp only [step, ht', Option.some.injEq] at hstep
    have hcl' : (cl₁.membersChangedWithDetailsCb k reply).1 = cl' := congrArg Prod.fst hstep
    rw [← hcl']
    exact ⟨rosterInv_details reply hinv hconn ht hset',
      ((sameLink_takeCall ht).trans (sameLink_details cl₁ k reply).1).2.trans hconn⟩
  | details d =>
    obtain ⟨heap, hcl', hheap⟩ := (detailsCb_reported cl d).only
    have heq : (cl.detailsCb d).1 = cl' := congrArg Prod.fst (Option.some.inj hstep)
    rw [← heq, hcl']
    exact ⟨hinv.inspected ⟨rfl, rfl, rfl, fun a => ⟨(hheap a).handle, (hheap a).flags⟩⟩, hconn⟩
  | connectionStatusChanged conn => exact hev.elim
  | allMembers i reply => exact hev.elim

/--
**The hash table tracks the roster.**

From a connected state in which it is exact, through any signals and any deferred halves
of them that do the right thing when they run, the table is exact again whenever no
closure is pending.
-/
theorem contactsHash_tracks {cl cl' : Cl} {ro ro' : Roster} {es : List Event}
    (hconn : cl.isConnected = true) (hexact : Tracks cl ro)
    (hrun : rosterMachine.Guarded (fun s e => RosterEvent s.1 e ∧ Settles s.1 e)
      (cl, ro) es (cl', ro'))
    (hdone : cl'.NoDeferred) : Tracks cl' ro' :=
  (hrun.inv (I := fun s => RosterInv s.1 s.2 ∧ s.1.isConnected = true)
    (fun _ _ _ h hok hs => rosterInv_step h hok hs) ⟨.of_tracks hexact, hconn⟩).1.tracks hdone

/-- A fresh connection to an empty roster. -/
theorem tracks_empty (conn : Nat) : Tracks { conn := some conn } fun _ _ => none where
  known := by
    intro h r hr
    cases hr
  listed := by
    intro h
    constructor
    · intro hs; cases hs
    · rintro ⟨_, hs⟩; cases hs

theorem noDeferred_of_nil {cl : Cl} (h : cl.calls = []) : cl.NoDeferred := by
  intro p hp
  rw [h] at hp; cases hp

/-- One contact comes, gets its name, goes, and the removal is carried out. -/
theorem contactsHash_tracks_removal :
    ∃ s', rosterMachine.Guarded (fun s e => RosterEvent s.1 e ∧ Settles s.1 e)
        ({ conn := some 1 }, fun _ _ => none)
        [.membersChanged .subscribe [7] [] [] [],
         .contacts 0 (some [{ handle := 7, identifier := "bob" }]),
         .membersChanged .subscribe [] [7] [] [], .done 0 true] s' ∧ Tracks s'.1 s'.2 := by
  have hrun : (((rosterMachine.runChecked (fun s e => decide (RosterEvent s.1 e ∧ Settles s.1 e))
      ({ conn := some 1 }, fun _ _ => none)
      [.membersChanged .subscribe [7] [] [] [],
       .contacts 0 (some [{ handle := 7, identifier := "bob" }]),
       .membersChanged .subscribe [] [7] [] [], .done 0 true]).map
        fun s => s.1.calls) = some []) := by decide
  obtain ⟨s', hs', hcalls⟩ := Option.map_eq_some_iff.mp hrun
  have hg : rosterMachine.Guarded (fun s e => RosterEvent s.1 e ∧ Settles s.1 e) _ _ s' :=
    Machine.guarded_of_runChecked (fun _ _ hc => of_decide_eq_true hc) hs'
  exact ⟨s', hg, contactsHash_tracks rfl (tracks_empty 1) hg (noDeferred_of_nil hcalls)⟩

/--
The contact is removed and added again before the removal is carried out: it is on the
subscribe list, no closure is pending, and the table has lost it.
-/
theorem contactsHash_loses :
    ∃ cl ro, rosterMachine.Guarded (fun s e => RosterEvent s.1 e)
        ({ conn := some 1 }, fun _ _ => none)
        [.membersChanged .subscribe [7] [] [] [],
         .contacts 0 (some [{ handle := 7, identifier := "bob" }]),
         .membersChanged .subscribe [] [7] [] [], .membersChanged .subscribe [7] [] [] [],
         .done 0 true, .done 0 true] (cl, ro)
      ∧ Tracks { conn := some 1 } (fun _ _ => none) ∧ cl.NoDeferred
      ∧ ro 7 .subscribe = some .current ∧ cl.lookup 7 = none ∧ ¬ Tracks cl ro := by
  have hrun : (((rosterMachine.runChecked (fun s e => decide (RosterEvent s.1 e))
      ({ conn := some 1 }, fun _ _ => none)
      [.membersChanged .subscribe [7] [] [] [],
       .contacts 0 (some [{ handle := 7, identifier := "bob" }]),
       .membersChanged .subscribe [] [7] [] [], .membersChanged .subscribe [7] [] [] [],
       .done 0 true, .done 0 true]).map
        fun s => (s.1.calls, s.2 7 .subscribe, s.1.lookup 7)) = some ([], some .current, none)) := by
    decide
  obtain ⟨⟨cl, ro⟩, hs', heq⟩ := Option.map_eq_some_iff.mp hrun
  obtain ⟨hcalls, heq⟩ := Prod.mk.inj heq
  obtain ⟨hro, hlook⟩ := Prod.mk.inj heq
  dsimp only at hcalls hro hlook
  refine ⟨cl, ro, Machine.guarded_of_runChecked (fun _ _ hc => of_decide_eq_true hc) hs',
    tracks_empty 1, noDeferred_of_nil hcalls, hro, hlook, fun ht => ?_⟩
  have := (ht.listed 7).mpr ⟨.subscribe, by rw [hro]; rfl⟩
  rw [hlook] at this; cases this

end Cl

end EdsTelepathy
