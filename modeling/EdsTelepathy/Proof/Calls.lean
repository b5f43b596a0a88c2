import EdsTelepathy.Proof.Details
import Mathlib.Data.List.Perm.Basic

/-!
# Callbacks owed by the contact list layer

A reply takes one call off the list and its callback may make another. For the walk over
the lists this is a matter of counting: a step of the walk either makes the next call of
the walk or ends it by running the callback of `get_members`, never both and never
neither, and no other step touches it.
-/

namespace EdsTelepathy

/-- The calls of the walk that `get_members` starts. -/
def Call.isWalk : Call → Bool
  | .getAllMembers _ _ => true
  | .getContacts => true
  | _ => false

/-- The callback of `get_members`. -/
def Signal.isDone : Signal → Bool
  | .getMembersDone _ => true
  | _ => false

namespace Cl

/-- How many callbacks of `get_members` are owed. -/
def owed (cl : Cl) : Nat := cl.calls.countP fun p => p.2.isWalk

/-- How many callbacks of `get_members` have run. -/
def dones (signals : List Signal) : Nat := signals.countP Signal.isDone

/-! ## Which callback an event runs -/

/-- The callback that an event runs, on the state the call has been taken from. -/
inductive Callback (cl : Cl) : Event → Cl × List Signal → Prop where
  | connection (conn : Option Nat) :
      Callback cl (.connectionStatusChanged conn) (cl.connectionStatusChangedCb conn)
  | members (l : ListId) (added removed lp rp : List Nat) :
      Callback cl (.membersChanged l added removed lp rp)
        (cl.tpChannelMembersChangedCb l added removed lp rp, [])
  | report (d : Details) : Callback cl (.details d) (cl.detailsCb d)
  | connectionReady {i : Nat} {cl₁ : Cl} (ok : Bool) :
      cl.takeCall i = some (.connectionReady, cl₁) →
      Callback cl (.done i ok) (cl₁.tpConnectionReadyCb ok, [])
  | requestHandles {i : Nat} {l : ListId} {cl₁ : Cl} (ok : Bool) :
      cl.takeCall i = some (.requestHandles l, cl₁) →
      Callback cl (.done i ok) (cl₁.requestHandlesForContactListCb l ok, [])
  | requestChannel {i : Nat} {l : ListId} {cl₁ : Cl} (ok : Bool) :
      cl.takeCall i = some (.requestChannel l, cl₁) →
      Callback cl (.done i ok) (cl₁.tpRequestChannelCb l ok, [])
  | channelReady {i : Nat} {l : ListId} {cl₁ : Cl} (ok : Bool) :
      cl.takeCall i = some (.channelReady l, cl₁) →
      Callback cl (.done i ok) (cl₁.tpChannelReadyCb l ok)
  | idle {i : Nat} {k : MembersChangedClosure} {cl₁ : Cl} (ok : Bool) :
      cl.takeCall i = some (.handleMembersChangedIdle k, cl₁) →
      Callback cl (.done i ok) (cl₁.handleMembersChangedIdleCb k)
  | allMembers {i : Nat} {l : ListId} {rest : List ListId} {cl₁ : Cl} (reply : Option AllMembers) :
      cl.takeCall i = some (.getAllMembers l rest, cl₁) →
      Callback cl (.allMembers i reply) (cl₁.channelGetAllMembersCb l rest reply)
  | getContacts {i : Nat} {cl₁ : Cl} (reply : Option (List TpContact)) :
      cl.takeCall i = some (.getContacts, cl₁) →
      Callback cl (.contacts i reply) (cl₁.getContactsCb reply)
  | details {i : Nat} {k : MembersChangedClosure} {cl₁ : Cl} (reply : Option (List TpContact)) :
      cl.takeCall i = some (.membersChangedWithDetails k, cl₁) →
      Callback cl (.contacts i reply) (cl₁.membersChangedWithDetailsCb k reply)

/-- Every step is one of the callbacks. -/
theorem step_callback {cl : Cl} {e : Event} {r : Cl × List Signal} (h : cl.step e = some r) :
    Callback cl e r := by
  cases e with
  | connectionStatusChanged conn => cases h; exact .connection conn
  | membersChanged l added removed lp rp => cases h; exact .members l added removed lp rp
  | details d =>
    have hr : r = cl.detailsCb d := (Option.some.inj h).symm
    exact hr ▸ .report d
  | done i ok =>
    simp only [step] at h
    split at h
    · rename_i ht; cases h; exact .connectionReady ok ht
    · rename_i ht; cases h; exact .requestHandles ok ht
    · rename_i ht; cases h; exact .requestChannel ok ht
    · rename_i ht
      rw [← Option.some.inj h]; exact .channelReady ok ht
    · rename_i ht
      rw [← Option.some.inj h]; exact .idle ok ht
    · cases h
  | allMembers i reply =>
    simp only [step] at h
    split at h
    · rename_i ht
      rw [← Option.some.inj h]; exact .allMembers reply ht
    · cases h
  | contacts i reply =>
    simp only [step] at h
    split at h
    · rename_i ht
      rw [← Option.some.inj h]; exact .getContacts reply ht
    · rename_i ht
      rw [← Option.some.inj h]; exact .details reply ht
    · cases h

/-! ## Making and taking calls -/

theorem owed_call (cl : Cl) (c : Call) :
    (cl.call c).owed = cl.owed + if c.isWalk then 1 else 0 := by
  unfold owed call
  rw [List.countP_append, List.countP_singleton]

/-- Taking a call only takes it off the list. -/
theorem takeCall_eq {cl cl' : Cl} {i : Nat} {c : Call} (h : cl.takeCall i = some (c, cl')) :
    ∃ k, cl.calls[i]? = some (k, c) ∧ cl' = { cl with calls := cl.calls.eraseIdx i } := by
  unfold takeCall at h
  split at h
  · rename_i p hp
    obtain ⟨k, c'⟩ := p
    obtain ⟨rfl, rfl⟩ := Prod.mk.inj (Option.some.inj h)
    exact ⟨k, hp, rfl⟩
  · cases h

theorem takeCall_perm {cl cl' : Cl} {i : Nat} {c : Call} (h : cl.takeCall i = some (c, cl')) :
    ∃ k, cl.calls.Perm ((k, c) :: cl'.calls) := by
  obtain ⟨k, hget, rfl⟩ := takeCall_eq h
  obtain ⟨hi, heq⟩ := List.getElem?_eq_some_iff.mp hget
  have := List.getElem_cons_eraseIdx_perm hi
  rw [heq] at this
  exact ⟨k, this.symm⟩

theorem owed_takeCall {cl cl' : Cl} {i : Nat} {c : Call} (h : cl.takeCall i = some (c, cl')) :
    cl.owed = cl'.owed + if c.isWalk then 1 else 0 := by
  obtain ⟨k, hperm⟩ := takeCall_perm h
  unfold owed
  rw [hperm.countP_eq, List.countP_cons]

/-! ## The walk -/

/-- The walk goes on with a call or ends with its callback. -/
theorem owed_finishGetChannelMembers (cl : Cl) :
    cl.finishGetChannelMembers.1.owed + dones cl.finishGetChannelMembers.2 = cl.owed + 1 := by
  unfold finishGetChannelMembers
  split
  · split
    · rfl
    · exact owed_call cl .getContacts
  · rfl

theorem owed_getNextChannelMembers (cl : Cl) (ls : List ListId) :
    (cl.getNextChannelMembers ls).1.owed + dones (cl.getNextChannelMembers ls).2 = cl.owed + 1 := by
  induction ls with
  | nil =>
    unfold getNextChannelMembers
    split
    · exact owed_finishGetChannelMembers cl
    · rfl
  | cons l rest ih =>
    unfold getNextChannelMembers
    split
    · split
      · exact owed_call cl (.getAllMembers l rest)
      · exact ih
    · rfl

/-- Only calls are made by going on with the walk. -/
theorem getNextChannelMembers_eq (cl : Cl) (ls : List ListId) :
    ∃ calls, (cl.getNextChannelMembers ls).1 = { cl with calls := calls } := by
  induction ls with
  | nil =>
    unfold getNextChannelMembers finishGetChannelMembers
    split
    · split
      · exact ⟨_, rfl⟩
      · exact ⟨_, rfl⟩
    · exact ⟨_, rfl⟩
  | cons l rest ih =>
    unfold getNextChannelMembers
    split
    · split
      · exact ⟨_, rfl⟩
      · exact ih
    · exact ⟨_, rfl⟩

theorem getMembers_eq (cl : Cl) : ∃ calls, cl.getMembers.1 = { cl with calls := calls } := by
  unfold getMembers
  split
  · exact getNextChannelMembers_eq cl _
  · exact ⟨_, rfl⟩

/-- The walk ends with nothing but its callback, and while connected never with an error. -/
theorem getNextChannelMembers_signals (cl : Cl) (ls : List ListId) :
    (cl.getNextChannelMembers ls).2 = []
      ∨ ∃ result, (cl.getNextChannelMembers ls).2 = [.getMembersDone result]
          ∧ (cl.isConnected = true → result = some []) := by
  induction ls with
  | nil =>
    unfold getNextChannelMembers finishGetChannelMembers
    by_cases hc : cl.isConnected = true
    · rw [if_pos hc, if_pos hc]
      split
      · exact .inr ⟨_, rfl, fun _ => rfl⟩
      · exact .inl rfl
    · rw [if_neg hc]
      exact .inr ⟨_, rfl, fun h => absurd h hc⟩
  | cons l rest ih =>
    unfold getNextChannelMembers
    by_cases hc : cl.isConnected = true
    · rw [if_pos hc]
      split
      · exact .inl rfl
      · exact ih
    · rw [if_neg hc]
      exact .inr ⟨_, rfl, fun h => absurd h hc⟩

/-- A walk that ends at once has nobody to report. -/
theorem getNextChannelMembers_done {cl : Cl} {ls : List ListId} {cs : List Contact}
    (h : .getMembersDone (some cs) ∈ (cl.getNextChannelMembers ls).2) : cs = [] := by
  induction ls with
  | nil =>
    unfold getNextChannelMembers finishGetChannelMembers at h
    split at h
    · split at h
      · simpa using h
      · simp at h
    · simp at h
  | cons l rest ih =>
    unfold getNextChannelMembers at h
    split at h
    · split at h
      · simp at h
      · exact ih h
    · simp at h

theorem getMembers_done {cl : Cl} {cs : List Contact}
    (h : .getMembersDone (some cs) ∈ cl.getMembers.2) : cs = [] := by
  unfold getMembers at h
  split at h
  · exact getNextChannelMembers_done h
  · cases h

theorem owed_getMembers {cl : Cl} (h : cl.status = .online) :
    cl.getMembers.1.owed + dones cl.getMembers.2 = cl.owed + 1 := by
  unfold getMembers
  rw [h]
  exact owed_getNextChannelMembers cl _

/-! ## Steps that do not touch the walk -/

/-- `cl'` differs from `cl` in the contact objects and the hash table only. -/
def RosterOnly (cl cl' : Cl) : Prop :=
  ∃ contacts next hash, cl' = { cl with contacts := contacts, next := next, contactsHash := hash }

theorem RosterOnly.refl (cl : Cl) : RosterOnly cl cl :=
  ⟨cl.contacts, cl.next, cl.contactsHash, rfl⟩

theorem RosterOnly.trans {cl cl' cl'' : Cl} (h : RosterOnly cl cl') (h' : RosterOnly cl' cl'') :
    RosterOnly cl cl'' := by
  obtain ⟨_, _, _, rfl⟩ := h
  obtain ⟨contacts, next, hash, rfl⟩ := h'
  exact ⟨contacts, next, hash, rfl⟩

theorem RosterOnly.owed {cl cl' : Cl} (h : RosterOnly cl cl') : cl'.owed = cl.owed := by
  obtain ⟨_, _, _, rfl⟩ := h; rfl

theorem RosterOnly.isConnected {cl cl' : Cl} (h : RosterOnly cl cl') :
    cl'.isConnected = cl.isConnected := by
  obtain ⟨_, _, _, rfl⟩ := h; rfl

theorem rosterOnly_foldl {α : Type} {f : Cl → α → Cl} (hf : ∀ cl a, RosterOnly cl (f cl a))
    (cl : Cl) (xs : List α) : RosterOnly cl (xs.foldl f cl) :=
  foldl_inv (fun s x h => RosterOnly.trans h (hf s x)) xs (.refl cl)

theorem rosterOnly_foldl_fst {α β : Type} {f : Cl × β → α → Cl × β}
    (hf : ∀ st a, RosterOnly st.1 (f st a).1) (st : Cl × β) (xs : List α) :
    RosterOnly st.1 (xs.foldl f st).1 :=
  foldl_inv (I := fun s : Cl × β => RosterOnly st.1 s.1)
    (fun s x h => RosterOnly.trans h (hf s x)) xs (.refl st.1)

theorem rosterOnly_memberListed (flag : Flags) (cl : Cl) (h : Nat) :
    RosterOnly cl (memberListed flag cl h) := by
  unfold memberListed
  split
  · exact ⟨_, cl.next, cl.contactsHash, rfl⟩
  · exact ⟨_, _, _, rfl⟩

theorem rosterOnly_memberSet (l : ListId) (s : Standing) (st : Cl × MembersChangedClosure)
    (h : Nat) : RosterOnly st.1 (memberSet l s st h).1 := by
  unfold memberSet
  split
  · exact ⟨_, st.1.next, st.1.contactsHash, rfl⟩
  · exact ⟨_, _, st.1.contactsHash, rfl⟩

theorem rosterOnly_memberRemoved (l : ListId) (st : Cl × MembersChangedClosure) (h : Nat) :
    RosterOnly st.1 (memberRemoved l st h).1 := by
  unfold memberRemoved
  split
  · dsimp only
    split
    · exact ⟨_, st.1.next, st.1.contactsHash, rfl⟩
    · exact ⟨_, st.1.next, st.1.contactsHash, rfl⟩
  · exact .refl st.1

theorem rosterOnly_updateContactDetails (cl : Cl) (tps : List TpContact) :
    RosterOnly cl (cl.updateContactDetails tps).1 := by
  refine rosterOnly_foldl_fst (fun st tp => ?_) (cl, []) tps
  unfold updateContactDetail
  split
  · exact .refl st.1
  · exact ⟨_, st.1.next, st.1.contactsHash, rfl⟩

theorem rosterOnly_updateChangedMembers (cl : Cl) (k : MembersChangedClosure)
    (updated : List Nat) : RosterOnly cl (cl.updateChangedMembers k updated).1 :=
  ⟨cl.contacts, cl.next, _, rfl⟩

/-- The signal handler changes the roster and leaves one closure behind. -/
theorem membersChanged_call (cl : Cl) (l : ListId) (added removed lp rp : List Nat) :
    cl.tpChannelMembersChangedCb l added removed lp rp = cl
      ∨ ∃ cl₁ c, RosterOnly cl cl₁ ∧ c.isWalk = false
          ∧ cl.tpChannelMembersChangedCb l added removed lp rp = cl₁.call c := by
  unfold tpChannelMembersChangedCb
  by_cases hc : cl.isConnected = true
  · rw [if_pos hc]
    have hroster := (((rosterOnly_foldl_fst (rosterOnly_memberSet l .current) (cl, {}) added).trans
      (rosterOnly_foldl_fst (rosterOnly_memberRemoved l) _ removed)).trans
        (rosterOnly_foldl_fst (rosterOnly_memberSet l .localPending) _ lp)).trans
          (rosterOnly_foldl_fst (rosterOnly_memberSet l .remotePending) _ rp)
    have henter : ∀ st : Cl × MembersChangedClosure, RosterOnly st.1 (st.1.enterAdded st.2.contactsToAdd) :=
      fun st => ⟨st.1.contacts, st.1.next, _, rfl⟩
    dsimp only
    split
    · exact .inr ⟨_, _, hroster.trans (henter _), rfl, rfl⟩
    · exact .inr ⟨_, _, hroster.trans (henter _), rfl, rfl⟩
  · rw [if_neg hc]
    exact .inl rfl

theorem dones_emit (cl : Cl) (rs : List Nat) (sig : List Contact → Signal)
    (h : ∀ cs, (sig cs).isDone = false) : dones (cl.emit rs sig) = 0 := by
  unfold emit dones
  split
  · rfl
  · rw [List.countP_singleton, h]; rfl

theorem dones_append (a b : List Signal) : dones (a ++ b) = dones a + dones b :=
  List.countP_append

theorem dones_updateChangedMembers (cl : Cl) (k : MembersChangedClosure) (updated : List Nat) :
    dones (cl.updateChangedMembers k updated).2 = 0 := by
  unfold updateChangedMembers
  simp only [dones_append]
  rw [dones_emit cl _ .contactsAdded fun _ => rfl, dones_emit cl _ .contactsRemoved fun _ => rfl,
    dones_emit cl _ .flagsChanged fun _ => rfl, dones_emit _ _ .aliasesChanged fun _ => rfl,
    dones_emit _ _ .avatarTokensChanged fun _ => rfl, dones_emit _ _ .presencesChanged fun _ => rfl]

theorem owed_membersChanged (cl : Cl) (l : ListId) (added removed lp rp : List Nat) :
    (cl.tpChannelMembersChangedCb l added removed lp rp).owed = cl.owed := by
  rcases membersChanged_call cl l added removed lp rp with h | ⟨cl₁, c, hr, hw, h⟩
  · rw [h]
  · rw [h, owed_call, hw, hr.owed]; rfl

theorem owed_getContactListChannels (cl : Cl) : cl.getContactListChannels.owed = cl.owed :=
  foldl_inv (I := fun c : Cl => c.owed = cl.owed)
    (fun c l h => by rw [owed_call]; exact h) _ rfl

/-! ## What a step does to the walk -/

/-- The event answers a call of the walk, and the walk fails: an error, or no connection left. -/
def abandonsWalk (cl : Cl) : Event → Prop
  | .allMembers _ reply => reply = none ∨ cl.isConnected = false
  | .contacts i reply =>
    (∃ k, cl.calls[i]? = some (k, .getContacts)) ∧ (reply = none ∨ cl.isConnected = false)
  | _ => False

/--
The signals of a step end the walk at most once, with the first of them, and with an
error exactly where the walk is abandoned.
-/
inductive WalkEnd (cl : Cl) (abandoned : Prop) (cl' : Cl) : List Signal → Prop where
  | goesOn {signals : List Signal} :
      ¬ abandoned → dones signals = 0 → cl'.owed = cl.owed → WalkEnd cl abandoned cl' signals
  | ends {result : Option (List Contact)} {rest : List Signal} :
      (result = none ↔ abandoned) → dones rest = 0 → (∀ s, .statusChanged s ∉ rest) →
      cl'.owed + 1 = cl.owed → WalkEnd cl abandoned cl' (.getMembersDone result :: rest)

theorem dones_setStatus (cl : Cl) (s : ClStatus) : dones (cl.setStatus s).2 = 0 := by
  unfold setStatus goOffline
  split
  · rfl
  · split
    · rfl
    · dsimp only
      split <;> rfl

theorem owed_setStatus (cl : Cl) (s : ClStatus) : (cl.setStatus s).1.owed = cl.owed := by
  unfold setStatus
  split
  · rfl
  · split <;> rfl

theorem walk_connectionStatusChanged (cl : Cl) (conn : Option Nat) :
    WalkEnd cl False (cl.connectionStatusChangedCb conn).1 (cl.connectionStatusChangedCb conn).2 := by
  unfold connectionStatusChangedCb
  cases conn with
  | some c =>
    refine .goesOn not_false rfl ?_
    dsimp only
    unfold setupTpConnection
    split
    · rfl
    · exact owed_call { cl with conn := some c } .connectionReady
  | none => exact .goesOn not_false (dones_setStatus cl .offline) (owed_setStatus cl .offline)

/-- Taking a call that is not part of the walk leaves the walk as it is. -/
theorem owed_takeOther {cl cl₁ : Cl} {i : Nat} {c : Call} (htake : cl.takeCall i = some (c, cl₁))
    (hc : c.isWalk = false) : cl₁.owed = cl.owed := by
  rw [owed_takeCall htake, hc]; rfl

/-- The reply to `GetAllMembers`. -/
theorem walk_allMembers {cl cl₁ : Cl} {i : Nat} {l : ListId} {rest : List ListId}
    (htake : cl.takeCall i = some (.getAllMembers l rest, cl₁)) (reply : Option AllMembers) :
    WalkEnd cl (reply = none ∨ cl.isConnected = false) (cl₁.channelGetAllMembersCb l rest reply).1
      (cl₁.channelGetAllMembersCb l rest reply).2 := by
  have howed : cl₁.owed + 1 = cl.owed := (owed_takeCall htake).symm
  obtain ⟨k, -, heq⟩ := takeCall_eq htake
  have hconn : cl₁.isConnected = cl.isConnected := by rw [heq]; rfl
  unfold channelGetAllMembersCb
  cases reply with
  | none => exact .ends (by simp) rfl (by simp) howed
  | some m =>
    dsimp only
    by_cases hc : cl₁.isConnected = true
    · rw [if_pos hc]
      have hgood : ¬ (some m = none ∨ cl.isConnected = false) := by
        rw [← hconn, hc]; simp
      have hroster := ((rosterOnly_foldl (rosterOnly_memberListed (l.flag .current)) cl₁
        m.current).trans (rosterOnly_foldl (rosterOnly_memberListed (l.flag .localPending)) _
          m.localPending)).trans (rosterOnly_foldl (rosterOnly_memberListed (l.flag .remotePending))
            _ m.remotePending)
      generalize m.remotePending.foldl (memberListed (l.flag .remotePending)) _ = cl₂ at hroster ⊢
      have hnext := owed_getNextChannelMembers cl₂ rest
      rw [hroster.owed] at hnext
      rcases getNextChannelMembers_signals cl₂ rest with hs | ⟨result, hs, hres⟩
      · rw [hs] at hnext ⊢
        exact .goesOn hgood rfl (by rw [← howed]; exact hnext)
      · rw [hs] at hnext ⊢
        have hsome := hres (hroster.isConnected.trans hc)
        have hone : dones [Signal.getMembersDone result] = 1 := rfl
        refine .ends ?_ rfl (by simp) (by omega)
        rw [hsome]
        exact ⟨(by simp), fun h => absurd h hgood⟩
    · rw [if_neg hc]
      have hbad : cl.isConnected = false := by rw [← hconn]; simpa using hc
      exact .ends (by simp [hbad]) rfl (by simp) howed

/-- The reply to the inspection of all members. -/
theorem walk_contacts {cl cl₁ : Cl} {i : Nat} (htake : cl.takeCall i = some (.getContacts, cl₁))
    (reply : Option (List TpContact)) :
    WalkEnd cl ((∃ k, cl.calls[i]? = some (k, .getContacts))
        ∧ (reply = none ∨ cl.isConnected = false))
      (cl₁.getContactsCb reply).1 (cl₁.getContactsCb reply).2 := by
  have howed : cl₁.owed + 1 = cl.owed := (owed_takeCall htake).symm
  obtain ⟨k, hget, heq⟩ := takeCall_eq htake
  have hconn : cl₁.isConnected = cl.isConnected := by rw [heq]; rfl
  unfold getContactsCb
  cases reply with
  | none => exact .ends (by simp [hget]) rfl (by simp) howed
  | some tps =>
    dsimp only
    by_cases hc : cl₁.isConnected = true
    · rw [if_pos hc]
      have hgood : cl.isConnected = true := hconn.symm.trans hc
      have ho := (rosterOnly_updateContactDetails cl₁ tps).owed
      split
      · exact .ends (by simp [hgood]) rfl (by simp) (by rw [ho]; exact howed)
      · exact .ends (by simp [hgood]) rfl (by simp) (by rw [ho]; exact howed)
    · rw [if_neg hc]
      have hbad : cl.isConnected = false := by rw [← hconn]; simpa using hc
      exact .ends (by simp [hget, hbad]) rfl (by simp) howed

/-- The callbacks that set the connection and its channels up. -/
theorem walk_setup {cl cl₁ : Cl} {i : Nat} {l : ListId} {c : Call} (ok : Bool)
    (htake : cl.takeCall i = some (c, cl₁)) (hc : c.isWalk = false) :
    WalkEnd cl False (cl₁.tpConnectionReadyCb ok) []
      ∧ WalkEnd cl False (cl₁.requestHandlesForContactListCb l ok) []
      ∧ WalkEnd cl False (cl₁.tpRequestChannelCb l ok) []
      ∧ WalkEnd cl False (cl₁.tpChannelReadyCb l ok).1 (cl₁.tpChannelReadyCb l ok).2 := by
  have howed : ∀ cl' : Cl, cl'.owed = cl₁.owed → cl'.owed = cl.owed :=
    fun cl' h => h.trans (owed_takeOther htake hc)
  refine ⟨.goesOn not_false rfl (howed _ ?_), .goesOn not_false rfl (howed _ ?_), .goesOn not_false rfl (howed _ ?_), ?_⟩
  · unfold tpConnectionReadyCb
    split
    · exact owed_getContactListChannels cl₁
    · rfl
  · unfold requestHandlesForContactListCb
    split
    · exact owed_call cl₁ _
    · rfl
  · unfold tpRequestChannelCb
    split
    · exact owed_call { cl₁ with channels := _ } _
    · rfl
  · unfold tpChannelReadyCb
    split
    · split
      · exact .goesOn not_false (dones_setStatus cl₁ .online) (howed _ (owed_setStatus cl₁ .online))
      · exact .goesOn not_false rfl (howed _ rfl)
    · exact .goesOn not_false rfl (howed _ rfl)

/-- The deferred halves of `MembersChanged`. -/
theorem walk_deferred {cl cl₁ : Cl} {i : Nat} {c : Call} (k : MembersChangedClosure)
    (reply : Option (List TpContact)) (htake : cl.takeCall i = some (c, cl₁))
    (hc : c.isWalk = false) :
    WalkEnd cl False (cl₁.handleMembersChangedIdleCb k).1 (cl₁.handleMembersChangedIdleCb k).2
      ∧ WalkEnd cl False (cl₁.membersChangedWithDetailsCb k reply).1
          (cl₁.membersChangedWithDetailsCb k reply).2 := by
  have howed : ∀ cl' : Cl, cl'.owed = cl₁.owed → cl'.owed = cl.owed :=
    fun cl' h => h.trans (owed_takeOther htake hc)
  constructor
  · unfold handleMembersChangedIdleCb
    split
    · exact .goesOn not_false (dones_updateChangedMembers _ _ _)
        (howed _ (rosterOnly_updateChangedMembers cl₁ k []).owed)
    · exact .goesOn not_false rfl (howed _ rfl)
  · unfold membersChangedWithDetailsCb
    cases reply with
    | none => exact .goesOn not_false rfl (howed _ rfl)
    | some tps =>
      dsimp only
      split
      · exact .goesOn not_false (dones_updateChangedMembers _ _ _) (howed _
          ((rosterOnly_updateContactDetails cl₁ tps).trans
            (rosterOnly_updateChangedMembers _ _ _)).owed)
      · exact .goesOn not_false rfl (howed _ rfl)

theorem DetailsOnly.rosterOnly {cl cl' : Cl} (h : DetailsOnly cl cl') : RosterOnly cl cl' := by
  obtain ⟨heap, rfl, -⟩ := h
  exact ⟨heap, cl.next, cl.contactsHash, rfl⟩

theorem ReportEnd.dones {cl : Cl} {r : Cl × List Signal} (h : ReportEnd cl r) : dones r.2 = 0 := by
  unfold Cl.dones
  rw [List.countP_eq_zero]
  intro s hs hdone
  have hdetail := (h.signals s hs).1
  cases s with
  | getMembersDone result => cases hdetail
  | _ => cases hdone

/-- **A step of the layer goes on with the walk or ends it.** -/
theorem walk_step {cl cl' : Cl} {e : Event} {signals : List Signal}
    (h : cl.step e = some (cl', signals)) : WalkEnd cl (cl.abandonsWalk e) cl' signals := by
  have hcb := step_callback h
  generalize hr : (cl', signals) = r at hcb
  have hend : WalkEnd cl (cl.abandonsWalk e) r.1 r.2 := by
    cases hcb with
    | connection conn => exact walk_connectionStatusChanged cl conn
    | members l added removed lp rp =>
      exact .goesOn not_false rfl (owed_membersChanged cl l added removed lp rp)
    | report d =>
      have hrep := detailsCb_reported cl d
      exact .goesOn not_false hrep.dones hrep.only.rosterOnly.owed
    | connectionReady ok ht => exact (walk_setup (l := .subscribe) ok ht rfl).1
    | requestHandles ok ht => exact (walk_setup ok ht rfl).2.1
    | requestChannel ok ht => exact (walk_setup ok ht rfl).2.2.1
    | channelReady ok ht => exact (walk_setup ok ht rfl).2.2.2
    | idle ok ht => exact (walk_deferred _ none ht rfl).1
    | allMembers reply ht => exact walk_allMembers ht reply
    | getContacts reply ht => exact walk_contacts ht reply
    | @details i k cl₁ reply ht =>
      -- the call that is answered is not the one of the walk
      have hother : cl.abandonsWalk (.contacts i reply) = False := by
        obtain ⟨_, hget, -⟩ := takeCall_eq ht
        simp [abandonsWalk, hget]
      rw [hother]
      exact (walk_deferred _ reply ht rfl).2
  rw [← hr] at hend
  exact hend

/-! ## What a step does to the status -/

/-- Being online means being connected. -/
def Linked (cl : Cl) : Prop := cl.status = .online → cl.isConnected = true

/-- The signals of a step, as far as they are about the status. -/
inductive StatusEnd (cl cl' : Cl) : List Signal → Prop where
  | same {signals : List Signal} : (∀ x, .statusChanged x ∉ signals) → cl'.status = cl.status →
      StatusEnd cl cl' signals
  | online : cl.status = .offline → cl'.status = .online → cl'.owed = cl.owed →
      StatusEnd cl cl' [.statusChanged .online]
  | offline {signals : List Signal} : (∀ x, .statusChanged x ∉ signals) → dones signals = 0 →
      cl.status = .online → cl'.status = .offline →
      StatusEnd cl cl' (signals ++ [.statusChanged .offline])

theorem statusChanged_notMem_emit (cl : Cl) (rs : List Nat) (sig : List Contact → Signal)
    (h : ∀ cs x, sig cs ≠ .statusChanged x) (x : ClStatus) : .statusChanged x ∉ cl.emit rs sig := by
  unfold emit
  split
  · exact List.not_mem_nil
  · rw [List.mem_singleton]
    exact fun he => h _ x he.symm

theorem statusChanged_notMem_updateChangedMembers (cl : Cl) (k : MembersChangedClosure)
    (updated : List Nat) (x : ClStatus) :
    .statusChanged x ∉ (cl.updateChangedMembers k updated).2 := by
  have hemit : ∀ (cl : Cl) rs sig, (∀ cs x, sig cs ≠ Signal.statusChanged x) →
      .statusChanged x ∉ cl.emit rs sig := fun cl rs sig h =>
    statusChanged_notMem_emit cl rs sig h x
  unfold updateChangedMembers
  simp only [List.mem_append, not_or]
  exact ⟨⟨⟨⟨⟨hemit _ _ _ (by simp), hemit _ _ _ (by simp)⟩, hemit _ _ _ (by simp)⟩,
    hemit _ _ _ (by simp)⟩, hemit _ _ _ (by simp)⟩, hemit _ _ _ (by simp)⟩

/-- Neither the status nor the connection has changed. -/
def SameLink (cl cl' : Cl) : Prop := cl'.status = cl.status ∧ cl'.isConnected = cl.isConnected

theorem SameLink.trans {cl cl' cl'' : Cl} (h : SameLink cl cl') (h' : SameLink cl' cl'') :
    SameLink cl cl'' := ⟨h'.1.trans h.1, h'.2.trans h.2⟩

theorem RosterOnly.sameLink {cl cl' : Cl} (h : RosterOnly cl cl') : SameLink cl cl' := by
  obtain ⟨_, _, _, rfl⟩ := h; exact ⟨rfl, rfl⟩

theorem sameLink_takeCall {cl cl₁ : Cl} {i : Nat} {c : Call}
    (h : cl.takeCall i = some (c, cl₁)) : SameLink cl cl₁ := by
  obtain ⟨k, -, rfl⟩ := takeCall_eq h; exact ⟨rfl, rfl⟩

theorem sameLink_getNextChannelMembers (cl : Cl) (ls : List ListId) :
    SameLink cl (cl.getNextChannelMembers ls).1 := by
  obtain ⟨calls, h⟩ := getNextChannelMembers_eq cl ls
  rw [h]; exact ⟨rfl, rfl⟩

/-- A step that leaves the link alone and says nothing about the status. -/
theorem SameLink.status {cl cl' : Cl} {signals : List Signal} (h : SameLink cl cl')
    (hs : ∀ x, .statusChanged x ∉ signals) (hl : Linked cl) :
    Linked cl' ∧ StatusEnd cl cl' signals := by
  refine ⟨fun hon => ?_, .same hs h.1⟩
  rw [h.2]
  exact hl (h.1.symm.trans hon)

/-- The callbacks of the connection itself. -/
theorem status_connection {cl : Cl} (hl : Linked cl) (conn : Option Nat) :
    Linked (cl.connectionStatusChangedCb conn).1
      ∧ StatusEnd cl (cl.connectionStatusChangedCb conn).1 (cl.connectionStatusChangedCb conn).2 := by
  unfold connectionStatusChangedCb
  cases conn with
  | some c =>
    dsimp only
    unfold setupTpConnection
    split
    · exact ⟨hl, .same (by simp) rfl⟩
    · exact ⟨fun _ => rfl, .same (by simp) rfl⟩
  | none =>
    dsimp only
    unfold setStatus
    by_cases hs : ClStatus.offline = cl.status
    · rw [if_pos hs]
      exact ⟨fun h => absurd (hs.trans h) (by decide), .same (by simp) rfl⟩
    · rw [if_neg hs]
      have hon : cl.status = .online := by
        cases h : cl.status with
        | online => rfl
        | offline => exact absurd h.symm hs
      unfold goOffline
      dsimp only
      refine ⟨fun h => ClStatus.noConfusion h, ?_⟩
      refine .offline ?_ ?_ hon rfl
      · intro x; split <;> simp
      · split <;> rfl

/-- The callback that puts the account online. -/
theorem status_channelReady {cl cl₁ : Cl} {i : Nat} {l : ListId} (ok : Bool) (hl : Linked cl)
    (ht : cl.takeCall i = some (.channelReady l, cl₁)) :
    Linked (cl₁.tpChannelReadyCb l ok).1
      ∧ StatusEnd cl (cl₁.tpChannelReadyCb l ok).1 (cl₁.tpChannelReadyCb l ok).2 := by
  have hsame := sameLink_takeCall ht
  have howed := owed_takeOther ht rfl
  unfold tpChannelReadyCb
  by_cases hc : (ok && cl₁.isConnected) = true
  · rw [if_pos hc]
    split
    · unfold setStatus
      by_cases hs : ClStatus.online = cl₁.status
      · rw [if_pos hs]
        exact hsame.status (by simp) hl
      · rw [if_neg hs]
        have hoff : cl.status = .offline := by
          rw [← hsame.1]
          cases h : cl₁.status with
          | online => exact absurd h.symm hs
          | offline => rfl
        exact ⟨fun _ => (Bool.and_eq_true_iff.mp hc).2, .online hoff rfl howed⟩
    · exact hsame.status (by simp) hl
  · rw [if_neg hc]
    exact hsame.status (by simp) hl

/-- The replies of the walk leave the status alone. -/
theorem sameLink_channelGetAllMembers (cl : Cl) (l : ListId) (rest : List ListId)
    (reply : Option AllMembers) :
    SameLink cl (cl.channelGetAllMembersCb l rest reply).1
      ∧ ∀ x, .statusChanged x ∉ (cl.channelGetAllMembersCb l rest reply).2 := by
  unfold channelGetAllMembersCb
  cases reply with
  | none => exact ⟨⟨rfl, rfl⟩, by simp⟩
  | some m =>
    dsimp only
    split
    · have hroster := ((rosterOnly_foldl (rosterOnly_memberListed (l.flag .current)) cl
        m.current).trans (rosterOnly_foldl (rosterOnly_memberListed (l.flag .localPending)) _
          m.localPending)).trans (rosterOnly_foldl (rosterOnly_memberListed (l.flag .remotePending))
            _ m.remotePending)
      refine ⟨hroster.sameLink.trans (sameLink_getNextChannelMembers _ rest), fun x => ?_⟩
      rcases getNextChannelMembers_signals _ rest with hs | ⟨result, hs, -⟩
      · rw [hs]; exact List.not_mem_nil
      · rw [hs]; simp
    · exact ⟨⟨rfl, rfl⟩, by simp⟩

theorem sameLink_getContacts (cl : Cl) (reply : Option (List TpContact)) :
    SameLink cl (cl.getContactsCb reply).1
      ∧ ∀ x, .statusChanged x ∉ (cl.getContactsCb reply).2 := by
  unfold getContactsCb
  cases reply with
  | none => exact ⟨⟨rfl, rfl⟩, by simp⟩
  | some tps =>
    dsimp only
    split
    · refine ⟨(rosterOnly_updateContactDetails cl tps).sameLink, fun x => ?_⟩
      split <;> simp
    · exact ⟨⟨rfl, rfl⟩, by simp⟩

/-- The deferred halves of `MembersChanged` leave the status alone. -/
theorem sameLink_idle (cl : Cl) (k : MembersChangedClosure) :
    SameLink cl (cl.handleMembersChangedIdleCb k).1
      ∧ ∀ x, .statusChanged x ∉ (cl.handleMembersChangedIdleCb k).2 := by
  unfold handleMembersChangedIdleCb
  split
  · exact ⟨(rosterOnly_updateChangedMembers cl k []).sameLink,
      statusChanged_notMem_updateChangedMembers cl k []⟩
  · exact ⟨⟨rfl, rfl⟩, by simp⟩

theorem sameLink_details (cl : Cl) (k : MembersChangedClosure)
    (reply : Option (List TpContact)) :
    SameLink cl (cl.membersChangedWithDetailsCb k reply).1
      ∧ ∀ x, .statusChanged x ∉ (cl.membersChangedWithDetailsCb k reply).2 := by
  unfold membersChangedWithDetailsCb
  cases reply with
  | none => exact ⟨⟨rfl, rfl⟩, by simp⟩
  | some tps =>
    dsimp only
    split
    · exact ⟨(rosterOnly_updateContactDetails cl tps).sameLink.trans
        (rosterOnly_updateChangedMembers _ _ _).sameLink,
        statusChanged_notMem_updateChangedMembers _ _ _⟩
    · exact ⟨⟨rfl, rfl⟩, by simp⟩

theorem sameLink_membersChanged (cl : Cl) (l : ListId) (added removed lp rp : List Nat) :
    SameLink cl (cl.tpChannelMembersChangedCb l added removed lp rp) := by
  rcases membersChanged_call cl l added removed lp rp with h | ⟨cl₁, c, hr, -, h⟩
  · rw [h]; exact ⟨rfl, rfl⟩
  · rw [h]; exact hr.sameLink

/-- The replies that set the channels up leave the status alone. -/
theorem sameLink_setup (cl : Cl) (l : ListId) (ok : Bool) :
    SameLink cl (cl.tpConnectionReadyCb ok) ∧ SameLink cl (cl.requestHandlesForContactListCb l ok)
      ∧ SameLink cl (cl.tpRequestChannelCb l ok) := by
  refine ⟨?_, ?_, ?_⟩
  · unfold tpConnectionReadyCb
    split
    · exact ⟨rfl, rfl⟩
    · exact ⟨rfl, rfl⟩
  · unfold requestHandlesForContactListCb
    split
    · exact ⟨rfl, rfl⟩
    · exact ⟨rfl, rfl⟩
  · unfold tpRequestChannelCb
    split
    · exact ⟨rfl, rfl⟩
    · exact ⟨rfl, rfl⟩

/-- **A step of the layer that emits a status change has just made it.** -/
theorem status_step {cl cl' : Cl} {e : Event} {signals : List Signal} (hl : Linked cl)
    (h : cl.step e = some (cl', signals)) : Linked cl' ∧ StatusEnd cl cl' signals := by
  have hcb := step_callback h
  generalize hr : (cl', signals) = r at hcb
  have hend : Linked r.1 ∧ StatusEnd cl r.1 r.2 := by
    cases hcb with
    | connection conn => exact status_connection hl conn
    | members l added removed lp rp =>
      exact (sameLink_membersChanged cl l added removed lp rp).status (by simp) hl
    | report d =>
      have hrep := detailsCb_reported cl d
      refine hrep.only.rosterOnly.sameLink.status (fun x hx => ?_) hl
      cases (hrep.signals _ hx).1
    | connectionReady ok ht =>
      exact ((sameLink_takeCall ht).trans (sameLink_setup _ .subscribe ok).1).status (by simp) hl
    | requestHandles ok ht =>
      exact ((sameLink_takeCall ht).trans (sameLink_setup _ _ ok).2.1).status (by simp) hl
    | requestChannel ok ht =>
      exact ((sameLink_takeCall ht).trans (sameLink_setup _ _ ok).2.2).status (by simp) hl
    | channelReady ok ht => exact status_channelReady ok hl ht
    | idle ok ht =>
      exact ((sameLink_takeCall ht).trans (sameLink_idle _ _).1).status (sameLink_idle _ _).2 hl
    | @allMembers i l rest cl₁ reply ht =>
      have hs := sameLink_channelGetAllMembers cl₁ l rest reply
      exact ((sameLink_takeCall ht).trans hs.1).status hs.2 hl
    | @getContacts i cl₁ reply ht =>
      have hs := sameLink_getContacts cl₁ reply
      exact ((sameLink_takeCall ht).trans hs.1).status hs.2 hl
    | @details i k cl₁ reply ht =>
      have hs := sameLink_details cl₁ k reply
      exact ((sameLink_takeCall ht).trans hs.1).status hs.2 hl
  rw [← hr] at hend
  exact hend

/-- A reply of the walk leaves the status alone. -/
theorem status_of_abandonsWalk {cl cl' : Cl} {e : Event} {signals : List Signal}
    (ha : cl.abandonsWalk e) (h : cl.step e = some (cl', signals)) : cl'.status = cl.status := by
  have hcb := step_callback h
  generalize hr : (cl', signals) = r at hcb
  have hend : r.1.status = cl.status := by
    cases hcb with
    | allMembers reply ht =>
      exact ((sameLink_takeCall ht).trans (sameLink_channelGetAllMembers _ _ _ reply).1).1
    | getContacts reply ht =>
      exact ((sameLink_takeCall ht).trans (sameLink_getContacts _ reply).1).1
    | details reply ht =>
      exact ((sameLink_takeCall ht).trans (sameLink_details _ _ reply).1).1
    | connection conn => exact ha.elim
    | members l added removed lp rp => exact ha.elim
    | report d => exact ha.elim
    | connectionReady ok ht => exact ha.elim
    | requestHandles ok ht => exact ha.elim
    | requestChannel ok ht => exact ha.elim
    | channelReady ok ht => exact ha.elim
    | idle ok ht => exact ha.elim
  rw [← hr] at hend
  exact hend

end Cl

end EdsTelepathy
