import EdsTelepathy.Lib.Rest
import EdsTelepathy.Proof.Pending
import EdsTelepathy.Proof.Token
import Mathlib.Data.Prod.Lex

/-!
# The backend comes to rest

A reply may make the next call, a phase queues the next one, and the end of a synchronisation may
start another. None of that goes on for ever: every call is paid for by the one it follows, a
synchronisation by the reload that was asked for, and a piece of phase 3 by what is left of its
snapshot. `burden` is the price of what is owed, and `rank` adds the running phase 3 and the idle
sources, which cost nothing else.

So a backend that is left alone by the account, the roster and its clients comes to rest, whatever
the replies are. What it has then is read off the invariants of the token and of the changed
contacts.
-/

namespace EdsTelepathy

/-! ## The price of a call -/

/-- What a call can still lead to. -/
def Call.weight : Call → Nat
  | .connectionReady => 61
  | .requestHandles _ => 12
  | .requestChannel _ => 11
  | .channelReady _ => 10
  | .getAllMembers _ rest => rest.length + 4
  | .getContacts => 3
  | .membersChangedWithDetails _ => 1
  | .handleMembersChangedIdle _ => 1

/-- What the handler of a signal can add: a synchronisation, or phase 2 of one. -/
def Signal.cost : Signal → Nat
  | .statusChanged .online => 9
  | .getMembersDone (some _) => 2
  | _ => 0

/-- The event answers a call, or runs an idle source. -/
def Cl.Event.Answers : Cl.Event → Prop
  | .done _ _ => True
  | .allMembers _ _ => True
  | .contacts _ _ => True
  | _ => False

/-- The event is no error and does not take the connection away. -/
def Cl.Event.Succeeds : Cl.Event → Prop
  | .connectionStatusChanged conn => conn ≠ none
  | .done _ ok => ok = true
  | .allMembers _ reply => reply ≠ none
  | .contacts _ reply => reply ≠ none
  | _ => True

namespace Cl

/-- The price of the calls that are owed. -/
def burden (cl : Cl) : Nat := (cl.calls.map fun p => p.2.weight).sum

/-- What the handlers of some signals can add. -/
def costs (signals : List Signal) : Nat := (signals.map Signal.cost).sum

theorem costs_append (a b : List Signal) : costs (a ++ b) = costs a + costs b := by
  unfold costs
  rw [List.map_append, List.sum_append]

theorem burden_call (cl : Cl) (c : Call) : (cl.call c).burden = cl.burden + c.weight := by
  unfold burden call
  rw [List.map_append, List.sum_append]
  rfl

theorem burden_takeCall {cl cl' : Cl} {i : Nat} {c : Call} (h : cl.takeCall i = some (c, cl')) :
    cl.burden = cl'.burden + c.weight := by
  obtain ⟨k, hperm⟩ := takeCall_perm h
  unfold burden
  rw [(hperm.map fun p : Nat × Call => p.2.weight).sum_nat, List.map_cons, List.sum_cons,
    Nat.add_comm]

theorem RosterOnly.burden {cl cl' : Cl} (h : RosterOnly cl cl') : cl'.burden = cl.burden := by
  obtain ⟨_, _, _, rfl⟩ := h; rfl

theorem costs_emit {cl : Cl} {rs : List Nat} {sig : List Contact → Signal}
    (h : ∀ cs, (sig cs).cost = 0) : costs (cl.emit rs sig) = 0 := by
  unfold emit costs
  split
  · rfl
  · simp [h]

theorem costs_updateChangedMembers (cl : Cl) (k : MembersChangedClosure) (updated : List Nat) :
    costs (cl.updateChangedMembers k updated).2 = 0 := by
  unfold updateChangedMembers
  dsimp only
  rw [costs_append, costs_append, costs_append, costs_append, costs_append,
    costs_emit fun _ => rfl, costs_emit fun _ => rfl, costs_emit fun _ => rfl,
    costs_emit fun _ => rfl, costs_emit fun _ => rfl, costs_emit fun _ => rfl]

/-- The walk goes on with a shorter rest, or it ends. -/
theorem burden_getNextChannelMembers (cl : Cl) (ls : List ListId) :
    (cl.getNextChannelMembers ls).1.burden + costs (cl.getNextChannelMembers ls).2
      ≤ cl.burden + (ls.length + 3) := by
  induction ls with
  | nil =>
    unfold getNextChannelMembers finishGetChannelMembers
    split
    · split
      · simp [costs, Signal.cost]
      · rw [burden_call]
        simp [costs, Call.weight]
    · simp [costs, Signal.cost]
  | cons l rest ih =>
    unfold getNextChannelMembers
    split
    · split
      · rw [burden_call]
        simp only [costs, Call.weight, List.map_nil, List.sum_nil, List.length_cons]
        omega
      · rw [List.length_cons]
        omega
    · simp [costs, Signal.cost]

theorem burden_getMembers (cl : Cl) :
    cl.getMembers.1.burden + costs cl.getMembers.2 ≤ cl.burden + 8 := by
  unfold getMembers
  split
  · exact burden_getNextChannelMembers cl ListId.all
  · exact Nat.le_add_right ..

theorem burden_setStatus_online (cl : Cl) :
    (cl.setStatus .online).1.burden + costs (cl.setStatus .online).2 ≤ cl.burden + 9 := by
  unfold setStatus
  split
  · exact Nat.le_add_right ..
  · exact Nat.le_refl _

theorem burden_getContactListChannels (cl : Cl) :
    cl.getContactListChannels.burden = cl.burden + 60 := by
  unfold getContactListChannels
  simp only [List.foldl_cons, List.foldl_nil, burden_call, Call.weight]

/-- The calls that bring the lists up. -/
theorem burden_setup {cl cl₁ : Cl} {i : Nat} {c : Call} {r : Cl × List Signal}
    (htake : cl.takeCall i = some (c, cl₁)) (h : r.1.burden + costs r.2 < cl₁.burden + c.weight) :
    r.1.burden + costs r.2 < cl.burden := by
  rw [burden_takeCall htake]
  exact h

/-- **What answers a call costs less than the call.** -/
theorem burden_step {cl cl' : Cl} {e : Event} {signals : List Signal}
    (h : cl.step e = some (cl', signals)) (he : e.Answers) :
    cl'.burden + costs signals < cl.burden := by
  have hcb := step_callback h
  generalize hr : (cl', signals) = r at hcb
  have hlt : r.1.burden + costs r.2 < cl.burden := by
    cases hcb with
    | connection conn => exact he.elim
    | members l added removed lp rp => exact he.elim
    | report d => exact he.elim
    | connectionReady ok ht =>
      refine burden_setup ht ?_
      unfold tpConnectionReadyCb
      dsimp only
      split
      · rw [burden_getContactListChannels]
        simp [costs, Call.weight]
      · simp [costs, Call.weight]
    | requestHandles ok ht =>
      refine burden_setup ht ?_
      unfold requestHandlesForContactListCb
      dsimp only
      split
      · rw [burden_call]
        simp [costs, Call.weight]
      · simp [costs, Call.weight]
    | requestChannel ok ht =>
      refine burden_setup ht ?_
      unfold tpRequestChannelCb
      dsimp only
      split
      · rw [burden_call]
        simp [costs, Call.weight, burden]
      · simp [costs, Call.weight]
    | @channelReady i l cl₁ ok ht =>
      refine burden_setup ht ?_
      have hset := burden_setStatus_online cl₁
      unfold tpChannelReadyCb
      split
      · split
        · exact Nat.lt_of_le_of_lt hset (Nat.lt_succ_self _)
        · simp [costs, Call.weight]
      · simp [costs, Call.weight]
    | @idle i k cl₁ ok ht =>
      refine burden_setup ht ?_
      unfold handleMembersChangedIdleCb
      split
      · rw [costs_updateChangedMembers, (rosterOnly_updateChangedMembers cl₁ k []).burden]
        simp [Call.weight]
      · simp [costs, Call.weight]
    | @allMembers i l rest cl₁ reply ht =>
      refine burden_setup ht ?_
      have hlisted : ∀ (flag : Flags) (cl : Cl) (hs : List Nat),
          (hs.foldl (memberListed flag) cl).burden = cl.burden := fun flag cl hs =>
        (rosterOnly_foldl (rosterOnly_memberListed flag) cl hs).burden
      unfold channelGetAllMembersCb
      cases reply with
      | none => simp [costs, Signal.cost, Call.weight]
      | some m =>
        dsimp only
        split
        · refine Nat.lt_of_le_of_lt (burden_getNextChannelMembers _ rest) ?_
          rw [hlisted, hlisted, hlisted, Call.weight]
          omega
        · simp [costs, Signal.cost, Call.weight]
    | @getContacts i cl₁ reply ht =>
      refine burden_setup ht ?_
      unfold getContactsCb
      cases reply with
      | none => simp [costs, Signal.cost, Call.weight]
      | some tps =>
        dsimp only
        split
        · have hb : (cl₁.updateContactDetails tps).1.burden = cl₁.burden :=
            (rosterOnly_updateContactDetails cl₁ tps).burden
          dsimp only
          rw [hb]
          split <;> simp [costs, Signal.cost, Call.weight]
        · simp [costs, Signal.cost, Call.weight]
    | @details i k cl₁ reply ht =>
      refine burden_setup ht ?_
      unfold membersChangedWithDetailsCb
      cases reply with
      | none => simp [costs, Call.weight]
      | some tps =>
        dsimp only
        split
        · rw [costs_updateChangedMembers, ((rosterOnly_updateContactDetails cl₁ tps).trans
            (rosterOnly_updateChangedMembers _ _ _)).burden]
          simp [Call.weight]
        · simp [costs, Call.weight]
  rw [← hr] at hlt
  exact hlt

end Cl

namespace Backend

/-! ## What the synchronisation still owes -/

/-- The price of all that is owed, phase 3 under way and the idle sources apart. -/
def burden (b : Backend) : Nat :=
  b.tpcl.burden + (if b.phase0Queued then 10 else 0) + (if b.needContactsReload then 9 else 0)
    + 2 * b.phase2Queued.length + b.phase3Queued

theorem DataOnly.burden {b b' : Backend} (h : DataOnly b b') : b'.burden = b.burden := by
  obtain ⟨_, _, _, _, rfl⟩ := h; rfl

theorem burden_rosterReceived (b : Backend) (cs : List Contact) :
    (b.rosterReceived cs).burden = b.burden + 2 := by
  have hlen : (b.rosterReceived cs).phase2Queued.length = b.phase2Queued.length + 1 :=
    List.length_append
  have hrest : (b.rosterReceived cs).burden = b.tpcl.burden + (if b.phase0Queued then 10 else 0)
      + (if b.needContactsReload then 9 else 0) + 2 * (b.rosterReceived cs).phase2Queued.length
      + b.phase3Queued := rfl
  rw [hrest, hlen]
  unfold burden
  omega

/-- To give the token back costs nothing: the reload that was asked for pays the next start. -/
theorem burden_finishWith {sync : Backend → Backend}
    (hsync : ∀ b : Backend, (sync b).burden ≤ b.burden + 9) (b : Backend) :
    (finishWith sync b).burden ≤ b.burden := by
  unfold finishWith
  dsimp only
  by_cases hr : b.needContactsReload = true
  · rw [if_pos hr]
    refine (hsync _).trans ?_
    simp [burden, hr]
    omega
  · rw [if_neg hr]
    exact Nat.le_refl _

/-- A synchronisation is paid for by the reload it would have been. -/
theorem burden_syncPhase1Fuel (fuel : Nat) (b : Backend) :
    (syncPhase1Fuel fuel b).burden ≤ b.burden + 9 := by
  induction fuel generalizing b with
  | zero => exact Nat.le_add_right ..
  | succ fuel ih =>
    unfold syncPhase1Fuel
    split
    · unfold burden
      dsimp only
      rw [if_pos (rfl : true = true)]
      omega
    · have hget := Cl.burden_getMembers b.tpcl
      have hcalls : ({ b with isLoading := true, tpcl := b.tpcl.getMembers.1 } : Backend).burden
          + b.tpcl.burden = b.burden + b.tpcl.getMembers.1.burden := by
        unfold burden
        dsimp only
        omega
      dsimp only
      split
      · refine (burden_finishWith ih _).trans ?_
        omega
      · rename_i cs rest hsig
        rw [burden_rosterReceived]
        rw [hsig] at hget
        simp only [Cl.costs, List.map_cons, List.sum_cons, Signal.cost] at hget
        omega
      · omega

theorem burden_finish (b : Backend) : b.finishOnlineInitialization.burden ≤ b.burden :=
  burden_finishWith (burden_syncPhase1Fuel 2) b

/-- The handler of a signal adds what the signal costs at most. -/
theorem burden_onSignal (b : Backend) (s : Signal) : (b.onSignal s).burden ≤ b.burden + s.cost := by
  by_cases hdata : s.isDone = false ∧ ∀ x, s ≠ .statusChanged x
  · rw [(dataOnly_onSignal hdata.1 hdata.2).burden]
    exact Nat.le_add_right ..
  · cases s with
    | getMembersDone result =>
      cases result with
      | none => exact burden_finish b
      | some cs => exact (burden_rosterReceived b cs).le
    | statusChanged x =>
      show (if b.membersReady then b.tpClStatusChangedCb x else b).burden ≤ _
      split
      · cases x with
        | online => exact burden_syncPhase1Fuel 2 b
        | offline => exact Nat.le_refl _
      · exact Nat.le_add_right ..
    | _ cs => exact absurd ⟨rfl, fun x h => by cases h⟩ hdata

theorem burden_onSignals (b : Backend) (signals : List Signal) :
    (signals.foldl onSignal b).burden ≤ b.burden + Cl.costs signals := by
  induction signals generalizing b with
  | nil => exact Nat.le_refl _
  | cons s signals ih =>
    have h := ih (b.onSignal s)
    have hs := burden_onSignal b s
    have hcons : Cl.costs (s :: signals) = s.cost + Cl.costs signals := rfl
    rw [List.foldl_cons]
    omega

theorem burden_syncPhase0IdleCb {b : Backend} (h : b.phase0Queued = true) :
    b.syncPhase0IdleCb.burden < b.burden := by
  have hle : b.syncPhase0IdleCb.burden ≤ ({ b with phase0Queued := false } : Backend).burden + 9 := by
    unfold syncPhase0IdleCb tpReadyCb
    dsimp only
    split
    · exact burden_syncPhase1Fuel 2 _
    · exact Nat.le_add_right ..
  refine Nat.lt_of_le_of_lt hle ?_
  simp only [burden, h, if_true, Bool.false_eq_true, if_false]
  omega

theorem burden_syncPhase2IdleCb (b : Backend) (closure : GetMembersClosure) :
    (b.syncPhase2IdleCb closure).burden = b.burden + 1 := by
  unfold syncPhase2IdleCb
  dsimp only
  split <;> rfl

/-! ## The rank -/

/-- The tables whose snapshot is still to come, this one included. -/
def Phase3Stage.left : Phase3Stage → Nat
  | .update => 2
  | .add => 1
  | .delete => 0

/-- How far a phase 3 is from its end: the tables that follow, and what is left of this one. -/
def Phase3.left (p : Phase3) : ℕ ×ₗ ℕ := toLex (Phase3Stage.left p.stage, p.todo.length)

/-- What the idle sources that only tell and write still have to do. -/
def idle (b : Backend) : Nat := 2 * b.avatarSaves.length + if b.out.updateScheduled then 1 else 0

/-- What every event of its own lowers. -/
def rank (b : Backend) : ℕ ×ₗ ℕ ×ₗ (ℕ ×ₗ ℕ) ×ₗ ℕ :=
  toLex (b.burden, toLex (b.phase3.length,
    toLex (b.phase3.head?.elim (toLex (0, 0)) Phase3.left, b.idle)))

theorem rank_lt_of_burden {b b' : Backend} (h : b'.burden < b.burden) : b'.rank < b.rank :=
  Prod.Lex.toLex_lt_toLex.mpr (.inl h)

theorem rank_lt_of_ended {b b' : Backend} (h : b'.burden ≤ b.burden)
    (h' : b'.phase3.length < b.phase3.length) : b'.rank < b.rank :=
  Prod.Lex.toLex_lt_toLex'.mpr ⟨h, fun _ => Prod.Lex.toLex_lt_toLex.mpr (.inl h')⟩

/-- Phase 3 goes on, nearer to its end. -/
theorem rank_lt_of_left {b b₁ : Backend} {p p' : Phase3} {rest : List Phase3}
    (hb : b.phase3 = p :: rest) (hd : DataOnly { b with phase3 := rest } b₁)
    (h : Phase3.left p' < Phase3.left p) : (b₁.continuePhase3 p').rank < b.rank := by
  have hburden : (b₁.continuePhase3 p').burden = b.burden := hd.burden
  have hframes : (b₁.continuePhase3 p').phase3 = p' :: rest := by
    obtain ⟨_, _, _, _, rfl⟩ := hd; rfl
  unfold rank
  rw [hburden, hframes, hb]
  exact Prod.Lex.toLex_lt_toLex.mpr (.inr ⟨rfl, Prod.Lex.toLex_lt_toLex.mpr
    (.inr ⟨rfl, Prod.Lex.toLex_lt_toLex.mpr (.inl h)⟩)⟩)

/-- What tells and writes, and nothing else, leaves less to tell and to write. -/
theorem rank_lt_of_idle {b b' : Backend} (hb : b'.burden = b.burden) (hp : b'.phase3 = b.phase3)
    (h : b'.idle < b.idle) : b'.rank < b.rank := by
  unfold rank
  rw [hb, hp]
  exact Prod.Lex.toLex_lt_toLex.mpr (.inr ⟨rfl, Prod.Lex.toLex_lt_toLex.mpr
    (.inr ⟨rfl, Prod.Lex.toLex_lt_toLex.mpr (.inr ⟨rfl, h⟩)⟩)⟩)

/-! ## Phase 3 -/

theorem phase3Update_next (b : Backend) (p : Phase3) (r : Nat) (todo : List Nat) :
    ∃ b' us, DataOnly b b' ∧
      b.phase3Update p r todo = b'.continuePhase3 { p with todo := todo, contactsToUpdateInDb := us } := by
  have hrun := dataOnly_runUpdateContact b r
  unfold phase3Update
  split
  · rename_i heq
    rw [heq] at hrun
    exact ⟨_, _, hrun, rfl⟩
  · rename_i heq
    rw [heq] at hrun
    exact ⟨_, p.contactsToUpdateInDb, hrun, rfl⟩

theorem phase3Add_next (b : Backend) (p : Phase3) (r : Nat) (todo : List Nat) :
    ∃ b' us, DataOnly b b' ∧
      b.phase3Add p r todo = b'.continuePhase3 { p with todo := todo, contactsToUpdateInDb := us } := by
  unfold phase3Add
  split
  · rename_i c w heq
    exact ⟨_, _, .trans (.trans ⟨_, b.out, w, b.avatarSaves, rfl⟩ (dataOnly_phase3Added _ r _))
      ⟨_, _, _, _, rfl⟩, rfl⟩
  · exact ⟨_, p.contactsToUpdateInDb, ⟨_, b.out, _, b.avatarSaves, rfl⟩, rfl⟩

theorem phase3Delete_next (b : Backend) (p : Phase3) (r : Nat) (todo : List Nat) :
    ∃ b' us, DataOnly b b' ∧
      b.phase3Delete p r todo = b'.continuePhase3 { p with todo := todo, contactsToUpdateInDb := us } := by
  unfold phase3Delete
  split
  · exact ⟨_, _, ⟨_, b.out, _, b.avatarSaves, rfl⟩, rfl⟩
  · exact ⟨_, p.contactsToUpdateInDb, dataOnly_wire b _, rfl⟩

/-- The end of a phase 3 may start a synchronisation, but no other phase 3. -/
theorem phase3_syncPhase1Fuel (fuel : Nat) (b : Backend) :
    (syncPhase1Fuel fuel b).phase3 = b.phase3 := by
  induction fuel generalizing b with
  | zero => rfl
  | succ fuel ih =>
    unfold syncPhase1Fuel
    split
    · rfl
    · dsimp only
      split
      · unfold finishWith
        dsimp only
        split
        · exact ih _
        · rfl
      · rfl
      · rfl

theorem phase3_finish (b : Backend) : b.finishOnlineInitialization.phase3 = b.phase3 := by
  unfold finishOnlineInitialization finishWith
  dsimp only
  split
  · exact phase3_syncPhase1Fuel 2 _
  · rfl

theorem rank_stepPhase3 {b b' : Backend} {p : Phase3} {rest : List Phase3} {order : List Nat}
    (hb : b.phase3 = p :: rest) (h : { b with phase3 := rest }.stepPhase3 p order = some b') :
    b'.rank < b.rank := by
  have hshorter : ∀ (r : Nat) (todo us : List Nat), p.todo = r :: todo →
      Phase3.left { p with todo := todo, contactsToUpdateInDb := us } < Phase3.left p := by
    intro r todo us ht
    refine Prod.Lex.toLex_lt_toLex.mpr (.inr ⟨rfl, ?_⟩)
    rw [ht, List.length_cons]
    exact Nat.lt_succ_self _
  have hsnapshot : ∀ p' : Phase3, Phase3Stage.left p'.stage < Phase3Stage.left p.stage →
      ({ b with phase3 := rest }.continuePhase3 p').rank < b.rank := fun p' hlt =>
    rank_lt_of_left hb (.refl _) (Prod.Lex.toLex_lt_toLex.mpr (.inl hlt))
  unfold stepPhase3 at h
  split at h
  · rename_i r todo hs ht
    obtain ⟨b₁, us, hd, heq⟩ := phase3Update_next { b with phase3 := rest } p r todo
    cases h
    rw [heq]
    exact rank_lt_of_left hb hd (hshorter r todo us ht)
  · rename_i hs ht
    split at h
    · cases h
      exact hsnapshot _ (by rw [hs]; exact Nat.lt_succ_self _)
    · cases h
  · rename_i r todo hs ht
    obtain ⟨b₁, us, hd, heq⟩ := phase3Add_next { b with phase3 := rest } p r todo
    cases h
    rw [heq]
    exact rank_lt_of_left hb hd (hshorter r todo us ht)
  · rename_i hs ht
    split at h
    · cases h
      exact hsnapshot _ (by rw [hs]; exact Nat.lt_succ_self _)
    · cases h
  · rename_i r todo hs ht
    obtain ⟨b₁, us, hd, heq⟩ := phase3Delete_next { b with phase3 := rest } p r todo
    cases h
    rw [heq]
    exact rank_lt_of_left hb hd (hshorter r todo us ht)
  · cases h
    obtain ⟨out, heq⟩ := endPhase3_eq { b with phase3 := rest } p
    rw [heq]
    refine rank_lt_of_ended (burden_finish _) ?_
    rw [phase3_finish, hb]
    exact Nat.lt_succ_self _

/-! ## Every event of its own lowers the rank -/

/-- What the backend and the bus do when nobody asks for anything and nothing is reported. -/
def Internal : Event → Prop
  | .cl e => e.Answers
  | .phase0 => True
  | .phase2 => True
  | .phase3 _ => True
  | .phase3Next _ => True
  | .updateContactsIdle => True
  | .avatarDataSaved _ _ => True
  | _ => False

/-- **Every event of its own lowers the rank.** -/
theorem rank_take {b b' : Backend} {e : Event} (he : Internal e) (h : b.take e = some b') :
    b'.rank < b.rank := by
  cases e with
  | cl e =>
    obtain ⟨⟨cl, signals⟩, hstep, rfl⟩ := Option.map_eq_some_iff.mp h
    refine rank_lt_of_burden ?_
    have hpaid := Cl.burden_step hstep he
    have hsignals := burden_onSignals { b with tpcl := cl } signals
    have hcl : ({ b with tpcl := cl } : Backend).burden + b.tpcl.burden = b.burden + cl.burden := by
      unfold burden
      dsimp only
      omega
    dsimp only
    omega
  | phase0 =>
    simp only [take] at h
    split at h
    · rename_i hq
      cases h
      exact rank_lt_of_burden (burden_syncPhase0IdleCb hq)
    · cases h
  | phase2 =>
    simp only [take] at h
    split at h
    · rename_i closure rest hq
      cases h
      refine rank_lt_of_burden ?_
      rw [burden_syncPhase2IdleCb]
      unfold burden
      rw [hq, List.length_cons]
      dsimp only
      omega
    · cases h
  | phase3 order =>
    simp only [take] at h
    split at h
    · rename_i hq
      cases h
      have hless : ({ b with phase3Queued := b.phase3Queued - 1 } : Backend).burden < b.burden := by
        have hpos := hq.1
        unfold burden
        dsimp only
        omega
      refine rank_lt_of_burden ?_
      unfold beginPhase3
      split
      · exact hless
      · exact Nat.lt_of_le_of_lt (burden_finish _) hless
    · cases h
  | phase3Next order =>
    simp only [take] at h
    split at h
    · rename_i hq
      exact rank_stepPhase3 hq h
    · cases h
  | updateContactsIdle =>
    simp only [take] at h
    split at h
    · rename_i hq
      cases h
      refine rank_lt_of_idle rfl rfl ?_
      have hnone : (b.out.updateContactsIdleCb b.book.contacts).updateScheduled = false := rfl
      unfold idle
      dsimp only
      rw [hnone, hq, if_pos rfl, if_neg Bool.false_ne_true]
      exact Nat.lt_succ_self _
    · cases h
  | avatarDataSaved i ok =>
    simp only [take] at h
    split at h
    · rename_i r hr
      cases h
      obtain ⟨hi, -⟩ := List.getElem?_eq_some_iff.mp hr
      have hd := dataOnly_avatarDataSaved { b with avatarSaves := b.avatarSaves.eraseIdx i } r ok
      have hsaves : ({ b with avatarSaves := b.avatarSaves.eraseIdx i }.avatarDataSavedCb r ok).avatarSaves
          = b.avatarSaves.eraseIdx i := by
        unfold avatarDataSavedCb
        split <;> rfl
      refine rank_lt_of_idle (hd.burden.trans rfl) ?_ ?_
      · obtain ⟨_, _, _, _, heq⟩ := hd
        rw [heq]
      · unfold idle
        rw [hsaves, List.length_eraseIdx_of_lt hi]
        split <;> split <;> omega
    · cases h
  | createContact ec => exact he.elim
  | modifyContact ec => exact he.elim
  | removeContact id => exact he.elim
  | startView id => exact he.elim
  | stopView id => exact he.elim
  | inactivity on => exact he.elim
  | getContact => exact he.elim

/-- Nothing that the roster layer hears of is an error. -/
def Event.Succeeds : Event → Prop
  | .cl e => e.Succeeds
  | _ => True

theorem rank_load (b : Backend) (env : Env) : (b.load env).rank = b.rank := rfl

theorem settles : machine.Settles fun i => Internal i.event :=
  Machine.settles_of_rank rank fun b i b' he hs => by
    rw [← rank_load b i.env]
    exact rank_take he hs

/-! ## At rest -/

/-- Nothing is owed and nothing is queued. -/
structure AtRest (b : Backend) : Prop where
  calls : b.tpcl.calls = []
  phase0 : b.phase0Queued = false
  phase2 : b.phase2Queued = []
  phase3 : b.phase3Queued = 0
  running : b.phase3 = []
  saves : b.avatarSaves = []
  scheduled : b.out.updateScheduled = false

/-- Whatever is owed can be answered, and without an error. -/
theorem answers_of_calls {cl : Cl} (h : cl.calls ≠ []) :
    ∃ e r, Cl.Event.Answers e ∧ e.Succeeds ∧ cl.step e = some r := by
  obtain ⟨⟨k, c⟩, rest, hcalls⟩ := List.exists_cons_of_ne_nil h
  have htake : cl.takeCall 0 = some (c, { cl with calls := rest }) := by
    unfold Cl.takeCall
    rw [hcalls]
    rfl
  cases c with
  | getAllMembers l ls =>
    exact ⟨.allMembers 0 (some {}), _, trivial, Option.some_ne_none _,
      by simp only [Cl.step, htake]; rfl⟩
  | getContacts =>
    exact ⟨.contacts 0 (some []), _, trivial, Option.some_ne_none _,
      by simp only [Cl.step, htake]; rfl⟩
  | membersChangedWithDetails k =>
    exact ⟨.contacts 0 (some []), _, trivial, Option.some_ne_none _,
      by simp only [Cl.step, htake]; rfl⟩
  | _ => exact ⟨.done 0 true, _, trivial, rfl, by simp only [Cl.step, htake]; rfl⟩

/-- A running phase 3 can go on, with some order of the next snapshot. -/
theorem exists_stepPhase3 (b : Backend) (p : Phase3) : ∃ order b', b.stepPhase3 p order = some b' := by
  have hperm : ∀ rs : List Nat, rs.isPerm rs = true := fun rs => List.isPerm_iff.mpr (.refl rs)
  obtain ⟨stage, todo, us⟩ := p
  cases todo with
  | cons r todo => cases stage <;> exact ⟨[], _, rfl⟩
  | nil =>
    cases stage with
    | update => exact ⟨_, _, if_pos (hperm (Table.values (workTable b.book .add)))⟩
    | add => exact ⟨_, _, if_pos (hperm (Table.values (workTable b.book .delete)))⟩
    | delete => exact ⟨[], _, rfl⟩

/-- A backend that is not at rest can go on by itself, and without an error. -/
theorem exists_internal {b : Backend} (h : ¬ b.AtRest) :
    ∃ i b', Internal i.event ∧ i.event.Succeeds ∧ machine.step b i = some b' := by
  by_contra hnone
  have hstuck : ∀ e b', Internal e → e.Succeeds → (b.load {}).take e ≠ some b' :=
    fun e b' he hok hs => hnone ⟨{ event := e }, b', he, hok, hs⟩
  refine h ⟨?_, ?_, ?_, ?_, ?_, ?_, ?_⟩
  · by_contra hcalls
    obtain ⟨e, r, he, hok, hr⟩ := answers_of_calls hcalls
    exact hstuck (.cl e) _ he hok (Option.map_eq_some_iff.mpr ⟨r, hr, rfl⟩)
  · by_contra hq
    exact hstuck .phase0 _ trivial trivial (if_pos (Bool.eq_true_of_not_eq_false hq))
  · by_contra hq
    obtain ⟨closure, rest, hcons⟩ := List.exists_cons_of_ne_nil hq
    refine hstuck .phase2 ({ b.load {} with phase2Queued := rest }.syncPhase2IdleCb closure)
      trivial trivial ?_
    have hload : (b.load {}).phase2Queued = closure :: rest := hcons
    simp only [take, hload]
  · by_contra hq
    exact hstuck (.phase3 (Table.values (workTable b.book .update))) _ trivial trivial
      (if_pos ⟨Nat.pos_of_ne_zero hq, List.isPerm_iff.mpr (.refl _)⟩)
  · by_contra hq
    obtain ⟨p, rest, hcons⟩ := List.exists_cons_of_ne_nil hq
    obtain ⟨order, b', hs⟩ := exists_stepPhase3 { b.load {} with phase3 := rest } p
    refine hstuck (.phase3Next order) b' trivial trivial ?_
    have hload : (b.load {}).phase3 = p :: rest := hcons
    simp only [take, hload]
    exact hs
  · by_contra hq
    obtain ⟨r, rest, hcons⟩ := List.exists_cons_of_ne_nil hq
    refine hstuck (.avatarDataSaved 0 true)
      ({ b.load {} with avatarSaves := (b.load {}).avatarSaves.eraseIdx 0 }.avatarDataSavedCb r true)
      trivial trivial ?_
    have hload : (b.load {}).avatarSaves[0]? = some r := by
      show b.avatarSaves[0]? = some r
      rw [hcons]
      rfl
    simp only [take, hload]
  · by_contra hq
    exact hstuck .updateContactsIdle _ trivial trivial (if_pos (Bool.eq_true_of_not_eq_false hq))

/--
**Left alone, the backend comes to rest.** There is no infinite sequence of replies and callbacks,
whatever SQLite and the connection manager answer, and whatever the snapshots look like; and from
every state such a sequence leads to one in which nothing is owed and nothing is queued.
-/
theorem comes_to_rest :
    (∀ s : ℕ → Backend, ¬ ∀ n, ∃ i, Internal i.event ∧ machine.step (s n) i = some (s (n + 1))) ∧
      ∀ b, ∃ is b', machine.run b is = some b' ∧ (∀ i ∈ is, Internal i.event) ∧ AtRest b' := by
  refine ⟨settles.not_infinite, fun b => ?_⟩
  have hgo : ∀ s : Backend, True → ¬ s.AtRest →
      ∃ i s', Internal i.event ∧ machine.step s i = some s' := by
    intro s _ hrest
    obtain ⟨i, s', hi, -, hs⟩ := exists_internal hrest
    exact ⟨i, s', hi, hs⟩
  obtain ⟨is, b', hrun, hrest⟩ := settles.exists_rest (fun _ _ hi => hi)
    (fun _ _ _ _ _ _ => trivial) hgo (s := b) trivial
  exact ⟨is, b', hrun.run_eq,
    hrun.forall_mem (P := fun i : Input => Internal i.event) fun _ _ hi => hi, hrest⟩

/-- With nothing in flight, the token is not held and no reload is wanted. -/
theorem TokenInv.rest {b : Backend} (h : TokenInv b) (hrest : b.AtRest) :
    b.isLoading = false ∧ b.needContactsReload = false := by
  have hnoload : b.isLoading = false := by
    have howed : b.tpcl.owed = 0 := by
      unfold Cl.owed
      rw [hrest.calls]
      rfl
    have hflight := h.flight
    rw [inFlight, howed, hrest.phase2, hrest.phase3, hrest.running] at hflight
    cases hl : b.isLoading with
    | false => rfl
    | true => rw [hl] at hflight; cases hflight
  refine ⟨hnoload, ?_⟩
  by_contra hreload
  have := h.reload (Bool.eq_true_of_not_eq_false hreload)
  rw [hnoload] at this
  cases this

/--
**What a backend at rest has.** If no synchronisation was started over while the account was
offline, none is running and none is wanted; and while the system is in use, no view waits for
news.
-/
theorem rest_settled {pathSuffix vcardField : String} {db : Db} {is : List Input} {b : Backend}
    (h : machine.Guarded ReloadOnline (boot pathSuffix vcardField db) is b) (hrest : b.AtRest) :
    b.isLoading = false ∧ b.needContactsReload = false ∧
      (b.out.systemInactive = false → b.out.contactsRemotelyChanged = ∅) := by
  obtain ⟨hnoload, hreload⟩ := (tokenInv_guarded h).rest hrest
  refine ⟨hnoload, hreload, fun hactive => ?_⟩
  by_contra hwait
  rcases (pending_reachable ⟨is, h.run_eq⟩).scheduled hwait with hs | hs
  · rw [hrest.scheduled] at hs; cases hs
  · rw [hactive] at hs; cases hs

/-- The account comes online, its one contact is synchronised, and everybody has been told. -/
def bobOnline : List Input :=
  [{ event := .phase0 }, { event := .cl (.connectionStatusChanged (some 1)) },
   { event := .cl (.done 0 true) }, { event := .cl (.done 0 true) },
   { event := .cl (.done 0 false) }, { event := .cl (.done 0 false) },
   { event := .cl (.done 0 false) }, { event := .cl (.done 0 false) },
   { event := .cl (.done 0 true) }, { event := .cl (.done 0 true) },
   { event := .cl (.allMembers 0 (some { current := [7] })) },
   { event := .cl (.contacts 0 (some [{ handle := 7, identifier := "bob" }])) },
   { event := .phase2 }, { event := .phase3 [] }, { event := .phase3Next [] },
   { event := .phase3Next [] }, { event := .phase3Next [] }, { event := .updateContactsIdle }]

/-- After the first synchronisation the backend is at rest, and has what one at rest has. -/
theorem rest_settled_bobOnline :
    ∃ b, machine.Guarded ReloadOnline (boot "acct" "X-JABBER" {}) bobOnline b ∧ b.AtRest ∧
      b.isLoading = false ∧ b.needContactsReload = false ∧ b.out.contactsRemotelyChanged = ∅ := by
  have hrun : ((machine.runChecked (fun b _ => !b.needContactsReload || b.tpcl.status = .online)
      (boot "acct" "X-JABBER" {}) bobOnline).map fun b =>
        ((b.tpcl.calls.isEmpty, b.phase0Queued, b.phase2Queued.isEmpty, b.phase3Queued),
          b.phase3.isEmpty, b.avatarSaves.isEmpty, b.out.updateScheduled, b.out.systemInactive))
      = some ((true, false, true, 0), true, true, false, false) := by decide +kernel
  obtain ⟨b, hb, heq⟩ := Option.map_eq_some_iff.mp hrun
  simp only [Prod.mk.injEq, List.isEmpty_iff] at heq
  obtain ⟨⟨h1, h2, h3, h4⟩, h5, h6, h7, hactive⟩ := heq
  have hg : machine.Guarded ReloadOnline _ _ b := Machine.guarded_of_runChecked
    (fun b i hc _ hr => by rw [hr] at hc; simpa using hc) hb
  have hrest : b.AtRest := ⟨h1, h2, h3, h4, h5, h6, h7⟩
  obtain ⟨hload, hreload, hchanged⟩ := rest_settled hg hrest
  exact ⟨b, hg, hrest, hload, hreload, hchanged hactive⟩

end Backend

end EdsTelepathy
