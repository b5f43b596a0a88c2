import EdsTelepathy.Proof.Connection
import EdsTelepathy.Proof.Rest
import EdsTelepathy.Proof.Views
import EdsTelepathy.Proof.Walk

/-!
# A connection on which nothing fails

The account comes up on a new connection. Five chains of replies set the lists up, the one of
`subscribe` puts the account online, that starts a walk over the lists or asks for one, and the two
phases follow. If no reply is an error and the connection stays, each of these hands its task on to
the next, so a backend that has come to rest has been through all of them.

The calls are followed by `ComingUp`: what is not there yet is owed. The synchronisation is followed
by `Stage`, which also looks at the events since the account came online.
-/

namespace EdsTelepathy

/-- The reply to the call puts the account online, or leads to such a call. -/
def Call.bringsOnline (c : Call) : Bool := c.setsUp .subscribe || c = .channelReady .subscribe

namespace Cl

/-! ## The connection comes up -/

/-- There is a connection, and what is not set up is about to be. -/
structure ComingUp (cl : Cl) : Prop where
  connected : cl.isConnected = true
  lists : ∀ l, cl.channels l = true ∨ ∃ p ∈ cl.calls, p.2.setsUp l = true
  online : cl.status = .online ∨ ∃ p ∈ cl.calls, p.2.bringsOnline = true

/-- Nothing that is there or owed is lost. -/
structure Onward (cl cl' : Cl) : Prop where
  connected : cl.isConnected = true → cl'.isConnected = true
  status : cl.status = .online → cl'.status = .online
  channels : ∀ l, cl.channels l = true → cl'.channels l = true
  calls : ∀ p ∈ cl.calls, p ∈ cl'.calls

theorem Onward.refl (cl : Cl) : Onward cl cl := ⟨id, id, fun _ => id, fun _ => id⟩

theorem Onward.trans {cl cl' cl'' : Cl} (h : Onward cl cl') (h' : Onward cl' cl'') :
    Onward cl cl'' where
  connected := h'.connected ∘ h.connected
  status := h'.status ∘ h.status
  channels := fun l => h'.channels l ∘ h.channels l
  calls := fun p => h'.calls p ∘ h.calls p

theorem RosterOnly.onward {cl cl' : Cl} (h : RosterOnly cl cl') : Onward cl cl' := by
  obtain ⟨_, _, _, rfl⟩ := h
  exact ⟨id, id, fun _ => id, fun _ => id⟩

theorem WalkOnly.onward {cl cl' : Cl} (h : WalkOnly cl cl') : Onward cl cl' := by
  obtain ⟨calls, rfl, -⟩ := h
  exact ⟨id, id, fun _ => id, fun _ hp => List.mem_append_left calls hp⟩

theorem onward_call (cl : Cl) (c : Call) : Onward cl (cl.call c) :=
  ⟨id, id, fun _ => id, fun _ hp => List.mem_append_left _ hp⟩

theorem mem_call (cl : Cl) (c : Call) : ∃ p ∈ (cl.call c).calls, p.2 = c :=
  ⟨_, List.mem_append_right cl.calls List.mem_cons_self, rfl⟩

theorem ComingUp.onward {cl cl' : Cl} (h : ComingUp cl) (ho : Onward cl cl') : ComingUp cl' where
  connected := ho.connected h.connected
  lists := fun l => (h.lists l).imp (ho.channels l) fun ⟨p, hp, hs⟩ => ⟨p, ho.calls p hp, hs⟩
  online := h.online.imp ho.status fun ⟨p, hp, hs⟩ => ⟨p, ho.calls p hp, hs⟩

/-- A call has been answered: what it was to lead to is there, or owed by another call. -/
theorem ComingUp.answered {cl cl₁ cl' : Cl} {i : Nat} {c : Call} (h : ComingUp cl)
    (ht : cl.takeCall i = some (c, cl₁)) (ho : Onward cl₁ cl')
    (hlists : ∀ l, c.setsUp l = true → cl'.channels l = true ∨ ∃ p ∈ cl'.calls, p.2.setsUp l = true)
    (honline : c.bringsOnline = true →
      cl'.status = .online ∨ ∃ p ∈ cl'.calls, p.2.bringsOnline = true) : ComingUp cl' := by
  obtain ⟨k, hperm⟩ := takeCall_perm ht
  obtain ⟨-, -, heq⟩ := takeCall_eq ht
  have howed : ∀ p ∈ cl.calls, p = (k, c) ∨ p ∈ cl'.calls := fun p hp =>
    (List.mem_cons.mp (hperm.mem_iff.mp hp)).imp_right (ho.calls p)
  refine ⟨ho.connected ?_, fun l => ?_, ?_⟩
  · rw [heq]
    exact h.connected
  · rcases h.lists l with hl | ⟨p, hp, hs⟩
    · refine .inl (ho.channels l ?_)
      rw [heq]
      exact hl
    · rcases howed p hp with rfl | hp'
      · exact hlists l hs
      · exact .inr ⟨p, hp', hs⟩
  · rcases h.online with hon | ⟨p, hp, hs⟩
    · refine .inl (ho.status ?_)
      rw [heq]
      exact hon
    · rcases howed p hp with rfl | hp'
      · exact honline hs
      · exact .inr ⟨p, hp', hs⟩

/-- A call that sets nothing up has been answered. -/
theorem ComingUp.passed {cl cl₁ cl' : Cl} {i : Nat} {c : Call} (h : ComingUp cl)
    (ht : cl.takeCall i = some (c, cl₁)) (ho : Onward cl₁ cl') (hc : ∀ l, c.setsUp l = false)
    (hne : c ≠ .channelReady .subscribe) : ComingUp cl' := by
  refine h.answered ht ho (fun l hl => ?_) fun hb => ?_
  · rw [hc l] at hl
    cases hl
  · unfold Call.bringsOnline at hb
    rw [hc .subscribe, Bool.false_or, decide_eq_true_eq] at hb
    exact absurd hb hne

theorem onward_getContactListChannels (cl : Cl) : Onward cl cl.getContactListChannels :=
  foldl_inv (I := Onward cl) (fun c l h => h.trans (onward_call c (.requestHandles l))) _ (.refl cl)

theorem mem_getContactListChannels (cl : Cl) (l : ListId) :
    ∃ p ∈ cl.getContactListChannels.calls, p.2 = .requestHandles l := by
  unfold getContactListChannels
  cases l <;> simp [call]

theorem onward_getNextChannelMembers (cl : Cl) (ls : List ListId) :
    Onward cl (cl.getNextChannelMembers ls).1 := by
  induction ls with
  | nil =>
    unfold getNextChannelMembers finishGetChannelMembers
    split
    · split
      · exact .refl cl
      · exact onward_call cl .getContacts
    · exact .refl cl
  | cons l rest ih =>
    unfold getNextChannelMembers
    split
    · split
      · exact onward_call cl _
      · exact ih
    · exact .refl cl

theorem onward_channelGetAllMembers (cl : Cl) (l : ListId) (rest : List ListId)
    (reply : Option AllMembers) : Onward cl (cl.channelGetAllMembersCb l rest reply).1 := by
  unfold channelGetAllMembersCb
  cases reply with
  | none => exact .refl cl
  | some m =>
    dsimp only
    split
    · have hroster := ((rosterOnly_foldl (rosterOnly_memberListed (l.flag .current)) cl
        m.current).trans (rosterOnly_foldl (rosterOnly_memberListed (l.flag .localPending)) _
          m.localPending)).trans (rosterOnly_foldl (rosterOnly_memberListed (l.flag .remotePending))
            _ m.remotePending)
      exact hroster.onward.trans (onward_getNextChannelMembers _ rest)
    · exact .refl cl

theorem onward_getContacts (cl : Cl) (reply : Option (List TpContact)) :
    Onward cl (cl.getContactsCb reply).1 := by
  unfold getContactsCb
  cases reply with
  | none => exact .refl cl
  | some tps =>
    dsimp only
    split
    · exact (rosterOnly_updateContactDetails cl tps).onward
    · exact .refl cl

theorem onward_deferred (cl : Cl) (k : MembersChangedClosure) (reply : Option (List TpContact)) :
    Onward cl (cl.handleMembersChangedIdleCb k).1
      ∧ Onward cl (cl.membersChangedWithDetailsCb k reply).1 := by
  constructor
  · unfold handleMembersChangedIdleCb
    split
    · exact (rosterOnly_updateChangedMembers cl k []).onward
    · exact .refl cl
  · unfold membersChangedWithDetailsCb
    cases reply with
    | none => exact .refl cl
    | some tps =>
      dsimp only
      split
      · exact ((rosterOnly_updateContactDetails cl tps).trans
          (rosterOnly_updateChangedMembers _ _ _)).onward
      · exact .refl cl

theorem onward_setStatus_online (cl : Cl) :
    Onward cl (cl.setStatus .online).1 ∧ (cl.setStatus .online).1.status = .online := by
  unfold setStatus
  split
  · rename_i heq
    exact ⟨.refl cl, heq.symm⟩
  · exact ⟨⟨id, fun _ => rfl, fun _ => id, fun _ => id⟩, rfl⟩

/-- Once the connection is ready, every list is asked for. -/
theorem ComingUp.connectionReady {cl cl₁ : Cl} {i : Nat} (h : ComingUp cl)
    (ht : cl.takeCall i = some (.connectionReady, cl₁)) (hconn : cl₁.isConnected = true) :
    ComingUp (cl₁.tpConnectionReadyCb true) := by
  unfold tpConnectionReadyCb
  rw [Bool.true_and, if_pos hconn]
  have howed : ∀ l, ∃ p ∈ cl₁.getContactListChannels.calls, p.2.setsUp l = true := by
    intro l
    obtain ⟨p, hp, heq⟩ := mem_getContactListChannels cl₁ l
    refine ⟨p, hp, ?_⟩
    rw [heq]
    exact decide_eq_true rfl
  refine h.answered ht (onward_getContactListChannels cl₁) (fun l _ => .inr (howed l)) fun _ => ?_
  obtain ⟨p, hp, hs⟩ := howed .subscribe
  refine .inr ⟨p, hp, ?_⟩
  unfold Call.bringsOnline
  rw [hs, Bool.true_or]

/-- A list that has its handle is asked for its channel. -/
theorem ComingUp.requestHandles {cl cl₁ : Cl} {i : Nat} {l : ListId} (h : ComingUp cl)
    (ht : cl.takeCall i = some (.requestHandles l, cl₁)) (hconn : cl₁.isConnected = true) :
    ComingUp (cl₁.requestHandlesForContactListCb l true) := by
  unfold requestHandlesForContactListCb
  rw [Bool.true_and, if_pos hconn]
  obtain ⟨p, hp, heq⟩ := mem_call cl₁ (.requestChannel l)
  have hsame : ∀ l', p.2.setsUp l' = (Call.requestHandles l).setsUp l' := fun l' => by
    rw [heq]
    rfl
  refine h.answered ht (onward_call cl₁ _) (fun l' hl => ?_) fun hb => ?_
  · exact .inr ⟨p, hp, (hsame l').trans hl⟩
  · have hl : (Call.requestHandles l).setsUp .subscribe = true := by
      simpa [Call.bringsOnline] using hb
    refine .inr ⟨p, hp, ?_⟩
    unfold Call.bringsOnline
    rw [hsame, hl, Bool.true_or]

/-- A list that has its channel waits for it to be prepared. -/
theorem ComingUp.requestChannel {cl cl₁ : Cl} {i : Nat} {l : ListId} (h : ComingUp cl)
    (ht : cl.takeCall i = some (.requestChannel l, cl₁)) (hconn : cl₁.isConnected = true) :
    ComingUp (cl₁.tpRequestChannelCb l true) := by
  unfold tpRequestChannelCb
  rw [Bool.true_and, if_pos hconn]
  have honward : Onward cl₁ { cl₁ with channels := Function.update cl₁.channels l true } := by
    refine ⟨id, id, fun l' hl => ?_, fun _ => id⟩
    show Function.update cl₁.channels l true l' = true
    by_cases heq : l' = l
    · rw [heq]
      exact Function.update_self ..
    · rw [Function.update_of_ne heq]
      exact hl
  refine h.answered ht (honward.trans (onward_call _ _)) (fun l' hl => .inl ?_) fun hb => .inr ?_
  · obtain rfl : l = l' := of_decide_eq_true hl
    exact Function.update_self ..
  · -- the chain of `subscribe` has one more reply to wait for
    obtain ⟨p, hp, heq⟩ := mem_call
      { cl₁ with channels := Function.update cl₁.channels l true } (.channelReady l)
    refine ⟨p, hp, ?_⟩
    have hl : l = .subscribe := by simpa [Call.bringsOnline, Call.setsUp] using hb
    rw [heq, hl]
    rfl

/-- The channel of `subscribe` puts the account online once it is prepared. -/
theorem ComingUp.channelReady {cl cl₁ : Cl} {i : Nat} {l : ListId} (h : ComingUp cl)
    (ht : cl.takeCall i = some (.channelReady l, cl₁)) (hconn : cl₁.isConnected = true) :
    ComingUp (cl₁.tpChannelReadyCb l true).1 := by
  unfold tpChannelReadyCb
  rw [Bool.true_and, if_pos hconn]
  obtain ⟨honward, hon⟩ := onward_setStatus_online cl₁
  split
  · exact h.answered ht honward (fun _ hl => by cases hl) fun _ => .inl hon
  · rename_i hne
    exact h.passed ht (.refl cl₁) (fun _ => rfl) (by simpa using hne)

/-- **A reply without an error hands on what it was to set up.** -/
theorem comingUp_step {cl cl' : Cl} {e : Event} {signals : List Signal} (h : ComingUp cl)
    (he : e.Succeeds) (hs : cl.step e = some (cl', signals)) : ComingUp cl' := by
  have hcb := step_callback hs
  generalize hr : (cl', signals) = r at hcb
  have hconn : ∀ {i : Nat} {c : Call} {cl₁ : Cl}, cl.takeCall i = some (c, cl₁) →
      cl₁.isConnected = true := fun ht => (sameLink_takeCall ht).2.trans h.connected
  have hend : ComingUp r.1 := by
    cases hcb with
    | connection conn =>
      cases conn with
      | none => exact absurd rfl he
      | some c =>
        have hsame : cl.setupTpConnection c = cl := if_pos h.connected
        show ComingUp (cl.setupTpConnection c)
        rw [hsame]
        exact h
    | members l added removed lp rp =>
      rcases membersChanged_call cl l added removed lp rp with heq | ⟨cl₁, c, hroster, -, heq⟩
      · rw [heq]
        exact h
      · rw [heq]
        exact h.onward (hroster.onward.trans (onward_call cl₁ c))
    | report d => exact h.onward (detailsCb_reported cl d).only.rosterOnly.onward
    | connectionReady ok ht =>
      obtain rfl : ok = true := he
      exact h.connectionReady ht (hconn ht)
    | requestHandles ok ht =>
      obtain rfl : ok = true := he
      exact h.requestHandles ht (hconn ht)
    | requestChannel ok ht =>
      obtain rfl : ok = true := he
      exact h.requestChannel ht (hconn ht)
    | channelReady ok ht =>
      obtain rfl : ok = true := he
      exact h.channelReady ht (hconn ht)
    | idle ok ht => exact h.passed ht (onward_deferred _ _ none).1 (fun _ => rfl) (by simp)
    | allMembers reply ht =>
      exact h.passed ht (onward_channelGetAllMembers _ _ _ reply) (fun _ => rfl) (by simp)
    | getContacts reply ht =>
      exact h.passed ht (onward_getContacts _ reply) (fun _ => rfl) (by simp)
    | details reply ht =>
      exact h.passed ht (onward_deferred _ _ reply).2 (fun _ => rfl) (by simp)
  rw [← hr] at hend
  exact hend

/-- An account that is online stays online while it has its connection. -/
theorem online_step {cl cl' : Cl} {e : Event} {signals : List Signal} (hon : cl.status = .online)
    (he : e.Succeeds) (hs : cl.step e = some (cl', signals)) : cl'.status = .online := by
  rcases link_step hs with ⟨conn, rfl⟩ | ⟨-, hst | hst⟩
  · cases conn with
    | none => exact absurd rfl he
    | some c =>
      have heq := Option.some.inj hs
      obtain ⟨rfl, -⟩ := Prod.mk.inj heq
      show (cl.setupTpConnection c).status = .online
      unfold setupTpConnection
      split
      · exact hon
      · exact hon
  · exact hst.trans hon
  · exact hst

/-- A walk is not abandoned where nothing fails. -/
theorem not_abandonsWalk {cl : Cl} {e : Event} (hconn : cl.isConnected = true) (he : e.Succeeds) :
    ¬ cl.abandonsWalk e := by
  have hno : ¬ cl.isConnected = false := by
    rw [hconn]
    decide
  cases e with
  | allMembers i reply => exact fun h => h.elim he hno
  | contacts i reply => exact fun h => h.2.elim he hno
  | _ => exact fun h => h

/-- Where nothing is owed any more, all is there. -/
theorem ComingUp.rest {cl : Cl} (h : cl.ComingUp) (hcalls : cl.calls = []) :
    cl.status = .online ∧ ∀ l, cl.channels l = true := by
  have hnone : ∀ f : Call → Bool, ¬ ∃ p ∈ cl.calls, f p.2 = true := by
    rintro f ⟨p, hp, -⟩
    rw [hcalls] at hp
    cases hp
  exact ⟨h.online.resolve_right (hnone _), fun l => (h.lists l).resolve_right (hnone _)⟩

end Cl

namespace Backend

/-- What events without an error keep of the roster layer, and calls of the walk as well. -/
theorem tpcl_take {I : Cl → Prop}
    (hstep : ∀ cl e cl' signals, I cl → e.Succeeds → cl.step e = some (cl', signals) → I cl')
    (hwalk : ∀ cl cl', I cl → Cl.WalkOnly cl cl' → I cl') {b b' : Backend} {e : Event}
    (h : I b.tpcl) (he : e.Succeeds) (hs : b.take e = some b') : I b'.tpcl := by
  by_cases hcl : ∃ ce, e = .cl ce
  · obtain ⟨ce, rfl⟩ := hcl
    obtain ⟨⟨cl, signals⟩, hclstep, rfl⟩ := Option.map_eq_some_iff.mp hs
    exact hwalk cl _ (hstep b.tpcl ce cl signals h he hclstep) (walkOnly_onSignals _ signals)
  · exact hwalk b.tpcl _ h (walkOnly_take (fun ce heq => hcl ⟨ce, heq⟩) hs)

theorem comingUp_take {b b' : Backend} {e : Event} (h : b.tpcl.ComingUp) (he : e.Succeeds)
    (hs : b.take e = some b') : b'.tpcl.ComingUp :=
  tpcl_take (fun _ _ _ _ hI hok hst => Cl.comingUp_step hI hok hst)
    (fun _ _ hI hw => hI.onward hw.onward) h he hs

theorem online_take {b b' : Backend} {e : Event} (h : b.tpcl.status = .online) (he : e.Succeeds)
    (hs : b.take e = some b') : b'.tpcl.status = .online :=
  tpcl_take (I := fun cl => cl.status = .online) (fun _ _ _ _ hI hok hst => Cl.online_step hI hok hst)
    (fun _ _ hI hw => hw.onward.status hI) h he hs

/-! ## The phases that are queued -/

/-- A phase 2 that is queued stays queued, and so does every phase 3, and none is added. -/
structure KeepsQueued (b b' : Backend) : Prop where
  phase2 : b.phase2Queued ≠ [] → b'.phase2Queued ≠ []
  phase3 : b'.phase3Queued = b.phase3Queued

theorem KeepsQueued.trans {b b' b'' : Backend} (h : KeepsQueued b b') (h' : KeepsQueued b' b'') :
    KeepsQueued b b'' := ⟨h'.phase2 ∘ h.phase2, h'.phase3.trans h.phase3⟩

theorem DataOnly.keepsQueued {b b' : Backend} (h : DataOnly b b') : KeepsQueued b b' := by
  obtain ⟨_, _, _, _, rfl⟩ := h
  exact ⟨id, rfl⟩

theorem SyncOnly.keepsQueued {b b' : Backend} (h : SyncOnly b b') : KeepsQueued b b' := by
  obtain ⟨_, _, _, _, -, rfl⟩ := h
  exact ⟨fun hne => List.append_ne_nil_of_left_ne_nil hne _, rfl⟩

theorem phase2_rosterReceived (b : Backend) (cs : List Contact) :
    (b.rosterReceived cs).phase2Queued ≠ [] :=
  List.append_ne_nil_of_right_ne_nil _ (List.cons_ne_nil _ _)

theorem keepsQueued_onSignal (b : Backend) (s : Signal) : KeepsQueued b (b.onSignal s) := by
  by_cases hdata : s.isDone = false ∧ ∀ x, s ≠ .statusChanged x
  · exact (dataOnly_onSignal hdata.1 hdata.2).keepsQueued
  · cases s with
    | getMembersDone result =>
      cases result with
      | none => exact (syncOnly_finishOnlineInitialization b).keepsQueued
      | some cs => exact ⟨fun _ => phase2_rosterReceived b cs, rfl⟩
    | statusChanged x =>
      show KeepsQueued b (if b.membersReady then b.tpClStatusChangedCb x else b)
      split
      · cases x with
        | online => exact (syncOnly_syncPhase1 b).keepsQueued
        | offline => exact ⟨id, rfl⟩
      · exact ⟨id, rfl⟩
    | _ cs => exact absurd ⟨rfl, by simp⟩ hdata

theorem keepsQueued_onSignals (b : Backend) (ss : List Signal) :
    KeepsQueued b (ss.foldl onSignal b) :=
  foldl_inv (I := KeepsQueued b) (fun b' s h => h.trans (keepsQueued_onSignal b' s)) ss ⟨id, rfl⟩

/-- Only the phases themselves leave their queues. -/
theorem keepsQueued_take {b b' : Backend} {e : Event} (hs : b.take e = some b') (h2 : e ≠ .phase2)
    (h3 : ∀ order, e ≠ .phase3 order) : KeepsQueued b b' := by
  cases take_taken hs with
  | @cl _ cl signals hstep =>
    have hk := keepsQueued_onSignals { b with tpcl := cl } signals
    exact ⟨hk.phase2, hk.phase3⟩
  | phase0 _ =>
    obtain ⟨views, hsync⟩ := tpReadyCb_spec
      { b with
        book := b.out.db.fetchContacts.foldl Book.importContact b.book
        phase0Queued := false }
    exact ⟨hsync.keepsQueued.phase2, hsync.keepsQueued.phase3⟩
  | phase2 _ => exact absurd rfl h2
  | phase3 _ _ => exact absurd rfl (h3 _)
  | @phase3Next _ p rest _ _ hstep =>
    rcases stepPhase3_cases hstep with ⟨-, b₁, p', hd, rfl⟩ | ⟨-, out, rfl⟩
    · exact ⟨hd.keepsQueued.phase2, hd.keepsQueued.phase3⟩
    · have hsync := (syncOnly_finishOnlineInitialization
        { b with phase3 := rest, out := out }).keepsQueued
      exact ⟨hsync.phase2, hsync.phase3⟩
  | createContact ec => exact (dataOnly_createContact b ec).keepsQueued
  | modifyContact ec => exact (dataOnly_modifyContact b ec).keepsQueued
  | removeContact id => exact (dataOnly_removeContact b id).keepsQueued
  | updateContactsIdle => exact ⟨id, rfl⟩
  | startView _ => exact ⟨id, rfl⟩
  | stopView _ => exact ⟨id, rfl⟩
  | inactivity on => exact ⟨id, rfl⟩
  | @avatarDataSaved i r ok _ =>
    have hd := dataOnly_avatarDataSaved { b with avatarSaves := b.avatarSaves.eraseIdx i } r ok
    exact ⟨hd.keepsQueued.phase2, hd.keepsQueued.phase3⟩
  | getContact => exact ⟨id, rfl⟩

/-- Only phase 3 itself touches the one that is running. -/
theorem phase3_take {b b' : Backend} {e : Event} (hs : b.take e = some b')
    (h3 : ∀ order, e ≠ .phase3 order) (hnext : ∀ order, e ≠ .phase3Next order) :
    b'.phase3 = b.phase3 := by
  have hagenda := take_agenda hs
  generalize b'.phase3 = ps at hagenda
  cases hagenda with
  | same _ => rfl
  | begins _ => exact absurd rfl (h3 _)
  | advances _ _ => exact absurd rfl (hnext _)

/-! ## The stages of a synchronisation -/

/--
How far the backend is with a synchronisation, `past` being the events since the account came
online.
-/
inductive Stage (past : List Event) (b : Backend) : Prop where
  /-- The import will start it. -/
  | early (h : b.phase0Queued = true)
  /-- Another one is under way, and this one is asked for. -/
  | asked (h : b.needContactsReload = true)
  /-- The roster is being read, or has been read. -/
  | reading (h : 0 < b.tpcl.owed ∨ b.phase2Queued ≠ [])
  /-- Phase 2 has run. -/
  | swept (hpast : [.phase2].Sublist past) (h : 0 < b.phase3Queued)
  /-- Phase 3 has begun. -/
  | replaying {order : List Nat} (hpast : [.phase2, .phase3 order].Sublist past)

/-- A synchronisation that has not come to phase 3 is reading the roster. -/
theorem TokenInv.reading {b : Backend} (h : TokenInv b) (hl : b.isLoading = true)
    (hq : b.phase3Queued = 0) (hp : b.phase3 = []) (past : List Event) : Stage past b := by
  have hflight := h.flight
  rw [inFlight, hl, if_pos rfl, hq, hp, List.length_nil] at hflight
  by_cases howed : 0 < b.tpcl.owed
  · exact .reading (.inl howed)
  · refine .reading (.inr fun hnil => ?_)
    rw [hnil, List.length_nil] at hflight
    omega

/-- What is true of the backend while the account is online and nothing fails. -/
structure OnlineInv (past : List Event) (b : Backend) : Prop where
  comingUp : b.tpcl.ComingUp
  online : b.tpcl.status = .online
  token : TokenInv b
  opening : Opening b
  stage : Stage past b

theorem owed_walkOnly {cl cl' : Cl} (h : Cl.WalkOnly cl cl') : cl.owed ≤ cl'.owed := by
  obtain ⟨calls, rfl, -⟩ := h
  unfold Cl.owed
  rw [List.countP_append]
  exact Nat.le_add_right ..

/-- The import starts the synchronisation of an account that is online. -/
theorem stage_early {b b' : Backend} {e : Event} {past : List Event} (htoken : TokenInv b)
    (hopening : Opening b) (hinv : TokenInv b') (hq : b.phase0Queued = true)
    (hon : b'.tpcl.status = .online) (hs : b.take e = some b') : Stage past b' := by
  by_cases hphase0 : e = .phase0
  · subst hphase0
    have hunsynced := (hopening.early (hopening.unready hq)).toUnsynced
    have hkeeps := keepsQueued_take hs (by simp) (by simp)
    have hphase3 := phase3_take hs (by simp) (by simp)
    exact hinv.reading ((tokenStep_phase0 htoken hs).2 hon) (hkeeps.phase3.trans hunsynced.phase3)
      (hphase3.trans hunsynced.running) past
  · exact .early ((ready_eq_take hs hphase0).2.trans hq)

/-- The synchronisation that was asked for starts when the one under way ends. -/
theorem stage_asked {b b' : Backend} {e : Event} {past past' : List Event} (h : OnlineInv past b)
    (he : e.Succeeds) (hstep : TokenStep b e b') (hr : b.needContactsReload = true)
    (hs : b.take e = some b') : Stage past' b' := by
  by_cases hends : b.endsSync e
  · have hstart := (hstep.restart hr hends).1
    cases e with
    | cl ce => exact absurd hends (Cl.not_abandonsWalk h.comingUp.connected he)
    | phase3 order =>
      have hoff : b.tpcl.status = .offline := hends
      rw [h.online] at hoff
      cases hoff
    | phase3Next order =>
      obtain ⟨p, rest, hp, hended⟩ := hends
      -- the phase 3 that ends is the only stage in flight
      have hflight := h.token.flight
      rw [inFlight, h.token.reload hr, if_pos rfl, hp, List.length_cons] at hflight
      have hrest : rest = [] := List.length_eq_zero_iff.mp (by omega)
      refine hstep.inv.reading hstart ?_ ?_ past'
      · rw [(keepsQueued_take hs (by simp) (by simp)).phase3]
        omega
      · cases take_taken hs with
        | phase3Next hp' hstep3 =>
          obtain ⟨rfl, rfl⟩ := List.cons.inj (hp.symm.trans hp')
          rcases stepPhase3_cases hstep3 with ⟨hbusy, -⟩ | ⟨-, out, rfl⟩
          · exact absurd hended hbusy
          · rw [phase3_finish]
            exact hrest
    | _ => exact hends.elim
  · exact .asked (hstep.waits hr hends)

/-- Phase 2 queues a phase 3. -/
theorem phase3Queued_phase2 {b b' : Backend} (hs : b.take .phase2 = some b') :
    b'.phase3Queued = b.phase3Queued + 1 := by
  cases take_taken hs with
  | phase2 _ =>
    unfold syncPhase2IdleCb
    dsimp only
    split <;> rfl

/-- A phase 3 that starts online is not the end of the synchronisation. -/
theorem take_phase3_online {b b' : Backend} {order : List Nat} (hon : b.tpcl.status = .online)
    (hs : b.take (.phase3 order) = some b') :
    b' = { b with phase3Queued := b.phase3Queued - 1, phase3 := { todo := order } :: b.phase3 } := by
  cases take_taken hs with
  | phase3 _ _ =>
    unfold beginPhase3
    rw [if_pos hon]

/-- The walk over the lists goes on, or the roster has been read. -/
theorem reading_cl {b b' : Backend} {ce : Cl.Event} (hconn : b.tpcl.isConnected = true)
    (he : ce.Succeeds) (howed : 0 < b.tpcl.owed) (hs : b.take (.cl ce) = some b') :
    0 < b'.tpcl.owed ∨ b'.phase2Queued ≠ [] := by
  cases take_taken hs with
  | @cl _ cl signals hstep =>
    have hwalk := Cl.walk_step hstep
    cases hwalk with
    | goesOn _ _ hsame =>
      refine .inl (Nat.lt_of_lt_of_le ?_ (owed_walkOnly (walkOnly_onSignals { b with tpcl := cl } signals)))
      show 0 < cl.owed
      rw [hsame]
      exact howed
    | @ends result rest hres _ _ _ =>
      cases result with
      | none => exact absurd (hres.mp rfl) (Cl.not_abandonsWalk hconn he)
      | some cs =>
        exact .inr ((keepsQueued_onSignals ({ b with tpcl := cl }.rosterReceived cs) rest).phase2
          (phase2_rosterReceived _ cs))

/-- A roster that is being read is read to its end. -/
theorem stage_reading {b b' : Backend} {e : Event} {past : List Event} (h : OnlineInv past b)
    (he : e.Succeeds) (hr : 0 < b.tpcl.owed ∨ b.phase2Queued ≠ []) (hs : b.take e = some b') :
    Stage (past ++ [e]) b' := by
  by_cases h2 : e = .phase2
  · subst h2
    refine .swept (List.sublist_append_right past _) ?_
    rw [phase3Queued_phase2 hs]
    exact Nat.succ_pos _
  by_cases h3 : ∃ order, e = .phase3 order
  · obtain ⟨order, rfl⟩ := h3
    obtain rfl := take_phase3_online h.online hs
    exact .reading hr
  have hkeeps := keepsQueued_take hs h2 fun order heq => h3 ⟨order, heq⟩
  refine .reading ?_
  rcases hr with howed | hq
  · by_cases hcl : ∃ ce, e = .cl ce
    · obtain ⟨ce, rfl⟩ := hcl
      exact reading_cl h.comingUp.connected he howed hs
    · have hwalk := walkOnly_take (fun ce heq => hcl ⟨ce, heq⟩) hs
      exact .inl (Nat.lt_of_lt_of_le howed (owed_walkOnly hwalk))
  · exact .inr (hkeeps.phase2 hq)

/-- A phase 3 that is queued stays so until it begins. -/
theorem stage_swept {b b' : Backend} {e : Event} {past : List Event}
    (hpast : [.phase2].Sublist past) (hq : 0 < b.phase3Queued) (hs : b.take e = some b') :
    Stage (past ++ [e]) b' := by
  have hlater : [Event.phase2].Sublist (past ++ [e]) := hpast.trans (List.sublist_append_left past [e])
  by_cases h2 : e = .phase2
  · subst h2
    refine .swept hlater ?_
    rw [phase3Queued_phase2 hs]
    exact Nat.succ_pos _
  by_cases h3 : ∃ order, e = .phase3 order
  · obtain ⟨order, rfl⟩ := h3
    exact .replaying (hpast.append (List.Sublist.refl [Event.phase3 order]))
  refine .swept hlater ?_
  rw [(keepsQueued_take hs h2 fun order heq => h3 ⟨order, heq⟩).phase3]
  exact hq

theorem OnlineInv.load {past : List Event} {b : Backend} (h : OnlineInv past b) (env : Env) :
    OnlineInv past (b.load env) where
  comingUp := h.comingUp
  online := h.online
  token := ⟨h.token.flight, h.token.reload, h.token.linked⟩
  opening := ⟨fun hm => (h.opening.early hm).load env, h.opening.unready⟩
  stage := by
    cases h.stage with
    | early hq => exact .early hq
    | asked hr => exact .asked hr
    | reading hr => exact .reading hr
    | swept hpast hq => exact .swept hpast hq
    | replaying hpast => exact .replaying hpast

/-- **While the account is online and nothing fails, the synchronisation goes on.** -/
theorem onlineInv_step {b b' : Backend} {i : Input} {past : List Event} (h : OnlineInv past b)
    (he : i.event.Succeeds) (hs : machine.step b i = some b') : OnlineInv (past ++ [i.event]) b' := by
  have hopening := opening_step h.opening hs
  have hload := h.load i.env
  have htake : (b.load i.env).take i.event = some b' := hs
  have hon := online_take hload.online he htake
  have htoken := tokenStep_take hload.token (fun _ _ => hload.online) htake
  refine ⟨comingUp_take hload.comingUp he htake, hon, htoken.inv, hopening, ?_⟩
  cases hload.stage with
  | early hq => exact stage_early hload.token hload.opening htoken.inv hq hon htake
  | asked hr => exact stage_asked hload he htoken hr htake
  | reading hr => exact stage_reading hload he hr htake
  | swept hpast hq => exact stage_swept hpast hq htake
  | replaying hpast => exact .replaying (hpast.trans (List.sublist_append_left past [i.event]))

/-! ## The account comes online -/

/-- What is true of the backend from the moment it has a connection. -/
structure Prepared (b : Backend) : Prop where
  comingUp : b.tpcl.ComingUp
  token : TokenInv b
  opening : Opening b
  imported : b.membersReady = false → b.phase0Queued = true

/-- The event is no error, and starts no synchronisation over while the account is offline. -/
def GoesWell (b : Backend) (i : Input) : Prop := ReloadOnline b i ∧ i.event.Succeeds

theorem imported_take {b b' : Backend} {e : Event} (h : b.membersReady = false → b.phase0Queued = true)
    (hs : b.take e = some b') : b'.membersReady = false → b'.phase0Queued = true := by
  intro hm
  by_cases hphase0 : e = .phase0
  · subst hphase0
    cases take_taken hs with
    | phase0 _ =>
      obtain ⟨views, hsync⟩ := tpReadyCb_spec
        { b with
          book := b.out.db.fetchContacts.foldl Book.importContact b.book
          phase0Queued := false }
      have hready : b.syncPhase0IdleCb.membersReady = true := hsync.sameAgenda.ready
      rw [hready] at hm
      cases hm
  · obtain ⟨hready, hqueued⟩ := ready_eq_take hs hphase0
    rw [hqueued]
    exact h (hready.symm.trans hm)

theorem imported_reachable {pathSuffix vcardField : String} {db : Db} {b : Backend}
    (h : ReachableFrom pathSuffix vcardField db b) : b.membersReady = false → b.phase0Queued = true := by
  obtain ⟨is, hrun⟩ := h
  exact Machine.run_inv (I := fun b : Backend => b.membersReady = false → b.phase0Queued = true)
    (fun b i b' hI hs => imported_take (b := b.load i.env) hI hs) hrun fun _ => rfl

theorem prepared_step {b b' : Backend} {i : Input} (h : Prepared b) (hok : GoesWell b i)
    (hs : machine.step b i = some b') : Prepared b' where
  comingUp := comingUp_take (b := b.load i.env) h.comingUp hok.2 hs
  token := (tokenStep_step h.token hok.1 hs).inv
  opening := opening_step h.opening hs
  imported := imported_take (b := b.load i.env) h.imported hs

/-- The first call on a new connection is owed. -/
theorem prepared_connect {b b' : Backend} {i : Input} {c : Nat} (htoken : TokenInv b)
    (hopening : Opening b) (himported : b.membersReady = false → b.phase0Queued = true)
    (hconn : b.tpcl.isConnected = false) (hi : i.event = .cl (.connectionStatusChanged (some c)))
    (hs : machine.step b i = some b') : Prepared b' ∧ b'.tpcl.status = .offline := by
  have hoff : b.tpcl.status = .offline := by
    cases hst : b.tpcl.status with
    | offline => rfl
    | online =>
      have hlinked := htoken.linked hst
      rw [hconn] at hlinked
      cases hlinked
  have htake : (b.load i.env).take i.event = some b' := hs
  have hok : ReloadOnline b i := by
    intro hends
    rw [hi] at hends
    exact hends.elim
  have hcl : b'.tpcl = Cl.call { b.tpcl with conn := some c } .connectionReady := by
    rw [hi] at htake
    obtain rfl := Option.some.inj htake
    show b.tpcl.setupTpConnection c = _
    unfold Cl.setupTpConnection
    rw [hconn, if_neg Bool.false_ne_true]
  obtain ⟨p, hp, heq⟩ := Cl.mem_call { b.tpcl with conn := some c } .connectionReady
  rw [← hcl] at hp
  have hcoming : b'.tpcl.ComingUp := by
    refine ⟨?_, fun l => .inr ⟨p, hp, ?_⟩, .inr ⟨p, hp, ?_⟩⟩
    · rw [hcl]
      rfl
    · rw [heq]
      rfl
    · rw [heq]
      rfl
  refine ⟨⟨hcoming, (tokenStep_step htoken hok hs).inv, opening_step hopening hs,
    imported_take (b := b.load i.env) himported htake⟩, ?_⟩
  rw [hcl]
  exact hoff

/-- **Coming online starts a synchronisation**, or asks for one, or the import will start it. -/
theorem onlineInv_start {b b' : Backend} {i : Input} (h : Prepared b) (h' : Prepared b')
    (hok : ReloadOnline b i) (hno : b.tpcl.status ≠ .online) (hon : b'.tpcl.status = .online)
    (hs : machine.step b i = some b') : OnlineInv [] b' := by
  refine ⟨h'.comingUp, hon, h'.token, h'.opening, ?_⟩
  have hoff : b.tpcl.status = .offline := by
    cases hst : b.tpcl.status with
    | offline => rfl
    | online => exact absurd hst hno
  have hstep := tokenStep_step h.token hok hs
  have htake : (b.load i.env).take i.event = some b' := hs
  have hcl : ∃ ce, i.event = .cl ce := by
    by_contra hno
    obtain ⟨calls, heq, -⟩ := walkOnly_take (fun ce he => hno ⟨ce, he⟩) htake
    have hst : b'.tpcl.status = b.tpcl.status := by
      rw [heq]
      rfl
    rw [hon, hoff] at hst
    cases hst
  obtain ⟨ce, hce⟩ := hcl
  rw [hce] at htake
  cases hm : b.membersReady with
  | false => exact .early ((ready_eq_take htake (by simp)).2.trans (h.imported hm))
  | true =>
    obtain ⟨hloading, hasked⟩ := hstep.online hm hoff hon
    cases hl : b.isLoading with
    | true => exact .asked (hasked hl)
    | false =>
      have hflight := h.token.flight
      rw [inFlight, hl, if_neg Bool.false_ne_true] at hflight
      refine h'.token.reading hloading ?_ ?_ []
      · rw [(keepsQueued_take htake (by simp) (by simp)).phase3]
        show b.phase3Queued = 0
        omega
      · rw [phase3_take htake (by simp) (by simp)]
        refine List.length_eq_zero_iff.mp ?_
        show b.phase3.length = 0
        omega

/-! ## A backend that has come to rest -/

/-- The account has come online, and after that phase 2 has run and phase 3 has begun. -/
def SyncedIn (b : Backend) (is : List Input) : Prop :=
  ∃ before after m order, is = before ++ after ∧ machine.run b before = some m
    ∧ m.tpcl.status = .online ∧ [.phase2, .phase3 order].Sublist (after.map Input.event)

/-- Where nothing is in flight, the last stage has been reached. -/
theorem Stage.rest {past : List Event} {b : Backend} (h : Stage past b) (htoken : TokenInv b)
    (hrest : b.AtRest) : ∃ order, [.phase2, .phase3 order].Sublist past := by
  cases h with
  | early hq =>
    rw [hrest.phase0] at hq
    cases hq
  | asked hr =>
    rw [(htoken.rest hrest).2] at hr
    cases hr
  | reading hr =>
    rcases hr with howed | hq
    · unfold Cl.owed at howed
      rw [hrest.calls] at howed
      cases howed
    · exact absurd hrest.phase2 hq
  | swept _ hq =>
    rw [hrest.phase3] at hq
    cases hq
  | replaying hpast => exact ⟨_, hpast⟩

/-- A backend that has a connection and is not at rest can go on, and nothing goes wrong. -/
theorem exists_goesWell {b : Backend} (h : Prepared b) (hrest : ¬ b.AtRest) :
    ∃ i b', (GoesWell b i ∧ Internal i.event) ∧ machine.step b i = some b' := by
  cases hst : b.tpcl.status with
  | online =>
    obtain ⟨i, b', hi, hok, hs⟩ := exists_internal hrest
    exact ⟨i, b', ⟨⟨fun _ _ => hst, hok⟩, hi⟩, hs⟩
  | offline =>
    -- the call that leads to the online status is answered first
    have howed := h.comingUp.online.resolve_left (by rw [hst]; decide)
    obtain ⟨⟨k, c⟩, hp, hc⟩ := howed
    obtain ⟨i, hi, hget⟩ := List.getElem_of_mem hp
    have htake : b.tpcl.takeCall i = some (c, { b.tpcl with calls := b.tpcl.calls.eraseIdx i }) := by
      unfold Cl.takeCall
      rw [List.getElem?_eq_getElem hi, hget]
    have hstep : ∃ r, b.tpcl.step (.done i true) = some r := by
      cases c with
      | connectionReady => exact ⟨_, by simp only [Cl.step, htake]; rfl⟩
      | requestHandles l => exact ⟨_, by simp only [Cl.step, htake]; rfl⟩
      | requestChannel l => exact ⟨_, by simp only [Cl.step, htake]; rfl⟩
      | channelReady l => exact ⟨_, by simp only [Cl.step, htake]; rfl⟩
      | _ => simp [Call.bringsOnline, Call.setsUp] at hc
    obtain ⟨r, hr⟩ := hstep
    exact ⟨{ event := .cl (.done i true) }, _, ⟨⟨fun hends => hends.elim, rfl⟩, trivial⟩,
      Option.map_eq_some_iff.mpr ⟨r, hr, rfl⟩⟩

/--
**A connection on which nothing fails is synchronised.**

The account gets a connection, whatever is still under way from earlier ones. In every run from there
in which the connection stays and no reply is an error, and no synchronisation is started over while
the account is offline, a backend that has come to rest is online with all its lists, is not
synchronising and wants no reload, and since the account came online phase 2 and phase 3 have run.
And it can always come to rest so.
-/
theorem connection_synchronises {pathSuffix vcardField : String} {db : Db} {earlier : List Input}
    {b : Backend} (h : machine.Guarded ReloadOnline (boot pathSuffix vcardField db) earlier b)
    (hconn : b.tpcl.isConnected = false) {i : Input} {c : Nat}
    (hi : i.event = .cl (.connectionStatusChanged (some c))) :
    (∀ is b', machine.Guarded GoesWell b (i :: is) b' → b'.AtRest →
      b'.tpcl.status = .online ∧ (∀ l, b'.tpcl.channels l = true) ∧ b'.isLoading = false
        ∧ b'.needContactsReload = false ∧ SyncedIn b (i :: is))
    ∧ ∃ is b', machine.Guarded GoesWell b (i :: is) b' ∧ (∀ j ∈ is, Internal j.event) ∧ b'.AtRest := by
  have hreach : ReachableFrom pathSuffix vcardField db b := ⟨earlier, h.run_eq⟩
  have hconnect : ∀ {b₁}, machine.step b i = some b₁ → Prepared b₁ ∧ b₁.tpcl.status = .offline :=
    prepared_connect (tokenInv_guarded h) (opening_reachable hreach) (imported_reachable hreach) hconn hi
  constructor
  · intro is b' hall hrest
    cases hall with
    | @cons _ b₁ _ _ _ hok hst hrun =>
      obtain ⟨hprep, hoff⟩ := hconnect hst
      have hend := hrun.inv (fun _ _ _ => prepared_step) hprep
      obtain ⟨hon, hlists⟩ := hend.comingUp.rest hrest.calls
      obtain ⟨hload, hreload⟩ := hend.token.rest hrest
      refine ⟨hon, hlists, hload, hreload, ?_⟩
      obtain ⟨before, j, after, m, m', rfl, hbefore, hmoff, hjok, hj, hmon, hafter⟩ :=
        hrun.enters (P := fun b => b.tpcl.status = .online) (by rw [hoff]; decide) hon
      have hm := hbefore.inv (fun _ _ _ => prepared_step) hprep
      have hstart := onlineInv_start hm (prepared_step hm hjok hj) hjok.1 hmoff hmon hj
      have hinv : OnlineInv (after.map Input.event) b' := by
        refine hafter.inv_past (I := fun past b => OnlineInv (past.map Input.event) b)
          (fun past s k s' hI hk hs => ?_) [] hstart
        rw [List.map_append]
        exact onlineInv_step hI hk.2 hs
      obtain ⟨order, hpast⟩ := hinv.stage.rest hinv.token hrest
      refine ⟨i :: before ++ [j], after, m', order, by simp, ?_, hmon, hpast⟩
      rw [Machine.run_append, (Machine.Guarded.cons hok hst hbefore).run_eq, Option.bind_some,
        Machine.run, hj]
      rfl
  · have hfirst : ∃ b₁, machine.step b i = some b₁ := by
      show ∃ b₁, (b.load i.env).take i.event = some b₁
      rw [hi]
      exact ⟨_, rfl⟩
    obtain ⟨b₁, hst⟩ := hfirst
    have hguard : ∀ (b : Backend) (j : Input), GoesWell b j ∧ Internal j.event → Internal j.event :=
      fun _ _ hok => hok.2
    obtain ⟨is, b', hrun, hrest⟩ := settles.exists_rest (I := Prepared) hguard
      (fun _ _ _ hI hok hs => prepared_step hI hok.1 hs) (fun _ hI hno => exists_goesWell hI hno)
      (hconnect hst).1
    have hok : GoesWell b i := by
      unfold GoesWell ReloadOnline
      rw [hi]
      exact ⟨fun hends => hends.elim, Option.some_ne_none c⟩
    refine ⟨is, b', .cons hok hst (hrun.mono fun _ _ hk => hk.1), ?_, hrest⟩
    exact hrun.forall_mem (P := fun i : Input => Internal i.event) fun _ _ hk => hk.2

/-- The reply that has been owed longest says that all is well. -/
def replied : Input := { event := .cl (.done 0 true) }

/-- The list that is asked has these members. -/
def listed (hs : List Nat) : Input := { event := .cl (.allMembers 0 (some { current := hs })) }

/-- The one handle there is belongs to bob. -/
def inspected : Input :=
  { event := .cl (.contacts 0 (some [{ handle := 7, identifier := "bob" }])) }

/-- Phase 2, and a phase 3 with nothing to replay. -/
def phases : List Input :=
  { event := .phase2 } :: { event := .phase3 [] } :: List.replicate 3 { event := .phase3Next [] }

/-- The first connection is lost while the first list is being asked. -/
def lostEarly : List Input :=
  { event := .phase0 } :: goOnline 1 0 ++ [{ event := .cl (.connectionStatusChanged none) }]

/--
On the second connection the walk of the first one goes on; the account is online before its phases
have run, so that another synchronisation is asked for, which follows.
-/
def reconnected : List Input :=
  List.replicate 4 replied ++ listed [7] :: List.replicate 5 replied ++ inspected
    :: List.replicate 19 replied ++ phases ++ listed [7] :: List.replicate 4 (listed [])
    ++ inspected :: phases ++ [{ event := .updateContactsIdle }]

/-- No reload is wanted while the account is offline. -/
def reloadChecked (b : Backend) (_ : Input) : Bool :=
  !b.needContactsReload || b.tpcl.status = .online

theorem reloadOnline_of_checked (b : Backend) (i : Input) (h : reloadChecked b i = true) :
    ReloadOnline b i := by
  intro _ hr
  unfold reloadChecked at h
  rw [hr] at h
  simpa using h

/-- The account reconnects with a walk under way, and both synchronisations are carried out. -/
theorem connection_synchronises_second :
    ∃ b b', machine.Guarded ReloadOnline (boot "acct" "X-JABBER" {}) lostEarly b
      ∧ b.tpcl.isConnected = false ∧ b.tpcl.owed = 1
      ∧ machine.Guarded GoesWell b
        ({ event := .cl (.connectionStatusChanged (some 2)) } :: reconnected) b' ∧ b'.AtRest
      ∧ b'.tpcl.status = .online ∧ b'.isLoading = false := by
  have hrun : ((machine.runChecked reloadChecked (boot "acct" "X-JABBER" {}) lostEarly).bind fun b =>
      (machine.runChecked reloadChecked b
        ({ event := .cl (.connectionStatusChanged (some 2)) } :: reconnected)).map fun b' =>
          ((b.tpcl.isConnected, b.tpcl.owed), (b'.tpcl.calls.isEmpty, b'.phase0Queued,
            b'.phase2Queued.isEmpty, b'.phase3Queued), b'.phase3.isEmpty, b'.avatarSaves.isEmpty,
            b'.out.updateScheduled))
      = some ((false, 1), (true, false, true, 0), true, true, false) := by decide +kernel
  obtain ⟨b, hb, hrest⟩ := Option.bind_eq_some_iff.mp hrun
  obtain ⟨b', hb', heq⟩ := Option.map_eq_some_iff.mp hrest
  simp only [Prod.mk.injEq, List.isEmpty_iff] at heq
  obtain ⟨⟨hconn, howed⟩, ⟨h1, h2, h3, h4⟩, h5, h6, h7⟩ := heq
  have hg : machine.Guarded ReloadOnline _ _ b := Machine.guarded_of_runChecked reloadOnline_of_checked hb
  have hsucceed :
      ∀ i ∈ ({ event := .cl (.connectionStatusChanged (some 2)) } :: reconnected : List Input),
        i.event.Succeeds := by
    simp [reconnected, replied, listed, inspected, phases, Event.Succeeds, Cl.Event.Succeeds]
  have hg' : machine.Guarded GoesWell b _ b' :=
    ((Machine.guarded_of_runChecked reloadOnline_of_checked hb').and_mem hsucceed).mono fun _ _ h => h
  have hatRest : b'.AtRest := ⟨h1, h2, h3, h4, h5, h6, h7⟩
  obtain ⟨hon, -, hload, -⟩ := (connection_synchronises hg hconn rfl).1 _ _ hg' hatRest
  exact ⟨b, b', hg, hconn, howed, hg', hatRest, hon, hload⟩

end Backend

end EdsTelepathy
