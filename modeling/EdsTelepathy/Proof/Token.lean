import EdsTelepathy.Proof.Frame
import EdsTelepathy.Proof.Calls

/-!
# The synchronisation token

`is_loading` is a token: the function that sets it starts a stage, every stage hands it
to the next, and the last one gives it back through `finish_online_initialization`.
`inFlight` counts the stages that hold it, and the invariant is that there is one while
the flag is set and none while it is not.

One hand-over can fail. `get_members` answers `TRUE` without making a request when the
account is offline, so a sync that `finish_online_initialization` starts over while the
account is offline sets the flag and starts no stage. `ReloadOnline` is the condition
that this does not happen.
-/

namespace EdsTelepathy

namespace Backend

/-- How many stages of a sync are in flight. -/
def inFlight (b : Backend) : Nat :=
  b.tpcl.owed + b.phase2Queued.length + b.phase3Queued + b.phase3.length

/-- The token is where the flag says. -/
structure TokenInv (b : Backend) : Prop where
  /-- One stage in flight while the flag is set, none while it is not. -/
  flight : b.inFlight = if b.isLoading then 1 else 0
  /-- A reload is only wanted while something is in flight. -/
  reload : b.needContactsReload = true → b.isLoading = true
  /-- The account is not online without a connection. -/
  linked : b.tpcl.status = .online → b.tpcl.isConnected = true

/-- The event runs `finish_online_initialization`. -/
def endsSync (b : Backend) : Event → Prop
  | .cl e => b.tpcl.abandonsWalk e
  | .phase3 _ => b.tpcl.status = .offline
  | .phase3Next _ => ∃ p rest, b.phase3 = p :: rest ∧ Phase3.Ended p
  | _ => False

/-- No sync is started over while the account is offline. -/
def ReloadOnline (b : Backend) (i : Input) : Prop :=
  b.endsSync i.event → b.needContactsReload = true → b.tpcl.status = .online

/-! ## The hand-overs -/

theorem tokenInv_boot (pathSuffix vcardField : String) (db : Db) :
    TokenInv (boot pathSuffix vcardField db) where
  flight := rfl
  reload := by intro h; cases h
  linked := by intro h; cases h

theorem TokenInv.dataOnly {b b' : Backend} (h : TokenInv b) (hd : DataOnly b b') : TokenInv b' := by
  obtain ⟨_, _, _, _, rfl⟩ := hd
  exact ⟨h.flight, h.reload, h.linked⟩

/-- The roster has come: phase 2 holds the token. -/
theorem tokenInv_rosterReceived {b : Backend} {cs : List Contact} (h0 : b.inFlight = 0)
    (hload : b.isLoading = true) (hlink : b.tpcl.status = .online → b.tpcl.isConnected = true) :
    TokenInv (b.rosterReceived cs) where
  flight := by
    have hl : (b.rosterReceived cs).isLoading = true := hload
    have hlen : (b.rosterReceived cs).phase2Queued.length = b.phase2Queued.length + 1 :=
      List.length_append
    have hrest : (b.rosterReceived cs).inFlight
        = b.tpcl.owed + (b.rosterReceived cs).phase2Queued.length + b.phase3Queued
          + b.phase3.length := rfl
    unfold inFlight at h0
    rw [hrest, hlen, hl, if_pos rfl]
    omega
  reload := fun _ => hload
  linked := hlink

/-- What `_sync_phase_1` does while the account is online: it holds the token afterwards. -/
theorem syncPhase1_online {b : Backend} (h : TokenInv b) (hon : b.tpcl.status = .online) :
    TokenInv b.syncPhase1 ∧ b.syncPhase1.isLoading = true
      ∧ (b.isLoading = true → b.syncPhase1.needContactsReload = true)
      ∧ (b.isLoading = false → b.syncPhase1.needContactsReload = b.needContactsReload) := by
  have hflight := h.flight
  unfold syncPhase1 syncPhase1Fuel
  by_cases hl : b.isLoading = true
  · -- a synchronisation is running: the next one is only asked for
    rw [if_pos hl]
    refine ⟨⟨hflight, fun _ => hl, h.linked⟩, hl, fun _ => rfl, fun hf => ?_⟩
    rw [hl] at hf; cases hf
  · have hl' : b.isLoading = false := by simpa using hl
    rw [if_neg hl]
    obtain ⟨calls, hcl⟩ := Cl.getMembers_eq b.tpcl
    have howed := Cl.owed_getMembers hon
    have hsig := Cl.getNextChannelMembers_signals b.tpcl ListId.all
    have hget : b.tpcl.getMembers = b.tpcl.getNextChannelMembers ListId.all := by
      unfold Cl.getMembers; rw [hon]
    rw [← hget] at hsig
    rw [hl', if_neg Bool.false_ne_true] at hflight
    dsimp only
    rcases hsig with hs | ⟨result, hs, hres⟩
    · -- the walk has begun
      rw [hs] at howed ⊢
      refine ⟨⟨?_, fun _ => rfl, ?_⟩, rfl, fun hf => absurd hf hl, fun _ => rfl⟩
      · have howed' : b.tpcl.getMembers.1.owed = b.tpcl.owed + 1 := howed
        unfold inFlight at hflight ⊢
        dsimp only
        rw [howed', if_pos rfl]
        omega
      · dsimp only
        rw [hcl]
        exact h.linked
    · -- no list could be asked: the roster counts as empty
      have hsome := hres (h.linked hon)
      subst hsome
      rw [hs] at howed ⊢
      have howed' : b.tpcl.getMembers.1.owed + 1 = b.tpcl.owed + 1 := howed
      refine ⟨tokenInv_rosterReceived ?_ rfl ?_, rfl, fun hf => absurd hf hl, fun _ => rfl⟩
      · unfold inFlight at hflight ⊢
        dsimp only
        omega
      · dsimp only
        rw [hcl]
        exact h.linked

/-- The last stage gives the token back, and passes it on if a reload is wanted. -/
theorem finishOnlineInitialization_spec {b : Backend} (h0 : b.inFlight = 0)
    (hlink : b.tpcl.status = .online → b.tpcl.isConnected = true)
    (hok : b.needContactsReload = true → b.tpcl.status = .online) :
    TokenInv b.finishOnlineInitialization
      ∧ b.finishOnlineInitialization.needContactsReload = false
      ∧ b.finishOnlineInitialization.isLoading = b.needContactsReload := by
  unfold finishOnlineInitialization finishWith
  dsimp only
  by_cases hr : b.needContactsReload = true
  · rw [if_pos hr]
    have hbase : TokenInv { b with isLoading := false, needContactsReload := false } :=
      ⟨h0, (by intro h; cases h), hlink⟩
    obtain ⟨h1, h2, -, h4⟩ := syncPhase1_online hbase (hok hr)
    exact ⟨h1, h4 rfl, by rw [h2, hr]⟩
  · have hr' : b.needContactsReload = false := by simpa using hr
    rw [if_neg hr]
    exact ⟨⟨h0, fun h => absurd h hr, hlink⟩, hr', hr'.symm⟩

/-! ## Signals -/

/-- A signal about contacts reaches the data only. -/
theorem dataOnly_onSignal {b : Backend} {s : Signal} (hd : s.isDone = false)
    (hs : ∀ x, s ≠ .statusChanged x) : DataOnly b (b.onSignal s) := by
  cases s with
  | getMembersDone result => cases hd
  | statusChanged x => exact absurd rfl (hs x)
  | contactsAdded cs =>
    exact dataOnly_ite (dataOnly_contactsAdded b cs)
  | contactsRemoved cs => exact dataOnly_ite (dataOnly_contactsRemoved b cs)
  | flagsChanged cs => exact dataOnly_ite (dataOnly_mergeByHandle b _ _ cs)
  | aliasesChanged cs => exact dataOnly_ite (dataOnly_mergeByHandle b _ _ cs)
  | presencesChanged cs => exact dataOnly_ite (dataOnly_mergeByHandle b _ _ cs)
  | avatarTokensChanged cs => exact dataOnly_ite (dataOnly_avatarTokensChanged b cs)
  | capabilitiesChanged cs => exact dataOnly_ite (dataOnly_mergeByHandle b _ _ cs)
  | contactInfoChanged cs => exact dataOnly_ite (dataOnly_mergeByHandle b _ _ cs)
  | avatarDataChanged c => exact dataOnly_ite (dataOnly_avatarDataChanged b c)
where
  dataOnly_ite {b b' : Backend} (h : DataOnly b b') :
      DataOnly b (if b.membersReady then b' else b) := by
    split
    · exact h
    · exact .refl b

theorem dataOnly_signals {b : Backend} {signals : List Signal} (hd : Cl.dones signals = 0)
    (hs : ∀ x, .statusChanged x ∉ signals) : DataOnly b (signals.foldl onSignal b) := by
  induction signals generalizing b with
  | nil => exact .refl b
  | cons s rest ih =>
    unfold Cl.dones at hd
    rw [List.countP_cons] at hd
    have hs0 : s.isDone = false := by
      by_contra hc
      rw [if_pos (by simpa using hc)] at hd
      omega
    have hsx : ∀ x, s ≠ .statusChanged x := fun x he => hs x (by rw [he]; exact List.mem_cons_self)
    exact (dataOnly_onSignal hs0 hsx).trans
      (ih (by unfold Cl.dones; omega) fun x hx => hs x (List.mem_cons_of_mem s hx))

theorem status_syncPhase1Fuel (fuel : Nat) (b : Backend) :
    (syncPhase1Fuel fuel b).tpcl.status = b.tpcl.status := by
  induction fuel generalizing b with
  | zero => rfl
  | succ fuel ih =>
    obtain ⟨calls, hcl⟩ := Cl.getMembers_eq b.tpcl
    have hst : b.tpcl.getMembers.1.status = b.tpcl.status := by rw [hcl]
    unfold syncPhase1Fuel
    split
    · rfl
    · dsimp only
      split
      · unfold finishWith
        dsimp only
        split
        · rw [ih]; exact hst
        · exact hst
      · exact hst
      · exact hst

theorem status_finishOnlineInitialization (b : Backend) :
    b.finishOnlineInitialization.tpcl.status = b.tpcl.status := by
  unfold finishOnlineInitialization finishWith
  dsimp only
  split
  · exact status_syncPhase1Fuel 2 _
  · rfl

/-! ## Steps -/

/-- What a step does with the token. -/
structure TokenStep (b : Backend) (e : Event) (b' : Backend) : Prop where
  inv : TokenInv b'
  /-- Coming online starts a sync or asks for one. -/
  online : b.membersReady = true → b.tpcl.status = .offline → b'.tpcl.status = .online →
    b'.isLoading = true ∧ (b.isLoading = true → b'.needContactsReload = true)
  /-- What was asked for starts when the sync in flight ends. -/
  restart : b.needContactsReload = true → b.endsSync e →
    b'.isLoading = true ∧ b'.needContactsReload = false
  /-- Until then it stays asked for. -/
  waits : b.needContactsReload = true → ¬ b.endsSync e → b'.needContactsReload = true

/-- A step that leaves the synchronisation alone. -/
theorem TokenStep.dataOnly {b b' : Backend} {e : Event} (h : TokenInv b) (hd : DataOnly b b')
    (he : ¬ b.endsSync e) : TokenStep b e b' where
  inv := h.dataOnly hd
  online := by
    intro _ hoff hon
    rw [hd.tpcl, hoff] at hon; cases hon
  restart := fun _ hends => absurd hends he
  waits := fun hr _ => by rw [hd.needContactsReload]; exact hr

/-- A step that runs `finish_online_initialization` from a state with no stage in flight. -/
theorem TokenStep.finish {b c : Backend} {e : Event} (h0 : c.inFlight = 0)
    (hlink : c.tpcl.status = .online → c.tpcl.isConnected = true)
    (hok : c.needContactsReload = true → c.tpcl.status = .online)
    (hst : c.tpcl.status = b.tpcl.status) (hneed : c.needContactsReload = b.needContactsReload)
    (he : b.endsSync e) : TokenStep b e c.finishOnlineInitialization := by
  obtain ⟨hinv, hr, hl⟩ := finishOnlineInitialization_spec h0 hlink hok
  refine ⟨hinv, fun _ hoff hon => ?_, fun hneeds _ => ⟨?_, hr⟩, fun _ hne => absurd he hne⟩
  · rw [status_finishOnlineInitialization, hst, hoff] at hon; cases hon
  · rw [hl, hneed]; exact hneeds

theorem TokenStep.append {b b' b'' : Backend} {e : Event} (h : TokenStep b e b')
    (hd : DataOnly b' b'') : TokenStep b e b'' where
  inv := h.inv.dataOnly hd
  online := fun hm hoff hon => by
    rw [hd.isLoading, hd.needContactsReload]
    exact h.online hm hoff (by rw [← hd.tpcl]; exact hon)
  restart := fun hr he => by rw [hd.isLoading, hd.needContactsReload]; exact h.restart hr he
  waits := fun hr he => by rw [hd.needContactsReload]; exact h.waits hr he

/-- The events of the contact list layer that do not end the walk. -/
theorem tokenStep_goesOn {b : Backend} {e : Cl.Event} {cl' : Cl} {signals : List Signal}
    (h : TokenInv b) (hlink : cl'.Linked) (hstatus : Cl.StatusEnd b.tpcl cl' signals)
    (hgood : ¬ b.endsSync (.cl e)) (hd : Cl.dones signals = 0) (ho : cl'.owed = b.tpcl.owed) :
    TokenStep b (.cl e) (signals.foldl onSignal { b with tpcl := cl' }) := by
  have hflight : ({ b with tpcl := cl' } : Backend).inFlight = b.inFlight := by
    unfold inFlight; rw [ho]
  have hbase : TokenInv { b with tpcl := cl' } := ⟨hflight.trans h.flight, h.reload, hlink⟩
  cases hstatus with
  | same hs heq =>
    have hdata : DataOnly { b with tpcl := cl' } _ := dataOnly_signals hd hs
    refine ⟨hbase.dataOnly hdata, fun _ hoff hon => ?_, fun _ hends => absurd hends hgood,
      fun hr _ => by rw [hdata.needContactsReload]; exact hr⟩
    rw [hdata.tpcl] at hon
    rw [heq, hoff] at hon; cases hon
  | online hoff hon _ =>
    rw [List.foldl_cons, List.foldl_nil]
    unfold onSignal tpClStatusChangedCb
    dsimp only
    split
    · obtain ⟨h1, h2, h3, h4⟩ := syncPhase1_online hbase hon
      refine ⟨h1, fun _ _ _ => ⟨h2, h3⟩, fun _ hends => absurd hends hgood, fun hr _ => ?_⟩
      by_cases hl : b.isLoading = true
      · exact h3 hl
      · exact absurd (h.reload hr) hl
    · rename_i hm
      exact ⟨hbase, fun hm' => absurd hm' hm, fun _ hends => absurd hends hgood, fun hr _ => hr⟩
  | offline hs hd' hon hoff =>
    rw [List.foldl_append, List.foldl_cons, List.foldl_nil]
    have hdata := (dataOnly_signals (b := { b with tpcl := cl' }) hd' hs).trans
      (dataOnly_offline _)
    refine ⟨hbase.dataOnly hdata, fun _ hoff' => ?_, fun _ hends => absurd hends hgood,
      fun hr _ => by rw [hdata.needContactsReload]; exact hr⟩
    rw [hon] at hoff'; cases hoff'
where
  dataOnly_offline (b : Backend) : DataOnly b (b.onSignal (.statusChanged .offline)) := by
    unfold onSignal tpClStatusChangedCb
    dsimp only
    split
    · exact ⟨_, b.out, b.wire, b.avatarSaves, rfl⟩
    · exact .refl b

/-- The events of the contact list layer. -/
theorem tokenStep_cl {b : Backend} {e : Cl.Event} {cl' : Cl} {signals : List Signal}
    (h : TokenInv b) (hok : b.endsSync (.cl e) → b.needContactsReload = true →
      b.tpcl.status = .online) (hs : b.tpcl.step e = some (cl', signals)) :
    TokenStep b (.cl e) (signals.foldl onSignal { b with tpcl := cl' }) := by
  have hwalk := Cl.walk_step hs
  obtain ⟨hlink, hstatus⟩ := Cl.status_step h.linked hs
  cases hwalk with
  | goesOn hgood hd ho => exact tokenStep_goesOn h hlink hstatus hgood hd ho
  | @ends result rest hres hd hnone ho =>
    rw [List.foldl_cons]
    have h0 : ({ b with tpcl := cl' } : Backend).inFlight = 0 ∧ b.isLoading = true := by
      have hflight := h.flight
      unfold inFlight at hflight ⊢
      dsimp only
      split at hflight
      · rename_i hl
        exact ⟨by omega, hl⟩
      · omega
    refine .append ?_ (dataOnly_signals hd hnone)
    cases result with
    | none =>
      have hends : b.endsSync (.cl e) := hres.mp rfl
      have hst : cl'.status = b.tpcl.status := Cl.status_of_abandonsWalk hends hs
      exact .finish (c := { b with tpcl := cl' }) h0.1 hlink
        (fun hr => hst.trans (hok hends hr)) hst rfl hends
    | some cs =>
      have hgood : ¬ b.endsSync (.cl e) := fun hends => by
        have := hres.mpr hends; cases this
      have hst : cl'.status = b.tpcl.status ∨ cl'.status = .offline := by
        generalize hsig : Signal.getMembersDone (some cs) :: rest = signals at hstatus
        cases hstatus with
        | same _ heq => exact .inl heq
        | online _ _ _ => cases hsig
        | offline _ _ _ hoff => exact .inr hoff
      refine ⟨tokenInv_rosterReceived (b := { b with tpcl := cl' }) h0.1 h0.2 hlink,
        fun _ hoff hon => ?_, fun _ hends => absurd hends hgood, fun hr _ => hr⟩
      have hon' : cl'.status = .online := hon
      rcases hst with hst | hst
      · rw [hst, hoff] at hon'; cases hon'
      · rw [hst] at hon'; cases hon'

/-- The events of phase 3. -/
theorem tokenStep_phase3Next {b : Backend} {order : List Nat} {b' : Backend} (h : TokenInv b)
    (hok : b.endsSync (.phase3Next order) → b.needContactsReload = true →
      b.tpcl.status = .online) (hs : b.take (.phase3Next order) = some b') :
    TokenStep b (.phase3Next order) b' := by
  have hflight := h.flight
  simp only [take] at hs
  split at hs
  · rename_i p rest hp
    rcases stepPhase3_cases hs with ⟨hbusy, b₁, p', hd, rfl⟩ | ⟨hended, out, rfl⟩
    · -- the token stays with the running phase 3
      have hgood : ¬ b.endsSync (.phase3Next order) := by
        rintro ⟨p'', rest', heq, hend⟩
        rw [hp] at heq
        cases heq
        exact hbusy hend
      obtain ⟨book, out, wire, saves, rfl⟩ := hd
      refine ⟨⟨Eq.trans ?_ hflight, h.reload, h.linked⟩, fun _ hoff hon => ?_,
        fun _ hends => absurd hends hgood, fun hr _ => hr⟩
      · unfold inFlight continuePhase3
        dsimp only
        rw [hp, List.length_cons, List.length_cons]
      · have hon' : b.tpcl.status = .online := hon
        rw [hoff] at hon'; cases hon'
    · have hends : b.endsSync (.phase3Next order) := ⟨p, rest, hp, hended⟩
      refine .finish (c := { b with phase3 := rest, out := out }) ?_ h.linked (hok hends) rfl rfl
        hends
      unfold inFlight at hflight ⊢
      rw [hp, List.length_cons] at hflight
      dsimp only
      split at hflight <;> omega
  · cases hs

theorem tokenStep_phase3 {b : Backend} {order : List Nat} {b' : Backend} (h : TokenInv b)
    (hok : b.endsSync (.phase3 order) → b.needContactsReload = true → b.tpcl.status = .online)
    (hs : b.take (.phase3 order) = some b') : TokenStep b (.phase3 order) b' := by
  have hflight := h.flight
  unfold inFlight at hflight
  simp only [take] at hs
  split at hs
  · rename_i hq
    cases hs
    unfold beginPhase3
    by_cases hon : b.tpcl.status = .online
    · rw [if_pos hon]
      have hgood : ¬ b.endsSync (.phase3 order) := fun hends => by
        have hoff : b.tpcl.status = .offline := hends
        rw [hon] at hoff; cases hoff
      refine ⟨⟨Eq.trans ?_ h.flight, h.reload, h.linked⟩, fun _ hoff => ?_,
        fun _ hends => absurd hends hgood, fun hr _ => hr⟩
      · unfold inFlight
        dsimp only
        rw [List.length_cons]
        omega
      · rw [hon] at hoff; cases hoff
    · have hoff : b.tpcl.status = .offline := by
        cases hs : b.tpcl.status with
        | online => exact absurd hs hon
        | offline => rfl
      rw [if_neg hon]
      refine .finish (c := { b with phase3Queued := b.phase3Queued - 1 }) ?_ h.linked
        (fun hr => hok hoff hr) rfl rfl hoff
      unfold inFlight
      dsimp only
      split at hflight <;> omega
  · cases hs

theorem tokenStep_phase2 {b b' : Backend} (h : TokenInv b) (hs : b.take .phase2 = some b') :
    TokenStep b .phase2 b' := by
  simp only [take] at hs
  split at hs
  · rename_i closure rest hp
    cases hs
    have hdata : ∃ b₁, DataOnly { b with phase2Queued := rest } b₁
        ∧ { b with phase2Queued := rest }.syncPhase2IdleCb closure
          = { b₁ with phase3Queued := b₁.phase3Queued + 1 } := by
      unfold syncPhase2IdleCb
      dsimp only
      split
      · exact ⟨_, ⟨_, _, b.wire, b.avatarSaves, rfl⟩, rfl⟩
      · exact ⟨_, .trans ⟨b.book, _, b.wire, b.avatarSaves, rfl⟩ (dataOnly_deleteContacts _ _), rfl⟩
    obtain ⟨b₁, ⟨book, out, wire, saves, rfl⟩, heq⟩ := hdata
    rw [heq]
    refine ⟨⟨Eq.trans ?_ h.flight, h.reload, h.linked⟩, fun _ hoff hon => ?_,
      fun _ hends => hends.elim, fun hr _ => hr⟩
    · unfold inFlight
      dsimp only
      rw [hp, List.length_cons]
      omega
    · have hon' : b.tpcl.status = .online := hon
      rw [hoff] at hon'; cases hon'
  · cases hs

/-- The import: a sync starts at once if the account is online already. -/
theorem tokenStep_phase0 {b b' : Backend} (h : TokenInv b) (hs : b.take .phase0 = some b') :
    TokenStep b .phase0 b' ∧ (b'.tpcl.status = .online → b'.isLoading = true) := by
  simp only [take] at hs
  split at hs
  · cases hs
    unfold syncPhase0IdleCb tpReadyCb
    dsimp only
    split
    · rename_i hon
      generalize hb : Backend.mk .. = b₁
      have hb1 : TokenInv b₁ ∧ b₁.tpcl.status = .online ∧ b₁.needContactsReload = b.needContactsReload
          ∧ b₁.isLoading = b.isLoading := by
        rw [← hb]; exact ⟨⟨h.flight, h.reload, h.linked⟩, hon, rfl, rfl⟩
      obtain ⟨hinv, hon1, hneed, hload⟩ := hb1
      obtain ⟨h1, h2, h3, h4⟩ := syncPhase1_online hinv hon1
      refine ⟨⟨h1, fun _ hoff => ?_, fun _ hends => hends.elim, fun hr _ => ?_⟩, fun _ => h2⟩
      · have hon' : b.tpcl.status = .online := hon
        rw [hoff] at hon'; cases hon'
      · exact h3 (by rw [hload]; exact h.reload hr)
    · rename_i hoff
      refine ⟨⟨⟨h.flight, h.reload, h.linked⟩, fun _ _ hon => absurd hon hoff,
        fun _ hends => hends.elim, fun hr _ => hr⟩, fun hon => absurd hon hoff⟩
  · cases hs

/-- **Every step hands the token on.** -/
theorem tokenStep_take {b b' : Backend} {e : Event} (h : TokenInv b)
    (hok : b.endsSync e → b.needContactsReload = true → b.tpcl.status = .online)
    (hs : b.take e = some b') : TokenStep b e b' := by
  cases e with
  | cl e =>
    simp only [take] at hs
    obtain ⟨⟨cl', signals⟩, hcl, rfl⟩ := Option.map_eq_some_iff.mp hs
    exact tokenStep_cl h hok hcl
  | phase0 => exact (tokenStep_phase0 h hs).1
  | phase2 => exact tokenStep_phase2 h hs
  | phase3 order => exact tokenStep_phase3 h hok hs
  | phase3Next order => exact tokenStep_phase3Next h hok hs
  | createContact ec => cases hs; exact .dataOnly h (dataOnly_createContact b ec) not_false
  | modifyContact ec => cases hs; exact .dataOnly h (dataOnly_modifyContact b ec) not_false
  | removeContact id => cases hs; exact .dataOnly h (dataOnly_removeContact b id) not_false
  | updateContactsIdle =>
    simp only [take] at hs
    split at hs
    · cases hs; exact .dataOnly h ⟨b.book, _, b.wire, b.avatarSaves, rfl⟩ not_false
    · cases hs
  | startView id => cases hs; exact .dataOnly h ⟨b.book, _, b.wire, b.avatarSaves, rfl⟩ not_false
  | stopView id => cases hs; exact .dataOnly h ⟨b.book, _, b.wire, b.avatarSaves, rfl⟩ not_false
  | inactivity on => cases hs; exact .dataOnly h ⟨b.book, _, b.wire, b.avatarSaves, rfl⟩ not_false
  | avatarDataSaved i ok =>
    simp only [take] at hs
    split at hs
    · cases hs
      exact .dataOnly h (.trans ⟨b.book, b.out, b.wire, _, rfl⟩ (dataOnly_avatarDataSaved _ _ ok))
        not_false
    · cases hs
  | getContact => cases hs; exact .dataOnly h ⟨b.book, _, b.wire, b.avatarSaves, rfl⟩ not_false

theorem endsSync_load (b : Backend) (env : Env) (e : Event) :
    (b.load env).endsSync e = b.endsSync e := by
  cases e <;> rfl

theorem tokenStep_step {b b' : Backend} {i : Input} (h : TokenInv b) (hok : ReloadOnline b i)
    (hs : machine.step b i = some b') : TokenStep (b.load i.env) i.event b' := by
  refine tokenStep_take ⟨h.flight, h.reload, h.linked⟩ (fun he => hok ?_) hs
  rw [← endsSync_load b i.env]
  exact he

/-- The invariant holds along every run in which no sync is started over while offline. -/
theorem tokenInv_guarded {pathSuffix vcardField : String} {db : Db} {is : List Input} {b : Backend}
    (h : machine.Guarded ReloadOnline (boot pathSuffix vcardField db) is b) : TokenInv b :=
  h.inv (fun _ _ _ hI hok hs => (tokenStep_step hI hok hs).inv)
    (tokenInv_boot pathSuffix vcardField db)

/-- The account comes up on a new connection, all the way to the online status. -/
def goOnline (conn first : Nat) : List Input :=
  [{ event := .cl (.connectionStatusChanged (some conn)) },
   { event := .cl (.done first true) },
   { event := .cl (.done first true) },
   { event := .cl (.done (first + 4) true) },
   { event := .cl (.done (first + 4) true) }]

/--
**The sync never gets stuck and never runs twice.**

In every run in which no sync is started over while the account is offline, the flag is
set exactly while one stage is in flight, and there is never a second. Coming online,
and being online when the import ends, starts a sync or asks for one; what was asked for
stays asked for until the sync in flight ends, and starts then.
-/
theorem sync_token {pathSuffix vcardField : String} {db : Db} {is : List Input} {b : Backend}
    (h : machine.Guarded ReloadOnline (boot pathSuffix vcardField db) is b) :
    (b.isLoading = true ↔ b.inFlight = 1) ∧ b.inFlight ≤ 1
      ∧ ∀ (i : Input) (b' : Backend), ReloadOnline b i → machine.step b i = some b' →
          (b.membersReady = true → b.tpcl.status = .offline → b'.tpcl.status = .online →
            b'.isLoading = true ∧ (b.isLoading = true → b'.needContactsReload = true))
          ∧ (i.event = .phase0 → b'.tpcl.status = .online → b'.isLoading = true)
          ∧ (b.needContactsReload = true → b.endsSync i.event →
              b'.isLoading = true ∧ b'.needContactsReload = false)
          ∧ (b.needContactsReload = true → ¬ b.endsSync i.event →
              b'.needContactsReload = true) := by
  have hinv := tokenInv_guarded h
  have hflight := hinv.flight
  refine ⟨?_, ?_, fun i b' hok hs => ?_⟩
  · constructor
    · intro hl; rw [hflight, if_pos hl]
    · intro h1
      by_contra hl
      rw [hflight, if_neg hl] at h1; cases h1
  · rw [hflight]; split <;> omega
  · have hstep := tokenStep_step hinv hok hs
    refine ⟨hstep.online, fun he hon => ?_, fun hr he => ?_, fun hr he => ?_⟩
    · have hload : TokenInv (b.load i.env) := ⟨hinv.flight, hinv.reload, hinv.linked⟩
      have hs0 : (b.load i.env).take .phase0 = some b' := by rw [← he]; exact hs
      exact (tokenStep_phase0 hload hs0).2 hon
    · exact hstep.restart hr (by rw [endsSync_load]; exact he)
    · exact hstep.waits hr (by rw [endsSync_load]; exact he)

/-- Twice online with a disconnect between, the first roster reply an error while online. -/
theorem sync_token_reconnect :
    ∃ b, machine.Guarded ReloadOnline (boot "acct" "X-JABBER" {})
        ({ event := .phase0 } :: goOnline 1 0
          ++ { event := .cl (.connectionStatusChanged none) } :: goOnline 2 5
          ++ [{ event := .cl (.allMembers 4 none) }]) b
      ∧ (b.isLoading = true ↔ b.inFlight = 1) := by
  have hrun : ((machine.runChecked (fun b _ => !b.needContactsReload || b.tpcl.status = .online)
      (boot "acct" "X-JABBER" {})
      ({ event := .phase0 } :: goOnline 1 0
        ++ { event := .cl (.connectionStatusChanged none) } :: goOnline 2 5
        ++ [{ event := .cl (.allMembers 4 none) }])).isSome) = true := by decide
  obtain ⟨b, hb⟩ := Option.isSome_iff_exists.mp hrun
  have hg : machine.Guarded ReloadOnline _ _ b := Machine.guarded_of_runChecked
    (fun b i hc _ hr => by rw [hr] at hc; simpa using hc) hb
  exact ⟨b, hg, (sync_token hg).1⟩

/--
The account goes offline, comes back, and goes offline again before the first roster reply
fails: the reload that was wanted sets the flag and starts nothing, and coming online once
more does not start a sync either.
-/
theorem sync_token_stuck :
    ∃ b, machine.Reaches (boot "acct" "X-JABBER" {}) b ∧ b.isLoading = true ∧ b.inFlight = 0
      ∧ b.tpcl.status = .online := by
  have hrun : ((machine.run (boot "acct" "X-JABBER" {})
      ({ event := .phase0 } :: goOnline 1 0
        ++ { event := .cl (.connectionStatusChanged none) } :: goOnline 2 5
        ++ { event := .cl (.connectionStatusChanged none) }
          :: { event := .cl (.allMembers 4 none) } :: goOnline 3 8)).map
      fun b => (b.isLoading, b.inFlight, b.tpcl.status)) = some (true, 0, .online) := by decide
  obtain ⟨b, hb, heq⟩ := Option.map_eq_some_iff.mp hrun
  obtain ⟨h1, h2⟩ := Prod.mk.inj heq
  obtain ⟨h2, h3⟩ := Prod.mk.inj h2
  exact ⟨b, ⟨_, hb⟩, h1, h2, h3⟩

end Backend

end EdsTelepathy
