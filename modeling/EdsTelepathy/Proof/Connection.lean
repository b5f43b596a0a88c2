import EdsTelepathy.Proof.Reach

/-!
# Nothing outlives the connection

The roster layer clears its table where the account goes offline, tells the address book
that everybody is offline, and then that the account is; the address book forgets the
handles. The argument is that by then everybody whose presence is known is in reach, so
that the news arrives. There is one way around all this: the account counts as online only
from the moment the subscribe list is ready, while contacts come through the other lists
as well. A connection that is lost before that is lost silently.
-/

namespace EdsTelepathy

/-! ## Where edits come from -/

/-- What an edit of the handler of a signal can be. -/
inductive FromSignal (s : Signal) : Edit → Prop where
  | reported {pathSuffix : String} {c : Contact} :
      c ∈ s.contacts → s.isHeard = true → s.isQuiet = false →
      FromSignal s (.memberReported pathSuffix c)
  | added {pathSuffix : String} {c : Contact} :
      c ∈ s.contacts → s.isHeard = true → s.isQuiet = false →
      FromSignal s (.contactAdded pathSuffix c)
  | copied {f : Carried} {c : Contact} :
      c ∈ s.contacts → (f = .presence ∨ f = .capabilities → s.isHeard = true) →
      FromSignal s (.mergeByHandle f c)
  | forgotten : s = .statusChanged .offline → FromSignal s .forgetHandles
  | cleared {r : Nat} : s.isQuiet = false → FromSignal s (.touch r .clearDelete)
  | deleted {rs : List Nat} : s.isQuiet = false → FromSignal s (.deleteContacts rs)

namespace Backend

theorem mem_signalEdits {b : Backend} {s : Signal} {ed : Edit} (h : ed ∈ b.signalEdits s) :
    FromSignal s ed := by
  have hmap : ∀ {f : Contact → Edit} {cs : List Contact}, ed ∈ (if b.membersReady then cs.map f else []) →
      ∃ c ∈ cs, ed = f c := by
    intro f cs hin
    split at hin
    · obtain ⟨c, hc, rfl⟩ := List.mem_map.mp hin
      exact ⟨c, hc, rfl⟩
    · cases hin
  have hcopied : ∀ {f : Carried} {cs : List Contact}, s.contacts = cs →
      (f = .presence ∨ f = .capabilities → s.isHeard = true) →
      ed ∈ (if b.membersReady then cs.map (.mergeByHandle f) else []) → FromSignal s ed := by
    intro f cs hcs hf hin
    obtain ⟨c, hc, rfl⟩ := hmap hin
    exact .copied (by rw [hcs]; exact hc) hf
  unfold signalEdits at h
  cases s with
  | getMembersDone result =>
    cases result with
    | none => cases h
    | some cs =>
      obtain ⟨c, hc, rfl⟩ := List.mem_map.mp h
      exact .reported hc rfl rfl
  | statusChanged st =>
    cases st with
    | online => cases h
    | offline =>
      dsimp only at h
      split at h
      · rw [List.mem_singleton.mp h]
        exact .forgotten rfl
      · cases h
  | contactsAdded cs =>
    obtain ⟨c, hc, rfl⟩ := hmap h
    exact .added hc rfl rfl
  | contactsRemoved cs =>
    dsimp only at h
    split at h
    · rcases List.mem_append.mp h with h | h
      · obtain ⟨r, -, rfl⟩ := List.mem_map.mp h
        exact .cleared rfl
      · rw [List.mem_singleton.mp h]
        exact .deleted rfl
    · cases h
  | flagsChanged cs => exact hcopied rfl (by simp) h
  | aliasesChanged cs => exact hcopied rfl (by simp) h
  | presencesChanged cs => exact hcopied rfl (fun _ => rfl) h
  | avatarTokensChanged cs => exact hcopied rfl (by simp) h
  | capabilitiesChanged cs => exact hcopied rfl (fun _ => rfl) h
  | contactInfoChanged cs => exact hcopied rfl (by simp) h
  | avatarDataChanged c =>
    dsimp only at h
    split at h
    · rw [List.mem_singleton.mp h]
      exact .copied (List.mem_singleton_self c) (by simp)
    · cases h

theorem mem_signalsEdits {b : Backend} {ss : List Signal} {ed : Edit} (h : ed ∈ b.signalsEdits ss) :
    ∃ s ∈ ss, FromSignal s ed := by
  induction ss generalizing b with
  | nil => cases h
  | cons s ss ih =>
    rcases List.mem_append.mp h with h | h
    · exact ⟨s, List.mem_cons_self, mem_signalEdits h⟩
    · obtain ⟨s', hs', hf⟩ := ih h
      exact ⟨s', List.mem_cons_of_mem s hs', hf⟩

end Backend

/--
What an edit of any other event is like: nobody is reported, a contact that is new is
offline, a request leaves what the roster reports alone, and where nobody can be asked (`asks` is
false) it leaves the name alone as well.
-/
def Edit.Requested (asks : Bool) (b : Book) : Edit → Prop
  | .memberReported _ _ => False
  | .contactAdded _ _ => False
  | .mergeByHandle _ _ => False
  | .forgetHandles => False
  | .importContact c => c.Offline
  | .createContact c => c.Offline
  | .addDone r c =>
    Contact.SameReport (b.contacts r) c ∧ (asks = false → c.name = (b.contacts r).name)
  | .addFailed r c => Contact.SameReport (b.contacts r) c
  | _ => True

namespace Backend

theorem offline_fetched {db : Db} {c : Contact} (h : c ∈ db.fetchContacts) : c.Offline := by
  obtain ⟨e, -, rfl⟩ := List.mem_map.mp h
  exact ⟨rfl, rfl, rfl⟩

theorem runAddContact_unconnected {b : Backend} {c : Contact} (hc : b.tpcl.isConnected = false)
    (hok : (b.runAddContact c).1 = true) : (b.runAddContact c).2.1 = c := by
  unfold runAddContact at hok ⊢
  split
  · rfl
  · rename_i hvalid
    rw [if_neg hvalid] at hok
    unfold Cl.runAddContact at hok ⊢
    rw [hc] at hok ⊢
    cases hok

theorem requested_enter {asks : Bool} {b : Backend} {c : Contact} (hc : c.Offline) :
    AllAlong Book.apply (Edit.Requested asks) b.book (b.enterEdits c) := by
  unfold enterEdits
  split
  · exact ⟨trivial, trivial⟩
  · exact ⟨hc, trivial⟩

theorem requested_create (asks : Bool) (b : Backend) (ec : Contact.EVCard) :
    AllAlong Book.apply (Edit.Requested asks) b.book (b.createEdits ec) := by
  have hnew := Contact.sameReport_updateFromEcontact Contact.new ec b.vcardField
  unfold createEdits
  generalize Contact.new.updateFromEcontact ec b.vcardField = p at hnew
  obtain ⟨_ | _, c⟩ := p
  · trivial
  · have hoff : ∀ u, (c.submitted u).Offline := fun u =>
      ⟨hnew.generic, hnew.status, hnew.capabilities⟩
    dsimp only
    split
    · have hsame := sameReport_runAddContact b
        (c.submitted (generateUid b.pathSuffix b.book.uidToContact c.name))
      generalize b.runAddContact _ = p at hsame
      obtain ⟨_ | _, c', w⟩ := p
      · trivial
      · exact requested_enter (b := { b with wire := w }) (hsame.offline (hoff _))
    · exact requested_enter (hoff _)

theorem requested_phase3 (b : Backend) (p : Phase3) :
    AllAlong Book.apply (Edit.Requested b.tpcl.isConnected) b.book (b.phase3Edits p) := by
  unfold phase3Edits
  split
  · exact ⟨trivial, trivial⟩
  · rename_i r _ _ _
    have hsame := sameReport_runAddContact b (b.book.contacts r)
    have hname := runAddContact_unconnected (b := b) (c := b.book.contacts r)
    generalize b.runAddContact _ = q at hsame hname
    obtain ⟨_ | _, c, w⟩ := q
    · exact ⟨hsame, trivial⟩
    · exact ⟨⟨hsame, fun hc => congrArg Contact.name (hname hc rfl)⟩, trivial⟩
  · split
    · exact ⟨trivial, trivial⟩
    · trivial
  · trivial

/-- Whether somebody can be merged: phase 3 is running, and there is a connection to ask. -/
def canMerge (b : Backend) : Bool := b.tpcl.isConnected && !b.phase3.isEmpty

/-- **The edits of an event that is not one of the roster layer.** -/
theorem edits_requested {b : Backend} {e : Event} (he : ∀ ce, e ≠ .cl ce) :
    AllAlong Book.apply (Edit.Requested b.canMerge) b.book (b.edits e) := by
  unfold edits
  cases e with
  | cl ce => exact absurd rfl (he ce)
  | phase0 =>
    refine allAlong_of_forall (fun ed hed _ => ?_) b.book
    obtain ⟨c, hc, rfl⟩ := List.mem_map.mp hed
    exact offline_fetched hc
  | phase2 => exact ⟨trivial, trivial⟩
  | phase3Next order =>
    dsimp only
    split
    · rename_i p rest hp
      have hcan : b.canMerge = b.tpcl.isConnected := by
        unfold canMerge
        rw [hp]
        exact Bool.and_true _
      rw [hcan]
      exact requested_phase3 b p
    · trivial
  | createContact ec => exact requested_create b.canMerge b.flush ec
  | modifyContact ec =>
    dsimp only
    unfold modifyEdits
    split
    · trivial
    · exact ⟨trivial, trivial⟩
  | removeContact id =>
    dsimp only
    unfold removeEdits
    split
    · trivial
    · split
      · trivial
      · unfold removeFoundEdits
        refine ⟨trivial, ?_⟩
        split
        · unfold removalEdits
          split
          · exact ⟨trivial, trivial, trivial⟩
          · split <;> exact ⟨trivial, trivial⟩
        · split
          · exact ⟨trivial, trivial⟩
          · trivial
  | _ => trivial

end Backend

/-! ## The handle index -/

namespace Book

/-- An edit that reports nobody and merges nobody enters nobody in the handle index. -/
theorem handles_requested {b : Book} {e : Edit} (h : b.handleToContact = ∅)
    (he : e.Requested false b) : (b.apply e).handleToContact = ∅ := by
  cases e with
  | memberReported pathSuffix cIn => exact he.elim
  | contactAdded pathSuffix cIn => exact he.elim
  | mergeByHandle f cIn => exact he.elim
  | forgetHandles => exact he.elim
  | importContact c => exact h
  | touch r t => exact h
  | deleteContacts rs =>
    show (rs.foldl deleteContact b).handleToContact = ∅
    refine foldl_inv (I := fun b : Book => b.handleToContact = ∅) (fun b r hb => ?_) rs h
    unfold deleteContact
    dsimp only
    split
    · dsimp only
      rw [hb]
      rfl
    · exact hb
  | createContact c => exact (createContact_handleToContact b c).trans h
  | modified r ec vcardField sent stored =>
    exact (modified_tables b r ec vcardField sent stored).1.trans h
  | scheduleRemoval r => exact h
  | addDone r c =>
    have hnone : b.mergeTarget r c = none := if_pos (he.2 rfl)
    exact ((handles_addDone b r c).1 hnone).trans h
  | addFailed r c => exact h
  | removalDone r => exact h

theorem Requested.calm {asks : Bool} {b : Book} {e : Edit} (h : e.Requested asks b)
    (K : Nat → Prop) : e.Calm b ∧ e.HeardOf K := by
  cases e with
  | memberReported pathSuffix cIn => exact h.elim
  | contactAdded pathSuffix cIn => exact h.elim
  | mergeByHandle f cIn => exact h.elim
  | forgetHandles => exact h.elim
  | addDone r c => exact ⟨h.1.toSamePresence, trivial⟩
  | addFailed r c => exact ⟨Contact.SameReport.toSamePresence h, trivial⟩
  | importContact c => exact ⟨h, trivial⟩
  | createContact c => exact ⟨h, trivial⟩
  | _ => exact ⟨trivial, trivial⟩

end Book

/-! ## What an event leaves of the roster layer -/

namespace Cl

/-- The callbacks owed are those owed before, or calls of the walk over the lists. -/
def WalkOnly (cl cl' : Cl) : Prop :=
  ∃ calls, cl' = { cl with calls := cl.calls ++ calls } ∧ ∀ p ∈ calls, p.2.isWalk = true

theorem WalkOnly.refl (cl : Cl) : WalkOnly cl cl :=
  ⟨[], by rw [List.append_nil], fun _ hp => (by cases hp)⟩

theorem WalkOnly.trans {cl cl' cl'' : Cl} (h : WalkOnly cl cl') (h' : WalkOnly cl' cl'') :
    WalkOnly cl cl'' := by
  obtain ⟨calls, rfl, hcalls⟩ := h
  obtain ⟨calls', rfl, hcalls'⟩ := h'
  refine ⟨calls ++ calls', by rw [List.append_assoc], fun p hp => ?_⟩
  exact (List.mem_append.mp hp).elim (hcalls p) (hcalls' p)

theorem walkOnly_call (cl : Cl) {c : Call} (hc : c.isWalk = true) : WalkOnly cl (cl.call c) :=
  ⟨[(cl.conn.getD 0, c)], rfl, fun p hp => by rw [List.mem_singleton.mp hp]; exact hc⟩

theorem walkOnly_getMembers (cl : Cl) : WalkOnly cl cl.getMembers.1 := by
  have hnext : ∀ ls, WalkOnly cl (cl.getNextChannelMembers ls).1 := by
    intro ls
    induction ls with
    | nil =>
      unfold getNextChannelMembers finishGetChannelMembers
      split
      · split
        · exact .refl cl
        · exact walkOnly_call cl rfl
      · exact .refl cl
    | cons l rest ih =>
      unfold getNextChannelMembers
      split
      · split
        · exact walkOnly_call cl rfl
        · exact ih
      · exact .refl cl
  unfold getMembers
  split
  · exact hnext _
  · exact .refl cl

theorem ByHandle.walkOnly {cl cl' : Cl} (h : ByHandle cl) (hw : WalkOnly cl cl') : ByHandle cl' := by
  obtain ⟨calls, rfl, hcalls⟩ := hw
  refine h.of_same ⟨rfl, Nat.le_refl _, fun _ _ => rfl⟩ fun p hp => ?_
  rcases List.mem_append.mp hp with hold | hnew
  · exact .inl hold
  · refine .inr fun k hk => ?_
    have hwalk := hcalls p hnew
    obtain ⟨conn, c⟩ := p
    cases c with
    | handleMembersChangedIdle k' => cases hwalk
    | _ => cases hk

/-- A step that is not about the connection leaves it; the account can only come online by it. -/
theorem link_step {cl cl' : Cl} {e : Event} {signals : List Signal}
    (hs : cl.step e = some (cl', signals)) :
    (∃ conn, e = .connectionStatusChanged conn)
      ∨ (cl'.isConnected = cl.isConnected ∧ (cl'.status = cl.status ∨ cl'.status = .online)) := by
  have hcb := step_callback hs
  generalize hr : (cl', signals) = r at hcb
  have hend : (∃ conn, e = .connectionStatusChanged conn)
      ∨ (r.1.isConnected = cl.isConnected ∧ (r.1.status = cl.status ∨ r.1.status = .online)) := by
    have hsame : ∀ {cl₁ : Cl}, SameLink cl cl₁ → (∃ conn, e = .connectionStatusChanged conn)
        ∨ (cl₁.isConnected = cl.isConnected ∧ (cl₁.status = cl.status ∨ cl₁.status = .online)) :=
      fun h => .inr ⟨h.2, .inl h.1⟩
    cases hcb with
    | connection conn => exact .inl ⟨conn, rfl⟩
    | members l added removed lp rp => exact hsame (sameLink_membersChanged cl l added removed lp rp)
    | report d => exact hsame (detailsCb_reported cl d).only.rosterOnly.sameLink
    | connectionReady ok ht =>
      exact hsame ((sameLink_takeCall ht).trans (sameLink_setup _ .subscribe ok).1)
    | requestHandles ok ht => exact hsame ((sameLink_takeCall ht).trans (sameLink_setup _ _ ok).2.1)
    | requestChannel ok ht => exact hsame ((sameLink_takeCall ht).trans (sameLink_setup _ _ ok).2.2)
    | @channelReady i l cl₁ ok ht =>
      have htaken := sameLink_takeCall ht
      unfold tpChannelReadyCb
      split
      · split
        · unfold setStatus
          split
          · exact hsame htaken
          · exact .inr ⟨htaken.2, .inr rfl⟩
        · exact hsame htaken
      · exact hsame htaken
    | idle ok ht => exact hsame ((sameLink_takeCall ht).trans (sameLink_idle _ _).1)
    | allMembers reply ht =>
      exact hsame ((sameLink_takeCall ht).trans (sameLink_channelGetAllMembers _ _ _ reply).1)
    | getContacts reply ht => exact hsame ((sameLink_takeCall ht).trans (sameLink_getContacts _ reply).1)
    | details reply ht => exact hsame ((sameLink_takeCall ht).trans (sameLink_details _ _ reply).1)
  rw [← hr] at hend
  exact hend

/-- Without a connection nobody enters the table. -/
theorem hash_unconnected {cl cl' : Cl} {e : Event} {signals : List Signal}
    (hc : cl.isConnected = false) (hhash : cl.contactsHash = ∅)
    (hs : cl.step e = some (cl', signals)) : cl'.contactsHash = ∅ := by
  have hcb := step_callback hs
  generalize hr : (cl', signals) = r at hcb
  have htaken : ∀ {i : Nat} {c : Call} {cl₁ : Cl}, cl.takeCall i = some (c, cl₁) →
      cl₁.isConnected = false ∧ cl₁.contactsHash = ∅ := by
    intro i c cl₁ ht
    obtain ⟨k, -, rfl⟩ := takeCall_eq ht
    exact ⟨hc, hhash⟩
  have hend : r.1.contactsHash = ∅ := by
    cases hcb with
    -- a connection that comes up brings nobody, and one that goes leaves nobody
    | connection conn =>
      unfold connectionStatusChangedCb
      cases conn with
      | some c =>
        dsimp only
        unfold setupTpConnection
        split <;> exact hhash
      | none =>
        dsimp only
        unfold setStatus
        split
        · exact hhash
        · rfl
    | members l added removed lp rp =>
      unfold tpChannelMembersChangedCb
      rw [hc]
      exact hhash
    | report d =>
      exact (detailsCb_reported cl d).only.sameHandles.hash.trans hhash
    | connectionReady ok ht => exact (hash_setUp _ .subscribe ok).1.trans (htaken ht).2
    | requestHandles ok ht => exact (hash_setUp _ _ ok).2.1.trans (htaken ht).2
    | requestChannel ok ht => exact (hash_setUp _ _ ok).2.2.trans (htaken ht).2
    | channelReady ok ht =>
      -- every other callback asks first whether there is a connection
      unfold tpChannelReadyCb
      rw [(htaken ht).1, Bool.and_false]
      exact (htaken ht).2
    | idle ok ht =>
      unfold handleMembersChangedIdleCb
      rw [(htaken ht).1]
      exact (htaken ht).2
    | allMembers reply ht =>
      unfold channelGetAllMembersCb
      rw [(htaken ht).1]
      cases reply <;> exact (htaken ht).2
    | getContacts reply ht =>
      unfold getContactsCb
      rw [(htaken ht).1]
      cases reply <;> exact (htaken ht).2
    | details reply ht =>
      unfold membersChangedWithDetailsCb
      rw [(htaken ht).1]
      cases reply <;> exact (htaken ht).2
  rw [← hr] at hend
  exact hend

/-- Without a connection there was none before the event, or the event took it. -/
theorem disconnected_step {cl cl' : Cl} {e : Event} {signals : List Signal}
    (hc : cl'.isConnected = false) (hs : cl.step e = some (cl', signals)) :
    e = .connectionStatusChanged none ∨ cl.isConnected = false := by
  rcases link_step hs with ⟨conn, rfl⟩ | ⟨hconn, -⟩
  · cases conn with
    | none => exact .inl rfl
    | some c =>
      have hpair : (cl.setupTpConnection c, []) = (cl', signals) := Option.some.inj hs
      obtain ⟨rfl, -⟩ := Prod.mk.inj hpair
      unfold setupTpConnection at hc
      split at hc
      · exact .inr hc
      · cases hc
  · exact .inr (hconn.symm.trans hc)

/-- A disconnect that does not find the account online says nothing and leaves the table. -/
theorem disconnect_offline {cl cl' : Cl} {signals : List Signal} (hst : cl.status = .offline)
    (hs : cl.step (.connectionStatusChanged none) = some (cl', signals)) :
    cl'.contactsHash = cl.contactsHash ∧ signals = [] := by
  have hpair : cl.connectionStatusChangedCb none = (cl', signals) := Option.some.inj hs
  unfold connectionStatusChangedCb setStatus at hpair
  rw [if_pos hst.symm] at hpair
  obtain ⟨rfl, rfl⟩ := Prod.mk.inj hpair
  exact ⟨rfl, rfl⟩

/-- The account is reported offline by a disconnect that finds it online, and by nothing else. -/
theorem offline_reported {cl cl' : Cl} {e : Event} {signals : List Signal}
    (hs : cl.step e = some (cl', signals)) (hend : StatusEnd cl cl' signals)
    (hin : .statusChanged .offline ∈ signals) :
    e = .connectionStatusChanged none ∧ cl.status = .online := by
  cases hend with
  | same hno _ => exact absurd hin (hno _)
  | online _ _ _ => cases List.mem_singleton.mp hin
  | @offline signals _ _ hon hoff =>
    refine ⟨?_, hon⟩
    rcases link_step hs with ⟨conn, rfl⟩ | ⟨-, hst | hst⟩
    · cases conn with
      | none => rfl
      | some c =>
        have hpair : (cl.setupTpConnection c, []) = (cl', signals ++ [.statusChanged .offline]) :=
          Option.some.inj hs
        exact absurd (Prod.mk.inj hpair).2.symm (List.append_ne_nil_of_right_ne_nil _ nofun)
    · rw [hst, hon] at hoff; cases hoff
    · rw [hst] at hoff; cases hoff

end Cl

namespace Backend

theorem DataOnly.walkOnly {b b' : Backend} (h : DataOnly b b') : Cl.WalkOnly b.tpcl b'.tpcl := by
  rw [h.tpcl]
  exact .refl _

theorem walkOnly_finishWith {sync : Backend → Backend}
    (hsync : ∀ b : Backend, Cl.WalkOnly b.tpcl (sync b).tpcl) (b : Backend) :
    Cl.WalkOnly b.tpcl (b.finishWith sync).tpcl := by
  unfold finishWith
  dsimp only
  split
  · exact hsync _
  · exact .refl _

theorem walkOnly_syncPhase1Fuel (fuel : Nat) (b : Backend) :
    Cl.WalkOnly b.tpcl (syncPhase1Fuel fuel b).tpcl := by
  induction fuel generalizing b with
  | zero => exact .refl _
  | succ fuel ih =>
    unfold syncPhase1Fuel
    split
    · exact .refl _
    · have hget := Cl.walkOnly_getMembers b.tpcl
      dsimp only
      split
      · exact hget.trans (walkOnly_finishWith ih _)
      · exact hget
      · exact hget

theorem walkOnly_syncPhase1 (b : Backend) : Cl.WalkOnly b.tpcl b.syncPhase1.tpcl :=
  walkOnly_syncPhase1Fuel 2 b

theorem walkOnly_finishOnlineInitialization (b : Backend) :
    Cl.WalkOnly b.tpcl b.finishOnlineInitialization.tpcl :=
  walkOnly_finishWith walkOnly_syncPhase1 b

theorem walkOnly_onSignal (b : Backend) (s : Signal) : Cl.WalkOnly b.tpcl (b.onSignal s).tpcl := by
  by_cases hd : s.isDone = true
  · cases s with
    | getMembersDone result =>
      cases result with
      | none => exact walkOnly_finishOnlineInitialization b
      | some cs => exact .refl _
    | _ => cases hd
  · by_cases hst : s = .statusChanged .online
    · subst hst
      unfold onSignal tpClStatusChangedCb
      dsimp only
      split
      · exact walkOnly_syncPhase1 b
      · exact .refl _
    · have hite : ∀ {b' : Backend}, Cl.WalkOnly b.tpcl b'.tpcl →
          Cl.WalkOnly b.tpcl (if b.membersReady then b' else b).tpcl := by
        intro b' h
        split
        · exact h
        · exact .refl _
      cases s with
      | getMembersDone result => exact absurd rfl hd
      | statusChanged st =>
        cases st with
        | online => exact absurd rfl hst
        | offline => exact hite (.refl _)
      | contactsAdded cs => exact hite (dataOnly_contactsAdded b cs).walkOnly
      | contactsRemoved cs => exact hite (dataOnly_contactsRemoved b cs).walkOnly
      | avatarTokensChanged cs => exact hite (dataOnly_avatarTokensChanged b cs).walkOnly
      | avatarDataChanged c => exact hite (dataOnly_avatarDataChanged b c).walkOnly
      | _ cs => exact hite (dataOnly_mergeByHandle b _ _ cs).walkOnly

theorem walkOnly_onSignals (b : Backend) (ss : List Signal) :
    Cl.WalkOnly b.tpcl (ss.foldl onSignal b).tpcl :=
  foldl_inv (I := fun b' : Backend => Cl.WalkOnly b.tpcl b'.tpcl)
    (fun b' s h => h.trans (walkOnly_onSignal b' s)) ss (.refl _)

/-- An event of another layer makes calls of the walk at most. -/
theorem walkOnly_take {b b' : Backend} {e : Event} (he : ∀ ce, e ≠ .cl ce) (h : b.take e = some b') :
    Cl.WalkOnly b.tpcl b'.tpcl := by
  cases take_taken h with
  | cl hstep => exact absurd rfl (he _)
  | phase0 _ =>
    unfold syncPhase0IdleCb tpReadyCb
    dsimp only
    split
    · exact walkOnly_syncPhase1 _
    · exact .refl _
  | phase2 _ =>
    unfold syncPhase2IdleCb
    dsimp only
    split
    · exact .refl _
    · exact .refl _
  | phase3 _ _ =>
    unfold beginPhase3
    split
    · exact .refl _
    · exact walkOnly_finishOnlineInitialization _
  | @phase3Next _ p rest _ hp hstep =>
    rcases stepPhase3_cases hstep with ⟨-, b₁, p', hd, rfl⟩ | ⟨-, out, rfl⟩
    · exact hd.walkOnly
    · exact walkOnly_finishOnlineInitialization _
  | createContact ec => exact (dataOnly_createContact b ec).walkOnly
  | modifyContact ec => exact (dataOnly_modifyContact b ec).walkOnly
  | removeContact id => exact (dataOnly_removeContact b id).walkOnly
  | updateContactsIdle => exact .refl _
  | startView id => exact .refl _
  | stopView id => exact .refl _
  | inactivity on => exact .refl _
  | @avatarDataSaved i r ok _ =>
    exact (dataOnly_avatarDataSaved { b with avatarSaves := b.avatarSaves.eraseIdx i } r ok).walkOnly
  | getContact => exact .refl _

/-- An invariant of the roster layer is one of the whole backend. -/
theorem reachable_tpcl {I : Cl → Prop} (hinit : I {})
    (hstep : ∀ cl e cl' signals, I cl → cl.step e = some (cl', signals) → I cl')
    (hwalk : ∀ cl cl', I cl → Cl.WalkOnly cl cl' → I cl') {pathSuffix vcardField : String} {db : Db}
    {b : Backend} (h : ReachableFrom pathSuffix vcardField db b) : I b.tpcl := by
  obtain ⟨is, hrun⟩ := h
  refine machine.run_inv (I := fun b : Backend => I b.tpcl) (fun b i b' hI hs => ?_) hrun hinit
  have hs' : (b.load i.env).take i.event = some b' := hs
  generalize i.event = event at hs'
  by_cases hcl : ∃ e, event = .cl e
  · obtain ⟨e, rfl⟩ := hcl
    obtain ⟨⟨cl, signals⟩, hclstep, rfl⟩ := Option.map_eq_some_iff.mp hs'
    exact hwalk _ _ (hstep _ _ _ _ hI hclstep) (walkOnly_onSignals _ signals)
  · exact hwalk b.tpcl _ hI (walkOnly_take (b := b.load i.env) (fun e he => hcl ⟨e, he⟩) hs')

theorem reachable_byHandle {pathSuffix vcardField : String} {db : Db} {b : Backend}
    (h : ReachableFrom pathSuffix vcardField db b) : b.tpcl.ByHandle :=
  reachable_tpcl Cl.byHandle_init (fun _ _ _ _ hI hs => (Cl.handles_step hI hs).1.byHandle)
    (fun _ _ hI hw => hI.walkOnly hw) h

/-! ## Before the import -/

/-- No roster is under way. -/
structure Unsynced (b : Backend) : Prop where
  owed : b.tpcl.owed = 0
  phase2 : b.phase2Queued = []
  phase3 : b.phase3Queued = 0
  running : b.phase3 = []

theorem ready_take {b b' : Backend} {e : Event} (h : b.take e = some b')
    (hr : b.membersReady = true) : b'.membersReady = true := by
  cases take_taken h with
  | cl hstep => exact (sameAgenda_onSignals _ _).ready.trans hr
  | phase0 _ =>
    obtain ⟨views, hsync⟩ := tpReadyCb_spec
      { b with
        book := b.out.db.fetchContacts.foldl Book.importContact b.book
        phase0Queued := false }
    exact hsync.sameAgenda.ready
  | phase2 _ =>
    unfold syncPhase2IdleCb
    dsimp only
    split <;> exact hr
  | phase3 _ _ =>
    unfold beginPhase3
    split
    · exact hr
    · exact (syncOnly_finishOnlineInitialization _).sameAgenda.ready.trans hr
  | phase3Next _ hstep =>
    rcases stepPhase3_cases hstep with ⟨-, b₁, p', hd, rfl⟩ | ⟨-, out, rfl⟩
    · exact hd.membersReady.trans hr
    · exact (syncOnly_finishOnlineInitialization _).sameAgenda.ready.trans hr
  | createContact ec => exact (dataOnly_createContact b ec).membersReady.trans hr
  | modifyContact ec => exact (dataOnly_modifyContact b ec).membersReady.trans hr
  | removeContact id => exact (dataOnly_removeContact b id).membersReady.trans hr
  | updateContactsIdle => exact hr
  | startView id => exact hr
  | stopView id => exact hr
  | inactivity on => exact hr
  | avatarDataSaved ok _ => exact (dataOnly_avatarDataSaved _ _ ok).membersReady.trans hr
  | getContact => exact hr

theorem Unsynced.dataOnly {b b' : Backend} (h : Unsynced b) (hd : DataOnly b b') : Unsynced b' := by
  obtain ⟨_, _, _, _, rfl⟩ := hd
  exact ⟨h.owed, h.phase2, h.phase3, h.running⟩

/-- Before the cache is imported the signals of the roster are not heard. -/
theorem unsynced_cl {b : Backend} {cl : Cl} {e : Cl.Event} {signals : List Signal} (h : Unsynced b)
    (hm : b.membersReady = false) (hstep : b.tpcl.step e = some (cl, signals)) :
    signals.foldl onSignal { b with tpcl := cl } = { b with tpcl := cl }
      ∧ Unsynced { b with tpcl := cl } := by
  cases Cl.walk_step hstep with
  | goesOn _ hdones howed =>
    refine ⟨onSignals_unready (b := { b with tpcl := cl }) hm hdones, ?_⟩
    exact ⟨howed.trans h.owed, h.phase2, h.phase3, h.running⟩
  | ends _ _ _ howed =>
    have hzero := h.owed
    omega

/-- Before the import no roster is under way, and the roster layer is not listened to. -/
theorem unsynced_take {b b' : Backend} {e : Event} (h : Unsynced b) (hm : b.membersReady = false)
    (hs : b.take e = some b') : b'.membersReady = true ∨ Unsynced b' := by
  cases take_taken hs with
  | cl hstep =>
    obtain ⟨heq, hcl⟩ := unsynced_cl h hm hstep
    rw [heq]
    exact .inr hcl
  | phase0 _ =>
    obtain ⟨views, hsync⟩ := tpReadyCb_spec
      { b with
        book := b.out.db.fetchContacts.foldl Book.importContact b.book
        phase0Queued := false }
    exact .inl hsync.sameAgenda.ready
  | phase2 hq =>
    rw [h.phase2] at hq
    cases hq
  | phase3 hq _ =>
    rw [h.phase3] at hq
    omega
  | phase3Next hp _ =>
    rw [h.running] at hp
    cases hp
  | createContact ec => exact .inr (h.dataOnly (dataOnly_createContact b ec))
  | modifyContact ec => exact .inr (h.dataOnly (dataOnly_modifyContact b ec))
  | removeContact id => exact .inr (h.dataOnly (dataOnly_removeContact b id))
  | updateContactsIdle => exact .inr (h.dataOnly ⟨_, _, b.wire, b.avatarSaves, rfl⟩)
  | startView id => exact .inr (h.dataOnly ⟨_, _, b.wire, b.avatarSaves, rfl⟩)
  | stopView id => exact .inr (h.dataOnly ⟨_, _, b.wire, b.avatarSaves, rfl⟩)
  | inactivity on => exact .inr (h.dataOnly ⟨_, _, b.wire, b.avatarSaves, rfl⟩)
  | @avatarDataSaved i r ok _ =>
    refine .inr (h.dataOnly (.trans ?_ (dataOnly_avatarDataSaved _ r ok)))
    exact ⟨b.book, b.out, b.wire, _, rfl⟩
  | getContact => exact .inr (h.dataOnly ⟨_, _, b.wire, b.avatarSaves, rfl⟩)

/-! ## Signals of a step -/

/-- The handles of the roster. -/
def rosterHandles (cl : Cl) : Nat → Prop := fun h => (cl.lookup h).isSome = true

/-- Signals about handles of the roster leave everybody in reach, unless they forget the handles. -/
theorem inReach_signals {b : Backend} {K : Nat → Prop} {ss : List Signal} (h : b.book.InReach K)
    (hplain : ∀ s ∈ ss, ∀ c ∈ s.contacts, c.Plain)
    (hheard : ∀ s ∈ ss, s.isHeard = true → ∀ c ∈ s.contacts, K c.handle)
    (hoff : .statusChanged .offline ∉ ss)
    (hok : AllAlong Book.apply Edit.KeepsReach b.book (b.signalsEdits ss)) :
    (ss.foldl onSignal b).book.InReach K := by
  rw [onSignals_book]
  have hfrom : AllAlong Book.apply (fun book ed => ed.Calm book ∧ ed.HeardOf K) b.book
      (b.signalsEdits ss) := by
    refine allAlong_of_forall (fun ed hed book => ?_) b.book
    obtain ⟨s, hs, hf⟩ := mem_signalsEdits hed
    cases hf with
    | reported hc hh _ => exact ⟨trivial, hheard s hs hh _ hc⟩
    | added hc hh _ => exact ⟨trivial, hheard s hs hh _ hc⟩
    | copied hc hf => exact ⟨trivial, fun hp => hheard s hs (hf hp) _ hc⟩
    | forgotten heq => exact absurd (heq ▸ hs) hoff
    | cleared _ => exact ⟨trivial, trivial⟩
    | deleted _ => exact ⟨trivial, trivial⟩
  exact (((proper_signals b hplain).and hfrom).and hok).foldl_inv
    (fun book ed hI hP => Book.inReach_apply hI hP.1.1 hP.1.2.1 hP.1.2.2 hP.2) h

/-- Nobody is entered where nobody is in the table of the roster. -/
theorem handles_signals {b : Backend} {ss : List Signal} (h : b.book.handleToContact = ∅)
    (hnobody : ∀ s ∈ ss, s.isHeard = true → s.contacts = []) :
    (ss.foldl onSignal b).book.handleToContact = ∅ := by
  rw [onSignals_book]
  have hfrom : AllAlong Book.apply (fun _ ed => ∀ book : Book, book.handleToContact = ∅ →
      (book.apply ed).handleToContact = ∅) b.book (b.signalsEdits ss) := by
    refine allAlong_of_forall (fun ed hed _ book hempty => ?_) b.book
    obtain ⟨s, hs, hf⟩ := mem_signalsEdits hed
    cases hf with
    | reported hc hh _ => rw [hnobody s hs hh] at hc; cases hc
    | added hc hh _ => rw [hnobody s hs hh] at hc; cases hc
    | copied hc _ =>
      unfold Book.apply Book.mergeByHandle
      dsimp only
      split <;> exact hempty
    | forgotten _ => rfl
    | cleared _ => exact hempty
    | @deleted rs _ =>
      exact Book.handles_requested (e := .deleteContacts rs) hempty trivial
  exact hfrom.foldl_inv (fun book ed hI hP => hP book hI) h

/-- Nobody of the uid index is found under the handle. -/
def Vacant (b : Book) (x : Nat) : Prop := ∀ r, b.handleToContact.lookup x = some r → ¬ b.Live r

theorem vacant_quiet {b : Backend} {s : Signal} (hq : s.isQuiet = true) {x : Nat}
    (h : Vacant b.book x) : Vacant (b.onSignal s).book x := by
  rw [onSignal_book]
  have hfrom : AllAlong Book.apply (fun _ ed => ∃ f c, ed = Edit.mergeByHandle f c) b.book
      (b.signalEdits s) := by
    refine allAlong_of_forall (fun ed hed _ => ?_) b.book
    have hf := mem_signalEdits hed
    cases hf with
    | reported _ _ hno => rw [hq] at hno; cases hno
    | added _ _ hno => rw [hq] at hno; cases hno
    | copied _ _ => exact ⟨_, _, rfl⟩
    | forgotten heq => rw [heq] at hq; cases hq
    | cleared hno => rw [hq] at hno; cases hno
    | deleted hno => rw [hq] at hno; cases hno
  refine hfrom.foldl_inv (I := fun book => Vacant book x) (fun book ed hI hP => ?_) h
  obtain ⟨f, c, rfl⟩ := hP
  unfold Book.apply Book.mergeByHandle
  dsimp only
  split
  · rename_i r hr
    intro y hy hl
    refine hI y hy ?_
    unfold Book.Live at hl ⊢
    by_cases he : y = r
    · subst he
      rw [Book.modify_contacts_self, (f.sameKeys c _).1] at hl
      exact hl
    · rw [Book.modify_contacts_of_ne he] at hl
      exact hl
  · exact hI

/-- Whoever was found under the handle of a contact that was announced as removed is deleted. -/
theorem vacant_removed {b : Backend} (hm : b.membersReady = true) {cs : List Contact} {c : Contact}
    (hc : c ∈ cs) : Vacant (b.onSignal (.contactsRemoved cs)).book c.handle := by
  have hbook : (b.onSignal (.contactsRemoved cs)).book
      = (b.book.byHandle cs).foldl Book.deleteContact
          (((b.book.byHandle cs).map (Edit.touch · .clearDelete)).foldl Book.apply b.book) := by
    have hready : b.onSignal (.contactsRemoved cs) = b.tpClContactsRemoved cs := if_pos hm
    rw [hready, tpClContactsRemoved_book, List.foldl_append]
    rfl
  have hcleared : (((b.book.byHandle cs).map (Edit.touch · .clearDelete)).foldl Book.apply
      b.book).handleToContact = b.book.handleToContact := by
    rw [List.foldl_map]
    generalize b.book.byHandle cs = rs
    refine foldl_inv (f := fun (book : Book) r => book.apply (.touch r .clearDelete))
      (I := fun book : Book => book.handleToContact = b.book.handleToContact) (fun _ _ hI => ?_) rs rfl
    exact hI
  rw [hbook]
  generalize ((b.book.byHandle cs).map (Edit.touch · .clearDelete)).foldl Book.apply b.book = book₁
    at hcleared ⊢
  intro r hr hl
  have hold : book₁.handleToContact.lookup c.handle = some r := by
    refine foldl_inv (I := fun book : Book => book.handleToContact.lookup c.handle = some r →
      book₁.handleToContact.lookup c.handle = some r) (fun book x hI hx => ?_) _ id hr
    exact hI (Book.deleteContact_handle hx).1
  rw [hcleared] at hold
  have hin : r ∈ b.book.byHandle cs := List.mem_filterMap.mpr ⟨c, hc, hold⟩
  exact Book.dead_deleteContacts hin hl

/-- Only what is in reach of a handle that is still taken counts. -/
theorem inReach_shrink {b : Book} {K K' : Nat → Prop} (h : b.InReach K)
    (hgone : ∀ x, K x → K' x ∨ Vacant b x) : b.InReach K' := by
  intro r hr
  rcases h r hr with hoff | ⟨x, hx, hl⟩
  · exact .inl hoff
  · rcases hgone x hx with hx' | hvacant
    · exact .inr ⟨x, hx', hl⟩
    · exact absurd hr (hvacant r hl)

/-- Whoever has left the roster in a step is found under no handle any more. -/
theorem vacant_announced {b : Backend} (hm : b.membersReady = true) {before after : List Signal}
    {cs : List Contact} {c : Contact} (hc : c ∈ cs) (hquiet : ∀ s ∈ after, s.isQuiet = true) :
    Vacant ((before ++ .contactsRemoved cs :: after).foldl onSignal b).book c.handle := by
  rw [List.foldl_append, List.foldl_cons]
  have hready := (sameAgenda_onSignals b before).ready.trans hm
  have hremoved := vacant_removed hready hc
  generalize (before.foldl onSignal b).onSignal (.contactsRemoved cs) = b₁ at hremoved ⊢
  clear hready
  induction after generalizing b₁ with
  | nil => exact hremoved
  | cons s after ih =>
    refine ih (fun s' hs' => hquiet s' (List.mem_cons_of_mem s hs')) _ ?_
    exact vacant_quiet (hquiet s List.mem_cons_self) hremoved

/-! ## Everybody is reported offline -/

/-- What every report of a loop makes true is true of every contact that one of them is about. -/
theorem foldl_mergeByHandle_sets {Q : Contact → Prop} {f : Carried} {cs : List Contact}
    (hset : ∀ c ∈ cs, ∀ c', Q (f.copy c c')) (b : Book) :
    ∀ r, (Q (b.contacts r) ∨ ∃ c ∈ cs, b.handleToContact.lookup c.handle = some r) →
      Q ((cs.foldl (Book.mergeByHandle f.copy) b).contacts r) := by
  induction cs generalizing b with
  | nil =>
    rintro r (hq | ⟨c, hc, -⟩)
    · exact hq
    · cases hc
  | cons c cs ih =>
    intro r hr
    have htable : (b.mergeByHandle f.copy c).handleToContact = b.handleToContact := by
      unfold Book.mergeByHandle
      split <;> rfl
    refine ih (fun c' hc' => hset c' (List.mem_cons_of_mem c hc')) _ r ?_
    by_cases hin : ∃ c' ∈ cs, b.handleToContact.lookup c'.handle = some r
    · rw [htable]
      exact .inr hin
    · left
      unfold Book.mergeByHandle
      split
      · rename_i x hx
        by_cases he : r = x
        · subst he
          rw [Book.modify_contacts_self]
          exact hset c List.mem_cons_self _
        · rw [Book.modify_contacts_of_ne he]
          refine hr.resolve_right ?_
          rintro ⟨c', hc', hl⟩
          rcases List.mem_cons.mp hc' with rfl | hc'
          · exact he (Option.some.inj (hl.symm.trans hx))
          · exact hin ⟨c', hc', hl⟩
      · rename_i hnone
        refine hr.resolve_right ?_
        rintro ⟨c', hc', hl⟩
        rcases List.mem_cons.mp hc' with rfl | hc'
        · rw [hnone] at hl; cases hl
        · exact hin ⟨c', hc', hl⟩

theorem foldl_mergeByHandle_tables (f : Contact → Contact → Contact) (cs : List Contact) (b : Book) :
    (cs.foldl (Book.mergeByHandle f) b).handleToContact = b.handleToContact
      ∧ (cs.foldl (Book.mergeByHandle f) b).uidToContact = b.uidToContact := by
  refine foldl_inv (I := fun b' : Book => b'.handleToContact = b.handleToContact
    ∧ b'.uidToContact = b.uidToContact) (fun b' c hI => ?_) cs ⟨rfl, rfl⟩
  unfold Book.mergeByHandle
  split <;> exact hI

theorem foldl_mergeByHandle_keeps {Q : Contact → Prop} {f : Carried}
    (hkeep : ∀ c c', Q c' → Q (f.copy c c')) (cs : List Contact) {b : Book} {r : Nat}
    (h : Q (b.contacts r)) : Q ((cs.foldl (Book.mergeByHandle f.copy) b).contacts r) := by
  refine foldl_inv (I := fun b' : Book => Q (b'.contacts r)) (fun b' c hI => ?_) cs h
  unfold Book.mergeByHandle
  split
  · rename_i x _
    by_cases he : r = x
    · subst he
      rw [Book.modify_contacts_self]
      exact hkeep c _ hI
    · rw [Book.modify_contacts_of_ne he]
      exact hI
  · exact hI

/-- **The reports of a disconnect reach everybody, and then the handles are forgotten.** -/
theorem detached_offline {b b' : Backend} {K : Nat → Prop} (hm : b.membersReady = true)
    (h : b.book.InReach K) {cs : List Contact} (hoff : ∀ c ∈ cs, c.Offline)
    (hall : ∀ x, K x → ∃ c ∈ cs, c.handle = x) (hb : b' = (Cl.farewell cs).foldl onSignal b) :
    b'.book.handleToContact = ∅ ∧ ∀ r, b'.book.Live r → (b'.book.contacts r).Offline := by
  have hbook : b'.book = { cs.foldl (Book.mergeByHandle Carried.capabilities.copy)
      (cs.foldl (Book.mergeByHandle Carried.presence.copy) b.book) with handleToContact := ∅ } := by
    have hready : ∀ {b₁ : Backend}, b₁.membersReady = true →
        (b₁.onSignal (.statusChanged .offline)).book = { b₁.book with handleToContact := ∅ } := by
      intro b₁ h₁
      have heq : b₁.onSignal (.statusChanged .offline) = b₁.tpClStatusChangedCb .offline := if_pos h₁
      rw [heq]
      rfl
    rw [hb]
    unfold Cl.farewell
    by_cases hnil : cs = []
    · subst hnil
      exact hready hm
    · rw [if_neg hnil, List.foldl_append]
      show (((b.onSignal (.presencesChanged cs)).onSignal (.capabilitiesChanged cs)).onSignal
        (.statusChanged .offline)).book = _
      have h1 : b.onSignal (.presencesChanged cs) = b.tpClPresenceChangedCb cs := if_pos hm
      have h2 : (b.tpClPresenceChangedCb cs).onSignal (.capabilitiesChanged cs)
          = (b.tpClPresenceChangedCb cs).tpClCapabilitiesChangedCb cs := if_pos hm
      have h3 : ((b.tpClPresenceChangedCb cs).tpClCapabilitiesChangedCb cs).membersReady = true := hm
      rw [h1, h2]
      exact hready h3
  rw [hbook]
  refine ⟨rfl, fun r hr => ?_⟩
  obtain ⟨ht1, hu1⟩ := foldl_mergeByHandle_tables Carried.presence.copy cs b.book
  obtain ⟨ht2, hu2⟩ := foldl_mergeByHandle_tables Carried.capabilities.copy cs
    (cs.foldl (Book.mergeByHandle Carried.presence.copy) b.book)
  have huid : ∀ (f : Carried) (book : Book), ((cs.foldl (Book.mergeByHandle f.copy) book).contacts r).uid
      = (book.contacts r).uid := fun f book =>
    foldl_mergeByHandle_keeps (Q := fun c => c.uid = (book.contacts r).uid)
      (fun c c' hc => (f.sameKeys c c').1.trans hc) cs rfl
  have hl : b.book.Live r := by
    unfold Book.Live at hr ⊢
    dsimp only at hr
    rw [huid, huid, hu2, hu1] at hr
    exact hr
  have hheard : (b.book.contacts r).Offline
      ∨ ∃ c ∈ cs, b.book.handleToContact.lookup c.handle = some r := by
    rcases h r hl with ho | ⟨x, hx, hlook⟩
    · exact .inl ho
    · obtain ⟨c, hc, rfl⟩ := hall x hx
      exact .inr ⟨c, hc, hlook⟩
  -- first the presence, which the second loop leaves alone, and then the capabilities
  have hfirst : ∀ book : Book, book = cs.foldl (Book.mergeByHandle Carried.presence.copy) b.book →
      (book.contacts r).genericStatus = "unknown" ∧ (book.contacts r).status = some "unknown" := by
    rintro book rfl
    refine foldl_mergeByHandle_sets (f := .presence) (Q := fun c => c.genericStatus = "unknown" ∧ c.status = some "unknown")
      (fun c hc _ => ⟨(hoff c hc).generic, (hoff c hc).status⟩) b.book r ?_
    exact hheard.imp_left fun ho => ⟨ho.generic, ho.status⟩
  have hsecond := foldl_mergeByHandle_keeps (f := .capabilities)
    (Q := fun c => c.genericStatus = "unknown" ∧ c.status = some "unknown") (fun _ _ hc => hc) cs
    (hfirst _ rfl)
  have hcaps : ((cs.foldl (Book.mergeByHandle Carried.capabilities.copy)
      (cs.foldl (Book.mergeByHandle Carried.presence.copy) b.book)).contacts r).capabilities = 0 := by
    refine foldl_mergeByHandle_sets (f := .capabilities) (Q := fun c => c.capabilities = 0)
      (fun c hc _ => (hoff c hc).capabilities) _ r ?_
    rw [ht1]
    refine hheard.imp_left fun ho => ?_
    exact foldl_mergeByHandle_keeps (f := .presence) (Q := fun c => c.capabilities = 0)
      (fun _ _ hc => hc) cs ho.capabilities
  exact ⟨hsecond.1, hsecond.2, hcaps⟩

/-! ## Runs -/

/--
What a state has while the account comes and goes: whoever has a presence is in reach of the
roster, and there is nothing where there is no connection.
-/
structure Attached (b : Backend) : Prop where
  byHandle : b.tpcl.ByHandle
  linked : b.tpcl.Linked
  reach : b.book.InReach (rosterHandles b.tpcl)
  idle : b.tpcl.isConnected = false → b.tpcl.contactsHash = ∅ ∧ b.book.handleToContact = ∅
  early : b.membersReady = false → b.book.handleToContact = ∅ ∧ Unsynced b

theorem attached_boot (pathSuffix vcardField : String) (db : Db) :
    Attached (boot pathSuffix vcardField db) where
  byHandle := Cl.byHandle_init
  linked := nofun
  reach := fun r hr => by cases hr
  idle := fun _ => ⟨rfl, rfl⟩
  early := fun _ => ⟨rfl, rfl, rfl, rfl, rfl⟩

theorem Attached.load {b : Backend} (h : Attached b) (env : Env) : Attached (b.load env) :=
  ⟨h.byHandle, h.linked, h.reach, h.idle,
    fun hm => ⟨(h.early hm).1, (h.early hm).2.1, (h.early hm).2.2, (h.early hm).2.3, (h.early hm).2.4⟩⟩

/-- Whoever cannot be found under a handle is offline. -/
theorem Attached.offline {b : Backend} (h : Attached b) (ht : b.book.handleToContact = ∅) {r : Nat}
    (hr : b.book.Live r) : (b.book.contacts r).Offline := by
  rcases h.reach r hr with ho | ⟨x, -, hx⟩
  · exact ho
  · rw [ht] at hx
    cases hx

/-- **Requests and the synchronisation change no presence**, and merge only while connected. -/
theorem attached_request {b b' : Backend} {e : Event} (hsane : Sane b) (h : Attached b)
    (he : ∀ ce, e ≠ .cl ce) (hok : AllAlong Book.apply Edit.KeepsReach b.book (b.edits e))
    (hs : b.take e = some b') : Attached b' := by
  have hwalk := walkOnly_take he hs
  obtain ⟨calls, htpcl, -⟩ := id hwalk
  have hempty : b.canMerge = false → b.book.handleToContact = ∅ → b'.book.handleToContact = ∅ := by
    intro hquiet ht
    refine take_book_inv (I := fun book : Book => book.handleToContact = ∅)
      (P := Edit.Requested b.canMerge) (fun book ed hI _ _ hP _ => ?_) hsane ht (edits_requested he) hs
    rw [hquiet] at hP
    exact Book.handles_requested hI hP
  refine ⟨h.byHandle.walkOnly hwalk, ?_, ?_, fun hc => ?_, fun hm => ?_⟩
  · rw [htpcl]; exact h.linked
  · rw [htpcl]
    refine take_book_inv (I := Book.InReach (rosterHandles b.tpcl))
      (P := fun book ed => ed.Requested b.canMerge book ∧ ed.KeepsReach book)
      (fun book ed hI _ hp hP _ => ?_) hsane h.reach ((edits_requested he).and hok) hs
    obtain ⟨hcalm, hheard⟩ := Book.Requested.calm hP.1 (rosterHandles b.tpcl)
    exact Book.inReach_apply hI hp hcalm hheard hP.2
  · have hc₀ : b.tpcl.isConnected = false := by rw [htpcl] at hc; exact hc
    obtain ⟨hhash, ht⟩ := h.idle hc₀
    refine ⟨by rw [htpcl]; exact hhash, hempty ?_ ht⟩
    unfold canMerge
    rw [hc₀]; rfl
  · have hm₀ : b.membersReady = false := by
      cases hr : b.membersReady with
      | false => rfl
      | true => rw [ready_take hs hr] at hm; cases hm
    obtain ⟨ht, hunsynced⟩ := h.early hm₀
    have hunsynced' := (unsynced_take hunsynced hm₀ hs).resolve_left (by rw [hm]; exact nofun)
    refine ⟨hempty ?_ ht, hunsynced'⟩
    unfold canMerge
    rw [hunsynced.running, List.isEmpty_nil, Bool.not_true, Bool.and_false]

/-- **Nobody who has a presence gets out of reach while the account stays connected.** -/
theorem inReach_cl {b : Backend} {e : Cl.Event} {cl : Cl} {signals : List Signal}
    (hsane : Sane b) (h : Attached b) (hm : b.membersReady = true)
    (hok : AllAlong Book.apply Edit.KeepsReach b.book ({ b with tpcl := cl }.signalsEdits signals))
    (hstay : ¬ (e = .connectionStatusChanged none ∧ b.tpcl.status = .online))
    (hstep : b.tpcl.step e = some (cl, signals)) :
    (signals.foldl onSignal { b with tpcl := cl }).book.InReach (rosterHandles cl) := by
  obtain ⟨hend, hcase⟩ := Cl.handles_step h.byHandle hstep
  have hannounced : Cl.Announced b.tpcl (cl, signals) := hcase.resolve_left hstay
  have hreach : (signals.foldl onSignal { b with tpcl := cl }).book.InReach (rosterHandles b.tpcl) :=
    inReach_signals (b := { b with tpcl := cl }) h.reach (Cl.plain_step hsane.plain hstep).2 hend.heard
      (fun hin => hstay (Cl.offline_reported hstep (Cl.status_step h.linked hstep).2 hin)) hok
  refine inReach_shrink hreach fun x hx => ?_
  by_cases hkept : rosterHandles cl x
  · exact .inl hkept
  · -- who left the roster was announced, and is in no index any more
    obtain ⟨before, cs, after, heq, ⟨c, hc, rfl⟩, hquiet⟩ :=
      hannounced x hx (Option.not_isSome_iff_eq_none.mp hkept)
    right
    rw [show signals = before ++ .contactsRemoved cs :: after from heq]
    exact vacant_announced (b := { b with tpcl := cl }) hm hc hquiet

theorem take_cl {b : Backend} {e : Cl.Event} {cl : Cl} {signals : List Signal}
    (hstep : b.tpcl.step e = some (cl, signals)) :
    b.take (.cl e) = some (signals.foldl onSignal { b with tpcl := cl }) := by
  unfold take
  dsimp only
  rw [hstep]
  rfl

/-- A disconnect that finds the account offline finds nothing to clean up either. -/
def NothingLeft (b : Backend) (e : Event) : Prop :=
  e = .cl (.connectionStatusChanged none) → b.tpcl.status = .offline →
    b.tpcl.contactsHash = ∅ ∧ b.book.handleToContact = ∅

/-- **A disconnect takes the handles and the presences with it.** -/
theorem attached_disconnect {b : Backend} {cl : Cl} {signals : List Signal} (h : Attached b)
    (hm : b.membersReady = true) (hon : b.tpcl.status = .online)
    (hstep : b.tpcl.step (.connectionStatusChanged none) = some (cl, signals)) :
    Attached (signals.foldl onSignal { b with tpcl := cl }) := by
  have hpair : b.tpcl.connectionStatusChangedCb none = (cl, signals) := Option.some.inj hstep
  obtain ⟨cs, hfarewell, hoff, -, hall, hhash⟩ := Cl.disconnect_online h.byHandle hon
  rw [hpair] at hfarewell hhash
  dsimp only at hfarewell hhash
  subst hfarewell
  have hwalk := walkOnly_onSignals { b with tpcl := cl } (Cl.farewell cs)
  obtain ⟨ht, hlive⟩ := detached_offline (b := { b with tpcl := cl }) hm h.reach hoff hall rfl
  have hready := ready_take (take_cl hstep) hm
  obtain ⟨calls, htpcl, -⟩ := id hwalk
  refine ⟨(Cl.handles_step h.byHandle hstep).1.byHandle.walkOnly hwalk, ?_, fun r hr => .inl (hlive r hr),
    fun _ => ⟨?_, ht⟩, fun hm' => ?_⟩
  · rw [htpcl]; exact (Cl.status_step h.linked hstep).1
  · rw [htpcl]; exact hhash
  · exact absurd (hready.symm.trans hm') nofun

/-- **Every event of the roster layer** keeps the presences in reach, or clears them all. -/
theorem attached_cl {b : Backend} {e : Cl.Event} {cl : Cl} {signals : List Signal} (hsane : Sane b)
    (h : Attached b)
    (hok : AllAlong Book.apply Edit.KeepsReach b.book ({ b with tpcl := cl }.signalsEdits signals))
    (hclean : NothingLeft b (.cl e)) (hstep : b.tpcl.step e = some (cl, signals)) :
    Attached (signals.foldl onSignal { b with tpcl := cl }) := by
  have hend := (Cl.handles_step h.byHandle hstep).1
  have hlinked := (Cl.status_step h.linked hstep).1
  -- without a connection after the event there is nobody in the table, and nobody by handle
  have hidle : ¬ (e = .connectionStatusChanged none ∧ b.tpcl.status = .online) →
      cl.isConnected = false →
      cl.contactsHash = ∅ ∧ b.tpcl.contactsHash = ∅ ∧ b.book.handleToContact = ∅ := by
    intro hstay hc
    rcases Cl.disconnected_step hc hstep with rfl | hc₀
    · have hoff : b.tpcl.status = .offline := by
        cases hst : b.tpcl.status with
        | online => exact absurd ⟨rfl, hst⟩ hstay
        | offline => rfl
      obtain ⟨hhash, ht⟩ := hclean rfl hoff
      exact ⟨(Cl.disconnect_offline hoff hstep).1.trans hhash, hhash, ht⟩
    · obtain ⟨hhash, ht⟩ := h.idle hc₀
      exact ⟨Cl.hash_unconnected hc₀ hhash hstep, hhash, ht⟩
  by_cases hm : b.membersReady = true
  · by_cases hstay : e = .connectionStatusChanged none ∧ b.tpcl.status = .online
    · obtain ⟨rfl, hon⟩ := hstay
      exact attached_disconnect h hm hon hstep
    · -- the account stays online, or it was not
      have hwalk := walkOnly_onSignals { b with tpcl := cl } signals
      obtain ⟨calls, htpcl, -⟩ := id hwalk
      have hready := ready_take (take_cl hstep) hm
      refine ⟨hend.byHandle.walkOnly hwalk, ?_, ?_, fun hc => ?_, fun hm' => ?_⟩
      · rw [htpcl]; exact hlinked
      · rw [htpcl]; exact inReach_cl hsane h hm hok hstay hstep
      · rw [htpcl] at hc ⊢
        obtain ⟨hhash, hhash₀, ht⟩ := hidle hstay hc
        refine ⟨hhash, handles_signals (b := { b with tpcl := cl }) ht fun s hs hheard => ?_⟩
        refine List.eq_nil_iff_forall_not_mem.mpr fun c hin => ?_
        have hin' := hend.heard s hs hheard c hin
        unfold Cl.lookup at hin'
        rw [hhash₀] at hin'
        cases hin'
      · exact absurd (hready.symm.trans hm') nofun
  · -- nobody listens yet, and there is nobody to tell anything about
    have hm : b.membersReady = false := Bool.not_eq_true _ ▸ hm
    obtain ⟨ht, hunsynced⟩ := h.early hm
    obtain ⟨heq, hunsynced'⟩ := unsynced_cl hunsynced hm hstep
    rw [heq]
    refine ⟨hend.byHandle, hlinked, fun r hr => .inl (h.offline ht hr), fun hc => ⟨?_, ht⟩,
      fun _ => ⟨ht, hunsynced'⟩⟩
    by_cases hstay : e = .connectionStatusChanged none ∧ b.tpcl.status = .online
    · obtain ⟨rfl, hon⟩ := hstay
      obtain ⟨-, -, -, -, -, hhash⟩ := Cl.disconnect_online h.byHandle hon
      have hpair : b.tpcl.connectionStatusChangedCb none = (cl, signals) := Option.some.inj hstep
      rw [hpair] at hhash
      exact hhash
    · exact (hidle hstay hc).1

/--
The condition on a step: every edit leaves whoever has a presence under a handle, and a
disconnect that finds the account offline finds nothing to clean up.
-/
def Detaches (b : Backend) (i : Input) : Prop :=
  EditsMeet Edit.KeepsReach b i ∧ NothingLeft b i.event

instance (b : Backend) (e : Event) : Decidable (NothingLeft b e) :=
  inferInstanceAs (Decidable (_ → _))

instance (b : Backend) : DecidablePred (Detaches b) := fun _ =>
  inferInstanceAs (Decidable (_ ∧ _))

theorem attached_step {b b' : Backend} {i : Input} (hsane : Sane b) (h : Attached b)
    (hok : Detaches b i) (hs : b.step i = some b') : Attached b' := by
  obtain ⟨hedits, hclean⟩ := hok
  unfold EditsMeet at hedits
  have hs' : (b.load i.env).take i.event = some b' := hs
  generalize i.event = event at hedits hclean hs'
  by_cases hcl : ∃ e, event = .cl e
  · obtain ⟨e, rfl⟩ := hcl
    obtain ⟨⟨cl, signals⟩, hstep, rfl⟩ := Option.map_eq_some_iff.mp hs'
    refine attached_cl (hsane.load i.env) (h.load i.env) ?_ hclean hstep
    unfold edits at hedits
    dsimp only at hedits
    rw [hstep] at hedits
    exact hedits
  · exact attached_request (hsane.load i.env) (h.load i.env) (fun e he => hcl ⟨e, he⟩) hedits hs'

end Backend

end EdsTelepathy
