import EdsTelepathy.Backend.Step

/-!
# What the handlers leave alone

A request, or a signal about contacts, changes the book, the outbox and the answers of
the bus that are left, and nothing else: the contact list layer and the bookkeeping of
the synchronisation stay as they are. `DataOnly` says so once, and every handler that
does not move the synchronisation has it.
-/

namespace EdsTelepathy

namespace Backend

/-- `b'` differs from `b` in the book, the outbox, the wire and the images being written only. -/
def DataOnly (b b' : Backend) : Prop :=
  ∃ book out wire saves,
    b' = { b with book := book, out := out, wire := wire, avatarSaves := saves }

namespace DataOnly

/-- Nothing at all may have changed. -/
theorem refl (b : Backend) : DataOnly b b := ⟨b.book, b.out, b.wire, b.avatarSaves, rfl⟩

/-- Two handlers that run one after the other change no more than these four either. -/
theorem trans {b b' b'' : Backend} (h : DataOnly b b') (h' : DataOnly b' b'') : DataOnly b b'' := by
  obtain ⟨_, _, _, _, rfl⟩ := h
  obtain ⟨book, out, wire, saves, rfl⟩ := h'
  exact ⟨book, out, wire, saves, rfl⟩

/-- The contact list layer is what it was, connection and copies included. -/
theorem tpcl {b b' : Backend} (h : DataOnly b b') : b'.tpcl = b.tpcl := by
  obtain ⟨_, _, _, _, rfl⟩ := h; rfl

theorem membersReady {b b' : Backend} (h : DataOnly b b') : b'.membersReady = b.membersReady := by
  obtain ⟨_, _, _, _, rfl⟩ := h; rfl

theorem isLoading {b b' : Backend} (h : DataOnly b b') : b'.isLoading = b.isLoading := by
  obtain ⟨_, _, _, _, rfl⟩ := h; rfl

theorem needContactsReload {b b' : Backend} (h : DataOnly b b') :
    b'.needContactsReload = b.needContactsReload := by
  obtain ⟨_, _, _, _, rfl⟩ := h; rfl

end DataOnly

/-! ## Signals about contacts -/

/-- A deletion is a matter of the indexes, the two queues and the views. -/
theorem dataOnly_deleteContacts (b : Backend) (rs : List Nat) : DataOnly b (b.deleteContacts rs) :=
  ⟨_, _, b.wire, b.avatarSaves, rfl⟩

/-- So are the handlers of changed aliases, presences, flags and capabilities. -/
theorem dataOnly_mergeByHandle (b : Backend) (f : Contact → Contact → Contact) (db : Bool)
    (cs : List Contact) : DataOnly b (b.mergeByHandle f db cs) :=
  ⟨_, _, b.wire, b.avatarSaves, rfl⟩

theorem dataOnly_avatarTokensChanged (b : Backend) (cs : List Contact) :
    DataOnly b (b.tpClAvatarTokensChangedCb cs) :=
  ⟨_, _, b.wire, b.avatarSaves, rfl⟩

/-- A new image is put among those being written. -/
theorem dataOnly_avatarDataChanged (b : Backend) (c : Contact) :
    DataOnly b (b.tpClAvatarDataChangedCb c) := by
  unfold tpClAvatarDataChangedCb
  split
  · exact ⟨_, _, b.wire, _, rfl⟩
  · exact .refl b

theorem dataOnly_avatarDataSaved (b : Backend) (r : Nat) (ok : Bool) :
    DataOnly b (b.avatarDataSavedCb r ok) := by
  unfold avatarDataSavedCb
  split
  · exact ⟨b.book, _, b.wire, b.avatarSaves, rfl⟩
  · exact .refl b

/-- The handler of new roster contacts writes them and tells the views. -/
theorem dataOnly_contactsAdded (b : Backend) (cs : List Contact) :
    DataOnly b (b.tpClContactsAdded cs) :=
  ⟨_, _, b.wire, b.avatarSaves, rfl⟩

theorem dataOnly_contactsRemoved (b : Backend) (cs : List Contact) :
    DataOnly b (b.tpClContactsRemoved cs) := by
  unfold tpClContactsRemoved
  dsimp only
  split
  · exact ⟨_, _, b.wire, b.avatarSaves, rfl⟩
  · exact .trans ⟨_, b.out, b.wire, b.avatarSaves, rfl⟩ (dataOnly_deleteContacts _ _)

/-! ## Requests -/

theorem dataOnly_modify (b : Backend) (r : Nat) (f : Contact → Contact) :
    DataOnly b (b.modify r f) := ⟨_, b.out, b.wire, b.avatarSaves, rfl⟩

theorem dataOnly_flush (b : Backend) : DataOnly b b.flush := ⟨b.book, _, b.wire, b.avatarSaves, rfl⟩

theorem dataOnly_dbUpdateContact (b : Backend) (r : Nat) : DataOnly b (b.dbUpdateContact r).2 :=
  ⟨b.book, _, b.wire, b.avatarSaves, rfl⟩

theorem dataOnly_notifyUpdatedContact (b : Backend) (r : Nat) :
    DataOnly b (b.notifyUpdatedContact r) := ⟨b.book, _, b.wire, b.avatarSaves, rfl⟩

/-- The two requests of `run_update_contact` use up answers of the bus. -/
theorem dataOnly_runUpdateContact (b : Backend) (r : Nat) : DataOnly b (b.runUpdateContact r).2 :=
  ⟨_, b.out, _, b.avatarSaves, rfl⟩

/-- A known contact is updated, written and told. -/
theorem dataOnly_createExisting (b : Backend) (r : Nat) (c : Contact) :
    DataOnly b (b.createExisting r c) := by
  have hrun : DataOnly b ((b.modify r fun e => e.mergeSubmitted c).runUpdateContact r).2 :=
    (dataOnly_modify b r _).trans (dataOnly_runUpdateContact _ r)
  unfold createExisting
  dsimp only
  split
  · rename_i heq
    rw [heq] at hrun
    exact (hrun.trans (dataOnly_dbUpdateContact _ r)).trans (dataOnly_notifyUpdatedContact _ r)
  · rename_i heq
    rw [heq] at hrun
    exact hrun

/-- A new one is entered in the tables and written. -/
theorem dataOnly_createNew (b : Backend) (c : Contact) : DataOnly b (b.createNew c).2 := by
  unfold createNew
  dsimp only
  split
  · exact ⟨_, _, b.wire, b.avatarSaves, rfl⟩
  · exact ⟨_, b.out, b.wire, b.avatarSaves, rfl⟩

theorem dataOnly_enterCreated (b : Backend) (c : Contact) : DataOnly b (b.enterCreated c).2 := by
  unfold enterCreated
  split
  · exact dataOnly_createExisting b _ c
  · exact dataOnly_createNew b c

theorem dataOnly_wire (b : Backend) (w : Wire) : DataOnly b { b with wire := w } :=
  ⟨b.book, b.out, w, b.avatarSaves, rfl⟩

/-- Whether the server was asked or not, only the data change. -/
theorem dataOnly_runCreateContact (b : Backend) (ec : Contact.EVCard) :
    DataOnly b (b.runCreateContact ec).2 := by
  unfold runCreateContact
  split
  · exact .refl b
  · dsimp only
    split
    · split
      · exact (dataOnly_wire b _).trans (dataOnly_enterCreated _ _)
      · exact dataOnly_wire b _
    · exact dataOnly_enterCreated b _

/-- **The request to create a contact** leaves the synchronisation alone. -/
theorem dataOnly_createContact (b : Backend) (ec : Contact.EVCard) :
    DataOnly b (b.createContact ec) :=
  (dataOnly_flush b).trans (dataOnly_runCreateContact _ ec)

/-- The flags are sent at once only where the account is online. -/
theorem dataOnly_sendFlags (b : Backend) (r : Nat) : DataOnly b (b.sendFlags r) := by
  unfold sendFlags
  split
  · split
    · exact ⟨_, b.out, _, b.avatarSaves, rfl⟩
    · exact dataOnly_wire b _
  · exact .refl b

theorem dataOnly_storeModification (b : Backend) (r : Nat) :
    DataOnly b (b.storeModification r) := by
  have hdb := dataOnly_dbUpdateContact b r
  unfold storeModification
  split
  · rename_i heq
    rw [heq] at hdb
    exact (hdb.trans (dataOnly_modify _ r _)).trans (dataOnly_notifyUpdatedContact _ r)
  · rename_i heq
    rw [heq] at hdb
    exact hdb.trans (dataOnly_notifyUpdatedContact _ r)

theorem dataOnly_commitModification (b : Backend) (r : Nat) :
    DataOnly b (b.commitModification r) :=
  ((dataOnly_sendFlags b r).trans ⟨_, _, _, _, rfl⟩).trans (dataOnly_storeModification _ r)

/-- **The request to modify a contact** leaves the synchronisation alone. -/
theorem dataOnly_modifyContact (b : Backend) (ec : Contact.EVCard) :
    DataOnly b (b.modifyContact ec) := by
  unfold modifyContact
  dsimp only
  refine (dataOnly_flush b).trans ?_
  split
  · exact .refl _
  · split
    · exact (dataOnly_modify _ _ _).trans (dataOnly_commitModification _ _)
    · exact dataOnly_modify _ _ _

theorem dataOnly_removeMasterUids (b : Backend) (r : Nat) : DataOnly b (b.removeMasterUids r) := by
  have hdb := dataOnly_dbUpdateContact b r
  unfold removeMasterUids
  split
  · split
    · rename_i heq
      rw [heq] at hdb
      exact (hdb.trans (dataOnly_modify _ r _)).trans (dataOnly_notifyUpdatedContact _ r)
    · rename_i heq
      rw [heq] at hdb
      exact hdb.trans (dataOnly_notifyUpdatedContact _ r)
  · exact .refl b

/-- A removal deletes, asks the server, or puts itself off. -/
theorem dataOnly_requestRemoval (b : Backend) (r : Nat) : DataOnly b (b.requestRemoval r) := by
  unfold requestRemoval
  split
  · exact dataOnly_deleteContacts b _
  · split
    · split
      · exact dataOnly_wire b _
      · exact ⟨_, _, _, _, rfl⟩
    · exact ⟨_, _, _, _, rfl⟩

theorem dataOnly_reallyRemove (b : Backend) (r : Nat) : DataOnly b (b.reallyRemove r) :=
  (dataOnly_modify b r _).trans (dataOnly_requestRemoval _ r)

/-- **The request to remove a contact** leaves the synchronisation alone. -/
theorem dataOnly_removeContact (b : Backend) (id : String) : DataOnly b (b.removeContact id) := by
  unfold removeContact
  dsimp only
  refine (dataOnly_flush b).trans ?_
  split
  · exact .refl _
  · split
    · exact .refl _
    · split
      · exact ((dataOnly_modify _ _ _).trans (dataOnly_reallyRemove _ _)).trans
          (dataOnly_dbUpdateContact _ _)
      · exact (dataOnly_modify _ _ _).trans (dataOnly_removeMasterUids _ _)

/-! ## The pieces of phase 3 -/

/-- A request made by phase 3 changes the data, and phase 3 goes on. -/
theorem dataOnly_phase3Update (b : Backend) (p : Phase3) (r : Nat) (todo : List Nat) :
    ∃ b' p', DataOnly b b' ∧ b.phase3Update p r todo = b'.continuePhase3 p' := by
  have hrun := dataOnly_runUpdateContact b r
  unfold phase3Update
  split
  · rename_i heq
    rw [heq] at hrun
    exact ⟨_, _, hrun, rfl⟩
  · rename_i heq
    rw [heq] at hrun
    exact ⟨_, _, hrun, rfl⟩

/-- A contact that the server calls otherwise is entered anew, or merged into the one of that name. -/
theorem dataOnly_phase3Renamed (b : Backend) (r : Nat) (old : Option String) :
    DataOnly b (b.phase3Renamed r old).2 := by
  unfold phase3Renamed
  dsimp only
  split
  · exact ⟨_, _, b.wire, b.avatarSaves, rfl⟩
  · exact ⟨_, b.out, b.wire, b.avatarSaves, rfl⟩

theorem dataOnly_phase3Added (b : Backend) (r : Nat) (old : Option String) :
    DataOnly b (b.phase3Added r old).2 := by
  unfold phase3Added
  split
  · exact .refl b
  · exact dataOnly_phase3Renamed b r old

/-- So does a request to add one, merged or not. -/
theorem dataOnly_phase3Add (b : Backend) (p : Phase3) (r : Nat) (todo : List Nat) :
    ∃ b' p', DataOnly b b' ∧ b.phase3Add p r todo = b'.continuePhase3 p' := by
  unfold phase3Add
  split
  · rename_i c w heq
    exact ⟨_, _, .trans (.trans ⟨_, b.out, w, b.avatarSaves, rfl⟩ (dataOnly_phase3Added _ r _)) ⟨_, _, _, _, rfl⟩, rfl⟩
  · exact ⟨_, _, ⟨_, b.out, _, b.avatarSaves, rfl⟩, rfl⟩

/-- So does a request to remove one. -/
theorem dataOnly_phase3Delete (b : Backend) (p : Phase3) (r : Nat) (todo : List Nat) :
    ∃ b' p', DataOnly b b' ∧ b.phase3Delete p r todo = b'.continuePhase3 p' := by
  unfold phase3Delete
  split
  · exact ⟨_, _, ⟨_, b.out, _, b.avatarSaves, rfl⟩, rfl⟩
  · exact ⟨_, _, dataOnly_wire b _, rfl⟩

/-- The end of phase 3 writes what it collected and gives the token back. -/
theorem endPhase3_eq (b : Backend) (p : Phase3) :
    ∃ out, b.endPhase3 p = { b with out := out }.finishOnlineInitialization := ⟨_, rfl⟩

/-- Phase 3 has nothing left to do. -/
def Phase3.Ended (p : Phase3) : Prop := p.stage = .delete ∧ p.todo = []

/-- A piece of phase 3: a contact of the snapshot, a new snapshot or the end. -/
inductive Turn (b : Backend) (p : Phase3) : Backend → Prop where
  | update {r : Nat} {todo : List Nat} :
      p.stage = .update → p.todo = r :: todo → Turn b p (b.phase3Update p r todo)
  | add {r : Nat} {todo : List Nat} :
      p.stage = .add → p.todo = r :: todo → Turn b p (b.phase3Add p r todo)
  | delete {r : Nat} {todo : List Nat} :
      p.stage = .delete → p.todo = r :: todo → Turn b p (b.phase3Delete p r todo)
  /-- At the end of a table the next one is copied, in any order. -/
  | snapshot {p' : Phase3} :
      p.stage ≠ .delete → p.todo = [] → p'.todo.Perm (Table.values (workTable b.book p'.stage)) →
      Turn b p (b.continuePhase3 p')
  | ended : Phase3.Ended p → Turn b p (b.endPhase3 p)

/-- Every piece that `stepPhase3` takes is one of the five. -/
theorem stepPhase3_turn {b b' : Backend} {p : Phase3} {order : List Nat}
    (h : b.stepPhase3 p order = some b') : Turn b p b' := by
  unfold stepPhase3 at h
  split at h
  · rename_i hs ht
    cases h
    exact .update hs ht
  · rename_i hs ht
    split at h
    · rename_i hperm
      cases h
      exact .snapshot (by rw [hs]; decide) ht (List.isPerm_iff.mp hperm)
    · cases h
  · rename_i hs ht
    cases h
    exact .add hs ht
  · rename_i hs ht
    split at h
    · rename_i hperm
      cases h
      exact .snapshot (by rw [hs]; decide) ht (List.isPerm_iff.mp hperm)
    · cases h
  · rename_i hs ht
    cases h
    exact .delete hs ht
  · rename_i hs ht
    cases h
    exact .ended ⟨hs, ht⟩

/-- **Phase 3 goes on, or it ends.** -/
theorem stepPhase3_cases {b b' : Backend} {p : Phase3} {order : List Nat}
    (h : b.stepPhase3 p order = some b') :
    (¬ Phase3.Ended p ∧ ∃ b₁ p', DataOnly b b₁ ∧ b' = b₁.continuePhase3 p')
      ∨ (Phase3.Ended p ∧ ∃ out, b' = { b with out := out }.finishOnlineInitialization) := by
  have hbusy : ∀ {r todo}, p.todo = r :: todo → ¬ Phase3.Ended p := by
    rintro r todo ht ⟨-, hnil⟩
    rw [ht] at hnil; cases hnil
  cases stepPhase3_turn h with
  | update _ ht => exact .inl ⟨hbusy ht, dataOnly_phase3Update b p _ _⟩
  | add _ ht => exact .inl ⟨hbusy ht, dataOnly_phase3Add b p _ _⟩
  | delete _ ht => exact .inl ⟨hbusy ht, dataOnly_phase3Delete b p _ _⟩
  | snapshot hne _ _ => exact .inl ⟨fun hend => hne hend.1, b, _, .refl b, rfl⟩
  | ended hend => exact .inr ⟨hend, endPhase3_eq b p⟩

/-! ## Which callback an event runs -/

/-- The callback that an event runs, and what must be queued for it. -/
inductive Taken (b : Backend) : Event → Backend → Prop where
  | cl {e : Cl.Event} {cl : Cl} {signals : List Signal} :
      b.tpcl.step e = some (cl, signals) →
      Taken b (.cl e) (signals.foldl onSignal { b with tpcl := cl })
  | phase0 : b.phase0Queued = true → Taken b .phase0 b.syncPhase0IdleCb
  | phase2 {closure : GetMembersClosure} {rest : List GetMembersClosure} :
      b.phase2Queued = closure :: rest →
      Taken b .phase2 ({ b with phase2Queued := rest }.syncPhase2IdleCb closure)
  | phase3 {order : List Nat} :
      0 < b.phase3Queued → order.Perm (Table.values b.book.contactsToUpdate) →
      Taken b (.phase3 order) ({ b with phase3Queued := b.phase3Queued - 1 }.beginPhase3 order)
  | phase3Next {order : List Nat} {p : Phase3} {rest : List Phase3} {b' : Backend} :
      b.phase3 = p :: rest → { b with phase3 := rest }.stepPhase3 p order = some b' →
      Taken b (.phase3Next order) b'
  | createContact (ec : Contact.EVCard) : Taken b (.createContact ec) (b.createContact ec)
  | modifyContact (ec : Contact.EVCard) : Taken b (.modifyContact ec) (b.modifyContact ec)
  | removeContact (id : String) : Taken b (.removeContact id) (b.removeContact id)
  | updateContactsIdle :
      Taken b .updateContactsIdle { b with out := b.out.updateContactsIdleCb b.book.contacts }
  | startView (id : Nat) : Taken b (.startView id) (b.startView id)
  | stopView (id : Nat) : Taken b (.stopView id) (b.stopView id)
  | inactivity (on : Bool) :
      Taken b (.inactivity on) { b with out := b.out.setInactivityStatus b.book.contacts on }
  | avatarDataSaved {i r : Nat} (ok : Bool) :
      b.avatarSaves[i]? = some r →
      Taken b (.avatarDataSaved i ok)
        ({ b with avatarSaves := b.avatarSaves.eraseIdx i }.avatarDataSavedCb r ok)
  | getContact : Taken b .getContact b.getContact

/-- Every step is one of the callbacks. -/
theorem take_taken {b b' : Backend} {e : Event} (h : b.take e = some b') : Taken b e b' := by
  cases e with
  | cl e =>
    obtain ⟨⟨cl, signals⟩, hstep, rfl⟩ := Option.map_eq_some_iff.mp h
    exact .cl hstep
  | phase0 =>
    simp only [take] at h
    split at h
    · rename_i hq
      cases h
      exact .phase0 hq
    · cases h
  | phase2 =>
    simp only [take] at h
    split at h
    · rename_i hq
      cases h
      exact .phase2 hq
    · cases h
  | phase3 order =>
    simp only [take] at h
    split at h
    · rename_i hq
      cases h
      exact .phase3 hq.1 (List.isPerm_iff.mp hq.2)
    · cases h
  | phase3Next order =>
    simp only [take] at h
    split at h
    · rename_i hq
      exact .phase3Next hq h
    · cases h
  | createContact ec => cases h; exact .createContact ec
  | modifyContact ec => cases h; exact .modifyContact ec
  | removeContact id => cases h; exact .removeContact id
  | updateContactsIdle =>
    simp only [take] at h
    split at h
    · cases h; exact .updateContactsIdle
    · cases h
  | startView id => cases h; exact .startView id
  | stopView id => cases h; exact .stopView id
  | inactivity on => cases h; exact .inactivity on
  | avatarDataSaved i ok =>
    simp only [take] at h
    split at h
    · rename_i hr
      cases h
      exact .avatarDataSaved ok hr
    · cases h
  | getContact => cases h; exact .getContact

end Backend

end EdsTelepathy
