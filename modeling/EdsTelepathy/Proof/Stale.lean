import EdsTelepathy.Proof.Connection
import EdsTelepathy.Proof.Indexes

/-!
# Closures of an earlier connection

`tp_channel_members_changed_cb` leaves a closure behind that runs later, from an idle or from
the reply with the contacts' details. All that is checked then is that there is a connection;
the closure holds handles, and the next connection gives the same numbers to other contacts.

`Harmless` is what makes such a closure do nothing to the contacts of the new connection.
-/

namespace EdsTelepathy

namespace Cl

/-- The closure of `tp_channel_members_changed_cb` that `e` runs, and the connection it is of. -/
def deferredClosure (cl : Cl) : Event → Option (Nat × MembersChangedClosure)
  | .done i _ =>
    match cl.calls[i]? with
    | some (n, .handleMembersChangedIdle k) => some (n, k)
    | _ => none
  | .contacts i (some tps) =>
    match cl.calls[i]? with
    | some (n, .membersChangedWithDetails k) => some (n, cl.validated tps k)
    | _ => none
  | _ => none

/-- The closure that `e` runs on another connection than its own. -/
def staleClosure (cl : Cl) (e : Event) : Option MembersChangedClosure :=
  match cl.deferredClosure e, cl.conn with
  | some (n, k), some m => if m = n then none else some k
  | _, _ => none

/-! ## What the callbacks make of a closure -/

/-- The hash table is as it was where it has nobody who is to be removed. -/
theorem lookup_updateChangedMembers {cl : Cl} {k : MembersChangedClosure} (updated : List Nat)
    (hk : ∀ r ∈ k.contactsToRemove, cl.lookup (cl.contacts r).handle = none) (x : Nat) :
    (cl.updateChangedMembers k updated).1.lookup x = cl.lookup x := by
  refine Option.ext fun v => Table.lookup_eraseAll.trans ⟨fun h => h.1, fun h => ⟨h, ?_⟩⟩
  intro r hr he
  have hnone := hk r hr
  rw [he] at hnone
  exact absurd (hnone.symm.trans h) (by simp)

/-- A deferred closure comes down to `update_changed_members`. -/
theorem step_deferred {cl cl' : Cl} {e : Event} {n : Nat} {k : MembersChangedClosure}
    {signals : List Signal} (hk : cl.deferredClosure e = some (n, k))
    (hconn : cl.isConnected = true) (hs : cl.step e = some (cl', signals)) :
    ∃ (cl₁ : Cl) (updated : List Nat), cl₁.contactsHash = cl.contactsHash
      ∧ (∀ r, (cl₁.contacts r).handle = (cl.contacts r).handle
        ∧ (cl₁.contacts r).flags = (cl.contacts r).flags)
      ∧ cl₁.updateChangedMembers k updated = (cl', signals) := by
  have hup : ∀ i, ({ cl with calls := cl.calls.eraseIdx i } : Cl).isConnected = true := fun _ => hconn
  cases e with
  | done i ok =>
    unfold deferredClosure at hk
    dsimp only at hk
    split at hk
    · rename_i n' k' hcall
      obtain ⟨rfl, rfl⟩ := Prod.mk.inj (Option.some.inj hk)
      simp only [step, takeCall, hcall, Option.some.injEq] at hs
      unfold handleMembersChangedIdleCb at hs
      rw [if_pos (hup i)] at hs
      exact ⟨{ cl with calls := cl.calls.eraseIdx i }, [], rfl, fun _ => ⟨rfl, rfl⟩, hs⟩
    · cases hk
  | contacts i reply =>
    cases reply with
    | none => cases hk
    | some tps =>
      unfold deferredClosure at hk
      dsimp only at hk
      split at hk
      · rename_i n' k' hcall
        obtain ⟨rfl, rfl⟩ := Prod.mk.inj (Option.some.inj hk)
        simp only [step, takeCall, hcall, Option.some.injEq] at hs
        unfold membersChangedWithDetailsCb at hs
        dsimp only at hs
        rw [if_pos (hup i)] at hs
        simp only [removeInvalidContacts_eq] at hs
        have hi := inspected_updateContactDetails { cl with calls := cl.calls.eraseIdx i } tps
        exact ⟨_, _, hi.hash, hi.contact, hs⟩
      · cases hk
  | connectionStatusChanged conn => cases hk
  | membersChanged l added removed lp rp => cases hk
  | details d => cases hk
  | allMembers i reply => cases hk

end Cl

namespace Book

/-- The tables of handles and of UIDs and everybody's flags are the same. -/
structure SameFlags (b b' : Book) : Prop where
  handles : b'.handleToContact = b.handleToContact
  uids : b'.uidToContact = b.uidToContact
  flags : ∀ r, (b'.contacts r).flags = (b.contacts r).flags

theorem SameFlags.refl (b : Book) : SameFlags b b := ⟨rfl, rfl, fun _ => rfl⟩

theorem SameFlags.trans {b b' b'' : Book} (h : SameFlags b b') (h' : SameFlags b' b'') :
    SameFlags b b'' :=
  ⟨h'.handles.trans h.handles, h'.uids.trans h.uids, fun r => (h'.flags r).trans (h.flags r)⟩

/-- A report of other fields leaves the flags. -/
theorem sameFlags_merged {f : Carried} (hf : f ≠ .flags) (cs : List Contact) (b : Book) :
    SameFlags b ((cs.map (Edit.mergeByHandle f)).foldl Book.apply b) := by
  rw [List.foldl_map]
  obtain ⟨hhandle, huid⟩ := Backend.foldl_mergeByHandle_tables f.copy cs b
  refine ⟨hhandle, huid, fun r => ?_⟩
  exact Backend.foldl_mergeByHandle_keeps (Q := fun c => c.flags = (b.contacts r).flags)
    (fun c c' h => (Carried.copy_flags hf c c').trans h) cs rfl

/-- A report of flags leaves them where they are what is reported. -/
theorem sameFlags_reported {cs : List Contact} {b : Book}
    (hsame : ∀ c ∈ cs, ∀ x ∈ b.handleToContact.lookup c.handle, (b.contacts x).flags = c.flags) :
    SameFlags b ((cs.map (Edit.mergeByHandle .flags)).foldl Book.apply b) := by
  rw [List.foldl_map]
  refine AllAlong.foldl_inv (P := fun _ c => c ∈ cs) (I := SameFlags b) (fun b' c h hc => ?_)
    (allAlong_of_forall (fun _ hc _ => hc) b) (.refl b)
  show SameFlags b (b'.mergeByHandle _ c)
  unfold mergeByHandle
  split
  · rename_i x hx
    rw [h.handles] at hx
    refine ⟨h.handles, h.uids, fun r => ?_⟩
    by_cases he : r = x
    · subst he
      rw [modify_contacts_self]
      exact (hsame c hc r hx).symm
    · rw [modify_contacts_of_ne he]
      exact h.flags r
  · exact h

end Book

namespace Backend

/-- The closure that the event runs on another connection than its own. -/
def staleClosure (b : Backend) : Event → Option MembersChangedClosure
  | .cl e => b.tpcl.staleClosure e
  | _ => none

/--
No table has a handle that the closure is to remove, and the backend, if it listens, has nobody
to add and no flags to change.
-/
structure Harmless (b : Backend) (k : MembersChangedClosure) : Prop where
  /-- No handle to remove is in `contacts_hash`. -/
  hash : ∀ r ∈ k.contactsToRemove, b.tpcl.lookup (b.tpcl.contacts r).handle = none
  /-- No handle to remove is in `handle_to_contact`. -/
  removed : b.membersReady = true → ∀ r ∈ k.contactsToRemove,
    b.book.handleToContact.lookup (b.tpcl.contacts r).handle = none
  /-- Nobody is to be added. -/
  added : b.membersReady = true → k.contactsToAdd = []
  /-- The flags to set are set. -/
  flags : b.membersReady = true → ∀ r ∈ k.contactsToUpdate,
    ∀ x ∈ b.book.handleToContact.lookup (b.tpcl.contacts r).handle,
      (b.book.contacts x).flags = (b.tpcl.contacts r).flags

instance (b : Backend) (k : MembersChangedClosure) : Decidable (b.Harmless k) :=
  decidable_of_iff
    ((∀ r ∈ k.contactsToRemove, b.tpcl.lookup (b.tpcl.contacts r).handle = none)
      ∧ (b.membersReady = true → (∀ r ∈ k.contactsToRemove,
          b.book.handleToContact.lookup (b.tpcl.contacts r).handle = none)
        ∧ k.contactsToAdd = []
        ∧ ∀ r ∈ k.contactsToUpdate,
          ∀ x ∈ b.book.handleToContact.lookup (b.tpcl.contacts r).handle,
            (b.book.contacts x).flags = (b.tpcl.contacts r).flags))
    ⟨fun ⟨h1, h2⟩ => ⟨h1, fun hm => (h2 hm).1, fun hm => (h2 hm).2.1, fun hm => (h2 hm).2.2⟩,
      fun h => ⟨h.hash, fun hm => ⟨h.removed hm, h.added hm, h.flags hm⟩⟩⟩

/-- `contacts_hash` and the backend's contacts are as they were. -/
structure LeftAlone (b b' : Backend) : Prop where
  hash : ∀ x, b'.tpcl.lookup x = b.tpcl.lookup x
  book : Book.SameFlags b.book b'.book

/-! ## What the signals do -/

/-- The handler of the signal leaves tables and flags of the book as they are. -/
def Spares (book : Book) : Signal → Prop
  | .contactsRemoved cs => ∀ c ∈ cs, book.handleToContact.lookup c.handle = none
  | .flagsChanged cs =>
    ∀ c ∈ cs, ∀ x ∈ book.handleToContact.lookup c.handle, (book.contacts x).flags = c.flags
  | .aliasesChanged _ => True
  | .avatarTokensChanged _ => True
  | .presencesChanged _ => True
  | _ => False

theorem Spares.of_same {book book' : Book} (hsame : Book.SameFlags book book') {s : Signal}
    (h : Spares book s) : Spares book' s := by
  cases s with
  | contactsRemoved cs =>
    intro c hc
    rw [hsame.handles]
    exact h c hc
  | flagsChanged cs =>
    intro c hc x hx
    rw [hsame.handles] at hx
    exact (hsame.flags x).trans (h c hc x hx)
  | _ => exact h

theorem sameFlags_onSignal {b : Backend} (hm : b.membersReady = true) {s : Signal}
    (h : Spares b.book s) : Book.SameFlags b.book (b.onSignal s).book := by
  rw [onSignal_book]
  unfold signalEdits
  cases s with
  | contactsRemoved cs =>
    -- no contact is found by its handle, so there is nobody to delete
    have hnone : b.book.byHandle cs = [] := List.filterMap_eq_nil_iff.mpr h
    dsimp only
    rw [if_pos hm, hnone]
    exact .refl _
  | flagsChanged cs =>
    dsimp only
    rw [if_pos hm]
    exact Book.sameFlags_reported h
  | aliasesChanged cs =>
    dsimp only
    rw [if_pos hm]
    exact Book.sameFlags_merged (by decide) cs b.book
  | avatarTokensChanged cs =>
    dsimp only
    rw [if_pos hm]
    exact Book.sameFlags_merged (by decide) cs b.book
  | presencesChanged cs =>
    dsimp only
    rw [if_pos hm]
    exact Book.sameFlags_merged (by decide) cs b.book
  | _ => exact h.elim

theorem sameFlags_onSignals {b : Backend} (hm : b.membersReady = true) {ss : List Signal}
    (h : ∀ s ∈ ss, Spares b.book s) : Book.SameFlags b.book (ss.foldl onSignal b).book := by
  refine (AllAlong.foldl_inv (P := fun _ s => Spares b.book s)
    (I := fun b' : Backend => b'.membersReady = true ∧ Book.SameFlags b.book b'.book)
    (fun b' s hI hs => ?_) (allAlong_of_forall (fun s hs _ => h s hs) b) ⟨hm, .refl _⟩).2
  exact ⟨(sameAgenda_onSignal b' s).ready.trans hI.1,
    hI.2.trans (sameFlags_onSignal hI.1 (hs.of_same hI.2))⟩

/-! ## What the closure does -/

/-- The signals of a harmless closure leave the book alone. -/
theorem spares_updateChangedMembers {b : Backend} {cl : Cl} {k : MembersChangedClosure}
    (hm : b.membersReady = true) (hk : b.Harmless k)
    (hsame : ∀ r, (cl.contacts r).handle = (b.tpcl.contacts r).handle
      ∧ (cl.contacts r).flags = (b.tpcl.contacts r).flags) (updated : List Nat) :
    ∀ s ∈ (cl.updateChangedMembers k updated).2, Spares b.book s := by
  have hemit : ∀ (cl : Cl) (rs : List Nat) (sig : List Contact → Signal),
      Spares b.book (sig (cl.read rs)) → ∀ s ∈ cl.emit rs sig, Spares b.book s := by
    intro cl rs sig h s hs
    unfold Cl.emit at hs
    split at hs
    · cases hs
    · rw [List.mem_singleton] at hs
      subst hs
      exact h
  intro s hs
  unfold Cl.updateChangedMembers at hs
  simp only [List.mem_append] at hs
  rcases hs with ((((hs | hs) | hs) | hs) | hs) | hs
  · unfold Cl.emit at hs
    rw [if_pos (hk.added hm)] at hs
    cases hs
  · refine hemit cl k.contactsToRemove .contactsRemoved (fun c hc => ?_) s hs
    obtain ⟨r, hr, rfl⟩ := List.mem_map.mp hc
    rw [(hsame r).1]
    exact hk.removed hm r hr
  · refine hemit cl k.contactsToUpdate .flagsChanged (fun c hc x hx => ?_) s hs
    obtain ⟨r, hr, rfl⟩ := List.mem_map.mp hc
    rw [(hsame r).1] at hx
    rw [(hsame r).2]
    exact hk.flags hm r hr x hx
  · exact hemit _ updated .aliasesChanged trivial s hs
  · exact hemit _ updated .avatarTokensChanged trivial s hs
  · exact hemit _ updated .presencesChanged trivial s hs

/-- **A harmless closure does nothing to the contacts of the present connection.** -/
theorem spared_of_harmless {b b' : Backend} {e : Event} {k : MembersChangedClosure}
    (hstale : b.staleClosure e = some k) (hk : b.Harmless k) (ht : b.take e = some b') :
    LeftAlone b b' := by
  cases e with
  | cl e =>
    unfold staleClosure Cl.staleClosure at hstale
    dsimp only at hstale
    split at hstale
    · rename_i n k' m hdeferred hconn
      have hup : b.tpcl.isConnected = true := by unfold Cl.isConnected; rw [hconn]; rfl
      obtain rfl : k' = k := by
        split at hstale
        · cases hstale
        · exact Option.some.inj hstale
      obtain ⟨⟨cl', ss⟩, hstep, rfl⟩ := Option.map_eq_some_iff.mp ht
      obtain ⟨cl₁, updated, hhash, hsame, hupdate⟩ := Cl.step_deferred hdeferred hup hstep
      have hcl : cl' = (cl₁.updateChangedMembers k' updated).1 := by rw [hupdate]
      have hss : ss = (cl₁.updateChangedMembers k' updated).2 := by rw [hupdate]
      refine ⟨fun x => ?_, ?_⟩
      · obtain ⟨calls, hkept, -⟩ := walkOnly_onSignals { b with tpcl := cl' } ss
        -- nobody that the closure removes has an entry, so none is erased
        have hnobody : ∀ r ∈ k'.contactsToRemove, cl₁.lookup (cl₁.contacts r).handle = none := by
          intro r hr
          unfold Cl.lookup
          rw [hhash, (hsame r).1]
          exact hk.hash r hr
        have hlook := Cl.lookup_updateChangedMembers updated hnobody x
        unfold Cl.lookup at hlook ⊢
        dsimp only
        rw [hkept]
        dsimp only
        rw [hcl, hlook, hhash]
      · dsimp only
        -- after the import its signals reach the book, before it they do not
        by_cases hm : b.membersReady = true
        · have hspares := spares_updateChangedMembers hm hk hsame updated
          rw [← hss] at hspares
          exact sameFlags_onSignals (b := { b with tpcl := cl' }) hm hspares
        · have hno : Cl.dones ss = 0 := by
            rw [hss]
            exact Cl.dones_updateChangedMembers _ _ _
          rw [onSignals_unready (b := { b with tpcl := cl' }) (Bool.eq_false_iff.mpr hm) hno]
          exact .refl _
    · cases hstale
  | _ => cases hstale

/-! ## Runs -/

/-- A closure of an earlier connection is harmless where it runs. -/
def StaleHarmless (b : Backend) (i : Input) : Prop :=
  ∀ k ∈ b.staleClosure i.event, b.Harmless k

instance (b : Backend) (i : Input) : Decidable (b.StaleHarmless i) := by
  unfold StaleHarmless; infer_instance

/-- A closure of an earlier connection leaves the contacts of the present one alone. -/
def StaleSpares (b : Backend) (i : Input) : Prop :=
  ∀ k ∈ b.staleClosure i.event, ∀ b', b.step i = some b' → LeftAlone b b'

/--
**Closures of an earlier connection.**

In every run in which such closures are harmless where they run, each of them leaves
`contacts_hash` as it is, and no contact of the backend is deleted, added or flagged anew.
-/
theorem stale_closures_spare {pathSuffix vcardField : String} {db : Db} {is : List Input}
    {b : Backend} (hrun : machine.Guarded StaleHarmless (boot pathSuffix vcardField db) is b) :
    machine.Guarded StaleSpares (boot pathSuffix vcardField db) is b := by
  refine hrun.mono fun b i hok k hk b' hs => ?_
  -- what the event reads from outside is no part of either side
  have hk' : (b.load i.env).Harmless k :=
    ⟨(hok k hk).hash, (hok k hk).removed, (hok k hk).added, (hok k hk).flags⟩
  obtain ⟨hhash, hbook⟩ := spared_of_harmless (b := b.load i.env) hk hk' hs
  exact ⟨hhash, hbook⟩

/-- `ann` is taken off the list just before the connection is lost. On the next one, the roster
consists of `zoe`, whose handle is `handle`. -/
def annThenZoe (handle : Nat) : List Input :=
  firstSync
    ++ [{ event := .cl (.membersChanged .subscribe [] [7] [] []) },
        { event := .cl (.connectionStatusChanged none) }, { event := .phase3 [] }]
    ++ goOnline 2 5
    ++ [{ event := .cl (.allMembers 9 (some { current := [handle] })) },
        { event := .cl (.contacts 9 (some [{ handle := handle, identifier := "zoe" }])) },
        { event := .phase2 }]

/-- The idle of the first connection, which is to remove handle 7, runs on the second one. -/
def staleIdle : Input := { event := .cl (.done 4 true) }

/-- `zoe` has got another number. -/
theorem stale_closures_spare_zoe :
    ∃ b b', machine.run (boot "acct" "X-JABBER" {}) (annThenZoe 8) = some b
      ∧ (b.staleClosure staleIdle.event).isSome = true
      ∧ machine.Guarded StaleHarmless (boot "acct" "X-JABBER" {}) (annThenZoe 8 ++ [staleIdle]) b'
      ∧ machine.Guarded StaleSpares (boot "acct" "X-JABBER" {}) (annThenZoe 8 ++ [staleIdle]) b' := by
  have hbefore : ((machine.run (boot "acct" "X-JABBER" {}) (annThenZoe 8)).map fun b =>
      (b.staleClosure staleIdle.event).isSome) = some true := by decide +kernel
  have hrun : ((machine.runChecked (fun b i => decide (StaleHarmless b i))
      (boot "acct" "X-JABBER" {}) (annThenZoe 8 ++ [staleIdle])).isSome) = true := by
    decide +kernel
  obtain ⟨b, hb, hstale⟩ := Option.map_eq_some_iff.mp hbefore
  obtain ⟨b', hb'⟩ := Option.isSome_iff_exists.mp hrun
  have hg : machine.Guarded StaleHarmless _ _ b' :=
    Machine.guarded_of_runChecked (fun _ _ hc => of_decide_eq_true hc) hb'
  exact ⟨b, b', hb, hstale, hg, stale_closures_spare hg⟩

/-- `zoe` has got the number that `ann` had, and is deleted everywhere. -/
theorem stale_closure_deletes :
    ∃ b b', machine.run (boot "acct" "X-JABBER" {}) (annThenZoe 7) = some b
      ∧ b.step staleIdle = some b' ∧ (b.staleClosure staleIdle.event).isSome = true
      ∧ b.tpcl.conn = some 2 ∧ b.membersReady = true
      ∧ b.tpcl.lookup 7 = some 1 ∧ b'.tpcl.lookup 7 = none
      ∧ b.book.handleToContact.lookup 7 = some 1 ∧ b'.book.handleToContact.lookup 7 = none
      ∧ b.book.uidToContact.lookup "acct-zoe" = some 1
      ∧ b'.book.uidToContact.lookup "acct-zoe" = none := by
  have hrun : ((machine.run (boot "acct" "X-JABBER" {}) (annThenZoe 7)).bind fun b =>
      (b.step staleIdle).map fun b' =>
        decide ((b.staleClosure staleIdle.event).isSome = true
          ∧ b.tpcl.conn = some 2 ∧ b.membersReady = true
          ∧ b.tpcl.lookup 7 = some 1 ∧ b'.tpcl.lookup 7 = none
          ∧ b.book.handleToContact.lookup 7 = some 1 ∧ b'.book.handleToContact.lookup 7 = none
          ∧ b.book.uidToContact.lookup "acct-zoe" = some 1
          ∧ b'.book.uidToContact.lookup "acct-zoe" = none)) = some true := by
    decide +kernel
  obtain ⟨b, hb, hrest⟩ := Option.bind_eq_some_iff.mp hrun
  obtain ⟨b', hb', hfacts⟩ := Option.map_eq_some_iff.mp hrest
  exact ⟨b, b', hb, hb', of_decide_eq_true hfacts⟩

end Backend

end EdsTelepathy
