import EdsTelepathy.Backend.Launch
import EdsTelepathy.Proof.Answers

/-!
# A removal that was answered outlives the process

While the account is offline a removal is only noted: in the pending flags, in
`contacts_to_delete`, and, at the end of the batch, in the row of the contact. The answer lists
the uid before that. So if the database takes the row, whatever happens to the process, the
next one imports the contact as one that is to be deleted and shows it to nobody.
-/

namespace EdsTelepathy

/-! ## The rows -/

/-- Whoever is among the contacts of an update has a row written from one of them, or none. -/
theorem Db.rewritten_updateContacts {cs : List Contact} {db db' : Db}
    (h : db.updateContacts cs = some db') {c : Contact} (hc : c ∈ cs) {row : ContactRow}
    (hrow : db'.contacts.lookup c.uid = some row) :
    ∃ d ∈ cs, d.uid = c.uid ∧ ∃ n, row = rowOf d n := by
  induction cs generalizing db with
  | nil => cases hc
  | cons d cs ih =>
    unfold updateContacts at h ih
    rw [List.foldlM_cons] at h
    obtain ⟨db₁, h₁, h₂⟩ := Option.bind_eq_some_iff.mp h
    rcases List.mem_cons.mp hc with heq | hlater
    · subst heq
      rcases row_updateContacts h₂ c.uid with hsame | ⟨d, hd, hu, n, -, hd'⟩
      · rw [hsame] at hrow
        rcases (realUpdateContact_updated h₁).contacts with ⟨hnone, hcontacts⟩ | ⟨-, n, -, hcontacts⟩
        · rw [hcontacts, hnone] at hrow
          cases hrow
        · rw [hcontacts, AList.lookup_insert] at hrow
          exact ⟨c, List.mem_cons_self, rfl, n, (Option.some.inj hrow).symm⟩
      · rw [hd'] at hrow
        exact ⟨d, List.mem_cons_of_mem _ hd, hu, n, (Option.some.inj hrow).symm⟩
    · obtain ⟨e, he, hu, hn⟩ := ih h₂ hlater
      exact ⟨e, List.mem_cons_of_mem _ he, hu, hn⟩

/-- What the import looks for in the row of a contact: whether it belongs in the work table. -/
def Contact.isDue (c : Contact) : Phase3Stage → Bool
  | .update => c.pendingFlags.has scheduleUpdateFlags || c.pendingFlags.has scheduleUnblock
  | .add => c.pendingFlags.has scheduleAdd
  | .delete => c.pendingFlags.has scheduleDelete

theorem Book.workTable_importContact (b : Book) (c : Contact) (stage : Phase3Stage) :
    Backend.workTable (b.importContact c) stage
      = importInto (Backend.workTable b stage) (c.isDue stage) c.uid b.next := by
  cases stage <;> rfl

/-- **After the import exactly those wait whose rows say so**, each under its uid. -/
theorem Book.work_import {cs : List Contact} (hnd : (cs.map Contact.uid).Nodup)
    {stage : Phase3Stage} {k : String} {x : Nat} :
    (Backend.workTable (cs.foldl importContact {}) stage).lookup k = some x
      ↔ ∃ c, cs[x]? = some c ∧ c.uid = k ∧ c.isDue stage = true := by
  induction cs using List.reverseRecOn with
  | nil =>
    constructor
    · intro h
      cases stage <;> cases h
    · rintro ⟨c, hc, -⟩
      cases hc
  | append_singleton cs d ih =>
    rw [List.map_append, List.map_singleton, List.nodup_append] at hnd
    obtain ⟨hnd, -, hdisj⟩ := hnd
    have hnext := (importContacts_spec hnd).1
    have hlast : (cs ++ [d])[cs.length]? = some d := by simp
    have hold : ∀ {x : Nat} {c : Contact}, cs[x]? = some c → (cs ++ [d])[x]? = some c := by
      intro x c hc
      rw [List.getElem?_append_left (List.getElem?_eq_some_iff.mp hc).1]
      exact hc
    rw [List.foldl_append]
    show (Backend.workTable ((cs.foldl importContact {}).importContact d) stage).lookup k = some x ↔ _
    rw [workTable_importContact, hnext]
    unfold importInto
    constructor
    · intro h
      split at h
      · rename_i hdue
        rcases Table.lookup_insert_eq_some.mp h with ⟨rfl, rfl⟩ | ⟨-, hearlier⟩
        · exact ⟨d, hlast, rfl, hdue⟩
        · obtain ⟨c, hc, huid, hdue'⟩ := (ih hnd).mp hearlier
          exact ⟨c, hold hc, huid, hdue'⟩
      · obtain ⟨c, hc, huid, hdue'⟩ := (ih hnd).mp h
        exact ⟨c, hold hc, huid, hdue'⟩
    · rintro ⟨c, hc, rfl, hdue⟩
      by_cases hlt : x < cs.length
      · rw [List.getElem?_append_left hlt] at hc
        have hne : c.uid ≠ d.uid := fun heq =>
          hdisj _ (List.mem_map_of_mem (List.mem_of_getElem? hc)) _ (List.mem_singleton_self _) heq
        have hearlier := (ih hnd).mpr ⟨c, hc, rfl, hdue⟩
        split
        · rw [AList.lookup_insert_ne hne]
          exact hearlier
        · exact hearlier
      · have hlen := (List.getElem?_eq_some_iff.mp hc).1
        rw [List.length_append, List.length_singleton] at hlen
        obtain rfl : x = cs.length := by omega
        obtain rfl : d = c := Option.some.inj (hlast.symm.trans hc)
        rw [if_pos hdue, AList.lookup_insert]

/-! ## A contact on its way out -/

/-- The contact waits for its removal, and is not shown. -/
def Book.AwaitsRemoval (b : Book) (uid : String) (r : Nat) : Prop :=
  b.contactsToDelete.lookup uid = some r
    ∧ (b.contacts r).pendingFlags.has scheduleDelete = true ∧ (b.contacts r).isVisible = false

theorem Contact.isVisible_of_delete {c : Contact} (h : c.pendingFlags.has scheduleDelete = true) :
    c.isVisible = false := by
  unfold isVisible
  rw [if_pos h]

namespace Backend

/-- The property holds of the next process, whether this one is disposed of or killed. -/
def AfterEnd (b : Backend) (P : Backend → Prop) : Prop := b.dispose.AfterRestart P ∧ b.AfterRestart P

/-- Where nothing is queued, `dispose` has nothing to write. -/
theorem afterEnd_of_still {b : Backend} {P : Backend → Prop} (h : b.out.Still)
    (hP : b.AfterRestart P) : b.AfterEnd P := by
  have hsame : b.dispose = b := by
    unfold dispose
    rw [h.flushDbUpdates]
  exact ⟨by rw [hsame]; exact hP, hP⟩

/-- The contact is in the book and waits for its removal. -/
def Going (b : Backend) (r : Nat) : Prop :=
  b.book.uidToContact.lookup (b.book.contacts r).uid = some r
    ∧ b.book.contactsToDelete.lookup (b.book.contacts r).uid = some r
    ∧ (b.book.contacts r).pendingFlags.has scheduleDelete = true

/-- What a removal says about the contact it is about, where the account is offline. -/
theorem going_reallyRemove {b : Backend} (hoff : b.tpcl.status ≠ .online) {r : Nat}
    (hr : b.book.uidToContact.lookup (b.book.contacts r).uid = some r)
    (hvalid : (b.book.contacts r).flags.has contactInvalid = false) :
    (b.reallyRemove r).Going r ∧ ∀ k, k ≠ (b.book.contacts r).uid →
      (b.reallyRemove r).book.contactsToDelete.lookup k = b.book.contactsToDelete.lookup k := by
  rw [reallyRemove_offline hoff, hvalid, if_neg Bool.false_ne_true]
  have hmarked := scheduleRemoval_self b r
  have huid : (((b.modify r Contact.nothingPending).scheduleRemoval r).book.contacts r).uid
      = (b.book.contacts r).uid := by
    rw [hmarked]
    rfl
  have htable : ((b.modify r Contact.nothingPending).scheduleRemoval r).book.contactsToDelete
      = b.book.contactsToDelete.insert (b.book.contacts r).uid r := by
    have hkey := huid
    unfold scheduleRemoval Book.scheduleRemoval at hkey ⊢
    dsimp only at hkey ⊢
    rw [hkey]
    rfl
  unfold Going
  rw [huid, htable, hmarked]
  refine ⟨⟨hr, AList.lookup_insert _, BitVec.or_has_self (by decide)⟩, ?_⟩
  intro k hk
  exact AList.lookup_insert_ne hk

/-- What one removal does about the contacts on their way out, where the account is offline. -/
theorem run_going {b : Backend} (h : b.out.Clear) (hnamed : b.book.Named) (hkeyed : b.UidKeyed)
    (hoff : b.tpcl.status ≠ .online) {id : String} {r : Nat} {tokens : List String}
    (hid : resolve b.book.uidToContact id = some (r, tokens))
    (hvalid : (b.book.contacts r).flags.has contactInvalid = false) :
    (∀ x, b.Going x → (b.runRemoveContact id).2.Going x)
      ∧ (((b.book.contacts r).removeTokens tokens).2 = true → (b.runRemoveContact id).2.Going r) := by
  have hr := lookup_namedUid hid
  have huid : (b.book.contacts r).uid = namedUid id := hkeyed _ r hr
  have hremoval := removal_run h hnamed hid
  have hindex := run_index h hnamed hid hvalid
  have hself := modify_self b r fun c => (c.removeTokens tokens).1
  have hself_uid : ((b.modify r fun c => (c.removeTokens tokens).1).book.contacts r).uid
      = (b.book.contacts r).uid := by
    rw [hself]
    exact (Contact.sameKeys_removeTokens _ tokens).1
  have hself_flags : ((b.modify r fun c => (c.removeTokens tokens).1).book.contacts r).flags
      = (b.book.contacts r).flags := by
    rw [hself]
    exact (Contact.removeTokens_keeps _ tokens).2
  have hself_name : ((b.modify r fun c => (c.removeTokens tokens).1).book.contacts r).name ≠ none := by
    rw [hself, (Contact.sameKeys_removeTokens _ tokens).2.1]
    exact hnamed _ r hr
  have hlive : (b.modify r fun c => (c.removeTokens tokens).1).book.uidToContact.lookup
      ((b.modify r fun c => (c.removeTokens tokens).1).book.contacts r).uid = some r := by
    rw [hself_uid, huid]
    exact hr
  have hgone := going_reallyRemove (b := b.modify r fun c => (c.removeTokens tokens).1) hoff hlive
    (hself_flags ▸ hvalid)
  have hkept := removeMasterUids_keeps (b := b.modify r fun c => (c.removeTokens tokens).1) h hself_name
  rw [hself_uid] at hgone
  rw [hself] at hkept
  rw [runRemoveContact_found h hid] at hremoval hindex ⊢
  dsimp only at hremoval hindex ⊢
  -- what is known of contacts under other uids is the same before and after
  have hother : ∀ b' : Backend, Removal b b' r → b'.book.uidToContact = b.book.uidToContact →
      (∀ k, k ≠ (b.book.contacts r).uid →
        b'.book.contactsToDelete.lookup k = b.book.contactsToDelete.lookup k) →
      ∀ x, (b.book.contacts x).uid ≠ (b.book.contacts r).uid → b.Going x → b'.Going x := by
    intro b' hrem hindex htable x hx hgoing
    have hxr : x ≠ r := fun heq => hx (by rw [heq])
    unfold Going at hgoing ⊢
    rw [hrem.contacts x hxr, hindex, htable _ hx]
    exact hgoing
  -- whoever is on his way out under this uid is this contact
  have honly : ∀ x, (b.book.contacts x).uid = (b.book.contacts r).uid → b.Going x → x = r := by
    rintro x hx ⟨hsome, -⟩
    rw [hx, huid, hr] at hsome
    exact (Option.some.inj hsome).symm
  split at hremoval <;> rename_i hreally
  · rw [if_pos hreally] at hindex ⊢
    refine ⟨?_, fun _ => hgone.1⟩
    intro x hgoing
    by_cases hx : (b.book.contacts x).uid = (b.book.contacts r).uid
    · rw [honly x hx hgoing]
      exact hgone.1
    · exact hother _ hremoval hindex hgone.2 x hx hgoing
  · rw [if_neg hreally] at hindex ⊢
    refine ⟨?_, fun hyes => absurd hyes hreally⟩
    intro x hgoing
    by_cases hx : (b.book.contacts x).uid = (b.book.contacts r).uid
    · have hxr := honly x hx hgoing
      subst hxr
      obtain ⟨-, hwaits, hmark⟩ := hgoing
      refine ⟨?_, ?_, ?_⟩
      · rw [hremoval.uid x, hkept.1, huid]
        exact hr
      · rw [hremoval.uid x, hkept.2.1]
        exact hwaits
      · exact hkept.2.2 ((Contact.persists_removeTokens _ tokens).delete hmark)
    · refine hother _ hremoval hindex ?_ x hx hgoing
      intro k _
      rw [hkept.2.1]
      rfl

/-! ## The batch -/

/-- What holds before each turn of the loop where the account is offline. -/
structure Retiring (st : Backend × RemoveLocals) : Prop where
  midway : Midway st
  offline : st.1.tpcl.status ≠ .online
  going : ∀ x ∈ st.2.contactsToUpdate, st.1.Going x
  listed : ∀ u ∈ st.2.idsRemoved, ∃ x ∈ st.2.contactsToUpdate, (st.1.book.contacts x).uid = u

theorem retiring_removeInto {st : Backend × RemoveLocals} (h : Retiring st) {id : String}
    {ids : List String} (hids : Removable st.1 (id :: ids)) : Retiring (removeInto st id) := by
  have hvalid := hids.valid id List.mem_cons_self
  have hmidway := midway_removeInto h.midway id
  cases removalTurn h.midway id with
  | unknown hid hrun hinto =>
    rw [hinto]
    exact h
  | kept r tokens b' hid hrun hremoval hinto =>
    rw [hinto] at hmidway ⊢
    refine ⟨hmidway, by rw [hremoval.tpcl]; exact h.offline, ?_, ?_⟩
    · intro x hx
      have hgoing := (run_going h.midway.clear h.midway.named h.midway.keyed h.offline hid
        (hvalid r (lookup_namedUid hid))).1 x (h.going x hx)
      rw [hrun] at hgoing
      exact hgoing
    · intro u hu
      obtain ⟨x, hx, hxu⟩ := h.listed u hu
      exact ⟨x, hx, (hremoval.uid x).trans hxu⟩
  | gone r tokens b' hid hreally hrun hremoval hinto =>
    rw [hinto] at hmidway ⊢
    have hall := run_going h.midway.clear h.midway.named h.midway.keyed h.offline hid
      (hvalid r (lookup_namedUid hid))
    rw [hrun] at hall
    refine ⟨hmidway, by rw [hremoval.tpcl]; exact h.offline, ?_, ?_⟩
    · intro x hx
      rcases List.mem_append.mp hx with hold | hnew
      · exact hall.1 x (h.going x hold)
      · rw [List.mem_singleton.mp hnew]
        exact hall.2 hreally
    · intro u hu
      rcases List.mem_cons.mp hu with heq | hold
      · exact ⟨r, List.mem_append_right _ (List.mem_singleton_self r), heq.symm⟩
      · obtain ⟨x, hx, hxu⟩ := h.listed u hold
        exact ⟨x, List.mem_append_left _ hx, (hremoval.uid x).trans hxu⟩

theorem retiring_foldl (ids : List String) {st : Backend × RemoveLocals} (h : Retiring st)
    (hids : Removable st.1 ids) : Retiring (ids.foldl removeInto st) := by
  induction ids generalizing st with
  | nil => exact h
  | cons id ids ih => exact ih (retiring_removeInto h hids) (removable_removeInto h.midway hids).2

/-- The row of a contact on its way out, once the batch is written, says so. -/
theorem row_writeRemoved {st : Backend × RemoveLocals} (h : Retiring st) {x : Nat}
    (hx : x ∈ st.2.contactsToUpdate) {row : ContactRow}
    (hrow : (writeRemoved st).out.db.contacts.lookup (st.1.book.contacts x).uid = some row) :
    row.pendingFlags.has scheduleDelete = true := by
  have hnames : ∀ c ∈ st.2.contactsToUpdate.map st.1.book.contacts, c.name ≠ none := by
    intro c hc
    obtain ⟨y, hy, rfl⟩ := List.mem_map.mp hc
    exact h.midway.pending y hy
  obtain ⟨db, hdb⟩ := Option.isSome_iff_exists.mp (Db.updateContacts_isSome hnames st.1.out.db)
  have hwritten : (writeRemoved st).out.db = db := by
    unfold writeRemoved
    rw [if_neg (List.ne_nil_of_mem hx), h.midway.clear.transaction]
    show ((st.1.out.db.updateContacts _).getD st.1.out.db) = db
    rw [hdb]
    rfl
  rw [hwritten] at hrow
  obtain ⟨d, hd, huid, n, rfl⟩ := Db.rewritten_updateContacts hdb (List.mem_map_of_mem hx) hrow
  obtain ⟨y, hy, rfl⟩ := List.mem_map.mp hd
  -- nobody else in the book has this uid
  obtain ⟨hlive, -⟩ := h.going x hx
  obtain ⟨hlive', -, hmark⟩ := h.going y hy
  rw [huid, hlive] at hlive'
  obtain rfl := Option.some.inj hlive'
  exact hmark

/-- After the import a contact whose row says so waits for its removal. -/
theorem awaitsRemoval_restarted {b : Backend} {uid : String}
    (h : ∀ row, b.out.db.contacts.lookup uid = some row → row.pendingFlags.has scheduleDelete = true) :
    b.AfterRestart fun b₁ =>
      ∀ r, b₁.book.uidToContact.lookup uid = some r → b₁.book.AwaitsRemoval uid r := by
  intro is env b₀ b₁ hrun himport r hr
  obtain ⟨-, hbook, -⟩ := restarted_book hrun himport
  have hnd := b.out.db.nodup_fetchContacts
  rw [hbook] at hr ⊢
  obtain ⟨c, hc, rfl⟩ := Book.uid_import hnd hr
  obtain ⟨u, row, hrow, rfl⟩ := mem_fetchContacts.mp (List.mem_of_getElem? hc)
  have hmark : (b.out.db.fetchContact u row).pendingFlags.has scheduleDelete = true := h row hrow
  have himported : ((b.out.db.fetchContacts.foldl Book.importContact {}).contacts r).pendingFlags
      = (b.out.db.fetchContact u row).pendingFlags := by
    rw [((Book.importContacts_spec hnd).2.1 r _ hc).1]
    unfold Contact.imported
    split <;> rfl
  have hwaits : (workTable (b.out.db.fetchContacts.foldl Book.importContact {}) .delete).lookup u
      = some r := (Book.work_import hnd).mpr ⟨_, hc, rfl, hmark⟩
  rw [← himported] at hmark
  exact ⟨hwaits, hmark, Contact.isVisible_of_delete hmark⟩

/--
**A removal that was answered outlives the process.** Where the account is offline and the
database takes what is written, a uid in the answer to a batch names a contact that waits for its
removal and is shown to nobody; and after the next start, however the process ended, it names such a
contact or none.
-/
theorem removal_outlives {pathSuffix vcardField : String} {db₀ : Db} {b : Backend}
    (h : ReachableFrom pathSuffix vcardField db₀ b) (hsql : b.out.sql = []) (hnamed : b.book.Named)
    (hoff : b.tpcl.status ≠ .online) {ids : List String} (hids : b.Removable ids) {uid : String}
    (huid : uid ∈ (b.removeContacts none ids).1.idsRemoved) :
    (∃ r, (b.removeContacts none ids).2.book.uidToContact.lookup uid = some r
        ∧ (b.removeContacts none ids).2.book.AwaitsRemoval uid r)
      ∧ (b.removeContacts none ids).2.AfterEnd fun b₁ =>
        ∀ r, b₁.book.uidToContact.lookup uid = some r → b₁.book.AwaitsRemoval uid r := by
  have hstart : Retiring (b.flush, {}) :=
    ⟨⟨clear_flush hsql, (filed_reachable h).uid, hnamed, fun x hx => by cases hx⟩, hoff,
      fun x hx => (by cases hx), fun u hu => by cases hu⟩
  have hend : Retiring (ids.foldl removeInto (b.flush, {})) :=
    retiring_foldl ids hstart ⟨hids.nonempty, hids.valid⟩
  obtain ⟨x, hx, rfl⟩ := hend.listed uid huid
  obtain ⟨db, hdb, -⟩ := writeRemoved_spec hend.midway
  have hbatch : (b.removeContacts none ids).2 = (ids.foldl removeInto (b.flush, {})).1.withDb db := hdb
  refine ⟨⟨x, ?_⟩, afterEnd_of_still ?_ (awaitsRemoval_restarted fun row hrow => ?_)⟩
  · rw [hbatch]
    obtain ⟨hlive, hwaits, hmark⟩ := hend.going x hx
    exact ⟨hlive, hwaits, hmark, Contact.isVisible_of_delete hmark⟩
  · rw [hbatch]
    exact (hend.midway.clear.withDb db).toStill
  · exact row_writeRemoved hend hx hrow

/-- Ann is removed while the account is offline, and is not shown after the next start. -/
theorem removal_outlives_ann :
    ∃ b, ReachableFrom "acct" "X-JABBER" twoRows b
      ∧ (b.removeContacts none ["acct-ann", "acct-bob;*"]).1.idsRemoved = ["acct-ann"]
      ∧ (b.removeContacts none ["acct-ann", "acct-bob;*"]).2.AfterEnd fun b₁ =>
        ∀ r, b₁.book.uidToContact.lookup "acct-ann" = some r → b₁.book.AwaitsRemoval "acct-ann" r := by
  have hrun : ((machine.run (boot "acct" "X-JABBER" twoRows) [{ event := .phase0 }]).map fun b =>
      (b.out.sql, decide (∀ e ∈ b.book.uidToContact.entries, (b.book.contacts e.2).name ≠ none),
        decide (∀ e ∈ b.book.uidToContact.entries,
          (b.book.contacts e.2).flags.has contactInvalid = false),
        decide (b.tpcl.status ≠ .online),
        (b.removeContacts none ["acct-ann", "acct-bob;*"]).1.idsRemoved))
      = some ([], true, true, true, ["acct-ann"]) := by decide +kernel
  obtain ⟨b, hb, heq⟩ := Option.map_eq_some_iff.mp hrun
  simp only [Prod.mk.injEq] at heq
  obtain ⟨hsql, hnames, hvalid, hoff, hlisted⟩ := heq
  have hreach : ReachableFrom "acct" "X-JABBER" twoRows b := ⟨_, hb⟩
  have hnamed : b.book.Named := Table.forall_lookup.mp (of_decide_eq_true hnames)
  have hflags : ∀ k r, b.book.uidToContact.lookup k = some r →
      (b.book.contacts r).flags.has contactInvalid = false :=
    Table.forall_lookup.mp (of_decide_eq_true hvalid)
  have hids : b.Removable ["acct-ann", "acct-bob;*"] := ⟨by decide, fun _ _ => hflags _⟩
  have hin : "acct-ann" ∈ (b.removeContacts none ["acct-ann", "acct-bob;*"]).1.idsRemoved := by
    rw [hlisted]
    exact List.mem_singleton_self _
  exact ⟨b, hreach, hlisted, (removal_outlives hreach hsql hnamed (of_decide_eq_true hoff) hids hin).2⟩

end Backend

end EdsTelepathy
