import EdsTelepathy.Backend.Launch
import EdsTelepathy.Proof.Outlives

/-!
# What a restart finds

The next process imports the map that the tables stand for, and puts every contact in the work
tables that its row asks for. If the process before it was killed, that map is the one of its
database. If it ended in good order, whoever was waiting for the database is in the map as he was;
so then nothing is lost that the idle source would have written.

What a request writes itself is in the map at once. So an answer to a request that was put off
holds beyond the end of the process: the next one puts off the same.
-/

namespace EdsTelepathy

/-! ## The map of a database -/

/-- The map that the tables stand for. -/
def Db.kept (db : Db) : CacheMap := fun uid => (db.contacts.lookup uid).map (db.fetchContact uid)

theorem Db.agree_kept (db : Db) : Db.Agree db db.kept := by
  refine ⟨⟨?_, ?_⟩, ?_⟩
  · intro uid
    unfold kept
    cases db.contacts.lookup uid with
    | none => rfl
    | some row => rfl
  · intro uid c hc
    obtain ⟨row, -, rfl⟩ := Option.map_eq_some_iff.mp hc
    exact ⟨rfl, fun hnone => by cases hnone⟩
  · intro uid c hc
    obtain ⟨row, -, rfl⟩ := Option.map_eq_some_iff.mp hc
    have hfetched := fetchContact_fetched db uid row
    exact ⟨fun x => (hfetched.masterUids x).symm, fun v => (hfetched.variants v).symm⟩

/-- What is fetched under a uid shows the contact that the map has there. -/
theorem Db.Agree.shows {db : Db} {m : CacheMap} (h : Db.Agree db m) {uid : String}
    {row : ContactRow} (hrow : db.contacts.lookup uid = some row) {c : Contact} (hc : m uid = some c) :
    Shows (db.fetchContact uid row) c := by
  obtain ⟨n, hn, hrow'⟩ := h.rows.lookup_of hc
  rw [hrow'] at hrow
  obtain rfl := Option.some.inj hrow
  have hfetched := fetchContact_fetched db uid (rowOf c n)
  obtain ⟨hmasters, hvariants⟩ := h.sets uid c hc
  exact ⟨hn.symm, rfl, rfl, rfl, rfl, rfl, fun x => (hfetched.masterUids x).trans (hmasters x),
    fun v => (hfetched.variants v).trans (hvariants v)⟩

/-! ## The import -/

theorem Shows.imported {c d : Contact} (h : Shows c d) : Shows c.imported d.imported := by
  have hflags := h.flags
  have hpending := h.pendingFlags
  unfold Contact.imported
  rw [hflags, hpending]
  split
  · exact ⟨h.name, h.aliasName, h.avatarToken, rfl, rfl, h.contactInfo, h.masterUids, h.variants⟩
  · exact h

theorem Shows.isDue {c d : Contact} (h : Shows c d) (stage : Phase3Stage) :
    c.isDue stage = d.isDue stage := by
  unfold Contact.isDue
  rw [h.pendingFlags]

/-- The book of a process that has imported a map and done nothing else yet. -/
structure Book.Restores (b : Book) (m : CacheMap) : Prop where
  /-- It knows whom the map has. -/
  known : ∀ uid, (b.uidToContact.lookup uid).isSome = (m uid).isSome
  shows : ∀ uid r c, b.uidToContact.lookup uid = some r → m uid = some c →
    Shows (b.contacts r) c.imported
  /-- It waits for what the map says is still to be done. -/
  waits : ∀ stage uid r, (Backend.workTable b stage).lookup uid = some r
    ↔ b.uidToContact.lookup uid = some r ∧ ∃ c, m uid = some c ∧ c.isDue stage = true

/-- **The import restores the map.** -/
theorem Book.restores_import {db : Db} {m : CacheMap} (h : Db.Agree db m) :
    (db.fetchContacts.foldl Book.importContact {}).Restores m := by
  have hnd := db.nodup_fetchContacts
  obtain ⟨-, himported, -⟩ := Book.importContacts_spec hnd
  -- whoever is fetched is in the map
  have hfound : ∀ {x : Nat} {d : Contact}, db.fetchContacts[x]? = some d →
      ∃ row c, db.contacts.lookup d.uid = some row ∧ d = db.fetchContact d.uid row
        ∧ m d.uid = some c ∧ Shows d c := by
    intro x d hd
    obtain ⟨uid, row, hrow, rfl⟩ := Backend.mem_fetchContacts.mp (List.mem_of_getElem? hd)
    have hsome : (m uid).isSome = true := by
      rw [← h.rows.isSome uid, hrow]
      rfl
    obtain ⟨c, hc⟩ := Option.isSome_iff_exists.mp hsome
    exact ⟨row, c, hrow, rfl, hc, h.shows hrow hc⟩
  refine ⟨?_, ?_, ?_⟩
  · intro uid
    rw [← h.rows.isSome uid]
    cases hrow : db.contacts.lookup uid with
    | none =>
      cases hx : (db.fetchContacts.foldl Book.importContact {}).uidToContact.lookup uid with
      | none => rfl
      | some x =>
        obtain ⟨d, hd, rfl⟩ := Book.uid_import hnd hx
        obtain ⟨row, -, hrow', -⟩ := hfound hd
        rw [hrow] at hrow'
        cases hrow'
    | some row =>
      have hmem : db.fetchContact uid row ∈ db.fetchContacts :=
        Backend.mem_fetchContacts.mpr ⟨uid, row, hrow, rfl⟩
      obtain ⟨x, hx⟩ := List.getElem?_of_mem hmem
      have hlook := (himported x _ hx).2
      exact congrArg Option.isSome hlook
  · intro uid x c hx hc
    obtain ⟨d, hd, rfl⟩ := Book.uid_import hnd hx
    obtain ⟨row, c', -, -, hc', hshows⟩ := hfound hd
    obtain rfl : c' = c := Option.some.inj (hc'.symm.trans hc)
    rw [(himported x d hd).1]
    exact hshows.imported
  · intro stage uid x
    rw [Book.work_import hnd]
    constructor
    · rintro ⟨d, hd, rfl, hdue⟩
      obtain ⟨row, c, -, -, hc, hshows⟩ := hfound hd
      rw [hshows.isDue] at hdue
      exact ⟨(himported x d hd).2, c, hc, hdue⟩
    · rintro ⟨hx, c, hc, hdue⟩
      obtain ⟨d, hd, rfl⟩ := Book.uid_import hnd hx
      obtain ⟨row, c', -, -, hc', hshows⟩ := hfound hd
      obtain rfl : c' = c := Option.some.inj (hc'.symm.trans hc)
      rw [← hshows.isDue] at hdue
      exact ⟨d, hd, rfl, hdue⟩

/-! ## The contacts that wait for the database -/

namespace CacheMap

/-- The map with the contacts of a table in it, each under its key, if there was one before. -/
def overlaid (m : CacheMap) (waiting : Table String Nat) (heap : Nat → Contact) : CacheMap :=
  fun uid => (m uid).map fun c => ((waiting.lookup uid).map heap).getD c

theorem put_of_ne {m : CacheMap} {c : Contact} {uid : String} (h : uid ≠ c.uid) :
    m.put c uid = m uid := by
  rw [put_apply, if_neg fun hall => h hall.1]

theorem foldl_put_of_not_mem {cs : List Contact} {uid : String} (h : ∀ c ∈ cs, c.uid ≠ uid)
    (m : CacheMap) : cs.foldl put m uid = m uid := by
  induction cs generalizing m with
  | nil => rfl
  | cons c cs ih =>
    rw [List.foldl_cons, ih fun d hd => h d (List.mem_cons_of_mem c hd),
      put_of_ne (h c List.mem_cons_self).symm]

theorem foldl_put_of_mem {cs : List Contact} (hnd : (cs.map Contact.uid).Nodup) {c : Contact}
    (hc : c ∈ cs) (hname : c.name ≠ none) (m : CacheMap) :
    cs.foldl put m c.uid = (m c.uid).map fun _ => c := by
  induction cs generalizing m with
  | nil => cases hc
  | cons d cs ih =>
    rw [List.map_cons, List.nodup_cons] at hnd
    rw [List.foldl_cons]
    rcases List.mem_cons.mp hc with rfl | hlater
    · have hrest : ∀ d ∈ cs, d.uid ≠ c.uid := fun d hd heq =>
        hnd.1 (List.mem_map.mpr ⟨d, hd, heq⟩)
      rw [foldl_put_of_not_mem hrest, put_apply]
      cases m c.uid with
      | none => simp
      | some _ => simp [hname]
    · have hne : c.uid ≠ d.uid := fun heq =>
        hnd.1 (heq ▸ List.mem_map_of_mem hlater)
      rw [ih hnd.2 hlater, put_of_ne hne]

/-- Updates of all the contacts of a table come to the map with the table in it. -/
theorem foldl_put_values {waiting : Table String Nat} {heap : Nat → Contact}
    (hkeyed : ∀ k r, waiting.lookup k = some r → (heap r).uid = k)
    (hnamed : ∀ k r, waiting.lookup k = some r → (heap r).name ≠ none) (m : CacheMap) :
    ((Table.values waiting).map heap).foldl put m = m.overlaid waiting heap := by
  funext uid
  unfold overlaid
  cases hr : waiting.lookup uid with
  | none =>
    have hnot : ∀ c ∈ (Table.values waiting).map heap, c.uid ≠ uid := by
      intro c hc heq
      obtain ⟨r, hr', rfl⟩ := List.mem_map.mp hc
      obtain ⟨k, hk⟩ := Table.mem_values.mp hr'
      rw [hkeyed k r hk] at heq
      rw [heq, hr] at hk
      cases hk
    rw [foldl_put_of_not_mem hnot]
    cases m uid with
    | none => rfl
    | some c => rfl
  | some r =>
    have huid := hkeyed uid r hr
    have hmem : heap r ∈ (Table.values waiting).map heap :=
      List.mem_map_of_mem (Table.mem_values.mpr ⟨uid, hr⟩)
    have hput := foldl_put_of_mem (Outbox.nodup_uids hkeyed) hmem (hnamed uid r hr) m
    rw [huid] at hput
    exact hput

end CacheMap

/-! ## The end of the process -/

namespace Backend

/-- Whatever has come of it, a process that is started from the database restores its map. -/
theorem restores_restarted {b : Backend} {m : CacheMap} (h : Db.Agree b.out.db m) :
    b.AfterRestart fun b₁ => b₁.book.Restores m := by
  intro is env b₀ b₁ hrun himport
  obtain ⟨-, hbook, -⟩ := restarted_book hrun himport
  rw [hbook]
  exact Book.restores_import h

/-- What `dispose` makes of the map, where the database takes it. -/
theorem agree_dispose {b : Backend} (hsql : b.out.sql = [])
    (hkeyed : ∀ k r, b.out.contactsToUpdateInDb.lookup k = some r → (b.book.contacts r).uid = k)
    (hnamed : ∀ k r, b.out.contactsToUpdateInDb.lookup k = some r →
      (b.book.contacts r).name ≠ none) :
    Db.Agree b.dispose.out.db
      (b.out.db.kept.overlaid b.out.contactsToUpdateInDb b.book.contacts) := by
  have hall := CacheMap.foldl_put_values hkeyed hnamed b.out.db.kept
  have hnames : ∀ c ∈ (Table.values b.out.contactsToUpdateInDb).map b.book.contacts,
      c.name ≠ none := by
    intro c hc
    obtain ⟨r, hr, rfl⟩ := List.mem_map.mp hc
    obtain ⟨k, hk⟩ := Table.mem_values.mp hr
    exact hnamed k r hk
  have hagree := DbCall.agree_updateContacts b.out.db.agree_kept
    ((Table.values b.out.contactsToUpdateInDb).map b.book.contacts)
  rw [CacheMap.foldlM_update hnames, Option.getD_some, hall] at hagree
  obtain ⟨db', hdb'⟩ := Option.isSome_iff_exists.mp (Db.updateContacts_isSome hnames b.out.db)
  rw [hdb', Option.getD_some] at hagree
  have hwritten : b.dispose.out.db = db' := by
    unfold dispose Outbox.flushDbUpdates
    dsimp only
    split
    · rename_i hnil
      rw [hnil] at hdb'
      exact Option.some.inj hdb'
    · unfold Outbox.transaction
      rw [hsql]
      dsimp only [List.headD_nil]
      rw [if_pos rfl, hdb']
  rw [hwritten]
  exact hagree

/--
**A process that ends in good order loses nothing that it still had to write.** In every reachable
state, if SQLite fails nowhere: after `dispose` the next process imports the map of the database
with everybody who was waiting for it as he was at the end; after a kill it imports the map of the
database alone. Either way it waits for what its rows say is still to be done.
-/
theorem restart_restores {pathSuffix vcardField : String} {db : Db} {b : Backend}
    (h : ReachableFrom pathSuffix vcardField db b) (hsql : b.out.sql = [])
    (hnamed : ∀ k r, b.out.contactsToUpdateInDb.lookup k = some r →
      (b.book.contacts r).name ≠ none) :
    (b.dispose.AfterRestart fun b₁ =>
        b₁.book.Restores (b.out.db.kept.overlaid b.out.contactsToUpdateInDb b.book.contacts))
      ∧ b.AfterRestart fun b₁ => b₁.book.Restores b.out.db.kept := by
  have hkeyed : ∀ k r, b.out.contactsToUpdateInDb.lookup k = some r → (b.book.contacts r).uid = k := by
    intro k r hr
    exact ((queued_reachable h).keyed.toUpdate k r hr).2
  exact ⟨restores_restarted (agree_dispose hsql hkeyed hnamed), restores_restarted b.out.db.agree_kept⟩

/-- Ann has another alias than her row when the process ends. -/
theorem restart_restores_alias :
    ∃ b, ReachableFrom "acct" "X-JABBER" {} b ∧ b.out.contactsToUpdateInDb ≠ ∅
      ∧ (b.dispose.AfterRestart fun b₁ =>
        b₁.book.Restores (b.out.db.kept.overlaid b.out.contactsToUpdateInDb b.book.contacts))
      ∧ b.AfterRestart fun b₁ => b₁.book.Restores b.out.db.kept := by
  have hrun : ((machine.run (boot "acct" "X-JABBER" {})
      (firstSync ++ [{ event := .cl (.details (.aliasesChanged [(7, "Ann")])) }])).map fun b =>
        (b.out.sql, decide (b.out.contactsToUpdateInDb ≠ ∅),
          decide (∀ e ∈ b.out.contactsToUpdateInDb.entries, (b.book.contacts e.2).name ≠ none)))
      = some ([], true, true) := by decide +kernel
  obtain ⟨b, hb, heq⟩ := Option.map_eq_some_iff.mp hrun
  simp only [Prod.mk.injEq] at heq
  obtain ⟨hsql, hwaiting, hnames⟩ := heq
  have hreach : ReachableFrom "acct" "X-JABBER" {} b := ⟨_, hb⟩
  exact ⟨b, hreach, of_decide_eq_true hwaiting,
    restart_restores hreach hsql (Table.forall_lookup.mp (of_decide_eq_true hnames))⟩

/-! ## A creation that was answered -/

theorem createNew_added {b : Backend} (h : b.out.Clear) {c : Contact}
    (hadd : c.pendingFlags.has scheduleAdd = true) {r : Nat} (hok : (b.createNew c).1 = some r) :
    r = b.book.next ∧ (b.createNew c).2.book = b.book.createContact c
      ∧ Db.Added b.out.db c (b.createNew c).2.out.db := by
  unfold createNew at hok ⊢
  dsimp only at hok ⊢
  rw [if_pos hadd, h.transaction] at hok
  rw [if_pos hadd, h.transaction]
  dsimp only at hok ⊢
  rw [Book.createContact_contacts_next] at hok ⊢
  split at hok
  · rename_i hsome
    obtain ⟨db', hdb'⟩ := Option.isSome_iff_exists.mp hsome
    refine ⟨(Option.some.inj hok).symm, rfl, ?_⟩
    rw [hdb']
    unfold Db.addContacts at hdb'
    rw [List.foldlM_cons] at hdb'
    obtain ⟨db₁, hone, hnil⟩ := Option.bind_eq_some_iff.mp hdb'
    obtain rfl := Option.some.inj hnil
    exact Db.realAddContact_added hone
  · cases hok

/-- A contact like this one is known under its uid and waits to be added. -/
structure AwaitsAdding (book : Book) (c : Contact) (r : Nat) : Prop where
  live : book.uidToContact.lookup c.uid = some r
  waits : book.contactsToAdd.lookup c.uid = some r
  name : (book.contacts r).name = c.name
  flags : (book.contacts r).flags = c.flags
  pendingFlags : (book.contacts r).pendingFlags = c.pendingFlags
  masterUids : ∀ m ∈ c.masterUids, m ∈ (book.contacts r).masterUids

/-- A contact whose row was added is imported as one that waits to be added. -/
theorem awaitsAdding_restarted {b : Backend} {db : Db} {c : Contact} (h : Db.Added db c b.out.db)
    (hadd : c.pendingFlags.has scheduleAdd = true) :
    b.AfterRestart fun b₁ => ∃ r, AwaitsAdding b₁.book c r := by
  obtain ⟨n, hn, hcontacts⟩ := h.contacts
  have hrow : b.out.db.contacts.lookup c.uid = some (Db.rowOf c n) := by
    rw [hcontacts]
    exact AList.lookup_insert _
  have hkept : b.out.db.kept c.uid = some (b.out.db.fetchContact c.uid (Db.rowOf c n)) := by
    unfold Db.kept
    rw [hrow]
    rfl
  intro is env b₀ b₁ hrun himport
  have hrestores := restores_restarted b.out.db.agree_kept is env b₀ b₁ hrun himport
  have hsome : (b₁.book.uidToContact.lookup c.uid).isSome = true := by
    rw [hrestores.known, hkept]
    rfl
  obtain ⟨r, hr⟩ := Option.isSome_iff_exists.mp hsome
  have hshows := hrestores.shows c.uid r _ hr hkept
  -- a contact that waits to be added is not marked unseen
  have himported : (b.out.db.fetchContact c.uid (Db.rowOf c n)).imported
      = b.out.db.fetchContact c.uid (Db.rowOf c n) := by
    unfold Contact.imported
    rw [show (b.out.db.fetchContact c.uid (Db.rowOf c n)).pendingFlags.has scheduleAdd = true
      from hadd]
    rfl
  rw [himported] at hshows
  refine ⟨r, hr, ?_, hshows.name.trans hn.symm, hshows.flags, hshows.pendingFlags, ?_⟩
  · exact (hrestores.waits .add c.uid r).mpr ⟨hr, _, hkept, hadd⟩
  · intro m hm
    rw [hshows.masterUids, (Db.fetchContact_fetched ..).masterUids]
    exact (h.masterUids (c.uid, m)).mpr (.inr ⟨rfl, hm⟩)

/--
**A creation that was answered outlives the process.** Where the account is offline and the
database takes what is written, a vcard with a name that is not known makes a contact that waits
to be added; and so does the next process, however this one ends.
-/
theorem creation_outlives {b : Backend} (hsql : b.out.sql = []) (hoff : b.tpcl.status ≠ .online)
    {ec : Contact.EVCard} {n : String} (hn : n ≠ "")
    (hname : Contact.cardName b.vcardField ec none = some n)
    (hnew : b.book.nameToContact.lookup (some n) = none) {r : Nat}
    (hok : (b.flush.runCreateContact ec).1 = some r) :
    ∃ c, (b.createContact ec).book.contacts r = c ∧ c.name = some n
      ∧ AwaitsAdding (b.createContact ec).book c r
      ∧ (b.createContact ec).AfterEnd fun b₁ => ∃ r₁, AwaitsAdding b₁.book c r₁ := by
  obtain ⟨c, hc, hcreated, -, -, -, hrun⟩ :=
    runCreateContact_offline (b := b.flush) hoff hn hname
  have henter : b.flush.enterCreated c = b.flush.createNew c := by
    have hlook : b.flush.book.nameToContact.lookup c.name = none := by
      rw [hc]
      exact hnew
    unfold enterCreated
    rw [hlook]
  have hstill : (b.createContact ec).out.Still := still_request (e := .createContact ec) id rfl
  unfold createContact at hstill ⊢
  rw [hrun, henter] at hok hstill ⊢
  obtain ⟨rfl, hbook, hadded⟩ := createNew_added (clear_flush hsql) hcreated.add hok
  have hself : (b.flush.createNew c).2.book.contacts b.flush.book.next = c := by
    rw [hbook]
    exact Book.createContact_contacts_next _ _
  refine ⟨c, hself, hc, ?_, afterEnd_of_still hstill (awaitsAdding_restarted hadded hcreated.add)⟩
  refine ⟨?_, ?_, congrArg Contact.name hself, congrArg Contact.flags hself,
    congrArg Contact.pendingFlags hself, ?_⟩
  · rw [hbook, Book.createContact_uidToContact]
    exact AList.lookup_insert _
  · rw [hbook, Book.createContact_added _ hcreated.add]
    exact AList.lookup_insert _
  · intro m hm
    rw [hself]
    exact hm

/-- A vcard for Carl, with the contact of the address book that it belongs to. -/
def carlsCard : Contact.EVCard :=
  [{ name := "X-JABBER", values := ["carl"] }, { name := "X-OSSO-MASTER-UID", values := ["12"] }]

theorem creation_outlives_carl :
    ∃ b r, ReachableFrom "acct" "X-JABBER" twoRows b
      ∧ (b.flush.runCreateContact carlsCard).1 = some r
      ∧ ∃ c, (b.createContact carlsCard).book.contacts r = c ∧ c.name = some "carl"
        ∧ AwaitsAdding (b.createContact carlsCard).book c r
        ∧ (b.createContact carlsCard).AfterEnd fun b₁ => ∃ r₁, AwaitsAdding b₁.book c r₁ := by
  have hrun : ((machine.run (boot "acct" "X-JABBER" twoRows) [{ event := .phase0 }]).map fun b =>
      decide (b.out.sql = [] ∧ b.tpcl.status ≠ .online
        ∧ Contact.cardName b.vcardField carlsCard none = some "carl"
        ∧ b.book.nameToContact.lookup (some "carl") = none
        ∧ (b.flush.runCreateContact carlsCard).1 = some 2)) = some true := by decide +kernel
  obtain ⟨b, hb, hfacts⟩ := Option.map_eq_some_iff.mp hrun
  obtain ⟨hsql, hoff, hname, hnew, hok⟩ := of_decide_eq_true hfacts
  exact ⟨b, 2, ⟨_, hb⟩, hok, creation_outlives hsql hoff (by decide) hname hnew hok⟩

/-! ## A modification that was answered -/

/-- What a modification that is stored offline leaves in the database. -/
theorem modifyContact_stored {b : Backend} (hsql : b.out.sql = []) (hoff : b.tpcl.status ≠ .online)
    {ec : Contact.EVCard} {r : Nat} {c : Contact}
    (hr : (Contact.cardUid ec).bind b.book.uidToContact.lookup = some r)
    (hc : ((b.book.contacts r).updateFromEcontact ec b.vcardField).2 = c)
    (hneeds : c.needsUpdate = true) (hname : c.name ≠ none) :
    (b.modifyContact ec).out.db = (b.flush.out.db.updateContacts [c]).getD b.flush.out.db := by
  have hself : (b.flush.modify r fun c => (c.updateFromEcontact ec b.vcardField).2).book.contacts r
      = c := by
    rw [modify_self]
    exact hc
  have hstored : ((b.flush.modify r fun c => (c.updateFromEcontact ec b.vcardField).2).scheduleUpdate
      r).book.contacts r = c := hself
  have hclear : ((b.flush.modify r fun c => (c.updateFromEcontact ec b.vcardField).2).scheduleUpdate
      r).out.Clear := clear_flush hsql
  unfold modifyContact
  dsimp only
  rw [show (Contact.cardUid ec).bind b.flush.book.uidToContact.lookup = some r from hr]
  dsimp only
  rw [show b.flush.vcardField = b.vcardField from rfl, hself, if_pos hneeds]
  unfold commitModification sendFlags
  rw [if_neg fun hon => hoff hon.1]
  unfold storeModification
  rw [dbUpdateContact_clear hclear (by rw [hstored]; exact hname), hstored]
  exact congrArg Outbox.db ((hclear.withDb _).toStill.notifyUpdatedContact _ r)

/-- One that leaves nothing to update is not stored. -/
theorem modifyContact_unstored {b : Backend} {ec : Contact.EVCard} {r : Nat} {c : Contact}
    (hr : (Contact.cardUid ec).bind b.book.uidToContact.lookup = some r)
    (hc : ((b.book.contacts r).updateFromEcontact ec b.vcardField).2 = c)
    (hneeds : c.needsUpdate = false) : (b.modifyContact ec).out = b.flush.out := by
  have hself : (b.flush.modify r fun c => (c.updateFromEcontact ec b.vcardField).2).book.contacts r
      = c := by
    rw [modify_self]
    exact hc
  unfold modifyContact
  dsimp only
  rw [show (Contact.cardUid ec).bind b.flush.book.uidToContact.lookup = some r from hr]
  dsimp only
  rw [show b.flush.vcardField = b.vcardField from rfl, hself, hneeds, if_neg Bool.false_ne_true]
  rfl

/-- A process that restores a map shows the contact that it has under a uid, and replays what is due. -/
theorem shown_of_restores {b₁ : Backend} {m : CacheMap} (h : b₁.book.Restores m) {uid : String}
    {c : Contact} (hc : m uid = some c) :
    ∃ r₁, b₁.book.uidToContact.lookup uid = some r₁ ∧ Shows (b₁.book.contacts r₁) c.imported
      ∧ ∀ stage, (workTable b₁.book stage).lookup uid = some r₁ ↔ c.isDue stage = true := by
  have hknown : (b₁.book.uidToContact.lookup uid).isSome = true := by
    rw [h.known, hc]
    rfl
  obtain ⟨r₁, hr₁⟩ := Option.isSome_iff_exists.mp hknown
  refine ⟨r₁, hr₁, h.shows uid r₁ c hr₁ hc, ?_⟩
  intro stage
  rw [h.waits]
  constructor
  · rintro ⟨-, d, hd, hdue⟩
    obtain rfl : d = c := Option.some.inj (hd.symm.trans hc)
    exact hdue
  · intro hdue
    exact ⟨hr₁, c, hc, hdue⟩

/--
**A modification that was answered outlives the process if it leaves something to update.** Where the
account is offline and the contact has its row: if the vcard leaves an update pending, the next process
shows the contact as the vcard left it, however this one ends; if not, it shows what the database had.
Either way it waits for what the pending flags that it finds ask for.
-/
theorem modification_outlives {pathSuffix vcardField : String} {db : Db} {b : Backend}
    (h : ReachableFrom pathSuffix vcardField db b) (hsql : b.out.sql = [])
    (hoff : b.tpcl.status ≠ .online) {ec : Contact.EVCard} {uid : String} {r : Nat} {c d : Contact}
    (huid : Contact.cardUid ec = some uid) (hr : b.book.uidToContact.lookup uid = some r)
    (hrow : b.flush.out.db.kept uid = some d)
    (hc : ((b.book.contacts r).updateFromEcontact ec b.vcardField).2 = c) (hname : c.name ≠ none) :
    (b.modifyContact ec).AfterEnd fun b₁ =>
      ∃ r₁, b₁.book.uidToContact.lookup uid = some r₁
        ∧ Shows (b₁.book.contacts r₁) (if c.needsUpdate then c else d).imported
        ∧ ∀ stage, (workTable b₁.book stage).lookup uid = some r₁
          ↔ (if c.needsUpdate then c else d).isDue stage = true := by
  have hkey : c.uid = uid := by
    rw [← hc, (Contact.decoded_updateFromEcontact ..).uid]
    exact (filed_reachable h).uid uid r hr
  have hfound : (Contact.cardUid ec).bind b.book.uidToContact.lookup = some r := by
    rw [huid]
    exact hr
  have hstill : (b.modifyContact ec).out.Still := still_request (e := .modifyContact ec) id rfl
  cases hneeds : c.needsUpdate with
  | true =>
    rw [if_pos rfl]
    have hdb := modifyContact_stored hsql hoff hfound hc hneeds hname
    -- the map has the contact as the vcard left it
    have hagree := DbCall.agree_updateContacts b.flush.out.db.agree_kept [c]
    rw [CacheMap.foldlM_update (by simpa using hname)] at hagree
    rw [← hdb] at hagree
    have hput : b.flush.out.db.kept.put c uid = some c := by
      rw [CacheMap.put_apply, hkey, hrow, if_pos ⟨rfl, rfl, hname⟩]
    exact afterEnd_of_still hstill fun is env b₀ b₁ hrun himport =>
      shown_of_restores (restores_restarted hagree is env b₀ b₁ hrun himport) hput
  | false =>
    rw [if_neg Bool.false_ne_true]
    have hout := modifyContact_unstored hfound hc hneeds
    rw [← hout] at hrow
    exact afterEnd_of_still hstill fun is env b₀ b₁ hrun himport =>
      shown_of_restores (restores_restarted (Db.agree_kept _) is env b₀ b₁ hrun himport) hrow

/-- Bob is to be blocked. -/
def bobBlocked : Contact.EVCard :=
  [{ name := "UID", values := ["acct-bob"] }, { name := "X-JABBER", values := ["bob"] },
    { name := "X-TELEPATHY-BLOCKED", values := ["yes"] }]

theorem modification_outlives_bob :
    ∃ (b : Backend) (c : Contact), ReachableFrom "acct" "X-JABBER" twoRows b ∧ c.needsUpdate = true
      ∧ c.isDue .update = true
      ∧ (b.modifyContact bobBlocked).AfterEnd fun b₁ =>
        ∃ r₁, b₁.book.uidToContact.lookup "acct-bob" = some r₁
          ∧ Shows (b₁.book.contacts r₁) c.imported
          ∧ ∀ stage, (workTable b₁.book stage).lookup "acct-bob" = some r₁
            ↔ c.isDue stage = true := by
  have hrun : ((machine.run (boot "acct" "X-JABBER" twoRows) [{ event := .phase0 }]).map fun b =>
      decide (b.out.sql = [] ∧ b.tpcl.status ≠ .online
        ∧ b.book.uidToContact.lookup "acct-bob" = some 1
        ∧ (b.flush.out.db.kept "acct-bob").isSome = true
        ∧ ((b.book.contacts 1).updateFromEcontact bobBlocked b.vcardField).2.needsUpdate = true
        ∧ ((b.book.contacts 1).updateFromEcontact bobBlocked b.vcardField).2.isDue .update = true
        ∧ ((b.book.contacts 1).updateFromEcontact bobBlocked b.vcardField).2.name ≠ none))
      = some true := by decide +kernel
  obtain ⟨b, hb, hfacts⟩ := Option.map_eq_some_iff.mp hrun
  obtain ⟨hsql, hoff, hr, hrow, hneeds, hdue, hname⟩ := of_decide_eq_true hfacts
  obtain ⟨d, hrow⟩ := Option.isSome_iff_exists.mp hrow
  have hend := modification_outlives ⟨_, hb⟩ hsql hoff rfl hr hrow rfl hname
  rw [hneeds, if_pos rfl] at hend
  exact ⟨b, _, ⟨_, hb⟩, hneeds, hdue, hend⟩

end Backend

end EdsTelepathy
