import EdsTelepathy.Cl.Requests
import EdsTelepathy.Proof.Wishes

/-!
# The requests of a modification

`run_update_flags` compares the pending flags with the flags of the roster's own copy of
the contact, list by list, and asks to join and to leave lists accordingly. While the
connection and all channels are up, the requests it sends have a closed form, which is the
comparison of two sets. With what a vcard makes of the pending flags this says what a
modification asks the server for, at once and when it is replayed after the next connect.
-/

namespace EdsTelepathy

/-! ## What is sent -/

/-- The next `n` calls are answered, and the connection stays up meanwhile. -/
structure Wire.Up (n : Nat) (w : Wire) : Prop where
  enough : n ≤ w.replies.length
  connected : ∀ r ∈ w.replies, r.connected = true

theorem Wire.Up.ask {n : Nat} {w : Wire} (h : w.Up (n + 1)) (r : Request) :
    (w.ask r).1.connected = true ∧ (w.ask r).2.Up n ∧ (w.ask r).2.sent = w.sent ++ [r] := by
  obtain ⟨hn, hc⟩ := h
  unfold Wire.ask
  cases hw : w.replies with
  | nil => rw [hw, List.length_nil] at hn; omega
  | cons a as =>
    rw [hw] at hn hc
    rw [List.length_cons] at hn
    exact ⟨hc a List.mem_cons_self, ⟨by show n ≤ as.length; omega,
      fun r hr => hc r (List.mem_cons_of_mem a hr)⟩, rfl⟩

namespace Cl

/-- The account is online and the channel of every list is up. -/
structure AllUp (cl : Cl) : Prop where
  connected : cl.isConnected = true
  channels : ∀ l, cl.channels l = true

/-- The roster's copy of a contact. -/
structure Copy (cl : Cl) (c : Contact) (x : Nat) : Prop where
  handle : 0 < c.handle
  entry : cl.lookup c.handle = some x
  same : (cl.contacts x).handle = c.handle

/-- The two calls for one list, for a contact on the lists `F` that is wanted on the lists `G`. -/
def listRequests (F G : ListId → Bool) (h : Nat) (l : ListId) : List Request :=
  [.addMembers l (handleIf (Wish.joins F G l) h), .removeMembers l (handleIf (Wish.leaves F G l) h)]

/-- The calls for all lists that have a channel. -/
def flagRequests (channels F G : ListId → Bool) (h : Nat) : List Request :=
  (ListId.all.filter channels).flatMap (listRequests F G h)

theorem handleIf_eq_singleton {b : Bool} {h : Nat} : handleIf b h = [h] ↔ b = true := by
  cases b <;> simp [handleIf]

/-- A call that is sent for a list is one of the two. -/
theorem mem_flagRequests {channels F G : ListId → Bool} {h : Nat} {r : Request} :
    r ∈ flagRequests channels F G h ↔ ∃ l, channels l = true
      ∧ (r = .addMembers l (handleIf (Wish.joins F G l) h)
        ∨ r = .removeMembers l (handleIf (Wish.leaves F G l) h)) := by
  unfold flagRequests listRequests
  simp [ListId.mem_all]

theorem addMembers_mem {channels F G : ListId → Bool} {h : Nat} {l : ListId} :
    Request.addMembers l [h] ∈ flagRequests channels F G h
      ↔ channels l = true ∧ Wish.joins F G l = true := by
  rw [mem_flagRequests, ← handleIf_eq_singleton (b := Wish.joins F G l) (h := h)]
  constructor
  · rintro ⟨l', hch, he | he⟩
    · obtain ⟨rfl, hb⟩ := Request.addMembers.inj he
      exact ⟨hch, hb.symm⟩
    · cases he
  · rintro ⟨hch, he⟩
    exact ⟨l, hch, .inl (by rw [he])⟩

theorem removeMembers_mem {channels F G : ListId → Bool} {h : Nat} {l : ListId} :
    Request.removeMembers l [h] ∈ flagRequests channels F G h
      ↔ channels l = true ∧ Wish.leaves F G l = true := by
  rw [mem_flagRequests, ← handleIf_eq_singleton (b := Wish.leaves F G l) (h := h)]
  constructor
  · rintro ⟨l', hch, he | he⟩
    · cases he
    · obtain ⟨rfl, hb⟩ := Request.removeMembers.inj he
      exact ⟨hch, hb.symm⟩
  · rintro ⟨hch, he⟩
    exact ⟨l, hch, .inr (by rw [he])⟩

/-- Without a connection nothing is sent. -/
theorem updateFlagsLoop_lost (channels : ListId → Bool) (wanted : Flags) (contact : Contact)
    (ls : List ListId) (w : Wire) : updateFlagsLoop channels wanted contact ls false w = (true, w) := by
  induction ls with
  | nil => rfl
  | cons l ls ih => exact ih

/-- The loop sends the calls for the lists in order, up to where the connection is lost. -/
theorem updateFlagsLoop_sent (channels : ListId → Bool) (wanted : Flags) (contact : Contact)
    (ls : List ListId) (w : Wire) :
    ∃ calls, (updateFlagsLoop channels wanted contact ls true w).2.sent = w.sent ++ calls
      ∧ calls <+: (ls.filter channels).flatMap
          (listRequests (memberships contact.flags) (memberships wanted) contact.handle)
      ∧ (w.Up (2 * ls.length) → (updateFlagsLoop channels wanted contact ls true w).1 = true
        ∧ calls = (ls.filter channels).flatMap
          (listRequests (memberships contact.flags) (memberships wanted) contact.handle)) := by
  induction ls generalizing w with
  | nil => exact ⟨[], (List.append_nil _).symm, List.prefix_refl _, fun _ => ⟨rfl, rfl⟩⟩
  | cons l ls ih =>
    unfold updateFlagsLoop
    dsimp only
    rw [Bool.true_and, List.length_cons, Nat.mul_succ]
    by_cases hch : channels l = true
    · rw [if_pos hch, List.filter_cons_of_pos hch, List.flatMap_cons]
      -- the two calls for this list
      generalize hadd : Request.addMembers l (handleIf (wanted.has (l.flag .current)
        && !contact.flags.has (l.flag .current)) contact.handle) = add
      generalize hremove : Request.removeMembers l (handleIf (contact.flags.has (l.flag .current)
        && !wanted.has (l.flag .current)) contact.handle) = remove
      have hlist : listRequests (memberships contact.flags) (memberships wanted) contact.handle l
          = [add, remove] := by rw [← hadd, ← hremove]; rfl
      rw [hlist]
      by_cases hc : (w.ask add).1.connected = true
      · rw [if_pos hc]
        by_cases hc' : ((w.ask add).2.ask remove).1.connected = true
        · rw [hc']
          obtain ⟨calls, hsent, hpre, hup⟩ := ih ((w.ask add).2.ask remove).2
          refine ⟨add :: remove :: calls, hsent.trans ?_, ?_, fun h => ?_⟩
          · show ((w.sent ++ [add]) ++ [remove]) ++ calls = _
            rw [List.append_assoc, List.append_assoc]
            rfl
          · exact (List.prefix_append_right_inj [add, remove]).mpr hpre
          · obtain ⟨h1, h2⟩ := hup ((h.ask add).2.1.ask remove).2.1
            exact ⟨h1, by rw [h2]; rfl⟩
        · rw [Bool.not_eq_true] at hc'
          rw [hc', updateFlagsLoop_lost]
          refine ⟨[add, remove], ?_, List.prefix_append _ _, fun h => ?_⟩
          · show (w.sent ++ [add]) ++ [remove] = _
            rw [List.append_assoc]
            rfl
          · rw [((h.ask add).2.1.ask remove).1] at hc'
            cases hc'
      · rw [if_neg hc]
        exact ⟨[add], rfl, ⟨_, rfl⟩, fun h => absurd (h.ask add).1 hc⟩
    · rw [if_neg hch, List.filter_cons_of_neg hch]
      obtain ⟨calls, hsent, hpre, hup⟩ := ih w
      exact ⟨calls, hsent, hpre, fun h => hup ⟨Nat.le_of_add_right_le h.enough, h.connected⟩⟩

/--
**What `run_update_flags` sends** for a contact that the roster has a copy of: the calls for the
lists in order, and all of them while the connection stays up.
-/
theorem runUpdateFlags_sent {cl : Cl} (hcl : cl.isConnected = true) {c : Contact} {x : Nat}
    (hx : cl.Copy c x) (w : Wire) :
    ∃ calls, (cl.runUpdateFlags c w).2.sent = w.sent ++ calls
      ∧ calls <+: flagRequests cl.channels (memberships (cl.contacts x).flags)
          (memberships c.pendingFlags) c.handle
      ∧ (w.Up 10 → calls = flagRequests cl.channels (memberships (cl.contacts x).flags)
          (memberships c.pendingFlags) c.handle) := by
  obtain ⟨calls, hsent, hpre, hup⟩ :=
    updateFlagsLoop_sent cl.channels c.pendingFlags (cl.contacts x) ListId.all w
  rw [hx.same] at hpre hup
  unfold runUpdateFlags
  rw [if_pos hcl, if_pos hx.handle, hx.entry]
  exact ⟨calls, hsent, hpre, fun h => (hup h).2⟩

end Cl

/-! ## What a vcard asks the server for -/

namespace Contact

/-- The mark for changed master UIDs is no list. -/
theorem memberships_mark (p : Flags) (c : Contact) (us : List (Option String)) (l : ListId) :
    memberships (p ||| c.masterUidMark us) l = memberships p l := by
  unfold memberships masterUidMark
  split
  · refine BitVec.or_has_of_disjoint ?_
    cases l <;> decide
  · rw [BitVec.or_zero]

theorem has_updateFlags_mark (p : Flags) (c : Contact) (us : List (Option String)) :
    (p ||| c.masterUidMark us).has scheduleUpdateFlags = p.has scheduleUpdateFlags := by
  unfold masterUidMark
  split
  · exact BitVec.or_has_of_disjoint (by decide)
  · rw [BitVec.or_zero]

/-- The lists a contact is wanted on after a vcard. -/
theorem memberships_decoded (c : Contact) (ec : EVCard) (vcardField : String) (l : ListId) :
    memberships (c.updateFromEcontact ec vcardField).2.pendingFlags l
      = memberships (settle c.flags (c.changes vcardField ec)) l := by
  rw [decoded_eq]
  exact memberships_mark _ c _ l

/-- Whether an update of the flags is pending after a vcard. -/
theorem has_updateFlags_decoded {c : Contact} (hc : c.flags.has scheduleUpdateFlags = false)
    (ec : EVCard) (vcardField : String) :
    (c.updateFromEcontact ec vcardField).2.pendingFlags.has scheduleUpdateFlags = true
      ↔ c.changes vcardField ec ≠ [] := by
  rw [decoded_eq]
  show (_ ||| _ : Flags).has scheduleUpdateFlags = true ↔ _
  rw [has_updateFlags_mark, settle_has_updateFlags, hc]
  simp

/-- A vcard with at most one attribute for each list. -/
def OnePerList (vcardField : String) (ec : EVCard) : Prop :=
  (ec.filterMap (Attribute.list vcardField)).Nodup

instance (vcardField : String) (ec : EVCard) : Decidable (OnePerList vcardField ec) :=
  inferInstanceAs (Decidable (List.Nodup _))

theorem OnePerList.wishes {vcardField : String} {ec : EVCard} (h : OnePerList vcardField ec) :
    ((Contact.wishes vcardField ec).map Prod.fst).Nodup := by
  refine h.sublist ?_
  unfold Contact.wishes
  clear h
  induction ec with
  | nil => exact List.Sublist.slnil
  | cons a ec ih =>
    rw [List.filterMap_cons, List.filterMap_cons]
    cases hl : a.list vcardField with
    | none =>
      have hw : a.wish vcardField = none := by unfold Attribute.wish; rw [hl]; rfl
      rw [hw]
      exact ih
    | some l =>
      cases ha : a.answer with
      | none =>
        have hw : a.wish vcardField = none := by unfold Attribute.wish; rw [hl, ha]; rfl
        rw [hw]
        exact ih.cons l
      | some b =>
        have hw : a.wish vcardField = some (l, b) := by unfold Attribute.wish; rw [hl, ha]; rfl
        rw [hw]
        exact ih.cons_cons l

end Contact

/--
The calls ask for a contact on the lists `F` exactly what the vcard wishes and the contact
does not have; calls for an empty array of handles ask nothing.
-/
structure Cl.AsksFor (F : ListId → Bool) (ws : List (ListId × Bool)) (h : Nat)
    (calls : List Request) : Prop where
  add : ∀ l, .addMembers l [h] ∈ calls ↔ (l, true) ∈ ws ∧ F l = false
  remove : ∀ l, .removeMembers l [h] ∈ calls ↔ (l, false) ∈ ws ∧ F l = true
  nothingElse : ∀ r ∈ calls, ∃ l, ∃ hs : List Nat, (hs = [] ∨ hs = [h])
    ∧ (r = .addMembers l hs ∨ r = .removeMembers l hs)

namespace Cl

theorem flagRequests_nothingElse {channels F G : ListId → Bool} {h : Nat} {r : Request}
    (hr : r ∈ flagRequests channels F G h) : ∃ l, ∃ hs : List Nat, (hs = [] ∨ hs = [h])
      ∧ (r = .addMembers l hs ∨ r = .removeMembers l hs) := by
  have hif : ∀ b, handleIf b h = [] ∨ handleIf b h = [h] := fun b => by cases b <;> simp [handleIf]
  obtain ⟨l, -, hl | hl⟩ := mem_flagRequests.mp hr
  · exact ⟨l, _, hif _, .inl hl⟩
  · exact ⟨l, _, hif _, .inr hl⟩

/-- The calls ask for the wishes exactly when the lists compared with are the wanted ones. -/
theorem asksFor_flagRequests {channels F G : ListId → Bool} {ws : List (ListId × Bool)} {h : Nat}
    (hch : ∀ l, channels l = true) (hnd : (ws.map Prod.fst).Nodup) :
    AsksFor F ws h (flagRequests channels F G h) ↔ ∀ l, G l = Wish.wanted F ws l := by
  have hadd : ∀ {G : ListId → Bool} {l : ListId},
      Request.addMembers l [h] ∈ flagRequests channels F G h ↔ Wish.joins F G l = true :=
    addMembers_mem.trans (and_iff_right (hch _))
  have hremove : ∀ {G : ListId → Bool} {l : ListId},
      Request.removeMembers l [h] ∈ flagRequests channels F G h ↔ Wish.leaves F G l = true :=
    removeMembers_mem.trans (and_iff_right (hch _))
  constructor
  · intro ha l
    have hj := (hadd.symm.trans (ha.add l)).trans (Wish.joins_wanted hnd l).symm
    have hl := (hremove.symm.trans (ha.remove l)).trans (Wish.leaves_wanted hnd l).symm
    rw [Wish.joins_iff, Wish.joins_iff] at hj
    rw [Wish.leaves_iff, Wish.leaves_iff] at hl
    cases hF : F l with
    | true => simpa [hF] using hl
    | false => simpa [hF] using hj
  · intro hG
    obtain rfl : G = Wish.wanted F ws := funext hG
    exact ⟨fun l => hadd.trans (Wish.joins_wanted hnd l),
      fun l => hremove.trans (Wish.leaves_wanted hnd l),
      fun r hr => flagRequests_nothingElse hr⟩

/-- Something is asked for exactly when some wish differs from where the contact is. -/
theorem AsksFor.asks_iff {F : ListId → Bool} {ws : List (ListId × Bool)} {h : Nat}
    {calls : List Request} (ha : AsksFor F ws h calls) :
    (∃ l, .addMembers l [h] ∈ calls ∨ .removeMembers l [h] ∈ calls) ↔ Wish.changes F ws ≠ [] := by
  constructor
  · rintro ⟨l, hl | hl⟩
    · obtain ⟨hmem, hF⟩ := (ha.add l).mp hl
      exact List.ne_nil_of_mem (a := (l, true)) (Wish.mem_changes.mpr ⟨hmem, by simp [hF]⟩)
    · obtain ⟨hmem, hF⟩ := (ha.remove l).mp hl
      exact List.ne_nil_of_mem (a := (l, false)) (Wish.mem_changes.mpr ⟨hmem, by simp [hF]⟩)
  · intro hne
    obtain ⟨⟨l, b⟩, hmem⟩ := List.exists_mem_of_ne_nil _ hne
    obtain ⟨hmem, hF⟩ := Wish.mem_changes.mp hmem
    cases b with
    | true => exact ⟨l, .inl ((ha.add l).mpr ⟨hmem, by simpa using hF.symm⟩)⟩
    | false => exact ⟨l, .inr ((ha.remove l).mpr ⟨hmem, by simpa using hF.symm⟩)⟩

end Cl

namespace Contact

/--
**Which requests a modification makes.** A vcard that is taken over asks the server for
exactly the list changes it wishes for, if and only if it refuses none of the lists that the
contact is on, or refuses all of them, at least two, before it wishes for any.
-/
theorem modification_requests {cl : Cl} {c : Contact} {x : Nat} {w : Wire} {vcardField : String}
    {ec : EVCard} (hc : c.flags.has scheduleUpdateFlags = false) (hcl : cl.AllUp) (hx : cl.Copy c x)
    (hflags : (cl.contacts x).flags = c.flags) (hup : w.Up 10) (hone : OnePerList vcardField ec) :
    (∃ calls,
        (cl.runUpdateFlags (c.updateFromEcontact ec vcardField).2 w).2.sent = w.sent ++ calls
        ∧ Cl.AsksFor (memberships c.flags) (wishes vcardField ec) c.handle calls
        ∧ ((c.updateFromEcontact ec vcardField).2.pendingFlags.has scheduleUpdateFlags = true
          ↔ ∃ l, .addMembers l [c.handle] ∈ calls ∨ .removeMembers l [c.handle] ∈ calls))
      ↔ Heeded (memberships c.flags) (c.changes vcardField ec) := by
  have hcopy : cl.Copy (c.updateFromEcontact ec vcardField).2 x := by
    rw [decoded_eq]
    exact ⟨hx.handle, hx.entry, hx.same⟩
  have hhandle : (c.updateFromEcontact ec vcardField).2.handle = c.handle := by rw [decoded_eq]
  obtain ⟨calls, hsent, -, hcalls⟩ := Cl.runUpdateFlags_sent hcl.connected hcopy w
  have hmem := funext (memberships_decoded c ec vcardField)
  rw [hcalls hup, hflags, hmem, hhandle] at hsent
  have hnd := hone.wishes
  have hwanted : (∀ l, memberships (settle c.flags (c.changes vcardField ec)) l
        = Wish.wanted (memberships c.flags) (wishes vcardField ec) l)
      ↔ Heeded (memberships c.flags) (c.changes vcardField ec) := by
    refine Iff.trans (forall_congr' fun l => ?_)
      (settle_wanted c.flags (fun w hw => (Wish.mem_changes.mp hw).2) (Wish.nodup_changes hnd))
    rw [Contact.changes, Wish.wanted_changes hnd]
  rw [← hwanted, ← Cl.asksFor_flagRequests hcl.channels hnd (h := c.handle)]
  constructor
  · rintro ⟨calls, heq, ha, -⟩
    have hcalls := List.append_cancel_left (hsent.symm.trans heq)
    rwa [← hcalls] at ha
  · intro ha
    exact ⟨_, hsent, ha, (has_updateFlags_decoded hc ec vcardField).trans ha.asks_iff.symm⟩

/-- A contact that sees the user's presence and shows its own. -/
def ann : Contact :=
  { Contact.new with handle := 7, name := some "ann", flags := subscribe ||| publish }

/-- The account is online, and the roster has that contact. -/
def annOnline : Cl :=
  { conn := some 1
    status := .online
    channels := fun _ => true
    contacts := fun _ => ann
    next := 1
    contactsHash := (∅ : Table Nat Nat).insert 7 0 }

/-- Ten calls are answered. -/
def tenReplies : Wire := { replies := List.replicate 10 {} }

theorem annOnline_up : annOnline.AllUp ∧ annOnline.Copy ann 0 ∧ tenReplies.Up 10 :=
  ⟨⟨rfl, fun _ => rfl⟩, ⟨by decide, by decide, rfl⟩, ⟨by decide, by decide⟩⟩

/-- Both lists are refused, the contact is on no other, and a third one is asked for last. -/
theorem modification_requests_all :
    ∃ calls,
      (annOnline.runUpdateFlags (ann.updateFromEcontact
        [{ name := "X-TELEPATHY-SUBSCRIBED", values := ["no"] },
         { name := "X-TELEPATHY-PUBLISHED", values := ["no"] },
         { name := "X-TELEPATHY-BLOCKED", values := ["yes"] }] "X-JABBER").2 tenReplies).2.sent
          = [] ++ calls
      ∧ Cl.AsksFor (memberships ann.flags)
          [(.subscribe, false), (.publish, false), (.deny, true)] 7 calls := by
  obtain ⟨hcl, hx, hup⟩ := annOnline_up
  have hheeded : Heeded (memberships ann.flags) (ann.changes "X-JABBER"
      [{ name := "X-TELEPATHY-SUBSCRIBED", values := ["no"] },
       { name := "X-TELEPATHY-PUBLISHED", values := ["no"] },
       { name := "X-TELEPATHY-BLOCKED", values := ["yes"] }]) :=
    .inr ⟨⟨.subscribe, .publish, by decide, by decide, by decide⟩,
      fun l => by cases l <;> decide, by decide⟩
  obtain ⟨calls, hsent, ha, -⟩ :=
    (modification_requests (by decide) hcl hx rfl hup (by decide)).mpr hheeded
  exact ⟨calls, hsent, ha⟩

/-- The vcard refuses one list, and the contact is removed from the other one. -/
theorem modification_requests_other :
    Request.removeMembers .subscribe [7] ∉ (annOnline.runUpdateFlags (ann.updateFromEcontact
        [{ name := "X-TELEPATHY-SUBSCRIBED", values := ["no"] }] "X-JABBER").2 tenReplies).2.sent
      ∧ Request.removeMembers .publish [7] ∈ (annOnline.runUpdateFlags (ann.updateFromEcontact
        [{ name := "X-TELEPATHY-SUBSCRIBED", values := ["no"] }] "X-JABBER").2 tenReplies).2.sent := by
  decide

end Contact

end EdsTelepathy
