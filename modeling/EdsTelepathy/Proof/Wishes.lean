import EdsTelepathy.Contact
import EdsTelepathy.Lib.Wishes

/-!
# What a submitted vcard asks for

The loop of `update_from_econtact` reads three things off the attributes: the name, the
master UIDs, and wishes about three of the contact's lists. The first two replace what the
contact has. A wish that differs from the flags of the contact is carried out on a copy of
them, the pending flags: *yes* sets the bit of the list, and *no* keeps that bit and clears
all the others. `decoded_eq` says this once for the whole function.

Everything that is pending after a vcard was taken over can then be read off the wishes
that differ, in their order: a bit of the flags is kept if no list but its own was refused,
and a bit that was not there is set if its list was wished for after the last refusal.
-/

namespace EdsTelepathy

/-- The lists of which a contact with these flags is a member. -/
def memberships (w : Flags) (l : ListId) : Bool := w.has (l.flag .current)

namespace ListId

theorem id_lt (l : ListId) : l.id < 15 := by cases l <;> decide

theorem id_injective {l l' : ListId} (h : l.id = l'.id) : l = l' := by
  cases l <;> cases l' <;> first | rfl | cases h

end ListId

theorem memberships_eq (w : Flags) (l : ListId) : memberships w l = w.getLsbD l.id :=
  BitVec.has_one_shiftLeft (Nat.lt_trans l.id_lt (by decide))

theorem getLsbD_current (l : ListId) (k : Nat) : (l.flag .current).getLsbD k = decide (k = l.id) := by
  have hl := l.id_lt
  show (1#32 <<< l.id).getLsbD k = decide (k = l.id)
  rw [BitVec.getLsbD_one_shiftLeft, Bool.eq_iff_iff, decide_eq_true_eq, decide_eq_true_eq]
  omega

theorem getLsbD_scheduleUpdateFlags (k : Nat) : scheduleUpdateFlags.getLsbD k = decide (k = 18) := by
  have heq : scheduleUpdateFlags = 1#32 <<< 18 := by decide
  rw [heq, BitVec.getLsbD_one_shiftLeft, Bool.eq_iff_iff, decide_eq_true_eq, decide_eq_true_eq]
  omega

namespace Contact

/-! ## Reading a vcard -/

/-- The list an attribute is about, if the loop does not take it for something else. -/
def Attribute.list (vcardField : String) (a : Attribute) : Option ListId :=
  if a.name = "X-OSSO-MASTER-UID" ∨ a.name = vcardField then none
  else if a.name = "X-TELEPATHY-SUBSCRIBED" then some .subscribe
  else if a.name = "X-TELEPATHY-PUBLISHED" then some .publish
  else if a.name = "X-TELEPATHY-BLOCKED" then some .deny
  else none

/-- The answer an attribute gives for its list; other values than these two say nothing. -/
def Attribute.answer (a : Attribute) : Option Bool :=
  if a.value = some "yes" then some true
  else if a.value = some "no" then some false
  else none

/-- What an attribute wishes. -/
def Attribute.wish (vcardField : String) (a : Attribute) : Option (ListId × Bool) :=
  (a.list vcardField).bind fun l => a.answer.map fun b => (l, b)

/-- What a vcard wishes, in the order of its attributes. -/
def wishes (vcardField : String) (ec : EVCard) : List (ListId × Bool) :=
  ec.filterMap (Attribute.wish vcardField)

/-- The wishes of a vcard that differ from the flags of a contact. -/
def changes (c : Contact) (vcardField : String) (ec : EVCard) : List (ListId × Bool) :=
  Wish.changes (memberships c.flags) (wishes vcardField ec)

/-- The values of the `X-OSSO-MASTER-UID` attributes. -/
def masterUidValues (ec : EVCard) : List (Option String) :=
  (ec.filter fun a => a.name = "X-OSSO-MASTER-UID").map Attribute.value

/-- Whether the loop takes an attribute for the name. -/
def Attribute.isName (vcardField : String) (a : Attribute) : Bool :=
  a.name ≠ "X-OSSO-MASTER-UID" ∧ a.name = vcardField

/-- The name after a vcard: the last one it has, or the old one. -/
def cardName (vcardField : String) (ec : EVCard) (name : Option String) : Option String :=
  ec.foldl (fun n a => if a.isName vcardField then a.value else n) name

/-! ## The loop -/

/-- What `update_tp_attribute` does to the pending flags for a wish that differs. -/
def fulfil (pending : Flags) (w : ListId × Bool) : Flags :=
  if w.2 then pending ||| w.1.flag .current ||| scheduleUpdateFlags
  else (pending &&& w.1.flag .current) ||| scheduleUpdateFlags

/-- What the wishes that differ make of the pending flags, from the first to the last. -/
def settle (flags : Flags) (ws : List (ListId × Bool)) : Flags := ws.foldl fulfil flags

/-- `update_tp_attribute` carries out the wish of the attribute if it differs from the flags. -/
theorem updateTpAttribute_eq (c : Contact) (a : Attribute) (l : ListId) :
    c.updateTpAttribute a (l.flag .current)
      = { c with
          pendingFlags := settle c.pendingFlags
            (Wish.changes (memberships c.flags) (a.answer.map fun b => (l, b)).toList) } := by
  unfold updateTpAttribute Attribute.answer settle Wish.changes memberships
  by_cases hy : a.value = some "yes"
  · rw [if_pos hy, if_pos hy]
    by_cases hf : c.flags.has (l.flag .current) = true
    · simp [hf]
    · simp [hf, fulfil]
  · rw [if_neg hy, if_neg hy]
    by_cases hn : a.value = some "no"
    · rw [if_pos hn, if_pos hn]
      by_cases hf : c.flags.has (l.flag .current) = true
      · simp [hf, fulfil]
      · simp [hf]
    · rw [if_neg hn, if_neg hn]
      rfl

/-- An attribute about a list is neither the name nor a master UID. -/
theorem Attribute.list_some {vcardField : String} {a : Attribute} {l : ListId}
    (h : a.list vcardField = some l) :
    a.name ≠ "X-OSSO-MASTER-UID" ∧ a.name ≠ vcardField := by
  unfold Attribute.list at h
  split at h
  · cases h
  · rename_i hn
    exact not_or.mp hn

/-- An attribute about a list goes to `update_tp_attribute` with the flag of that list. -/
theorem decodeAttribute_list {vcardField : String} {a : Attribute} {l : ListId}
    (h : a.list vcardField = some l) (c : Contact) (us : List (Option String)) :
    decodeAttribute vcardField (c, us) a = (c.updateTpAttribute a (l.flag .current), us) := by
  obtain ⟨hu, hf⟩ := Attribute.list_some h
  unfold Attribute.list at h
  unfold decodeAttribute
  rw [if_neg (not_or.mpr ⟨hu, hf⟩)] at h
  rw [if_neg hu, if_neg hf]
  split at h
  · rename_i hs; cases h; rw [if_pos hs]; rfl
  · rename_i hs
    rw [if_neg hs]
    split at h
    · rename_i hp; cases h; rw [if_pos hp]; rfl
    · rename_i hp
      rw [if_neg hp]
      split at h
      · rename_i hb; cases h; rw [if_pos hb]; rfl
      · cases h

/-- Any other attribute leaves the pending flags alone. -/
theorem decodeAttribute_none {vcardField : String} {a : Attribute} (h : a.list vcardField = none)
    (c : Contact) (us : List (Option String)) :
    decodeAttribute vcardField (c, us) a
      = ({ c with name := if a.isName vcardField then a.value else c.name },
          us ++ masterUidValues [a]) := by
  unfold decodeAttribute masterUidValues Attribute.isName
  unfold Attribute.list at h
  by_cases hu : a.name = "X-OSSO-MASTER-UID"
  · simp [hu]
  · by_cases hf : a.name = vcardField
    · simp [hf ▸ hu, hf]
    · rw [if_neg (not_or.mpr ⟨hu, hf⟩)] at h
      split at h
      · cases h
      · split at h
        · cases h
        · split at h
          · cases h
          · rename_i hs hp hb
            simp [hu, hf, hs, hp, hb]

theorem wishes_single (vcardField : String) (a : Attribute) :
    wishes vcardField [a] = (a.wish vcardField).toList := by
  unfold wishes
  cases h : a.wish vcardField <;> simp [h]

theorem decodeAttribute_eq (vcardField : String) (c : Contact) (us : List (Option String))
    (a : Attribute) :
    decodeAttribute vcardField (c, us) a
      = ({ c with
            name := if a.isName vcardField then a.value else c.name
            pendingFlags := settle c.pendingFlags (c.changes vcardField [a]) },
          us ++ masterUidValues [a]) := by
  cases hl : a.list vcardField with
  | none =>
    have hw : c.changes vcardField [a] = [] := by
      unfold changes
      rw [wishes_single, Attribute.wish, hl]
      rfl
    rw [decodeAttribute_none hl, hw]
    rfl
  | some l =>
    obtain ⟨hu, hf⟩ := Attribute.list_some hl
    have hwish : a.wish vcardField = a.answer.map fun b => (l, b) := by
      unfold Attribute.wish
      rw [hl]
      rfl
    have hw : c.changes vcardField [a]
        = Wish.changes (memberships c.flags) (a.answer.map fun b => (l, b)).toList := by
      unfold changes
      rw [wishes_single, hwish]
    have hn : a.isName vcardField = false := by simp [Attribute.isName, hf]
    have hm : masterUidValues [a] = [] := by simp [masterUidValues, hu]
    rw [decodeAttribute_list hl, updateTpAttribute_eq, hw, hn, hm, List.append_nil]
    rfl

theorem changes_append (c : Contact) (vcardField : String) (ec ec' : EVCard) :
    c.changes vcardField (ec ++ ec') = c.changes vcardField ec ++ c.changes vcardField ec' := by
  unfold changes wishes
  rw [List.filterMap_append, Wish.changes_append]

theorem masterUidValues_append (ec ec' : EVCard) :
    masterUidValues (ec ++ ec') = masterUidValues ec ++ masterUidValues ec' := by
  unfold masterUidValues
  rw [List.filter_append, List.map_append]

theorem foldl_decodeAttribute (vcardField : String) (ec : EVCard) (c : Contact)
    (us : List (Option String)) :
    ec.foldl (decodeAttribute vcardField) (c, us)
      = ({ c with
            name := cardName vcardField ec c.name
            pendingFlags := settle c.pendingFlags (c.changes vcardField ec) },
          us ++ masterUidValues ec) := by
  induction ec generalizing c us with
  | nil => simp [cardName, changes, wishes, Wish.changes, settle, masterUidValues]
  | cons a ec ih =>
    have hcons : a :: ec = [a] ++ ec := rfl
    rw [List.foldl_cons, decodeAttribute_eq, ih, hcons, changes_append, masterUidValues_append,
      List.append_assoc]
    unfold settle
    rw [List.foldl_append]
    rfl

/-- The bit for changed master UIDs, if they changed. -/
def masterUidMark (c : Contact) (uids : List (Option String)) : Flags :=
  if masterUidsDiffer uids c.masterUids then scheduleUpdateMasterUid else 0#32

/-- **What `update_from_econtact` leaves of a contact.** -/
theorem decoded_eq (c : Contact) (ec : EVCard) (vcardField : String) :
    (c.updateFromEcontact ec vcardField).2
      = { c with
          name := cardName vcardField ec c.name
          pendingFlags := settle c.flags (c.changes vcardField ec)
            ||| c.masterUidMark (masterUidValues ec)
          masterUids := masterUidValues ec } := by
  unfold updateFromEcontact masterUidMark
  dsimp only
  rw [foldl_decodeAttribute, List.nil_append]
  dsimp only
  by_cases h : masterUidsDiffer (masterUidValues ec) c.masterUids = true
  · rw [if_pos h, if_pos h]
    rfl
  · have heq : masterUidValues ec = c.masterUids := by simpa [masterUidsDiffer] using h
    rw [if_neg h, if_neg h, BitVec.or_zero, heq]
    rfl

/-! ## What is pending then -/

/-- No list is refused but the one with the bit `k`. -/
def Spares (k : Nat) (ws : List (ListId × Bool)) : Prop := ∀ w ∈ ws, w.2 = false → w.1.id = k

instance (k : Nat) (ws : List (ListId × Bool)) : Decidable (Spares k ws) :=
  inferInstanceAs (Decidable (∀ w ∈ ws, w.2 = false → w.1.id = k))

/-- The list with the bit `k` is wished for, and no other one refused after that. -/
def Regains (k : Nat) : List (ListId × Bool) → Prop
  | [] => False
  | w :: ws => (w.2 = true ∧ w.1.id = k ∧ Spares k ws) ∨ Regains k ws

instance Regains.decidable (k : Nat) : ∀ ws, Decidable (Regains k ws)
  | [] => .isFalse id
  | w :: ws =>
    have := Regains.decidable k ws
    inferInstanceAs (Decidable ((w.2 = true ∧ w.1.id = k ∧ Spares k ws) ∨ Regains k ws))

theorem spares_cons {k : Nat} {w : ListId × Bool} {ws : List (ListId × Bool)} :
    Spares k (w :: ws) ↔ (w.2 = false → w.1.id = k) ∧ Spares k ws := by
  unfold Spares
  rw [List.forall_mem_cons]

theorem regains_cons {k : Nat} {w : ListId × Bool} {ws : List (ListId × Bool)} :
    Regains k (w :: ws) ↔ (w.2 = true ∧ w.1.id = k ∧ Spares k ws) ∨ Regains k ws := Iff.rfl

theorem getLsbD_fulfil_true (p : Flags) (l : ListId) {k : Nat} (hk : k ≠ 18) :
    (fulfil p (l, true)).getLsbD k = true ↔ p.getLsbD k = true ∨ l.id = k := by
  unfold fulfil
  rw [if_pos rfl, BitVec.getLsbD_or, BitVec.getLsbD_or, getLsbD_current,
    getLsbD_scheduleUpdateFlags, decide_eq_false hk, Bool.or_false, Bool.or_eq_true,
    decide_eq_true_eq, eq_comm (a := k)]

theorem getLsbD_fulfil_false (p : Flags) (l : ListId) {k : Nat} (hk : k ≠ 18) :
    (fulfil p (l, false)).getLsbD k = true ↔ p.getLsbD k = true ∧ l.id = k := by
  unfold fulfil
  rw [if_neg Bool.false_ne_true, BitVec.getLsbD_or, BitVec.getLsbD_and, getLsbD_current,
    getLsbD_scheduleUpdateFlags, decide_eq_false hk, Bool.or_false, Bool.and_eq_true,
    decide_eq_true_eq, eq_comm (a := k)]

/-- **Which bits the pending flags have after a vcard**, the one that asks for an update apart. -/
theorem getLsbD_settle {k : Nat} (hk : k ≠ 18) (ws : List (ListId × Bool)) (p : Flags) :
    (settle p ws).getLsbD k = true ↔ (p.getLsbD k = true ∧ Spares k ws) ∨ Regains k ws := by
  induction ws generalizing p with
  | nil => simp [settle, Spares, Regains]
  | cons w ws ih =>
    obtain ⟨l, b⟩ := w
    have hcons : settle p ((l, b) :: ws) = settle (fulfil p (l, b)) ws := rfl
    rw [hcons, ih, spares_cons, regains_cons]
    cases b with
    | true =>
      rw [getLsbD_fulfil_true p l hk]
      -- the bit is there before, or it is the one that is set
      constructor
      · rintro (⟨hp | hl, hs⟩ | hr)
        · exact .inl ⟨hp, (fun h => (by cases h)), hs⟩
        · exact .inr (.inl ⟨rfl, hl, hs⟩)
        · exact .inr (.inr hr)
      · rintro (⟨hp, -, hs⟩ | ⟨-, hl, hs⟩ | hr)
        · exact .inl ⟨.inl hp, hs⟩
        · exact .inl ⟨.inr hl, hs⟩
        · exact .inr hr
    | false =>
      rw [getLsbD_fulfil_false p l hk]
      constructor
      · rintro (⟨⟨hp, hl⟩, hs⟩ | hr)
        · exact .inl ⟨hp, fun _ => hl, hs⟩
        · exact .inr (.inr hr)
      · rintro (⟨hp, hl, hs⟩ | ⟨h, -⟩ | hr)
        · exact .inl ⟨⟨hp, hl rfl⟩, hs⟩
        · cases h
        · exact .inr hr

/-- An update is asked for as soon as one wish differs. -/
theorem settle_has_updateFlags (p : Flags) (ws : List (ListId × Bool)) :
    (settle p ws).has scheduleUpdateFlags = true
      ↔ p.has scheduleUpdateFlags = true ∨ ws ≠ [] := by
  induction ws generalizing p with
  | nil => simp [settle]
  | cons w ws ih =>
    have hset : (fulfil p w).has scheduleUpdateFlags = true := by
      unfold fulfil
      split <;> exact BitVec.or_has_self (by decide)
    have hcons : settle p (w :: ws) = settle (fulfil p w) ws := rfl
    rw [hcons, ih, hset]
    simp

/-- The lists the pending flags have the contact on. -/
theorem memberships_settle (p : Flags) (ws : List (ListId × Bool)) (l : ListId) :
    memberships (settle p ws) l = true
      ↔ (memberships p l = true ∧ Spares l.id ws) ∨ Regains l.id ws := by
  have hl := l.id_lt
  rw [memberships_eq, memberships_eq]
  exact getLsbD_settle (by omega) ws p

/-! ## When the wishes come true -/

/--
Two lists or more are refused, among them all the contact is on, and no list is wished for
before the last of them.
-/
structure RefusesAll (F : ListId → Bool) (ws : List (ListId × Bool)) : Prop where
  two : ∃ l l', l ≠ l' ∧ (l, false) ∈ ws ∧ (l', false) ∈ ws
  all : ∀ l, F l = true → (l, false) ∈ ws
  first : ws.Pairwise fun v w => w.2 = false → v.2 = false

/-- No list is refused, or refusing one after the other happens to clear what it should. -/
def Heeded (F : ListId → Bool) (ws : List (ListId × Bool)) : Prop :=
  (∀ w ∈ ws, w.2 = true) ∨ RefusesAll F ws

theorem mem_of_regains {l : ListId} {ws : List (ListId × Bool)} (h : Regains l.id ws) :
    (l, true) ∈ ws := by
  induction ws with
  | nil => exact h.elim
  | cons w ws ih =>
    rcases h with ⟨hb, hl, -⟩ | h
    · obtain ⟨l', b⟩ := w
      obtain rfl : b = true := hb
      obtain rfl : l' = l := ListId.id_injective hl
      exact List.mem_cons_self
    · exact List.mem_cons_of_mem w (ih h)

/-- A wish after which nothing is refused comes true. -/
theorem regains_of_first {l : ListId} {ws : List (ListId × Bool)}
    (hp : ws.Pairwise fun v w => w.2 = false → v.2 = false) (h : (l, true) ∈ ws) :
    Regains l.id ws := by
  induction ws with
  | nil => cases h
  | cons w ws ih =>
    rw [List.pairwise_cons] at hp
    rcases List.mem_cons.mp h with rfl | h
    · refine .inl ⟨rfl, rfl, fun v hv hno => ?_⟩
      exact absurd (hp.1 v hv hno) Bool.noConfusion
    · exact .inr (ih hp.2 h)

/-- If every wish comes true, nothing is refused after one. -/
theorem first_of_regains {ws : List (ListId × Bool)} (hnd : (ws.map Prod.fst).Nodup)
    (h : ∀ l, (l, true) ∈ ws → Regains l.id ws) :
    ws.Pairwise fun v w => w.2 = false → v.2 = false := by
  induction ws with
  | nil => exact List.Pairwise.nil
  | cons v ws ih =>
    rw [List.map_cons, List.nodup_cons] at hnd
    have hnew : ∀ {b : Bool}, (v.1, b) ∉ ws := fun hmem =>
      hnd.1 (List.mem_map.mpr ⟨_, hmem, rfl⟩)
    refine List.pairwise_cons.mpr ⟨fun w hw hno => ?_, ih hnd.2 fun l hl => ?_⟩
    · by_contra hb
      have hv : (v.1, true) ∈ v :: ws := by
        have heq : v = (v.1, true) := Prod.ext rfl (by simpa using hb)
        rw [← heq]
        exact List.mem_cons_self
      rcases h v.1 hv with ⟨-, -, hs⟩ | hr
      · have heq : w = (v.1, false) := Prod.ext (ListId.id_injective (hs w hw hno)) hno
        exact hnew (heq ▸ hw)
      · exact hnew (mem_of_regains hr)
    · rcases h l (List.mem_cons_of_mem v hl) with ⟨-, hid, -⟩ | hr
      · rw [← ListId.id_injective hid] at hl
        exact absurd hl hnew
      · exact hr

/-- Where nothing is refused, the pending flags are the wanted ones. -/
theorem settle_joining (flags : Flags) {ws : List (ListId × Bool)} (hall : ∀ w ∈ ws, w.2 = true)
    (l : ListId) : memberships (settle flags ws) l = Wish.wanted (memberships flags) ws l := by
  have hno : ∀ {w : ListId × Bool} {P : Prop}, w ∈ ws → w.2 = false → P := fun hw hb => by
    rw [hall _ hw] at hb; cases hb
  have hfirst : ws.Pairwise fun v w => w.2 = false → v.2 = false :=
    List.pairwise_of_forall_mem_list fun _ _ _ hw hb => hno hw hb
  have hs : Spares l.id ws := fun _ hw hb => hno hw hb
  rw [Bool.eq_iff_iff, memberships_settle, Wish.wanted_of_joining hall]
  exact ⟨fun hin => hin.imp (·.1) mem_of_regains,
    fun hin => hin.imp (⟨·, hs⟩) (regains_of_first hfirst)⟩

/-- **The pending flags are the wanted ones exactly when the wishes are heeded.** -/
theorem settle_wanted (flags : Flags) {ws : List (ListId × Bool)}
    (hd : ∀ w ∈ ws, w.2 ≠ memberships flags w.1) (hnd : (ws.map Prod.fst).Nodup) :
    (∀ l, memberships (settle flags ws) l = Wish.wanted (memberships flags) ws l)
      ↔ Heeded (memberships flags) ws := by
  constructor
  · intro h
    by_cases hall : ∀ w ∈ ws, w.2 = true
    · exact .inl hall
    · right
      push Not at hall
      obtain ⟨⟨l, b⟩, hmem, hb⟩ := hall
      obtain rfl : b = false := by simpa using hb
      have hl : memberships flags l = true := by simpa using (hd _ hmem).symm
      -- the list that is refused is left, so another one is refused as well
      have hleft : ¬ Spares l.id ws := fun hs => by
        have hin := (memberships_settle flags ws l).mpr (.inl ⟨hl, hs⟩)
        rw [h l, Wish.wanted_of_mem hnd hmem] at hin
        cases hin
      obtain ⟨⟨l', b'⟩, hmem', hb', hne⟩ : ∃ w ∈ ws, w.2 = false ∧ w.1.id ≠ l.id := by
        by_contra hc
        push Not at hc
        exact hleft hc
      obtain rfl : b' = false := hb'
      refine ⟨⟨l, l', fun he => hne (he ▸ rfl), hmem, hmem'⟩, fun x hx => ?_, ?_⟩
      · by_contra hx'
        have hkept : Wish.wanted (memberships flags) ws x = true := by
          rw [Wish.wanted_of_forall, hx]
          intro b hb
          cases b with
          | true => exact hx.symm
          | false => exact absurd hb hx'
        rw [← h x, memberships_settle] at hkept
        rcases hkept with ⟨-, hs⟩ | hr
        · exact hx' (ListId.id_injective (hs _ hmem rfl) ▸ hmem)
        · exact hd _ (mem_of_regains hr) hx.symm
      · refine first_of_regains hnd fun x hx => ?_
        have hin := h x
        rw [Wish.wanted_of_mem hnd hx, memberships_settle] at hin
        rcases hin with ⟨hflag, -⟩ | hr
        · exact absurd hflag.symm (hd _ hx)
        · exact hr
  · rintro (hall | hall) l
    · exact settle_joining flags hall l
    · obtain ⟨⟨l₁, l₂, hne, h₁, h₂⟩, hon, hfirst⟩ := hall
      rw [Bool.eq_iff_iff, memberships_settle]
      constructor
      · rintro (⟨-, hs⟩ | hr)
        · exact absurd (ListId.id_injective ((hs _ h₁ rfl).trans (hs _ h₂ rfl).symm)) hne
        · exact Wish.wanted_of_mem hnd (mem_of_regains hr)
      · intro hin
        refine .inr (regains_of_first hfirst ?_)
        by_contra hno
        cases hF : memberships flags l with
        | true =>
          rw [Wish.wanted_of_mem hnd (hon l hF)] at hin
          cases hin
        | false =>
          rw [Wish.wanted_of_forall, hF] at hin
          · cases hin
          · intro b hb
            cases b with
            | true => exact absurd hb hno
            | false => exact hF.symm

end Contact

end EdsTelepathy
