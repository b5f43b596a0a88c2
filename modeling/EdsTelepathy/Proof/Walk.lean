import EdsTelepathy.Proof.Agenda
import EdsTelepathy.Proof.Roster

/-!
# Reading the whole roster

The walk of `get_members` asks the lists one after the other and passes over a list that
has no channel at that instant. The five channels are set up by independent chains of
replies, and the account counts as online as soon as the first of them is ready, so a
list that is passed over may still get its channel later.

As long as the walk only passes over lists whose chain has broken off, what it reports is
complete. The invariant says for every list that a walk has behind it that either the
chain has broken off for good or every member is in the hash table.
-/

namespace EdsTelepathy

/-- The call is part of the chain that sets the channel of the list up. -/
def Call.setsUp (l : ListId) : Call → Bool
  | .connectionReady => true
  | .requestHandles l' => l' = l
  | .requestChannel l' => l' = l
  | _ => false

/-- The list a walk is asking and those still to ask. -/
def Call.walkLists : Call → Option (ListId × List ListId)
  | .getAllMembers l rest => some (l, rest)
  | _ => none

/-- All handles that `GetAllMembers` returns. -/
def Cl.AllMembers.handles (m : Cl.AllMembers) : List Nat :=
  m.current ++ m.localPending ++ m.remotePending

namespace Cl

/-- The list has no channel, and no reply is owed that could give it one. -/
def SetUpFailed (cl : Cl) (l : ListId) : Prop :=
  cl.channels l = false ∧ ∀ p ∈ cl.calls, p.2.setsUp l = false

instance (cl : Cl) (l : ListId) : Decidable (cl.SetUpFailed l) :=
  inferInstanceAs (Decidable (_ ∧ _))

/-- The lists that `get_next_channel_members` passes over. -/
def skipped (cl : Cl) (ls : List ListId) : List ListId := ls.takeWhile fun l => !cl.channels l

/-- The layer and what it has emitted. -/
structure Reader where
  cl : Cl
  emitted : List Signal := []

/-- The layer runs a callback, or the backend calls `get_members`. -/
inductive ReaderEvent where
  | getMembers
  | cl (e : Event)

/-- The layer with its client. -/
def readerMachine : Machine Reader ReaderEvent where
  step s e :=
    match e with
    | .getMembers => some { cl := s.cl.getMembers.1, emitted := s.emitted ++ s.cl.getMembers.2 }
    | .cl e => (s.cl.step e).map fun p => { cl := p.1, emitted := s.emitted ++ p.2 }

/--
The roster does not change, the connection stays, and the connection manager answers
truthfully: `GetAllMembers` with the members of the list, an inspection with all handles
of the table under their identifiers. Errors are allowed.
-/
def Undisturbed (members : ListId → AllMembers) (identifier : Nat → String) (cl : Cl) :
    ReaderEvent → Prop
  | .getMembers => True
  | .cl (.done _ _) => True
  | .cl (.allMembers i reply) =>
    ∀ p ∈ cl.takeCall i, ∀ w ∈ p.1.walkLists, ∀ m ∈ reply, m = members w.1
  | .cl (.contacts _ reply) => ∀ tps ∈ reply,
    (∀ h ∈ cl.contactsHash.keys, ∃ tp ∈ tps, tp.handle = h)
      ∧ ∀ tp ∈ tps, tp.identifier = identifier tp.handle
  | .cl (.details _) => True
  | .cl (.connectionStatusChanged _) => False
  | .cl (.membersChanged _ _ _ _ _) => False

instance (members : ListId → AllMembers) (identifier : Nat → String) (cl : Cl) :
    DecidablePred (cl.Undisturbed members identifier)
  | .getMembers => .isTrue trivial
  | .cl (.done _ _) => .isTrue trivial
  | .cl (.allMembers i reply) => inferInstanceAs (Decidable
      (∀ p ∈ cl.takeCall i, ∀ w ∈ p.1.walkLists, ∀ m ∈ reply, m = members w.1))
  | .cl (.contacts _ reply) => inferInstanceAs (Decidable (∀ tps ∈ reply,
      (∀ h ∈ cl.contactsHash.keys, ∃ tp ∈ tps, tp.handle = h)
        ∧ ∀ tp ∈ tps, tp.identifier = identifier tp.handle))
  | .cl (.details _) => .isTrue trivial
  | .cl (.connectionStatusChanged _) => .isFalse not_false
  | .cl (.membersChanged _ _ _ _ _) => .isFalse not_false

/-- The walk only passes over lists whose chain has broken off. -/
def SkipsFailed (cl : Cl) : ReaderEvent → Prop
  | .getMembers => cl.status = .online → ∀ l ∈ cl.skipped ListId.all, cl.SetUpFailed l
  | .cl (.allMembers i reply) => ∀ p ∈ cl.takeCall i, ∀ w ∈ p.1.walkLists,
    reply.isSome = true → ∀ l ∈ p.2.skipped w.2, p.2.SetUpFailed l
  | _ => True

instance (cl : Cl) : DecidablePred cl.SkipsFailed
  | .getMembers => inferInstanceAs (Decidable
      (cl.status = .online → ∀ l ∈ cl.skipped ListId.all, cl.SetUpFailed l))
  | .cl (.allMembers i reply) => inferInstanceAs (Decidable
      (∀ p ∈ cl.takeCall i, ∀ w ∈ p.1.walkLists,
        reply.isSome = true → ∀ l ∈ p.2.skipped w.2, p.2.SetUpFailed l))
  | .cl (.done _ _) => .isTrue trivial
  | .cl (.contacts _ _) => .isTrue trivial
  | .cl (.details _) => .isTrue trivial
  | .cl (.connectionStatusChanged _) => .isTrue trivial
  | .cl (.membersChanged _ _ _ _ _) => .isTrue trivial

section

variable (members : ListId → AllMembers) (identifier : Nat → String)

/-- The walk has done what it can for the list. -/
def Dealt (cl : Cl) (l : ListId) : Prop :=
  cl.SetUpFailed l ∨ ∀ h ∈ (members l).handles, (cl.lookup h).isSome = true

/-- The report names every member of the list, unless its chain has broken off. -/
def Reported (cl : Cl) (cs : List Contact) (l : ListId) : Prop :=
  cl.SetUpFailed l
    ∨ ∀ h ∈ (members l).handles, ∃ c ∈ cs, c.handle = h ∧ c.name = some (identifier h)

/-- What holds while the roster is being read. -/
structure WalkInv (s : Reader) : Prop where
  hash : ∀ h r, s.cl.lookup h = some r → r < s.cl.next ∧ (s.cl.contacts r).handle = h
  quiet : s.cl.NoDeferred
  walking : ∀ p ∈ s.cl.calls, ∀ w ∈ p.2.walkLists,
    ∃ behind, ListId.all = behind ++ w.1 :: w.2 ∧ ∀ l ∈ behind, Dealt members s.cl l
  inspecting : ∀ p ∈ s.cl.calls, p.2 = .getContacts → ∀ l, Dealt members s.cl l
  reported : ∀ cs, .getMembersDone (some cs) ∈ s.emitted →
    ∀ l, Reported members identifier s.cl cs l

variable {members : ListId → AllMembers} {identifier : Nat → String}

/-! ## What only grows -/

/-- Broken chains stay broken and handles in the table stay there. -/
structure Later (cl cl' : Cl) : Prop where
  failed : ∀ l, cl.SetUpFailed l → cl'.SetUpFailed l
  found : ∀ h, (cl.lookup h).isSome = true → (cl'.lookup h).isSome = true

theorem Later.refl (cl : Cl) : Later cl cl := ⟨fun _ h => h, fun _ h => h⟩

theorem Dealt.later {cl cl' : Cl} {l : ListId} (h : Dealt members cl l) (hl : Later cl cl') :
    Dealt members cl' l := by
  rcases h with h | h
  · exact .inl (hl.failed l h)
  · exact .inr fun x hx => hl.found x (h x hx)

theorem Reported.later {cl cl' : Cl} {cs : List Contact} {l : ListId}
    (h : Reported members identifier cl cs l) (hl : Later cl cl') :
    Reported members identifier cl' cs l := by
  rcases h with h | h
  · exact .inl (hl.failed l h)
  · exact .inr h

/-- The table and the channels are as before, and the new calls set nothing up. -/
theorem later_of_calls {cl cl' : Cl} (hhash : cl'.contactsHash = cl.contactsHash)
    (hch : cl'.channels = cl.channels)
    (hcalls : ∀ p ∈ cl'.calls, p ∈ cl.calls ∨ ∀ l, p.2.setsUp l = false) : Later cl cl' where
  failed := by
    rintro l ⟨h1, h2⟩
    refine ⟨by rw [hch]; exact h1, fun p hp => ?_⟩
    rcases hcalls p hp with hold | hnew
    · exact h2 p hold
    · exact hnew l
  found := by
    intro h hs
    unfold lookup at hs ⊢
    rw [hhash]; exact hs

theorem later_takeCall {cl cl₁ : Cl} {i : Nat} {c : Call} (h : cl.takeCall i = some (c, cl₁)) :
    Later cl cl₁ := by
  obtain ⟨k, -, rfl⟩ := takeCall_eq h
  exact later_of_calls rfl rfl fun p hp => .inl (List.mem_of_mem_eraseIdx hp)

theorem later_call (cl : Cl) {c : Call} (hc : ∀ l, c.setsUp l = false) : Later cl (cl.call c) := by
  refine later_of_calls rfl rfl fun p hp => ?_
  rcases List.mem_append.mp hp with hp | hp
  · exact .inl hp
  · rw [List.mem_singleton] at hp
    subst hp
    exact .inr hc

/-- What a new call must be for the invariant. -/
structure CallFine (members : ListId → AllMembers) (cl : Cl) (c : Call) : Prop where
  quiet : c.closure = none
  walking : ∀ w ∈ c.walkLists,
    ∃ behind, ListId.all = behind ++ w.1 :: w.2 ∧ ∀ l ∈ behind, Dealt members cl l
  inspecting : c = .getContacts → ∀ l, Dealt members cl l

/-- The invariant is passed on by whatever only adds to it. -/
theorem WalkInv.next {s s' : Reader} (h : WalkInv members identifier s)
    (hlater : Later s.cl s'.cl)
    (hhash : ∀ x r, s'.cl.lookup x = some r → r < s'.cl.next ∧ (s'.cl.contacts r).handle = x)
    (hcalls : ∀ p ∈ s'.cl.calls, p ∈ s.cl.calls ∨ CallFine members s'.cl p.2)
    (hem : ∀ cs, .getMembersDone (some cs) ∈ s'.emitted →
      .getMembersDone (some cs) ∈ s.emitted ∨ ∀ l, Reported members identifier s'.cl cs l) :
    WalkInv members identifier s' where
  hash := hhash
  quiet := by
    intro p hp
    rcases hcalls p hp with hold | hnew
    · exact h.quiet p hold
    · exact hnew.quiet
  walking := by
    intro p hp w hw
    rcases hcalls p hp with hold | hnew
    · obtain ⟨behind, heq, hd⟩ := h.walking p hold w hw
      exact ⟨behind, heq, fun l hl => (hd l hl).later hlater⟩
    · exact hnew.walking w hw
  inspecting := by
    intro p hp hc l
    rcases hcalls p hp with hold | hnew
    · exact (h.inspecting p hold hc l).later hlater
    · exact hnew.inspecting hc l
  reported := by
    intro cs hcs l
    rcases hem cs hcs with hold | hnew
    · exact (h.reported cs hold l).later hlater
    · exact hnew l

/-- Taking a call off the list. -/
theorem WalkInv.takeCall {cl cl₁ : Cl} {i : Nat} {c : Call} {emitted : List Signal}
    (h : WalkInv members identifier ⟨cl, emitted⟩) (ht : cl.takeCall i = some (c, cl₁)) :
    WalkInv members identifier ⟨cl₁, emitted⟩ := by
  have hlater := later_takeCall ht
  obtain ⟨k, -, rfl⟩ := takeCall_eq ht
  exact h.next hlater h.hash (fun p hp => .inl (List.mem_of_mem_eraseIdx hp)) fun _ hcs => .inl hcs

/-- Signals other than a report do not matter. -/
theorem WalkInv.emit {cl : Cl} {emitted signals : List Signal}
    (h : WalkInv members identifier ⟨cl, emitted⟩)
    (hs : ∀ cs, .getMembersDone (some cs) ∈ signals → ∀ l, Reported members identifier cl cs l) :
    WalkInv members identifier ⟨cl, emitted ++ signals⟩ := by
  refine h.next (.refl cl) h.hash (fun p hp => .inl hp) fun cs hcs => ?_
  rcases List.mem_append.mp hcs with hold | hnew
  · exact .inl hold
  · exact .inr (hs cs hnew)

theorem WalkInv.call {cl : Cl} {emitted : List Signal} {c : Call}
    (h : WalkInv members identifier ⟨cl, emitted⟩) (hc : ∀ l, c.setsUp l = false)
    (hfine : CallFine members (cl.call c) c) :
    WalkInv members identifier ⟨cl.call c, emitted⟩ := by
  refine h.next (later_call cl hc) h.hash (fun p hp => ?_) fun _ hcs => .inl hcs
  rcases List.mem_append.mp hp with hp | hp
  · exact .inl hp
  · rw [List.mem_singleton] at hp
    subst hp
    exact .inr hfine

/-! ## The walk goes on -/

/-- **The walk goes on, or reports, with everything behind it dealt with.** -/
theorem walkInv_getNextChannelMembers {cl : Cl} {emitted : List Signal} {ls : List ListId}
    (behind : List ListId) (h : WalkInv members identifier ⟨cl, emitted⟩) (hall : ListId.all = behind ++ ls)
    (hbehind : ∀ l ∈ behind, Dealt members cl l)
    (hskip : ∀ l ∈ cl.skipped ls, cl.SetUpFailed l) :
    WalkInv members identifier
      ⟨(cl.getNextChannelMembers ls).1, emitted ++ (cl.getNextChannelMembers ls).2⟩ := by
  have hfail : WalkInv members identifier ⟨cl, emitted ++ [.getMembersDone none]⟩ :=
    h.emit fun cs hcs => by simp at hcs
  induction ls generalizing behind with
  | nil =>
    have hdealt : ∀ l, Dealt members cl l := fun l => by
      rw [List.append_nil] at hall
      exact hbehind l (by rw [← hall]; exact ListId.mem_all l)
    unfold getNextChannelMembers finishGetChannelMembers
    split
    · split
      · rename_i hempty
        refine h.emit fun cs hcs l => ?_
        simp only [List.mem_singleton, Signal.getMembersDone.injEq, Option.some.injEq] at hcs
        rcases hdealt l with hf | hall
        · exact .inl hf
        · refine .inr fun x hx => ?_
          -- the table is empty, so the list has no member
          have := hall x hx
          unfold lookup at this
          have hnil : cl.contactsHash = ∅ := AList.ext hempty
          rw [hnil] at this; cases this
      · rw [List.append_nil]
        refine h.call (fun _ => rfl) ⟨rfl, fun w hw => ?_, fun _ l => ?_⟩
        · cases hw
        · exact (hdealt l).later (later_call cl fun _ => rfl)
    · exact hfail
  | cons l rest ih =>
    unfold getNextChannelMembers
    split
    · split
      · rw [List.append_nil]
        refine h.call (fun _ => rfl) ⟨rfl, fun w hw => ?_, fun hc => by cases hc⟩
        cases hw
        exact ⟨behind, hall, fun l' hl' => (hbehind l' hl').later (later_call cl fun _ => rfl)⟩
      · rename_i hch
        have hch' : (!cl.channels l) = true := by simpa using hch
        have hsk : cl.skipped (l :: rest) = l :: cl.skipped rest := by
          unfold skipped
          rw [List.takeWhile_cons, if_pos hch']
        rw [hsk] at hskip
        refine ih (behind ++ [l]) (by rw [hall]; simp) (fun l' hl' => ?_)
          fun l' hl' => hskip l' (List.mem_cons_of_mem l hl')
        rcases List.mem_append.mp hl' with hl' | hl'
        · exact hbehind l' hl'
        · rw [List.mem_singleton] at hl'
          subst hl'
          exact .inl (hskip _ List.mem_cons_self)
    · exact hfail

/-! ## The replies -/

/-- The members of a list are entered; nothing else changes but the objects. -/
structure Grown (cl cl' : Cl) : Prop where
  calls : cl'.calls = cl.calls
  channels : cl'.channels = cl.channels
  found : ∀ h, (cl.lookup h).isSome = true → (cl'.lookup h).isSome = true
  hash : (∀ h r, cl.lookup h = some r → r < cl.next ∧ (cl.contacts r).handle = h) →
    ∀ h r, cl'.lookup h = some r → r < cl'.next ∧ (cl'.contacts r).handle = h

theorem Grown.trans {cl cl' cl'' : Cl} (h : Grown cl cl') (h' : Grown cl' cl'') : Grown cl cl'' :=
  ⟨h'.calls.trans h.calls, h'.channels.trans h.channels, fun x hx => h'.found x (h.found x hx),
    fun hh => h'.hash (h.hash hh)⟩

theorem grown_memberListed (flag : Flags) (cl : Cl) (h : Nat) :
    Grown cl (memberListed flag cl h) ∧ ((memberListed flag cl h).lookup h).isSome = true := by
  unfold memberListed
  cases hr : cl.lookup h with
  | some r =>
    dsimp only
    refine ⟨⟨rfl, rfl, fun _ hx => hx, fun hh x r' hr' => ?_⟩, ?_⟩
    · have hold : cl.lookup x = some r' := hr'
      obtain ⟨hlt, hx⟩ := hh x r' hold
      refine ⟨hlt, ?_⟩
      by_cases he : r' = r
      · subst he
        rw [modify_contacts_self]
        exact (hh h r' hr).2.symm.trans hx
      · rw [modify_contacts_of_ne he]; exact hx
    · have : cl.lookup h = some r := hr
      unfold lookup modify at *
      dsimp only
      rw [this]; rfl
  | none =>
    dsimp only
    refine ⟨⟨rfl, rfl, fun x hx => ?_, fun hh x r' hr' => ?_⟩, ?_⟩
    · unfold lookup at hx ⊢
      dsimp only
      rw [Table.lookup_insert_ite]
      split
      · rfl
      · exact hx
    · unfold lookup at hr'
      dsimp only at hr' ⊢
      rcases Table.lookup_insert_eq_some.mp hr' with ⟨rfl, rfl⟩ | ⟨hne, hold⟩
      · rw [Function.update_self]
        exact ⟨by omega, rfl⟩
      · obtain ⟨hlt, hx⟩ := hh x r' hold
        rw [Function.update_of_ne (by omega)]
        exact ⟨by omega, hx⟩
    · unfold lookup
      dsimp only
      rw [AList.lookup_insert]; rfl

theorem grown_foldl (flag : Flags) (hs : List Nat) (cl : Cl) :
    Grown cl (hs.foldl (memberListed flag) cl)
      ∧ ∀ h ∈ hs, ((hs.foldl (memberListed flag) cl).lookup h).isSome = true := by
  induction hs generalizing cl with
  | nil => exact ⟨⟨rfl, rfl, fun _ h => h, fun h => h⟩, by simp⟩
  | cons x xs ih =>
    obtain ⟨hg, hx⟩ := grown_memberListed flag cl x
    obtain ⟨hg', hxs⟩ := ih (memberListed flag cl x)
    refine ⟨hg.trans hg', fun h hh => ?_⟩
    rcases List.mem_cons.mp hh with rfl | hh
    · exact hg'.found _ hx
    · exact hxs h hh

theorem Grown.later {cl cl' : Cl} (h : Grown cl cl') : Later cl cl' where
  failed := by
    rintro l ⟨h1, h2⟩
    exact ⟨by rw [h.channels]; exact h1, by rw [h.calls]; exact h2⟩
  found := h.found

theorem WalkInv.grown {cl cl' : Cl} {emitted : List Signal}
    (h : WalkInv members identifier ⟨cl, emitted⟩) (hg : Grown cl cl') :
    WalkInv members identifier ⟨cl', emitted⟩ :=
  h.next hg.later (hg.hash h.hash) (fun p hp => .inl (by rw [hg.calls] at hp; exact hp))
    fun _ hcs => .inl hcs

/-- The reply to `GetAllMembers`. -/
theorem walkInv_allMembers {cl cl₁ : Cl} {emitted : List Signal} {i : Nat} {l : ListId}
    {rest : List ListId} {reply : Option AllMembers}
    (h : WalkInv members identifier ⟨cl, emitted⟩)
    (ht : cl.takeCall i = some (.getAllMembers l rest, cl₁))
    (hreply : ∀ m ∈ reply, m = members l)
    (hskip : reply.isSome = true → ∀ l ∈ cl₁.skipped rest, cl₁.SetUpFailed l) :
    WalkInv members identifier ⟨(cl₁.channelGetAllMembersCb l rest reply).1,
      emitted ++ (cl₁.channelGetAllMembersCb l rest reply).2⟩ := by
  have h₁ := h.takeCall ht
  obtain ⟨k, hget, -⟩ := takeCall_eq ht
  obtain ⟨behind, hall, hbehind⟩ :=
    h.walking (k, .getAllMembers l rest) (List.mem_of_getElem? hget) (l, rest) rfl
  unfold channelGetAllMembersCb
  cases reply with
  | none => exact h₁.emit fun cs hcs => by simp at hcs
  | some m =>
    obtain rfl := hreply m rfl
    dsimp only
    split
    · -- the three arrays of the reply are entered one after the other
      obtain ⟨hg1, hf1⟩ := grown_foldl (l.flag .current) (members l).current cl₁
      obtain ⟨hg2, hf2⟩ := grown_foldl (l.flag .localPending) (members l).localPending
        ((members l).current.foldl (memberListed (l.flag .current)) cl₁)
      obtain ⟨hg3, hf3⟩ := grown_foldl (l.flag .remotePending) (members l).remotePending
        ((members l).localPending.foldl (memberListed (l.flag .localPending))
          ((members l).current.foldl (memberListed (l.flag .current)) cl₁))
      have hg := (hg1.trans hg2).trans hg3
      refine walkInv_getNextChannelMembers (behind ++ [l]) (h₁.grown hg)
        (by rw [hall]; simp) (fun l' hl' => ?_) fun l' hl' => ?_
      · -- the lists that have been walked through, and the one that has answered now
        rcases List.mem_append.mp hl' with hl' | hl'
        · exact ((hbehind l' hl').later (later_takeCall ht)).later hg.later
        · rw [List.mem_singleton] at hl'
          subst hl'
          refine .inr fun x hx => ?_
          unfold AllMembers.handles at hx
          rcases List.mem_append.mp hx with hx | hx
          · rcases List.mem_append.mp hx with hx | hx
            · exact hg3.found x (hg2.found x (hf1 x hx))
            · exact hg3.found x (hf2 x hx)
          · exact hf3 x hx
      · unfold skipped at hl'
        rw [hg.channels] at hl'
        exact hg.later.failed l' (hskip rfl l' hl')
    · exact h₁.emit fun cs hcs => by simp at hcs

/-- One entry of an inspection: its contact is found and has the name that is reported. -/
theorem updateContactDetail_names {cl : Cl} {st : Cl × List Nat} {tp : TpContact}
    (hid : tp.identifier = identifier tp.handle)
    (hhash : ∀ h r, cl.lookup h = some r → r < cl.next ∧ (cl.contacts r).handle = h)
    (hst : Inspected cl st.1 ∧ ∀ r ∈ st.2,
      (st.1.contacts r).name = some (identifier (cl.contacts r).handle)) :
    (Inspected cl (updateContactDetail st tp).1 ∧ ∀ r ∈ (updateContactDetail st tp).2,
      ((updateContactDetail st tp).1.contacts r).name = some (identifier (cl.contacts r).handle))
      ∧ (∀ r, cl.lookup tp.handle = some r → r ∈ (updateContactDetail st tp).2)
      ∧ ∀ r ∈ st.2, r ∈ (updateContactDetail st tp).2 := by
  obtain ⟨hi, hn⟩ := hst
  have hlook : st.1.lookup tp.handle = cl.lookup tp.handle := by
    unfold lookup; rw [hi.hash]
  unfold updateContactDetail
  cases hr : st.1.lookup tp.handle with
  | none =>
    refine ⟨⟨hi, hn⟩, fun r hr' => ?_, fun _ h => h⟩
    rw [← hlook, hr] at hr'; cases hr'
  | some r =>
    have hh := (hhash tp.handle r (hlook.symm.trans hr)).2
    dsimp only
    refine ⟨⟨⟨hi.hash, hi.next, hi.calls, fun r' => ?_⟩, fun r' hr' => ?_⟩, fun r' hr' => ?_,
      fun r' h => List.mem_append_left _ h⟩
    · by_cases he : r' = r
      · subst he
        rw [modify_contacts_self]
        obtain ⟨h1, h2⟩ := updateName_keeps (st.1.contacts r') (some tp.identifier)
        exact ⟨h1.trans (hi.contact r').1, h2.trans (hi.contact r').2⟩
      · rw [modify_contacts_of_ne he]; exact hi.contact r'
    · by_cases he : r' = r
      · subst he
        rw [modify_contacts_self, hh, ← hid]
        exact Contact.updateName_some _ _
      · rw [modify_contacts_of_ne he]
        refine hn r' ?_
        rcases List.mem_append.mp hr' with h | h
        · exact h
        · exact absurd (List.mem_singleton.mp h) he
    · rw [← hlook, hr] at hr'
      cases hr'
      exact List.mem_append_right _ (List.mem_singleton_self _)

/-- The contacts that an inspection has gone through, with the names it gave them. -/
theorem updateContactDetails_names {cl : Cl} {tps : List TpContact}
    (hid : ∀ tp ∈ tps, tp.identifier = identifier tp.handle)
    (hhash : ∀ h r, cl.lookup h = some r → r < cl.next ∧ (cl.contacts r).handle = h) :
    (∀ r ∈ (cl.updateContactDetails tps).2,
      ((cl.updateContactDetails tps).1.contacts r).name
        = some (identifier (cl.contacts r).handle))
      ∧ ∀ tp ∈ tps, ∀ r, cl.lookup tp.handle = some r → r ∈ (cl.updateContactDetails tps).2 := by
  unfold updateContactDetails
  have hgen : ∀ (tps : List TpContact) (st : Cl × List Nat),
      (∀ tp ∈ tps, tp.identifier = identifier tp.handle) →
      (Inspected cl st.1 ∧ ∀ r ∈ st.2,
        (st.1.contacts r).name = some (identifier (cl.contacts r).handle)) →
      (∀ r ∈ (tps.foldl updateContactDetail st).2,
        ((tps.foldl updateContactDetail st).1.contacts r).name
          = some (identifier (cl.contacts r).handle))
        ∧ (∀ tp ∈ tps, ∀ r, cl.lookup tp.handle = some r →
            r ∈ (tps.foldl updateContactDetail st).2)
        ∧ ∀ r ∈ st.2, r ∈ (tps.foldl updateContactDetail st).2 := by
    intro tps
    induction tps with
    | nil => intro st _ hst; exact ⟨hst.2, by simp, fun _ h => h⟩
    | cons tp tps ih =>
      intro st hid hst
      obtain ⟨hst', hfound, hkeep⟩ :=
        updateContactDetail_names (hid tp List.mem_cons_self) hhash hst
      obtain ⟨h1, h2, h3⟩ := ih _ (fun tp' h => hid tp' (List.mem_cons_of_mem tp h)) hst'
      refine ⟨h1, fun tp' htp' r hr => ?_, fun r hr => h3 r (hkeep r hr)⟩
      rcases List.mem_cons.mp htp' with rfl | htp'
      · exact h3 r (hfound r hr)
      · exact h2 tp' htp' r hr
  obtain ⟨h1, h2, -⟩ := hgen tps (cl, []) hid ⟨⟨rfl, rfl, rfl, fun _ => ⟨rfl, rfl⟩⟩, by simp⟩
  exact ⟨h1, h2⟩

/-- The reply to the inspection of the whole table ends the walk with a complete report. -/
theorem walkInv_getContacts {cl cl₁ : Cl} {emitted : List Signal} {i : Nat}
    {reply : Option (List TpContact)} (h : WalkInv members identifier ⟨cl, emitted⟩)
    (ht : cl.takeCall i = some (.getContacts, cl₁))
    (hreply : ∀ tps ∈ reply, (∀ x ∈ cl.contactsHash.keys, ∃ tp ∈ tps, tp.handle = x)
      ∧ ∀ tp ∈ tps, tp.identifier = identifier tp.handle) :
    WalkInv members identifier
      ⟨(cl₁.getContactsCb reply).1, emitted ++ (cl₁.getContactsCb reply).2⟩ := by
  have h₁ := h.takeCall ht
  obtain ⟨k, hget, hcl₁⟩ := takeCall_eq ht
  have hdealt := h.inspecting (k, .getContacts) (List.mem_of_getElem? hget) rfl
  unfold getContactsCb
  cases reply with
  | none => exact h₁.emit fun cs hcs => by simp at hcs
  -- the inspection answered: every contact of the table has its name now
  | some tps =>
    obtain ⟨hall, hid⟩ := hreply tps rfl
    dsimp only
    split
    · have hi := inspected_updateContactDetails cl₁ tps
      obtain ⟨hnames, hfound⟩ := updateContactDetails_names hid h₁.hash
      have hch : (cl₁.updateContactDetails tps).1.channels = cl₁.channels := by
        obtain ⟨_, _, _, heq⟩ := rosterOnly_updateContactDetails cl₁ tps
        rw [heq]
      have hlater : Later cl₁ (cl₁.updateContactDetails tps).1 :=
        later_of_calls hi.hash hch fun p hp => .inl (by rw [hi.calls] at hp; exact hp)
      have h₂ : WalkInv members identifier ⟨(cl₁.updateContactDetails tps).1, emitted⟩ := by
        refine h₁.next hlater (fun x r hr => ?_)
          (fun p hp => .inl (by rw [hi.calls] at hp; exact hp)) fun _ hcs => .inl hcs
        have hr' : cl₁.lookup x = some r := by unfold lookup at hr ⊢; rw [← hi.hash]; exact hr
        rw [hi.next, (hi.contact r).1]
        exact h₁.hash x r hr'
      refine h₂.emit fun cs hcs l => ?_
      have hcs' : cs = (cl₁.updateContactDetails tps).1.read (cl₁.updateContactDetails tps).2 := by
        rcases List.mem_cons.mp hcs with heq | hrest
        · exact Option.some.inj (Signal.getMembersDone.inj heq)
        · split at hrest <;> simp at hrest
      -- a channel whose members are unknown stays unknown, and of the others all are found
      rcases (hdealt l).later (later_takeCall ht) with hf | hin
      · exact .inl (hlater.failed l hf)
      · refine .inr fun x hx => ?_
        obtain ⟨r, hr⟩ := Option.isSome_iff_exists.mp (hin x hx)
        have hkey : x ∈ cl.contactsHash.keys := by
          have : cl.contactsHash.lookup x = some r := by rw [hcl₁] at hr; exact hr
          exact AList.mem_keys.mp (AList.lookup_isSome.mp (by rw [this]; rfl))
        obtain ⟨tp, htp, hx'⟩ := hall x hkey
        have hmem := hfound tp htp r (by rw [hx']; exact hr)
        have hh : (cl₁.contacts r).handle = x := (h₁.hash x r hr).2
        refine ⟨(cl₁.updateContactDetails tps).1.contacts r, ?_, ?_, ?_⟩
        · rw [hcs']; exact List.mem_map_of_mem hmem
        · rw [(hi.contact r).1]; exact hh
        · rw [hnames r hmem, hh]
    · exact h₁.emit fun cs hcs => by simp at hcs

/-- A reply of the chain that sets a channel up. -/
theorem walkInv_setUp {cl cl₁ cl' : Cl} {emitted signals : List Signal} {i : Nat} {c : Call}
    (h : WalkInv members identifier ⟨cl, emitted⟩) (ht : cl.takeCall i = some (c, cl₁))
    (hhash : cl'.contactsHash = cl₁.contactsHash) (hcon : cl'.contacts = cl₁.contacts)
    (hnext : cl'.next = cl₁.next)
    (hch : ∀ l, c.setsUp l = false → cl'.channels l = cl₁.channels l)
    (hcalls : ∀ p ∈ cl'.calls, p ∈ cl₁.calls
      ∨ (p.2.closure = none ∧ p.2.isWalk = false ∧ ∀ l, c.setsUp l = false → p.2.setsUp l = false))
    (hsig : dones signals = 0) :
    WalkInv members identifier ⟨cl', emitted ++ signals⟩ := by
  obtain ⟨k, hget, hcl₁⟩ := takeCall_eq ht
  have htaken : (k, c) ∈ cl.calls := List.mem_of_getElem? hget
  have hsub : ∀ p ∈ cl₁.calls, p ∈ cl.calls := fun p hp => by
    rw [hcl₁] at hp; exact List.mem_of_mem_eraseIdx hp
  have hlook : ∀ x, cl'.lookup x = cl.lookup x := fun x => by
    unfold lookup; rw [hhash, hcl₁]
  refine h.next ⟨fun l hl => ?_, fun x hx => ?_⟩ (fun x r hr => ?_) (fun p hp => ?_)
    fun cs hcs => ?_
  · obtain ⟨h1, h2⟩ := hl
    have hc := h2 _ htaken
    refine ⟨?_, fun p hp => ?_⟩
    · rw [hch l hc, hcl₁]; exact h1
    · rcases hcalls p hp with hold | ⟨-, -, hnew⟩
      · exact h2 p (hsub p hold)
      · exact hnew l hc
  · rw [hlook]; exact hx
  · rw [hlook] at hr
    rw [hnext, hcon, hcl₁]
    exact h.hash x r hr
  · rcases hcalls p hp with hold | ⟨hq, hw, -⟩
    · exact .inl (hsub p hold)
    · refine .inr ⟨hq, fun w hw' => ?_, fun hc => ?_⟩
      · cases hp2 : p.2 <;> rw [hp2] at hw hw' <;> cases hw'
        cases hw
      · rw [hc] at hw; cases hw
  · rcases List.mem_append.mp hcs with hold | hnew
    · exact .inl hold
    · exact absurd hsig (Nat.ne_of_gt (List.countP_pos_iff.mpr ⟨_, hnew, rfl⟩))

/-- A report says nothing about who is on which list. -/
theorem walkInv_report {cl : Cl} {emitted : List Signal} (h : WalkInv members identifier ⟨cl, emitted⟩)
    (d : Details) :
    WalkInv members identifier ⟨(cl.detailsCb d).1, emitted ++ (cl.detailsCb d).2⟩ := by
  obtain ⟨⟨heap, heq, hheap⟩, hsignals⟩ := detailsCb_reported cl d
  rw [heq]
  refine ⟨fun x r hr => ?_, h.quiet, h.walking, h.inspecting, fun cs hcs => ?_⟩
  · obtain ⟨hnext, hhandle⟩ := h.hash x r hr
    exact ⟨hnext, (hheap r).handle.trans hhandle⟩
  · rcases List.mem_append.mp hcs with hold | hnew
    · exact h.reported cs hold
    · cases (hsignals _ hnew).1

/-- **One event keeps the invariant.** -/
theorem walkInv_step {s s' : Reader} {e : ReaderEvent} (h : WalkInv members identifier s)
    (hok : Undisturbed members identifier s.cl e ∧ SkipsFailed s.cl e)
    (hs : readerMachine.step s e = some s') : WalkInv members identifier s' := by
  obtain ⟨cl, emitted⟩ := s
  obtain ⟨hev, hskip⟩ := hok
  cases e with
  | getMembers =>
    cases hs
    unfold getMembers
    cases hst : cl.status with
    | online => exact walkInv_getNextChannelMembers [] h rfl (by simp) (hskip hst)
    | offline =>
      dsimp only
      rw [List.append_nil]; exact h
  | cl e =>
    obtain ⟨r, hstep, rfl⟩ := Option.map_eq_some_iff.mp hs
    have hcb := step_callback hstep
    cases hcb with
    | connection conn => exact hev.elim
    | members l added removed lp rp => exact hev.elim
    | @connectionReady i cl₁ ok ht =>
      refine walkInv_setUp h ht ?_ ?_ ?_ (fun l hc => by cases hc) (fun p hp => ?_) rfl
      · unfold tpConnectionReadyCb; split <;> rfl
      · unfold tpConnectionReadyCb; split <;> rfl
      · unfold tpConnectionReadyCb; split <;> rfl
      · unfold tpConnectionReadyCb at hp
        split at hp
        · unfold getContactListChannels call at hp
          simp only [List.foldl_cons, List.foldl_nil, List.mem_append, List.mem_singleton,
            or_assoc] at hp
          rcases hp with hp | hp | hp | hp | hp | hp
          · exact .inl hp
          all_goals
            subst hp
            exact .inr ⟨rfl, rfl, fun l hc => by cases hc⟩
        · exact .inl hp
    | @requestHandles i l cl₁ ok ht =>
      refine walkInv_setUp h ht ?_ ?_ ?_ (fun l' hc => ?_) (fun p hp => ?_) rfl
      · unfold requestHandlesForContactListCb; split <;> rfl
      · unfold requestHandlesForContactListCb; split <;> rfl
      · unfold requestHandlesForContactListCb; split <;> rfl
      · unfold requestHandlesForContactListCb; split <;> rfl
      · unfold requestHandlesForContactListCb at hp
        split at hp
        · rcases List.mem_append.mp hp with hp | hp
          · exact .inl hp
          · rw [List.mem_singleton] at hp
            subst hp
            exact .inr ⟨rfl, rfl, fun l' hc => hc⟩
        · exact .inl hp
    | @requestChannel i l cl₁ ok ht =>
      refine walkInv_setUp h ht ?_ ?_ ?_ (fun l' hc => ?_) (fun p hp => ?_) rfl
      · unfold tpRequestChannelCb; split <;> rfl
      · unfold tpRequestChannelCb; split <;> rfl
      · unfold tpRequestChannelCb; split <;> rfl
      · unfold tpRequestChannelCb
        split
        · have hne : l' ≠ l := by
            rintro rfl
            simp [Call.setsUp] at hc
          exact Function.update_of_ne hne ..
        · rfl
      · unfold tpRequestChannelCb at hp
        split at hp
        · rcases List.mem_append.mp hp with hp | hp
          · exact .inl hp
          · rw [List.mem_singleton] at hp
            subst hp
            exact .inr ⟨rfl, rfl, fun _ _ => rfl⟩
        · exact .inl hp
    | @channelReady i l cl₁ ok ht =>
      have hstatus : ∃ st, (cl₁.tpChannelReadyCb l ok).1 = { cl₁ with status := st } := by
        unfold tpChannelReadyCb setStatus
        split
        · split
          · split
            · exact ⟨_, rfl⟩
            · exact ⟨_, rfl⟩
          · exact ⟨_, rfl⟩
        · exact ⟨_, rfl⟩
      have hsig : dones (cl₁.tpChannelReadyCb l ok).2 = 0 := by
        unfold tpChannelReadyCb
        split
        · split
          · exact dones_setStatus cl₁ .online
          · rfl
        · rfl
      obtain ⟨st, heq⟩ := hstatus
      refine walkInv_setUp h ht ?_ ?_ ?_ (fun l' _ => ?_) (fun p hp => .inl ?_) hsig
      · rw [heq]
      · rw [heq]
      · rw [heq]
      · rw [heq]
      · rw [heq] at hp; exact hp
    | @idle i k cl₁ ok ht =>
      -- no such call is owed
      obtain ⟨n, hget, -⟩ := takeCall_eq ht
      have := h.quiet _ (List.mem_of_getElem? hget)
      cases this
    | @allMembers i l rest cl₁ reply ht =>
      exact walkInv_allMembers h ht (hev _ ht (l, rest) rfl)
        fun hsome => hskip _ ht (l, rest) rfl hsome
    | @getContacts i cl₁ reply ht => exact walkInv_getContacts h ht hev
    | @details i k cl₁ reply ht =>
      obtain ⟨n, hget, -⟩ := takeCall_eq ht
      have := h.quiet _ (List.mem_of_getElem? hget)
      cases this
    | report d => exact walkInv_report h d

theorem walkInv_init {cl : Cl} (hhash : cl.contactsHash = ∅) (howed : cl.owed = 0)
    (hquiet : cl.NoDeferred) : WalkInv members identifier ⟨cl, []⟩ := by
  have hno : ∀ p ∈ cl.calls, p.2.isWalk = false := by
    intro p hp
    by_contra hc
    have : 0 < cl.owed := List.countP_pos_iff.mpr ⟨p, hp, by simpa using hc⟩
    omega
  refine ⟨fun x r hr => ?_, hquiet, fun p hp w hw => ?_, fun p hp hc => ?_, fun cs hcs => ?_⟩
  · unfold lookup at hr
    dsimp only at hr
    rw [hhash] at hr; cases hr
  · have := hno p hp
    cases hp2 : p.2 <;> rw [hp2] at this hw <;> cases hw
    cases this
  · have := hno p hp
    rw [hc] at this; cases this
  · cases hcs

end

/--
**The roster that is reported is complete**, as long as the walk only passes over lists
whose chain has broken off: whoever is on a list that has a channel is reported under the
right name, and none of the contacts of the book with such a name is one that phase 2
removes.
-/
theorem walk_complete {members : ListId → AllMembers} {identifier : Nat → String} {cl₀ cl : Cl}
    {es : List ReaderEvent} {emitted : List Signal} {cs : List Contact} {l : ListId} {h : Nat}
    (hhash : cl₀.contactsHash = ∅) (howed : cl₀.owed = 0) (hquiet : cl₀.NoDeferred)
    (hrun : readerMachine.Guarded
      (fun s e => Undisturbed members identifier s.cl e ∧ SkipsFailed s.cl e)
      { cl := cl₀ } es { cl := cl, emitted := emitted })
    (hdone : .getMembersDone (some cs) ∈ emitted) (hch : cl.channels l = true)
    (hh : h ∈ (members l).handles) :
    (∃ c ∈ cs, c.handle = h ∧ c.name = some (identifier h))
      ∧ ∀ (pathSuffix vcardField : String) (db : Db) (b : Backend) (r : Nat),
          Backend.ReachableFrom pathSuffix vcardField db b →
          b.book.nameToContact.lookup (some (identifier h)) = some r →
          r ∉ Backend.unseen (b.rosterReceived cs).book := by
  have hinv : WalkInv members identifier { cl := cl, emitted := emitted } :=
    hrun.inv (fun _ _ _ hI hok hs => walkInv_step hI hok hs) (walkInv_init hhash howed hquiet)
  have hreport : ∃ c ∈ cs, c.handle = h ∧ c.name = some (identifier h) := by
    rcases hinv.reported cs hdone l with hfailed | hall
    · have hno := hfailed.1
      dsimp only at hno
      rw [hch] at hno; cases hno
    · exact hall h hh
  refine ⟨hreport, fun pathSuffix vcardField db b r hreach hr hmem => ?_⟩
  obtain ⟨c, hc, -, hname⟩ := hreport
  have hlt := (Backend.sane_reachable hreach).allocated.name _ r hr
  have hseen := Backend.rosterReceived_seen (b := b) (by rw [hname]; exact hr) hlt hc
  have hunseen := (List.mem_filter.mp hmem).2
  rw [hseen] at hunseen; cases hunseen

/-- A connection that has come up, with nothing asked of it but to be ready. -/
def connecting : Cl := { conn := some 1, calls := [(1, .connectionReady)] }

/-- The events of a walk over the lists subscribe and publish; the other three have failed. -/
def walkBoth : List ReaderEvent :=
  [.cl (.done 0 true), .cl (.done 2 false), .cl (.done 2 false), .cl (.done 2 false),
   .cl (.done 0 true), .cl (.done 0 true), .cl (.done 0 true), .cl (.done 0 true),
   .cl (.done 0 true), .getMembers, .cl (.allMembers 1 (some { current := [7] })),
   .cl (.allMembers 1 (some { current := [5] })),
   .cl (.contacts 1 (some [{ handle := 7, identifier := "ann" },
     { handle := 5, identifier := "bob" }]))]

/-- Who is on these two lists. -/
def bothMembers : ListId → AllMembers
  | .subscribe => { current := [7] }
  | .publish => { current := [5] }
  | _ => {}

def bothIdentifier (h : Nat) : String := if h = 7 then "ann" else "bob"

/-- The handles that `get_members` is answered with. -/
def doneHandles : Signal → Option (List Nat)
  | .getMembersDone (some cs) => some (cs.map Contact.handle)
  | _ => none

theorem walk_complete_both :
    ∃ s cs, readerMachine.run { cl := connecting } walkBoth = some s
      ∧ .getMembersDone (some cs) ∈ s.emitted
      ∧ ∃ c ∈ cs, c.handle = 5 ∧ c.name = some "bob" := by
  let check : Reader → ReaderEvent → Bool := fun s e =>
    decide (Undisturbed bothMembers bothIdentifier s.cl e ∧ SkipsFailed s.cl e)
  have hrun : ((readerMachine.runChecked check { cl := connecting } walkBoth).map fun s =>
      (s.cl.channels .publish, s.emitted.filterMap doneHandles)) = some (true, [[7, 5]]) := by decide
  obtain ⟨s, hs, hproj⟩ := Option.map_eq_some_iff.mp hrun
  obtain ⟨hch, hemitted⟩ := Prod.mk.inj hproj
  have hdone : ∃ cs, .getMembersDone (some cs) ∈ s.emitted := by
    have hmem := List.mem_singleton_self [7, 5]
    rw [← hemitted] at hmem
    obtain ⟨sig, hsig, heq⟩ := List.mem_filterMap.mp hmem
    unfold doneHandles at heq
    split at heq
    · exact ⟨_, hsig⟩
    · cases heq
  obtain ⟨cs, hcs⟩ := hdone
  have hguarded : readerMachine.Guarded
      (fun s e => Undisturbed bothMembers bothIdentifier s.cl e ∧ SkipsFailed s.cl e)
      { cl := connecting } walkBoth s :=
    Machine.guarded_of_runChecked (fun _ _ hc => of_decide_eq_true hc) hs
  refine ⟨s, cs, hguarded.run_eq, hcs, ?_⟩
  have hquiet : connecting.NoDeferred := by unfold NoDeferred; decide
  exact (walk_complete (l := .publish) rfl (by decide) hquiet hguarded hcs hch (by decide)).1

/-- A cache with one contact that is on the publish list of the server. -/
def cacheBob : Db := { contacts := (∅ : Table String ContactRow).insert "p-bob" { name := "bob" } }

/--
**The walk can overtake a list.** Subscribe alone decides that the account is online, so
the roster can be reported without a contact of a list that gets its channel later, and
the cached contact is one that phase 2 removes.
-/
theorem walk_overtakes :
    ∃ es s, readerMachine.Guarded
        (fun s e => Undisturbed (fun l => if l = .publish then { current := [5] } else {})
          (fun _ => "bob") s.cl e) { cl := connecting } es s
      ∧ .getMembersDone (some []) ∈ s.emitted ∧ s.cl.channels .publish = true
      ∧ ∃ b r, Backend.ReachableFrom "p" "X-JABBER" cacheBob b
          ∧ b.book.nameToContact.lookup (some "bob") = some r
          ∧ r ∈ Backend.unseen (b.rosterReceived []).book := by
  let es : List ReaderEvent :=
    [.cl (.done 0 true), .cl (.done 0 true), .cl (.done 4 true), .cl (.done 4 true),
     .getMembers, .cl (.allMembers 4 (some {})), .cl (.done 0 true), .cl (.done 3 true)]
  let check : Reader → ReaderEvent → Bool := fun s e =>
    decide (Undisturbed (fun l => if l = .publish then { current := [5] } else {})
      (fun _ => "bob") s.cl e)
  have hrun : ((readerMachine.runChecked check { cl := connecting } es).map fun s =>
      (s.cl.channels .publish, decide (.getMembersDone (some []) ∈ s.emitted)))
        = some (true, true) := by decide
  obtain ⟨s, hs, hproj⟩ := Option.map_eq_some_iff.mp hrun
  obtain ⟨hch, hemitted⟩ := Prod.mk.inj hproj
  refine ⟨es, s, Machine.guarded_of_runChecked (fun _ _ hc => of_decide_eq_true hc) hs,
    of_decide_eq_true hemitted, hch, ?_⟩
  exact ⟨(Backend.boot "p" "X-JABBER" cacheBob).syncPhase0IdleCb, 0, ⟨[{ event := .phase0 }], rfl⟩,
    by decide, by decide⟩

end Cl

end EdsTelepathy
