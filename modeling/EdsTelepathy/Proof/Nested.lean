import EdsTelepathy.Cl.Nested

/-!
# Blocking requests and reconnections

After most of the nested calls the functions ask whether there is a connection, and then
follow a slot, or a copy of one, that may have been emptied or freed although there is a
connection again; `run_add_contact` does not ask at all. `Withstands` says of each call
what must be there when it returns, and a function faults exactly where that is not so.
-/

namespace EdsTelepathy

namespace ListId

/-- The lists that the loops come to after this one. -/
def after (l : ListId) : List ListId := (all.dropWhile (· ≠ l)).tail

theorem after_of_suffix {l : ListId} {ls : List ListId} (h : (l :: ls) <:+ all) : l.after = ls := by
  simp only [all, List.suffix_cons_iff, List.cons.injEq, List.suffix_nil, reduceCtorEq, or_false] at h
  rcases h with ⟨rfl, rfl⟩ | ⟨rfl, rfl⟩ | ⟨rfl, rfl⟩ | ⟨rfl, rfl⟩ | ⟨rfl, rfl⟩ <;> rfl

end ListId

namespace Cl

open Program

namespace RosterRequest

/-- What has to be there when a nested call returns, for the function to go on. -/
def Withstands (f : RosterRequest) (r : Request) (s : Live) (a : Reply) (s' : Live) : Prop :=
  match f, r with
  | updateFlags, .addMembers l _ => s'.cl.isConnected = true → s'.cl.channels l = true
  | addContact, .getGroupFlags l => a.ok = true → a.canAdd = true → s'.cl.channels l = true
  | removeContact, .getGroupFlags l =>
    a.ok = true → s'.cl.isConnected = true → a.canRemove = true → s'.cl.channels l = true
  | unblockContact, .getGroupFlags _ =>
    a.ok = true → s'.cl.isConnected = true → a.canRemove = true → s'.freed = s.freed
  | _, _ => True

/-- The calls after which the function goes on to the next list without asking for a connection. -/
def GoesOn (f : RosterRequest) (r : Request) (a : Reply) (s' : Live) : Bool :=
  match f, r with
  | updateFlags, .removeMembers _ _ => true
  | addContact, .inspectHandles _ => a.ok
  | addContact, .getGroupFlags _ => a.ok && !a.canAdd
  | addContact, .addMembers _ _ => a.ok
  | removeContact, .getGroupFlags _ => a.ok && s'.cl.isConnected && !a.canRemove
  | removeContact, .removeMembers _ _ => a.ok
  | _, _ => false

/-- Whether the function does anything about a list, for the roster contact at `r`. -/
def concerns (f : RosterRequest) (r : Nat) (s : Live) (l : ListId) : Bool :=
  match f with
  | updateFlags => true
  | addContact => s.pendingFlags.has (l.flag .current)
  | removeContact => (s.cl.contacts r).flags.has l.allFlags
  | unblockContact => false

end RosterRequest

/-- The lists that are still to come when the request is answered. -/
def toCome : Request → List ListId
  | .requestHandles _ => []
  | .inspectHandles _ => ListId.all
  | .getGroupFlags l | .addMembers l _ | .removeMembers l _ => l.after

/-- A list that would be passed over: it is still to come, and concerned, and has no channel. -/
def RosterRequest.Passes (f : RosterRequest) (r : Nat) (q : Request) (a : Reply) (s' : Live)
    (l : ListId) : Prop :=
  f.GoesOn q a s' = true ∧ l ∈ toCome q ∧ f.concerns r s' l = true ∧ s'.cl.channels l = false

/-- What a function may return: `FALSE` comes with an error. -/
def Returned.Honest (x : Returned) : Prop := x.ok = false → x.error = true

/-- A program of the function keeps to what is said here. -/
abbrev Keeps (f : RosterRequest) (r : Nat) (p : Blocking) (s : Live) : Prop :=
  p.Obeys f.Withstands (f.Passes r) Returned.Honest s

theorem keeps_failed (f : RosterRequest) (r : Nat) (s : Live) : Keeps f r failed s := fun _ => rfl

/-- The program `p` is what a call of the function goes on with when the reply is `a`. -/
structure Resumes (f : RosterRequest) (r : Nat) (q : Request) (s : Live) (a : Reply) (s' : Live)
    (p : Blocking) : Prop where
  faults : p.settle.2.faulted = true ↔ ¬ f.Withstands q s a s'
  passes : ∀ l ∈ p.settle.1, f.Passes r q a s' l
  keeps : Keeps f r p s'

section Resumes

variable {f : RosterRequest} {r : Nat} {q : Request} {s s' : Live} {a : Reply}

theorem keeps_ask {k : Reply → Live → Blocking} (h : ∀ a s', Resumes f r q s a s' (k a s')) :
    Keeps f r (.ask q k) s :=
  fun a s' => ⟨(h a s').faults, (h a s').passes, (h a s').keeps⟩

theorem Resumes.ask {q' : Request} {k : Reply → Live → Blocking} (h : f.Withstands q s a s')
    (hk : ∀ a' s'', Resumes f r q' s' a' s'' (k a' s'')) : Resumes f r q s a s' (.ask q' k) where
  faults := by simp [settle, faulted, h]
  passes := fun l hl => by cases hl
  keeps := keeps_ask hk

theorem Resumes.ret {x : Returned} (h : f.Withstands q s a s') (hx : x.Honest) :
    Resumes f r q s a s' (.ret x) where
  faults := by simp [settle, faulted, h]
  passes := fun l hl => by cases hl
  keeps := hx

theorem Resumes.failed (h : f.Withstands q s a s') : Resumes f r q s a s' failed :=
  .ret h fun _ => rfl

theorem Resumes.fault (h : ¬ f.Withstands q s a s') : Resumes f r q s a s' .fault where
  faults := by simp [settle, faulted, h]
  passes := fun l hl => by cases hl
  keeps := trivial

end Resumes

/-! ## Up to the first request -/

/-- From a list on, a loop comes to a request or to its end, past lists that have no channel. -/
structure RunsUp (f : RosterRequest) (r : Nat) (ls : List ListId) (p : Blocking) (s : Live) : Prop where
  sound : p.settle.2.faulted = false
  passed : ∀ l ∈ p.settle.1, l ∈ ls ∧ f.concerns r s l = true ∧ s.cl.channels l = false

section RunsUp

variable {f : RosterRequest} {r : Nat} {ls : List ListId} {p : Blocking} {s s' : Live}

theorem RunsUp.ask (q : Request) (k : Reply → Live → Blocking) : RunsUp f r ls (.ask q k) s :=
  ⟨rfl, fun _ h => by cases h⟩

theorem RunsUp.ret (x : Returned) : RunsUp f r ls (.ret x) s := ⟨rfl, fun _ h => by cases h⟩

theorem RunsUp.cons {l : ListId} (h : RunsUp f r ls p s) : RunsUp f r (l :: ls) p s :=
  ⟨h.sound, fun x hx => ⟨List.mem_cons_of_mem l (h.passed x hx).1, (h.passed x hx).2⟩⟩

theorem RunsUp.note {l : ListId} (h : RunsUp f r ls p s) (hc : f.concerns r s l = true)
    (hl : s.cl.channels l = false) : RunsUp f r (l :: ls) (.note l p) s := by
  refine ⟨h.sound, fun x hx => ?_⟩
  rcases List.mem_cons.mp hx with rfl | hx
  · exact ⟨List.mem_cons_self, hc, hl⟩
  · exact h.cons.passed x hx

/-- Where a loop goes on after a call, it passes over nobody but the lists to come. -/
theorem RunsUp.next {q : Request} {a : Reply} (h : RunsUp f r ls p s') (hkeeps : Keeps f r p s')
    (hgood : f.Withstands q s a s') (hgo : f.GoesOn q a s' = true) (hls : toCome q = ls) :
    Resumes f r q s a s' p where
  faults := by simp [h.sound, hgood]
  passes := fun l hl =>
    have ⟨hmem, hc, hn⟩ := h.passed l hl
    ⟨hgo, hls ▸ hmem, hc, hn⟩
  keeps := hkeeps

end RunsUp

/-! ## The loops -/

theorem runsUp_updateFlags (r : Nat) (ls : List ListId) (error : Bool) (s : Live) :
    RunsUp .updateFlags r ls (updateFlagsProgram r ls error s) s := by
  induction ls generalizing error with
  | nil => exact .ret _
  | cons l ls ih =>
    unfold updateFlagsProgram
    dsimp only
    by_cases hl : s.cl.channels l = true
    · unfold followSlot
      rw [if_pos hl, if_pos hl]
      exact .ask _ _
    · rw [if_neg hl]
      exact (ih error).note rfl (Bool.eq_false_iff.mpr hl)

theorem keeps_updateFlags (r : Nat) {ls : List ListId} (hls : ls <:+ ListId.all) (error : Bool)
    (s : Live) : Keeps .updateFlags r (updateFlagsProgram r ls error s) s := by
  induction ls generalizing error s with
  | nil => exact fun h => (by cases h)
  | cons l ls ih =>
    have hrest : ls <:+ ListId.all := (List.suffix_cons l ls).trans hls
    unfold updateFlagsProgram
    dsimp only
    by_cases hl : s.cl.channels l = true
    · unfold followSlot
      rw [if_pos hl, if_pos hl]
      refine keeps_ask fun a s' => ?_
      by_cases hc : s'.cl.isConnected = true
      · rw [if_pos hc]
        by_cases hl' : s'.cl.channels l = true
        · rw [if_pos hl']
          refine .ask (fun _ => hl') fun b s'' => ?_
          exact (runsUp_updateFlags r ls _ s'').next (ih hrest _ s'') trivial rfl
            (ListId.after_of_suffix hls)
        · rw [if_neg hl']
          exact .fault fun h => hl' (h hc)
      · rw [if_neg hc]
        exact .failed fun h => absurd h hc
    · rw [if_neg hl]
      exact ih hrest error s

theorem runsUp_addContact (r handle : Nat) (ls : List ListId) (s : Live) :
    RunsUp .addContact r ls (addContactProgram handle ls s) s := by
  induction ls with
  | nil => exact .ret _
  | cons l ls ih =>
    unfold addContactProgram
    by_cases hm : s.pendingFlags.has (l.flag .current) = true
    · rw [if_pos hm]
      by_cases hl : s.cl.channels l = true
      · unfold followSlot
        rw [if_pos hl, if_pos hl]
        exact .ask _ _
      · rw [if_neg hl]
        exact ih.note hm (Bool.eq_false_iff.mpr hl)
    · rw [if_neg hm]
      exact ih.cons

theorem keeps_addContact (r handle : Nat) {ls : List ListId} (hls : ls <:+ ListId.all) (s : Live) :
    Keeps .addContact r (addContactProgram handle ls s) s := by
  induction ls generalizing s with
  | nil => exact fun h => (by cases h)
  | cons l ls ih =>
    have hrest : ls <:+ ListId.all := (List.suffix_cons l ls).trans hls
    have hafter := ListId.after_of_suffix hls
    unfold addContactProgram
    by_cases hm : s.pendingFlags.has (l.flag .current) = true
    · rw [if_pos hm]
      by_cases hl : s.cl.channels l = true
      · unfold followSlot
        rw [if_pos hl, if_pos hl]
        refine keeps_ask fun g s' => ?_
        by_cases hg : g.ok = true
        · rw [if_pos hg]
          by_cases hadd : g.canAdd = true
          · rw [if_pos hadd]
            by_cases hl' : s'.cl.channels l = true
            · rw [if_pos hl']
              refine .ask (fun _ _ => hl') fun m s'' => ?_
              by_cases hmok : m.ok = true
              · rw [if_pos hmok]
                exact (runsUp_addContact r handle ls s'').next (ih hrest s'') trivial hmok hafter
              · rw [if_neg hmok]
                exact .failed trivial
            · rw [if_neg hl']
              exact .fault fun h => hl' (h hg hadd)
          · rw [if_neg hadd]
            refine (runsUp_addContact r handle ls s').next (ih hrest s') (fun _ h => absurd h hadd)
              ?_ hafter
            simp [RosterRequest.GoesOn, hg, hadd]
        · rw [if_neg hg]
          exact .failed fun h => absurd h hg
      · rw [if_neg hl]
        exact ih hrest s
    · rw [if_neg hm]
      exact ih hrest s

theorem runsUp_removeContact (r handle : Nat) (ls : List ListId) (s : Live) :
    RunsUp .removeContact r ls (removeContactProgram r handle ls s) s := by
  induction ls with
  | nil => exact .ret _
  | cons l ls ih =>
    unfold removeContactProgram
    by_cases hm : (s.cl.contacts r).flags.has l.allFlags = true
    · rw [if_pos hm]
      by_cases hl : s.cl.channels l = true
      · unfold followSlot
        rw [if_pos hl, if_pos hl]
        split
        · exact .ask _ _
        · exact .ret _
      · rw [if_neg hl]
        exact ih.note hm (Bool.eq_false_iff.mpr hl)
    · rw [if_neg hm]
      exact ih.cons

theorem keeps_removeContact (r handle : Nat) {ls : List ListId} (hls : ls <:+ ListId.all)
    (s : Live) : Keeps .removeContact r (removeContactProgram r handle ls s) s := by
  induction ls generalizing s with
  | nil => exact fun h => (by cases h)
  | cons l ls ih =>
    have hrest : ls <:+ ListId.all := (List.suffix_cons l ls).trans hls
    have hafter := ListId.after_of_suffix hls
    unfold removeContactProgram
    by_cases hm : (s.cl.contacts r).flags.has l.allFlags = true
    · -- lists the contact is not on, and lists without a channel, are passed over
      rw [if_pos hm]
      by_cases hl : s.cl.channels l = true
      · rw [if_pos hl]
        by_cases hconn : s.cl.isConnected = true
        · unfold followSlot
          rw [if_pos hconn, if_pos hl]
          refine keeps_ask fun g s' => ?_
          by_cases hg : (g.ok && s'.cl.isConnected) = true
          · rw [if_pos hg]
            rw [Bool.and_eq_true] at hg
            by_cases hremove : g.canRemove = true
            · rw [if_pos hremove]
              by_cases hl' : s'.cl.channels l = true
              · rw [if_pos hl']
                refine .ask (fun _ _ _ => hl') fun m s'' => ?_
                by_cases hmok : m.ok = true
                · rw [if_pos hmok]
                  exact (runsUp_removeContact r handle ls s'').next (ih hrest s'') trivial hmok
                    hafter
                · rw [if_neg hmok]
                  exact .failed trivial
              · rw [if_neg hl']
                exact .fault fun h => hl' (h hg.1 hg.2 hremove)
            · rw [if_neg hremove]
              -- a channel that nobody can be removed from is passed over too
              refine (runsUp_removeContact r handle ls s').next (ih hrest s')
                (fun _ _ h => absurd h hremove) ?_ hafter
              simp [RosterRequest.GoesOn, hg, hremove]
          · rw [if_neg hg]
            rw [Bool.and_eq_true, not_and] at hg
            exact .failed fun h1 h2 => absurd h2 (hg h1)
        · rw [if_neg hconn]
          exact keeps_failed _ _ _
      · rw [if_neg hl]
        exact ih hrest s
    · rw [if_neg hm]
      exact ih hrest s

/-! ## The functions -/

namespace RosterRequest

theorem keeps_body (f : RosterRequest) (r : Nat) (c : Contact) {s : Live}
    (hc : s.cl.isConnected = true) : Keeps f r (f.body r c s) s := by
  cases f with
  | updateFlags => exact keeps_updateFlags r (List.suffix_refl _) false s
  | addContact =>
    unfold body followConn
    dsimp only
    rw [if_pos hc]
    refine keeps_ask fun h s' => ?_
    -- the handle is asked for first; the loop over the lists follows if it came
    by_cases hh : (h.ok && s'.cl.isConnected) = true
    · rw [if_pos hh]
      rw [Bool.and_eq_true] at hh
      rw [if_pos hh.2]
      refine .ask trivial fun n s'' => ?_
      by_cases hn : n.ok = true
      · rw [if_pos hn]
        exact (runsUp_addContact r h.handle ListId.all s'').next
          (keeps_addContact r h.handle (List.suffix_refl _) s'') trivial hn rfl
      · rw [if_neg hn]
        exact .failed trivial
    · rw [if_neg hh]
      exact .failed trivial
  | removeContact => exact keeps_removeContact r _ (List.suffix_refl _) s
  | unblockContact =>
    unfold body followCopy
    dsimp only
    by_cases hl : s.cl.channels .deny = true
    · rw [if_pos hl, if_pos rfl]
      refine keeps_ask fun g s' => ?_
      by_cases hg : (g.ok && s'.cl.isConnected) = true
      · rw [if_pos hg]
        rw [Bool.and_eq_true] at hg
        by_cases hremove : g.canRemove = true
        · rw [if_pos hremove]
          by_cases hf : s'.freed = s.freed
          · rw [if_pos hf]
            refine .ask (fun _ _ _ => hf) fun m s'' => .ret trivial fun hm => ?_
            exact congrArg (!·) hm
          · -- the copy of the slot points to a channel list that has been freed
            rw [if_neg hf]
            exact .fault fun h => hf (h hg.1 hg.2 hremove)
        · rw [if_neg hremove]
          exact .ret (fun _ _ h => absurd h hremove) fun h => (by cases h)
      · rw [if_neg hg]
        rw [Bool.and_eq_true, not_and] at hg
        exact .failed fun h1 h2 => absurd h2 (hg h1)
    · rw [if_neg hl]
      exact fun h => (by cases h)

/-- The functions as a machine that takes the answers of the nested calls. -/
def machine : Machine (Process Request Reply Live ListId Returned) Answer :=
  Process.machine Live.after Answer.reply

/-- What the function reads when it is called for the contact. -/
def reads (cl : Cl) (c : Contact) : Live := { cl := cl, pendingFlags := c.pendingFlags }

/-- The function is called. -/
def enter (f : RosterRequest) (cl : Cl) (c : Contact) :
    Process Request Reply Live ListId Returned :=
  .start (reads cl c) (f.program c (reads cl c))

/--
The condition on a nested call: what the function follows next is there, and of the lists
still to come no channel is gone that was there when the function was called.
-/
def Endures (f : RosterRequest) (cl : Cl) (c : Contact)
    (p : Process Request Reply Live ListId Returned) (i : Answer) : Prop :=
  p.Awaits (fun q s i => f.Withstands q s i.reply (s.after i)
    ∧ ∀ l, f.Passes ((f.rosterContact cl c).getD 0) q i.reply (s.after i) l →
      cl.channels l = false) i

/-- A function that is called comes to its first request, past lists that have no channel. -/
theorem enter_keeps (f : RosterRequest) (cl : Cl) (c : Contact) :
    Keeps f ((f.rosterContact cl c).getD 0) (f.enter cl c).program (f.enter cl c).state
      ∧ (f.enter cl c).program.faulted = false
      ∧ ∀ l ∈ (f.enter cl c).notes, cl.channels l = false := by
  have hprog : Keeps f ((f.rosterContact cl c).getD 0) (f.program c (reads cl c)) (reads cl c)
      ∧ ∃ ls, RunsUp f ((f.rosterContact cl c).getD 0) ls (f.program c (reads cl c))
          (reads cl c) := by
    unfold program
    by_cases hc : (reads cl c).cl.isConnected = true
    · rw [if_pos hc]
      cases hr : f.rosterContact (reads cl c).cl c with
      | none => exact ⟨keeps_failed _ _ _, [], .ret _⟩
      | some r =>
        have hr' : (f.rosterContact cl c).getD 0 = r := congrArg (Option.getD · 0) hr
        rw [hr']
        refine ⟨keeps_body f r c hc, ListId.all, ?_⟩
        cases f with
        | updateFlags => exact runsUp_updateFlags r _ _ _
        | addContact =>
          unfold body followConn
          dsimp only
          rw [if_pos hc]
          exact .ask _ _
        | removeContact => exact runsUp_removeContact r _ _ _
        | unblockContact =>
          unfold body followCopy
          dsimp only
          rw [if_pos rfl]
          split
          · exact .ask _ _
          · exact .ret _
    · rw [if_neg hc]
      exact ⟨keeps_failed _ _ _, [], .ret _⟩
  obtain ⟨hkeeps, ls, hup⟩ := hprog
  exact ⟨hkeeps.settle, hup.sound, fun l hl => (hup.passed l hl).2.2⟩

/--
**The blocking requests survive the reconnections that they endure.**

As long as every nested call meets the condition, no function follows a pointer that is not
there, none passes over a list that had a channel when it was called, and where one returns
`FALSE` it has set an error. And at the next call it faults exactly if what it has to
withstand is not so.
-/
theorem requests_survive {f : RosterRequest} {cl : Cl} {c : Contact} {as : List Answer}
    {p : Process Request Reply Live ListId Returned}
    (h : machine.Guarded (f.Endures cl c) (f.enter cl c) as p) :
    p.program.faulted = false ∧ (∀ l ∈ p.notes, cl.channels l = false)
      ∧ (∀ x, p.program = .ret x → x.Honest)
      ∧ ∀ a p', machine.step p a = some p' →
          (p'.program.faulted = true ↔
            ¬ p.Awaits (fun q s a => f.Withstands q s a.reply (s.after a)) a) := by
  obtain ⟨hkeeps, hsound, hnotes⟩ := enter_keeps f cl c
  obtain ⟨hobeys, hsound', hnotes'⟩ := Process.Guarded.obeys h hkeeps hsound hnotes
  refine ⟨hsound', hnotes', fun x hx => ?_, fun a p' hs => (Process.step_obeys hobeys hs).2.1⟩
  rw [hx] at hobeys
  exact hobeys

/-! ## Runs -/

instance {P : ListId → Prop} [DecidablePred P] : Decidable (∀ l, P l) :=
  decidable_of_iff (∀ l ∈ ListId.all, P l)
    ⟨fun h l => h l (ListId.mem_all l), fun h l _ => h l⟩

instance (f : RosterRequest) (r : Nat) (q : Request) (a : Reply) (s' : Live) :
    DecidablePred (f.Passes r q a s') :=
  fun _ => inferInstanceAs (Decidable (_ ∧ _ ∧ _ ∧ _))

instance (s : Live) (a : Reply) (s' : Live) :
    ∀ (f : RosterRequest) (q : Request), Decidable (f.Withstands q s a s')
  | updateFlags, .addMembers _ _ => inferInstanceAs (Decidable (_ → _))
  | addContact, .getGroupFlags _ => inferInstanceAs (Decidable (_ → _ → _))
  | removeContact, .getGroupFlags _ => inferInstanceAs (Decidable (_ → _ → _ → _))
  | unblockContact, .getGroupFlags _ => inferInstanceAs (Decidable (_ → _ → _ → _))
  | updateFlags, .getGroupFlags _ | addContact, .addMembers _ _ | removeContact, .addMembers _ _
  | unblockContact, .addMembers _ _ => .isTrue trivial
  | updateFlags, .requestHandles _ | addContact, .requestHandles _ | removeContact, .requestHandles _
  | unblockContact, .requestHandles _ => .isTrue trivial
  | updateFlags, .inspectHandles _ | addContact, .inspectHandles _ | removeContact, .inspectHandles _
  | unblockContact, .inspectHandles _ => .isTrue trivial
  | updateFlags, .removeMembers _ _ | addContact, .removeMembers _ _
  | removeContact, .removeMembers _ _ | unblockContact, .removeMembers _ _ => .isTrue trivial

instance (f : RosterRequest) (cl : Cl) (c : Contact) (i : Answer) :
    DecidablePred (f.Endures cl c · i)
  | ⟨_, .ask _ _, _⟩ => inferInstanceAs (Decidable (_ ∧ ∀ _, _ → _))
  | ⟨_, .ret _, _⟩ | ⟨_, .fault, _⟩ | ⟨_, .note _ _, _⟩ => .isTrue trivial

/-- The account is online, with all its lists, and blocks a contact. -/
def blocking : Cl :=
  let events := .connectionStatusChanged (some 1) :: List.replicate 16 (.done 0 true)
    ++ [.membersChanged .deny [7] [] [] []]
  (Live.after { cl := {} } { events := events }).cl

/-- The contact as the address book has it; it is to be unblocked and subscribed to. -/
def blocked : Contact :=
  { name := some "bob", handle := 7, flags := deny, pendingFlags := subscribe ||| scheduleUnblock }

/-- The account goes offline while `run_remove_contact` waits, which then fails. -/
theorem requests_survive_disconnect :
    ∃ as p, machine.Guarded (removeContact.Endures blocking blocked)
        (removeContact.enter blocking blocked) as p
      ∧ p.program.faulted = false ∧ (∀ l ∈ p.notes, blocking.channels l = false)
      ∧ (∀ x, p.program = .ret x → x.Honest) := by
  have hrun : (machine.runChecked (fun p i => decide (removeContact.Endures blocking blocked p i))
      (removeContact.enter blocking blocked)
      [{ events := [.connectionStatusChanged none] }]).isSome = true := by decide +kernel
  obtain ⟨p, hp⟩ := Option.isSome_iff_exists.mp hrun
  have hg : machine.Guarded (removeContact.Endures blocking blocked) _ _ p :=
    Machine.guarded_of_runChecked (fun _ _ hc => of_decide_eq_true hc) hp
  obtain ⟨h1, h2, h3, -⟩ := requests_survive hg
  exact ⟨_, p, hg, h1, h2, h3⟩

/--
Each of the functions follows a pointer that is not there, if the account reconnects while
it waits, or, for `run_add_contact`, disconnects.
-/
theorem crashes (f : RosterRequest) :
    ∃ as p, machine.run (f.enter blocking blocked) as = some p ∧ p.program.faulted = true := by
  have hfault : ∀ as, (machine.run (f.enter blocking blocked) as).map
      (fun p => p.program.faulted) = some true →
      ∃ as p, machine.run (f.enter blocking blocked) as = some p ∧ p.program.faulted = true := by
    intro as has
    obtain ⟨p, hp, hfaulted⟩ := Option.map_eq_some_iff.mp has
    exact ⟨as, p, hp, hfaulted⟩
  cases f with
  | addContact =>
    refine hfault [{ reply := { handle := 9 } }, { reply := { name := some "bob" } },
      { events := [.connectionStatusChanged none] }] ?_
    decide +kernel
  | updateFlags =>
    refine hfault [{ events := [.connectionStatusChanged none, .connectionStatusChanged (some 2)] }] ?_
    decide +kernel
  | removeContact =>
    refine hfault [{ events := [.connectionStatusChanged none, .connectionStatusChanged (some 2)] }] ?_
    decide +kernel
  | unblockContact =>
    refine hfault [{ events := [.connectionStatusChanged none, .connectionStatusChanged (some 2)] }] ?_
    decide +kernel

/-- This is so for a contact that is pending on the subscribe list and on the deny list. -/
theorem requests_crash :
    (∃ as p, machine.run (addContact.enter blocking blocked) as = some p
      ∧ p.program.faulted = true)
    ∧ (∃ as p, machine.run (updateFlags.enter blocking blocked) as = some p
      ∧ p.program.faulted = true)
    ∧ (∃ as p, machine.run (removeContact.enter blocking blocked) as = some p
      ∧ p.program.faulted = true)
    ∧ ∃ as p, machine.run (unblockContact.enter blocking blocked) as = some p
      ∧ p.program.faulted = true :=
  ⟨crashes .addContact, crashes .updateFlags, crashes .removeContact, crashes .unblockContact⟩

end RosterRequest

end Cl

end EdsTelepathy
