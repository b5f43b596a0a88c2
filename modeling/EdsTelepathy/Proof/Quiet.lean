import EdsTelepathy.Lib.Worklist
import EdsTelepathy.Proof.Due
import EdsTelepathy.Proof.Rest

/-!
# A replay that is left alone

Phase 3 works off three queues. If nothing else runs between its requests, then it asks for every
contact that waits in one of them once, and for nobody else, and whoever still waits afterwards was
refused. Only the queue of updates stays as it is: its contacts are asked for again by every replay.
-/

namespace EdsTelepathy

open Worklist

namespace Phase3Stage

/-- The order in which the loops of phase 3 come. -/
def rank : Phase3Stage → Nat
  | update => 0
  | add => 1
  | delete => 2

theorem rank_injective : Function.Injective rank := by
  intro s s' h
  cases s <;> cases s' <;> first | rfl | cases h

theorem rank_delete_last (s : Phase3Stage) : rank s ≤ rank delete := by cases s <;> decide

/-- Whether the loop takes contacts out of its table. -/
def clears : Phase3Stage → Bool
  | update => false
  | _ => true

end Phase3Stage

namespace Backend

/-- Whether the request of this stage for the contact is answered with success. -/
def answered (b : Backend) : Phase3Stage → Nat → Bool
  | .update, _ => true
  | .add, r => (b.runAddContact (b.book.contacts r)).1
  | .delete, r => (b.tpcl.runRemoveContact (b.book.contacts r) b.wire).1

/-- What phase 3 attempts in an event, unless it has to take a snapshot first. -/
def attempt (b : Backend) : Event → Option (Attempt Phase3Stage Nat)
  | .phase3Next _ =>
    match b.phase3 with
    | [] => none
    | p :: _ => p.todo.head?.map fun r => { stage := p.stage, task := r, ok := b.answered p.stage r }
  | _ => none

/-- What phase 3 attempts in a run. -/
def attempts : Backend → List Input → List (Attempt Phase3Stage Nat)
  | _, [] => []
  | b, i :: is => ((b.load i.env).attempt i.event).toList ++ ((b.step i).map (attempts · is)).getD []

/-- The round that phase 3 makes. -/
def roundOf (b : Backend) (p : Phase3) (log : List (Attempt Phase3Stage Nat)) :
    Round Phase3Stage String Nat :=
  { stage := p.stage, todo := p.todo, queue := workTable b.book, log := log }

/-- What a piece of phase 3 does to the tables. -/
theorem workTable_phase3 {b : Backend} {p : Phase3} {r : Nat} {todo : List Nat} (htodo : p.todo = r :: todo)
    {key : Nat → String} (hkey : key r = (b.book.contacts r).uid)
    (hproper : AllAlong Book.apply (fun book ed => ed.Proper book) b.book (b.phase3Edits p)) :
    workTable ((b.phase3Edits p).foldl Book.apply b.book) = settle key Phase3Stage.clears
      (workTable b.book) { stage := p.stage, task := r, ok := b.answered p.stage r } := by
  unfold phase3Edits at hproper ⊢
  rw [htodo] at hproper ⊢
  cases hstage : p.stage with
  | update =>
    rw [hstage] at hproper
    funext s
    rw [settle_done rfl, if_neg (by rintro ⟨rfl, hc⟩; cases hc)]
    exact Book.workTable_apply hproper.1 id s
  | add =>
    rw [hstage] at hproper
    dsimp only at hproper ⊢
    rcases heq : b.runAddContact (b.book.contacts r) with ⟨_ | _, c, w⟩
    · rw [heq] at hproper
      rw [settle_failed (congrArg Prod.fst heq)]
      funext s
      exact Book.workTable_apply hproper.1 id s
    · rw [heq] at hproper
      funext s
      rw [settle_done (congrArg Prod.fst heq), hkey]
      refine (Book.workTable_apply hproper.1 id s).trans ?_
      cases s <;> rfl
  | delete =>
    rw [hstage] at hproper
    dsimp only at hproper ⊢
    rcases heq : b.tpcl.runRemoveContact (b.book.contacts r) b.wire with ⟨_ | _, w⟩
    · rw [settle_failed (congrArg Prod.fst heq)]
      rfl
    · rw [heq] at hproper
      funext s
      rw [settle_done (congrArg Prod.fst heq), hkey]
      refine (Book.workTable_apply hproper.1 id s).trans ?_
      cases s <;> rfl

theorem attempt_next {b : Backend} {p : Phase3} {rest : List Phase3} (hp : b.phase3 = p :: rest) {r : Nat}
    {todo : List Nat} (htodo : p.todo = r :: todo) (order : List Nat) :
    b.attempt (.phase3Next order) = some { stage := p.stage, task := r, ok := b.answered p.stage r } := by
  unfold attempt
  dsimp only
  rw [hp]
  dsimp only
  rw [htodo]
  rfl

theorem attempt_none {b : Backend} {p : Phase3} {rest : List Phase3} (hp : b.phase3 = p :: rest)
    (htodo : p.todo = []) (order : List Nat) : b.attempt (.phase3Next order) = none := by
  unfold attempt
  dsimp only
  rw [hp]
  dsimp only
  rw [htodo]
  rfl

/-- **The pieces of phase 3 are the moves of a round**, as long as it goes on. -/
theorem phase3Next_move {b b' : Backend} {p p' : Phase3} {rest : List Phase3} {order : List Nat}
    (hsane : Sane b) (hp : b.phase3 = p :: rest) (hp' : b'.phase3 = p' :: rest)
    (hs : b.take (.phase3Next order) = some b') {key : Nat → String}
    (hkey : ∀ r ∈ p.todo, key r = (b.book.contacts r).uid) (log : List (Attempt Phase3Stage Nat)) :
    Move key Phase3Stage.clears Phase3Stage.rank (b.roundOf p log)
      (b'.roundOf p' (log ++ (b.attempt (.phase3Next order)).toList)) := by
  have hbook := take_book hs
  have hproper := edits_proper hsane.plain (.phase3Next order)
  have hedits : b.edits (.phase3Next order) = b.phase3Edits p := by
    unfold edits
    dsimp only
    rw [hp]
  rw [hedits] at hbook hproper
  cases take_taken hs with
  | @phase3Next _ q rest' _ hq hstep =>
    obtain ⟨rfl, rfl⟩ := List.cons.inj (hp.symm.trans hq)
    have hdealt : ∀ {r : Nat} {todo us : List Nat} {b₁ : Backend}, p.todo = r :: todo →
        DataOnly { b with phase3 := rest } b₁ →
        b' = b₁.continuePhase3 { p with todo := todo, contactsToUpdateInDb := us } →
        Move key Phase3Stage.clears Phase3Stage.rank (b.roundOf p log)
          (b'.roundOf p' (log ++ (b.attempt (.phase3Next order)).toList)) := by
      intro r todo us b₁ htodo hdata heq
      have hphase : b'.phase3 = { p with todo := todo, contactsToUpdateInDb := us } :: rest := by
        rw [heq]
        obtain ⟨_, _, _, _, rfl⟩ := hdata
        rfl
      obtain ⟨rfl, -⟩ := List.cons.inj (hp'.symm.trans hphase)
      have htables := workTable_phase3 htodo (hkey r (by rw [htodo]; exact List.mem_cons_self)) hproper
      rw [← hbook] at htables
      rw [attempt_next hp htodo]
      unfold roundOf
      rw [htodo, htables]
      exact Move.attempt (a := { stage := p.stage, task := r, ok := b.answered p.stage r })
    have hcopied : ∀ {stage : Phase3Stage}, p.todo = [] → stage.rank = p.stage.rank + 1 →
        order.isPerm (Table.values (workTable b.book stage)) = true →
        b' = { b with phase3 := rest }.continuePhase3 { p with stage := stage, todo := order } →
        Move key Phase3Stage.clears Phase3Stage.rank (b.roundOf p log)
          (b'.roundOf p' (log ++ (b.attempt (.phase3Next order)).toList)) := by
      intro stage htodo hrank hperm heq
      have hphase : b'.phase3 = { p with stage := stage, todo := order } :: rest := by rw [heq]; rfl
      obtain ⟨rfl, -⟩ := List.cons.inj (hp'.symm.trans hphase)
      have htables : workTable b'.book = workTable b.book := by rw [heq]; rfl
      rw [attempt_none hp htodo]
      unfold roundOf
      rw [htodo, htables]
      simp only [Option.toList_none, List.append_nil]
      exact .snapshot hrank (List.isPerm_iff.mp hperm)
    unfold stepPhase3 at hstep
    split at hstep
    · rename_i r todo hstage htodo
      obtain ⟨b₁, us, hdata, heq⟩ := phase3Update_next { b with phase3 := rest } p r todo
      exact hdealt htodo hdata ((Option.some.inj hstep).symm.trans heq)
    · rename_i hstage htodo
      split at hstep
      · rename_i hperm
        exact hcopied htodo (by rw [hstage]; rfl) hperm (Option.some.inj hstep).symm
      · cases hstep
    · rename_i r todo hstage htodo
      obtain ⟨b₁, us, hdata, heq⟩ := phase3Add_next { b with phase3 := rest } p r todo
      exact hdealt htodo hdata ((Option.some.inj hstep).symm.trans heq)
    · rename_i hstage htodo
      split at hstep
      · rename_i hperm
        exact hcopied htodo (by rw [hstage]; rfl) hperm (Option.some.inj hstep).symm
      · cases hstep
    · rename_i r todo hstage htodo
      obtain ⟨b₁, us, hdata, heq⟩ := phase3Delete_next { b with phase3 := rest } p r todo
      exact hdealt htodo hdata ((Option.some.inj hstep).symm.trans heq)
    · -- the end of phase 3 is no move
      obtain ⟨out, heq⟩ := endPhase3_eq { b with phase3 := rest } p
      have hphase := phase3_finish { { b with phase3 := rest } with out := out }
      rw [← heq, Option.some.inj hstep, hp'] at hphase
      exact absurd hphase (List.cons_ne_self p' rest)

/-- Nothing but the running phase 3. -/
def Quiet (is : List Input) : Prop := ∀ i ∈ is, ∃ order, i.event = .phase3Next order

/-- Left alone, phase 3 goes on with what it has, or ends; the one it interrupted waits. -/
theorem phase3_next {b b' : Backend} {p : Phase3} {rest : List Phase3} {order : List Nat}
    (hp : b.phase3 = p :: rest) (hs : b.take (.phase3Next order) = some b') :
    b'.phase3 = rest ∨ ∃ p', b'.phase3 = p' :: rest := by
  cases take_taken hs with
  | @phase3Next _ q rest' _ hq hstep =>
    obtain ⟨rfl, rfl⟩ := List.cons.inj (hp.symm.trans hq)
    obtain ⟨ps, hadv, heq, -⟩ := advances_stepPhase3 hstep
    cases hadv with
    | next _ _ => exact .inr ⟨_, heq⟩
    | snapshot _ _ => exact .inr ⟨_, heq⟩
    | ended _ => exact .inl heq

/-- Phase 3 allocates no contact. -/
theorem next_phase3Next {b b' : Backend} {order : List Nat} (hs : b.take (.phase3Next order) = some b') :
    b'.book.next = b.book.next := by
  rw [take_book hs]
  cases take_taken hs with
  | @phase3Next _ p rest _ hp _ =>
    have hedits : b.edits (.phase3Next order) = b.phase3Edits p := by
      unfold edits
      dsimp only
      rw [hp]
    rw [hedits]
    refine AllAlong.foldl_inv (I := fun book : Book => book.next = b.book.next)
      (P := fun _ ed => ed ∈ b.phase3Edits p) ?_ (allAlong_of_forall (fun ed hed _ => hed) _) rfl
    intro book ed hI hed
    obtain ⟨r, todo, -, ⟨-, rfl⟩ | ⟨-, c, rfl | rfl⟩ | ⟨-, rfl⟩⟩ := mem_phase3Edits hed
    · exact hI
    · exact (Book.next_addDone book r c).trans hI
    · exact hI
    · exact hI

theorem length_phase3_quiet {b b' : Backend} {is : List Input} (hquiet : Quiet is)
    (hrun : machine.run b is = some b') : b'.phase3.length ≤ b.phase3.length := by
  induction is generalizing b with
  | nil =>
    cases hrun
    exact Nat.le_refl _
  | cons i is ih =>
    obtain ⟨b₁, hs, hrest⟩ := Option.bind_eq_some_iff.mp hrun
    obtain ⟨order, he⟩ := hquiet i List.mem_cons_self
    have htail := ih (fun j hj => hquiet j (List.mem_cons_of_mem i hj)) hrest
    have htake : (b.load i.env).take (.phase3Next order) = some b₁ := by
      rw [← he]
      exact hs
    cases hb : b.phase3 with
    | nil =>
      cases take_taken htake with
      | phase3Next hq _ =>
        have hnil : (b.load i.env).phase3 = [] := hb
        rw [hnil] at hq
        cases hq
    | cons p rest =>
      have hone : b₁.phase3.length ≤ (p :: rest).length := by
        rcases phase3_next (b := b.load i.env) hb htake with h | ⟨p', h⟩
        · rw [h, List.length_cons]
          exact Nat.le_succ _
        · rw [h, List.length_cons, List.length_cons]
      exact Nat.le_trans htail hone

/-- **The run lemma**: left alone, phase 3 makes a round. -/
theorem quiet_round {b b' : Backend} {p p' : Phase3} {rest : List Phase3} {is : List Input}
    (hsane : Sane b) (hquiet : Quiet is) (hrun : machine.run b is = some b') (hp : b.phase3 = p :: rest)
    (hp' : b'.phase3 = p' :: rest) (key : Nat → String)
    (hkey : ∀ r < b.book.next, key r = (b.book.contacts r).uid) (log : List (Attempt Phase3Stage Nat)) :
    Relation.ReflTransGen (Move key Phase3Stage.clears Phase3Stage.rank) (b.roundOf p log)
      (b'.roundOf p' (log ++ b.attempts is)) := by
  induction is generalizing b p log with
  | nil =>
    cases hrun
    obtain ⟨rfl, -⟩ := List.cons.inj (hp.symm.trans hp')
    unfold attempts
    rw [List.append_nil]
  | cons i is ih =>
    obtain ⟨b₁, hs, hrest⟩ := Option.bind_eq_some_iff.mp hrun
    have hquiet' : Quiet is := fun j hj => hquiet j (List.mem_cons_of_mem i hj)
    obtain ⟨order, he⟩ := hquiet i List.mem_cons_self
    have htake : (b.load i.env).take (.phase3Next order) = some b₁ := by
      rw [← he]
      exact hs
    have hnext : ∃ p₁, b₁.phase3 = p₁ :: rest := by
      refine (phase3_next (b := b.load i.env) hp htake).resolve_left ?_
      intro hended
      -- a phase 3 that has ended does not come back
      have hlength := length_phase3_quiet hquiet' hrest
      rw [hended, hp', List.length_cons] at hlength
      exact absurd hlength (Nat.not_succ_le_self _)
    obtain ⟨p₁, hp₁⟩ := hnext
    have hmove := phase3Next_move (b := b.load i.env) (hsane.load i.env) hp hp₁ htake
      (fun r hr => hkey r (hsane.todo p (by rw [hp]; exact List.mem_cons_self) r hr)) log
    have hkey₁ : ∀ r < b₁.book.next, key r = (b₁.book.contacts r).uid := by
      intro r hr
      rw [next_phase3Next htake] at hr
      exact (hkey r hr).trans (becomes_take (hsane.load i.env) htake hr).uid.symm
    have htail := ih (sane_step hsane hs) hquiet' hrest hp₁ hkey₁
      (log ++ ((b.load i.env).attempt i.event).toList)
    have hattempts : b.attempts (i :: is)
        = ((b.load i.env).attempt i.event).toList ++ b₁.attempts is := by
      have hstep : b.step i = some b₁ := hs
      rw [attempts, hstep]
      rfl
    rw [hattempts, ← List.append_assoc]
    rw [← he] at hmove
    exact htail.head hmove

/--
**A replay that is left alone works off the queues**: from its start to the end of its third loop it
attempts, stage by stage, every contact that waits once, and nobody else; and whoever waits to be
added or to be removed afterwards waited before and was not answered with success. The queue of
updates is as it was.
-/
theorem replay_works_off {pathSuffix vcardField : String} {db : Db} {b b' : Backend} {i : Input}
    {order : List Nat} {is : List Input} {p : Phase3} (h : ReachableFrom pathSuffix vcardField db b)
    (hi : i.event = .phase3 order) (hquiet : Quiet is) (hrun : machine.run b (i :: is) = some b')
    (hp : b'.phase3 = p :: b.phase3) (hend : Phase3.Ended p) :
    (∀ stage, (asked (b.attempts (i :: is)) stage).Perm (Table.values (workTable b.book stage)))
      ∧ b'.book.contactsToUpdate = b.book.contactsToUpdate
      ∧ ∀ stage ≠ .update, ∀ uid r, (workTable b'.book stage).lookup uid = some r
        ↔ (workTable b.book stage).lookup uid = some r
          ∧ { stage := stage, task := r, ok := true } ∉ b.attempts (i :: is) := by
  obtain ⟨b₁, hs, hrest⟩ := Option.bind_eq_some_iff.mp hrun
  have htake : (b.load i.env).take (.phase3 order) = some b₁ := by
    rw [← hi]
    exact hs
  have hsane := sane_reachable h
  have hattempts : b.attempts (i :: is) = b₁.attempts is := by
    have hstep : b.step i = some b₁ := hs
    rw [attempts, hstep, hi]
    rfl
  have hstart : b₁.phase3 = { todo := order } :: b.phase3 ∧ b₁.book = b.book
      ∧ order.Perm (Table.values b.book.contactsToUpdate) := by
    cases take_taken htake with
    | @phase3 _ _ hperm =>
      unfold beginPhase3 at hrest ⊢
      split
      · exact ⟨rfl, rfl, hperm⟩
      · rename_i hoff
        -- offline it does not begin
        rw [if_neg hoff] at hrest
        have hlength := length_phase3_quiet hquiet hrest
        rw [phase3_finish, hp, List.length_cons] at hlength
        exact absurd hlength (Nat.not_succ_le_self _)
  obtain ⟨hphase, hbook, hperm⟩ := hstart
  have hround := quiet_round (sane_step hsane hs) hquiet hrest hphase hp
    (fun r => (b.book.contacts r).uid) (fun r _ => by rw [hbook]) []
  have hfiled : ∀ stage k r, (workTable b.book stage).lookup k = some r → (b.book.contacts r).uid = k :=
    (filed_reachable h).work
  have hfair : Fair Phase3Stage.clears Phase3Stage.rank (workTable b.book)
      (b'.roundOf p ([] ++ b₁.attempts is)) := by
    have hbegin : Fair Phase3Stage.clears Phase3Stage.rank (workTable b.book)
        (b₁.roundOf { todo := order } []) := by
      unfold roundOf
      rw [hbook]
      exact fair_start hperm fun _ => Nat.zero_le _
    generalize b'.roundOf p ([] ++ b₁.attempts is) = q at hround ⊢
    induction hround with
    | refl => exact hbegin
    | tail _ hmove ih => exact hmove.fair Phase3Stage.rank_injective hfiled ih
  rw [List.nil_append] at hfair
  rw [hattempts]
  refine ⟨?_, ?_, ?_⟩
  · refine hfair.all_asked Phase3Stage.rank_injective hend.2 ?_
    intro s
    show s.rank ≤ p.stage.rank
    rw [hend.1]
    exact Phase3Stage.rank_delete_last s
  · exact hfair.kept .update rfl
  · intro stage hne uid r
    refine (hfair.queue stage uid r).trans (and_congr_right fun _ => ?_)
    have hclears : stage.clears = true := by cases stage <;> first | rfl | exact absurd rfl hne
    exact ⟨fun hn => hn hclears, fun hn _ => hn⟩

/-- Bob is created offline, then the account comes online with Ann on the roster. -/
def bobWaits : List Input :=
  [{ event := .phase0 }, { event := creates "bob" }] ++ goOnline 1 0
    ++ [{ event := .cl (.allMembers 4 (some { current := [7] })) },
      { event := .cl (.contacts 4 (some [{ handle := 7, identifier := "ann" }])) },
      { event := .phase2 }]

/-- Phase 3 asks the server to add him. -/
def bobIsAdded : List Input :=
  [{ event := .phase3Next [0] },
    { event := .phase3Next [], env := { replies := [{ handle := 9 }, { name := some "bob" }, {}, {}] } },
    { event := .phase3Next [] }]

theorem quiet_bobIsAdded : Quiet bobIsAdded := by
  intro i hi
  simp only [bobIsAdded, List.mem_cons, List.not_mem_nil, or_false] at hi
  rcases hi with rfl | rfl | rfl
  · exact ⟨[0], rfl⟩
  · exact ⟨[], rfl⟩
  · exact ⟨[], rfl⟩

/-- One contact waits, and it is attempted. -/
theorem replay_works_off_bob :
    ∃ b b', ReachableFrom "acct" "X-JABBER" {} b
      ∧ machine.run b ({ event := .phase3 [] } :: bobIsAdded) = some b'
      ∧ Table.values (workTable b.book .add) = [0] ∧ b'.book.contactsToUpdate = b.book.contactsToUpdate
      ∧ (asked (b.attempts ({ event := .phase3 [] } :: bobIsAdded)) .add).Perm [0] := by
  have hrun : ((machine.run (boot "acct" "X-JABBER" {}) bobWaits).bind fun b =>
      (machine.run b ({ event := .phase3 [] } :: bobIsAdded)).map fun b' =>
        (Table.values (workTable b.book .add), b.phase3, b'.phase3))
      = some ([0], [], [{ stage := .delete, todo := [], contactsToUpdateInDb := [0] }]) := by decide +kernel
  obtain ⟨b, hb, hrest⟩ := Option.bind_eq_some_iff.mp hrun
  obtain ⟨b', hb', heq⟩ := Option.map_eq_some_iff.mp hrest
  simp only [Prod.mk.injEq] at heq
  obtain ⟨hadd, hphase, hphase'⟩ := heq
  have hreach : ReachableFrom "acct" "X-JABBER" {} b := ⟨_, hb⟩
  obtain ⟨hall, hupdate, -⟩ := replay_works_off (i := { event := .phase3 [] }) hreach rfl quiet_bobIsAdded hb'
    (hphase'.trans (by rw [hphase])) ⟨rfl, rfl⟩
  have hone := hall .add
  rw [hadd] at hone
  exact ⟨b, b', hreach, hb', hadd, hupdate, hone⟩

end Backend

end EdsTelepathy
