import EdsTelepathy.Lib.Run

/-!
# Programs that wait

A program makes requests and waits for each answer. While it waits, the state it reads and
the things it points to move on without it, so what follows a request is a function of the
answer and of the state at that time. A program can end with a value, and it can *fault*: it
uses something that is no longer there.

Where it comes by something that it leaves out, it takes a note of that. `Obeys` collects,
for every request of a program, what decides whether the program faults on the answer, and
what it may take note of before the next request. A run in which every answer is a good one
then has no fault, whatever happens to the state meanwhile.
-/

universe u

/-- A program with requests `ρ`, answers `α`, notes `ν` and results `β`, over a state `σ`. -/
inductive Program (ρ α σ ν β : Type u) where
  | ret (b : β)
  | fault
  | note (x : ν) (p : Program ρ α σ ν β)
  | ask (r : ρ) (k : α → σ → Program ρ α σ ν β)

namespace Program

variable {ρ α σ ν β : Type u}

/-- Run up to the next request, with the notes taken. -/
def settle : Program ρ α σ ν β → List ν × Program ρ α σ ν β
  | note x p => (x :: p.settle.1, p.settle.2)
  | p => ([], p)

/-- Whether the program has faulted. -/
def faulted : Program ρ α σ ν β → Bool
  | fault => true
  | _ => false

/--
What the program does between two requests. `Good` says which answers it can take, `Notes`
what it may take note of on the way to the next request, and `Result` what it may return.
-/
def Obeys (Good : ρ → σ → α → σ → Prop) (Notes : ρ → α → σ → ν → Prop) (Result : β → Prop) :
    Program ρ α σ ν β → σ → Prop
  | ret b, _ => Result b
  | fault, _ => True
  | note _ p, s => p.Obeys Good Notes Result s
  | ask r k, s => ∀ a s', ((k a s').settle.2.faulted = true ↔ ¬ Good r s a s')
      ∧ (∀ x ∈ (k a s').settle.1, Notes r a s' x) ∧ (k a s').Obeys Good Notes Result s'

variable {Good : ρ → σ → α → σ → Prop} {Notes : ρ → α → σ → ν → Prop} {Result : β → Prop}

/-- The notes do not matter to what comes after them. -/
theorem Obeys.settle {p : Program ρ α σ ν β} {s : σ} (h : p.Obeys Good Notes Result s) :
    p.settle.2.Obeys Good Notes Result s := by
  induction p with
  | note x p ih => exact ih h
  | ret b => exact h
  | fault => trivial
  | ask r k => exact h

end Program

/-- A program at a request, or at its end, with the state and the notes taken so far. -/
structure Process (ρ α σ ν β : Type u) where
  state : σ
  program : Program ρ α σ ν β
  notes : List ν := []

namespace Process

variable {ρ α σ ν β ι : Type u}

/-- A program that has run up to its first request. -/
def start (s : σ) (p : Program ρ α σ ν β) : Process ρ α σ ν β :=
  { state := s, program := p.settle.2, notes := p.settle.1 }

/-- The machine of waiting programs: an input moves the state on and answers the request. -/
def machine (advance : σ → ι → σ) (answer : ι → α) : Machine (Process ρ α σ ν β) ι where
  step p i :=
    match p.program with
    | .ask _ k =>
      let q := start (advance p.state i) (k (answer i) (advance p.state i))
      some { q with notes := p.notes ++ q.notes }
    | _ => none

/-- The condition on the request that the process waits for, and on what happens to it. -/
def Awaits (P : ρ → σ → ι → Prop) (p : Process ρ α σ ν β) (i : ι) : Prop :=
  match p.program with
  | .ask r _ => P r p.state i
  | _ => True

variable {advance : σ → ι → σ} {answer : ι → α} {Good : ρ → σ → α → σ → Prop}
  {Notes : ρ → α → σ → ν → Prop} {Result : β → Prop}

/-- A step starts the continuation of the request, in the state as it is then. -/
theorem step_eq_some {p p' : Process ρ α σ ν β} {i : ι}
    (h : (machine advance answer).step p i = some p') :
    ∃ r k, p.program = .ask r k ∧ p'.state = advance p.state i
      ∧ p'.program = (k (answer i) (advance p.state i)).settle.2
      ∧ p'.notes = p.notes ++ (k (answer i) (advance p.state i)).settle.1 := by
  obtain ⟨s, prog, notes⟩ := p
  cases prog with
  | ask r k =>
    cases h
    exact ⟨r, k, rfl, rfl, rfl, rfl⟩
  | ret b => cases h
  | fault => cases h
  | note x q => cases h

/-- A program that obeys goes on obeying, and faults on the answers that are not good. -/
theorem step_obeys {p p' : Process ρ α σ ν β} {i : ι}
    (hp : p.program.Obeys Good Notes Result p.state)
    (h : (machine advance answer).step p i = some p') :
    p'.program.Obeys Good Notes Result p'.state
      ∧ (p'.program.faulted = true ↔
          ¬ p.Awaits (fun r s i => Good r s (answer i) (advance s i)) i)
      ∧ ∀ x ∈ p'.notes, x ∈ p.notes ∨ ∃ r k, p.program = .ask r k
          ∧ Notes r (answer i) (advance p.state i) x := by
  obtain ⟨r, k, hask, hstate, hprog, hnotes⟩ := step_eq_some h
  rw [hask] at hp
  obtain ⟨hfault, hnote, hrest⟩ := hp (answer i) (advance p.state i)
  refine ⟨?_, ?_, ?_⟩
  · rw [hprog, hstate]
    exact hrest.settle
  · unfold Awaits
    rw [hprog, hask]
    exact hfault
  · intro x hx
    rw [hnotes] at hx
    rcases List.mem_append.mp hx with hx | hx
    · exact .inl hx
    · exact .inr ⟨r, k, hask, hnote x hx⟩

/--
**A program whose answers are all good does not fault**, returns what it may, and takes note
only of what the condition on the answers allows.
-/
theorem Guarded.obeys {Allowed : ν → Prop} {p p' : Process ρ α σ ν β} {is : List ι}
    (h : (machine advance answer).Guarded
      (Awaits fun r s i => Good r s (answer i) (advance s i)
        ∧ ∀ x, Notes r (answer i) (advance s i) x → Allowed x) p is p')
    (hp : p.program.Obeys Good Notes Result p.state) (hfault : p.program.faulted = false)
    (hnotes : ∀ x ∈ p.notes, Allowed x) :
    p'.program.Obeys Good Notes Result p'.state ∧ p'.program.faulted = false
      ∧ ∀ x ∈ p'.notes, Allowed x := by
  refine h.inv (I := fun p : Process ρ α σ ν β => p.program.Obeys Good Notes Result p.state
      ∧ p.program.faulted = false ∧ ∀ x ∈ p.notes, Allowed x)
    (fun q i q' hq hok hs => ?_) ⟨hp, hfault, hnotes⟩
  obtain ⟨hobeys, hiff, hnew⟩ := step_obeys hq.1 hs
  obtain ⟨r, k, hask, -, -, -⟩ := step_eq_some hs
  unfold Awaits at hok
  rw [hask] at hok
  refine ⟨hobeys, ?_, fun x hx => ?_⟩
  · rw [Bool.eq_false_iff]
    intro hbad
    refine hiff.mp hbad ?_
    unfold Awaits
    rw [hask]
    exact hok.1
  · rcases hnew x hx with hold | ⟨r', k', hask', hx'⟩
    · exact hq.2.2 x hold
    · rw [hask] at hask'
      cases hask'
      exact hok.2 x hx'

end Process
