import EdsTelepathy.Lib.Table

/-!
# Working off queues in stages

Tasks wait in a queue for each stage. A round goes through the stages in order: at the start of a
stage it takes a snapshot of its queue, in any order, and attempts one task of the snapshot after
the other. A task whose attempt succeeds leaves the queue, if the stage clears its queue at all. So
a round attempts whatever waits once, and what still waits afterwards are the tasks that failed.
-/

universe u

namespace Worklist

/-- An attempt at a task, and whether it succeeded. -/
structure Attempt (ι : Type u) (ν : Type) where
  stage : ι
  task : ν
  ok : Bool
  deriving DecidableEq

/-- A round that is going on. -/
structure Round (ι : Type u) (κ ν : Type) where
  stage : ι
  /-- The rest of the snapshot. -/
  todo : List ν
  queue : ι → Table κ ν
  log : List (Attempt ι ν)

section

variable {ι : Type u} {κ ν : Type} [DecidableEq ι] [DecidableEq κ]

/-- The tasks that were attempted in a stage, in order. -/
def asked (log : List (Attempt ι ν)) (s : ι) : List ν := (log.filter fun a => a.stage = s).map Attempt.task

theorem asked_append (log : List (Attempt ι ν)) (a : Attempt ι ν) (s : ι) :
    asked (log ++ [a]) s = if a.stage = s then asked log s ++ [a.task] else asked log s := by
  unfold asked
  rw [List.filter_append, List.map_append]
  split
  · rename_i h
    simp [h]
  · rename_i h
    simp [h]

/-- The queue of the stage without the task, if it was done and the stage clears its queue. -/
def settle (key : ν → κ) (clears : ι → Bool) (queue : ι → Table κ ν) (a : Attempt ι ν) : ι → Table κ ν :=
  fun s => if s = a.stage ∧ (a.ok && clears s) = true then (queue s).erase (key a.task) else queue s

theorem settle_failed {key : ν → κ} {clears : ι → Bool} {queue : ι → Table κ ν} {a : Attempt ι ν}
    (h : a.ok = false) : settle key clears queue a = queue := by
  funext s
  unfold settle
  rw [h, if_neg fun hc => Bool.false_ne_true hc.2]

theorem settle_done {key : ν → κ} {clears : ι → Bool} {queue : ι → Table κ ν} {a : Attempt ι ν}
    (h : a.ok = true) (s : ι) : settle key clears queue a s
      = if s = a.stage ∧ clears s = true then (queue s).erase (key a.task) else queue s := by
  unfold settle
  rw [h, Bool.true_and]

/-- What a round does next. -/
inductive Move (key : ν → κ) (clears : ι → Bool) (rank : ι → Nat) : Round ι κ ν → Round ι κ ν → Prop where
  /-- The first task of the snapshot is attempted. -/
  | attempt {a : Attempt ι ν} {todo : List ν} {queue : ι → Table κ ν} {log : List (Attempt ι ν)} :
      Move key clears rank { stage := a.stage, todo := a.task :: todo, queue := queue, log := log }
        { stage := a.stage, todo := todo, queue := settle key clears queue a, log := log ++ [a] }
  /-- The snapshot is done, and the one of the next stage is taken. -/
  | snapshot {s s' : ι} {todo : List ν} {queue : ι → Table κ ν} {log : List (Attempt ι ν)} :
      rank s' = rank s + 1 → todo.Perm (Table.values (queue s')) →
      Move key clears rank { stage := s, todo := [], queue := queue, log := log }
        { stage := s', todo := todo, queue := queue, log := log }

/-- The round has attempted what waited when it began, as far as it has come. -/
structure Fair (clears : ι → Bool) (rank : ι → Nat) (start : ι → Table κ ν) (r : Round ι κ ν) : Prop where
  past : ∀ s, rank s < rank r.stage → (asked r.log s).Perm (Table.values (start s))
  now : (asked r.log r.stage ++ r.todo).Perm (Table.values (start r.stage))
  future : ∀ s, rank r.stage < rank s → asked r.log s = []
  untouched : ∀ s, asked r.log s = [] → r.queue s = start s
  kept : ∀ s, clears s = false → r.queue s = start s
  queue : ∀ s k x, (r.queue s).lookup k = some x ↔
    (start s).lookup k = some x ∧ (clears s = true → { stage := s, task := x, ok := true } ∉ r.log)

variable {key : ν → κ} {clears : ι → Bool} {rank : ι → Nat} {start : ι → Table κ ν}

theorem fair_start {s : ι} {todo : List ν} (hperm : todo.Perm (Table.values (start s)))
    (hfirst : ∀ s', rank s ≤ rank s') :
    Fair clears rank start { stage := s, todo := todo, queue := start, log := [] } where
  past := fun s' hlt => absurd hlt (Nat.not_lt.mpr (hfirst s'))
  now := hperm
  future := fun _ _ => rfl
  untouched := fun _ _ => rfl
  kept := fun _ _ => rfl
  queue := fun s' k x => ⟨fun h => ⟨h, fun _ hmem => (by cases hmem)⟩, And.left⟩

/-- **The step lemma.** -/
theorem Move.fair {r r' : Round ι κ ν} (h : Move key clears rank r r') (hinj : Function.Injective rank)
    (hkey : ∀ s k x, (start s).lookup k = some x → key x = k) (hr : Fair clears rank start r) :
    Fair clears rank start r' := by
  cases h with
  | @attempt a todo queue log =>
    have hother : ∀ s, a.stage ≠ s → asked (log ++ [a]) s = asked log s := by
      intro s hne
      rw [asked_append, if_neg hne]
    have hself : asked (log ++ [a]) a.stage = asked log a.stage ++ [a.task] := by
      rw [asked_append, if_pos rfl]
    refine ⟨?_, ?_, ?_, ?_, ?_, ?_⟩
    · intro s hlt
      rw [hother s fun he => Nat.lt_irrefl _ (he ▸ hlt)]
      exact hr.past s hlt
    · show (asked (log ++ [a]) a.stage ++ todo).Perm _
      rw [hself, List.append_assoc]
      exact hr.now
    · intro s hlt
      rw [hother s fun he => Nat.lt_irrefl _ (he ▸ hlt)]
      exact hr.future s hlt
    · intro s hnone
      show settle key clears queue a s = start s
      by_cases he : a.stage = s
      · subst he
        rw [hself] at hnone
        exact absurd hnone (List.append_ne_nil_of_right_ne_nil _ (List.cons_ne_nil _ []))
      · rw [hother s he] at hnone
        unfold settle
        rw [if_neg fun h => he h.1.symm]
        exact hr.untouched s hnone
    · intro s hkept
      show settle key clears queue a s = start s
      unfold settle
      rw [hkept, Bool.and_false, if_neg fun h => Bool.false_ne_true h.2]
      exact hr.kept s hkept
    · intro s k y
      have hold := hr.queue s k y
      show (settle key clears queue a s).lookup k = some y ↔
        _ ∧ (_ → { stage := s, task := y, ok := true } ∉ log ++ [a])
      rw [List.mem_append, List.mem_singleton]
      unfold settle
      split
      · rename_i hgone
        obtain ⟨hs, hboth⟩ := hgone
        obtain ⟨hok, hclears⟩ := Bool.and_eq_true_iff.mp hboth
        rw [Table.lookup_erase_eq_some, hold]
        constructor
        · rintro ⟨hne, hin, hnot⟩
          refine ⟨hin, fun hc => ?_⟩
          rintro (hlog | ha)
          · exact hnot hc hlog
          · rw [← ha] at hne
            exact hne (hkey s k y hin).symm
        · rintro ⟨hin, hnot⟩
          refine ⟨?_, hin, fun hc hlog => hnot hc (.inl hlog)⟩
          rintro rfl
          -- the entry under the key of the task is the task's own
          have hwaits : a.task ∈ Table.values (start a.stage) :=
            hr.now.subset (List.mem_append_right _ List.mem_cons_self)
          obtain ⟨k', hk'⟩ := Table.mem_values.mp hwaits
          subst hs
          rw [hkey a.stage k' a.task hk', hk'] at hin
          refine hnot hclears (.inr ?_)
          rw [← Option.some.inj hin, ← hok]
      · rename_i hstays
        rw [hold]
        refine and_congr_right fun _ => imp_congr_right fun hc => not_congr ⟨.inl, ?_⟩
        rintro (hlog | ha)
        · exact hlog
        · rw [← ha] at hstays
          exact absurd ⟨rfl, by rw [hc]; rfl⟩ hstays
  | @snapshot s s' todo queue log hrank hperm =>
    have hnext : asked log s' = [] := hr.future s' (by rw [hrank]; exact Nat.lt_succ_self _)
    refine ⟨?_, ?_, ?_, hr.untouched, hr.kept, hr.queue⟩
    · intro s'' hlt
      have hle : rank s'' ≤ rank s := by
        have hlt' : rank s'' < rank s' := hlt
        omega
      rcases Nat.lt_or_eq_of_le hle with hbefore | hsame
      · exact hr.past s'' hbefore
      · obtain rfl := hinj hsame
        have hnow := hr.now
        rwa [List.append_nil] at hnow
    · show (asked log s' ++ todo).Perm _
      rw [hnext, List.nil_append, ← hr.untouched s' hnext]
      exact hperm
    · intro s'' hlt
      refine hr.future s'' ?_
      have hlt' : rank s' < rank s'' := hlt
      show rank s < rank s''
      omega

/-- A round that is through has attempted whatever waited, once. -/
theorem Fair.all_asked {r : Round ι κ ν} (h : Fair clears rank start r) (hinj : Function.Injective rank)
    (hdone : r.todo = []) (hlast : ∀ s, rank s ≤ rank r.stage) (s : ι) :
    (asked r.log s).Perm (Table.values (start s)) := by
  rcases Nat.lt_or_eq_of_le (hlast s) with hbefore | hsame
  · exact h.past s hbefore
  · have hnow := h.now
    rw [hdone, List.append_nil] at hnow
    obtain rfl := hinj hsame
    exact hnow

end

end Worklist
