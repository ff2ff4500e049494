import Complyx.Transition.Program
import Complyx.Transition.Run

namespace Transition

/-!
# Interleaved programs

A pool holds any number of programs over one store.  One step lets the chosen
program issue its next operation, in the environment the label carries; a
program that has ended, or an index outside the pool, makes the step idle.  A
run of the pool is therefore a list of labels, and every interleaving of every
choice the environments make is one.  A program may stay unscheduled for as
long as a label list likes, so requests that arrive later need no case of
their own.

`Guarded` lifts a condition on single operations to a condition on labels.
-/

structure Pool {Op : Type} (Res : Op -> Type) (δ ε α σ : Type) where
  threads : List (Program Res δ ε α)
  store : σ

namespace Pool

variable {Op : Type} {Res : Op -> Type} {δ ε α σ Env : Type}

section Step

variable (exec : Env -> (op : Op) -> σ -> Except δ (Res op × σ))

/-- Let the chosen program issue its next operation. -/
def step (pool : Pool Res δ ε α σ) (label : Nat × Env) : Pool Res δ ε α σ :=
  match pool.threads[label.1]? with
  | some (.call op next) =>
      let answer := Program.perform exec label.2 op pool.store
      { threads := pool.threads.set label.1 (next answer.1), store := answer.2 }
  | _ => pool

/-- The operation the label would issue satisfies the guard in the present
store.  An idle label satisfies every guard. -/
def Guarded (guard : Env -> Op -> σ -> Prop) (pool : Pool Res δ ε α σ)
    (label : Nat × Env) : Prop :=
  forall op next, pool.threads[label.1]? = some (.call op next) ->
    guard label.2 op pool.store

theorem guarded_iff (guard : Env -> Op -> σ -> Prop) (pool : Pool Res δ ε α σ)
    (label : Nat × Env) :
    pool.Guarded guard label <->
      match pool.threads[label.1]? with
      | some (.call op _) => guard label.2 op pool.store
      | _ => True := by
  constructor
  · intro guarded
    split
    · next op next turn => exact guarded op next turn
    · trivial
  · intro holds op next turn
    rw [turn] at holds
    exact holds

instance (guard : Env -> Op -> σ -> Prop)
    [forall env op store, Decidable (guard env op store)]
    (pool : Pool Res δ ε α σ) (label : Nat × Env) :
    Decidable (pool.Guarded guard label) :=
  have : Decidable (match pool.threads[label.1]? with
      | some (.call op _) => guard label.2 op pool.store
      | _ => True) := by
    split <;> infer_instance
  decidable_of_iff' _ (guarded_iff guard pool label)

end Step

variable {exec : Env -> (op : Op) -> σ -> Except δ (Res op × σ)}

theorem step_call {pool : Pool Res δ ε α σ} {label : Nat × Env} {op : Op}
    {next : Except δ (Res op) -> Program Res δ ε α}
    (turn : pool.threads[label.1]? = some (.call op next)) :
    pool.step exec label =
      { threads := pool.threads.set label.1
          (next (Program.perform exec label.2 op pool.store).1)
        store := (Program.perform exec label.2 op pool.store).2 } := by
  simp only [step, turn]

theorem step_idle {pool : Pool Res δ ε α σ} {label : Nat × Env}
    (idle : forall op next, pool.threads[label.1]? ≠ some (.call op next)) :
    pool.step exec label = pool := by
  unfold step
  split
  · next op next turn => exact absurd turn (idle op next)
  · rfl

/-- Either the step is idle or it is the next operation of one program. -/
theorem step_cases (exec : Env -> (op : Op) -> σ -> Except δ (Res op × σ))
    (pool : Pool Res δ ε α σ) (label : Nat × Env) :
    ((forall op next, pool.threads[label.1]? ≠ some (.call op next)) ∧
      pool.step exec label = pool) ∨
    Exists fun op => Exists fun next =>
      pool.threads[label.1]? = some (.call op next) ∧
      pool.step exec label =
        { threads := pool.threads.set label.1
            (next (Program.perform exec label.2 op pool.store).1)
          store := (Program.perform exec label.2 op pool.store).2 } := by
  by_cases turn : Exists fun op => Exists fun next =>
      pool.threads[label.1]? = some (.call op next)
  · rcases turn with ⟨op, next, turn⟩
    exact Or.inr ⟨op, next, turn, step_call turn⟩
  · have idle : forall op next, pool.threads[label.1]? ≠ some (.call op next) :=
      fun op next equal => turn ⟨op, next, equal⟩
    exact Or.inl ⟨idle, step_idle idle⟩

/-- What the program at an index has returned. -/
def returned (pool : Pool Res δ ε α σ) (index : Nat) : Option α :=
  pool.threads[index]?.bind Program.returned

theorem returned_some {pool : Pool Res δ ε α σ} {index : Nat} {value : α}
    (ended : pool.returned index = some value) :
    pool.threads[index]? = some (.done value) := by
  rcases Option.bind_eq_some_iff.mp ended with ⟨program, present, same⟩
  cases program with
  | done result => rw [present, Option.some.inj same]
  | fail error => cases same
  | call op next => cases same

/-- What a step leaves at an index: the program stepped, or the one that was
there. -/
theorem step_get {pool : Pool Res δ ε α σ} {label : Nat × Env} {op : Op}
    {next : Except δ (Res op) -> Program Res δ ε α}
    (turn : pool.threads[label.1]? = some (.call op next)) (index : Nat) :
    (pool.step exec label).threads[index]? =
      if index = label.1 then
        some (next (Program.perform exec label.2 op pool.store).1)
      else pool.threads[index]? := by
  rw [step_call turn, List.getElem?_set]
  have inside := (List.getElem?_eq_some_iff.mp turn).1
  by_cases here : index = label.1
  · rw [if_pos here.symm, if_pos here, if_pos (here ▸ inside)]
  · rw [if_neg (Ne.symm here), if_neg here]

/-- Every program of the pool issues only allowed operations. -/
def Issues (allowed : Op -> Prop) (pool : Pool Res δ ε α σ) : Prop :=
  forall program, program ∈ pool.threads -> program.Issues allowed

theorem issues_step {allowed : Op -> Prop} (pool : Pool Res δ ε α σ)
    (label : Nat × Env) (issues : pool.Issues allowed) :
    (pool.step exec label).Issues allowed := by
  rcases step_cases exec pool label with ⟨_, same⟩ | ⟨op, next, turn, stepped⟩
  · rw [same]
    exact issues
  · rw [stepped]
    intro program member
    rcases List.mem_or_eq_of_mem_set member with old | new
    · exact issues program old
    · have chosen := issues _ (List.mem_of_getElem? turn)
      rw [new]
      exact chosen.2 _

/-- The operation a label is about to issue is one the program may issue. -/
theorem Issues.turn {allowed : Op -> Prop} {pool : Pool Res δ ε α σ}
    (issues : pool.Issues allowed) {index : Nat} {op : Op}
    {next : Except δ (Res op) -> Program Res δ ε α}
    (turn : pool.threads[index]? = some (.call op next)) : allowed op :=
  (issues _ (List.mem_of_getElem? turn)).1

end Pool

end Transition
