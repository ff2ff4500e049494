import Complyx.Transition.Expand
import Complyx.Transition.Pool
import Mathlib.Logic.Function.Basic

namespace Transition

/-!
# Programs that use what they were answered

Which operations a program may issue can depend on the answers it had so far.
`note` says what is remembered of an answer, and `allowed` which operations may
follow what is remembered.  In a pool each program remembers for itself.
-/

section Knowledge

variable {Op : Type} {Res : Op -> Type} {δ ε α β σ Env κ : Type}
  {exec : Env -> (op : Op) -> σ -> Except δ (Res op × σ)}

namespace Program

/-- Whatever the operations answer, only those are issued that may follow. -/
def Follows (note : κ -> (op : Op) -> Except δ (Res op) -> κ)
    (allowed : κ -> Op -> Prop) :
    Program Res δ ε α -> κ -> Prop
  | .done _, _ => True
  | .fail _, _ => True
  | .call op next, known =>
      allowed known op ∧ forall answer,
        (next answer).Follows note allowed (note known op answer)

variable {note : κ -> (op : Op) -> Except δ (Res op) -> κ}
  {allowed : κ -> Op -> Prop}

theorem follows_attempt (wrap : δ -> ε) {op : Op} {known : κ}
    (permitted : allowed known op) :
    (attempt wrap op : Program Res δ ε (Res op)).Follows note allowed known := by
  refine ⟨permitted, ?_⟩
  intro answer
  cases answer <;> trivial

theorem follows_bind {program : Program Res δ ε α} {next : α -> Program Res δ ε β}
    {known : κ} (first : program.Follows note allowed known)
    (rest : forall value known, (next value).Follows note allowed known) :
    (program >>= next).Follows note allowed known := by
  induction program generalizing known with
  | done value => exact rest value known
  | fail error => trivial
  | call op continuation ih =>
      exact ⟨first.1, fun answer => ih answer (first.2 answer)⟩

/-- An operation whose answer the next one uses. -/
theorem follows_attempt_bind (wrap : δ -> ε) {op : Op}
    {next : Res op -> Program Res δ ε β} {known : κ}
    (permitted : allowed known op)
    (rest : forall value,
      (next value).Follows note allowed (note known op (.ok value))) :
    (attempt wrap op >>= next).Follows note allowed known := by
  rw [attempt_bind]
  refine ⟨permitted, ?_⟩
  intro answer
  cases answer with
  | ok value => exact rest value
  | error failure => trivial

theorem follows_lift (computation : Except ε α) (known : κ) :
    (lift computation : Program Res δ ε α).Follows note allowed known := by
  cases computation <;> trivial

theorem follows_mapError {ζ : Type} (change : ε -> ζ)
    {program : Program Res δ ε α} {known : κ}
    (follows : program.Follows note allowed known) :
    (program.mapError change).Follows note allowed known := by
  induction program generalizing known with
  | done value => trivial
  | fail error => trivial
  | call op next ih =>
      exact ⟨follows.1, fun answer => ih answer (follows.2 answer)⟩

/-- The second program starts from something that is remembered, whatever the
operations of the first are answered. -/
theorem follows_bind_kept {remembered : κ -> Prop}
    (kept : forall known op answer, remembered known ->
      remembered (note known op answer))
    {program : Program Res δ ε α} {next : α -> Program Res δ ε β} {known : κ}
    (first : remembered known) (follows : program.Follows note allowed known)
    (rest : forall value known, remembered known ->
      (next value).Follows note allowed known) :
    (program >>= next).Follows note allowed known := by
  induction program generalizing known with
  | done value => exact rest value known first
  | fail error => trivial
  | call op continuation ih =>
      exact ⟨follows.1, fun answer =>
        ih answer (kept known op answer first) (follows.2 answer)⟩

/-- Operations that may follow whatever is remembered. -/
theorem follows_of_issues {issued : Op -> Prop} {remembered : κ -> Prop}
    (kept : forall known op answer, remembered known ->
      remembered (note known op answer))
    (permitted : forall known op, remembered known -> issued op ->
      allowed known op)
    {program : Program Res δ ε α} {known : κ} (first : remembered known)
    (issues : program.Issues issued) : program.Follows note allowed known := by
  induction program generalizing known with
  | done value => trivial
  | fail error => trivial
  | call op next ih =>
      exact ⟨permitted known op first issues.1, fun answer =>
        ih answer (kept known op answer first) (issues.2 answer)⟩

theorem follows_capture {ζ : Type} {program : Program Res δ ε α} {known : κ}
    (follows : program.Follows note allowed known) :
    (program.capture : Program Res δ ζ (Except ε α)).Follows note
      allowed known := by
  induction program generalizing known with
  | done value => trivial
  | fail error => trivial
  | call op next ih =>
      exact ⟨follows.1, fun answer => ih answer (follows.2 answer)⟩

/-- Finer operations follow if those of each implementation do, whatever is
remembered when it starts. -/
theorem follows_expand {Coarse : Type} {CoarseRes : Coarse -> Type}
    {issued : Coarse -> Prop}
    {implement : (op : Coarse) -> Program Res δ δ (CoarseRes op)}
    (implemented : forall op known, issued op ->
      (implement op).Follows note allowed known)
    {program : Program CoarseRes δ ε α} (issues : program.Issues issued)
    (known : κ) :
    (program.expand implement).Follows note allowed known := by
  induction program generalizing known with
  | done value => trivial
  | fail error => trivial
  | call op next ih =>
      apply follows_bind (follows_capture (implemented op known issues.1))
      intro answer later
      exact ih answer (issues.2 answer) later

/-- A program that follows one memory follows what can be seen of it. -/
theorem Follows.through {μ : Type}
    {remember : μ -> (op : Op) -> Except δ (Res op) -> μ} {own : μ -> Op -> Prop}
    (view : κ -> μ)
    (seen : forall known op answer,
      remember (view known) op answer = view (note known op answer))
    (permitted : forall known op, allowed known op -> own (view known) op)
    {program : Program Res δ ε α} {known : κ}
    (follows : program.Follows note allowed known) :
    program.Follows remember own (view known) := by
  induction program generalizing known with
  | done value => trivial
  | fail error => trivial
  | call op next ih =>
      refine ⟨permitted known op follows.1, ?_⟩
      intro answer
      rw [seen]
      exact ih answer (follows.2 answer)

/-- What is issued may follow something. -/
theorem Follows.issues {issued : Op -> Prop} {program : Program Res δ ε α}
    {known : κ} (follows : program.Follows note allowed known)
    (permitted : forall known op, allowed known op -> issued op) :
    program.Issues issued := by
  induction program generalizing known with
  | done value => trivial
  | fail error => trivial
  | call op next ih =>
      exact ⟨permitted known op follows.1, fun answer =>
        ih answer (follows.2 answer)⟩

/-- A program that follows strict rules follows looser ones. -/
theorem Follows.mono {looser : κ -> Op -> Prop} {program : Program Res δ ε α}
    {known : κ} (follows : program.Follows note allowed known)
    (permitted : forall known op, allowed known op -> looser known op) :
    program.Follows note looser known := by
  apply @Follows.through _ _ _ _ _ _ note allowed _ note looser id
  · intro known op answer
    rfl
  · exact permitted
  · exact follows

end Program

namespace Pool

variable (note : κ -> (op : Op) -> Except δ (Res op) -> κ)
  (allowed : κ -> Op -> Prop)

/-- Every program follows what it remembers. -/
def Follows (pool : Pool Res δ ε α σ) (known : Nat -> κ) : Prop :=
  forall (index : Nat) (program : Program Res δ ε α),
    pool.threads[index]? = some program ->
    program.Follows note allowed (known index)

/-- What the programs remember after a step. -/
def learn (exec : Env -> (op : Op) -> σ -> Except δ (Res op × σ))
    (pool : Pool Res δ ε α σ) (label : Nat × Env) (known : Nat -> κ) : Nat -> κ :=
  match pool.threads[label.1]? with
  | some (.call op _) =>
      Function.update known label.1
        (note (known label.1) op (Program.perform exec label.2 op pool.store).1)
  | _ => known

variable {note allowed}

theorem learn_idle {pool : Pool Res δ ε α σ} {label : Nat × Env}
    {known : Nat -> κ}
    (idle : forall op next, pool.threads[label.1]? ≠ some (.call op next)) :
    pool.learn note exec label known = known := by
  unfold learn
  split
  · next op next turn => exact absurd turn (idle op next)
  · rfl

theorem learn_call {pool : Pool Res δ ε α σ} {label : Nat × Env}
    {known : Nat -> κ} {op : Op} {next : Except δ (Res op) -> Program Res δ ε α}
    (turn : pool.threads[label.1]? = some (.call op next)) :
    pool.learn note exec label known =
      Function.update known label.1
        (note (known label.1) op
          (Program.perform exec label.2 op pool.store).1) := by
  simp only [learn, turn]

/-- The operation a label is about to issue may follow what its program
remembers. -/
theorem Follows.turn {pool : Pool Res δ ε α σ} {known : Nat -> κ}
    (follows : pool.Follows note allowed known) {index : Nat} {op : Op}
    {next : Except δ (Res op) -> Program Res δ ε α}
    (turn : pool.threads[index]? = some (.call op next)) :
    allowed (known index) op :=
  (follows index _ turn).1

theorem follows_step (pool : Pool Res δ ε α σ) (label : Nat × Env)
    {known : Nat -> κ} (follows : pool.Follows note allowed known) :
    (pool.step exec label).Follows note allowed
      (pool.learn note exec label known) := by
  rcases step_cases exec pool label with ⟨idle, same⟩ | ⟨op, next, turn, stepped⟩
  · rw [same, learn_idle idle]
    exact follows
  · rw [learn_call turn]
    intro index program present
    rw [step_get turn] at present
    by_cases here : index = label.1
    · rw [if_pos here] at present
      rw [here, Function.update_self, ← Option.some.inj present]
      exact (follows label.1 _ turn).2 _
    · rw [if_neg here] at present
      rw [Function.update_of_ne here]
      exact follows index program present

/-- The store does not matter. -/
theorem Follows.store {pool : Pool Res δ ε α σ} {known : Nat -> κ}
    (follows : pool.Follows note allowed known) (store : σ) :
    Pool.Follows note allowed { pool with store := store } known :=
  follows

end Pool

end Knowledge

end Transition
