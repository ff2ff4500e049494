import Complyx.Transition.Program

namespace Transition

/-!
# Two stores side by side

A program over the operations of one store is one over the operations of two
stores as well, and leaves the other store as it was.  Programs that use both
are put together from such parts.
-/

namespace Program

variable {Op Other : Type} {Res : Op -> Type} {OtherRes : Other -> Type}
  {δ ε α : Type}

/-- The program where there is another store beside its own. -/
def beside : Program Res δ ε α -> Program (Sum.elim Res OtherRes) δ ε α
  | .done value => .done value
  | .fail error => .fail error
  | .call op next => .call (.inl op) fun answer => (next answer).beside

theorem issues_mapError {ζ : Type} {allowed : Op -> Prop} (change : ε -> ζ)
    {program : Program Res δ ε α} (issues : program.Issues allowed) :
    (program.mapError change).Issues allowed := by
  induction program with
  | done value => trivial
  | fail error => trivial
  | call op next ih => exact ⟨issues.1, fun answer => ih answer (issues.2 answer)⟩

/-- Where its own operations are allowed, the program issues allowed operations. -/
theorem issues_beside {allowed : Op ⊕ Other -> Prop} {program : Program Res δ ε α}
    (issues : program.Issues fun op => allowed (.inl op)) :
    (program.beside : Program (Sum.elim Res OtherRes) δ ε α).Issues allowed := by
  induction program with
  | done value => trivial
  | fail error => trivial
  | call op next ih => exact ⟨issues.1, fun answer => ih answer (issues.2 answer)⟩

section Run

variable {Env OtherEnv σ τ : Type}
  (exec : Env -> (op : Op) -> σ -> Except δ (Res op × σ))
  (otherExec : OtherEnv -> (op : Other) -> τ -> Except δ (OtherRes op × τ))

/-- Each operation acts on its own store. -/
def execBoth (env : Env × OtherEnv) :
    (op : Op ⊕ Other) -> σ × τ -> Except δ (Sum.elim Res OtherRes op × (σ × τ))
  | .inl op, store =>
      (exec env.1 op store.1).map fun answer => (answer.1, answer.2, store.2)
  | .inr op, store =>
      (otherExec env.2 op store.2).map fun answer => (answer.1, store.1, answer.2)

variable {exec otherExec}

theorem perform_inl (env : Env × OtherEnv) (op : Op) (store : σ × τ) :
    perform (execBoth exec otherExec) env (.inl op) store =
      ((perform exec env.1 op store.1).1, (perform exec env.1 op store.1).2,
        store.2) := by
  cases outcome : exec env.1 op store.1 with
  | ok pair =>
      rw [perform_ok outcome]
      apply perform_ok
      rw [execBoth, outcome, Except.map]
  | error failure =>
      rw [perform_error outcome]
      apply perform_error
      rw [execBoth, outcome, Except.map]

theorem perform_inr (env : Env × OtherEnv) (op : Other) (store : σ × τ) :
    perform (execBoth exec otherExec) env (.inr op) store =
      ((perform otherExec env.2 op store.2).1, store.1,
        (perform otherExec env.2 op store.2).2) := by
  cases outcome : otherExec env.2 op store.2 with
  | ok pair =>
      rw [perform_ok outcome]
      apply perform_ok
      rw [execBoth, outcome, Except.map]
  | error failure =>
      rw [perform_error outcome]
      apply perform_error
      rw [execBoth, outcome, Except.map]

/-- A program runs beside another store as it runs alone. -/
theorem run_beside (program : Program Res δ ε α) (envs : Nat -> Env × OtherEnv)
    (store : σ × τ) :
    run (execBoth exec otherExec) program.beside envs store =
      let alone := run exec program (fun n => (envs n).1) store.1
      (alone.1, alone.2, store.2) := by
  induction program generalizing envs store with
  | done value => rfl
  | fail error => rfl
  | call op next ih =>
      rw [beside, run_call, perform_inl, ih]
      rfl

/-- What the program keeps alone it keeps beside another store. -/
theorem keeps_beside {relation : σ -> σ -> Prop} {program : Program Res δ ε α}
    (kept : program.Keeps exec relation) :
    (program.beside : Program (Sum.elim Res OtherRes) δ ε α).Keeps
    (execBoth exec otherExec) fun store store' =>
      relation store.1 store'.1 ∧ store'.2 = store.2 := by
  intro envs store
  rw [run_beside]
  exact ⟨kept _ store.1, rfl⟩

end Run

end Program

end Transition
