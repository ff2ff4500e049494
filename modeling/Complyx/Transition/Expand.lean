import Complyx.Transition.Program

namespace Transition

/-!
# Implementing operations by finer ones

Whether an operation is atomic is a matter of the level a program is looked at.
`expand` replaces every operation by a program over finer operations, whose
failure becomes the failure of the operation.  If each implementation, executed
alone, can do what its operation does, then the expanded program can do what
the program does.  The converse holds alone as well, but not interleaved: that
is what finer operations are for.
-/

namespace Program

variable {Op Fine : Type} {Res : Op -> Type} {FineRes : Fine -> Type}
  {δ ε ζ α : Type}

/-- Turn the end of a program into a value, failures included. -/
def capture : Program Res δ ε α -> Program Res δ ζ (Except ε α)
  | .done value => .done (.ok value)
  | .fail error => .done (.error error)
  | .call op next => .call op fun answer => (next answer).capture

/-- Issue finer operations in place of each operation. -/
def expand (implement : (op : Op) -> Program FineRes δ δ (Res op)) :
    Program Res δ ε α -> Program FineRes δ ε α
  | .done value => .done value
  | .fail error => .fail error
  | .call op next =>
      (implement op).capture >>= fun answer => (next answer).expand implement

section Run

variable {Env σ : Type} {exec : Env -> (op : Op) -> σ -> Except δ (Res op × σ)}
  {fineExec : Env -> (op : Fine) -> σ -> Except δ (FineRes op × σ)}

theorem run_capture (program : Program Res δ ε α) (envs : Nat -> Env)
    (store : σ) :
    run exec (program.capture : Program Res δ ζ (Except ε α)) envs store =
      (.ok (run exec program envs store).1, (run exec program envs store).2) := by
  induction program generalizing envs store with
  | done value => rfl
  | fail error => rfl
  | call op next ih =>
      rw [capture, run_call, run_call]
      exact ih _ _ _

/-- An execution looks at no more environments than it issues operations. -/
theorem run_of_agree (program : Program Res δ ε α) (envs envs' : Nat -> Env)
    (store : σ)
    (agree : forall n, n < calls exec program envs store -> envs' n = envs n) :
    run exec program envs' store = run exec program envs store ∧
      calls exec program envs' store = calls exec program envs store := by
  induction program generalizing envs envs' store with
  | done value => exact ⟨rfl, rfl⟩
  | fail error => exact ⟨rfl, rfl⟩
  | call op next ih =>
      have first : envs' 0 = envs 0 := agree 0 (Nat.succ_pos _)
      have later :=
        ih (perform exec (envs 0) op store).1 (fun n => envs (n + 1))
          (fun n => envs' (n + 1))
          (perform exec (envs 0) op store).2 fun n small =>
            agree (n + 1) (Nat.succ_lt_succ small)
      rw [run_call, run_call, calls, calls, first]
      exact ⟨later.1, congrArg (· + 1) later.2⟩

/-- What a program can do alone, its expansion can do alone. -/
theorem exists_run_expand {implement : (op : Op) -> Program FineRes δ δ (Res op)}
    (realized : forall env op store, Exists fun envs =>
      run fineExec (implement op) envs store = perform exec env op store)
    (program : Program Res δ ε α) (envs : Nat -> Env) (store : σ) :
    Exists fun envs' => run fineExec (program.expand implement) envs' store =
      run exec program envs store := by
  induction program generalizing envs store with
  | done value => exact ⟨envs, rfl⟩
  | fail error => exact ⟨envs, rfl⟩
  | call op next ih =>
      rcases realized (envs 0) op store with ⟨inner, performed⟩
      rcases ih (perform exec (envs 0) op store).1 (fun n => envs (n + 1))
          (perform exec (envs 0) op store).2 with
        ⟨outer, continued⟩
      have captured :
          run fineExec
            ((implement op).capture : Program FineRes δ ε (Except δ (Res op)))
            inner store =
          (.ok (perform exec (envs 0) op store).1,
            (perform exec (envs 0) op store).2) := by
        rw [run_capture, performed]
      -- The implementation takes its environments from the first stream, the rest
      -- from the second.
      rw [expand]
      generalize (implement op).capture = part at captured ⊢
      let both := fun n => if n < calls fineExec part inner store then inner n
          else outer (n - calls fineExec part inner store)
      have agree := run_of_agree part inner both store fun n small => if_pos small
      have shifted :
          (fun n => both (n + calls fineExec part inner store)) = outer := by
        funext n
        have large :
            ¬ n + calls fineExec part inner store <
              calls fineExec part inner store := by omega
        calc
          both (n + calls fineExec part inner store) =
              outer
                (n + calls fineExec part inner store - calls fineExec part inner
                  store) := if_neg large
          _ = outer n := by rw [Nat.add_sub_cancel]
      refine ⟨both, ?_⟩
      rw [run_bind_ok (agree.1.trans captured), agree.2, shifted,
        continued, run_call]

end Run

end Program

end Transition
