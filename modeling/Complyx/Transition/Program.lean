import Mathlib.Order.Defs.Unbundled

namespace Transition

/-!
# Programs over atomic operations

A program is straight-line code between atomic operations of a shared store.
An operation either fails, leaving the store as it was, or returns a value of
its own result type together with the next store.  The program sees which of
the two happened and continues from there, so an error path is part of the
program and not of its semantics.

`run` executes one program alone.  What the environment decides at each
operation (a clock reading, a drawn identifier, a lost connection) comes from
a stream with one entry for each operation.  `Pool` gives the same programs
their interleaved meaning.
-/

/-- A program issuing operations `Op` with results `Res`.  Operations fail
with a `δ`, the program itself with an `ε`. -/
inductive Program {Op : Type} (Res : Op -> Type) (δ ε α : Type) where
  | done (value : α)
  | fail (error : ε)
  | call (op : Op) (next : Except δ (Res op) -> Program Res δ ε α)

namespace Program

variable {Op : Type} {Res : Op -> Type} {δ ε α β γ : Type}

def bind : Program Res δ ε α -> (α -> Program Res δ ε β) -> Program Res δ ε β
  | .done value, next => next value
  | .fail error, _ => .fail error
  | .call op rest, next => .call op fun answer => (rest answer).bind next

instance : Monad (Program Res δ ε) where
  pure := .done
  bind := bind

/-- Issue one operation, turning its failure into an error of the program. -/
def attempt (wrap : δ -> ε) (op : Op) : Program Res δ ε (Res op) :=
  .call op fun
    | .ok value => .done value
    | .error failure => .fail (wrap failure)

/-- A computation that touches no store. -/
def lift : Except ε α -> Program Res δ ε α
  | .ok value => .done value
  | .error error => .fail error

/-- Translate the errors of a program. -/
def mapError {ζ : Type} (change : ε -> ζ) : Program Res δ ε α -> Program Res δ ζ α
  | .done value => .done value
  | .fail error => .fail (change error)
  | .call op next => .call op fun answer => (next answer).mapError change

@[simp] theorem pure_eq (value : α) :
    (pure value : Program Res δ ε α) = .done value := rfl

@[simp] theorem done_bind (value : α) (next : α -> Program Res δ ε β) :
    (Program.done value >>= next) = next value := rfl

@[simp] theorem fail_bind (error : ε) (next : α -> Program Res δ ε β) :
    (Program.fail error >>= next) = .fail error := rfl

@[simp] theorem call_bind (op : Op)
    (rest : Except δ (Res op) -> Program Res δ ε α)
    (next : α -> Program Res δ ε β) :
    (Program.call op rest >>= next) = .call op fun answer =>
      rest answer >>= next := rfl

@[simp] theorem lift_ok (value : α) :
    (lift (.ok value) : Program Res δ ε α) = .done value := rfl

@[simp] theorem lift_error (error : ε) :
    (lift (.error error) : Program Res δ ε α) = .fail error := rfl

theorem attempt_bind (wrap : δ -> ε) (op : Op)
    (next : Res op -> Program Res δ ε β) :
    (attempt wrap op >>= next) = .call op fun
      | .ok value => next value
      | .error failure => .fail (wrap failure) := by
  rw [attempt, call_bind]
  congr 1
  funext answer
  cases answer <;> rfl

/-- Equal programs begin with the same operation. -/
theorem attempt_bind_op {wrap wrap' : δ -> ε} {op op' : Op}
    {next : Res op -> Program Res δ ε β} {next' : Res op' -> Program Res δ ε β}
    (same : (attempt wrap op >>= next) = (attempt wrap' op' >>= next')) :
    op = op' := by
  rw [attempt_bind, attempt_bind] at same
  exact (call.inj same).1

/-- Equal programs go on alike. -/
theorem attempt_bind_next {wrap : δ -> ε} {op : Op}
    {next next' : Res op -> Program Res δ ε β}
    (same : (attempt wrap op >>= next) = (attempt wrap op >>= next'))
    (value : Res op) : next value = next' value := by
  rw [attempt_bind, attempt_bind] at same
  exact congrFun (eq_of_heq (call.inj same).2) (.ok value)

theorem bind_assoc (program : Program Res δ ε α) (first : α -> Program Res δ ε β)
    (second : β -> Program Res δ ε γ) :
    (program >>= first >>= second) = program >>= fun value => first value >>=
      second := by
  induction program with
  | done value => rfl
  | fail error => rfl
  | call op rest ih =>
      rw [call_bind, call_bind, call_bind]
      congr 1
      funext answer
      exact ih answer

theorem bind_done (program : Program Res δ ε α) :
    (program >>= Program.done) = program := by
  induction program with
  | done value => rfl
  | fail error => rfl
  | call op rest ih =>
      rw [call_bind]
      congr 1
      funext answer
      exact ih answer

instance : LawfulMonad (Program Res δ ε) :=
  LawfulMonad.mk' _ bind_done (fun _ _ => rfl) bind_assoc

/-- The value of a program that has returned. -/
def returned : Program Res δ ε α -> Option α
  | .done value => some value
  | _ => none

/-! ## Executing a program alone -/

section Run

variable {Env σ : Type} (exec : Env -> (op : Op) -> σ -> Except δ (Res op × σ))

/-- What one operation answers and the store it leaves. -/
def perform (env : Env) (op : Op) (store : σ) : Except δ (Res op) × σ :=
  match exec env op store with
  | .ok (value, store') => (.ok value, store')
  | .error failure => (.error failure, store)

/-- Execute the program, its n-th operation in the n-th environment. -/
def run : Program Res δ ε α -> (Nat -> Env) -> σ -> Except ε α × σ
  | .done value, _, store => (.ok value, store)
  | .fail error, _, store => (.error error, store)
  | .call op next, envs, store =>
      let answer := perform exec (envs 0) op store
      run (next answer.1) (fun n => envs (n + 1)) answer.2

/-- How many operations the execution issues. -/
def calls : Program Res δ ε α -> (Nat -> Env) -> σ -> Nat
  | .done _, _, _ => 0
  | .fail _, _, _ => 0
  | .call op next, envs, store =>
      let answer := perform exec (envs 0) op store
      calls (next answer.1) (fun n => envs (n + 1)) answer.2 + 1

variable {exec}

theorem perform_ok {env : Env} {op : Op} {store store' : σ} {value : Res op}
    (success : exec env op store = .ok (value, store')) :
    perform exec env op store = (.ok value, store') := by
  simp only [perform, success]

theorem perform_error {env : Env} {op : Op} {store : σ} {failure : δ}
    (failed : exec env op store = .error failure) :
    perform exec env op store = (.error failure, store) := by
  simp only [perform, failed]

theorem perform_eq_ok {env : Env} {op : Op} {store store' : σ} {value : Res op}
    (performed : perform exec env op store = (.ok value, store')) :
    exec env op store = .ok (value, store') := by
  cases outcome : exec env op store with
  | ok pair =>
      rw [perform_ok outcome] at performed
      cases performed
      rfl
  | error failure =>
      rw [perform_error outcome] at performed
      cases congrArg Prod.fst performed

@[simp] theorem run_done (value : α) (envs : Nat -> Env) (store : σ) :
    run exec (.done value : Program Res δ ε α) envs store = (.ok value, store) :=
      rfl

@[simp] theorem run_fail (error : ε) (envs : Nat -> Env) (store : σ) :
    run exec (.fail error : Program Res δ ε α) envs store =
      (.error error, store) := rfl

theorem run_call (op : Op) (next : Except δ (Res op) -> Program Res δ ε α)
    (envs : Nat -> Env) (store : σ) :
    run exec (.call op next) envs store =
      run exec (next (perform exec (envs 0) op store).1) (fun n => envs (n + 1))
        (perform exec (envs 0) op store).2 := rfl

/-- The sequencing rule: the continuation runs on the store and on the rest of
the stream that the first program leaves. -/
theorem run_bind (program : Program Res δ ε α) (next : α -> Program Res δ ε β)
    (envs : Nat -> Env) (store : σ) :
    run exec (program >>= next) envs store =
      match run exec program envs store with
      | (.ok value, store') =>
          run exec (next value)
            (fun n => envs (n + calls exec program envs store)) store'
      | (.error error, store') => (.error error, store') := by
  induction program generalizing envs store with
  | done value => rfl
  | fail error => rfl
  | call op rest ih =>
      rw [call_bind, run_call, run_call, ih, calls]
      simp only [Nat.add_assoc]

theorem run_bind_ok {program : Program Res δ ε α} {next : α -> Program Res δ ε β}
    {envs : Nat -> Env} {store store' : σ} {value : α}
    (first : run exec program envs store = (.ok value, store')) :
    run exec (program >>= next) envs store =
      run exec (next value) (fun n => envs (n + calls exec program envs store))
        store' := by
  rw [run_bind, first]

theorem run_bind_error {program : Program Res δ ε α}
    {next : α -> Program Res δ ε β} {envs : Nat -> Env} {store store' : σ}
    {error : ε} (first : run exec program envs store = (.error error, store')) :
    run exec (program >>= next) envs store = (.error error, store') := by
  rw [run_bind, first]

/-- A sequence that returns has two parts that return. -/
theorem run_bind_eq_ok {program : Program Res δ ε α}
    {next : α -> Program Res δ ε β} {envs : Nat -> Env} {store store' : σ}
    {value : β}
    (ran : run exec (program >>= next) envs store = (.ok value, store')) :
    Exists fun first => Exists fun middle =>
      run exec program envs store = (.ok first, middle) ∧
      run exec (next first) (fun n => envs (n + calls exec program envs store))
        middle = (.ok value, store') := by
  cases first : run exec program envs store with
  | mk answer middle =>
      cases answer with
      | ok result =>
          rw [run_bind_ok first] at ran
          exact ⟨result, middle, rfl, ran⟩
      | error failure =>
          rw [run_bind_error first] at ran
          cases congrArg Prod.fst ran

theorem run_lift_bind (computation : Except ε α) (next : α -> Program Res δ ε β)
    (envs : Nat -> Env) (store : σ) :
    run exec (lift computation >>= next) envs store =
      match computation with
      | .ok value => run exec (next value) envs store
      | .error error => (.error error, store) := by
  cases computation <;> rfl

/-- One operation followed by its continuation.  The error branch keeps the
store, so it needs no frame argument at the call site. -/
theorem run_attempt_bind (wrap : δ -> ε) (op : Op)
    (next : Res op -> Program Res δ ε β) (envs : Nat -> Env) (store : σ) :
    run exec (attempt wrap op >>= next) envs store =
      match exec (envs 0) op store with
      | .ok (value, store') =>
          run exec (next value) (fun n => envs (n + 1)) store'
      | .error failure => (.error (wrap failure), store) := by
  rw [attempt_bind, run_call]
  cases outcome : exec (envs 0) op store with
  | ok pair =>
      rcases pair with ⟨value, store'⟩
      simp only [perform_ok outcome]
  | error failure => simp only [perform_error outcome, run_fail]

theorem run_attempt (wrap : δ -> ε) (op : Op) (envs : Nat -> Env) (store : σ) :
    run exec (attempt wrap op : Program Res δ ε (Res op)) envs store =
      match exec (envs 0) op store with
      | .ok (value, store') => (.ok value, store')
      | .error failure => (.error (wrap failure), store) := by
  rw [← bind_done (attempt wrap op), run_attempt_bind]
  rfl

theorem run_mapError {ζ : Type} (change : ε -> ζ) (program : Program Res δ ε α)
    (envs : Nat -> Env) (store : σ) :
    run exec (program.mapError change) envs store =
      ((run exec program envs store).1.mapError change,
        (run exec program envs store).2) := by
  induction program generalizing envs store with
  | done value => rfl
  | fail error => rfl
  | call op next ih =>
      rw [mapError, run_call, run_call]
      exact ih _ _ _

end Run

/-! ## Which operations a program can issue -/

/-- Whatever the operations answer, only allowed ones are issued. -/
def Issues (allowed : Op -> Prop) : Program Res δ ε α -> Prop
  | .done _ => True
  | .fail _ => True
  | .call op next => allowed op ∧ forall answer, (next answer).Issues allowed

section Issues

variable {allowed : Op -> Prop}

theorem issues_attempt (wrap : δ -> ε) {op : Op} (permitted : allowed op) :
    (attempt wrap op : Program Res δ ε (Res op)).Issues allowed := by
  refine ⟨permitted, ?_⟩
  intro answer
  cases answer <;> trivial

theorem issues_lift (computation : Except ε α) :
    (lift computation : Program Res δ ε α).Issues allowed := by
  cases computation <;> trivial

theorem Issues.mono {wider : Op -> Prop}
    (implies : forall op, allowed op -> wider op) {program : Program Res δ ε α}
    (issues : program.Issues allowed) : program.Issues wider := by
  induction program with
  | done value => trivial
  | fail error => trivial
  | call op next ih =>
      exact ⟨implies op issues.1, fun answer => ih answer (issues.2 answer)⟩

theorem issues_bind {program : Program Res δ ε α} {next : α -> Program Res δ ε β}
    (first : program.Issues allowed)
    (rest : forall value, (next value).Issues allowed) :
    (program >>= next).Issues allowed := by
  induction program with
  | done value => exact rest value
  | fail error => trivial
  | call op continuation ih =>
      exact ⟨first.1, fun answer => ih answer (first.2 answer)⟩

/-- What every allowed operation keeps of the store, the program keeps. -/
theorem run_kept {Env σ β : Type}
    {exec : Env -> (op : Op) -> σ -> Except δ (Res op × σ)} (view : σ -> β)
    (kept : forall env op store, allowed op ->
      view (perform exec env op store).2 = view store)
    {program : Program Res δ ε α} (issues : program.Issues allowed)
    (envs : Nat -> Env) (store : σ) :
    view (run exec program envs store).2 = view store := by
  induction program generalizing envs store with
  | done value => rfl
  | fail error => rfl
  | call op next ih =>
      calc
        view (run exec (.call op next) envs store).2 =
            view (perform exec (envs 0) op store).2 :=
          ih _ (issues.2 _) _ _
        _ = view store := kept (envs 0) op store issues.1

end Issues

/-! ## What a program keeps -/

/-- In every environment the relation holds between the store the program starts
in and the store it leaves, whether or not it succeeds. -/
def Keeps {Env σ : Type} (exec : Env -> (op : Op) -> σ -> Except δ (Res op × σ))
    (relation : σ -> σ -> Prop) (program : Program Res δ ε α) : Prop :=
  forall envs store, relation store (run exec program envs store).2

section Keeps

variable {Env σ : Type} {exec : Env -> (op : Op) -> σ -> Except δ (Res op × σ)}
  {relation : σ -> σ -> Prop}

theorem Keeps.mono {wider : σ -> σ -> Prop} {program : Program Res δ ε α}
    (kept : program.Keeps exec relation)
    (implies : forall store store', relation store store' -> wider store store') :
    program.Keeps exec wider :=
  fun envs store => implies _ _ (kept envs store)

theorem keeps_done [Std.Refl relation] (value : α) :
    (.done value : Program Res δ ε α).Keeps exec relation :=
  fun _ store => Std.Refl.refl store

theorem keeps_lift [Std.Refl relation] (computation : Except ε α) :
    (lift computation : Program Res δ ε α).Keeps exec relation := by
  cases computation <;> exact fun _ store => Std.Refl.refl store

theorem keeps_attempt (wrap : δ -> ε) {op : Op}
    (kept : forall env store, relation store (perform exec env op store).2) :
    (attempt wrap op : Program Res δ ε (Res op)).Keeps exec relation := by
  intro envs store
  have ended :
      (run exec (attempt wrap op : Program Res δ ε (Res op)) envs store).2 =
      (perform exec (envs 0) op store).2 := by
    rw [attempt, run_call]
    split <;> rfl
  rw [ended]
  exact kept (envs 0) store

theorem keeps_call [IsTrans σ relation] {op : Op}
    {next : Except δ (Res op) -> Program Res δ ε α}
    (kept : forall env store, relation store (perform exec env op store).2)
    (rest : forall answer, (next answer).Keeps exec relation) :
    (Program.call op next).Keeps exec relation := by
  intro envs store
  rw [run_call]
  exact IsTrans.trans _ _ _ (kept (envs 0) store) (rest _ _ _)

theorem keeps_bind [IsTrans σ relation] {program : Program Res δ ε α}
    {next : α -> Program Res δ ε β} (first : program.Keeps exec relation)
    (rest : forall value, (next value).Keeps exec relation) :
    (program >>= next).Keeps exec relation := by
  intro envs store
  have here := first envs store
  rw [run_bind]
  split
  · next value store' ran =>
    rw [ran] at here
    exact IsTrans.trans _ _ _ here (rest value _ store')
  · next error store' ran =>
    rw [ran] at here
    exact here

theorem keeps_mapError {ζ : Type} (change : ε -> ζ) {program : Program Res δ ε α}
    (kept : program.Keeps exec relation) :
    (program.mapError change).Keeps exec relation := by
  intro envs store
  rw [run_mapError]
  exact kept envs store

/-- What every allowed operation keeps, the program keeps. -/
theorem keeps_of_issues [Std.Refl relation] [IsTrans σ relation]
    {allowed : Op -> Prop} {program : Program Res δ ε α}
    (kept : forall env op store, allowed op ->
      relation store (perform exec env op store).2)
    (issues : program.Issues allowed) : program.Keeps exec relation := by
  induction program with
  | done value => exact keeps_done value
  | fail error => exact fun _ store => Std.Refl.refl store
  | call op next ih =>
      exact keeps_call (fun env store => kept env op store issues.1) fun answer =>
        ih answer (issues.2 answer)

end Keeps

end Program

end Transition
