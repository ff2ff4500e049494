import Complyx.Transition.Program
import Mathlib.Data.List.Forall2

namespace Transition

/-!
# Programs run together

Two programs are joined by letting one or the other issue its next operation until
both have returned or one has failed.  A stream decides which one is next, and may
decide as it likes.  A list of programs is joined one by one.

`Through` says at which times a program issued its operations in a run that
returned, and what it was answered.  The parts of a program that was put together
went through at the same times as the whole.
-/

namespace Program

variable {Op : Type} {Res : Op -> Type} {δ ε α β γ : Type}

/-- The first program issues an operation and is taken up again once it is
answered.  Until then the second one may go on. -/
def bothCall (op : Op)
    (next : Except δ (Res op) -> (Nat -> Bool) -> Program Res δ ε β ->
      Program Res δ ε γ) :
    Program Res δ ε β -> (Nat -> Bool) -> Program Res δ ε γ
  | .done value, order =>
      .call op fun answer => next answer (fun n => order (n + 1)) (.done value)
  | .fail error, order =>
      if order 0 then .call op fun answer =>
        next answer (fun n => order (n + 1)) (.fail error) else .fail error
  | .call other rest, order =>
      if order 0 then .call op fun answer =>
        next answer (fun n => order (n + 1)) (.call other rest)
      else .call other fun answer => bothCall op next (rest answer) fun n =>
        order (n + 1)

/-- Both programs together.  The first goes on where the stream is true. -/
def both (order : Nat -> Bool) :
    Program Res δ ε α -> Program Res δ ε β -> Program Res δ ε (α × β)
  | .done value, second => second >>= fun other => .done (value, other)
  | .fail error, _ => .fail error
  | .call op next, second =>
      bothCall op (fun answer order second => both order (next answer) second)
        second order

/-- A list of programs together. -/
def gather (order : Nat -> Nat -> Bool) :
    List (Program Res δ ε α) -> Program Res δ ε (List α)
  | [] => .done []
  | program :: rest => do
      let values <- both (order 0) program (gather (fun n => order (n + 1)) rest)
      return values.1 :: values.2

/-- The order in which the first program runs to its end. -/
def inTurn : Nat -> Bool := fun _ => true

section InTurn

theorem bothCall_inTurn (op : Op)
    (next : Except δ (Res op) -> (Nat -> Bool) -> Program Res δ ε β ->
      Program Res δ ε γ)
    (second : Program Res δ ε β) :
    bothCall op next second inTurn = .call op fun answer =>
      next answer inTurn second := by
  cases second <;> rfl

/-- Programs in turn are a sequence. -/
theorem both_inTurn (first : Program Res δ ε α) (second : Program Res δ ε β) :
    both inTurn first second = first >>= fun value => second >>= fun other =>
      .done (value, other) := by
  induction first with
  | done value => rfl
  | fail error => rfl
  | call op next ih =>
      rw [both, bothCall_inTurn, call_bind]
      congr 1
      funext answer
      exact ih answer

end InTurn

/-! ## When the operations happened -/

/-- The program returned the value; its operations were issued in order, at times
from `start` and before `stop`, and answered as they could be at these times. -/
def Through (answered : Nat -> (op : Op) -> Except δ (Res op) -> Prop)
    (value : α) :
    Program Res δ ε α -> Nat -> Nat -> Prop
  | .done result, start, stop => start ≤ stop ∧ result = value
  | .fail _, _, _ => False
  | .call op next, start, stop => Exists fun time => Exists fun answer =>
      start ≤ time ∧ time < stop ∧ answered time op answer ∧
        (next answer).Through answered value (time + 1) stop

section Through

variable {answered : Nat -> (op : Op) -> Except δ (Res op) -> Prop}

theorem Through.le {program : Program Res δ ε α} {value : α} {start stop : Nat}
    (through : program.Through answered value start stop) : start ≤ stop := by
  cases program with
  | done result => exact through.1
  | fail error => exact through.elim
  | call op next =>
      rcases through with ⟨time, _, after, before, _⟩
      exact Nat.le_of_lt (Nat.lt_of_le_of_lt after before)

/-- Starting earlier or stopping later leaves the times where they are. -/
theorem Through.from {program : Program Res δ ε α} {value : α}
    {start later stop : Nat} (earlier : start ≤ later)
    (through : program.Through answered value later stop) :
    program.Through answered value start stop := by
  cases program with
  | done result => exact ⟨Nat.le_trans earlier through.1, through.2⟩
  | fail error => exact through.elim
  | call op next =>
      rcases through with ⟨time, answer, after, rest⟩
      exact ⟨time, answer, Nat.le_trans earlier after, rest⟩

theorem Through.until {program : Program Res δ ε α} {value : α}
    {start stop later : Nat} (earlier : stop ≤ later)
    (through : program.Through answered value start stop) :
    program.Through answered value start later := by
  induction program generalizing start with
  | done result => exact ⟨Nat.le_trans through.1 earlier, through.2⟩
  | fail error => exact through.elim
  | call op next ih =>
      rcases through with ⟨time, answer, after, before, answer_is, rest⟩
      exact ⟨time, answer, after, Nat.lt_of_lt_of_le before earlier, answer_is,
        ih answer rest⟩

/-- A run that returned is through when it has issued its operations. -/
theorem run_through {Env σ : Type}
    {exec : Env -> (op : Op) -> σ -> Except δ (Res op × σ)}
    {program : Program Res δ ε α} {envs : Nat -> Env} {start : Nat}
    (answers : forall n op store,
      answered (start + n) op (perform exec (envs n) op store).1)
    {store store' : σ} {value : α}
    (ran : run exec program envs store = (.ok value, store')) :
    program.Through answered value start
      (start + calls exec program envs store) := by
  induction program generalizing envs start store with
  | done result =>
      exact ⟨Nat.le_refl start, Except.ok.inj (congrArg Prod.fst ran)⟩
  | fail error => cases congrArg Prod.fst ran
  | call op next ih =>
      rw [run_call] at ran
      have later : forall n op store,
          answered (start + 1 + n) op
          (perform exec (envs (n + 1)) op store).1 := by
        intro n op store
        rw [Nat.add_assoc, Nat.add_comm 1 n]
        exact answers (n + 1) op store
      have rest := ih _ later ran
      refine ⟨start, _, Nat.le_refl start, ?_, answers 0 op store, ?_⟩
      · rw [calls]
        omega
      · rw [calls, ← Nat.add_assoc, Nat.add_right_comm]
        exact rest

theorem through_attempt {wrap : δ -> ε} {op : Op} {value : Res op}
    {start stop : Nat}
    (through : (attempt wrap op : Program Res δ ε (Res op)).Through answered value
      start stop) :
    Exists fun time => start ≤ time ∧ time < stop ∧
      answered time op (.ok value) := by
  rcases through with ⟨time, answer, after, before, answer_is, rest⟩
  cases answer with
  | ok result =>
      rw [← rest.2]
      exact ⟨time, after, before, answer_is⟩
  | error failure => exact rest.elim

/-- The parts of a sequence, one after the other. -/
theorem through_bind {program : Program Res δ ε α} {next : α -> Program Res δ ε β}
    {value : β} {start stop : Nat}
    (through : (program >>= next).Through answered value start stop) :
    Exists fun first => Exists fun middle =>
      program.Through answered first start middle ∧
        (next first).Through answered value middle stop := by
  induction program generalizing start with
  | done result => exact ⟨result, start, ⟨Nat.le_refl start, rfl⟩, through⟩
  | fail error => exact through.elim
  | call op rest ih =>
      rcases through with ⟨time, answer, after, before, answer_is, later⟩
      rcases ih answer later with ⟨first, middle, begun, ended⟩
      exact ⟨first, middle,
        ⟨time, answer, after, begun.le, answer_is, begun⟩, ended⟩

theorem through_bothCall {op : Op}
    {next : Except δ (Res op) -> (Nat -> Bool) -> Program Res δ ε β ->
      Program Res δ ε (α × β)}
    {first : Except δ (Res op) -> Program Res δ ε α} {pair : α × β}
    (apart : forall answer order second start stop,
      (next answer order second).Through answered pair start stop ->
      (first answer).Through answered pair.1 start stop ∧
        second.Through answered pair.2 start stop)
    {second : Program Res δ ε β} {order : Nat -> Bool} {start stop : Nat}
    (through : (bothCall op next second order).Through answered pair start stop) :
    (Program.call op first).Through answered pair.1 start stop ∧
      second.Through answered pair.2 start stop := by
  -- whenever the first program goes on, what is left of both comes apart
  have goesOn : forall {second order start},
    (Program.call op fun answer => next answer order second :
      Program Res δ ε (α × β)).Through answered pair start stop ->
        (Program.call op first).Through answered pair.1 start stop ∧
          second.Through answered pair.2 start stop := by
    rintro second order start ⟨time, answer, after, before, answer_is, later⟩
    rcases apart _ _ _ _ _ later with ⟨firstThrough, secondThrough⟩
    refine ⟨⟨time, answer, after, before, answer_is, firstThrough⟩,
      secondThrough.from ?_⟩
    exact Nat.le_succ_of_le after
  induction second generalizing order start with
  | done result => exact goesOn through
  | fail error =>
      rw [bothCall] at through
      split at through
      · exact goesOn through
      · exact through.elim
  | call other rest ih =>
      rw [bothCall] at through
      split at through
      · exact goesOn through
      · rcases through with ⟨time, answer, after, before, answer_is, later⟩
        rcases ih answer later with ⟨firstThrough, secondThrough⟩
        exact ⟨firstThrough.from (Nat.le_succ_of_le after), time, answer, after,
          before, answer_is, secondThrough⟩

/-- Programs that ran together each went through in that time. -/
theorem through_both {first : Program Res δ ε α} {second : Program Res δ ε β}
    {order : Nat -> Bool} {pair : α × β} {start stop : Nat}
    (through : (both order first second).Through answered pair start stop) :
    first.Through answered pair.1 start stop ∧
      second.Through answered pair.2 start stop := by
  induction first generalizing order second start stop with
  | done result =>
      rcases through_bind through with ⟨other, middle, ended, inTime, rfl⟩
      exact ⟨⟨Nat.le_trans ended.le inTime, rfl⟩, ended.until inTime⟩
  | fail error => exact through.elim
  | call op next ih =>
      rw [both] at through
      exact through_bothCall
        (fun answer order second start stop => ih answer) through

theorem through_gather {programs : List (Program Res δ ε α)}
    {order : Nat -> Nat -> Bool} {values : List α} {start stop : Nat}
    (through : (gather order programs).Through answered values start stop) :
    List.Forall₂ (fun program value => program.Through answered value start stop)
      programs values := by
  induction programs generalizing order values with
  | nil =>
      rw [← through.2]
      exact List.Forall₂.nil
  | cons program rest ih =>
      rcases through_bind through with ⟨pair, middle, together, inTime, rfl⟩
      rcases through_both together with ⟨first, others⟩
      refine List.Forall₂.cons (first.until inTime) ?_
      exact ih (others.until inTime)

end Through

end Program

end Transition
