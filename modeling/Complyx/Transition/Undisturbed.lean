import Complyx.Transition.Beside
import Complyx.Transition.Pool

namespace Transition

/-!
# Programs that run as if alone

A program may use an answer only in part.  `Heedless` says between which answers it
makes no difference.  If no operation of the others changes what a program would be
answered, up to such differences, it runs beside the others as it runs without them,
whatever it has in common with them otherwise.
-/

section Undisturbed

variable {Op : Type} {Res : Op -> Type} {δ ε ζ α β σ Env : Type}

namespace Program

/-- The program goes on in the same way from answers that are similar. -/
def Heedless
    (similar : (op : Op) -> Except δ (Res op) -> Except δ (Res op) -> Prop) :
    Program Res δ ε α -> Prop
  | .done _ => True
  | .fail _ => True
  | .call op next => forall answer other, similar op answer other ->
      next answer = next other ∧ (next answer).Heedless similar

variable {similar : (op : Op) -> Except δ (Res op) -> Except δ (Res op) -> Prop}

/-- Where only equal answers are similar there is nothing to tell apart. -/
theorem heedless_of_issues {exact : Op -> Prop}
    (equal : forall op answer other, exact op -> similar op answer other ->
      answer = other)
    {program : Program Res δ ε α} (issues : program.Issues exact) :
    program.Heedless similar := by
  induction program with
  | done value => trivial
  | fail error => trivial
  | call op next ih =>
      intro answer other alike
      exact ⟨congrArg next (equal op answer other issues.1 alike),
        ih answer (issues.2 answer)⟩

theorem heedless_lift (computation : Except ε α) :
    (lift computation : Program Res δ ε α).Heedless similar := by
  cases computation <;> trivial

theorem heedless_bind {program : Program Res δ ε α}
    {next : α -> Program Res δ ε β} (first : program.Heedless similar)
    (rest : forall value, (next value).Heedless similar) :
    (program >>= next).Heedless similar := by
  induction program with
  | done value => exact rest value
  | fail error => trivial
  | call op continuation ih =>
      intro answer other alike
      have same := first answer other alike
      exact ⟨congrArg (· >>= next) same.1, ih answer same.2⟩

theorem heedless_mapError (change : ε -> ζ) {program : Program Res δ ε α}
    (heedless : program.Heedless similar) :
    (program.mapError change).Heedless similar := by
  induction program with
  | done value => trivial
  | fail error => trivial
  | call op next ih =>
      intro answer other alike
      have same := heedless answer other alike
      exact ⟨congrArg (mapError change) same.1, ih answer same.2⟩

theorem heedless_beside {Other : Type} {OtherRes : Other -> Type}
    {similar : (op : Op ⊕ Other) -> Except δ (Sum.elim Res OtherRes op) ->
      Except δ (Sum.elim Res OtherRes op) -> Prop}
    {program : Program Res δ ε α}
    (heedless : program.Heedless fun op => similar (.inl op)) :
    (program.beside : Program (Sum.elim Res OtherRes) δ ε α).Heedless
      similar := by
  induction program with
  | done value => trivial
  | fail error => trivial
  | call op next ih =>
      intro answer other alike
      have same := heedless answer other alike
      exact ⟨congrArg beside same.1, ih answer same.2⟩

end Program

namespace Pool

/-- What the operations of a program, and those of the others, have to keep for the
program to run as if alone. -/
structure Unheard (exec : Env -> (op : Op) -> σ -> Except δ (Res op × σ))
    (own others : Op -> Prop)
    (similar : (op : Op) -> Except δ (Res op) -> Except δ (Res op) -> Prop)
    (alike : σ -> σ -> Prop) : Prop where
  same : forall env op whole alone, own op -> alike whole alone ->
    similar op (Program.perform exec env op whole).1
      (Program.perform exec env op alone).1 ∧
      alike (Program.perform exec env op whole).2
        (Program.perform exec env op alone).2
  unheard : forall env op whole alone, others op -> alike whole alone ->
    alike (Program.perform exec env op whole).2 alone

/-- The program in a pool, and the same in another where only it had its turns. -/
structure Twins (own others : Op -> Prop)
    (similar : (op : Op) -> Except δ (Res op) -> Except δ (Res op) -> Prop)
    (alike : σ -> σ -> Prop) (index : Nat)
    (whole alone : Pool Res δ ε α σ) : Prop where
  program : Exists fun program => whole.threads[index]? = some program ∧
    alone.threads[index]? = some program ∧
    program.Issues own ∧ program.Heedless similar
  others : whole.Issues others
  alike : alike whole.store alone.store

variable {exec : Env -> (op : Op) -> σ -> Except δ (Res op × σ)}
  {own others : Op -> Prop}
  {similar : (op : Op) -> Except δ (Res op) -> Except δ (Res op) -> Prop}
  {alike : σ -> σ -> Prop} {index : Nat}
  {whole alone : Pool Res δ ε α σ}

/-- A turn of another program. -/
theorem twins_other (unheard : Unheard exec own others similar alike)
    (twins : Twins own others similar alike index whole alone) {label : Nat × Env}
    (apart : label.1 ≠ index) :
    Twins own others similar alike index (whole.step exec label) alone := by
  rcases twins.program with ⟨program, here, there, issues, heedless⟩
  have kept : (whole.step exec label).Issues others :=
    issues_step whole label twins.others
  rcases step_cases exec whole label with ⟨_, same⟩ | ⟨op, next, turn, stepped⟩
  · rw [same]
    exact twins
  · refine ⟨⟨program, ?_, there, issues, heedless⟩, kept, ?_⟩
    · rw [step_get turn, if_neg (Ne.symm apart)]
      exact here
    · rw [stepped]
      exact unheard.unheard label.2 op whole.store alone.store
        (twins.others.turn turn) twins.alike

/-- A turn of its own, in both pools. -/
theorem twins_own (unheard : Unheard exec own others similar alike)
    (twins : Twins own others similar alike index whole alone) {label : Nat × Env}
    (mine : label.1 = index) :
    Twins own others similar alike index (whole.step exec label)
      (alone.step exec label) := by
  rcases twins.program with ⟨program, here, there, issues, heedless⟩
  have kept : (whole.step exec label).Issues others :=
    issues_step whole label twins.others
  rw [← mine] at here there
  rcases step_cases exec whole label with ⟨idle, same⟩ | ⟨op, next, turn, stepped⟩
  · have idleAlone : alone.step exec label = alone := by
      refine step_idle fun op next turn => idle op next ?_
      rw [here, ← there, turn]
    rw [same, idleAlone]
    exact twins
  · rw [turn] at here
    have told := Option.some.inj here
    rw [← told] at there issues heedless
    have answers :=
      unheard.same label.2 op whole.store alone.store issues.1 twins.alike
    have onward := heedless _ _ answers.1
    refine ⟨⟨_, ?_, ?_, issues.2 _, onward.2⟩, kept, ?_⟩
    · rw [step_get turn, if_pos mine.symm]
    · rw [step_get there, if_pos mine.symm, onward.1]
    · rw [stepped, step_call there]
      exact answers.2

/-- The program ends beside the others as it ends when nobody else has a turn. -/
theorem twins_run (unheard : Unheard exec own others similar alike)
    (twins : Twins own others similar alike index whole alone)
    (labels : List (Nat × Env)) :
    (after (Pool.step exec) whole labels).threads[index]? =
      (after (Pool.step exec) alone
        (labels.filter fun label => label.1 = index)).threads[index]? := by
  induction labels generalizing whole alone with
  | nil =>
      rcases twins.program with ⟨program, here, there, _, _⟩
      exact here.trans there.symm
  | cons label rest ih =>
      by_cases mine : label.1 = index
      · rw [List.filter_cons, if_pos (decide_eq_true mine)]
        exact ih (twins_own unheard twins mine)
      · rw [List.filter_cons, if_neg (mt of_decide_eq_true mine)]
        exact ih (twins_other unheard twins mine)

end Pool

end Undisturbed

end Transition
