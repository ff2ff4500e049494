import Complyx.Transition.Beside
import Complyx.Transition.Outcomes
import Complyx.Transition.Pool

namespace Transition

/-!
# Programs that end

A program that issues no more than a number of operations, as long as every answer
is expected, ends in a pool once it had as many turns.  What the other programs do
between its turns only has to leave every answer expected.

`Arrives` says the same of a place in the program's text: so many expected answers
lead there.
-/

section Bounded

variable {Op : Type} {Res : Op -> Type} {δ ε ζ α β σ Env : Type}

namespace Program

/-- As long as every answer is expected, the program ends after at most so many
operations, and a value it returns has the property. -/
def Within (expected : (op : Op) -> Except δ (Res op) -> Prop)
    (post : α -> Prop) :
    Program Res δ ε α -> Nat -> Prop
  | .done value, _ => post value
  | .fail _, _ => True
  | .call _ _, 0 => False
  | .call op next, bound + 1 =>
      forall answer, expected op answer ->
        (next answer).Within expected post bound

variable {expected : (op : Op) -> Except δ (Res op) -> Prop}

theorem Within.mono {post : α -> Prop} {program : Program Res δ ε α}
    {bound more : Nat} (within : program.Within expected post bound)
    (below : bound ≤ more) : program.Within expected post more := by
  induction program generalizing bound more with
  | done value => exact within
  | fail error => trivial
  | call op next ih =>
      cases bound with
      | zero => exact within.elim
      | succ bound =>
          cases more with
          | zero => exact absurd below (Nat.not_succ_le_zero bound)
          | succ more =>
              exact fun answer answered =>
                ih answer (within answer answered) (Nat.le_of_succ_le_succ below)

/-- One operation, and what follows its answer. -/
theorem within_attempt_bind (wrap : δ -> ε) {op : Op}
    {next : Res op -> Program Res δ ε β} {post : β -> Prop} {bound : Nat}
    (follows : forall value, expected op (.ok value) ->
      (next value).Within expected post bound) :
    (attempt wrap op >>= next).Within expected post (bound + 1) := by
  rw [attempt_bind]
  intro answer answered
  cases answer with
  | ok value => exact follows value answered
  | error failure => trivial

theorem within_attempt (wrap : δ -> ε) {op : Op} {post : Res op -> Prop}
    (holds : forall value, expected op (.ok value) -> post value) :
    (attempt wrap op : Program Res δ ε (Res op)).Within expected post 1 := by
  intro answer answered
  cases answer with
  | ok value => exact holds value answered
  | error failure => trivial

theorem within_lift (computation : Except ε α) {post : α -> Prop}
    (holds : forall value, computation = .ok value -> post value) :
    (lift computation : Program Res δ ε α).Within expected post 0 := by
  cases computation with
  | ok value => exact holds value rfl
  | error failure => trivial

theorem within_lift_bind {computation : Except ε α}
    {next : α -> Program Res δ ε β} {post : β -> Prop} {bound : Nat}
    (follows : forall value, computation = .ok value ->
      (next value).Within expected post bound) :
    ((lift computation : Program Res δ ε α) >>= next).Within expected
      post bound := by
  cases computation with
  | ok value => exact follows value rfl
  | error failure => trivial

theorem within_bind {middle : α -> Prop} {post : β -> Prop}
    {program : Program Res δ ε α} {next : α -> Program Res δ ε β}
    {bound rest : Nat} (first : program.Within expected middle bound)
    (follows : forall value, middle value ->
      (next value).Within expected post rest) :
    (program >>= next).Within expected post (bound + rest) := by
  induction program generalizing bound with
  | done value => exact (follows value first).mono (Nat.le_add_left rest bound)
  | fail error => trivial
  | call op continuation ih =>
      cases bound with
      | zero => exact first.elim
      | succ bound =>
          rw [Nat.succ_add]
          exact fun answer answered => ih answer (first answer answered)

theorem within_map {middle : α -> Prop} {post : β -> Prop}
    {program : Program Res δ ε α} {result : α -> β} {bound : Nat}
    (first : program.Within expected middle bound)
    (holds : forall value, middle value -> post (result value)) :
    (program >>= fun value => .done (result value)).Within expected
      post bound := by
  rw [← Nat.add_zero bound]
  exact within_bind first fun value given => holds value given

/-- The operations and the value may be bounded apart. -/
theorem Within.yielding {first middle second : α -> Prop}
    {program : Program Res δ ε α} {bound : Nat}
    (within : program.Within expected first bound)
    (yields : program.Yields (fun _ _ => True) middle)
    (holds : forall value, middle value -> second value) :
    program.Within expected second bound := by
  induction program generalizing bound with
  | done value => exact holds value yields
  | fail error => trivial
  | call op next ih =>
      cases bound with
      | zero => exact within.elim
      | succ bound =>
          exact fun answer answered =>
            ih answer (within answer answered) (yields answer trivial)

theorem within_mapError (change : ε -> ζ) {post : α -> Prop}
    {program : Program Res δ ε α} {bound : Nat}
    (within : program.Within expected post bound) :
    (program.mapError change).Within expected post bound := by
  induction program generalizing bound with
  | done value => exact within
  | fail error => trivial
  | call op next ih =>
      cases bound with
      | zero => exact within.elim
      | succ bound =>
          exact fun answer answered => ih answer (within answer answered)

theorem within_beside {Other : Type} {OtherRes : Other -> Type}
    {expected : (op : Op ⊕ Other) -> Except δ (Sum.elim Res OtherRes op) -> Prop}
    {post : α -> Prop} {program : Program Res δ ε α} {bound : Nat}
    (within : program.Within (fun op => expected (.inl op)) post bound) :
    (program.beside : Program (Sum.elim Res OtherRes) δ ε α).Within expected
      post bound := by
  induction program generalizing bound with
  | done value => exact within
  | fail error => trivial
  | call op next ih =>
      cases bound with
      | zero => exact within.elim
      | succ bound =>
          exact fun answer answered => ih answer (within answer answered)

/-- After exactly so many operations that are answered as expected, the rest of the
program meets the goal. -/
def Arrives (expected : (op : Op) -> Except δ (Res op) -> Prop)
    (goal : Program Res δ ε α -> Prop) :
    Nat -> Program Res δ ε α -> Prop
  | 0, program => goal program
  | turns + 1, .call op next =>
      forall answer, expected op answer ->
        (next answer).Arrives expected goal turns
  | _ + 1, _ => False

/-- A part that returns a value leaves the rest to be run with it. -/
theorem arrives_bind {program : Program Res δ ε α} {next : α -> Program Res δ ε β}
    {value : α} {turns : Nat}
    (returns : program.Arrives expected (fun rest => rest = .done value) turns) :
    (program >>= next).Arrives expected
      (fun rest => rest = next value) turns := by
  induction turns generalizing program with
  | zero =>
      have ended : program = .done value := returns
      rw [ended]
      rfl
  | succ turns ih =>
      cases program with
      | done other => exact returns.elim
      | fail error => exact returns.elim
      | call op continuation =>
          exact fun answer answered => ih (returns answer answered)

theorem arrives_mapError (change : ε -> ζ) {program : Program Res δ ε α}
    {value : α} {turns : Nat}
    (returns : program.Arrives expected (fun rest => rest = .done value) turns) :
    (program.mapError change).Arrives expected
      (fun rest => rest = .done value) turns := by
  induction turns generalizing program with
  | zero =>
      have ended : program = .done value := returns
      rw [ended]
      rfl
  | succ turns ih =>
      cases program with
      | done other => exact returns.elim
      | fail error => exact returns.elim
      | call op continuation =>
          exact fun answer answered => ih (returns answer answered)

theorem arrives_beside {Other : Type} {OtherRes : Other -> Type}
    {expected : (op : Op ⊕ Other) -> Except δ (Sum.elim Res OtherRes op) -> Prop}
    {program : Program Res δ ε α} {value : α} {turns : Nat}
    (returns : program.Arrives (fun op => expected (.inl op))
      (fun rest => rest = .done value) turns) :
    (program.beside : Program (Sum.elim Res OtherRes) δ ε α).Arrives expected
    (fun rest => rest = .done value)
      turns := by
  induction turns generalizing program with
  | zero =>
      have ended : program = .done value := returns
      rw [ended]
      rfl
  | succ turns ih =>
      cases program with
      | done other => exact returns.elim
      | fail error => exact returns.elim
      | call op continuation =>
          exact fun answer answered => ih (returns answer answered)

end Program

/-! ## Turns -/

/-- How often a program has its turn in a run. -/
def turnsOf (index : Nat) (labels : List (Nat × Env)) : Nat :=
  labels.countP fun label => label.1 = index

theorem turnsOf_cons (index : Nat) (label : Nat × Env)
    (labels : List (Nat × Env)) :
    turnsOf index (label :: labels) = turnsOf index labels + if label.1 =
      index then 1 else 0 := by
  rw [turnsOf, List.countP_cons]
  simp only [decide_eq_true_eq]
  rfl

namespace Pool

variable {exec : Env -> (op : Op) -> σ -> Except δ (Res op × σ)}
  {expected : (op : Op) -> Except δ (Res op) -> Prop}
  {post : α -> Prop}

/-- The program has at most so many operations before it. -/
def Left (expected : (op : Op) -> Except δ (Res op) -> Prop) (post : α -> Prop)
    (index bound : Nat) (pool : Pool Res δ ε α σ) : Prop :=
  Exists fun program => pool.threads[index]? = some program ∧
    program.Within expected post bound

/-- The program has returned or failed. -/
def Ended (index : Nat) (pool : Pool Res δ ε α σ) : Prop :=
  (pool.returned index).isSome = true ∨ Exists fun error =>
    pool.threads[index]? = some (.fail error)

theorem left_step {pool : Pool Res δ ε α σ} {index bound : Nat}
    (left : pool.Left expected post index bound) (label : Nat × Env)
    (answers : forall op,
      expected op (Program.perform exec label.2 op pool.store).1) :
    (pool.step exec label).Left expected post index
      (bound - if label.1 = index then 1 else 0) := by
  rcases left with ⟨program, here, within⟩
  by_cases mine : label.1 = index
  · rw [if_pos mine]
    rcases step_cases exec pool label with ⟨idle, same⟩ | ⟨op, next, turn, _⟩
    · rw [same]
      refine ⟨program, here, ?_⟩
      cases program with
      | done value => exact within
      | fail error => trivial
      | call op next => exact absurd (mine ▸ here) (idle op next)
    · have same := Option.some.inj (here.symm.trans (mine ▸ turn))
      rw [same] at within
      refine ⟨_, by rw [step_get turn, if_pos mine.symm], ?_⟩
      cases bound with
      | zero => exact within.elim
      | succ bound => exact within _ (answers op)
  · rw [if_neg mine]
    refine ⟨program, ?_, within⟩
    rcases step_cases exec pool label with ⟨_, same⟩ | ⟨op, next, turn, _⟩
    · rw [same]
      exact here
    · rw [step_get turn, if_neg (Ne.symm mine)]
      exact here

/-- Each turn brings the program closer to its end. -/
theorem left_run {pool : Pool Res δ ε α σ} {index bound : Nat}
    (left : pool.Left expected post index bound) {labels : List (Nat × Env)}
    (every :
      Always (Pool.step exec)
        (fun pool => forall env op,
          expected op (Program.perform exec env op pool.store).1)
          pool labels) :
    (after (Pool.step exec) pool labels).Left expected post index
      (bound - turnsOf index labels) := by
  induction labels generalizing pool bound with
  | nil => exact left
  | cons label rest ih =>
      have parts := always_cons.mp every
      have later := ih (left_step left label (parts.1 label.2)) parts.2
      rw [turnsOf_cons, Nat.add_comm, ← Nat.sub_sub]
      exact later

theorem Left.ended {pool : Pool Res δ ε α σ} {index : Nat}
    (left : pool.Left expected post index 0) :
    pool.Ended index := by
  rcases left with ⟨program, here, within⟩
  cases program with
  | done value =>
      left
      rw [returned, here]
      rfl
  | fail error => exact Or.inr ⟨error, here⟩
  | call op next => exact within.elim

/-- A program whose own turns are all answered as expected arrives, whatever the
other programs do between them. -/
theorem arrives_run {goal : Program Res δ ε α -> Prop} {pool : Pool Res δ ε α σ}
    {index turns : Nat} {program : Program Res δ ε α}
    (here : pool.threads[index]? = some program)
    (arrives : program.Arrives expected goal turns) {labels : List (Nat × Env)}
    (answers : Meets (Pool.step exec) (fun pool label => label.1 = index ->
      forall op,
        expected op (Program.perform exec label.2 op pool.store).1) pool labels)
    (enough : turns ≤ turnsOf index labels) :
    Exists fun before => before <+: labels ∧ Exists fun rest =>
      (after (Pool.step exec) pool before).threads[index]? = some rest ∧
        goal rest := by
  induction labels generalizing pool program turns with
  | nil =>
      cases turns with
      | zero => exact ⟨[], List.prefix_rfl, program, here, arrives⟩
      | succ turns => exact absurd enough (Nat.not_succ_le_zero turns)
  | cons label labels ih =>
      cases turns with
      | zero => exact ⟨[], List.nil_prefix, program, here, arrives⟩
      | succ turns =>
          cases program with
          | done value => exact arrives.elim
          | fail error => exact arrives.elim
          | call op next =>
              rw [turnsOf_cons] at enough
              by_cases mine : label.1 = index
              · rw [if_pos mine] at enough
                have stepped : (pool.step exec label).threads[index]? =
                    some (next (Program.perform exec label.2 op
                      pool.store).1) := by
                  rw [step_get (mine ▸ here), if_pos mine.symm]
                rcases ih stepped (arrives _ (answers.1 mine op)) answers.2
                    (Nat.le_of_succ_le_succ enough) with
                  ⟨before, isPrefix, found⟩
                exact ⟨label :: before,
                  List.cons_prefix_cons.mpr ⟨rfl, isPrefix⟩, found⟩
              · rw [if_neg mine] at enough
                have stepped :
                    (pool.step exec label).threads[index]? =
                      some (.call op next) := by
                  rcases step_cases exec pool label with
                    ⟨_, same⟩ | ⟨op', next', turn, _⟩
                  · rw [same]
                    exact here
                  · rw [step_get turn, if_neg (Ne.symm mine)]
                    exact here
                rcases ih stepped arrives answers.2 enough with
                  ⟨before, isPrefix, found⟩
                exact ⟨label :: before,
                  List.cons_prefix_cons.mpr ⟨rfl, isPrefix⟩, found⟩

end Pool

end Bounded

end Transition
