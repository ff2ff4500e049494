import Complyx.Transition.Expand

namespace Transition

/-!
# What a program does whatever it is answered

In a pool nobody knows what the operations of a program will be answered, only
that the answers are of a certain kind.  `Yields` says what a program can return
as long as they are.  A program that can return nothing as long as a debt is
open pays the debt before it returns, and `Obliges` says that it runs into debt
only where it pays.

Both follow the program's text and are kept by expansion.
-/

namespace Program

variable {Op : Type} {Res : Op -> Type} {δ ε ζ α β : Type}

/-- As long as every answer is expected, only values with the property are
returned. -/
def Yields (expected : (op : Op) -> Except δ (Res op) -> Prop)
    (post : α -> Prop) :
    Program Res δ ε α -> Prop
  | .done value => post value
  | .fail _ => True
  | .call op next =>
      forall answer, expected op answer -> (next answer).Yields expected post

/-- Whenever an answer incurs it, what follows does its duty. -/
def Obliges (incurs : (op : Op) -> Except δ (Res op) -> Prop)
    (duty : Program Res δ ε α -> Prop) :
    Program Res δ ε α -> Prop
  | .done _ => True
  | .fail _ => True
  | .call op next =>
      forall answer, (incurs op answer -> duty (next answer)) ∧
        (next answer).Obliges incurs duty

/-- As long as every answer is expected, the program does not fail. -/
def Completes (expected : (op : Op) -> Except δ (Res op) -> Prop) :
    Program Res δ ε α -> Prop
  | .done _ => True
  | .fail _ => False
  | .call op next =>
      forall answer, expected op answer -> (next answer).Completes expected

/-- Whatever it is answered, the program fails with such errors only. -/
def FailsWith (allowed : ε -> Prop) : Program Res δ ε α -> Prop
  | .done _ => True
  | .fail error => allowed error
  | .call _ next => forall answer, (next answer).FailsWith allowed

/-- Some answers of those that are possible lead to the value. -/
def Reaches (possible : (op : Op) -> Except δ (Res op) -> Prop) (value : α) :
    Program Res δ ε α -> Prop
  | .done result => result = value
  | .fail _ => False
  | .call op next =>
      Exists fun answer => possible op answer ∧
        (next answer).Reaches possible value

section Yields

variable {expected : (op : Op) -> Except δ (Res op) -> Prop}

theorem yields_attempt (wrap : δ -> ε) {op : Op} {post : Res op -> Prop}
    (holds : forall value, expected op (.ok value) -> post value) :
    (attempt wrap op : Program Res δ ε (Res op)).Yields expected post := by
  intro answer answered
  cases answer with
  | ok value => exact holds value answered
  | error failure => trivial

theorem yields_lift {computation : Except ε α} {post : α -> Prop}
    (holds : forall value, computation = .ok value -> post value) :
    (lift computation : Program Res δ ε α).Yields expected post := by
  cases computation with
  | ok value => exact holds value rfl
  | error failure => trivial

theorem yields_bind {middle : α -> Prop} {post : β -> Prop}
    {program : Program Res δ ε α} {next : α -> Program Res δ ε β}
    (first : program.Yields expected middle)
    (rest : forall value, middle value -> (next value).Yields expected post) :
    (program >>= next).Yields expected post := by
  induction program with
  | done value => exact rest value first
  | fail error => trivial
  | call op continuation ih =>
      exact fun answer answered => ih answer (first answer answered)

theorem yields_true (program : Program Res δ ε α) :
    program.Yields expected fun _ => True := by
  induction program with
  | done value => trivial
  | fail error => trivial
  | call op next ih => exact fun answer _ => ih answer

theorem yields_capture {post : α -> Prop} {post' : Except ε α -> Prop}
    {program : Program Res δ ε α} (yields : program.Yields expected post)
    (ok : forall value, post value -> post' (.ok value))
    (error : forall failure, post' (.error failure)) :
    (program.capture : Program Res δ ζ (Except ε α)).Yields expected post' := by
  induction program with
  | done value => exact ok value yields
  | fail failure => exact error failure
  | call op next ih =>
      exact fun answer answered => ih answer (yields answer answered)

/-- What follows is issued after a value with the property. -/
theorem issues_bind_yielded {allowed : Op -> Prop} {middle : α -> Prop}
    {program : Program Res δ ε α} {next : α -> Program Res δ ε β}
    (first : program.Issues allowed)
    (yields : program.Yields (fun _ _ => True) middle)
    (rest : forall value, middle value -> (next value).Issues allowed) :
    (program >>= next).Issues allowed := by
  induction program with
  | done value => exact rest value yields
  | fail error => trivial
  | call op continuation ih =>
      exact ⟨first.1, fun answer =>
        ih answer (first.2 answer) (yields answer trivial)⟩

/-- A program that only reads is answered from the store it starts in. -/
theorem run_yields {Env σ : Type}
    {exec : Env -> (op : Op) -> σ -> Except δ (Res op × σ)} {allowed : Op -> Prop}
    {store store' : σ}
    (reads : forall env op, allowed op ->
      (perform exec env op store).2 = store ∧
        expected op (perform exec env op store).1)
    {program : Program Res δ ε α} (issues : program.Issues allowed)
    {post : α -> Prop} (yields : program.Yields expected post) {envs : Nat -> Env}
    {value : α} (ran : run exec program envs store = (.ok value, store')) :
    store' = store ∧ post value := by
  induction program generalizing envs with
  | done result =>
      cases ran
      exact ⟨rfl, yields⟩
  | fail error => cases congrArg Prod.fst ran
  | call op next ih =>
      have answered := reads (envs 0) op issues.1
      rw [run_call, answered.1] at ran
      exact ih _ (issues.2 _) (yields _ answered.2) ran

/-- What a program yields to any answers it returns in any store. -/
theorem run_yields_anyhow {Env σ : Type}
    {exec : Env -> (op : Op) -> σ -> Except δ (Res op × σ)}
    {program : Program Res δ ε α} {post : α -> Prop}
    (yields : program.Yields (fun _ _ => True) post) {envs : Nat -> Env}
    {store store' : σ} {value : α}
    (ran : run exec program envs store = (.ok value, store')) : post value := by
  induction program generalizing envs store with
  | done result =>
      cases ran
      exact yields
  | fail error => cases congrArg Prod.fst ran
  | call op next ih =>
      rw [run_call] at ran
      exact ih _ (yields _ trivial) ran

end Yields

section Completes

variable {expected : (op : Op) -> Except δ (Res op) -> Prop}

theorem completes_attempt (wrap : δ -> ε) {op : Op}
    (answers : forall failure, ¬ expected op (.error failure)) :
    (attempt wrap op : Program Res δ ε (Res op)).Completes expected := by
  intro answer answered
  cases answer with
  | ok value => trivial
  | error failure => exact absurd answered (answers failure)

theorem completes_bind {program : Program Res δ ε α}
    {next : α -> Program Res δ ε β} (first : program.Completes expected)
    (rest : forall value, (next value).Completes expected) :
    (program >>= next).Completes expected := by
  induction program with
  | done value => exact rest value
  | fail error => exact first.elim
  | call op continuation ih =>
      exact fun answer answered => ih answer (first answer answered)

theorem run_completes {Env σ : Type}
    {exec : Env -> (op : Op) -> σ -> Except δ (Res op × σ)} {allowed : Op -> Prop}
    {envs : Nat -> Env}
    (answers : forall n op store, allowed op ->
      expected op (perform exec (envs n) op store).1)
    {program : Program Res δ ε α} (issues : program.Issues allowed)
    (completes : program.Completes expected) (store : σ) :
    Exists fun value => Exists fun store' =>
      run exec program envs store = (.ok value, store') := by
  induction program generalizing envs store with
  | done value => exact ⟨value, store, rfl⟩
  | fail error => exact completes.elim
  | call op next ih =>
      rw [run_call]
      exact ih _ (fun n => answers (n + 1)) (issues.2 _)
        (completes _ (answers 0 op store issues.1)) _

end Completes

section FailsWith

variable {allowed : ε -> Prop}

theorem failsWith_attempt (wrap : δ -> ε) (op : Op)
    (wrapped : forall failure, allowed (wrap failure)) :
    (attempt wrap op : Program Res δ ε (Res op)).FailsWith allowed := by
  intro answer
  cases answer with
  | ok value => trivial
  | error failure => exact wrapped failure

theorem failsWith_bind {middle : α -> Prop} {program : Program Res δ ε α}
    {next : α -> Program Res δ ε β} (first : program.FailsWith allowed)
    (yields : program.Yields (fun _ _ => True) middle)
    (rest : forall value, middle value -> (next value).FailsWith allowed) :
    (program >>= next).FailsWith allowed := by
  induction program with
  | done value => exact rest value yields
  | fail error => exact first
  | call op continuation ih =>
      exact fun answer => ih answer (first answer) (yields answer trivial)

theorem failsWith_seq {program : Program Res δ ε α}
    {next : α -> Program Res δ ε β} (first : program.FailsWith allowed)
    (rest : forall value, (next value).FailsWith allowed) :
    (program >>= next).FailsWith allowed :=
  failsWith_bind first (yields_true program) fun value _ => rest value

theorem run_failsWith {Env σ : Type}
    {exec : Env -> (op : Op) -> σ -> Except δ (Res op × σ)}
    {program : Program Res δ ε α} (fails : program.FailsWith allowed)
    {envs : Nat -> Env} {store store' : σ} {error : ε}
    (ran : run exec program envs store = (.error error, store')) :
    allowed error := by
  induction program generalizing envs store with
  | done value => cases congrArg Prod.fst ran
  | fail failure =>
      cases ran
      exact fails
  | call op next ih =>
      rw [run_call] at ran
      exact ih _ (fails _) ran

end FailsWith

section Reaches

variable {possible : (op : Op) -> Except δ (Res op) -> Prop}

theorem reaches_attempt (wrap : δ -> ε) {op : Op} {value : Res op}
    (answered : possible op (.ok value)) :
    (attempt wrap op : Program Res δ ε (Res op)).Reaches possible value :=
  ⟨.ok value, answered, rfl⟩

theorem reaches_bind {middle : α} {value : β} {program : Program Res δ ε α}
    {next : α -> Program Res δ ε β} (first : program.Reaches possible middle)
    (rest : (next middle).Reaches possible value) :
    (program >>= next).Reaches possible value := by
  induction program with
  | done result =>
      have same : result = middle := first
      rw [same]
      exact rest
  | fail error => exact first.elim
  | call op continuation ih =>
      rcases first with ⟨answer, answered, later⟩
      exact ⟨answer, answered, ih answer later⟩

/-- Answers that the store can give without changing are given in some run. -/
theorem exists_run_reaches {Env σ : Type}
    {exec : Env -> (op : Op) -> σ -> Except δ (Res op × σ)} {store : σ}
    (given : forall op answer, possible op answer -> Exists fun env =>
      perform exec env op store = (answer, store))
    (anything : Nat -> Env) {program : Program Res δ ε α} {value : α}
    (reaches : program.Reaches possible value) :
    Exists fun envs => run exec program envs store = (.ok value, store) := by
  induction program with
  | done result =>
      have same : result = value := reaches
      rw [same]
      exact ⟨anything, rfl⟩
  | fail error => exact reaches.elim
  | call op next ih =>
      rcases reaches with ⟨answer, answered, later⟩
      rcases given op answer answered with ⟨env, performed⟩
      rcases ih answer later with ⟨envs, ran⟩
      refine ⟨fun | 0 => env | n + 1 => envs n, ?_⟩
      rw [run_call, performed]
      exact ran

end Reaches

/-! ## What a program can do if the environment allows it -/

section May

variable {Env σ : Type} (exec : Env -> (op : Op) -> σ -> Except δ (Res op × σ))

/-- In some environments the program returns a value and a store with the
property. -/
def May (post : α -> σ -> Prop) : Program Res δ ε α -> σ -> Prop
  | .done value, store => post value store
  | .fail _, _ => False
  | .call op next, store => Exists fun env =>
      (next (perform exec env op store).1).May post (perform exec env op store).2

variable {exec} {store : σ}

theorem may_attempt (wrap : δ -> ε) {op : Op} {post : Res op -> σ -> Prop}
    (env : Env) {value : Res op} {store' : σ}
    (performed : exec env op store = .ok (value, store'))
    (holds : post value store') :
    (attempt wrap op : Program Res δ ε (Res op)).May exec post store := by
  refine ⟨env, ?_⟩
  rw [perform_ok performed]
  exact holds

theorem may_bind {post : β -> σ -> Prop} {first : α -> σ -> Prop}
    {program : Program Res δ ε α} {next : α -> Program Res δ ε β}
    (may : program.May exec first store)
    (rest : forall value store', first value store' ->
      (next value).May exec post store') :
    (program >>= next).May exec post store := by
  induction program generalizing store with
  | done value => exact rest value store may
  | fail error => exact may.elim
  | call op continuation ih =>
      rcases may with ⟨env, later⟩
      exact ⟨env, ih _ later⟩

/-- The environments of the single operations make up those of a run. -/
theorem exists_run_may {post : α -> σ -> Prop} {program : Program Res δ ε α}
    (anything : Nat -> Env) (may : program.May exec post store) :
    Exists fun envs => Exists fun value => Exists fun store' =>
      run exec program envs store = (.ok value, store') ∧ post value store' := by
  induction program generalizing store with
  | done value => exact ⟨anything, value, store, rfl, may⟩
  | fail error => exact may.elim
  | call op next ih =>
      rcases may with ⟨env, later⟩
      rcases ih _ later with ⟨envs, value, store', ran, holds⟩
      refine ⟨fun | 0 => env | n + 1 => envs n, value, store', ?_, holds⟩
      rw [run_call]
      exact ran

end May

section Obliges

variable {incurs : (op : Op) -> Except δ (Res op) -> Prop}
  {duty : Program Res δ ε β -> Prop} {quiet : Op -> Prop}

/-- A part that incurs nothing leaves the duties to the rest. -/
theorem obliges_bind {program : Program Res δ ε α} {next : α -> Program Res δ ε β}
    (issues : program.Issues quiet)
    (free : forall op answer, quiet op -> ¬ incurs op answer)
    (rest : forall value, (next value).Obliges incurs duty) :
    (program >>= next).Obliges incurs duty := by
  induction program with
  | done value => exact rest value
  | fail error => trivial
  | call op continuation ih =>
      intro answer
      exact ⟨fun incurred => absurd incurred (free op answer issues.1),
        ih answer (issues.2 answer)⟩

theorem obliges_of_issues {program : Program Res δ ε β}
    (issues : program.Issues quiet)
    (free : forall op answer, quiet op -> ¬ incurs op answer) :
    program.Obliges incurs duty := by
  rw [← bind_done program]
  exact obliges_bind issues free fun value => trivial

end Obliges

section Expand

variable {Fine : Type} {FineRes : Fine -> Type}
  {implement : (op : Op) -> Program FineRes δ δ (Res op)}

theorem issues_capture {allowed : Op -> Prop} {program : Program Res δ ε α}
    (issues : program.Issues allowed) :
    (program.capture : Program Res δ ζ (Except ε α)).Issues allowed := by
  induction program with
  | done value => trivial
  | fail failure => trivial
  | call op next ih => exact ⟨issues.1, fun answer => ih answer (issues.2 answer)⟩

theorem issues_expand {allowed : Op -> Prop} {fineAllowed : Fine -> Prop}
    (implemented : forall op, allowed op -> (implement op).Issues fineAllowed)
    {program : Program Res δ ε α} (issues : program.Issues allowed) :
    (program.expand implement).Issues fineAllowed := by
  induction program with
  | done value => trivial
  | fail failure => trivial
  | call op next ih =>
      exact issues_bind (issues_capture (implemented op issues.1)) fun answer =>
        ih answer (issues.2 answer)

theorem yields_expand {expected : (op : Op) -> Except δ (Res op) -> Prop}
    {fineExpected : (op : Fine) -> Except δ (FineRes op) -> Prop}
    {post : α -> Prop}
    (implemented : forall op, (implement op).Yields fineExpected fun value =>
      expected op (.ok value))
    (failing : forall op failure, expected op (.error failure))
    {program : Program Res δ ε α} (yields : program.Yields expected post) :
    (program.expand implement).Yields fineExpected post := by
  induction program with
  | done value => exact yields
  | fail failure => trivial
  | call op next ih =>
      have captured :
          ((implement op).capture :
            Program FineRes δ ε (Except δ (Res op))).Yields fineExpected
          (expected op) :=
        yields_capture (implemented op) (fun value answered => answered)
          (failing op)
      exact yields_bind captured fun answer answered =>
        ih answer (yields answer answered)

theorem obliges_expand {incurs : (op : Op) -> Except δ (Res op) -> Prop}
    {duty : Program Res δ ε α -> Prop}
    {fineIncurs : (op : Fine) -> Except δ (FineRes op) -> Prop}
    {fineDuty : Program FineRes δ ε α -> Prop}
    (implemented : forall op (next : Except δ (Res op) -> Program FineRes δ ε α),
      (forall answer, (incurs op answer -> fineDuty (next answer)) ∧
        (next answer).Obliges fineIncurs fineDuty) ->
      ((implement op).capture >>= next).Obliges fineIncurs fineDuty)
    (duties : forall program, duty program -> fineDuty (program.expand implement))
    {program : Program Res δ ε α} (obliges : program.Obliges incurs duty) :
    (program.expand implement).Obliges fineIncurs fineDuty := by
  induction program with
  | done value => trivial
  | fail failure => trivial
  | call op next ih =>
      apply implemented
      intro answer
      exact ⟨fun incurred => duties _ ((obliges answer).1 incurred),
        ih answer (obliges answer).2⟩

end Expand

end Program

end Transition
