import Complyx.Transition.Beside
import Complyx.Transition.Knowledge
import Complyx.Transition.Outcomes
import Complyx.Transition.Turns

namespace Transition

/-!
# What a program has been told when it acts

A program may act, or return, only after certain answers.  `Earns` says so along
the program's text.  In a pool each of these answers was given in some store the
run passed, whatever the other programs do before and after: the rule asks only
what an answer says of the store it is given in.
-/

section Witnessed

variable {Op : Type} {Res : Op -> Type} {δ ε ζ α β σ Env κ : Type}

namespace Program

/-- Whatever is answered, only those operations are issued that may follow, and
only values are returned that have been earned. -/
def Earns (note : κ -> (op : Op) -> Except δ (Res op) -> κ)
    (allowed : κ -> Op -> Prop) (earned : κ -> α -> Prop) :
    Program Res δ ε α -> κ -> Prop
  | .done value, known => earned known value
  | .fail _, _ => True
  | .call op next, known =>
      allowed known op ∧ forall answer,
        (next answer).Earns note allowed earned (note known op answer)

variable {note : κ -> (op : Op) -> Except δ (Res op) -> κ}
  {allowed : κ -> Op -> Prop} {earned : κ -> α -> Prop}

theorem earns_attempt (wrap : δ -> ε) {op : Op} {known : κ}
    {earned : κ -> Res op -> Prop} (permitted : allowed known op)
    (gained : forall value, earned (note known op (.ok value)) value) :
    (attempt wrap op : Program Res δ ε (Res op)).Earns note allowed
      earned known := by
  refine ⟨permitted, ?_⟩
  intro answer
  cases answer with
  | ok value => exact gained value
  | error failure => trivial

theorem earns_lift {computation : Except ε α} {known : κ}
    (gained : forall value, computation = .ok value -> earned known value) :
    (lift computation : Program Res δ ε α).Earns note allowed earned known := by
  cases computation with
  | ok value => exact gained value rfl
  | error failure => trivial

/-- What the first program has earned is there when the second starts. -/
theorem earns_bind {middle : κ -> β -> Prop} {program : Program Res δ ε β}
    {next : β -> Program Res δ ε α} {known : κ}
    (first : program.Earns note allowed middle known)
    (rest : forall value known, middle known value ->
      (next value).Earns note allowed earned known) :
    (program >>= next).Earns note allowed earned known := by
  induction program generalizing known with
  | done value => exact rest value known first
  | fail error => trivial
  | call op continuation ih =>
      exact ⟨first.1, fun answer => ih answer (first.2 answer)⟩

theorem earns_mapError (change : ε -> ζ) {program : Program Res δ ε α} {known : κ}
    (earns : program.Earns note allowed earned known) :
    (program.mapError change).Earns note allowed earned known := by
  induction program generalizing known with
  | done value => exact earns
  | fail error => trivial
  | call op next ih => exact ⟨earns.1, fun answer => ih answer (earns.2 answer)⟩

/-- A part that uses one of two stores. -/
theorem earns_beside {Other : Type} {OtherRes : Other -> Type}
    {note : κ -> (op : Op ⊕ Other) -> Except δ (Sum.elim Res OtherRes op) -> κ}
    {allowed : κ -> Op ⊕ Other -> Prop} {program : Program Res δ ε α} {known : κ}
    (earns : program.Earns (fun known op answer => note known (.inl op) answer)
      (fun known op => allowed known (.inl op))
      earned known) :
    (program.beside : Program (Sum.elim Res OtherRes) δ ε α).Earns note allowed
      earned known := by
  induction program generalizing known with
  | done value => exact earns
  | fail error => trivial
  | call op next ih => exact ⟨earns.1, fun answer => ih answer (earns.2 answer)⟩

theorem follows_beside {Other : Type} {OtherRes : Other -> Type}
    {note : κ -> (op : Op ⊕ Other) -> Except δ (Sum.elim Res OtherRes op) -> κ}
    {allowed : κ -> Op ⊕ Other -> Prop} {program : Program Res δ ε α} {known : κ}
    (follows :
      program.Follows (fun known op answer => note known (.inl op) answer)
      (fun known op => allowed known (.inl op)) known) :
    (program.beside : Program (Sum.elim Res OtherRes) δ ε α).Follows note
      allowed known := by
  induction program generalizing known with
  | done value => trivial
  | fail error => trivial
  | call op next ih =>
      exact ⟨follows.1, fun answer => ih answer (follows.2 answer)⟩

/-- A value may have a property besides, whatever was answered. -/
theorem Earns.yielding {post : α -> Prop} {program : Program Res δ ε α}
    {known : κ} (earns : program.Earns note allowed earned known)
    (yields : program.Yields (fun _ _ => True) post) :
    program.Earns note allowed
      (fun known value => earned known value ∧ post value) known := by
  induction program generalizing known with
  | done value => exact ⟨earns, yields⟩
  | fail error => trivial
  | call op next ih =>
      exact ⟨earns.1, fun answer =>
        ih answer (earns.2 answer) (yields answer trivial)⟩

/-- A program that goes by two memories goes by both at once. -/
theorem Earns.both {μ : Type}
    {remember : μ -> (op : Op) -> Except δ (Res op) -> μ} {own : μ -> Op -> Prop}
    {gained : μ -> α -> Prop} {program : Program Res δ ε α} {known : κ}
    {memory : μ} (earns : program.Earns note allowed earned known)
    (others : program.Earns remember own gained memory) :
    program.Earns
      (fun (both : κ × μ) op answer =>
        (note both.1 op answer, remember both.2 op answer))
      (fun both op => allowed both.1 op ∧ own both.2 op)
      (fun both value => earned both.1 value ∧ gained both.2 value)
        (known, memory) := by
  induction program generalizing known memory with
  | done value => exact ⟨earns, others⟩
  | fail error => trivial
  | call op next ih =>
      exact ⟨⟨earns.1, others.1⟩, fun answer =>
        ih answer (earns.2 answer) (others.2 answer)⟩

/-- What is issued may follow something. -/
theorem issues_of_earns {program : Program Res δ ε α} {known : κ}
    (earns : program.Earns note allowed earned known) :
    program.Issues fun op => Exists fun known => allowed known op := by
  induction program generalizing known with
  | done value => trivial
  | fail error => trivial
  | call op next ih =>
      exact ⟨⟨known, earns.1⟩, fun answer => ih answer (earns.2 answer)⟩

/-- A program that follows a memory of its own, where what is noted keeps in step
with that memory. -/
theorem earns_of_follows {μ : Type}
    {remember : μ -> (op : Op) -> Except δ (Res op) -> μ} {own : μ -> Op -> Prop}
    {joint : κ -> μ -> Prop}
    (kept : forall known memory op answer, joint known memory -> own memory op ->
      joint (note known op answer) (remember memory op answer))
    (permitted : forall known memory op, joint known memory -> own memory op ->
      allowed known op)
    (gained : forall known memory value, joint known memory -> earned known value)
    {program : Program Res δ ε α} {known : κ} {memory : μ}
    (first : joint known memory) (follows : program.Follows remember own memory) :
    program.Earns note allowed earned known := by
  induction program generalizing known memory with
  | done value => exact gained known memory value first
  | fail error => trivial
  | call op next ih =>
      refine ⟨permitted known memory op first follows.1, fun answer => ?_⟩
      exact ih answer (kept known memory op answer first follows.1)
        (follows.2 answer)

/-- A program whose operations all keep something that is known. -/
theorem earns_of_issues {issued : Op -> Prop} {remembered : κ -> Prop}
    (kept : forall known op answer, remembered known -> issued op ->
      remembered (note known op answer))
    (permitted : forall known op, remembered known -> issued op ->
      allowed known op)
    (gained : forall known value, remembered known -> earned known value)
    {program : Program Res δ ε α} {known : κ} (first : remembered known)
    (issues : program.Issues issued) :
    program.Earns note allowed earned known := by
  induction program generalizing known with
  | done value => exact gained known value first
  | fail error => trivial
  | call op next ih =>
      exact ⟨permitted known op first issues.1, fun answer =>
        ih answer (kept known op answer first issues.1)
        (issues.2 answer)⟩

/-- A program whose operations leave what is known as it is. -/
theorem earns_idle {issued : Op -> Prop}
    (idle : forall known op answer, issued op -> note known op answer = known)
    (permitted : forall known op, issued op -> allowed known op)
    {program : Program Res δ ε α} (issues : program.Issues issued) (known : κ) :
    program.Earns note allowed (fun later _ => later = known) known := by
  induction program with
  | done value => rfl
  | fail error => trivial
  | call op next ih =>
      refine ⟨permitted known op issues.1, fun answer => ?_⟩
      rw [idle known op answer issues.1]
      exact ih answer (issues.2 answer)

end Program

namespace Pool

variable {exec : Env -> (op : Op) -> σ -> Except δ (Res op × σ)}
  {note : κ -> (op : Op) -> Except δ (Res op) -> κ}
  {allowed : κ -> Op -> Prop} {earned : κ -> α -> Prop}

/-- A program that has failed stays as it is. -/
theorem step_failed {pool : Pool Res δ ε α σ} {index : Nat} {error : ε}
    (failed : pool.threads[index]? = some (.fail error)) (label : Nat × Env) :
    (pool.step exec label).threads[index]? = some (.fail error) := by
  rcases step_cases exec pool label with ⟨_, same⟩ | ⟨op, next, turn, _⟩
  · rw [same]
    exact failed
  · rw [step_get turn, if_neg]
    · exact failed
    · rintro rfl
      rw [failed] at turn
      cases turn

/-- A program in the pool, and what it has been told. -/
structure Told (note : κ -> (op : Op) -> Except δ (Res op) -> κ)
    (allowed : κ -> Op -> Prop) (earned : κ -> α -> Prop) (knows : κ -> Prop)
    (index : Nat) (pool : Pool Res δ ε α σ) : Prop where
  told : Exists fun program => Exists fun known =>
    pool.threads[index]? = some program ∧
    program.Earns note allowed earned known ∧ knows known

/-- What is known of the answers may change with the turn, so that it can say of the
turn what was answered in it. -/
theorem told_turn {knows later : κ -> Prop} {pool : Pool Res δ ε α σ}
    (label : Nat × Env) {index : Nat}
    (kept :
      (forall op,
        ¬ (⟨label.1, label.2, pool⟩ : PoolTurn Res δ ε α σ Env).Asks index op) ->
        forall known, knows known -> later known)
    (learns : forall op known,
      (⟨label.1, label.2, pool⟩ : PoolTurn Res δ ε α σ Env).Asks index op ->
      allowed known op -> knows known ->
        later (note known op (Program.perform exec label.2 op pool.store).1))
    (told : pool.Told note allowed earned knows index) :
    (pool.step exec label).Told note allowed earned later index := by
  rcases told.told with ⟨program, known, here, earns, knowing⟩
  rcases step_cases exec pool label with ⟨idle, same⟩ | ⟨op, next, turn, _⟩
  · have unasked : forall op,
        ¬ (⟨label.1, label.2, pool⟩ : PoolTurn Res δ ε α σ Env).Asks
          index op := by
      rintro op ⟨rfl, next, issued⟩
      exact idle op next issued
    rw [same]
    exact ⟨program, known, here, earns, kept unasked known knowing⟩
  · by_cases mine : index = label.1
    · rw [mine, turn] at here
      have same := Option.some.inj here
      rw [← same] at earns
      refine ⟨⟨_, _, ?_,
        earns.2 (Program.perform exec label.2 op pool.store).1, ?_⟩⟩
      · rw [step_get turn, if_pos mine]
      · exact learns op known ⟨mine.symm, next, mine ▸ turn⟩ earns.1 knowing
    · have unasked : forall op,
          ¬ (⟨label.1, label.2, pool⟩ : PoolTurn Res δ ε α σ Env).Asks index op :=
        fun op asks => mine asks.mine.symm
      refine ⟨⟨program, known, ?_, earns, kept unasked known knowing⟩⟩
      rw [step_get turn, if_neg mine]
      exact here

theorem told_step {seen : σ -> Prop} {knows : κ -> Prop}
    (learns : forall env op known store, seen store -> allowed known op ->
      knows known ->
      knows (note known op (Program.perform exec env op store).1))
    {pool : Pool Res δ ε α σ} {index : Nat}
    (told : pool.Told note allowed earned knows index) (present : seen pool.store)
    (label : Nat × Env) :
    (pool.step exec label).Told note allowed earned knows index :=
  told_turn label (fun _ _ => id)
    (fun op known _ => learns label.2 op known pool.store present) told

/-- Whatever the run, what the program has been told is what some of the stores
seen on the way would have told it. -/
theorem told_run {seen : σ -> Prop} {knows : κ -> Prop}
    (learns : forall env op known store, seen store -> allowed known op ->
      knows known ->
      knows (note known op (Program.perform exec env op store).1))
    {pool : Pool Res δ ε α σ} {index : Nat}
    (told : pool.Told note allowed earned knows index) {labels : List (Nat × Env)}
    (every : Always (Pool.step exec) (fun pool => seen pool.store) pool labels) :
    (after (Pool.step exec) pool labels).Told note allowed earned
      knows index := by
  induction labels generalizing pool with
  | nil => exact told
  | cons label rest ih =>
      have parts := always_cons.mp every
      exact ih (told_step learns told parts.1 label) parts.2

/-- What is known of the answers along the turns of a run, if each turn adds what is
answered in it. -/
theorem told_turns {knows : List (PoolTurn Res δ ε α σ Env) -> κ -> Prop}
    {index : Nat}
    (kept : forall turns (turn : PoolTurn Res δ ε α σ Env) known,
      (forall op, ¬ turn.Asks index op) -> knows turns known ->
        knows (turns ++ [turn]) known)
    (learns : forall turns (turn : PoolTurn Res δ ε α σ Env) op known,
      turn.Asks index op ->
      allowed known op -> knows turns known ->
        knows (turns ++ [turn])
          (note known op (Program.perform exec turn.env op turn.pool.store).1))
    {pool : Pool Res δ ε α σ} {turns : List (PoolTurn Res δ ε α σ Env)}
    (told : pool.Told note allowed earned (knows turns) index)
    (labels : List (Nat × Env)) :
    (after (Pool.step exec) pool labels).Told note allowed earned
      (knows (turns ++ pool.turns exec labels)) index := by
  induction labels generalizing pool turns with
  | nil =>
      rw [Pool.turns, List.append_nil]
      exact told
  | cons label rest ih =>
      rw [Pool.turns, List.append_cons]
      apply ih
      apply told_turn label _ _ told
      · intro unasked known
        exact kept turns _ known unasked
      · intro op known
        exact learns turns _ op known

/-- What is returned has been earned. -/
theorem Told.returned {knows : κ -> Prop} {index : Nat} {pool : Pool Res δ ε α σ}
    (told : pool.Told note allowed earned knows index) {value : α}
    (ended : pool.returned index = some value) :
    Exists fun known => earned known value ∧ knows known := by
  rcases told.told with ⟨program, known, here, earns, knowing⟩
  rw [returned_some ended] at here
  rw [← Option.some.inj here] at earns
  exact ⟨known, earns, knowing⟩

/-- What is issued next may follow. -/
theorem Told.turn {knows : κ -> Prop} {index : Nat} {pool : Pool Res δ ε α σ}
    (told : pool.Told note allowed earned knows index) {op : Op}
    {next : Except δ (Res op) -> Program Res δ ε α}
    (turn : pool.threads[index]? = some (.call op next)) :
    Exists fun known => allowed known op ∧ knows known := by
  rcases told.told with ⟨program, known, here, earns, knowing⟩
  rw [turn] at here
  rw [← Option.some.inj here] at earns
  exact ⟨known, earns.1, knowing⟩

end Pool

end Witnessed

end Transition
