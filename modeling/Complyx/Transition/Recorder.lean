import Complyx.Transition.Knowledge

namespace Transition

/-!
# What happened since a program last looked

A program that looks before it acts relies on what it saw being still so.  Beside
a pool, each program has a memory of its own answers and a log of what all
programs of the pool did since its own last look.  Neither is read by a step of
the pool.  `Sound` asks what memory and log together say of the store, once for
the program that moves and once for the others.
-/

/-- How the records are kept: what is remembered of an answer, which operations
are a look, and what an operation with its outcome adds to a log. -/
structure Recorder {Op : Type} (Res : Op -> Type) (δ σ κ η : Type) where
  note : κ -> (op : Op) -> Except δ (Res op) -> κ
  looks : Op -> Bool
  fresh : η
  log : η -> (op : Op) -> σ -> Except δ (Res op) × σ -> η

/-- A pool with the memory and the log of each program. -/
structure Recorded {Op : Type} (Res : Op -> Type) (δ ε α σ κ η : Type) where
  pool : Pool Res δ ε α σ
  known : Nat -> κ
  since : Nat -> η

section Recorded

variable {Op : Type} {Res : Op -> Type} {δ ε α σ Env κ η : Type}

/-- The log of the program that moved, and that of another one. -/
def Recorder.renewed (recorder : Recorder Res δ σ κ η) (mine : Bool) (log : η)
    (op : Op) (store : σ) (outcome : Except δ (Res op) × σ) : η :=
  if mine && recorder.looks op then recorder.fresh
  else recorder.log log op store outcome

/-- What memory and log say of the store stays right, for the program that moves
and for one that does not. -/
structure Recorder.Sound (recorder : Recorder Res δ σ κ η)
    (exec : Env -> (op : Op) -> σ -> Except δ (Res op × σ))
    (allowed : κ -> Op -> Prop) (sees : κ -> η -> σ -> Prop) : Prop where
  own : forall env op known log store, allowed known op -> sees known log store ->
    sees (recorder.note known op (Program.perform exec env op store).1)
      (recorder.renewed true log op store (Program.perform exec env op store))
      (Program.perform exec env op store).2
  other : forall env op mover moved known log store,
    allowed mover op -> sees mover moved store -> sees known log store ->
    sees known
      (recorder.renewed false log op store (Program.perform exec env op store))
      (Program.perform exec env op store).2

namespace Recorded

/-- Nothing remembered and nothing logged. -/
def start (recorder : Recorder Res δ σ κ η) (known : κ)
    (pool : Pool Res δ ε α σ) : Recorded Res δ ε α σ κ η where
  pool := pool
  known _ := known
  since _ := recorder.fresh

/-- The logs after a step. -/
def renew (recorder : Recorder Res δ σ κ η)
    (exec : Env -> (op : Op) -> σ -> Except δ (Res op × σ))
    (recorded : Recorded Res δ ε α σ κ η) (label : Nat × Env) (index : Nat) : η :=
  match recorded.pool.threads[label.1]? with
  | some (.call op _) =>
      recorder.renewed (index == label.1)
        (recorded.since index) op recorded.pool.store
        (Program.perform exec label.2 op recorded.pool.store)
  | _ => recorded.since index

def step (recorder : Recorder Res δ σ κ η)
    (exec : Env -> (op : Op) -> σ -> Except δ (Res op × σ))
    (recorded : Recorded Res δ ε α σ κ η) (label : Nat × Env) :
    Recorded Res δ ε α σ κ η where
  pool := recorded.pool.step exec label
  known := recorded.pool.learn recorder.note exec label recorded.known
  since := recorded.renew recorder exec label

/-- The programs follow their memories, and memory and log of each say what the
store is like. -/
structure Records (recorder : Recorder Res δ σ κ η) (allowed : κ -> Op -> Prop)
    (sees : κ -> η -> σ -> Prop)
    (recorded : Recorded Res δ ε α σ κ η) : Prop where
  follows : recorded.pool.Follows recorder.note allowed recorded.known
  sees : forall index,
    sees (recorded.known index) (recorded.since index) recorded.pool.store

variable {recorder : Recorder Res δ σ κ η} {allowed : κ -> Op -> Prop}
  {sees : κ -> η -> σ -> Prop}
  {exec : Env -> (op : Op) -> σ -> Except δ (Res op × σ)}

theorem records_step (sound : recorder.Sound exec allowed sees)
    (recorded : Recorded Res δ ε α σ κ η) (label : Nat × Env)
    (records : recorded.Records recorder allowed sees) :
    (recorded.step recorder exec label).Records recorder allowed sees := by
  refine ⟨Pool.follows_step recorded.pool label records.follows, ?_⟩
  intro index
  unfold step renew
  dsimp only
  rcases Pool.step_cases exec recorded.pool label with
    ⟨idle, same⟩ | ⟨op, next, turn, stepped⟩
  · rw [same, Pool.learn_idle idle]
    split
    · next op next turn => exact absurd turn (idle op next)
    · exact records.sees index
  rw [stepped, Pool.learn_call turn, turn]
  dsimp only
  have permitted := records.follows.turn turn
  by_cases mine : index = label.1
  · rw [mine, Function.update_self, beq_self_eq_true]
    exact sound.own label.2 op _ _ _ permitted (records.sees label.1)
  · rw [Function.update_of_ne mine, beq_eq_false_iff_ne.mpr mine]
    exact sound.other label.2 op _ _ _ _ _ permitted (records.sees label.1)
      (records.sees index)

/-- A condition on the records that says, wherever they are right, what a guard
says of the store. -/
theorem meets_iff_guarded (sound : recorder.Sound exec allowed sees)
    {condition : Recorded Res δ ε α σ κ η -> Nat × Env -> Prop}
    {guard : Env -> Op -> σ -> Prop}
    (exact : forall recorded label, recorded.Records recorder allowed sees ->
      (condition recorded label <-> recorded.pool.Guarded guard label))
    {recorded : Recorded Res δ ε α σ κ η}
    (records : recorded.Records recorder allowed sees)
    (labels : List (Nat × Env)) :
    Meets (Recorded.step recorder exec) condition recorded labels <->
      Meets (Pool.step exec) (Pool.Guarded guard) recorded.pool labels := by
  rw [meets_iff_meets (records_step sound) exact records labels]
  exact meets_view Recorded.pool (fun _ _ => rfl) recorded labels

/-- A condition on the records that implies the guard. -/
theorem guarded_of_meets (sound : recorder.Sound exec allowed sees)
    {condition : Recorded Res δ ε α σ κ η -> Nat × Env -> Prop}
    {guard : Env -> Op -> σ -> Prop}
    (implies : forall recorded label, recorded.Records recorder allowed sees ->
      condition recorded label -> recorded.pool.Guarded guard label)
    {recorded : Recorded Res δ ε α σ κ η}
    (records : recorded.Records recorder allowed sees) {labels : List (Nat × Env)}
    (meets : Meets (Recorded.step recorder exec) condition recorded labels) :
    Meets (Pool.step exec) (Pool.Guarded guard) recorded.pool labels := by
  have guarded := meets.inside (records_step sound) implies records
  exact (@meets_view _ _ _ (Pool.step exec)
    (Recorded.step recorder exec) Recorded.pool
    _ (fun _ _ => rfl) recorded labels).mp guarded

end Recorded

end Recorded

end Transition
