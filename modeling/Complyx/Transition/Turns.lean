import Complyx.Transition.Pool

namespace Transition

/-!
# The turns of a run

A run of a pool is also the list of its turns: whose turn it is, what the
environment decides and the pool it is taken in.  Of two turns one comes before
the other if the two together are a sublist of the run's.  What a program has
asked and been answered is then said of its own turns, in their order.
-/

structure PoolTurn {Op : Type} (Res : Op -> Type) (δ ε α σ Env : Type) where
  index : Nat
  env : Env
  pool : Pool Res δ ε α σ

section Turns

variable {Op : Type} {Res : Op -> Type} {δ ε α σ Env : Type}

namespace PoolTurn

variable (exec : Env -> (op : Op) -> σ -> Except δ (Res op × σ))
  (turn : PoolTurn Res δ ε α σ Env)

/-- It is the program's turn, and it issues the operation. -/
structure Asks (index : Nat) (op : Op) : Prop where
  mine : turn.index = index
  issued : Exists fun next => turn.pool.threads[index]? = some (.call op next)

/-- It issues the operation and is given this answer. -/
structure Hears (index : Nat) (op : Op) (answer : Except δ (Res op)) : Prop
    extends turn.Asks index op where
  answered : (Program.perform exec turn.env op turn.pool.store).1 = answer

/-- The pool after the turn. -/
def next : Pool Res δ ε α σ := turn.pool.step exec (turn.index, turn.env)

end PoolTurn

namespace Pool

variable {exec : Env -> (op : Op) -> σ -> Except δ (Res op × σ)}

/-- The turns a run takes, in order. -/
def turns (exec : Env -> (op : Op) -> σ -> Except δ (Res op × σ)) :
    Pool Res δ ε α σ -> List (Nat × Env) -> List (PoolTurn Res δ ε α σ Env)
  | _, [] => []
  | pool, label :: rest =>
      ⟨label.1, label.2, pool⟩ :: (pool.step exec label).turns exec rest

theorem turns_append (pool : Pool Res δ ε α σ) (first second : List (Nat × Env)) :
    pool.turns exec (first ++ second) =
      pool.turns exec first ++ (after (Pool.step exec) pool first).turns exec
        second := by
  induction first generalizing pool with
  | nil => rfl
  | cons label rest ih =>
      rw [List.cons_append, turns, turns, ih]
      rfl

theorem turns_prefix {pool : Pool Res δ ε α σ} {early late : List (Nat × Env)}
    (isPrefix : early <+: late) :
    pool.turns exec early <+: pool.turns exec late := by
  rcases isPrefix with ⟨rest, rfl⟩
  rw [turns_append]
  exact List.prefix_append _ _

/-- A turn is taken in a pool that the run has reached. -/
theorem mem_turns {pool : Pool Res δ ε α σ} {labels : List (Nat × Env)}
    {turn : PoolTurn Res δ ε α σ Env} (member : turn ∈ pool.turns exec labels) :
    Exists fun before => before <+: labels ∧
      turn.pool = after (Pool.step exec) pool before := by
  induction labels generalizing pool with
  | nil => cases member
  | cons label rest ih =>
      rcases List.mem_cons.mp member with rfl | later
      · exact ⟨[], List.nil_prefix, rfl⟩
      · rcases ih later with ⟨before, isPrefix, same⟩
        exact ⟨label :: before, List.cons_prefix_cons.mpr ⟨rfl, isPrefix⟩, same⟩

/-- What holds in every pool of a run holds at every turn. -/
theorem turns_of_always {property : Pool Res δ ε α σ -> Prop}
    {pool : Pool Res δ ε α σ} {labels : List (Nat × Env)}
    (always : Always (Pool.step exec) property pool labels)
    {turn : PoolTurn Res δ ε α σ Env} (member : turn ∈ pool.turns exec labels) :
    property turn.pool := by
  rcases mem_turns member with ⟨before, isPrefix, same⟩
  rw [same]
  exact always before isPrefix

end Pool

end Turns

end Transition
