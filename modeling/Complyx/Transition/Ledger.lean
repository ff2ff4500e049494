import Complyx.Transition.Log
import Complyx.Transition.Turns
import Mathlib.Algebra.BigOperators.Group.Finset.Piecewise

namespace Transition

/-!
# Who has added what

Operations add to a measure of the store.  The share of a program is what the
measure grows by in the program's own turns.  At every moment of a run the shares
come to what the measure has grown by: nothing that was added belongs to two
programs or to none.
-/

section Ledger

variable {Op : Type} {Res : Op -> Type} {δ ε α σ Env : Type}
  (exec : Env -> (op : Op) -> σ -> Except δ (Res op × σ)) (measure : σ -> Nat)

/-- By how much the measure grows in the turn. -/
def PoolTurn.gain (turn : PoolTurn Res δ ε α σ Env) : Nat :=
  measure (turn.next exec).store - measure turn.pool.store

/-- By how much it grows in the turns of one program. -/
def share (index : Nat) : List (PoolTurn Res δ ε α σ Env) -> Nat
  | [] => 0
  | turn :: rest =>
      (if turn.index = index then turn.gain exec measure else 0) +
        share index rest

variable {exec measure}

theorem PoolTurn.gain_idle {turn : PoolTurn Res δ ε α σ Env}
    (idle : forall op, ¬ turn.Asks turn.index op) :
    turn.gain exec measure = 0 := by
  have same : turn.next exec = turn.pool := by
    apply Pool.step_idle
    intro op next issued
    exact idle op ⟨rfl, next, issued⟩
  rw [PoolTurn.gain, same, Nat.sub_self]

theorem PoolTurn.gain_asks {turn : PoolTurn Res δ ε α σ Env} {index : Nat}
    {op : Op} (asks : turn.Asks index op) :
    turn.gain exec measure =
      measure (Program.perform exec turn.env op turn.pool.store).2 - measure
        turn.pool.store := by
  rcases asks with ⟨mine, next, issued⟩
  rw [← mine] at issued
  rw [PoolTurn.gain, PoolTurn.next, Pool.step_call issued]

theorem share_nil (index : Nat) :
    share exec measure index ([] : List (PoolTurn Res δ ε α σ Env)) = 0 :=
  rfl

theorem share_cons (index : Nat) (turn : PoolTurn Res δ ε α σ Env)
    (rest : List (PoolTurn Res δ ε α σ Env)) :
    share exec measure index (turn :: rest) =
      (if turn.index = index then turn.gain exec measure else 0) +
        share exec measure index rest :=
  rfl

theorem share_concat (index : Nat) (turns : List (PoolTurn Res δ ε α σ Env))
    (turn : PoolTurn Res δ ε α σ Env) :
    share exec measure index (turns ++ [turn]) =
      share exec measure index turns +
        if turn.index = index then turn.gain exec measure else 0 := by
  induction turns with
  | nil => rw [List.nil_append, share_cons, share_nil, Nat.add_comm]
  | cons first rest ih =>
      rw [List.cons_append, share_cons, ih, share_cons, Nat.add_assoc]

/-- A turn in which the program asks nothing adds nothing to its share. -/
theorem share_unasked {index : Nat} (turns : List (PoolTurn Res δ ε α σ Env))
    {turn : PoolTurn Res δ ε α σ Env}
    (unasked : forall op, ¬ turn.Asks index op) :
    share exec measure index (turns ++ [turn]) =
      share exec measure index turns := by
  rw [share_concat]
  split
  · next mine =>
    rw [← mine] at unasked
    rw [PoolTurn.gain_idle unasked, Nat.add_zero]
  · rw [Nat.add_zero]

theorem share_asks {index : Nat} (turns : List (PoolTurn Res δ ε α σ Env))
    {turn : PoolTurn Res δ ε α σ Env} {op : Op} (asks : turn.Asks index op) :
    share exec measure index (turns ++ [turn]) =
      share exec measure index turns +
        (measure (Program.perform exec turn.env op turn.pool.store).2 -
          measure turn.pool.store) := by
  rw [share_concat, if_pos asks.mine, PoolTurn.gain_asks asks]

namespace Pool

/-- If every operation of the programs adds to the measure, then so does a step, and
what it adds is the gain of a program that is there. -/
theorem gain_step {issued : Op -> Prop}
    (grows : forall env op store, issued op ->
      measure store ≤ measure (Program.perform exec env op store).2)
    {pool : Pool Res δ ε α σ} (issues : pool.Issues issued) (label : Nat × Env) :
    (∑ index ∈ Finset.range pool.threads.length,
        if label.1 = index then
          PoolTurn.gain exec measure
            (⟨label.1, label.2, pool⟩ : PoolTurn Res δ ε α σ Env)
        else 0) + measure pool.store =
      measure (pool.step exec label).store := by
  rw [Finset.sum_ite_eq]
  rcases step_cases exec pool label with ⟨idle, same⟩ | ⟨op, next, turn, stepped⟩
  · have nothing :
        PoolTurn.gain exec measure
          (⟨label.1, label.2, pool⟩ : PoolTurn Res δ ε α σ Env) = 0 :=
      PoolTurn.gain_idle fun op asks => asks.issued.elim (idle op)
    rw [nothing, ite_self, Nat.zero_add, same]
  · have inside := (List.getElem?_eq_some_iff.mp turn).1
    have asks :
        (⟨label.1, label.2, pool⟩ : PoolTurn Res δ ε α σ Env).Asks label.1 op :=
      ⟨rfl, next, turn⟩
    rw [if_pos (Finset.mem_range.mpr inside), PoolTurn.gain_asks asks, stepped]
    exact Nat.sub_add_cancel (grows label.2 op pool.store (issues.turn turn))

/-- The shares come to what has been added. -/
theorem shares_total {issued : Op -> Prop}
    (grows : forall env op store, issued op ->
      measure store ≤ measure (Program.perform exec env op store).2)
    {pool : Pool Res δ ε α σ} (issues : pool.Issues issued)
    (labels : List (Nat × Env)) :
    (∑ index ∈ Finset.range pool.threads.length,
        share exec measure index (pool.turns exec labels)) + measure pool.store =
      measure (after (Pool.step exec) pool labels).store := by
  induction labels generalizing pool with
  | nil =>
      have nothing : ∑ index ∈ Finset.range pool.threads.length,
          share exec measure index (pool.turns exec []) = 0 :=
        Finset.sum_eq_zero fun index _ => share_nil index
      rw [nothing, Nat.zero_add, after_nil]
  | cons label rest ih =>
      have first := gain_step grows issues label
      have later := @ih (pool.step exec label) (issues_step pool label issues)
      rw [step_length] at later
      simp only [Pool.turns, share_cons, Finset.sum_add_distrib, after_cons]
      omega

end Pool

end Ledger

end Transition
