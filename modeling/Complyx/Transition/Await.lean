import Complyx.Transition.Run
import Mathlib.Data.List.Forall2

namespace Transition

/-!
# One event after the other

A task that awaits one event after the other is the list of what it still awaits.
Each event of a run is either the next one or passes unnoticed, and the task is
done exactly if the events occur in the run in their order.
-/

section Await

variable {Label : Type} {labels : List Label}

/-- What is awaited still after a label. -/
def awaiting : List (Label -> Bool) -> Label -> List (Label -> Bool)
  | [], _ => []
  | test :: rest, label => if test label then rest else test :: rest

/-- Labels that pass the tests occur in the order of the tests. -/
def InOrder (tests : List (Label -> Bool)) (labels : List Label) : Prop :=
  List.SublistForall₂ (fun test label => test label = true) tests labels

theorem inOrder_nil (labels : List Label) : InOrder [] labels :=
  List.SublistForall₂.nil

theorem not_inOrder_cons_nil (test : Label -> Bool)
    (tests : List (Label -> Bool)) :
    ¬ InOrder (test :: tests) [] := by
  intro impossible
  cases impossible

/-- The first label that passes may as well be the one for the test. -/
theorem inOrder_cons_cons {test : Label -> Bool} {tests : List (Label -> Bool)}
    {label : Label} :
    InOrder (test :: tests) (label :: labels) <->
      InOrder (if test label = true then tests else test :: tests) labels := by
  have later {first : Label -> Bool} {others : List (Label -> Bool)}
    {labels : List Label}
      (occurs : InOrder (first :: others) labels) : InOrder others labels := by
    rcases List.sublistForall₂_iff.mp occurs with ⟨word, passes, sublist⟩
    cases passes with
    | cons _ rest =>
        exact List.sublistForall₂_iff.mpr
          ⟨_, rest, (List.sublist_cons_self _ _).trans sublist⟩
  by_cases passes : test label = true
  · rw [if_pos passes]
    constructor
    · intro occurs
      cases occurs with
      | cons _ rest => exact rest
      | cons_right rest => exact later rest
    · exact List.SublistForall₂.cons passes
  · rw [if_neg passes]
    constructor
    · intro occurs
      cases occurs with
      | cons here _ => exact absurd here passes
      | cons_right rest => exact rest
    · exact List.SublistForall₂.cons_right

theorem InOrder.append_right {tests : List (Label -> Bool)}
    (occurs : InOrder tests labels) (rest : List Label) :
    InOrder tests (labels ++ rest) := by
  rcases List.sublistForall₂_iff.mp occurs with ⟨word, passes, sublist⟩
  exact List.sublistForall₂_iff.mpr
    ⟨word, passes, sublist.trans (List.sublist_append_left labels rest)⟩

/-- Every test is passed by a label. -/
theorem InOrder.exists_of_mem {tests : List (Label -> Bool)}
    (occurs : InOrder tests labels) {test : Label -> Bool}
    (member : test ∈ tests) :
    Exists fun label => label ∈ labels ∧ test label = true := by
  induction occurs with
  | nil => cases member
  | @cons first label _ _ passes _ ih =>
      rcases List.mem_cons.mp member with same | member
      · rw [same]
        exact ⟨label, List.mem_cons_self, passes⟩
      · rcases ih member with ⟨other, later, passes⟩
        exact ⟨other, List.mem_cons_of_mem label later, passes⟩
  | @cons_right label _ _ _ ih =>
      rcases ih member with ⟨other, later, passes⟩
      exact ⟨other, List.mem_cons_of_mem label later, passes⟩

theorem awaiting_suffix (tests : List (Label -> Bool)) (label : Label) :
    awaiting tests label <:+ tests := by
  cases tests with
  | nil => exact List.suffix_rfl
  | cons test rest =>
      rw [awaiting]
      split
      · exact List.suffix_cons test rest
      · exact List.suffix_rfl

theorem after_awaiting_suffix (tests : List (Label -> Bool))
    (labels : List Label) :
    after awaiting tests labels <:+ tests := by
  have shorter : forall state label, state <:+ tests ->
      awaiting state label <:+ tests :=
    fun state label suffix => (awaiting_suffix state label).trans suffix
  exact (always_of_preserved shorter List.suffix_rfl labels).last

/-- Of what is awaited the first part is over exactly if it occurs in its order. -/
theorem length_after_awaiting_le_iff (first second : List (Label -> Bool))
    (labels : List Label) :
    (after awaiting (first ++ second) labels).length ≤ second.length <->
      InOrder first labels := by
  induction labels generalizing first with
  | nil =>
      cases first with
      | nil => exact iff_of_true (Nat.le_refl _) (inOrder_nil [])
      | cons test tests =>
          refine iff_of_false ?_ (not_inOrder_cons_nil test tests)
          rw [after_nil, List.cons_append, List.length_cons, List.length_append]
          omega
  | cons label rest ih =>
      cases first with
      | nil =>
          exact iff_of_true
            (after_awaiting_suffix second (label :: rest)).length_le
            (inOrder_nil _)
      | cons test tests =>
          rw [after_cons, List.cons_append, awaiting, inOrder_cons_cons]
          by_cases passes : test label = true
          · rw [if_pos passes, if_pos passes]
            exact ih tests
          · rw [if_neg passes, if_neg passes]
            exact ih (test :: tests)

theorem after_awaiting_eq_nil_iff (tests : List (Label -> Bool))
    (labels : List Label) :
    after awaiting tests labels = [] <-> InOrder tests labels := by
  have whole := length_after_awaiting_le_iff tests [] labels
  rw [List.append_nil, List.length_nil, Nat.le_zero,
    List.length_eq_zero_iff] at whole
  exact whole

/-- If no label of the rest passes the last test, all has occurred before. -/
theorem inOrder_of_append (tests : List (Label -> Bool)) {test : Label -> Bool}
    {rest : List Label} (none : forall label, label ∈ rest -> test label = false)
    (occurs : InOrder (tests ++ [test]) (labels ++ rest)) :
    InOrder (tests ++ [test]) labels := by
  rw [← after_awaiting_eq_nil_iff] at occurs ⊢
  rw [after_append, after_awaiting_eq_nil_iff] at occurs
  by_contra left
  rcases after_awaiting_suffix (tests ++ [test]) labels with ⟨before, whole⟩
  have last : test ∈ after awaiting (tests ++ [test]) labels := by
    have same := congrArg List.getLast? whole
    rw [List.getLast?_append_of_ne_nil _ left, List.getLast?_concat] at same
    exact List.mem_of_getLast? same
  rcases occurs.exists_of_mem last with ⟨label, member, passes⟩
  rw [none label member] at passes
  cases passes

end Await

end Transition
