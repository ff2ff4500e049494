import Mathlib.Data.List.InsertIdx
import Mathlib.Data.List.Sort

namespace Relational

universe u v w

/-!
# Query operators

The operators of a query, each over lists of rows: joins as nested loops, the
groups of a grouping clause in the order their keys first appear, and
`DISTINCT ON`, which keeps the first row of each group in the order given.
A query without an ordering clause may return its rows in any order at all.
-/

section Operators

variable {ρ : Type u} {τ : Type v} {κ : Type w} [DecidableEq κ]

/-- `INNER JOIN`. -/
def innerJoin (on : ρ -> τ -> Bool) (left : List ρ)
    (right : List τ) : List (ρ × τ) :=
  left.flatMap fun row => (right.filter (on row)).map fun other => (row, other)

/-- `LEFT JOIN`: a row without a match is kept alone. -/
def leftJoin (on : ρ -> τ -> Bool) (left : List ρ)
    (right : List τ) : List (ρ × Option τ) :=
  left.flatMap fun row =>
    match right.filter (on row) with
    | [] => [(row, none)]
    | first :: others => (first :: others).map fun other => (row, some other)

/-- `DISTINCT ON`. -/
def distinctOn (key : ρ -> κ) : List ρ -> List ρ
  | [] => []
  | row :: rest =>
      row :: (distinctOn key rest).filter fun other => key other ≠ key row

/-- `GROUP BY`: each key with its rows. -/
def groupBy (key : ρ -> κ) (rows : List ρ) : List (κ × List ρ) :=
  (distinctOn id (rows.map key)).map fun value =>
    (value, rows.filter fun row => key row = value)

end Operators

section Lemmas

variable {ρ : Type u} {τ : Type v} {κ : Type w}

theorem mem_innerJoin {on : ρ -> τ -> Bool} {left : List ρ} {right : List τ}
    {row : ρ} {other : τ} :
    (row, other) ∈ innerJoin on left right <-> row ∈ left ∧ other ∈ right ∧
      on row other = true := by
  simp only [innerJoin, List.mem_flatMap, List.mem_map, List.mem_filter,
    Prod.mk.injEq]
  constructor
  · rintro ⟨row', member, other', ⟨otherMember, joined⟩, rfl, rfl⟩
    exact ⟨member, otherMember, joined⟩
  · rintro ⟨member, otherMember, joined⟩
    exact ⟨row, member, other, ⟨otherMember, joined⟩, rfl, rfl⟩

/-- Where at most one row matches, a left join pairs each row with the first
match. -/
theorem leftJoin_eq_map {on : ρ -> τ -> Bool} {right : List τ}
    (unique : forall row, (right.filter (on row)).length ≤ 1) (left : List ρ) :
    leftJoin on left right = left.map fun row => (row, right.find? (on row)) := by
  rw [List.map_eq_flatMap, leftJoin]
  congr 1
  funext row
  have first : right.find? (on row) = (right.filter (on row)).head? :=
    (List.head?_filter ..).symm
  cases matched : right.filter (on row) with
  | nil =>
      rw [first, matched]
      rfl
  | cons head tail =>
      have short := unique row
      rw [matched, List.length_cons] at short
      have alone : tail = [] := List.eq_nil_of_length_eq_zero (by omega)
      rw [first, matched, alone]
      rfl

/-- Rows told apart by a key have it at most once each. -/
theorem length_filter_key_le_one [DecidableEq κ] {key : ρ -> κ} {rows : List ρ}
    (distinct : rows.Pairwise fun first second => key first ≠ key second)
    (value : κ) :
    (rows.filter fun row => key row = value).length ≤ 1 := by
  have apart :
      (rows.filter fun row => key row = value).Pairwise fun first second =>
        key first ≠ key second :=
    distinct.sublist List.filter_sublist
  have same : forall row, row ∈ rows.filter (fun row => key row = value) ->
      key row = value :=
    fun row member => of_decide_eq_true (List.mem_filter.mp member).2
  generalize rows.filter (fun row => key row = value) = found at apart same
  match found with
  | [] => exact Nat.zero_le 1
  | [_] => exact Nat.le_refl 1
  | first :: second :: rest =>
      have different := (List.pairwise_cons.mp apart).1 second List.mem_cons_self
      rw [same first List.mem_cons_self,
        same second (List.mem_cons_of_mem _ List.mem_cons_self)] at different
      exact absurd rfl different

/-- Where at most one row matches, a join keeps some of the left rows. -/
theorem innerJoin_fst_sublist {on : ρ -> τ -> Bool} {right : List τ}
    (unique : forall row, (right.filter (on row)).length ≤ 1) (left : List ρ) :
    List.Sublist ((innerJoin on left right).map Prod.fst) left := by
  induction left with
  | nil => exact List.Sublist.slnil
  | cons head tail ih =>
      have alone := unique head
      rw [innerJoin, List.flatMap_cons, List.map_append, List.map_map]
      generalize right.filter (on head) = found at alone
      match found with
      | [] => exact ih.cons head
      | [_] => exact ih.cons_cons head
      | _ :: _ :: _ =>
          rw [List.length_cons, List.length_cons] at alone
          omega

/-- The pairs of one left row, told apart by a key. -/
theorem filter_innerJoin {on : ρ -> τ -> Bool} {left : List ρ} {right : List τ}
    {row : ρ} (distinct : left.Nodup) (member : row ∈ left) {test : ρ -> Bool}
    (chosen : forall other, other ∈ left -> (test other = true <-> other = row)) :
    ((innerJoin on left right).filter fun pair => test pair.1) =
      (right.filter (on row)).map fun other => (row, other) := by
  have whole : forall {other : ρ}, test other = true ->
      (((right.filter (on other)).map fun match' => (other, match')).filter
        fun pair => test pair.1) =
        (right.filter (on other)).map fun match' => (other, match') := by
    intro other holds
    rw [List.filter_eq_self]
    intro pair inPairs
    rcases List.mem_map.mp inPairs with ⟨match', _, rfl⟩
    exact holds
  have nothing : forall {other : ρ}, test other = false ->
      (((right.filter (on other)).map fun match' => (other, match')).filter
        fun pair => test pair.1) = [] := by
    intro other fails
    rw [List.filter_eq_nil_iff]
    intro pair inPairs
    rcases List.mem_map.mp inPairs with ⟨match', _, rfl⟩
    rw [fails]
    exact Bool.false_ne_true
  induction left with
  | nil => cases member
  | cons head tail ih =>
      have parts := List.nodup_cons.mp distinct
      rw [innerJoin, List.flatMap_cons, List.filter_append]
      have inTail : forall other, other ∈ tail ->
          (test other = true <-> other = row) :=
        fun other otherMember =>
          chosen other (List.mem_cons_of_mem head otherMember)
      by_cases here : head = row
      · have others :
            ((innerJoin on tail right).filter fun pair => test pair.1) = [] := by
          rw [List.filter_eq_nil_iff]
          rintro ⟨other, match'⟩ joined holds
          have otherMember := (mem_innerJoin.mp joined).1
          rw [(inTail other otherMember).mp holds, ← here] at otherMember
          exact parts.1 otherMember
        rw [whole ((chosen head List.mem_cons_self).mpr here), here]
        exact (congrArg _ others).trans (List.append_nil _)
      · have later := (List.mem_cons.mp member).resolve_left (Ne.symm here)
        have skipped : test head = false :=
          Bool.eq_false_iff.mpr fun holds =>
            here ((chosen head List.mem_cons_self).mp holds)
        rw [nothing skipped, List.nil_append]
        exact ih parts.2 later inTail

variable [DecidableEq κ] {key : ρ -> κ}

theorem distinctOn_pairwise (rows : List ρ) :
    (distinctOn key rows).Pairwise fun first second =>
      key first ≠ key second := by
  induction rows with
  | nil => exact List.Pairwise.nil
  | cons row rest ih =>
      refine List.pairwise_cons.mpr ⟨?_, ih.sublist List.filter_sublist⟩
      intro other member same
      exact of_decide_eq_true (List.mem_filter.mp member).2 same.symm

/-- The row kept for a key is the first one that has it. -/
theorem find?_distinctOn (rows : List ρ) (value : κ) :
    ((distinctOn key rows).find? fun row => key row = value) = rows.find?
      fun row => key row = value := by
  induction rows with
  | nil => rfl
  | cons row rest ih =>
      rw [distinctOn, List.find?_cons, List.find?_cons]
      by_cases here : key row = value
      · rw [decide_eq_true here]
      · rw [decide_eq_false here]
        simp only
        rw [← ih, List.find?_filter]
        congr 1
        funext other
        by_cases there : key other = value
        · simp [there, Ne.symm here]
        · simp [there]

theorem mem_distinctOn_id {values : List κ} {value : κ} :
    value ∈ distinctOn id values <-> value ∈ values := by
  induction values with
  | nil => exact Iff.rfl
  | cons head rest ih =>
      rw [distinctOn, List.mem_cons, List.mem_filter, ih, List.mem_cons,
        decide_eq_true_eq]
      by_cases here : value = head
      · simp [here]
      · simp [here]

theorem nodup_distinctOn_id (values : List κ) : (distinctOn id values).Nodup :=
  distinctOn_pairwise values

theorem distinctOn_id_of_nodup {values : List κ} (distinct : values.Nodup) :
    distinctOn id values = values := by
  induction values with
  | nil => rfl
  | cons head rest ih =>
      have parts := List.nodup_cons.mp distinct
      rw [distinctOn, ih parts.2, List.filter_eq_self.mpr]
      intro value member
      have apart : value ≠ head := fun same => parts.1 (same ▸ member)
      exact decide_eq_true apart

/-- Of two lists without repetitions, the first comes whole and the second
without what is in the first. -/
theorem distinctOn_id_append {first second : List κ} (firstDistinct : first.Nodup)
    (secondDistinct : second.Nodup) :
    distinctOn id (first ++ second) = first ++ second.filter fun value =>
      value ∉ first := by
  induction first with
  | nil =>
      rw [List.nil_append, List.nil_append, distinctOn_id_of_nodup secondDistinct,
        List.filter_eq_self.mpr]
      intro value _
      exact decide_eq_true List.not_mem_nil
  | cons head rest ih =>
      have parts := List.nodup_cons.mp firstDistinct
      have kept : rest.filter (fun value => decide (value ≠ head)) = rest := by
        rw [List.filter_eq_self]
        intro value member
        have apart : value ≠ head := fun same => parts.1 (same ▸ member)
        exact decide_eq_true apart
      rw [List.cons_append, distinctOn, ih parts.2, List.filter_append]
      simp only [id_eq, kept, List.filter_filter, List.cons_append]
      congr 2
      apply List.filter_congr
      intro value _
      rw [Bool.eq_iff_iff, Bool.and_eq_true, decide_eq_true_eq, decide_eq_true_eq,
        decide_eq_true_eq, List.mem_cons, not_or]

theorem mem_groupBy {rows : List ρ} {value : κ} {group : List ρ} :
    (value, group) ∈ groupBy key rows <->
      value ∈ rows.map key ∧ group = rows.filter fun row => key row = value := by
  simp only [groupBy, List.mem_map, mem_distinctOn_id, Prod.mk.injEq]
  constructor
  · rintro ⟨other, present, rfl, rfl⟩
    exact ⟨present, rfl⟩
  · rintro ⟨present, same⟩
    exact ⟨value, present, rfl, same.symm⟩

theorem groupBy_keys (rows : List ρ) :
    (groupBy key rows).map Prod.fst = distinctOn id (rows.map key) := by
  rw [groupBy, List.map_map]
  exact List.map_id _

end Lemmas

/-! ## Any order -/

section Arrange

variable {ρ : Type u}

/-- The rows in an order of their own.  The code says, for each row, its place
among those after it. -/
def arrange : Nat -> List ρ -> List ρ
  | _, [] => []
  | code, row :: rest =>
      (arrange (code / (rest.length + 1)) rest).insertIdx
        (code % (rest.length + 1)) row

theorem arrange_perm (code : Nat) (rows : List ρ) :
    (arrange code rows).Perm rows := by
  induction rows generalizing code with
  | nil => exact List.Perm.refl []
  | cons row rest ih =>
      have arranged := ih (code / (rest.length + 1))
      have inside :
          code % (rest.length + 1) ≤
            (arrange (code / (rest.length + 1)) rest).length := by
        rw [arranged.length_eq]
        exact Nat.le_of_lt_succ (Nat.mod_lt _ (Nat.succ_pos _))
      exact (List.perm_insertIdx row _ inside).trans (arranged.cons row)

/-- Every order has its code. -/
theorem exists_arrange {rows ordered : List ρ} (perm : ordered.Perm rows) :
    Exists fun code => arrange code rows = ordered := by
  induction rows generalizing ordered with
  | nil => exact ⟨0, (List.perm_nil.mp perm).symm⟩
  | cons row rest ih =>
      rcases List.append_of_mem (perm.mem_iff.mpr List.mem_cons_self) with
        ⟨before, after, rfl⟩
      have others : (before ++ after).Perm rest :=
        (List.perm_middle.symm.trans perm).cons_inv
      rcases ih others with ⟨code, arranged⟩
      have inside : before.length < rest.length + 1 := by
        have lengths := others.length_eq
        rw [List.length_append] at lengths
        omega
      have placed :
          (before ++ after).insertIdx before.length row =
            before ++ row :: after := by
        clear perm others arranged inside
        induction before with
        | nil => rfl
        | cons head earlier placed => exact congrArg (List.cons head) placed
      refine ⟨before.length + (rest.length + 1) * code, ?_⟩
      rw [arrange, Nat.add_mul_div_left _ _ (Nat.succ_pos _),
        Nat.div_eq_of_lt inside, Nat.zero_add, Nat.add_mul_mod_self_left,
          Nat.mod_eq_of_lt inside, arranged, placed]

end Arrange

end Relational
