import Mathlib.Data.List.Basic
import Mathlib.Data.List.Induction

namespace Relational

/-!
# Hash indexes of a list of rows

An index is filled by one pass over the rows and only looked up afterwards.
What a lookup finds is a search of the rows themselves, so nothing depends on
how the map stores its entries.
-/

universe u v

variable {κ : Type u} [BEq κ] [Hashable κ] [LawfulBEq κ] [DecidableEq κ]
  {ρ υ : Type v}

/-- A row that passes the test, with none after it that does. -/
def IsLast (test : ρ -> Bool) (rows : List ρ) (row : ρ) : Prop :=
  Exists fun before => Exists fun after => rows = before ++ row :: after ∧
    test row = true ∧
    forall later, later ∈ after -> test later = false

omit [BEq κ] [Hashable κ] [LawfulBEq κ] [DecidableEq κ] in
theorem find?_reverse_iff {test : ρ -> Bool} {rows : List ρ} {row : ρ} :
    rows.reverse.find? test = some row <-> IsLast test rows row := by
  rw [List.find?_eq_some_iff_append]
  constructor
  · rintro ⟨passes, after, before, same, others⟩
    refine ⟨before.reverse, after.reverse, ?_, passes, ?_⟩
    · rw [← List.reverse_reverse rows, same, List.reverse_append,
        List.reverse_cons, List.append_assoc]
      rfl
    · intro later member
      have failed := others later (List.mem_reverse.mp member)
      rw [Bool.not_eq_true'] at failed
      exact failed
  · rintro ⟨before, after, same, passes, others⟩
    refine ⟨passes, after.reverse, before.reverse, ?_, ?_⟩
    · rw [same, List.reverse_append, List.reverse_cons, List.append_assoc]
      rfl
    · intro later member
      rw [others later (List.mem_reverse.mp member)]
      rfl

omit [BEq κ] [Hashable κ] [LawfulBEq κ] [DecidableEq κ] in
theorem IsLast.mem {test : ρ -> Bool} {rows : List ρ} {row : ρ}
    (last : IsLast test rows row) : row ∈ rows := by
  rcases last with ⟨before, after, same, _⟩
  rw [same]
  exact List.mem_append_right _ List.mem_cons_self

omit [BEq κ] [Hashable κ] [LawfulBEq κ] [DecidableEq κ] in
/-- Of rows in order, the last one that passes is the greatest that does. -/
theorem isLast_iff_greatest {test : ρ -> Bool} {rows : List ρ}
    {le : ρ -> ρ -> Prop}
    (ordered : rows.Pairwise fun first second => test first = true ->
      test second = true -> le first second)
    (reflexive : forall row, le row row)
    (antisymmetric : forall first, first ∈ rows -> forall second, second ∈ rows ->
      le first second -> le second first ->
      first = second) {row : ρ} :
    IsLast test rows row <-> row ∈ rows ∧ test row = true ∧
      forall other, other ∈ rows -> test other = true -> le other row := by
  have greatest : forall {row}, IsLast test rows row ->
      forall other, other ∈ rows -> test other = true -> le other row := by
    rintro row ⟨before, after, rfl, passes, others⟩ other member passes'
    rcases List.mem_append.mp member with early | late
    · exact (List.pairwise_append.mp ordered).2.2 other early row
        List.mem_cons_self passes' passes
    · rcases List.mem_cons.mp late with rfl | late
      · exact reflexive other
      · rw [others other late] at passes'
        cases passes'
  constructor
  · intro last
    have passes : test row = true := by
      rcases last with ⟨_, _, _, passes, _⟩
      exact passes
    exact ⟨last.mem, passes, greatest last⟩
  · rintro ⟨member, passes, above⟩
    have found : (rows.reverse.find? test).isSome = true :=
      List.find?_isSome.mpr ⟨row, List.mem_reverse.mpr member, passes⟩
    rcases Option.isSome_iff_exists.mp found with ⟨last, searched⟩
    have isLast := find?_reverse_iff.mp searched
    have passes' : test last = true := List.find?_some searched
    rw [antisymmetric row member last isLast.mem
      (greatest isLast row member passes) (above last isLast.mem passes')]
    exact isLast

/-- Rows collected by key.  A later row replaces an earlier one. -/
def collectRows (key : ρ -> κ) (rows : List ρ) : Std.HashMap κ ρ :=
  rows.foldl (fun index row => index.insert (key row) row) ∅

theorem collectRows_get (key : ρ -> κ) (rows : List ρ) (value : κ) :
    (collectRows key rows)[value]? = rows.reverse.find? fun row =>
      key row = value := by
  induction rows using List.reverseRecOn with
  | nil => exact Std.HashMap.getElem?_empty
  | append_singleton rows row ih =>
      unfold collectRows at ih ⊢
      rw [List.foldl_append, List.foldl_cons, List.foldl_nil,
        Std.HashMap.getElem?_insert, ih, List.reverse_append,
          List.reverse_singleton, List.singleton_append, List.find?_cons]
      by_cases here : key row = value
      · rw [if_pos (beq_iff_eq.mpr here), decide_eq_true here]
      · rw [if_neg fun same => here (beq_iff_eq.mp same), decide_eq_false here]

/-- Values grouped by key, each group in the order of the rows. -/
def groupRows (key : ρ -> κ) (value : ρ -> υ) (rows : List ρ) :
    Std.HashMap κ (List υ) :=
  rows.foldl
    (fun index row =>
      index.insert (key row) (index.getD (key row) [] ++ [value row])) ∅

theorem groupRows_getD (key : ρ -> κ) (value : ρ -> υ) (rows : List ρ)
    (group : κ) :
    (groupRows key value rows).getD group [] =
      (rows.filter fun row => key row = group).map value := by
  induction rows using List.reverseRecOn with
  | nil => exact Std.HashMap.getD_empty
  | append_singleton rows row ih =>
      unfold groupRows at ih ⊢
      rw [List.foldl_append, List.foldl_cons, List.foldl_nil,
        Std.HashMap.getD_insert, List.filter_append, List.map_append,
          List.filter_singleton, ← ih]
      by_cases here : key row = group
      · rw [if_pos (beq_iff_eq.mpr here), decide_eq_true here, here]
        rfl
      · rw [if_neg fun same => here (beq_iff_eq.mp same), decide_eq_false here,
          cond_false, List.map_nil, List.append_nil]

end Relational
