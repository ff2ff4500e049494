import Mathlib.Data.List.Pairwise
import Mathlib.Data.List.Infix

namespace Relational

universe u v

/-!
# Tables with uniqueness constraints

A table is a list of rows no two of which clash.  `Clash` stands for all
uniqueness constraints of the table at once: two rows clash when they agree
on the primary key or on any other unique column group.  The list order is
the order in which a query without an ordering clause finds the rows.

A statement that could violate a constraint answers an option and fails as a
whole, so a table with a violation cannot be built.  Updates that leave the
constrained columns alone are total.
-/

structure Table (ρ : Type u) (Clash : ρ -> ρ -> Prop) where
  rows : List ρ
  distinct : rows.Pairwise fun first second => ¬ Clash first second

namespace Table

variable {ρ : Type u} {Clash : ρ -> ρ -> Prop}

def empty : Table ρ Clash := ⟨[], List.Pairwise.nil⟩

/-- DELETE of the rows that fail the test. -/
def filter (table : Table ρ Clash) (keep : ρ -> Bool) : Table ρ Clash :=
  ⟨table.rows.filter keep, table.distinct.sublist List.filter_sublist⟩

/-- UPDATE of columns under no constraint. -/
def map (table : Table ρ Clash) (change : ρ -> ρ)
    (reflects : forall first second, Clash (change first) (change second) ->
      Clash first second) : Table ρ Clash :=
  ⟨table.rows.map change, List.pairwise_map.mpr
    (table.distinct.imp fun apart clash => apart (reflects _ _ clash))⟩

/-- The rows a statement would leave, unless they violate a constraint. -/
def ofRows? [DecidableRel Clash] (rows : List ρ) : Option (Table ρ Clash) :=
  if distinct : rows.Pairwise fun first second =>
    ¬ Clash first second then some ⟨rows, distinct⟩
  else none

/-- INSERT of one row. -/
def insert? [DecidableRel Clash] (table : Table ρ Clash) (row : ρ) :
    Option (Table ρ Clash) :=
  ofRows? (table.rows ++ [row])

/-- UPDATE of columns that may be constrained. -/
def update? [DecidableRel Clash] (table : Table ρ Clash) (change : ρ -> ρ) :
    Option (Table ρ Clash) :=
  ofRows? (table.rows.map change)

@[simp] theorem filter_rows (table : Table ρ Clash) (keep : ρ -> Bool) :
    (table.filter keep).rows = table.rows.filter keep := rfl

@[simp] theorem map_rows (table : Table ρ Clash) (change : ρ -> ρ)
    (reflects : forall first second, Clash (change first) (change second) ->
      Clash first second) :
    (table.map change reflects).rows = table.rows.map change := rfl

section Decidable

variable [DecidableRel Clash]

theorem ofRows?_rows {rows : List ρ} {table : Table ρ Clash}
    (built : ofRows? rows = some table) :
    table.rows = rows := by
  unfold ofRows? at built
  split at built
  · exact (congrArg Table.rows (Option.some.inj built)).symm
  · cases built

theorem ofRows?_of_distinct {rows : List ρ}
    (distinct : rows.Pairwise fun first second => ¬ Clash first second) :
    ofRows? rows = some (⟨rows, distinct⟩ : Table ρ Clash) :=
  dif_pos distinct

theorem insert?_rows {table table' : Table ρ Clash} {row : ρ}
    (inserted : table.insert? row = some table') :
    table'.rows = table.rows ++ [row] :=
  ofRows?_rows inserted

/-- An inserted row clashes with none of the rows that were there. -/
theorem insert?_apart {table table' : Table ρ Clash} {row : ρ}
    (inserted : table.insert? row = some table') {old : ρ}
    (member : old ∈ table.rows) :
    ¬ Clash old row := by
  have distinct := table'.distinct
  rw [insert?_rows inserted] at distinct
  exact (List.pairwise_append.mp distinct).2.2 old member row
    (List.mem_singleton.mpr rfl)

theorem insert?_isSome_iff {table : Table ρ Clash} {row : ρ} :
    (table.insert? row).isSome ↔ forall old, old ∈ table.rows ->
      ¬ Clash old row := by
  constructor
  · intro inserted old member
    rcases Option.isSome_iff_exists.mp inserted with ⟨table', built⟩
    exact insert?_apart built member
  · intro apart
    have distinct : (table.rows ++ [row]).Pairwise fun first second =>
        ¬ Clash first second := by
      refine List.pairwise_append.mpr
        ⟨table.distinct, List.pairwise_singleton _ _, ?_⟩
      intro old member new single
      rw [List.mem_singleton.mp single]
      exact apart old member
    rw [insert?, ofRows?_of_distinct distinct]
    rfl

theorem update?_rows {table table' : Table ρ Clash} {change : ρ -> ρ}
    (updated : table.update? change = some table') :
    table'.rows = table.rows.map change :=
  ofRows?_rows updated

end Decidable

/-! ## Unique keys -/

section Key

variable {κ : Type v} {key : ρ -> κ}

/-- Rows that agree on a unique key are the same row. -/
theorem eq_of_key
    (separates : forall first second, key first = key second ->
      Clash first second)
    (table : Table ρ Clash) {first second : ρ} (firstMember : first ∈ table.rows)
    (secondMember : second ∈ table.rows)
    (same : key first = key second) : first = second := by
  rcases table with ⟨rows, distinct⟩
  induction rows with
  | nil => cases firstMember
  | cons head tail ih =>
      have parts := List.pairwise_cons.mp distinct
      rcases List.mem_cons.mp firstMember with atHead | inTail
      · rcases List.mem_cons.mp secondMember with atHead' | inTail'
        · exact atHead.trans atHead'.symm
        · rw [atHead] at same
          exact absurd (separates _ _ same) (parts.1 second inTail')
      · rcases List.mem_cons.mp secondMember with atHead' | inTail'
        · rw [atHead'] at same
          exact absurd (separates _ _ same.symm) (parts.1 first inTail)
        · exact ih parts.2 inTail inTail'

variable [DecidableEq κ]

/-- SELECT by a unique key. -/
def find (table : Table ρ Clash) (key : ρ -> κ) (value : κ) : Option ρ :=
  table.rows.find? fun row => decide (key row = value)

theorem find_some {table : Table ρ Clash} {value : κ} {row : ρ}
    (found : table.find key value = some row) :
    row ∈ table.rows ∧ key row = value := by
  unfold find at found
  have matched := List.find?_some found
  exact ⟨List.mem_of_find?_eq_some found, of_decide_eq_true matched⟩

theorem find_none_iff {table : Table ρ Clash} {value : κ} :
    table.find key value = none ↔ forall row, row ∈ table.rows ->
      key row ≠ value := by
  simp only [find, List.find?_eq_none, decide_eq_true_eq, ne_eq]

/-- A unique key determines what a lookup finds. -/
theorem find_eq_some_iff
    (separates : forall first second, key first = key second ->
      Clash first second)
    {table : Table ρ Clash} {value : κ} {row : ρ} :
    table.find key value = some row ↔ row ∈ table.rows ∧ key row = value := by
  constructor
  · exact find_some
  · rintro ⟨member, same⟩
    cases lookup : table.find key value with
    | none => exact absurd same (find_none_iff.mp lookup row member)
    | some other =>
        have found := find_some lookup
        rw [eq_of_key separates table found.1 member (found.2.trans same.symm)]

theorem find_insert? [DecidableRel Clash] {table table' : Table ρ Clash} {row : ρ}
    (inserted : table.insert? row = some table') (value : κ) :
    table'.find key value =
      (table.find key value).or (if key row = value then some row else none) := by
  rw [find, find, insert?_rows inserted, List.find?_append, List.find?_singleton]
  simp only [decide_eq_true_eq]

theorem find_map (table : Table ρ Clash) {change : ρ -> ρ}
    {reflects : forall first second, Clash (change first) (change second) ->
      Clash first second}
    (kept : forall row, key (change row) = key row) (value : κ) :
    (table.map change reflects).find key value =
      (table.find key value).map change := by
  rw [find, find, map_rows, List.find?_map]
  congr 2
  funext row
  rw [Function.comp_apply, kept]

end Key

/-- Changing one row, as far as a count can tell, changes the count by what the
row was and became. -/
theorem countP_map_at {test : ρ -> Bool} {change : ρ -> ρ} {rows : List ρ}
    {target : ρ} (distinct : rows.Nodup) (member : target ∈ rows)
    (others : forall row, row ∈ rows -> row ≠ target ->
      test (change row) = test row) :
    (rows.map change).countP test + (test target).toNat =
      rows.countP test + (test (change target)).toNat := by
  induction rows with
  | nil => cases member
  | cons head tail ih =>
      have parts := List.nodup_cons.mp distinct
      have inTail : forall row, row ∈ tail -> row ≠ target ->
          test (change row) = test row :=
        fun row rowMember => others row (List.mem_cons_of_mem _ rowMember)
      rw [List.map_cons, List.countP_cons, List.countP_cons]
      by_cases here : head = target
      · have same : (tail.map change).countP test = tail.countP test := by
          rw [List.countP_map]
          apply List.countP_congr
          intro row rowMember
          have elsewhere : row ≠ target :=
            fun equal => parts.1 (here ▸ equal ▸ rowMember)
          rw [Function.comp_apply, inTail row rowMember elsewhere]
        rw [here, same]
        cases test target <;> cases test (change target) <;> rfl
      · have later := (List.mem_cons.mp member).resolve_left (Ne.symm here)
        have tailCount := ih parts.2 later inTail
        rw [others head List.mem_cons_self here]
        omega

/-- Changing one counted row into an uncounted one, and leaving the count of
every other row alone, lowers the count by one. -/
theorem countP_map_one {test : ρ -> Bool} {change : ρ -> ρ} {rows : List ρ}
    {target : ρ} (distinct : rows.Nodup) (member : target ∈ rows)
    (counted : test target = true) (dropped : test (change target) = false)
    (others : forall row, row ∈ rows -> row ≠ target ->
      test (change row) = test row) :
    (rows.map change).countP test + 1 = rows.countP test := by
  have counts := countP_map_at distinct member others
  rw [counted, dropped] at counts
  exact counts

/-- A change that leaves the selected rows alone and selects no others is not seen
by the selection. -/
theorem filter_map_fixed {test : ρ -> Bool} {change : ρ -> ρ} {rows : List ρ}
    (same : forall row, row ∈ rows -> test (change row) = test row)
    (fixed : forall row, row ∈ rows -> test row = true -> change row = row) :
    (rows.map change).filter test = rows.filter test := by
  have selected : rows.filter (test ∘ change) = rows.filter test :=
    List.filter_congr same
  rw [List.filter_map, selected]
  calc
    (rows.filter test).map change = (rows.filter test).map id := by
      apply List.map_congr_left
      intro row member
      have parts := List.mem_filter.mp member
      exact fixed row parts.1 parts.2
    _ = rows.filter test := List.map_id _

theorem filter_append_dropped {test : ρ -> Bool} {rows : List ρ} {row : ρ}
    (dropped : test row = false) :
    (rows ++ [row]).filter test = rows.filter test := by
  rw [List.filter_append, List.filter_cons_of_neg (Bool.not_eq_true _ ▸ dropped),
    List.filter_nil, List.append_nil]

/-- A change that the selection does not see can be made after it. -/
theorem filter_map_selected {test : ρ -> Bool} {change : ρ -> ρ}
    (same : forall row, test (change row) = test row) (rows : List ρ) :
    (rows.map change).filter test = (rows.filter test).map change := by
  rw [List.filter_map]
  congr 2
  funext row
  exact same row

/-- A row that clashes with none of the rows left out is inserted or refused
because of those selected. -/
theorem insert?_selected [DecidableRel Clash] {test : ρ -> Bool}
    {first second : Table ρ Clash}
    (same : first.rows.filter test = second.rows.filter test) {row : ρ}
    (firstApart : forall old, old ∈ first.rows -> test old = false ->
      ¬ Clash old row)
    (secondApart : forall old, old ∈ second.rows -> test old = false ->
      ¬ Clash old row) :
    Option.Rel
      (fun first second => first.rows.filter test = second.rows.filter test)
        (first.insert? row)
      (second.insert? row) := by
  have selected : forall table : Table ρ Clash,
    (forall old, old ∈ table.rows -> test old = false -> ¬ Clash old row) ->
      ((table.insert? row).isSome <-> forall old, old ∈ table.rows.filter test ->
        ¬ Clash old row) := by
    intro table apart
    rw [insert?_isSome_iff]
    constructor
    · intro clear old member
      exact clear old (List.mem_filter.mp member).1
    · intro clear old member
      cases chosen : test old with
      | false => exact apart old member chosen
      | true => exact clear old (List.mem_filter.mpr ⟨member, chosen⟩)
  have alike : (first.insert? row).isSome <-> (second.insert? row).isSome := by
    rw [selected first firstApart, selected second secondApart, same]
  cases inserted : first.insert? row with
  | none =>
      cases inserted' : second.insert? row with
      | none => exact Option.Rel.none
      | some second' =>
          rw [inserted, inserted'] at alike
          cases alike.mpr rfl
  | some first' =>
      cases inserted' : second.insert? row with
      | none =>
          rw [inserted, inserted'] at alike
          cases alike.mp rfl
      | some second' =>
          apply Option.Rel.some
          rw [insert?_rows inserted, insert?_rows inserted', List.filter_append,
            List.filter_append, same]

theorem nodup (table : Table ρ Clash)
    (reflexive : forall row, Clash row row) : table.rows.Nodup := by
  apply table.distinct.imp
  intro first second apart equal
  rw [equal] at apart
  exact apart (reflexive second)

end Table

end Relational
