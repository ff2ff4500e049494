import Complyx.Relational.Table

namespace Relational

universe u v w

/-!
# Rows read by key

A list of rows is a partial map once a key is chosen: under each key stands
the content of the first row that has it.  Inserting rows with DO NOTHING on
a conflict merges two such maps in favour of the one that was there.  Merging
the same rows again changes nothing, and where rows of one key are copies of
each other their order does not matter.
-/

variable {ρ : Type u} {κ : Type v} {γ : Type w}

/-- What is there stays, what is new is added. -/
def keepOld (old new : κ -> Option γ) : κ -> Option γ :=
  fun key => (old key).or (new key)

theorem keepOld_none (old : κ -> Option γ) :
    keepOld old (fun _ => none) = old := by
  funext key
  exact Option.or_none

theorem keepOld_assoc (first second third : κ -> Option γ) :
    keepOld (keepOld first second) third =
      keepOld first (keepOld second third) := by
  funext key
  exact Option.or_assoc

theorem keepOld_self (content : κ -> Option γ) :
    keepOld content content = content := by
  funext key
  exact Option.or_self

/-- Adding the same once more changes nothing. -/
theorem keepOld_again (old new : κ -> Option γ) :
    keepOld (keepOld old new) new = keepOld old new := by
  rw [keepOld_assoc, keepOld_self]

section Keyed

variable [DecidableEq κ] (key : ρ -> κ) (content : ρ -> γ)

/-- The content of the first row with the key. -/
def keyed (rows : List ρ) : κ -> Option γ := fun value =>
  (rows.find? fun row => decide (key row = value)).map content

theorem keyed_append (first second : List ρ) :
    keyed key content (first ++ second) =
      keepOld (keyed key content first) (keyed key content second) := by
  funext value
  rw [keyed, keepOld, keyed, keyed, List.find?_append, Option.map_or]

theorem keyed_singleton (row : ρ) :
    keyed key content [row] = fun value =>
      if key row = value then some (content row) else none := by
  funext value
  rw [keyed, List.find?_singleton]
  by_cases here : key row = value
  · rw [decide_eq_true here, if_pos rfl, if_pos here]
    rfl
  · rw [decide_eq_false here, if_neg Bool.false_ne_true, if_neg here]
    rfl

/-- Rows of one key are copies of each other. -/
def Copies (rows : List ρ) : Prop :=
  forall first, first ∈ rows -> forall second, second ∈ rows ->
    key first = key second -> content first = content second

variable {key content}

theorem keyed_isSome {rows : List ρ} {value : κ} :
    (keyed key content rows value).isSome = true <-> value ∈ rows.map key := by
  rw [keyed, Option.isSome_map, List.find?_isSome, List.mem_map]
  simp only [decide_eq_true_eq]

theorem keyed_some {rows : List ρ} {value : κ} {stored : γ}
    (found : keyed key content rows value = some stored) :
    Exists fun row => row ∈ rows ∧ key row = value ∧ content row = stored := by
  rcases Option.map_eq_some_iff.mp found with ⟨row, first, same⟩
  have matched := List.find?_some first
  exact ⟨row, List.mem_of_find?_eq_some first, of_decide_eq_true matched, same⟩

theorem keyed_of_copies {rows : List ρ} (copies : Copies key content rows)
    {value : κ} {stored : γ} :
    keyed key content rows value = some stored <->
      Exists fun row => row ∈ rows ∧ key row = value ∧ content row = stored := by
  refine ⟨keyed_some, ?_⟩
  rintro ⟨row, member, rfl, rfl⟩
  have present : (keyed key content rows (key row)).isSome = true :=
    keyed_isSome.mpr (List.mem_map.mpr ⟨row, member, rfl⟩)
  rcases Option.isSome_iff_exists.mp present with ⟨stored, found⟩
  rcases keyed_some found with ⟨other, otherMember, sameKey, same⟩
  rw [found, ← same, copies other otherMember row member sameKey]

/-- Where rows of one key are copies, only which rows there are matters. -/
theorem keyed_eq_of_same {rows rows' : List ρ} (copies : Copies key content rows)
    (same : forall row, row ∈ rows <-> row ∈ rows') :
    keyed key content rows = keyed key content rows' := by
  have copies' : Copies key content rows' := by
    intro first firstMember second secondMember sameKey
    exact copies first ((same first).mpr firstMember) second
      ((same second).mpr secondMember) sameKey
  funext value
  apply Option.ext
  intro stored
  rw [keyed_of_copies copies, keyed_of_copies copies']
  exact exists_congr fun row => and_congr_left' (same row)

end Keyed

end Relational
