import Complyx.Relational.Table

namespace Relational

universe u v w

/-!
# Foreign keys

A column refers to a key when each of its values is that of some row.  Rows may be
added with a value that is there, rows that refer may be changed elsewhere or
deleted, and rows that are referred to may only be deleted together with those that
refer to them.
-/

section ForeignKey

variable {γ : Type u} {ρ : Type v} {κ : Type w} {column : γ -> κ} {key : ρ -> κ}

/-- Every value of the column is the key of some row. -/
def Refers (column : γ -> κ) (key : ρ -> κ) (children : List γ)
    (parents : List ρ) : Prop :=
  forall child, child ∈ children -> Exists fun parent => parent ∈ parents ∧
    key parent = column child

/-- No key is lost. -/
def KeysKept (key : ρ -> κ) (parents parents' : List ρ) : Prop :=
  forall parent, parent ∈ parents -> Exists fun later => later ∈ parents' ∧
    key later = key parent

theorem KeysKept.refl (parents : List ρ) : KeysKept key parents parents :=
  fun parent member => ⟨parent, member, rfl⟩

theorem keysKept_append (parents added : List ρ) :
    KeysKept key parents (parents ++ added) :=
  fun parent member => ⟨parent, List.mem_append_left added member, rfl⟩

theorem keysKept_map {change : ρ -> ρ}
    (same : forall row, key (change row) = key row) (parents : List ρ) :
    KeysKept key parents (parents.map change) :=
  fun parent member => ⟨change parent, List.mem_map_of_mem member, same parent⟩

/-- Each row has its value from a row that was there, or from a row referred to. -/
theorem Refers.of_origin {children children' : List γ} {parents parents' : List ρ}
    (refers : Refers column key children parents)
    (kept : KeysKept key parents parents')
    (origin : forall child, child ∈ children' ->
      (Exists fun old => old ∈ children ∧ column child = column old) ∨
        Exists fun parent => parent ∈ parents' ∧ key parent = column child) :
    Refers column key children' parents' := by
  intro child member
  rcases origin child member with ⟨old, oldMember, same⟩ | found
  · rcases refers old oldMember with ⟨parent, parentMember, keyed⟩
    rcases kept parent parentMember with ⟨later, laterMember, keyed'⟩
    exact ⟨later, laterMember, (keyed'.trans keyed).trans same.symm⟩
  · exact found

theorem Refers.kept {children : List γ} {parents parents' : List ρ}
    (refers : Refers column key children parents)
    (kept : KeysKept key parents parents') :
    Refers column key children parents' :=
  refers.of_origin kept fun child member => Or.inl ⟨child, member, rfl⟩

theorem Refers.append {children : List γ} {parents : List ρ} {child : γ}
    (refers : Refers column key children parents)
    (found : Exists fun parent => parent ∈ parents ∧ key parent = column child) :
    Refers column key (children ++ [child]) parents := by
  apply refers.of_origin (KeysKept.refl parents)
  intro other member
  rcases List.mem_append.mp member with before | new
  · exact Or.inl ⟨other, before, rfl⟩
  · rw [List.mem_singleton.mp new]
    exact Or.inr found

theorem Refers.map {children : List γ} {parents : List ρ} {change : γ -> γ}
    (refers : Refers column key children parents)
    (same : forall row, column (change row) = column row) :
    Refers column key (children.map change) parents := by
  apply refers.of_origin (KeysKept.refl parents)
  intro other member
  rcases List.mem_map.mp member with ⟨old, oldMember, rfl⟩
  exact Or.inl ⟨old, oldMember, same old⟩

theorem Refers.filter {children : List γ} {parents : List ρ}
    (refers : Refers column key children parents) (keep : γ -> Bool) :
    Refers column key (children.filter keep) parents :=
  fun child member => refers child (List.mem_filter.mp member).1

/-- A deletion that takes along the rows that refer to what is deleted. -/
theorem Refers.cascade {children : List γ} {parents : List ρ}
    (refers : Refers column key children parents) {keep : ρ -> Bool}
    {keepChild : γ -> Bool}
    (together : forall child parent, keepChild child = true ->
      key parent = column child -> keep parent = true) :
    Refers column key (children.filter keepChild) (parents.filter keep) := by
  intro child member
  rcases List.mem_filter.mp member with ⟨before, stays⟩
  rcases refers child before with ⟨parent, parentMember, keyed⟩
  exact ⟨parent,
    List.mem_filter.mpr ⟨parentMember, together child parent stays keyed⟩, keyed⟩

end ForeignKey

end Relational
