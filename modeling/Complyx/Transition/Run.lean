import Mathlib.Data.List.Infix
import Mathlib.Order.Basic

namespace Transition

universe u v

/-!
# Runs of a deterministic labelled step

Everything a run may choose, the caller's arguments as well as what the
environment decides, is part of a label.  A run is then a list of labels, and
the state after it is a fold.  Three questions are asked of runs here: does a
property hold in every state reached, does a relation hold between each state
and every later one, and which condition on the single steps decides either.

`Meets allowed` says that every label of the run is allowed in the state it
is taken from.  The two exactness results turn an equivalence for one step
into an equivalence for whole runs.
-/

variable {σ : Type u} {Label : Type v}

/-- The state after the labels of a run, in order. -/
def after (step : σ -> Label -> σ) (start : σ) (labels : List Label) : σ :=
  labels.foldl step start

section After

variable (step : σ -> Label -> σ)

@[simp] theorem after_nil (start : σ) : after step start [] = start := rfl

@[simp] theorem after_cons (start : σ) (label : Label) (rest : List Label) :
    after step start (label :: rest) = after step (step start label) rest := rfl

theorem after_append (start : σ) (first second : List Label) :
    after step start (first ++ second) =
      after step (after step start first) second :=
  List.foldl_append

end After

/-- Every label of the run is allowed in the state it is taken from. -/
def Meets (step : σ -> Label -> σ) (allowed : σ -> Label -> Prop) :
    σ -> List Label -> Prop
  | _, [] => True
  | start, label :: rest =>
      allowed start label ∧ Meets step allowed (step start label) rest

instance Meets.decide (step : σ -> Label -> σ) (allowed : σ -> Label -> Prop)
    [forall state label, Decidable (allowed state label)] (start : σ) :
    (labels : List Label) -> Decidable (Meets step allowed start labels)
  | [] => .isTrue trivial
  | label :: rest =>
      have := Meets.decide step allowed (step start label) rest
      inferInstanceAs
        (Decidable
          (allowed start label ∧ Meets step allowed (step start label) rest))

/-- The property holds in every state of the run, its first state included. -/
def Always (step : σ -> Label -> σ) (property : σ -> Prop) (start : σ)
    (labels : List Label) : Prop :=
  forall before, before <+: labels -> property (after step start before)

/-- The relation holds between every state of the run and every later one. -/
def Persists (step : σ -> Label -> σ) (relation : σ -> σ -> Prop) (start : σ)
    (labels : List Label) : Prop :=
  forall early late, early <+: late -> late <+: labels ->
    relation (after step start early) (after step start late)

section Rules

variable {step : σ -> Label -> σ}

theorem Always.last {property : σ -> Prop} {start : σ} {labels : List Label}
    (always : Always step property start labels) :
    property (after step start labels) :=
  always labels List.prefix_rfl

theorem Always.first {property : σ -> Prop} {start : σ} {labels : List Label}
    (always : Always step property start labels) : property start :=
  always [] List.nil_prefix

theorem always_nil {property : σ -> Prop} {start : σ} :
    Always step property start [] <-> property start := by
  constructor
  · exact Always.first
  · intro holds before isPrefix
    rw [List.prefix_nil.mp isPrefix]
    exact holds

theorem always_cons {property : σ -> Prop} {start : σ} {label : Label}
    {rest : List Label} :
    Always step property start (label :: rest) <->
      property start ∧ Always step property (step start label) rest := by
  constructor
  · intro always
    refine ⟨always.first, ?_⟩
    intro before isPrefix
    exact always (label :: before) (List.cons_prefix_cons.mpr ⟨rfl, isPrefix⟩)
  · rintro ⟨first, always⟩ before isPrefix
    cases before with
    | nil => exact first
    | cons head tail =>
        rcases List.cons_prefix_cons.mp isPrefix with ⟨same, tailPrefix⟩
        rw [same]
        exact always tail tailPrefix

theorem meets_of_forall {allowed : σ -> Label -> Prop} {labels : List Label}
    (each : forall label, label ∈ labels -> forall state, allowed state label)
    (start : σ) :
    Meets step allowed start labels := by
  induction labels generalizing start with
  | nil => trivial
  | cons label rest ih =>
      exact ⟨each label List.mem_cons_self start,
        ih (fun other member => each other (List.mem_cons_of_mem _ member)) _⟩

theorem Meets.mono {first second : σ -> Label -> Prop} {start : σ}
    {labels : List Label} (meets : Meets step first start labels)
    (implies : forall state label, label ∈ labels -> first state label ->
      second state label) :
    Meets step second start labels := by
  induction labels generalizing start with
  | nil => trivial
  | cons label rest ih =>
      refine ⟨implies start label List.mem_cons_self meets.1, ih meets.2 ?_⟩
      intro state other member
      exact implies state other (List.mem_cons_of_mem label member)

/-- What holds in every state of the run may be assumed of the state a label is
taken from. -/
theorem meets_of_always {property : σ -> Prop} {allowed : σ -> Label -> Prop}
    {start : σ} {labels : List Label} (always : Always step property start labels)
    (permits : forall state label, label ∈ labels -> property state ->
      allowed state label) :
    Meets step allowed start labels := by
  induction labels generalizing start with
  | nil => trivial
  | cons label rest ih =>
      have parts := always_cons.mp always
      refine ⟨permits start label List.mem_cons_self parts.1, ih parts.2 ?_⟩
      intro state other member
      exact permits state other (List.mem_cons_of_mem label member)

/-- The invariant rule for runs whose steps are all allowed. -/
theorem always_of_meets {allowed : σ -> Label -> Prop} {invariant : σ -> Prop}
    (preserved : forall state label, invariant state -> allowed state label ->
      invariant (step state label))
    {start : σ} (holds : invariant start) {labels : List Label}
    (meets : Meets step allowed start labels) :
    Always step invariant start labels := by
  induction labels generalizing start with
  | nil => exact always_nil.mpr holds
  | cons label rest ih =>
      exact always_cons.mpr
        ⟨holds, ih (preserved start label holds meets.1) meets.2⟩

/-- The invariant rule for unrestricted runs. -/
theorem always_of_preserved {invariant : σ -> Prop}
    (preserved : forall state label, invariant state ->
      invariant (step state label))
    {start : σ} (holds : invariant start) (labels : List Label) :
    Always step invariant start labels := by
  induction labels generalizing start with
  | nil => exact always_nil.mpr holds
  | cons label rest ih =>
      exact always_cons.mpr ⟨holds, ih (preserved start label holds)⟩

theorem Always.mono {first second : σ -> Prop}
    (implies : forall state, first state -> second state) {start : σ}
    {labels : List Label} (always : Always step first start labels) :
    Always step second start labels :=
  fun before isPrefix => implies _ (always before isPrefix)

/-- Where a step keeps the property exactly when its label is allowed, a run
keeps it throughout exactly when all its labels are.  The invariant carries
what the equivalence for one step needs to know about reachable states. -/
theorem always_iff_meets {allowed : σ -> Label -> Prop}
    {invariant property : σ -> Prop}
    (preserved : forall state label, invariant state ->
      invariant (step state label))
    (exact : forall state label, invariant state -> property state ->
      (property (step state label) <-> allowed state label)) {start : σ}
    (inside : invariant start) (holds : property start) (labels : List Label) :
    Always step property start labels <-> Meets step allowed start labels := by
  induction labels generalizing start with
  | nil => exact ⟨fun _ => trivial, fun _ => always_nil.mpr holds⟩
  | cons label rest ih =>
      have inside' := preserved start label inside
      have here := exact start label inside holds
      rw [always_cons]
      constructor
      · rintro ⟨_, always⟩
        exact ⟨here.mp always.first, (ih inside' always.first).mp always⟩
      · rintro ⟨permitted, meets⟩
        have next := here.mpr permitted
        exact ⟨holds, (ih inside' next).mpr meets⟩

/-- The same for a property that needs no invariant beside it. -/
theorem always_iff_first_meets {allowed : σ -> Label -> Prop}
    {property : σ -> Prop}
    (exact : forall state label, property state ->
      (property (step state label) <-> allowed state label))
    (start : σ) (labels : List Label) :
    Always step property start labels <-> property start ∧
      Meets step allowed start labels := by
  have steps (holds : property start) : Always step property start labels <->
      Meets step allowed start labels :=
    @always_iff_meets σ Label step allowed (fun _ => True) property
      (fun _ _ => id)
      (fun state label _ => exact state label) start trivial holds labels
  constructor
  · intro always
    exact ⟨always.first, (steps always.first).mp always⟩
  · rintro ⟨holds, meets⟩
    exact (steps holds).mpr meets

/-- A reflexive and transitive relation persists along a run exactly when
every step keeps it, that is when every label is allowed. -/
theorem persists_iff_meets {allowed : σ -> Label -> Prop}
    {relation : σ -> σ -> Prop} (reflexive : forall state, relation state state)
    (transitive : forall {first second third},
      relation first second -> relation second third -> relation first third)
    (exact : forall state label, relation state (step state label) <->
      allowed state label)
    (start : σ) (labels : List Label) :
    Persists step relation start labels <-> Meets step allowed start labels := by
  induction labels generalizing start with
  | nil =>
      constructor
      · intro _
        trivial
      · intro _ early late earlyPrefix latePrefix
        rw [List.prefix_nil.mp latePrefix] at earlyPrefix ⊢
        rw [List.prefix_nil.mp earlyPrefix]
        exact reflexive start
  | cons label rest ih =>
      constructor
      · intro persists
        refine ⟨(exact start label).mp ?_, (ih (step start label)).mp ?_⟩
        · exact persists [] [label] List.nil_prefix
            (List.cons_prefix_cons.mpr ⟨rfl, List.nil_prefix⟩)
        · intro early late earlyPrefix latePrefix
          exact persists (label :: early) (label :: late)
            (List.cons_prefix_cons.mpr ⟨rfl, earlyPrefix⟩)
            (List.cons_prefix_cons.mpr ⟨rfl, latePrefix⟩)
      · rintro ⟨permitted, meets⟩ early late earlyPrefix latePrefix
        have later := (ih (step start label)).mpr meets
        cases late with
        | nil =>
            rw [List.prefix_nil.mp earlyPrefix]
            exact reflexive start
        | cons head tail =>
            rcases List.cons_prefix_cons.mp latePrefix with ⟨same, tailPrefix⟩
            subst head
            cases early with
            | nil =>
                have first := (exact start label).mpr permitted
                exact transitive first (later [] tail List.nil_prefix tailPrefix)
            | cons earlyHead earlyTail =>
                rcases List.cons_prefix_cons.mp earlyPrefix with
                  ⟨sameHead, earlyTailPrefix⟩
                subst earlyHead
                exact later earlyTail tail earlyTailPrefix tailPrefix

/-- A condition on single steps that implies another wherever the invariant holds
implies it of runs. -/
theorem Meets.inside {first second : σ -> Label -> Prop} {invariant : σ -> Prop}
    (preserved : forall state label, invariant state ->
      invariant (step state label))
    (implies : forall state label, invariant state -> first state label ->
      second state label) {start : σ} (inside : invariant start)
    {labels : List Label} (meets : Meets step first start labels) :
    Meets step second start labels := by
  induction labels generalizing start with
  | nil => trivial
  | cons label rest ih =>
      have here := implies start label inside meets.1
      exact ⟨here, ih (preserved start label inside) meets.2⟩

/-- Two conditions on single steps that agree wherever the invariant holds agree
on runs. -/
theorem meets_iff_meets {first second : σ -> Label -> Prop}
    {invariant : σ -> Prop}
    (preserved : forall state label, invariant state ->
      invariant (step state label))
    (exact : forall state label, invariant state ->
      (first state label <-> second state label))
    {start : σ} (inside : invariant start) (labels : List Label) :
    Meets step first start labels <-> Meets step second start labels := by
  induction labels generalizing start with
  | nil => exact Iff.rfl
  | cons label rest ih =>
      exact and_congr (exact start label inside)
        (ih (preserved start label inside))

end Rules

/-! ## History variables -/

section History

variable {τ : Type u} {step : σ -> Label -> σ} {recorded : τ -> Label -> τ}
  (view : τ -> σ)

/-- A state that records more than the system has takes the same steps. -/
theorem meets_view {allowed : σ -> Label -> Prop}
    (commutes : forall state label,
      view (recorded state label) = step (view state) label)
    (start : τ) (labels : List Label) :
    Meets recorded (fun state => allowed (view state)) start labels <->
      Meets step allowed (view start) labels := by
  induction labels generalizing start with
  | nil => exact Iff.rfl
  | cons label rest ih =>
      refine and_congr Iff.rfl ?_
      rw [← commutes]
      exact ih (recorded start label)

/-- What is seen of the last state is the last state of what is seen. -/
theorem after_view {allowed : τ -> Label -> Prop}
    (commutes : forall state label, allowed state label ->
      view (recorded state label) = step (view state) label)
    {start : τ} {labels : List Label}
    (meets : Meets recorded allowed start labels) :
    view (after recorded start labels) = after step (view start) labels := by
  induction labels generalizing start with
  | nil => rfl
  | cons label rest ih =>
      rw [after_cons, after_cons, ← commutes start label meets.1]
      exact ih meets.2

end History

end Transition
