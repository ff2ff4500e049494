import Complyx.Transition.Pool

namespace Transition

/-!
# The log of a run

The operations of a run that succeeded, in order, each with its environment.  A
part of the store that every operation either leaves alone or overwrites holds, at
the end, what the last entry that overwrites it has put there.  A property that
holds at the end and did not hold before was brought about by some entry.
-/

/-- What holds at the end held at the start or was brought about by some step. -/
theorem after_brought_about {σ Label : Type} {step : σ -> Label -> σ}
    {property : σ -> Prop} {brings : σ -> Label -> Prop}
    (made : forall state label, property (step state label) -> property state ∨
      brings state label)
    (start : σ) {labels : List Label}
    (holds : property (after step start labels)) :
    property start ∨ Exists fun before => Exists fun label => Exists fun rest =>
      labels = before ++ label :: rest ∧
      brings (after step start before) label := by
  induction labels generalizing start with
  | nil => exact Or.inl holds
  | cons label rest ih =>
      rcases ih (step start label) holds with
        first | ⟨before, later, rest', same, brought⟩
      · rcases made start label first with already | brought
        · exact Or.inl already
        · exact Or.inr ⟨[], label, rest, rfl, brought⟩
      · exact Or.inr
          ⟨label :: before, later, rest', congrArg (label :: ·) same, brought⟩

section Log

variable {Op : Type} {Res : Op -> Type} {δ ε α σ Env β : Type}

/-- What the last entry that decides it says, or else what was so before. -/
def lastly {Entry : Type} (edit : Entry -> Option β) (first : β)
    (log : List Entry) : β :=
  (log.filterMap edit).getLast?.getD first

/-- What is only ever set is set at the end if it was at first or some entry sets
it. -/
theorem lastly_sets {Entry : Type} {edit : Entry -> Option Bool}
    (sets : forall entry, edit entry ≠ some false) (first : Bool)
    (log : List Entry) :
    lastly edit first log =
      (first || log.any fun entry => (edit entry).isSome) := by
  unfold lastly
  induction log using List.reverseRecOn with
  | nil => exact (Bool.or_false first).symm
  | append_singleton before entry ih =>
      rw [List.filterMap_append, List.any_append]
      cases change : edit entry with
      | none =>
          rw [List.filterMap_cons_none change, List.filterMap_nil,
            List.append_nil, ih, List.any_cons, change]
          exact congrArg (first || ·) (Bool.or_false _).symm
      | some value =>
          have set : value = true := by
            cases value with
            | true => rfl
            | false => exact absurd change (sets entry)
          rw [List.filterMap_cons_some change, List.filterMap_nil,
            List.getLast?_append, List.any_cons, change, set]
          exact ((congrArg (first || ·) (Bool.or_true _)).trans
            (Bool.or_true _)).symm

namespace Pool

section Entries

variable (exec : Env -> (op : Op) -> σ -> Except δ (Res op × σ))

/-- What a label adds to the log. -/
def entry (pool : Pool Res δ ε α σ) (label : Nat × Env) : Option (Env × Op) :=
  match pool.threads[label.1]? with
  | some (.call op _) =>
      if (exec label.2 op pool.store).isOk then some (label.2, op) else none
  | _ => none

def log : Pool Res δ ε α σ -> List (Nat × Env) -> List (Env × Op)
  | _, [] => []
  | pool, label :: rest =>
      (pool.entry exec label).toList ++ (pool.step exec label).log rest

end Entries

variable {exec : Env -> (op : Op) -> σ -> Except δ (Res op × σ)}

/-- A step either adds nothing and leaves the store as it was, or adds an operation
that succeeded. -/
theorem entry_cases (exec : Env -> (op : Op) -> σ -> Except δ (Res op × σ))
    (pool : Pool Res δ ε α σ) (label : Nat × Env) :
    (pool.entry exec label = none ∧ (pool.step exec label).store = pool.store) ∨
    Exists fun op => Exists fun value => Exists fun store' =>
      pool.entry exec label = some (label.2, op) ∧
      exec label.2 op pool.store = .ok (value, store') ∧
        (pool.step exec label).store = store' := by
  rcases step_cases exec pool label with ⟨idle, same⟩ | ⟨op, next, turn, stepped⟩
  · left
    refine ⟨?_, ?_⟩
    · unfold entry
      split
      · next op next turn => exact absurd turn (idle op next)
      · rfl
    · rw [same]
  · have entered :
        pool.entry exec label = if (exec label.2 op pool.store).isOk then
          some (label.2, op) else none := by
      rw [entry, turn]
    cases outcome : exec label.2 op pool.store with
    | error failure =>
        left
        rw [entered, outcome, stepped, Program.perform_error outcome]
        exact ⟨rfl, rfl⟩
    | ok result =>
        right
        refine ⟨op, result.1, result.2, ?_, outcome, ?_⟩
        · rw [entered, outcome]
          rfl
        · rw [stepped, Program.perform_ok outcome]

/-- Only what a program may issue gets into the log. -/
theorem log_issued {allowed : Op -> Prop} {pool : Pool Res δ ε α σ}
    (issues : pool.Issues allowed) {labels : List (Nat × Env)} {entry : Env × Op}
    (member : entry ∈ pool.log exec labels) : allowed entry.2 := by
  induction labels generalizing pool with
  | nil => cases member
  | cons label rest ih =>
      rcases List.mem_append.mp member with here | later
      · unfold Pool.entry at here
        split at here
        · next op next turn =>
          split at here
          · rw [List.mem_singleton.mp here]
            exact issues.turn turn
          · cases here
        · cases here
      · exact ih (issues_step pool label issues) later

/-- No program comes or goes. -/
theorem step_length (pool : Pool Res δ ε α σ) (label : Nat × Env) :
    (pool.step exec label).threads.length = pool.threads.length := by
  rcases step_cases exec pool label with ⟨_, same⟩ | ⟨op, next, _, stepped⟩
  · rw [same]
  · rw [stepped]
    exact List.length_set

theorem after_length (pool : Pool Res δ ε α σ) (labels : List (Nat × Env)) :
    (after (Pool.step exec) pool labels).threads.length =
      pool.threads.length := by
  induction labels generalizing pool with
  | nil => rfl
  | cons label rest ih =>
      exact (ih (pool.step exec label)).trans (step_length pool label)

theorem issues_after {allowed : Op -> Prop} {pool : Pool Res δ ε α σ}
    (issues : pool.Issues allowed) (labels : List (Nat × Env)) :
    (after (Pool.step exec) pool labels).Issues allowed := by
  induction labels generalizing pool with
  | nil => exact issues
  | cons label rest ih => exact ih (issues_step pool label issues)

/-- What every allowed operation keeps, a run keeps. -/
theorem run_related {allowed : Op -> Prop} {relation : σ -> σ -> Prop}
    (reflexive : forall store, relation store store)
    (transitive : forall first second third, relation first second ->
      relation second third -> relation first third)
    (kept : forall env op store, allowed op ->
      relation store (Program.perform exec env op store).2)
    {pool : Pool Res δ ε α σ} (issues : pool.Issues allowed)
    (labels : List (Nat × Env)) :
    relation pool.store (after (Pool.step exec) pool labels).store := by
  induction labels generalizing pool with
  | nil => exact reflexive pool.store
  | cons label rest ih =>
      refine transitive _ _ _ ?_ (ih (issues_step pool label issues))
      rcases step_cases exec pool label with ⟨_, same⟩ | ⟨op, next, turn, stepped⟩
      · rw [same]
        exact reflexive pool.store
      · rw [stepped]
        exact kept label.2 op pool.store (issues.turn turn)

/-- The last entry that overwrites a part of the store decides what it holds. -/
theorem view_after {view : σ -> β} {edit : Env × Op -> Option β}
    {invariant : σ -> Prop}
    (written : forall env op store value store', invariant store ->
      exec env op store = .ok (value, store') ->
      view store' = (edit (env, op)).getD (view store)) (pool : Pool Res δ ε α σ)
    {labels : List (Nat × Env)}
    (every :
      Always (Pool.step exec) (fun pool => invariant pool.store) pool labels) :
    view (after (Pool.step exec) pool labels).store =
      lastly edit (view pool.store) (pool.log exec labels) := by
  unfold lastly
  induction labels generalizing pool with
  | nil => rfl
  | cons label rest ih =>
      have parts := always_cons.mp every
      rw [after_cons, ih _ parts.2, log]
      rcases entry_cases exec pool label with
        ⟨nothing, same⟩ | ⟨op, value, store', entered, outcome, store⟩
      · rw [nothing, same]
        rfl
      · rw [entered, store,
          written label.2 op pool.store value store' parts.1 outcome,
          Option.toList_some, List.filterMap_append, List.getLast?_append]
        cases change : edit (label.2, op) with
        | none =>
            have nothing : [(label.2, op)].filterMap edit = [] :=
              List.filterMap_cons_none change
            rw [nothing, List.getLast?_nil, Option.or_none]
            rfl
        | some new =>
            have only : [(label.2, op)].filterMap edit = [new] :=
              List.filterMap_cons_some change
            rw [only]
            cases ((pool.step exec label).log exec rest).filterMap edit
              |>.getLast? <;> rfl

/-- The same where an operation is described in every store. -/
theorem lastly_written {view : σ -> β} {edit : Env × Op -> Option β}
    (written : forall env op store value store',
      exec env op store = .ok (value, store') ->
      view store' = (edit (env, op)).getD (view store)) (pool : Pool Res δ ε α σ)
    (labels : List (Nat × Env)) :
    view (after (Pool.step exec) pool labels).store =
      lastly edit (view pool.store) (pool.log exec labels) := by
  have anywhere : forall env op store value store', (fun _ : σ => True) store ->
    exec env op store = .ok (value, store') ->
      view store' = (edit (env, op)).getD (view store) :=
    fun env op store value store' _ => written env op store value store'
  exact view_after anywhere pool fun _ _ => trivial

/-- What holds at the end held at the start or was brought about on the way. -/
theorem brought_about {property : σ -> Prop} {brings : Env × Op -> Prop}
    (made : forall env op store value store',
      exec env op store = .ok (value, store') -> property store' ->
      property store ∨ brings (env, op)) (pool : Pool Res δ ε α σ)
    {labels : List (Nat × Env)}
    (holds : property (after (Pool.step exec) pool labels).store) :
    property pool.store ∨ Exists fun entry => entry ∈ pool.log exec labels ∧
      brings entry := by
  induction labels generalizing pool with
  | nil => exact Or.inl holds
  | cons label rest ih =>
      rw [log]
      rcases ih (pool.step exec label) holds with
        before | ⟨entry, member, brought⟩
      · rcases entry_cases exec pool label with
          ⟨nothing, same⟩ | ⟨op, value, store', entered, outcome, store⟩
        · rw [same] at before
          exact Or.inl before
        · rw [store] at before
          rcases made label.2 op pool.store value store' outcome before with
            earlier | brought
          · exact Or.inl earlier
          · refine Or.inr ⟨(label.2, op), ?_, brought⟩
            rw [entered]
            exact List.mem_append_left _ (List.mem_singleton.mpr rfl)
      · exact Or.inr ⟨entry, List.mem_append_right _ member, brought⟩

end Pool

end Log

end Transition
