import Complyx.Transition.Knowledge
import Complyx.Transition.Run

namespace Transition

/-!
# Programs that do not hear the others

Some programs of a pool are watched and the others are not.  Two stores are
alike when the watched programs cannot tell them apart.  Where an operation of
a watched program is answered the same in stores that are alike, and no
operation of the others tells them apart, the watched programs run beside the
others as they run without them.

The rule leaves room for what a program remembers: which operations may follow,
and what is true of the store because of what was answered before.
-/

/-! ## One operation in two stores -/

section Outcomes

variable {δ α β γ ζ σ : Type}

/-- The same failure, or results that are related. -/
inductive SameOutcome (related : α -> β -> Prop) :
    Except δ α -> Except δ β -> Prop where
  | failed (failure : δ) : SameOutcome related (.error failure) (.error failure)
  | ok {first : α} {second : β} (same : related first second) :
      SameOutcome related (.ok first) (.ok second)

variable {related : α -> β -> Prop} {later : γ -> ζ -> Prop}

theorem SameOutcome.bind {first : Except δ α} {second : Except δ β}
    {firstNext : α -> Except δ γ} {secondNext : β -> Except δ ζ}
    (same : SameOutcome related first second)
    (rest : forall {value other}, related value other ->
      SameOutcome later (firstNext value) (secondNext other)) :
    SameOutcome later (first >>= firstNext) (second >>= secondNext) := by
  cases same with
  | failed failure => exact SameOutcome.failed failure
  | ok same => exact rest same

/-- A part that is the same on both sides. -/
theorem SameOutcome.bind_same {first : Except δ α} {firstNext : α -> Except δ γ}
    {secondNext : α -> Except δ ζ}
    (rest : forall value,
      SameOutcome later (firstNext value) (secondNext value)) :
    SameOutcome later (first >>= firstNext) (first >>= secondNext) := by
  cases first with
  | error failure => exact SameOutcome.failed failure
  | ok value => exact rest value

theorem SameOutcome.mono {wider : α -> β -> Prop} {first : Except δ α}
    {second : Except δ β} (same : SameOutcome related first second)
    (implies : forall value other, first = .ok value -> second = .ok other ->
      related value other ->
      wider value other) : SameOutcome wider first second := by
  cases same with
  | failed failure => exact SameOutcome.failed failure
  | ok same => exact SameOutcome.ok (implies _ _ rfl rfl same)

/-- The same answer, and stores that are alike. -/
abbrev SameAnswer (alike : σ -> σ -> Prop) (first second : α × σ) : Prop :=
  first.1 = second.1 ∧ alike first.2 second.2

theorem SameOutcome.perform {Op Env : Type} {Res : Op -> Type}
    {exec : Env -> (op : Op) -> σ -> Except δ (Res op × σ)} {env : Env} {op : Op}
    {alike : σ -> σ -> Prop} {whole alone : σ} (same : alike whole alone)
    (outcomes : SameOutcome (SameAnswer alike) (exec env op whole)
      (exec env op alone)) :
    SameAnswer alike (Program.perform exec env op whole)
      (Program.perform exec env op alone) := by
  unfold Program.perform
  generalize exec env op whole = first at outcomes ⊢
  generalize exec env op alone = second at outcomes ⊢
  cases outcomes with
  | failed failure => exact ⟨rfl, same⟩
  | ok same' => exact ⟨congrArg Except.ok same'.1, same'.2⟩

end Outcomes

/-! ## Pools -/

section Isolation

variable {Op : Type} {Res : Op -> Type} {δ ε α σ Env κ : Type}

/-- What the operations of a pool have to keep for its watched programs to be
independent of the others.  `own` says whether what a program remembers is that
of a watched one, `knows` what holds of the store because of it, and `guard`
what the environment may not decide for a watched program. -/
structure Isolates (exec : Env -> (op : Op) -> σ -> Except δ (Res op × σ))
    (note : κ -> (op : Op) -> Except δ (Res op) -> κ) (allowed : κ -> Op -> Prop)
    (own : κ -> Prop) (knows : κ -> σ -> Prop) (guard : Env -> Op -> σ -> Prop)
    (alike : σ -> σ -> Prop) : Prop where
  owned : forall known op answer, own (note known op answer) <-> own known
  learns : forall env op known store, allowed known op -> knows known store ->
    knows (note known op (Program.perform exec env op store).1)
      (Program.perform exec env op store).2
  remembers : forall env op known other store, allowed known op ->
    knows known store -> knows other store ->
    knows other (Program.perform exec env op store).2
  same : forall env op known whole alone, own known -> allowed known op ->
    knows known whole -> guard env op whole ->
    alike whole alone ->
      SameAnswer alike (Program.perform exec env op whole)
      (Program.perform exec env op alone)
  unheard : forall env op known whole alone, ¬ own known -> allowed known op ->
    knows known whole ->
    alike whole alone -> alike (Program.perform exec env op whole).2 alone

namespace Pool

/-- Beside each other: the pool with all programs and one in which only the
watched ones were given turns. -/
structure Beside (note : κ -> (op : Op) -> Except δ (Res op) -> κ)
    (allowed : κ -> Op -> Prop) (own : κ -> Prop) (knows : κ -> σ -> Prop)
    (alike : σ -> σ -> Prop) (watched : Nat -> Bool) (known : Nat -> κ)
    (whole alone : Pool Res δ ε α σ) : Prop where
  follows : whole.Follows note allowed known
  knows : forall index, knows (known index) whole.store
  own : forall index, own (known index) <-> watched index = true
  threads : forall index, watched index = true ->
    whole.threads[index]? = alone.threads[index]?
  alike : alike whole.store alone.store

variable {exec : Env -> (op : Op) -> σ -> Except δ (Res op × σ)}
  {note : κ -> (op : Op) -> Except δ (Res op) -> κ}
  {allowed : κ -> Op -> Prop} {own : κ -> Prop} {knows : κ -> σ -> Prop}
  {guard : Env -> Op -> σ -> Prop}
  {alike : σ -> σ -> Prop} {watched : Nat -> Bool} {known : Nat -> κ}
  {whole alone : Pool Res δ ε α σ}
  {label : Nat × Env}

/-- What the programs know stays known, and the one that had its turn knows what
it was answered. -/
theorem knows_learn (isolates : Isolates exec note allowed own knows guard alike)
    (follows : whole.Follows note allowed known)
    (knowing : forall index, knows (known index) whole.store) (label : Nat × Env)
    (index : Nat) :
    knows (whole.learn note exec label known index)
      (whole.step exec label).store := by
  rcases step_cases exec whole label with ⟨idle, same⟩ | ⟨op, next, turn, stepped⟩
  · rw [same, learn_idle idle]
    exact knowing index
  · rw [stepped, learn_call turn]
    have permitted := follows.turn turn
    by_cases here : index = label.1
    · rw [here, Function.update_self]
      exact isolates.learns label.2 op (known label.1) whole.store permitted
        (knowing label.1)
    · rw [Function.update_of_ne here]
      exact isolates.remembers label.2 op (known label.1)
        (known index) whole.store permitted (knowing label.1)
        (knowing index)

/-- What a program remembers stays that of a watched one, or of another. -/
theorem own_learn (isolates : Isolates exec note allowed own knows guard alike)
    (label : Nat × Env) (index : Nat) :
    own (whole.learn note exec label known index) <-> own (known index) := by
  rcases step_cases exec whole label with ⟨idle, _⟩ | ⟨op, next, turn, _⟩
  · rw [learn_idle idle]
  · rw [learn_call turn]
    by_cases here : index = label.1
    · rw [here, Function.update_self]
      exact isolates.owned (known label.1) op _
    · rw [Function.update_of_ne here]

/-- A turn of a watched program, taken in both pools. -/
theorem Beside.own_step
    (isolates : Isolates exec note allowed own knows guard alike)
    (beside : Beside note allowed own knows alike watched known whole alone)
    (mine : watched label.1 = true) (guarded : whole.Guarded guard label) :
    Beside note allowed own knows alike watched
      (whole.learn note exec label known) (whole.step exec label)
      (alone.step exec label) := by
  have threads := beside.threads label.1 mine
  refine ⟨follows_step whole label beside.follows,
    knows_learn isolates beside.follows beside.knows label, ?_, ?_, ?_⟩
  · intro index
    rw [own_learn isolates, beside.own]
  · rcases step_cases exec whole label with ⟨idle, same⟩ | ⟨op, next, turn, _⟩
    · rw [same, step_idle (threads ▸ idle)]
      exact beside.threads
    · have turn' := threads ▸ turn
      have answers :=
        isolates.same label.2 op (known label.1) whole.store alone.store
          ((beside.own label.1).mpr mine)
          (beside.follows.turn turn) (beside.knows label.1)
            (guarded op next turn) beside.alike
      intro index member
      rw [step_get turn, step_get turn', answers.1, beside.threads index member]
  · rcases step_cases exec whole label with
      ⟨idle, same⟩ | ⟨op, next, turn, stepped⟩
    · rw [same, step_idle (threads ▸ idle)]
      exact beside.alike
    · have turn' := threads ▸ turn
      have answers :=
        isolates.same label.2 op (known label.1) whole.store alone.store
          ((beside.own label.1).mpr mine)
          (beside.follows.turn turn) (beside.knows label.1)
            (guarded op next turn) beside.alike
      rw [stepped, step_call turn']
      exact answers.2

/-- A turn of another program, taken in the whole pool alone. -/
theorem Beside.other_step
    (isolates : Isolates exec note allowed own knows guard alike)
    (beside : Beside note allowed own knows alike watched known whole alone)
    (other : watched label.1 ≠ true) :
    Beside note allowed own knows alike watched
      (whole.learn note exec label known) (whole.step exec label) alone := by
  refine ⟨follows_step whole label beside.follows,
    knows_learn isolates beside.follows beside.knows label, ?_, ?_, ?_⟩
  · intro index
    rw [own_learn isolates, beside.own]
  · rcases step_cases exec whole label with ⟨idle, same⟩ | ⟨op, next, turn, _⟩
    · rw [same]
      exact beside.threads
    · intro index member
      have apart : index ≠ label.1 := fun here => other (here ▸ member)
      rw [step_get turn, if_neg apart]
      exact beside.threads index member
  · rcases step_cases exec whole label with
      ⟨idle, same⟩ | ⟨op, next, turn, stepped⟩
    · rw [same]
      exact beside.alike
    · rw [stepped]
      have foreign : ¬ own (known label.1) :=
        fun mine => other ((beside.own label.1).mp mine)
      exact isolates.unheard label.2 op (known label.1) whole.store alone.store
        foreign (beside.follows.turn turn)
        (beside.knows label.1) beside.alike

/-- The watched programs end beside the others as they end when every turn of the
others is left out. -/
theorem Beside.run (isolates : Isolates exec note allowed own knows guard alike)
    (beside : Beside note allowed own knows alike watched known whole alone)
    {labels : List (Nat × Env)}
    (meets :
      Meets (Pool.step exec) (fun pool label => watched label.1 = true ->
        pool.Guarded guard label) whole
        labels) :
    Exists fun learned =>
      Beside note allowed own knows alike watched learned
        (after (Pool.step exec) whole labels)
      (after (Pool.step exec) alone
        (labels.filter fun label => watched label.1)) := by
  induction labels generalizing whole alone known with
  | nil => exact ⟨known, beside⟩
  | cons label rest ih =>
      by_cases mine : watched label.1 = true
      · rw [List.filter_cons, if_pos mine, after_cons, after_cons]
        exact ih (beside.own_step isolates mine (meets.1 mine)) meets.2
      · rw [List.filter_cons, if_neg mine, after_cons]
        exact ih (beside.other_step isolates mine) meets.2

end Pool

end Isolation

end Transition
