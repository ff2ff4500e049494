import Mathlib.Data.List.Basic

namespace Encoding

/-!
# Words after words

The value of a flag on a command line is the word after it.  A search of the
pairs of neighbours finds the word after the first place of the flag, whatever
either of them means.
-/

section Words

variable {α : Type} {flag value : α} {words : List α}

/-- Somewhere the value stands right after the flag. -/
def StandsAfter (flag value : α) (words : List α) : Prop :=
  Exists fun before => Exists fun after =>
    words = before ++ flag :: value :: after

/-- The value stands right after the first place of the flag. -/
def FirstAfter (flag value : α) (words : List α) : Prop :=
  Exists fun before => Exists fun after =>
    words = before ++ flag :: value :: after ∧ flag ∉ before

theorem FirstAfter.standsAfter (first : FirstAfter flag value words) :
    StandsAfter flag value words := by
  rcases first with ⟨before, after, same, _⟩
  exact ⟨before, after, same⟩

/-- Fewer than two words. -/
theorem not_standsAfter_of_short (short : words.length < 2) :
    ¬ StandsAfter flag value words := by
  rintro ⟨before, after, rfl⟩
  rw [List.length_append, List.length_cons, List.length_cons] at short
  omega

theorem standsAfter_cons {head : α} : StandsAfter flag value (head :: words) <->
    (head = flag ∧ words.head? = some value) ∨ StandsAfter flag value words := by
  constructor
  · rintro ⟨before, after, same⟩
    cases before with
    | nil =>
        rcases List.cons.inj same with ⟨here, rest⟩
        rw [here, rest]
        exact Or.inl ⟨rfl, rfl⟩
    | cons first before => exact Or.inr ⟨before, after, (List.cons.inj same).2⟩
  · rintro (⟨here, next⟩ | ⟨before, after, same⟩)
    · rcases List.head?_eq_some_iff.mp next with ⟨after, same⟩
      exact ⟨[], after, by rw [here, same, List.nil_append]⟩
    · exact ⟨head :: before, after, by rw [same, List.cons_append]⟩

theorem firstAfter_cons {head : α} : FirstAfter flag value (head :: words) <->
    (head = flag ∧ words.head? = some value) ∨
      (head ≠ flag ∧ FirstAfter flag value words) := by
  constructor
  · rintro ⟨before, after, same, absent⟩
    cases before with
    | nil =>
        rcases List.cons.inj same with ⟨here, rest⟩
        rw [here, rest]
        exact Or.inl ⟨rfl, rfl⟩
    | cons first before =>
        rcases List.cons.inj same with ⟨here, rest⟩
        rw [List.mem_cons, not_or] at absent
        exact Or.inr ⟨fun found => absent.1 (found.symm.trans here), before,
          after, rest, absent.2⟩
  · rintro (⟨here, next⟩ | ⟨other, before, after, same, absent⟩)
    · rcases List.head?_eq_some_iff.mp next with ⟨after, same⟩
      exact ⟨[], after, by rw [here, same, List.nil_append], List.not_mem_nil⟩
    · refine ⟨head :: before, after, by rw [same, List.cons_append], ?_⟩
      rw [List.mem_cons, not_or]
      exact ⟨Ne.symm other, absent⟩

variable [DecidableEq α]

/-- The second of the first two neighbours of which the first is the flag. -/
def wordAfter (flag : α) (words : List α) : Option α :=
  ((words.zip words.tail).find? fun window => window.1 = flag).map Prod.snd

theorem wordAfter_cons_cons (head next : α) (rest : List α) :
    wordAfter flag (head :: next :: rest) = if head = flag then
      some next else wordAfter flag (next :: rest) := by
  unfold wordAfter
  rw [List.tail_cons, List.zip_cons_cons, List.find?_cons]
  by_cases here : head = flag
  · rw [decide_eq_true here, if_pos here]
    rfl
  · rw [decide_eq_false here, if_neg here]
    rfl

theorem wordAfter_cons_of_ne {head : α} (other : head ≠ flag) (rest : List α) :
    wordAfter flag (head :: rest) = wordAfter flag rest := by
  cases rest with
  | nil => rfl
  | cons next rest => rw [wordAfter_cons_cons, if_neg other]

theorem wordAfter_some_iff : wordAfter flag words = some value <->
      FirstAfter flag value words := by
  induction words with
  | nil =>
      refine iff_of_false (by intro impossible; cases impossible) ?_
      exact fun first => not_standsAfter_of_short (by simp) first.standsAfter
  | cons head rest ih =>
      cases rest with
      | nil =>
          refine iff_of_false (by intro impossible; cases impossible) ?_
          exact fun first => not_standsAfter_of_short (by simp) first.standsAfter
      | cons next rest =>
          rw [wordAfter_cons_cons, firstAfter_cons, List.head?_cons]
          by_cases here : head = flag
          · rw [if_pos here]
            exact ⟨fun found => Or.inl ⟨here, found⟩, fun found =>
              found.elim And.right fun other => absurd here other.1⟩
          · rw [if_neg here, ih]
            exact ⟨fun found => Or.inr ⟨here, found⟩, fun found =>
              found.elim (fun other => absurd other.1 here) And.right⟩

theorem wordAfter_none_iff : wordAfter flag words = none <-> forall value,
      ¬ StandsAfter flag value words := by
  induction words with
  | nil =>
      exact iff_of_true rfl fun value => not_standsAfter_of_short (by simp)
  | cons head rest ih =>
      cases rest with
      | nil =>
          exact iff_of_true rfl fun value => not_standsAfter_of_short (by simp)
      | cons next rest =>
          rw [wordAfter_cons_cons]
          by_cases here : head = flag
          · rw [if_pos here]
            refine iff_of_false (by intro impossible; cases impossible) ?_
            intro none
            exact none next (standsAfter_cons.mpr (Or.inl ⟨here, rfl⟩))
          · rw [if_neg here, ih]
            simp only [standsAfter_cons, here, false_and, false_or]

end Words

end Encoding
