import Mathlib.Data.List.TakeWhile

namespace Encoding

/-!
# Searching texts

The positions of the first and the last occurrence of a character, and of the
first occurrence of a word.
-/

section Find

variable {α : Type} [DecidableEq α] {value : α}

/-- The position of the first occurrence. -/
def find (value : α) : List α -> Option Nat
  | [] => none
  | head :: rest =>
      if head = value then some 0 else (find value rest).map Nat.succ

/-- The position of the last occurrence. -/
def rfind (value : α) : List α -> Option Nat
  | [] => none
  | head :: rest =>
      match rfind value rest with
      | some position => some (position + 1)
      | none => if head = value then some 0 else none

/-- The position of the first occurrence of a word. -/
def findWord (word : List α) : List α -> Option Nat
  | [] => if word.isEmpty then some 0 else none
  | head :: rest =>
      if word.isPrefixOf (head :: rest) then some 0
      else (findWord word rest).map Nat.succ

theorem find_first {before : List α} (absent : value ∉ before) (after : List α) :
    find value (before ++ value :: after) = some before.length := by
  induction before with
  | nil => exact if_pos rfl
  | cons head rest ih =>
      have other : head ≠ value := fun same => absent (same ▸ List.mem_cons_self)
      rw [List.cons_append, find, if_neg other, ih fun member =>
        absent (List.mem_cons_of_mem head member)]
      rfl

theorem rfind_none_iff {text : List α} :
    rfind value text = none <-> value ∉ text := by
  induction text with
  | nil => exact iff_of_true rfl List.not_mem_nil
  | cons head rest ih =>
      rw [rfind, List.mem_cons, not_or, ← ih]
      cases found : rfind value rest with
      | some position =>
          exact iff_of_false (fun impossible => nomatch impossible) fun absent =>
            nomatch absent.2
      | none =>
          by_cases here : head = value
          · rw [if_pos here]
            exact iff_of_false (fun impossible => nomatch impossible)
              fun absent => absent.1 here.symm
          · rw [if_neg here]
            exact iff_of_true rfl ⟨Ne.symm here, rfl⟩

/-- The last occurrence in two texts together. -/
theorem rfind_append (before after : List α) :
    rfind value (before ++ after) =
      match rfind value after with
      | some position => some (before.length + position)
      | none => rfind value before := by
  induction before with
  | nil =>
      cases found :
        rfind value after <;>
          simp only [List.nil_append, found, List.length_nil, Nat.zero_add, rfind]
  | cons head rest ih =>
      rw [List.cons_append, rfind, ih]
      cases rfind value after with
      | none => rfl
      | some position =>
          exact congrArg some (Nat.add_right_comm rest.length position 1)

theorem rfind_length {text : List α} {position : Nat}
    (found : rfind value text = some position) :
    position < text.length := by
  induction text generalizing position with
  | nil => cases found
  | cons head rest ih =>
      rw [rfind] at found
      cases later : rfind value rest with
      | some other =>
          rw [later] at found
          rw [← Option.some.inj found]
          exact Nat.succ_lt_succ (ih later)
      | none =>
          rw [later] at found
          by_cases here : head = value
          · rw [if_pos here] at found
            rw [← Option.some.inj found]
            exact Nat.succ_pos _
          · rw [if_neg here] at found
            cases found

theorem findWord_first {head : α} {word before : List α} (absent : head ∉ before)
    (after : List α) :
    findWord (head :: word) (before ++ head :: word ++ after) =
      some before.length := by
  induction before with
  | nil =>
      have isPrefix : (head :: word).isPrefixOf (head :: word ++ after) = true :=
        List.isPrefixOf_iff_prefix.mpr (List.prefix_append _ _)
      exact if_pos isPrefix
  | cons first rest ih =>
      have other :
          (head :: word).isPrefixOf (first :: (rest ++ head :: word ++ after)) =
            false := by
        rw [Bool.eq_false_iff]
        intro isPrefix
        have same :=
          (List.cons_prefix_cons.mp (List.isPrefixOf_iff_prefix.mp isPrefix)).1
        exact absent (same ▸ List.mem_cons_self)
      rw [List.cons_append, List.cons_append, findWord, other,
        if_neg Bool.false_ne_true, ih fun member =>
          absent (List.mem_cons_of_mem first member)]
      rfl

/-- What stands before the last occurrence. -/
def beforeLast (value : α) (text : List α) : Option (List α) :=
  (rfind value text).map text.take

theorem beforeLast_none_iff {text : List α} :
    beforeLast value text = none <-> value ∉ text := by
  rw [beforeLast, Option.map_eq_none_iff, rfind_none_iff]

/-- What stands before the first occurrence. -/
def upTo (value : α) (text : List α) : List α :=
  text.takeWhile fun other => other ≠ value

/-- The first occurrence and what follows. -/
def fromOn (value : α) (text : List α) : List α :=
  text.dropWhile fun other => other ≠ value

theorem upTo_append_fromOn (value : α) (text : List α) :
    upTo value text ++ fromOn value text = text :=
  List.takeWhile_append_dropWhile

theorem not_mem_upTo (value : α) (text : List α) : value ∉ upTo value text := by
  intro member
  have other := List.mem_takeWhile_imp member
  exact of_decide_eq_true other rfl

/-- The rest of a text begins with the occurrence, if it is not empty. -/
theorem fromOn_cons {text rest : List α} {head : α}
    (split : fromOn value text = head :: rest) : head = value := by
  have other :=
    List.head?_dropWhile_not (fun other => decide (other ≠ value)) text
  unfold fromOn at split
  rw [split] at other
  simpa using other

/-- Two texts that are cut at their first occurrences are the same exactly if their
parts are. -/
theorem cut_inj {before after before' after' : List α} (absent : value ∉ before)
    (absent' : value ∉ before') :
    before ++ value :: after = before' ++ value :: after' <-> before = before' ∧
      after = after' := by
  constructor
  · intro same
    have firsts := congrArg (find value) same
    rw [find_first absent, find_first absent'] at firsts
    have parts := List.append_inj same (Option.some.inj firsts)
    exact ⟨parts.1, (List.cons.inj parts.2).2⟩
  · rintro ⟨rfl, rfl⟩
    rfl

end Find

end Encoding
