import Complyx.Encoding.Hex

namespace Encoding

/-!
# Compact JSON

Values without numbers and booleans, written without blanks and with the members
of an object in their order.  Every value says where it ends, so that what is
written can be read back in one way only: a text followed by anything at all
determines the value and the rest.  That a whole text determines its value is
the case where nothing follows.
-/

inductive Json where
  | null
  | string (text : String)
  | array (items : List Json)
  | object (members : List (String × Json))

/-! ## Characters and strings -/

/-- The characters with a short escape, each with the letter after the
backslash. -/
def shortEscapes : List (Char × Char) :=
  [('\x22', '\x22'), ('\x5c', '\x5c'), ('\x08', 'b'), ('\x09', 't'),
    ('\x0a', 'n'), ('\x0c', 'f'), ('\x0d', 'r')]

def shortEscape (char : Char) : Option Char :=
  (shortEscapes.find? fun entry => entry.1 = char).map Prod.snd

/-- The other control characters are written as four hexadecimal digits. -/
def escape (char : Char) : List Char :=
  match shortEscape char with
  | some letter => ['\x5c', letter]
  | none =>
      if char.toNat < 32 then '\x5c' :: 'u' :: hexFixed 4 char.toNat else [char]

def writeString (text : String) : List Char :=
  '\x22' :: (text.toList.flatMap escape ++ ['\x22'])

theorem shortEscape_some {char letter : Char}
    (short : shortEscape char = some letter) :
    (char, letter) ∈ shortEscapes := by
  rcases Option.map_eq_some_iff.mp short with ⟨entry, found, rfl⟩
  have same := List.find?_some found
  rw [← of_decide_eq_true same]
  exact List.mem_of_find?_eq_some found

theorem shortEscape_none {char : Char} (plain : shortEscape char = none)
    (entry : Char × Char) (member : entry ∈ shortEscapes) : char ≠ entry.1 := by
  intro same
  have others :=
    List.find?_eq_none.mp (Option.map_eq_none_iff.mp plain) entry member
  exact others (decide_eq_true same.symm)

/-- A control character and its digits. -/
private theorem hexFixed_append {first second : Char} {rest rest' : List Char}
    (firstControl : first.toNat < 32) (secondControl : second.toNat < 32)
    (same : hexFixed 4 first.toNat ++ rest = hexFixed 4 second.toNat ++ rest') :
    first = second ∧ rest = rest' := by
  have lengths :
      (hexFixed 4 first.toNat).length = (hexFixed 4 second.toNat).length := by
    rw [hexFixed_length (Nat.lt_trans firstControl (by decide)),
      hexFixed_length (Nat.lt_trans secondControl (by decide))]
  rcases List.append_inj same lengths with ⟨digits, tails⟩
  have numbers := congrArg hexRead digits
  rw [hexRead_hexFixed, hexRead_hexFixed, Option.some.injEq] at numbers
  exact ⟨Char.toNat_inj.mp numbers, tails⟩

theorem escape_append {first second : Char} {rest rest' : List Char}
    (same : escape first ++ rest = escape second ++ rest') :
    first = second ∧ rest = rest' := by
  have backslash : ('\x5c', '\x5c') ∈ shortEscapes := by decide
  have letters : forall entry, entry ∈ shortEscapes -> forall other,
    other ∈ shortEscapes ->
      entry.2 = other.2 -> entry.1 = other.1 := by decide
  have unused : forall entry, entry ∈ shortEscapes -> entry.2 ≠ 'u' := by decide
  unfold escape at same
  cases firstShort : shortEscape first with
  | some letter =>
      have firstEntry := shortEscape_some firstShort
      cases secondShort : shortEscape second with
      | some letter' =>
          simp only [firstShort, secondShort, List.cons_append, List.nil_append,
            List.cons.injEq, true_and] at same
          exact ⟨letters _ firstEntry _ (shortEscape_some secondShort) same.1,
            same.2⟩
      | none =>
          simp only [firstShort, secondShort] at same
          split at same
          · simp only [List.cons_append, List.cons.injEq, true_and] at same
            exact absurd same.1 (unused _ firstEntry)
          · simp only [List.cons_append, List.cons.injEq] at same
            exact absurd same.1.symm (shortEscape_none secondShort _ backslash)
  | none =>
      cases secondShort : shortEscape second with
      | some letter' =>
          simp only [firstShort, secondShort] at same
          split at same
          · simp only [List.cons_append, List.cons.injEq, true_and] at same
            exact absurd same.1.symm (unused _ (shortEscape_some secondShort))
          · simp only [List.cons_append, List.cons.injEq] at same
            exact absurd same.1 (shortEscape_none firstShort _ backslash)
      | none =>
          simp only [firstShort, secondShort] at same
          split at same <;> split at same
          · next firstControl secondControl =>
            simp only [List.cons_append, List.cons.injEq, true_and] at same
            exact hexFixed_append firstControl secondControl same
          · simp only [List.cons_append, List.cons.injEq] at same
            exact absurd same.1.symm (shortEscape_none secondShort _ backslash)
          · simp only [List.cons_append, List.cons.injEq] at same
            exact absurd same.1 (shortEscape_none firstShort _ backslash)
          · simp only [List.cons_append, List.nil_append, List.cons.injEq] at same
            exact same

/-- No escape begins with a quotation mark. -/
theorem escape_ne_quote {char : Char} {rest rest' : List Char} :
    escape char ++ rest ≠ '\x22' :: rest' := by
  have quote : ('\x22', '\x22') ∈ shortEscapes := by decide
  intro same
  unfold escape at same
  split at same
  · cases same
  · next plain =>
    split at same
    · cases same
    · simp only [List.cons_append, List.cons.injEq] at same
      exact shortEscape_none plain _ quote same.1

theorem writeChars_append {first second rest rest' : List Char}
    (same : first.flatMap escape ++ '\x22' :: rest =
      second.flatMap escape ++ '\x22' :: rest') :
    first = second ∧ rest = rest' := by
  induction first generalizing second with
  | nil =>
      cases second with
      | nil => exact ⟨rfl, (List.cons.inj same).2⟩
      | cons char others =>
          rw [List.flatMap_cons, List.append_assoc] at same
          exact absurd same.symm escape_ne_quote
  | cons char others ih =>
      cases second with
      | nil =>
          rw [List.flatMap_cons, List.append_assoc] at same
          exact absurd same escape_ne_quote
      | cons char' others' =>
          rw [List.flatMap_cons, List.flatMap_cons, List.append_assoc,
            List.append_assoc] at same
          rcases escape_append same with ⟨rfl, tails⟩
          rcases ih tails with ⟨rfl, rests⟩
          exact ⟨rfl, rests⟩

theorem writeString_append {first second : String} {rest rest' : List Char}
    (same : writeString first ++ rest = writeString second ++ rest') :
    first = second ∧ rest = rest' := by
  simp only [writeString, List.cons_append, List.append_assoc, List.nil_append,
    List.cons.injEq, true_and] at same
  rcases writeChars_append same with ⟨chars, rests⟩
  exact ⟨String.toList_inj.mp chars, rests⟩

/-! ## Values -/

mutual

def Json.write : Json -> List Char
  | .null => ['n', 'u', 'l', 'l']
  | .string text => writeString text
  | .array items => '[' :: writeItems [] items
  | .object members => '\x7b' :: writeMembers [] members

/-- The items with what separates the first one from what is before it, and the
closing bracket. -/
def writeItems (separator : List Char) : List Json -> List Char
  | [] => [']']
  | item :: rest => separator ++ (item.write ++ writeItems [','] rest)

def writeMembers (separator : List Char) : List (String × Json) -> List Char
  | [] => ['\x7d']
  | (name, value) :: rest =>
      separator ++ (writeString
        name ++ ':' :: (value.write ++ writeMembers [','] rest))

end

/-- `serde_json::to_string`. -/
def Json.toText (value : Json) : String := String.ofList value.write

/-- What separates cannot be taken for a closing bracket. -/
def Separates (separator : List Char) : Prop :=
  separator = [] ∨ separator = [',']

theorem Json.write_ne_bracket {value : Json} {rest rest' : List Char} :
    value.write ++ rest ≠ ']' :: rest' := by
  intro same
  cases value <;>
    simp only [write, writeString, List.cons_append, List.cons.injEq] at same <;>
    exact absurd same.1 (by decide)

theorem item_ne_bracket {separator : List Char} (separates : Separates separator)
    {value : Json} {rest rest' : List Char} :
    separator ++ (value.write ++ rest) ≠ ']' :: rest' := by
  rcases separates with rfl | rfl
  · exact Json.write_ne_bracket
  · intro same
    cases same

theorem member_ne_brace {separator : List Char} (separates : Separates separator)
    {name : String} {rest rest' : List Char} :
    separator ++ (writeString name ++ rest) ≠ '\x7d' :: rest' := by
  rcases separates with rfl | rfl <;> intro same <;> cases same

/-- Values of two kinds begin with different characters. -/
theorem Json.head_of_write_append {first second : Json} {rest rest' : List Char}
    (same : first.write ++ rest = second.write ++ rest') :
    first.write.head? = second.write.head? := by
  have nonempty : forall value : Json, value.write ≠ [] := by
    intro value none
    cases value <;> simp only [write, writeString, reduceCtorEq] at none
  have heads := congrArg List.head? same
  rw [List.head?_append, List.head?_append] at heads
  cases firstHead : first.write.head? with
  | none => exact absurd (List.head?_eq_none_iff.mp firstHead) (nonempty first)
  | some head =>
      cases secondHead : second.write.head? with
      | none =>
          exact absurd (List.head?_eq_none_iff.mp secondHead) (nonempty second)
      | some head' =>
          rw [firstHead, secondHead] at heads
          exact heads

mutual

/-- A value is determined by any text it begins. -/
theorem Json.write_append : (first second : Json) -> {rest rest' : List Char} ->
    first.write ++ rest = second.write ++ rest' -> first = second ∧ rest = rest'
  | .null, second, rest, rest', same => by
      have head := Json.head_of_write_append same
      cases second with
      | null => exact ⟨rfl, List.append_cancel_left same⟩
      | _ => exact absurd (Option.some.inj head) (by decide)
  | .string text, second, rest, rest', same => by
      have head := Json.head_of_write_append same
      cases second with
      | string text' =>
          rcases writeString_append same with ⟨rfl, rests⟩
          exact ⟨rfl, rests⟩
      | _ => exact absurd (Option.some.inj head) (by decide)
  | .array items, second, rest, rest', same => by
      have head := Json.head_of_write_append same
      cases second with
      | array items' =>
          rcases writeItems_append items items' (Or.inl rfl)
            (List.cons.inj same).2 with ⟨rfl, rests⟩
          exact ⟨rfl, rests⟩
      | _ => exact absurd (Option.some.inj head) (by decide)
  | .object members, second, rest, rest', same => by
      have head := Json.head_of_write_append same
      cases second with
      | object members' =>
          rcases writeMembers_append members members' (Or.inl rfl)
            (List.cons.inj same).2 with ⟨rfl, rests⟩
          exact ⟨rfl, rests⟩
      | _ => exact absurd (Option.some.inj head) (by decide)

theorem writeItems_append : (first second : List Json) ->
    {separator rest rest' : List Char} -> Separates separator ->
    writeItems separator first ++ rest = writeItems separator second ++ rest' ->
      first = second ∧ rest = rest'
  | [], second, separator, rest, rest', separates, same => by
      cases second with
      | nil => exact ⟨rfl, (List.cons.inj same).2⟩
      | cons item' others' =>
          rw [writeItems, writeItems, List.append_assoc,
            List.append_assoc] at same
          exact absurd same.symm (item_ne_bracket separates)
  | item :: others, second, separator, rest, rest', separates, same => by
      rw [writeItems, List.append_assoc, List.append_assoc] at same
      cases second with
      | nil =>
          rw [writeItems] at same
          exact absurd same (item_ne_bracket separates)
      | cons item' others' =>
          rw [writeItems, List.append_assoc, List.append_assoc] at same
          rcases Json.write_append item item' (List.append_cancel_left same) with
            ⟨rfl, tails⟩
          rcases writeItems_append others others' (Or.inr rfl) tails with
            ⟨rfl, rests⟩
          exact ⟨rfl, rests⟩

theorem writeMembers_append : (first second : List (String × Json)) ->
    {separator rest rest' : List Char} ->
    Separates separator ->
      writeMembers separator first ++ rest =
        writeMembers separator second ++ rest' ->
    first = second ∧ rest = rest'
  | [], second, separator, rest, rest', separates, same => by
      cases second with
      | nil => exact ⟨rfl, (List.cons.inj same).2⟩
      | cons member' others' =>
          rw [writeMembers, writeMembers, List.append_assoc,
            List.append_assoc] at same
          exact absurd same.symm (member_ne_brace separates)
  | (name, value) :: others, second, separator, rest, rest', separates, same => by
      rw [writeMembers, List.append_assoc, List.append_assoc] at same
      cases second with
      | nil =>
          rw [writeMembers] at same
          exact absurd same (member_ne_brace separates)
      | cons member' others' =>
          rcases member' with ⟨name', value'⟩
          rw [writeMembers, List.append_assoc, List.append_assoc] at same
          rcases writeString_append (List.append_cancel_left same) with
            ⟨rfl, afterName⟩
          rw [List.cons_append, List.cons_append, List.append_assoc,
            List.append_assoc] at afterName
          rcases Json.write_append value value' (List.cons.inj afterName).2 with
            ⟨rfl, tails⟩
          rcases writeMembers_append others others' (Or.inr rfl) tails with
            ⟨rfl, rests⟩
          exact ⟨rfl, rests⟩

end

theorem Json.toText_inj {first second : Json}
    (same : first.toText = second.toText) : first = second := by
  have chars : first.write ++ [] = second.write ++ [] := by
    rw [List.append_nil, List.append_nil]
    exact String.ofList_inj.mp same
  exact (write_append first second chars).1

end Encoding
