import Complyx.Encoding.Hex

namespace Complyx

open Encoding

/-!
# Identifiers and their spellings

Every table is keyed by UUIDs, and the wire carries them as text.  Reading
accepts several spellings of one identifier, writing produces exactly one.
The server only relies on the written spelling being read back, so `UuidText`
asks for nothing more.  `UuidText.crate` spells out the documented forms:
hyphenated, without hyphens, in braces and with the urn prefix, each in either
case.
-/

abbrev Uuid := BitVec 128

/-- Sixteen big-endian bytes. -/
def Uuid.asBytes (id : Uuid) : List UInt8 :=
  (List.range 16).map fun index => UInt8.ofNat (id.toNat >>> (8 * (15 - index)))

theorem Uuid.asBytes_length (id : Uuid) : id.asBytes.length = 16 := by
  rw [asBytes, List.length_map, List.length_range]

/-- What the server uses of the text form of identifiers. -/
structure UuidText where
  /-- `parse::<Uuid>()` -/
  parse : String -> Option Uuid
  /-- `Uuid::to_string` -/
  toText : Uuid -> String
  parse_toText : forall id, parse (toText id) = some id

namespace UuidText

/-! ## The documented forms -/

/-- Thirty-two digits without hyphens. -/
def parseSimple (digits : List Char) : Option Uuid :=
  if digits.length = 32 then (hexRead digits).map (BitVec.ofNat 128) else none

/-- Digits in groups of 8, 4, 4, 4 and 12. -/
def parseHyphenated (input : List Char) : Option Uuid :=
  if input.length = 36 ∧ input[8]? = some '-' ∧ input[13]? = some '-' ∧
    input[18]? = some '-' ∧
      input[23]? = some '-' then
    parseSimple
      (input.take 8 ++ (input.drop 9).take 4 ++ (input.drop 14).take 4 ++
        (input.drop 19).take 4 ++ input.drop 24)
  else none

/-- The length of the text selects the form. -/
def parseStr (input : List Char) : Option Uuid :=
  if input.length = 32 then parseSimple input
  else if input.length = 36 then parseHyphenated input
  else if input.length = 38 ∧ input.head? = some '\x7b' ∧
    input.getLast? = some '\x7d' then
    parseHyphenated ((input.drop 1).take 36)
  else if input.length = 45 ∧
    input.take 9 = "urn:uuid:".toList then parseHyphenated (input.drop 9)
  else none

def hyphenate (digits : List Char) : List Char :=
  digits.take 8 ++ '-' :: (digits.drop 8).take
    4 ++ '-' :: (digits.drop 12).take 4 ++
    '-' :: (digits.drop 16).take 4 ++ '-' :: digits.drop 20

private theorem parseStr_hyphenate {digits : List Char}
    (full : digits.length = 32) :
    parseStr (hyphenate digits) = parseSimple digits := by
  rcases digits with
    _ | ⟨a,
      _ | ⟨b, _ | ⟨c, _ | ⟨d, _ | ⟨e, _ | ⟨f, _ | ⟨g, _ | ⟨h, digits⟩⟩⟩⟩⟩⟩⟩⟩ <;>
    try (simp at full; done)
  rcases digits with _ | ⟨i, _ | ⟨j, _ | ⟨k, _ | ⟨l, digits⟩⟩⟩⟩ <;>
    try (simp at full; done)
  rcases digits with _ | ⟨m, _ | ⟨n, _ | ⟨o, _ | ⟨p, digits⟩⟩⟩⟩ <;>
    try (simp at full; done)
  rcases digits with _ | ⟨q, _ | ⟨r, _ | ⟨s, _ | ⟨t, digits⟩⟩⟩⟩ <;>
    try (simp at full; done)
  have tail : digits.length = 12 := by
    simp only [List.length_cons] at full
    omega
  simp [parseStr, parseHyphenated, hyphenate, tail]

/-- The forms the uuid crate documents, with the hyphenated one for writing. -/
def crate : UuidText where
  parse input := parseStr input.toList
  toText id := String.ofList (hyphenate (hexFixed 32 id.toNat))
  parse_toText := by
    intro id
    have fits : id.toNat < 16 ^ 32 := id.isLt
    have full : (hexFixed 32 id.toNat).length = 32 := hexFixed_length fits
    rw [String.toList_ofList, parseStr_hyphenate full, parseSimple, if_pos full,
      hexRead_hexFixed]
    simp only [Option.map_some, BitVec.ofNat_toNat, BitVec.setWidth_eq]

end UuidText

end Complyx
