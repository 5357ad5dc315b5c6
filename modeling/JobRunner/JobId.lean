import JobRunner.Json.Format

/-!
# Job ids

128-bit identifiers and their texts.

- `JobId.toText`: the hyphenated form in lower case.
- `JobId.parse?`: reads that form, the same in braces or behind `urn:uuid:`, and the plain digits,
  in either case.
-/

namespace JobRunner

/-- The identifier of a job. -/
structure JobId where
  value : BitVec 128
  deriving DecidableEq, Repr, Inhabited

namespace JobId

/-- Ids are ordered as numbers, which is the order of their texts. -/
instance : Ord JobId := ⟨compareOn fun id => id.value.toNat⟩

instance : Std.TransOrd JobId :=
  inferInstanceAs (Std.TransCmp (compareOn fun id : JobId => id.value.toNat))

instance : Std.LawfulEqOrd JobId where
  compare_self {a} := by
    change compare a.value.toNat a.value.toNat = .eq
    exact Std.ReflCmp.compare_self
  eq_of_compare {a b} h := by
    obtain ⟨x⟩ := a
    obtain ⟨y⟩ := b
    have hxy : compare x.toNat y.toNat = .eq := h
    exact congrArg JobId.mk (BitVec.eq_of_toNat_eq (Std.LawfulEqCmp.eq_of_compare hxy))

/-- The id with a number below `2 ^ 128`. -/
def ofNat (n : Nat) : JobId := ⟨BitVec.ofNat 128 n⟩

/-- The id zero. -/
def nil : JobId := ofNat 0

/-- The id of version 4 with 122 random bits: the version stands in the 13th digit, and the 17th is
8, 9, a or b. -/
def ofRandomBits (bits : Nat) : JobId :=
  ⟨BitVec.ofNat 48 (bits >>> 74) ++ 4#4 ++ BitVec.ofNat 12 (bits >>> 62) ++ 2#2 ++
    BitVec.ofNat 62 bits⟩

/-- The version of an id: its 13th digit. -/
def version (id : JobId) : Nat := (id.value.extractLsb' 76 4).toNat

/-- The `n`-th digit of the 32 hexadecimal ones. -/
def digitAt (id : JobId) (n : Nat) : Char :=
  Nat.digitChar (id.value.extractLsb' (4 * (31 - n)) 4).toNat

/-- The 32 hexadecimal digits. -/
def digits (id : JobId) : List Char := (List.range 32).map id.digitAt

/-- Digits of an id with hyphens behind the 8th, 12th, 16th and 20th. -/
def hyphenated (digits : List Char) : List Char :=
  digits.take 8 ++ '-' :: ((digits.drop 8).take 4 ++ '-' :: ((digits.drop 12).take 4 ++ '-' ::
    ((digits.drop 16).take 4 ++ '-' :: digits.drop 20)))

/-- The text of an id. -/
def toText (id : JobId) : String := String.ofList (hyphenated id.digits)

instance : ToString JobId := ⟨toText⟩

/-- The value of a hexadecimal digit. -/
def digitValue? (c : Char) : Option Nat :=
  if c.toNat < 0x80 then Text.hexValue? c.toUInt8 else none

/-- The id with exactly these 32 digits. -/
def ofDigits? (digits : List Char) : Option JobId :=
  if digits.length = 32 then
    (digits.foldlM (fun n c => (digitValue? c).map (n * 16 + ·)) 0).map ofNat
  else none

/-- The id in hyphenated form. -/
def ofHyphenated? (text : List Char) : Option JobId :=
  let digits := text.filter (· != '-')
  if hyphenated digits = text then ofDigits? digits else none

/-- What stands between a pair of braces, if the text is so enclosed. -/
def inBraces? : List Char → Option (List Char)
  | '\x7b' :: rest => if rest.getLast? = some '\x7d' then some rest.dropLast else none
  | _ => none

/-- What stands behind `urn:uuid:`, in either case. -/
def afterUrn? (text : List Char) : Option (List Char) :=
  if (text.take 9).map Char.toLower = "urn:uuid:".toList then some (text.drop 9) else none

/-- The id that a text spells. -/
def parse? (s : String) : Option JobId :=
  let text := s.toList
  ofDigits? text <|> ofHyphenated? text <|> (inBraces? text).bind ofHyphenated? <|>
    (afterUrn? text).bind ofHyphenated?

/-- Ids are written as texts. -/
def toJson (id : JobId) : Json := .text id.toText

/-- How ids are read. -/
def format : Json.Format JobId := .spelled "a UUID string" parse?

end JobId

end JobRunner
