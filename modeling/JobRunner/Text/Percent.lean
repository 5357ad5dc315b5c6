import JobRunner.Text.Hex

/-!
# Percent-encoded text

Bytes written as a percent sign and two hexadecimal digits.

- `percentDecode`: puts in the bytes; a percent sign without two digits behind it stands for itself.
- `formDecode`: the same for the fields of a form, where a plus sign stands for a space.
-/

namespace JobRunner.Text

/-- The bytes that an encoded sequence of bytes stands for. -/
def percentDecode : List UInt8 → List UInt8
  | 0x25 :: high :: low :: rest =>
    match hexValue? high, hexValue? low with
    | some h, some l => (h * 16 + l).toUInt8 :: percentDecode rest
    | _, _ => 0x25 :: percentDecode (high :: low :: rest)
  | b :: rest => b :: percentDecode rest
  | [] => []

/-- The text whose encoding in bytes this is. -/
def ofUtf8? (bytes : List UInt8) : Option String := String.fromUTF8? ⟨bytes.toArray⟩

/-- The text that a percent-encoded text stands for, if it stands for one. -/
def percentDecoded? (s : String) : Option String :=
  ofUtf8? (percentDecode s.toUTF8.toList)

/-- The text that a name or value of a form stands for, if it stands for one. -/
def formDecoded? (s : String) : Option String :=
  ofUtf8? (percentDecode (s.toUTF8.toList.map fun b => if b = 0x2B then 0x20 else b))

end JobRunner.Text
