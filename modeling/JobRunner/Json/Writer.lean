import JobRunner.Decimal.Notation
import JobRunner.Json.Basic

/-!
# Writing JSON

Compact text of a value: no blanks, quotation marks, backslashes and control characters escaped, and
nothing else.
-/

namespace JobRunner.Json

/-- A hexadecimal digit in lower case. -/
def hexDigit (n : Nat) : Char := Nat.digitChar (n % 16)

/-- One character as it stands inside quotation marks. -/
def escaped (c : Char) : List Char :=
  match c with
  | '"' => ['\\', '"']
  | '\\' => ['\\', '\\']
  | '\x08' => ['\\', 'b']
  | '\t' => ['\\', 't']
  | '\n' => ['\\', 'n']
  | '\x0c' => ['\\', 'f']
  | '\r' => ['\\', 'r']
  | c =>
    if c.toNat < 0x20 then ['\\', 'u', '0', '0', hexDigit (c.toNat / 16), hexDigit c.toNat] else [c]

/-- Appends a quoted text to `acc`. -/
def writeText (acc : String) (s : String) : String :=
  (s.toList.foldl (fun acc c => (escaped c).foldl String.push acc) (acc.push '"')).push '"'

/-- The text of a number. -/
def Number.render : Number → String
  | .int n => toString n
  | .double bits => Decimal.ofBits Decimal.documentStyle bits

mutual

/-- Appends the text of a value to `acc`. -/
def write (acc : String) : Json → String
  | .null => acc ++ "null"
  | .bool true => acc ++ "true"
  | .bool false => acc ++ "false"
  | .number n => acc ++ n.render
  | .text s => writeText acc s
  | .array [] => acc ++ "[]"
  | .array (item :: items) => (writeItems (write (acc.push '[') item) items).push ']'
  | .obj [] => acc ++ "\x7b\x7d"
  | .obj ((key, value) :: entries) =>
    (writeEntries (write ((writeText (acc.push '\x7b') key).push ':') value) entries).push '\x7d'

/-- Appends further items of an array, a comma before each. -/
def writeItems (acc : String) : List Json → String
  | [] => acc
  | item :: items => writeItems (write (acc.push ',') item) items

/-- Appends further fields of an object, a comma before each. -/
def writeEntries (acc : String) : List (String × Json) → String
  | [] => acc
  | (key, value) :: entries =>
    writeEntries (write ((writeText (acc.push ',') key).push ':') value) entries

end

/-- The compact text of a value. -/
def render (v : Json) : String := write "" v

/-- The compact text of a record, its fields in the given order. -/
def renderRecord (fields : List (String × Json)) : String := (obj fields).render

/-- The length of the compact text in bytes. -/
def byteSize (v : Json) : Nat := v.render.utf8ByteSize

end JobRunner.Json
