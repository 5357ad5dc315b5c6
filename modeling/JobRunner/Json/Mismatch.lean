import JobRunner.Decimal.Notation
import JobRunner.Json.Basic
import JobRunner.Text.Quoted

/-!
# Values that do not fit

Why a JSON value cannot be taken for a value of some type, and how a message says so.
-/

namespace JobRunner.Json

/-- What stands in the place of something else. -/
inductive Found where
  | null
  | bool (value : Bool)
  | number (value : Number)
  | text (value : String)
  | sequence
  | map
  deriving DecidableEq, Repr

/-- What a value is found to be. -/
def found : Json → Found
  | .null => .null
  | .bool b => .bool b
  | .number n => .number n
  | .text s => .text s
  | .array _ => .sequence
  | .obj _ => .map

/-- How a message names what it found. -/
def Found.message : Found → String
  | .null => "null"
  | .bool true => "boolean `true`"
  | .bool false => "boolean `false`"
  | .number (.int n) => "integer `" ++ toString n ++ "`"
  | .number (.double bits) =>
    "floating point `" ++ Decimal.ofBits Decimal.documentStyle bits ++ "`"
  | .text s => "string " ++ Text.quoted s
  | .sequence => "sequence"
  | .map => "map"

/-- Why a value does not fit a type. -/
inductive Mismatch where
  /-- A value of another kind. -/
  | kind (found : Found) (expected : String)
  /-- A value of the right kind outside the expected range. -/
  | range (found : Found) (expected : String)
  /-- A sequence of the wrong length. -/
  | length (found : Nat) (expected : String)
  | missing (field : String)
  | repeated (field : String)
  /-- A name that is none of the expected ones. -/
  | unknownName (name : String) (expected : List String)
  deriving DecidableEq, Repr

/-- A name as messages show it. -/
def marked (name : String) : String := "`" ++ name ++ "`"

/-- The wording of a mismatch. -/
def Mismatch.message : Mismatch → String
  | .kind found expected => "invalid type: " ++ found.message ++ ", expected " ++ expected
  | .range found expected => "invalid value: " ++ found.message ++ ", expected " ++ expected
  | .length found expected => "invalid length " ++ toString found ++ ", expected " ++ expected
  | .missing field => "missing field " ++ marked field
  | .repeated field => "duplicate field " ++ marked field
  | .unknownName name expected =>
    "unknown variant " ++ marked name ++ ", expected one of " ++
      ", ".intercalate (expected.map marked)

end JobRunner.Json
