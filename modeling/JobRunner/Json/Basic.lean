/-!
# JSON values

The dynamic values that payloads and results are made of.

- `Json.Number`: a 64-bit integer or a finite double, given by its bits.
- `Json`: a value; the fields of an object are sorted by key.
- `Json.object`: the object with given fields, the last one of a key winning.
-/

namespace JobRunner

/-- A number of a document: an integer of at most 64 bits, or the bits of a finite double. -/
inductive Json.Number where
  | int (value : Int)
  | double (bits : UInt64)
  deriving DecidableEq, Repr, Inhabited

/-- A JSON value. -/
inductive Json where
  | null
  | bool (value : Bool)
  | number (value : Json.Number)
  | text (value : String)
  | array (items : List Json)
  | obj (entries : List (String × Json))
  deriving Repr, Inhabited

namespace Json

/-- The value of an integer. -/
def int (n : Int) : Json := .number (.int n)

/-- The value of a natural number. -/
def nat (n : Nat) : Json := int n

/-- Whether the key of `a` comes before that of `b`, or is the same. -/
def keyLE (a b : String × Json) : Bool := a.1 ≤ b.1

/-- Of neighbouring entries with one key, keeps the last. -/
def keepLast : List (String × Json) → List (String × Json)
  | a :: b :: rest => if a.1 = b.1 then keepLast (b :: rest) else a :: keepLast (b :: rest)
  | short => short

/-- The entries sorted by key, the last one of each key only. -/
def normalize (entries : List (String × Json)) : List (String × Json) :=
  keepLast (entries.mergeSort keyLE)

/-- The object with the given entries; the last of several entries with one key counts. -/
def object (entries : List (String × Json)) : Json := .obj (normalize entries)

/-- The field `key` of an object. -/
def get? (v : Json) (key : String) : Option Json :=
  match v with
  | .obj entries => entries.lookup key
  | _ => none

/-- The text, if the value is one. -/
def text? : Json → Option String
  | .text s => some s
  | _ => none

end Json

end JobRunner
