import JobRunner.Json.Token

/-!
# Reading JSON

From tokens to values, one token at a time.

- `readValue`: the value at the front of some tokens, and what is left.
- `skipValue`: passes over a value without looking at what its numerals and texts stand for.
- `Json.parse?`: the value of a whole text.

Brackets may be nested `nestingLimit` deep in a value that is read, and any depth in one that is
passed over.
-/

namespace JobRunner.Json

/-- Greatest number of brackets that may be open at once. -/
def nestingLimit : Nat := 127

/-- A bracket that is still open, with what it holds so far, the last first. -/
inductive Frame where
  | items (done : List Json)
  | entries (done : List (String × Json)) (key : String)

mutual

/-- Reads a value inside the open brackets of `stack`, with room for `room` more of them. -/
def valueIn (room : Nat) (stack : List Frame) : List Token → Option (Json × List Token)
  | .null :: rest => finish room stack .null rest
  | .bool b :: rest => finish room stack (.bool b) rest
  | .number (some n) :: rest => finish room stack (.number n) rest
  | .text (some s) :: rest => finish room stack (.text s) rest
  | .openArray :: .closeArray :: rest =>
    if room = 0 then none else finish room stack (.array []) rest
  | .openArray :: rest =>
    if room = 0 then none else valueIn (room - 1) (.items [] :: stack) rest
  | .openObject :: .closeObject :: rest =>
    if room = 0 then none else finish room stack (object []) rest
  | .openObject :: .text (some key) :: .colon :: rest =>
    if room = 0 then none else valueIn (room - 1) (.entries [] key :: stack) rest
  | _ => none

/-- Puts a value that has been read into the innermost open bracket and goes on from there. -/
def finish (room : Nat) (stack : List Frame) (v : Json) (tokens : List Token) :
    Option (Json × List Token) :=
  match stack, tokens with
  | [], rest => some (v, rest)
  | .items done :: stack, .comma :: rest => valueIn room (.items (v :: done) :: stack) rest
  | .items done :: stack, .closeArray :: rest =>
    finish (room + 1) stack (.array (v :: done).reverse) rest
  | .entries done key :: stack, .comma :: .text (some next) :: .colon :: rest =>
    valueIn room (.entries ((key, v) :: done) next :: stack) rest
  | .entries done key :: stack, .closeObject :: rest =>
    finish (room + 1) stack (object ((key, v) :: done).reverse) rest
  | _, _ => none

end

/-- Reads one value, with room for `room` open brackets. -/
def readValue (room : Nat) (tokens : List Token) : Option (Json × List Token) :=
  valueIn room [] tokens

/-! ## Passing over a value -/

mutual

/-- Passes over a value; `stack` tells of each open bracket whether it is an array. -/
def skipIn (stack : List Bool) : List Token → Option (List Token)
  | .null :: rest => skipped stack rest
  | .bool _ :: rest => skipped stack rest
  | .number _ :: rest => skipped stack rest
  | .text _ :: rest => skipped stack rest
  | .openArray :: .closeArray :: rest => skipped stack rest
  | .openArray :: rest => skipIn (true :: stack) rest
  | .openObject :: .closeObject :: rest => skipped stack rest
  | .openObject :: .text _ :: .colon :: rest => skipIn (false :: stack) rest
  | _ => none

/-- Goes on behind a value that has been passed over. -/
def skipped (stack : List Bool) (tokens : List Token) : Option (List Token) :=
  match stack, tokens with
  | [], rest => some rest
  | true :: stack, .comma :: rest => skipIn (true :: stack) rest
  | true :: stack, .closeArray :: rest => skipped stack rest
  | false :: stack, .comma :: .text _ :: .colon :: rest => skipIn (false :: stack) rest
  | false :: stack, .closeObject :: rest => skipped stack rest
  | _, _ => none

end

/-- Passes over one value. -/
def skipValue (tokens : List Token) : Option (List Token) := skipIn [] tokens

/-! ## Whole texts -/

/-- The tokens of a text. -/
def tokensOf (s : String) : List Token := lex s.toUTF8.toList

/-- The value that is the whole of `s`. -/
def parse? (s : String) : Option Json :=
  match readValue nestingLimit (tokensOf s) with
  | some (v, []) => some v
  | _ => none

end JobRunner.Json
