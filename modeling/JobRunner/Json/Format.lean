import JobRunner.Json.Mismatch
import JobRunner.Json.Reader

/-!
# Formats of typed values

How a type is read from JSON, both from the tokens of a text and from a value.

- `Format`: the two readings of one type.
- `Format.text`, `Format.integer`, `Format.optional`, `Format.spelled`: formats of single values.
- `Format.record`: a record, read from an object (keys it does not know are passed over) or from an
  array of its fields in their order.

A text is read from the front, and the first fault found decides whether it is `malformed` or
`unfit`.
-/

namespace JobRunner.Json

/-- Why a typed value cannot be read from a text. -/
inductive Fault where
  /-- The text is not JSON. -/
  | malformed
  /-- The text begins as JSON of another type. -/
  | unfit (why : Mismatch)
  deriving DecidableEq, Repr

/-- Reads a value off the front of some tokens, with room for a number of open brackets. -/
abbrev Reader (α : Type) := (room : Nat) → List Token → Except Fault (α × List Token)

/-- How values of a type are read. -/
structure Format (α : Type) where
  read : Reader α
  ofJson : Json → Except Mismatch α

namespace Format

/-! ## Single values -/

/-- A value that is neither an array nor an object. -/
def scalar (expected : String) (ofJson : Json → Except Mismatch α) : Format α where
  ofJson := ofJson
  read _ tokens :=
    match tokens with
    | .openArray :: _ => .error (.unfit (.kind .sequence expected))
    | .openObject :: _ => .error (.unfit (.kind .map expected))
    | tokens =>
      match readValue 0 tokens with
      | none => .error .malformed
      | some (v, rest) =>
        match ofJson v with
        | .ok a => .ok (a, rest)
        | .error why => .error (.unfit why)

/-- Any value. -/
def any : Format Json where
  ofJson := .ok
  read room tokens :=
    match readValue room tokens with
    | none => .error .malformed
    | some found => .ok found

/-- A text that `parse` accepts. -/
def spelled (expected : String) (parse : String → Option α) : Format α :=
  scalar expected fun v =>
    match v with
    | .text s =>
      match parse s with
      | some a => .ok a
      | none => .error (.range (.text s) expected)
    | v => .error (.kind v.found expected)

/-- A text. -/
def text : Format String := spelled "a string" some

/-- An integer from `low` to `high`. -/
def integer (expected : String) (low high : Int) : Format Int :=
  scalar expected fun v =>
    match v with
    | .number (.int n) =>
      if low ≤ n ∧ n ≤ high then .ok n else .error (.range v.found expected)
    | v => .error (.kind v.found expected)

/-- The same format with every value changed by `change`. -/
def map (change : α → β) (f : Format α) : Format β where
  ofJson v := (f.ofJson v).map change
  read room tokens := (f.read room tokens).map fun (a, rest) => (change a, rest)

/-- A value, or null for none. -/
def optional (f : Format α) : Format (Option α) where
  ofJson
    | .null => .ok none
    | v => (f.ofJson v).map some
  read room tokens :=
    match tokens with
    | .null :: rest => .ok (none, rest)
    | tokens => (f.read room tokens).map fun (a, rest) => (some a, rest)

/-- One of the names in a table, given as a text or as an object with the name as its only key and
null as its value. -/
def enumeration (expected : String) (table : List (String × α)) : Format α where
  ofJson
    | .text name => pick name
    | .obj [(name, .null)] => pick name
    | .obj [(name, v)] => do
      let _ ← pick name
      .error (.kind v.found "unit")
    | .obj _ => .error (.range .map "map with a single key")
    | v => .error (.kind v.found expected)
  read room tokens :=
    match tokens with
    | .text (some name) :: rest => (checked name).map (·, rest)
    | .openObject :: .text (some name) :: rest => do
      if room = 0 then .error .malformed
      let a ← checked name
      match rest with
      | .colon :: .null :: .closeObject :: rest => .ok (a, rest)
      | .colon :: tokens =>
        match readValue 0 tokens with
        | some (.null, _) | none => .error .malformed
        | some (v, _) => .error (.unfit (.kind v.found "unit"))
      | _ => .error .malformed
    | _ => .error .malformed
where
  /-- The entry of the table under `name`. -/
  pick (name : String) : Except Mismatch α :=
    match table.lookup name with
    | some a => .ok a
    | none => .error (.unknownName name (table.map (·.1)))
  /-- The entry of the table under a name that a text holds. -/
  checked (name : String) : Except Fault α := (pick name).mapError .unfit

/-- One of several cases, written as an object with the name of the case as its only key. -/
def tagged (expected : String) (cases : List (String × Format α)) : Format α where
  ofJson
    | .obj [(name, v)] => do (← pick name).ofJson v
    | .obj _ => .error (.range .map "map with a single key")
    | .text name => do
      let _ ← pick name
      .error (.kind .null "newtype variant")
    | v => .error (.kind v.found expected)
  read room tokens :=
    match tokens with
    | .text (some name) :: _ => do
      let _ ← checked name
      .error (.unfit (.kind .null "newtype variant"))
    | .openObject :: .text (some name) :: rest => do
      if room = 0 then .error .malformed
      let format ← checked name
      match rest with
      | .colon :: rest =>
        match ← format.read (room - 1) rest with
        | (a, .closeObject :: rest) => .ok (a, rest)
        | _ => .error .malformed
      | _ => .error .malformed
    | _ => .error .malformed
where
  /-- The case called `name`. -/
  pick (name : String) : Except Mismatch (Format α) :=
    match cases.lookup name with
    | some format => .ok format
    | none => .error (.unknownName name (cases.map (·.1)))
  /-- The case under a name that a text holds. -/
  checked (name : String) : Except Fault (Format α) := (pick name).mapError .unfit

end Format

/-! ## Records -/

/-- A field of a record. -/
structure Field (α : Type) where
  name : String
  format : Format α
  /-- The value of a field that an object lacks, if it may lack it. -/
  ifMissing : Option α
  /-- The value of a field that an array is too short for, if it may be too short. -/
  ifShort : Option α

namespace Field

/-- A field that has to be given. -/
def required (name : String) (format : Format α) : Field α := ⟨name, format, none, none⟩

/-- A field that an object may lack. -/
def optional (name : String) (format : Format α) : Field (Option α) :=
  ⟨name, format.optional, some none, none⟩

/-- A field with a default. -/
def withDefault (name : String) (format : Format α) (default : α) : Field α :=
  ⟨name, format, some default, some default⟩

end Field

/-- The fields of a record in their order. -/
inductive Fields : List Type → Type 1 where
  | nil : Fields []
  | cons {α : Type} {αs : List Type} (first : Field α) (rest : Fields αs) : Fields (α :: αs)

/-- A value for every field. -/
def Tuple : List Type → Type
  | [] => Unit
  | α :: αs => α × Tuple αs

/-- Values for some of the fields. -/
def Slots : List Type → Type
  | [] => Unit
  | α :: αs => Option α × Slots αs

namespace Fields

/-- How many fields there are. -/
def count : Fields αs → Nat
  | .nil => 0
  | .cons _ rest => rest.count + 1

/-- No values yet. -/
def blank : Fields αs → Slots αs
  | .nil => ()
  | .cons _ rest => (none, rest.blank)

/-- The values of all fields, those of fields not given being defaults. -/
def close : Fields αs → Slots αs → Except Mismatch (Tuple αs)
  | .nil, _ => .ok ()
  | .cons f rest, (slot, slots) => do
    let a ← match slot <|> f.ifMissing with
      | some a => .ok a
      | none => .error (.missing f.name)
    return (a, ← rest.close slots)

/-- Reads the field `key` behind its key; none if there is no such field. -/
def readEntry? (key : String) : Fields αs → Slots αs → Option (Reader (Slots αs))
  | .nil, _ => none
  | .cons f rest, (slot, slots) =>
    if key = f.name then
      some fun room tokens =>
        match slot, tokens with
        | some _, _ => .error (.unfit (.repeated key))
        | none, .colon :: tokens =>
          (f.format.read room tokens).map fun (a, tokens) => ((some a, slots), tokens)
        | none, _ => .error .malformed
    else
      (rest.readEntry? key slots).map fun read room tokens =>
        (read room tokens).map fun (slots, tokens) => ((slot, slots), tokens)

/-- Passes over an unknown field behind its key. -/
def skipEntry : List Token → Except Fault (List Token)
  | .colon :: tokens =>
    match skipValue tokens with
    | some rest => .ok rest
    | none => .error .malformed
  | _ => .error .malformed

/-- Reads the entries of an object up to its end, at most `fuel` of them. -/
def readEntries (fs : Fields αs) (room : Nat) :
    (fuel : Nat) → Slots αs → List Token → Except Fault (Slots αs × List Token)
  | fuel + 1, slots, .text (some key) :: tokens => do
    let (slots, tokens) ← match fs.readEntry? key slots with
      | some read => read room tokens
      | none => (skipEntry tokens).map (slots, ·)
    match tokens with
    | .comma :: tokens => fs.readEntries room fuel slots tokens
    | .closeObject :: tokens => .ok (slots, tokens)
    | _ => .error .malformed
  | _, _, _ => .error .malformed

/-- Whether another item of an array follows, and the tokens from there on. -/
def nextItem (first : Bool) : List Token → Except Fault (Bool × List Token)
  | .closeArray :: rest => .ok (false, .closeArray :: rest)
  | .comma :: .closeArray :: _ => .error .malformed
  | .comma :: rest => if first then .error .malformed else .ok (true, rest)
  | rest => if first then .ok (true, rest) else .error .malformed

/-- Reads the items of an array up to its closing bracket; `index` of them are behind. -/
def readItems (expected : String) (room index : Nat) :
    Fields αs → List Token → Except Fault (Tuple αs × List Token)
  | .nil, .closeArray :: tokens => .ok ((), tokens)
  | .nil, _ => .error .malformed
  | .cons f rest, tokens => do
    let (more, tokens) ← nextItem (index = 0) tokens
    if more then
      let (a, tokens) ← f.format.read room tokens
      let (as, tokens) ← rest.readItems expected room (index + 1) tokens
      return ((a, as), tokens)
    else
      match f.ifShort with
      | some a =>
        let (as, tokens) ← rest.readItems expected room (index + 1) tokens
        return ((a, as), tokens)
      | none => .error (.unfit (.length index expected))

/-- Takes the field `key` from a value; the slots are unchanged if there is no such field. -/
def setEntry (key : String) (v : Json) : Fields αs → Slots αs → Except Mismatch (Slots αs)
  | .nil, slots => .ok slots
  | .cons f rest, (slot, slots) =>
    if key = f.name then (f.format.ofJson v).map fun a => (some a, slots)
    else (rest.setEntry key v slots).map fun slots => (slot, slots)

/-- Takes the fields from the entries of an object, in their order. -/
def ofEntries (fs : Fields αs) (entries : List (String × Json)) : Except Mismatch (Tuple αs) := do
  let slots ← entries.foldlM (fun slots (key, v) => fs.setEntry key v slots) fs.blank
  fs.close slots

/-- Takes the fields from the items of an array of length `length`; `index` of them are behind. -/
def ofItems (expected : String) (length index : Nat) :
    Fields αs → List Json → Except Mismatch (Tuple αs)
  | .nil, [] => .ok ()
  | .nil, _ => .error (.length length "fewer elements in array")
  | .cons f rest, [] => do
    let a ← match f.ifShort with
      | some a => .ok a
      | none => .error (.length index expected)
    return (a, ← rest.ofItems expected length (index + 1) [])
  | .cons f rest, v :: items => do
    let a ← f.format.ofJson v
    return (a, ← rest.ofItems expected length (index + 1) items)

end Fields

namespace Format

/-- What is expected where an array has the wrong length. -/
def sizedName (name : String) (count : Nat) : String :=
  name ++ " with " ++ toString count ++ if count = 1 then " element" else " elements"

/-- A record with the given fields; `name` is what messages call it. -/
def record (name : String) (fs : Fields αs) (make : Tuple αs → α) : Format α where
  ofJson
    | .obj entries => (fs.ofEntries entries).map make
    | .array items => (fs.ofItems (sizedName name fs.count) items.length 0 items).map make
    | v => .error (.kind v.found name)
  read room tokens :=
    match tokens with
    | .openObject :: tokens => do
      if room = 0 then .error .malformed
      let (slots, tokens) ← match tokens with
        | .closeObject :: tokens => .ok (fs.blank, tokens)
        | tokens => fs.readEntries (room - 1) tokens.length fs.blank tokens
      match fs.close slots with
      | .ok values => return (make values, tokens)
      | .error why => .error (.unfit why)
    | .openArray :: tokens => do
      if room = 0 then .error .malformed
      let (values, tokens) ← fs.readItems (sizedName name fs.count) (room - 1) 0 tokens
      return (make values, tokens)
    | tokens =>
      match readValue 0 tokens with
      | some (v, _) => .error (.unfit (.kind v.found name))
      | none => .error .malformed

/-- Reads a value from the front of some bytes, whatever follows it. -/
def readFirst (f : Format α) (bytes : List UInt8) : Except Fault α :=
  (f.read nestingLimit (lex bytes)).map (·.1)

/-- Reads the value that is the whole of a text. -/
def readAll (f : Format α) (s : String) : Except Fault α := do
  let (a, rest) ← f.read nestingLimit (tokensOf s)
  if rest.isEmpty then return a else .error .malformed

end Format

end JobRunner.Json
