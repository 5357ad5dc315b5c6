import JobRunner.Json.Numeral
import JobRunner.Text.Hex

/-!
# Tokens of JSON text

Splits the bytes of a document into tokens.

- `Token`: a bracket, a mark or a scalar. A numeral too large for a double and a text that spells no
  characters are tokens without a value: they may stand where nobody looks at them.
- `lex`: the tokens of some bytes; from the first byte that begins no token on there is one `junk`.
-/

namespace JobRunner.Json

/-- A token of a document. -/
inductive Token where
  | openObject
  | closeObject
  | openArray
  | closeArray
  | colon
  | comma
  | null
  | bool (value : Bool)
  | number (value : Option Number)
  | text (value : Option String)
  | junk
  deriving Repr, Inhabited

/-- Space, line feed, carriage return and tab separate tokens. -/
def isGap (b : UInt8) : Bool := b == 0x20 || b == 0x0A || b == 0x0D || b == 0x09

/-- Whether a unit is the first half of a surrogate pair. -/
def isHighSurrogate (unit : Nat) : Bool := 0xD800 ≤ unit && unit ≤ 0xDBFF

/-- Whether a unit is the second half of a surrogate pair. -/
def isLowSurrogate (unit : Nat) : Bool := 0xDC00 ≤ unit && unit ≤ 0xDFFF

/-- The character that a surrogate pair spells. -/
def pairChar (high low : Nat) : Char :=
  Char.ofNat (0x10000 + (high - 0xD800) * 0x400 + (low - 0xDC00))

/-- The byte that a one-letter escape stands for. -/
def escape? (b : UInt8) : Option UInt8 :=
  match Char.ofNat b.toNat with
  | '"' => some 0x22
  | '\\' => some 0x5C
  | '/' => some 0x2F
  | 'b' => some 0x08
  | 'f' => some 0x0C
  | 'n' => some 0x0A
  | 'r' => some 0x0D
  | 't' => some 0x09
  | _ => none

/-! ## Texts -/

/-- What the next byte of a text belongs to. -/
inductive TextMode where
  | plain
  | escape
  /-- A unit of four hexadecimal digits, some of them still to come. -/
  | unit (missing : Nat) (value : Nat)

/-- A text read in part. -/
structure TextState where
  /-- The bytes so far, the last first. -/
  seen : List UInt8
  /-- Whether every unit so far belongs to a character. -/
  sound : Bool
  /-- The first half of a surrogate pair, while its second half may follow. -/
  half : Option Nat
  mode : TextMode

namespace TextState

/-- Before the first byte. -/
def start : TextState := ⟨[], true, none, .plain⟩

/-- Adds a byte; a half pair before it stays without its partner. -/
def push (s : TextState) (b : UInt8) : TextState :=
  { s with seen := b :: s.seen, sound := s.sound && s.half.isNone, half := none, mode := .plain }

/-- Adds a character in place of what is pending. -/
def pushChar (s : TextState) (c : Char) : TextState :=
  { s with seen := (String.utf8EncodeChar c).reverse ++ s.seen, half := none, mode := .plain }

/-- Adds a 16-bit unit: half a pair waits, a whole one becomes a character. -/
def pushUnit (s : TextState) (unit : Nat) : TextState :=
  match s.half with
  | some high =>
    if isLowSurrogate unit then s.pushChar (pairChar high unit)
    else { s with sound := false, half := none, mode := .plain }
  | none =>
    if isHighSurrogate unit then { s with half := some unit, mode := .plain }
    else if isLowSurrogate unit then { s with sound := false, mode := .plain }
    else s.pushChar (Char.ofNat unit)

/-- One byte, except for the closing quotation mark. Control characters, unknown escapes and other
than hexadecimal digits in a unit have no place in a text. -/
def step (s : TextState) (b : UInt8) : Option TextState :=
  match s.mode with
  | .plain =>
    if b == 0x5C then some { s with mode := .escape }
    else if b < 0x20 then none
    else some (s.push b)
  | .escape =>
    if b == 0x75 then some { s with mode := .unit 4 0 } else (escape? b).map s.push
  | .unit missing value =>
    (Text.hexValue? b).map fun digit =>
      if missing ≤ 1 then s.pushUnit (value * 16 + digit)
      else { s with mode := .unit (missing - 1) (value * 16 + digit) }

/-- Whether a quotation mark ends the text here. -/
def isPlain (s : TextState) : Bool :=
  match s.mode with
  | .plain => true
  | _ => false

/-- The text read, if its bytes and units spell characters. -/
def text? (s : TextState) : Option String :=
  if s.sound && s.half.isNone then String.fromUTF8? ⟨s.seen.reverse.toArray⟩ else none

end TextState

/-- Reads a text up to its closing quotation mark. -/
def scanText (s : TextState) : List UInt8 → Option (Option String × List UInt8)
  | [] => none
  | b :: rest =>
    if b == 0x22 && s.isPlain then some (s.text?, rest)
    else
      match s.step b with
      | some s => scanText s rest
      | none => none

/-! ## Tokens -/

/-- The bytes behind the word `word`, if they begin with it. -/
def afterWord? (word : String) (bs : List UInt8) : Option (List UInt8) :=
  let spelling := word.toUTF8.toList
  if spelling.isPrefixOf bs then some (bs.drop spelling.length) else none

/-- The mark that a byte spells on its own. -/
def mark? (b : UInt8) : Option Token :=
  match Char.ofNat b.toNat with
  | '\x7b' => some .openObject
  | '\x7d' => some .closeObject
  | '[' => some .openArray
  | ']' => some .closeArray
  | ':' => some .colon
  | ',' => some .comma
  | _ => none

/-- The three words, with the tokens they spell. -/
def words : List (String × Token) :=
  [("null", .null), ("true", .bool true), ("false", .bool false)]

/-- The scalar at the front of `bs`. -/
def scalar? (bs : List UInt8) : Option (Token × List UInt8) :=
  match bs with
  | 0x22 :: rest => (scanText .start rest).map fun (value, rest) => (.text value, rest)
  | bs =>
    match words.findSome? fun (word, token) => (afterWord? word bs).map (token, ·) with
    | some found => some found
    | none => (Numeral.scan bs).map fun (x, rest) => (.number x.value, rest)

/-- The token at the front of `b :: rest`, where `b` is no gap. -/
def nextToken (b : UInt8) (rest : List UInt8) : Token × List UInt8 :=
  match mark? b with
  | some token => (token, rest)
  | none => (scalar? (b :: rest)).getD (.junk, [])

/-- The tokens of `bs`, at most `fuel` of them, behind those in `seen`. -/
def lexFrom (seen : List Token) : (fuel : Nat) → List UInt8 → List Token
  | 0, _ => seen.reverse
  | _, [] => seen.reverse
  | fuel + 1, b :: rest =>
    if isGap b then lexFrom seen fuel rest
    else
      let (token, rest) := nextToken b rest
      lexFrom (token :: seen) fuel rest

/-- The tokens of a document. Each takes at least one byte. -/
def lex (bs : List UInt8) : List Token := lexFrom [] bs.length bs

end JobRunner.Json
