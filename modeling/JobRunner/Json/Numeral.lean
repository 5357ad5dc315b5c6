import JobRunner.Json.Basic

/-!
# Reading numbers

The number that a numeral of a document stands for.

- `Numeral`: the parts of a numeral, as digits.
- `Numeral.scan`: splits a numeral off the front of some bytes.
- `Numeral.value`: an integer if the numeral has neither fraction nor exponent and fits 64 bits;
  else a double, computed from the digits that fit an unsigned 64-bit significand and one or more
  exact powers of ten; none if it is too large for a double.
-/

namespace JobRunner.Json

/-- The parts of a numeral. -/
structure Numeral where
  negative : Bool
  whole : List Nat
  /-- The digits behind the point, if there is one. -/
  fraction : Option (List Nat)
  /-- Whether the exponent is negative, and its digits. -/
  power : Option (Bool × List Nat)

namespace Numeral

/-- The digit that a byte spells. -/
def digit? (b : UInt8) : Option Nat :=
  if 0x30 ≤ b && b ≤ 0x39 then some (b.toNat - 0x30) else none

/-- Splits the longest run of digits off the front; `seen` are the digits before, the last first. -/
def scanDigits (seen : List Nat) : List UInt8 → List Nat × List UInt8
  | [] => (seen.reverse, [])
  | b :: rest =>
    match digit? b with
    | some d => scanDigits (d :: seen) rest
    | none => (seen.reverse, b :: rest)

/-- The fraction, if a point comes first; a point needs a digit behind it. -/
def scanFraction : List UInt8 → Option (Option (List Nat) × List UInt8)
  | 0x2E :: rest =>
    match scanDigits [] rest with
    | ([], _) => none
    | (digits, rest) => some (some digits, rest)
  | rest => some (none, rest)

/-- The digits of an exponent behind its sign, at least one. -/
def scanPowerDigits (negative : Bool) (bs : List UInt8) :
    Option (Option (Bool × List Nat) × List UInt8) :=
  match scanDigits [] bs with
  | ([], _) => none
  | (digits, rest) => some (some (negative, digits), rest)

/-- The exponent, if its mark comes first. -/
def scanPower : List UInt8 → Option (Option (Bool × List Nat) × List UInt8)
  | [] => some (none, [])
  | b :: rest =>
    if b == 0x65 || b == 0x45 then
      match rest with
      | 0x2B :: rest => scanPowerDigits false rest
      | 0x2D :: rest => scanPowerDigits true rest
      | rest => scanPowerDigits false rest
    else some (none, b :: rest)

/-- Splits an unsigned numeral off the front. A leading zero stands alone. -/
def scanMagnitude (negative : Bool) (bs : List UInt8) : Option (Numeral × List UInt8) := do
  let (whole, rest) ← match scanDigits [] bs with
    | ([], _) => none
    | (0 :: _ :: _, _) => none
    | found => some found
  let (fraction, rest) ← scanFraction rest
  let (power, rest) ← scanPower rest
  return (⟨negative, whole, fraction, power⟩, rest)

/-- Splits a numeral off the front of `bs`; none if the bytes do not begin with one. -/
def scan : List UInt8 → Option (Numeral × List UInt8)
  | 0x2D :: rest => scanMagnitude true rest
  | bs => scanMagnitude false bs

/-! ## The value -/

/-- Largest significand that is kept exactly. -/
def significandLimit : Nat := UInt64.size - 1

/-- Appends digits to `n` while the result stays within the limit; answers with the number reached
and the digits left over. -/
def accumulate (n : Nat) : List Nat → Nat × List Nat
  | [] => (n, [])
  | d :: rest =>
    if n * 10 + d ≤ significandLimit then accumulate (n * 10 + d) rest else (n, d :: rest)

/-- The double nearest to `10 ^ n`. -/
def powerOfTen (n : Nat) : Float := OfScientific.ofScientific 1 false n

/-- Divides by `10 ^ n`, in steps that a double can hold. -/
def divide (f : Float) (n : Nat) : Float :=
  if n ≤ 308 then f / powerOfTen n
  else if f == 0 then f
  else divide (f / powerOfTen 308) (n - 308)
termination_by n

/-- The double `significand * 10 ^ exponent`, each factor rounded on its own; none if too large. -/
def scale (significand : Nat) (exponent : Int) : Option Float :=
  let f := significand.toUInt64.toFloat
  if exponent < 0 then some (divide f exponent.natAbs)
  else if exponent ≤ 308 then
    let product := f * powerOfTen exponent.toNat
    if product.isInf then none else some product
  else if f == 0 then some f
  else none

/-- A double with a sign. -/
def signed (negative : Bool) (f : Float) : Number :=
  .double (if negative then -f else f).toBits

/-- Largest exponent that is read; greater ones are infinite. -/
def exponentLimit : Nat := 0x7FFFFFFF

/-- The digits of an exponent as a number, if it is within the limit. -/
def boundedExponent (digits : List Nat) : Option Nat :=
  let n := digits.foldl (fun n d => n * 10 + d) 0
  if n ≤ exponentLimit then some n else none

/-- The double for a significand whose last digit has the weight `10 ^ shift`. -/
def withPower (x : Numeral) (significand : Nat) (shift : Int) : Option Number :=
  match x.power with
  | none => (scale significand shift).map (signed x.negative)
  | some (negative, digits) =>
    match boundedExponent digits with
    | some n =>
      let exponent := if negative then max (shift - n) (-0x80000000) else min (shift + n) 0x7FFFFFFF
      (scale significand exponent).map (signed x.negative)
    | none =>
      if significand != 0 && !negative then none else some (signed x.negative 0)

/-- The number that a numeral stands for. -/
def value (x : Numeral) : Option Number :=
  let (whole, dropped) := accumulate 0 x.whole
  match x.fraction with
  | some digits =>
    let (significand, ignored) := accumulate whole digits
    x.withPower significand (dropped.length - (digits.length - ignored.length : Nat))
  | none =>
    if x.power.isSome || dropped != [] then x.withPower whole dropped.length
    else if !x.negative then some (.int whole)
    else if 0 < whole && whole ≤ 0x8000000000000000 then some (.int (-whole))
    else some (signed true whole.toUInt64.toFloat)

end Numeral

end JobRunner.Json
