/-!
# Shortest decimals

The shortest decimal text of a binary floating-point number: the fewest digits that read back as the
same number, and of those the decimal nearest to it.

- `Binary`: a positive number `significand * 2 ^ exponent`, as the bits of a double spell it.
- `Binary.shortest`: its shortest decimal, found on coarser grids first.
-/

namespace JobRunner.Decimal

/-- A positive number `significand * 2 ^ exponent`. -/
structure Binary where
  significand : Nat
  exponent : Int
  /-- Whether the next smaller number is only half as far away as the next larger one. -/
  narrowBelow : Bool
  deriving DecidableEq, Repr

/-- A decimal number `digits * 10 ^ exponent`. -/
structure Scaled where
  digits : Nat
  exponent : Int
  deriving DecidableEq, Repr

/-- The magnitude that the low 63 bits of a finite double spell. -/
def Binary.ofBits (bits : UInt64) : Binary :=
  let fraction : Nat := bits.toNat % Nat.pow 2 52
  let field : Nat := bits.toNat / Nat.pow 2 52 % Nat.pow 2 11
  if field = 0 then ⟨fraction, -1074, false⟩
  else ⟨Nat.pow 2 52 + fraction, (field : Int) - 1075, fraction = 0 && 1 < field⟩

/-- The numerator of `quarters * 2 ^ (exponent - 2)` over `x.denominator`. -/
def Binary.numerator (x : Binary) (quarters : Nat) : Nat :=
  quarters * Nat.pow 2 (x.exponent - 2).toNat

/-- The common denominator of the multiples of `2 ^ (exponent - 2)`. -/
def Binary.denominator (x : Binary) : Nat := Nat.pow 2 (2 - x.exponent).toNat

/-- The exponent of the leading decimal digit of `numerator / denominator`. -/
def leadingExponent (numerator denominator : Nat) : Int :=
  if denominator ≤ numerator then ((Nat.toDigits 10 (numerator / denominator)).length : Int) - 1
  else -((Nat.toDigits 10 (denominator / numerator)).length : Int)

/-- The multiple of `10 ^ k` nearest to `x` among its two neighbours on that grid that read back as
`x`; of two equally near ones the even one. -/
def Binary.onGrid? (x : Binary) (k : Int) : Option Nat :=
  let up := Nat.pow 10 (-k).toNat
  let unit := x.denominator * Nat.pow 10 k.toNat
  let value := x.numerator (4 * x.significand) * up
  let low := x.numerator (4 * x.significand - if x.narrowBelow then 1 else 2) * up
  let high := x.numerator (4 * x.significand + 2) * up
  let reads (c : Nat) : Bool :=
    if x.significand % 2 = 0 then low ≤ c * unit && c * unit ≤ high
    else low < c * unit && c * unit < high
  let below := value / unit
  let above := below + 1
  match reads below && below != 0, reads above with
  | true, true =>
    let toBelow := value - below * unit
    let toAbove := above * unit - value
    if toBelow < toAbove then some below
    else if toAbove < toBelow then some above
    else if below % 2 = 0 then some below else some above
  | true, false => some below
  | false, true => some above
  | false, false => none

/-- Moves trailing zeros of the digits into the exponent, at most `fuel` of them. -/
def Scaled.strip (d : Scaled) : (fuel : Nat) → Scaled
  | 0 => d
  | fuel + 1 =>
    if d.digits % 10 = 0 then Scaled.strip ⟨d.digits / 10, d.exponent + 1⟩ fuel else d

/-- Tries the grids from `10 ^ k` downwards, `grids` of them. -/
def Binary.search (x : Binary) (k : Int) : (grids : Nat) → Scaled
  | 0 => ⟨x.significand, 0⟩
  | grids + 1 =>
    match x.onGrid? k with
    | some digits => Scaled.strip ⟨digits, k⟩ 20
    | none => x.search (k - 1) grids

/-- The shortest decimal that reads back as `x`; seventeen digits always suffice. -/
def Binary.shortest (x : Binary) : Scaled :=
  x.search (leadingExponent (x.numerator (4 * x.significand)) x.denominator) 17

end JobRunner.Decimal
