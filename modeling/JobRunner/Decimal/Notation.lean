import JobRunner.Decimal.Shortest

/-!
# Decimal notation

How a double is written: its shortest digits, positional in a middle range of magnitudes and with an
exponent outside it.
-/

namespace JobRunner.Decimal

/-- The choices of a notation for floating-point numbers. -/
structure Style where
  /-- Numbers below ten to this power are written positionally. -/
  positionalBelow : Int
  /-- Numbers from ten to this power on are written positionally. -/
  positionalFrom : Int
  /-- What stands between the digits and a positive exponent. -/
  positiveMark : String
  /-- What stands between the digits and the size of a negative exponent. -/
  negativeMark : String

/-- Documents write numbers from `10 ^ -5` below `10 ^ 16` positionally, and sign every exponent. -/
def documentStyle : Style := ⟨16, -5, "e+", "e-"⟩

/-- `n` zeros. -/
def zeros (n : Nat) : List Char := List.replicate n '0'

/-- A whole number in decimal digits. -/
def digitsOf (n : Nat) : List Char := Nat.toDigits 10 n

/-- Positional text of `digits * 10 ^ exponent`, with at least one digit on each side of the point.
-/
def positional (digits : List Char) (exponent : Int) : List Char :=
  let point := (digits.length : Int) + exponent
  if 0 ≤ exponent then digits ++ zeros exponent.toNat ++ ['.', '0']
  else if 0 < point then digits.take point.toNat ++ '.' :: digits.drop point.toNat
  else '0' :: '.' :: (zeros (-point).toNat ++ digits)

/-- Text with one digit before the point and an exponent after the digits. -/
def scientific (style : Style) (digits : List Char) (exponent : Int) : List Char :=
  let power := (digits.length : Int) - 1 + exponent
  let mark := if 0 ≤ power then style.positiveMark else style.negativeMark
  let mantissa := match digits with
    | first :: second :: rest => first :: '.' :: second :: rest
    | short => short
  mantissa ++ mark.toList ++ digitsOf power.natAbs

/-- The text of a positive decimal. -/
def Scaled.text (style : Style) (d : Scaled) : List Char :=
  let digits := digitsOf d.digits
  let point := (digits.length : Int) + d.exponent
  if style.positionalFrom < point && point ≤ style.positionalBelow then
    positional digits d.exponent
  else scientific style digits d.exponent

/-- The text of the finite double with the given bits. -/
def ofBits (style : Style) (bits : UInt64) : String :=
  let negative := Nat.pow 2 63 ≤ bits.toNat
  let magnitude := bits.toNat % Nat.pow 2 63
  let text := if magnitude = 0 then ['0', '.', '0'] else (Binary.ofBits bits).shortest.text style
  String.ofList (if negative then '-' :: text else text)

end JobRunner.Decimal
