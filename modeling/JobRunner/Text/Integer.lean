/-!
# Integers in settings

Reads an integer between two bounds from its decimal digits, with an optional sign; a minus sign
only where negative numbers are among the bounds. The first fault from the left is the one reported.
-/

namespace JobRunner.Text

/-- Why a text is no integer of a range. -/
inductive IntegerError where
  | empty
  | invalidDigit
  | tooLarge
  | tooSmall
  deriving DecidableEq, Repr

/-- The wording of such an error. -/
def IntegerError.message : IntegerError → String
  | empty => "cannot parse integer from empty string"
  | invalidDigit => "invalid digit found in string"
  | tooLarge => "number too large to fit in target type"
  | tooSmall => "number too small to fit in target type"

/-- A range of integers. -/
structure IntegerRange where
  low : Int
  high : Int
  deriving DecidableEq, Repr

namespace IntegerRange

/-- The unsigned integers of 64 bits. -/
def word : IntegerRange := ⟨0, 0xFFFFFFFFFFFFFFFF⟩

/-- The signed integers of 32 bits. -/
def counter : IntegerRange := ⟨-0x80000000, 0x7FFFFFFF⟩

end IntegerRange

/-- Reads further digits behind the number `n`, downwards for a negative one. -/
def readDigits (range : IntegerRange) (negative : Bool) (n : Int) :
    List Char → Except IntegerError Int
  | [] => .ok n
  | c :: cs =>
    if !c.isDigit then .error .invalidDigit
    else
      let digit : Int := c.toNat - '0'.toNat
      if negative then
        let n := n * 10 - digit
        if n < range.low then .error .tooSmall else readDigits range negative n cs
      else
        let n := n * 10 + digit
        if range.high < n then .error .tooLarge else readDigits range negative n cs

/-- Reads at least one digit. -/
def readNumber (range : IntegerRange) (negative : Bool) (cs : List Char) :
    Except IntegerError Int :=
  if cs.isEmpty then .error .invalidDigit else readDigits range negative 0 cs

/-- The integer of a range that a text spells. -/
def parseInteger (range : IntegerRange) (s : String) : Except IntegerError Int :=
  match s.toList with
  | [] => .error .empty
  | '+' :: cs => readNumber range false cs
  | '-' :: cs =>
    if range.low < 0 then readNumber range true cs else .error .invalidDigit
  | cs => readNumber range false cs

end JobRunner.Text
