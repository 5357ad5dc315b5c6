/-!
# Blank characters

White space as Unicode defines it. Names and settings that hold nothing else count as empty.
-/

namespace JobRunner.Text

/-- Whether `c` has the Unicode property `White_Space`. -/
def isBlankChar (c : Char) : Bool :=
  let n := c.toNat
  (9 ≤ n && n ≤ 13) || n == 0x20 || n == 0x85 || n == 0xA0 || n == 0x1680 ||
    (0x2000 ≤ n && n ≤ 0x200A) || n == 0x2028 || n == 0x2029 || n == 0x202F || n == 0x205F ||
    n == 0x3000

/-- Drops the blank characters at the front of a list. -/
def dropBlank (cs : List Char) : List Char := cs.dropWhile isBlankChar

/-- The text without the blank characters at its two ends. -/
def trim (s : String) : String :=
  String.ofList (dropBlank (dropBlank s.toList).reverse).reverse

/-- Whether the text holds blank characters only. -/
def isBlank (s : String) : Bool := s.toList.all isBlankChar

end JobRunner.Text
