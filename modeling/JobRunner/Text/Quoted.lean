import JobRunner.Text.Hidden

/-!
# Quoted texts

How a message shows a text: between double quotes, with the quote, the backslash, the common
controls and the null character escaped by a letter, and every character that does not show escaped
by its hexadecimal code point.
-/

namespace JobRunner.Text

/-- The code point of `c` between `\u{` and `}`, in lower-case hexadecimal digits. -/
def numbered (c : Char) : List Char :=
  ['\\', 'u', '\x7b'] ++ Nat.toDigits 16 c.toNat ++ ['\x7d']

/-- One character as it stands inside quotation marks. -/
def quotedChar (c : Char) : List Char :=
  match c with
  | '\x00' => ['\\', '0']
  | '\t' => ['\\', 't']
  | '\r' => ['\\', 'r']
  | '\n' => ['\\', 'n']
  | '\\' => ['\\', '\\']
  | '"' => ['\\', '"']
  | c => if isHidden c then numbered c else [c]

/-- The text between quotation marks. -/
def quoted (s : String) : String :=
  String.ofList ('"' :: s.toList.flatMap quotedChar ++ ['"'])

end JobRunner.Text
