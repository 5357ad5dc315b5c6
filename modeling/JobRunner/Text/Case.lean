import JobRunner.Text.CaseTables

/-!
# Letter case

Full Unicode case mapping of texts.

- `upper` maps every character on its own.
- `lower` does too, except for the capital sigma, which becomes a final sigma when a cased letter
  stands before it and none after it, case-ignorable characters being looked through.
-/

namespace JobRunner.Text

/-- The offset that `runs` give the code point `n`, if one of them holds it. -/
def offsetIn (runs : List (Nat × Nat × Nat × Int)) (n : Nat) : Option Int :=
  (runs.find? fun (first, last, stride, _) =>
    first ≤ n && n ≤ last && (n - first) % stride == 0).map fun (_, _, _, offset) => offset

/-- The image of one character: its expansion, else its simple mapping, else itself. -/
def mapChar (runs : List (Nat × Nat × Nat × Int)) (expansions : List (Nat × List Nat)) (c : Char) :
    List Char :=
  match expansions.find? (·.1 == c.toNat) with
  | some (_, image) => image.map Char.ofNat
  | none =>
    match offsetIn runs c.toNat with
    | some offset => [Char.ofNat (c.toNat + offset).toNat]
    | none => [c]

/-- Whether one of the inclusive `ranges` holds `c`. -/
def inRanges (ranges : List (Nat × Nat)) (c : Char) : Bool :=
  ranges.any fun (first, last) => first ≤ c.toNat && c.toNat ≤ last

/-- Whether the first character of `cs` that is not case-ignorable is a cased one. -/
def meetsCased (cs : List Char) : Bool :=
  match cs.find? fun c => !inRanges caseIgnorableRanges c with
  | some c => inRanges casedRanges c
  | none => false

/-- Lower-cases `cs`; `before` are the characters already passed, the last one first. -/
def lowerFrom (before : List Char) : List Char → List Char
  | [] => []
  | c :: after =>
    let image :=
      if c == 'Σ' then if meetsCased before && !meetsCased after then ['ς'] else ['σ']
      else mapChar lowerRuns lowerExpansions c
    image ++ lowerFrom (c :: before) after

/-- The text in lower case. -/
def lower (s : String) : String := String.ofList (lowerFrom [] s.toList)

/-- The text in upper case. -/
def upper (s : String) : String :=
  String.ofList (s.toList.flatMap (mapChar upperRuns upperExpansions))

end JobRunner.Text
