/-!
# Media types

The type that a header gives for a body: `application/json`, or any `application` type with the
suffix `json` behind a plus sign, in any case and with parameters.
-/

namespace JobRunner.Api

/-- The characters of names in media types. -/
def isTokenChar (c : Char) : Bool := c.isAlphanum || "!#$%&'*+-.^_|~\x60".toList.contains c

/-- A name at the front of a text, at least one character long, and what follows it. -/
def token? (cs : List Char) : Option (List Char × List Char) :=
  match cs.takeWhile isTokenChar with
  | [] => none
  | name => some (name, cs.dropWhile isTokenChar)

/-! ## Parameters -/

/-- Whether a character may stand between quotation marks. -/
def isQuotable (c : Char) : Bool := 0x20 ≤ c.toNat && c.toNat != 0x7F

/-- What follows the quotation mark that ends a value, spaces aside. No value is empty: a quotation
mark that comes `first` is part of it. -/
def afterQuoted? (first : Bool) : List Char → Option (List Char)
  | c :: rest =>
    if c = '"' && !first then some (rest.dropWhile (· = ' '))
    else if isQuotable c then afterQuoted? false rest
    else none
  | [] => none

/-- What follows the value of a parameter; without quotation marks only the last may be empty. -/
def afterValue? : List Char → Option (List Char)
  | '"' :: rest => afterQuoted? true rest
  | cs =>
    match cs.takeWhile isTokenChar, cs.dropWhile isTokenChar with
    | [], _ :: _ => none
    | _, rest => some rest

/-- Whether a text is a list of parameters, each behind a semicolon and spaces; the last may be
missing. -/
def areParameters : (fuel : Nat) → List Char → Bool
  | fuel + 1, ';' :: rest =>
    match rest.dropWhile (· = ' ') with
    | [] => true
    | cs =>
      match token? cs with
      | some (_, '=' :: cs) => (afterValue? cs).any (areParameters fuel)
      | _ => false
  | _, cs => cs.isEmpty

/-! ## Types -/

/-- The parts of a subtype before and behind its last plus sign; a plus sign at the front does not
count. -/
def splitSuffix (subtype : List Char) : List Char × Option (List Char) :=
  match subtype.reverse.dropWhile (· != '+') with
  | '+' :: c :: cs => ((c :: cs).reverse, some (subtype.reverse.takeWhile (· != '+')).reverse)
  | _ => (subtype, none)

/-- Whether a media type is that of JSON documents. -/
def isJsonType (s : String) : Bool :=
  match token? (s.toList.map Char.toLower) with
  | some (kind, '/' :: rest) =>
    match token? rest with
    | some (subtype, rest) =>
      let (base, suffix) := splitSuffix subtype
      kind == "application".toList && areParameters (rest.length + 1) rest &&
        (base == "json".toList || suffix == some "json".toList)
    | none => false
  | _ => false

end JobRunner.Api
