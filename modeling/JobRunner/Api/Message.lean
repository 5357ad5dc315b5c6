import JobRunner.Json.Writer
import JobRunner.Text.Percent

/-!
# Requests and responses

What passes between a client and the service over HTTP.

- `Request`: a method, a target, headers and a body.
- `Response`: a status with a text or a JSON document.
- `Query`: the fields behind the question mark of a target.
-/

namespace JobRunner.Api

/-- A request. -/
structure Request where
  method : String
  /-- Path and query. -/
  target : String
  /-- Names and values, the values as bytes. -/
  headers : List (String × List UInt8)
  body : List UInt8
  deriving Repr, Inhabited

/-- What a response carries. -/
inductive Body where
  | empty
  | text (content : String)
  | json (document : Json)
  deriving Repr, Inhabited

/-- A response. -/
structure Response where
  status : Nat
  body : Body
  deriving Repr, Inhabited

namespace Response

/-- A response without a body. -/
def bare (status : Nat) : Response := ⟨status, .empty⟩

/-- A response with a text. -/
def text (status : Nat) (content : String) : Response := ⟨status, .text content⟩

/-- A response with a document. -/
def json (status : Nat) (document : Json) : Response := ⟨status, .json document⟩

end Response

/-! ## Targets -/

/-- The part of a text before the first `mark`, and the part behind it if there is one. -/
def cutAt (mark : Char) (cs : List Char) : List Char × Option (List Char) :=
  match cs.dropWhile (· != mark) with
  | [] => (cs, none)
  | _ :: rest => (cs.takeWhile (· != mark), some rest)

/-- Whether a character may stand in the scheme of a target. -/
def isSchemeChar (c : Char) : Bool := c.isAlphanum || c == '+' || c == '-' || c == '.'

/-- What follows the scheme and the host of a target that begins with them. -/
def withoutHost (cs : List Char) : List Char :=
  match cs.dropWhile isSchemeChar with
  | ':' :: '/' :: '/' :: rest => rest.dropWhile fun c => c != '/' && c != '?' && c != '#'
  | _ => cs

namespace Request

/-- The path and the query; what follows a number sign belongs to neither. -/
def parts (r : Request) : String × String :=
  let (target, _) := cutAt '#' (withoutHost r.target.toList)
  let (path, query) := cutAt '?' target
  (String.ofList path, String.ofList (query.getD []))

/-- The path. -/
def path (r : Request) : String := r.parts.1

/-- The query without its question mark. -/
def query (r : Request) : String := r.parts.2

/-- The bytes of the first header with a name, which is given in lower case. -/
def header? (r : Request) (name : String) : Option (List UInt8) :=
  (r.headers.find? fun (n, _) => n.map Char.toLower == name).map (·.2)

/-- Whether a byte is a visible ASCII character, a space or a tab. -/
def isVisible (b : UInt8) : Bool := b == 0x09 || (0x20 ≤ b && b < 0x7F)

/-- The text of the first header with a name, if all of it is visible. -/
def headerText? (r : Request) (name : String) : Option String :=
  match r.header? name with
  | some bytes =>
    if bytes.all isVisible then some (String.ofList (bytes.map fun b => Char.ofNat b.toNat))
    else none
  | none => none

end Request

/-! ## Queries -/

/-- Names and values in their order; a name or value that spells no text is none. -/
abbrev Query := List (Option String × Option String)

namespace Query

/-- The name and the value of one field; without an equals sign the value is empty. -/
def ofField (field : String) : Option String × Option String :=
  let (name, value) := cutAt '=' field.toList
  (Text.formDecoded? (String.ofList name), Text.formDecoded? (String.ofList (value.getD [])))

/-- The fields of a query. -/
def parse (query : String) : Query :=
  ((query.splitOn "&").filter (!·.isEmpty)).map ofField

/-- The value of a field that `read` reads; an error if it is given twice or cannot be read. -/
def value? (q : Query) (name : String) (read : String → Option α) : Except Unit (Option α) :=
  match q.filter (·.1 == some name) with
  | [] => .ok none
  | [(_, some value)] =>
    match read value with
    | some a => .ok (some a)
    | none => .error ()
  | _ => .error ()

end Query

end JobRunner.Api
