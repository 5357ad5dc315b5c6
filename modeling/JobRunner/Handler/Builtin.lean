import JobRunner.Draws
import JobRunner.Handler.Basic

/-!
# Built-in handlers

The handlers that every worker has.

- `echo` answers with a count of words.
- `random_text` takes two seconds and answers with random words from a list.
- `process_webhook` answers with the source, the event and the number of fields of a webhook.
-/

namespace JobRunner

/-- Reads the payload of a job; one that does not fit is a bad payload. -/
def Job.readPayload (job : Job) (format : Json.Format α) : Except Failure α :=
  (format.ofJson job.payload).mapError fun why => .badPayload why.message

/-- Lengths and counts are unsigned 64-bit integers, called `expected` in messages. -/
def wordFormat (expected : String) : Json.Format Int := .integer expected 0 0xFFFFFFFFFFFFFFFF

/-- What a body ends with: a value, or the failure that kept it from one. -/
def Ending.ofExcept : Except Failure Json → Ending
  | .ok v => .value v
  | .error f => .failure f

namespace Builtin

/-! ## Echo -/

/-- The job type of `echo`. -/
def echoType : String := "echo"

/-- The payload of `echo`: a number. -/
def echoFormat : Json.Format Int :=
  .record "struct EchoPayload" (.cons (.required "n" (wordFormat "u64")) .nil) fun (n, ()) => n

/-- Answers with the number of words in the payload. -/
def echo : Handler := .plain fun _ job => .instant <| .ofExcept do
  let n ← job.readPayload echoFormat
  return .text (toString n ++ " words")

/-! ## Random text -/

/-- The job type of `random_text`. -/
def randomTextType : String := "random_text"

/-- The words that random texts are made of. -/
def words : List String :=
  ["cloud", "computing", "platform", "service", "data", "storage", "network", "server", "virtual",
    "container", "function", "application", "microservice", "kubernetes", "docker",
    "infrastructure", "code", "deployment", "scaling", "monitoring"]

/-- The greatest low half of a product that is not drawn again: below it, every word is equally
likely. -/
def acceptedLow : Nat := 2684354559

/-- The word that a draw picks, if it is not to be drawn again: the low half of the draw is scaled
to the number of words. -/
def pick? (draw : UInt64) : Option String :=
  let product := draw.toNat % UInt32.size * words.length
  if product % UInt32.size ≤ acceptedLow then words[product / UInt32.size]? else none

/-- Draws until a word is picked, at most `tries` times. -/
def drawWord? (draws : Draws) : (tries : Nat) → Option (String × Draws)
  | 0 => none
  | tries + 1 =>
    let (draw, draws) := draws.next
    match pick? draw with
    | some word => some (word, draws)
    | none => drawWord? draws tries

/-- Draws further words behind those in `seen`. A source none of whose draws picks a word never
ends, and is given up after one cycle. -/
def drawWords? (seen : List String) (draws : Draws) : (count : Nat) → Option (List String × Draws)
  | 0 => some (seen.reverse, draws)
  | count + 1 =>
    match drawWord? draws draws.cycle.length with
    | some (word, draws) => drawWords? (word :: seen) draws count
    | none => none

/-- A text of random words with single spaces between them; none if drawing never ends. -/
def randomText? (length : Nat) (draws : Draws) : Option (String × Draws) :=
  (drawWords? [] draws length).map fun (words, draws) => (" ".intercalate words, draws)

/-- The payload of `random_text`: a number of words. -/
def randomTextFormat : Json.Format Int :=
  .record "struct RandomTextPayload" (.cons (.required "length" (wordFormat "usize")) .nil)
    fun (n, ()) => n

/-- How long a random text takes in milliseconds. -/
def randomTextDelay : Nat := 2000

/-- The work of `random_text` for a number of words. -/
def randomTextWork (draws : Draws) (length : Nat) : Work :=
  if length = 0 then .instant (.failure (.badPayload "length must be > 0"))
  else
    match randomText? length draws with
    | some (text, _) => ⟨randomTextDelay, .value (.text text)⟩
    | none => .endless

/-- Answers with a text of as many random words as the payload says. -/
def randomText (draws : Draws) : Handler where
  body _ job :=
    match job.readPayload randomTextFormat with
    | .ok length => randomTextWork draws length.toNat
    | .error why => .instant (.failure why)
  maxConcurrency := some 16
  timeout := some 30000

/-! ## Webhooks -/

/-- The job type of `process_webhook`. -/
def webhookType : String := "process_webhook"

/-- The payload of `process_webhook`: a source, an event, and anything. -/
def webhookFormat : Json.Format (String × String × Json) :=
  .record "struct WebhookPayload"
    (.cons (.required "source" .text) <| .cons (.required "event" .text) <|
      .cons (.withDefault "payload" .any .null) .nil)
    fun (source, event, payload, ()) => (source, event, payload)

/-- The number of fields of an object; none in any other value. -/
def fieldCount : Json → Nat
  | .obj entries => entries.length
  | _ => 0

/-- Answers with a summary of a webhook. -/
def webhook : Handler where
  body _ job := .instant <| .ofExcept do
    let (source, event, payload) ← job.readPayload webhookFormat
    return .object
      [("source", .text source), ("event", .text event), ("fields", .nat (fieldCount payload))]
  maxConcurrency := none
  timeout := some 10000

/-- All built-in handlers, with a source of random words. -/
def all (draws : Draws) : Handlers :=
  Std.TreeMap.ofList
    [(randomTextType, randomText draws), (echoType, echo), (webhookType, webhook)]

end Builtin

end JobRunner
