import JobRunner.Api.Form
import JobRunner.Api.MediaType
import JobRunner.Api.Message
import JobRunner.Handler.Builtin
import JobRunner.Service
import JobRunner.Text.Integer

/-!
# The HTTP API

Answers requests over a service.

- `Endpoint`: what a path stands for.
- `Refusal`: why a request is not even looked at by its endpoint.
- `Api.openSession`: the request that opens a live session.
- `Api.answer`: the response to a request. Every endpoint that enqueues a job takes the id that a
  new job would get.
-/

namespace JobRunner.Api

/-! ## Endpoints -/

/-- What a path stands for; a part of the path that is given is still encoded. -/
inductive Endpoint where
  | jobs
  | job (id : String)
  | randomText
  | webhook (source : String)
  | live
  | metrics
  | health
  deriving DecidableEq, Repr

namespace Endpoint

/-- The endpoint of a path. -/
def ofPath? (path : String) : Option Endpoint :=
  match path.splitOn "/" with
  | ["", "api", "jobs"] => some .jobs
  | ["", "api", "jobs", id] => if id.isEmpty then none else some (.job id)
  | ["", "api", "random-text"] => some .randomText
  | ["", "api", "webhooks", source] => if source.isEmpty then none else some (.webhook source)
  | ["", "api", "ws"] => some .live
  | ["", "metrics"] => some .metrics
  | ["", "health"] => some .health
  | _ => none

/-- Whether an endpoint is posted to; the others are asked. -/
def isPosted : Endpoint → Bool
  | jobs | webhook _ => true
  | _ => false

/-- Whether an endpoint takes a method. What may be asked may also be asked for its head. -/
def takes (e : Endpoint) (method : String) : Bool :=
  if e.isPosted then method == "POST" else method == "GET" || method == "HEAD"

end Endpoint

/-! ## Refusals -/

/-- Why a request is refused before its endpoint looks at it. -/
inductive Refusal where
  | badPath
  | badQuery
  | notJson
  | bodyTooLarge
  | malformedBody
  | unfitBody (why : Json.Mismatch)
  | notConnectionUpgrade
  | notSession
  | wrongSessionVersion
  | noSessionKey
  | notUpgradable
  deriving DecidableEq, Repr

namespace Refusal

/-- The status of a refusal. -/
def status : Refusal → Nat
  | badPath | badQuery | malformedBody | notConnectionUpgrade => 400
  | notSession | wrongSessionVersion | noSessionKey => 400
  | notJson => 415
  | bodyTooLarge => 413
  | unfitBody _ => 422
  | notUpgradable => 426

/-- The wording of a refusal. -/
def message : Refusal → String
  | badPath => "Invalid URL: the path cannot be read"
  | badQuery => "Failed to deserialize query string"
  | notJson => "Expected request with " ++ Json.marked "Content-Type: application/json"
  | bodyTooLarge => "Failed to buffer the request body: length limit exceeded"
  | malformedBody => "Failed to parse the request body as JSON"
  | unfitBody why =>
    "Failed to deserialize the JSON body into the target type: " ++ why.message
  | notConnectionUpgrade => "Connection header did not include 'upgrade'"
  | notSession => Json.marked "Upgrade" ++ " header did not include 'websocket'"
  | wrongSessionVersion => Json.marked "Sec-WebSocket-Version" ++ " header did not include '13'"
  | noSessionKey => Json.marked "Sec-WebSocket-Key" ++ " header missing"
  | notUpgradable => "WebSocket request couldn't be upgraded since no upgrade state was present"

/-- The response that refuses a request. -/
def response (r : Refusal) : Response := .text r.status r.message

end Refusal

/-- The greatest length of a body in bytes. -/
def bodyLimit : Nat := 2097152

/-- Reads the body of a request; what follows the first document in it does not count. -/
def Request.read (r : Request) (format : Json.Format α) : Except Refusal α :=
  if !(r.headerText? "content-type").any isJsonType then .error .notJson
  else if bodyLimit < r.body.length then .error .bodyTooLarge
  else
    match format.readFirst r.body with
    | .ok a => .ok a
    | .error .malformed => .error .malformedBody
    | .error (.unfit why) => .error (.unfitBody why)

/-! ## Answers -/

/-- The response to an internal error. -/
def internalError (message : String) : String := "internal error: " ++ message

/-- The response to a request for a job. -/
def enqueueResponse : Except EnqueueError JobId → Response
  | .ok jobId => .json 200 (Ticket.toJson ⟨jobId⟩)
  | .error e =>
    match e with
    | .invalidType | .unknownType _ => .text 400 e.message
    | .payloadTooLarge _ _ => .text 413 e.message
    | .store _ => .text 500 (internalError e.message)

/-- Enqueues a job and answers with its id. -/
def enqueue (s : Service) (id : JobId) (now : Instant) (request : JobRequest) :
    Response × Service :=
  let (answer, s) := s.enqueue id now request
  (enqueueResponse answer, s)

/-- Enqueues the job that a form asks for. -/
def postJob (s : Service) (id : JobId) (now : Instant) (form : JobForm) : Response × Service :=
  let maxAttempts := form.maxAttempts.getD s.settings.defaultMaxAttempts
  if maxAttempts ≤ 0 then (.text 400 "max_attempts must be > 0", s)
  else enqueue s id now ⟨form.jobType, form.payload, maxAttempts⟩

/-- The number of words of a random text when none is asked for. -/
def defaultTextLength : Nat := 100

/-- The greatest number of words of a random text. -/
def maxTextLength : Nat := 1000

/-- Numbers of words are unsigned 32-bit integers. -/
def lengthRange : Text.IntegerRange := ⟨0, 0xFFFFFFFF⟩

/-- Enqueues a random text of some length. -/
def getRandomText (s : Service) (id : JobId) (now : Instant) (length : Option Int) :
    Response × Service :=
  let length := length.getD defaultTextLength
  if length < 1 ∨ (maxTextLength : Int) < length then
    (.text 400 ("length must be between 1 and " ++ toString maxTextLength), s)
  else enqueue s id now (s.request Builtin.randomTextType (.object [("length", .int length)]))

/-- The event of a webhook: as the body says, or else a header, or else unknown. -/
def webhookEvent (r : Request) (body : Json) : String :=
  (((body.get? "event").bind Json.text?) <|> r.headerText? "x-webhook-event").getD "unknown"

/-- The payload of the job that a webhook makes. -/
def webhookPayload (r : Request) (source : String) (body : Json) : Json :=
  .object [("source", .text source), ("event", .text (webhookEvent r body)), ("payload", body)]

/-- Enqueues the processing of a webhook. -/
def postWebhook (s : Service) (id : JobId) (now : Instant) (r : Request) (source : String)
    (body : Json) : Response × Service :=
  enqueue s id now (s.request Builtin.webhookType (webhookPayload r source body))

/-- An error as a document. -/
def errorDocument (message : String) : Json := .object [("error", .text message)]

/-- Answers what is known about the result of a job. -/
def getJob (s : Service) (id : JobId) : Response × Service :=
  let (answer, s) := s.lookUp id
  let response := match answer with
    | .ok (.ready outcome) => .json 200 outcome.toJson
    | .ok (.pending status) => .json 202 (Progress.toJson ⟨id, status⟩)
    | .ok .notFound => .json 404 (errorDocument "job not found")
    | .error e => .json 500 (errorDocument (internalError e.message))
  (response, s)

/-- The figures of a service. -/
def metrics (s : Service) (now : Instant) (counts : List (Status × Nat)) : Json := .object
  [("now_utc", now.toJson),
    ("jobs", .array (counts.map fun (status, n) =>
      .object [("status", status.toJson), ("count", .nat n)])),
    ("queues", .array (s.queue.depths.map fun (jobType, depth) =>
      .object [("job_type", .text jobType), ("depth", .nat depth)])),
    ("connections", .nat s.hub.subscriptions.connectionCount),
    ("subscriptions", .nat s.hub.subscriptions.subscriptionCount),
    ("broadcast", .object
      [("published", .nat s.hub.stats.published), ("delivered", .nat s.hub.stats.delivered),
        ("dropped", .nat s.hub.stats.dropped)])]

/-- Answers with the figures of the service. -/
def getMetrics (s : Service) (now : Instant) : Response × Service :=
  match s.statusCounts with
  | (.ok counts, s) => (.json 200 (metrics s now counts), s)
  | (.error e, s) => (.text 500 (internalError e.message), s)

/-! ## Live sessions -/

/-- The bytes of the first header with a name as characters in lower case. -/
def Request.lowerHeader (r : Request) (name : String) : Option String :=
  (r.header? name).map fun bytes =>
    String.ofList (bytes.map fun b => (Char.ofNat b.toNat).toLower)

/-- Whether a header is a word in any case. -/
def Request.headerIs (r : Request) (name word : String) : Bool := r.lowerHeader name == some word

/-- Whether a header contains a word in any case. -/
def Request.headerHas (r : Request) (name word : String) : Bool :=
  (r.lowerHeader name).any fun value => 1 < (value.splitOn word).length

/-- Why a request does not open a live session over a connection that cannot be upgraded. -/
def sessionRefusal (r : Request) : Refusal :=
  if !r.headerHas "connection" "upgrade" then .notConnectionUpgrade
  else if !r.headerIs "upgrade" "websocket" then .notSession
  else if !r.headerIs "sec-websocket-version" "13" then .wrongSessionVersion
  else if (r.header? "sec-websocket-key").isNone then .noSessionKey
  else .notUpgradable

/-- The job that a live session is to follow from the start, if the request may open one. -/
def openSession (r : Request) : Except Response (Option JobId) :=
  match Endpoint.ofPath? r.path with
  | some .live =>
    ((Query.parse r.query).value? "job_id" JobId.parse?).mapError fun () =>
      Refusal.badQuery.response
  | _ => .error (.bare 404)

/-! ## Dispatch -/

/-- The answer of an endpoint to a request whose method it takes. -/
def respond (s : Service) (id : JobId) (now : Instant) (r : Request) :
    Endpoint → Except Refusal (Response × Service)
  | .jobs => (r.read JobForm.format).map (postJob s id now)
  | .job segment =>
    match (Text.percentDecoded? segment).bind JobId.parse? with
    | some job => .ok (getJob s job)
    | none => .error .badPath
  | .randomText =>
    match (Query.parse r.query).value? "length" fun text =>
        (Text.parseInteger lengthRange text).toOption with
    | .ok length => .ok (getRandomText s id now length)
    | .error () => .error .badQuery
  | .webhook segment =>
    match Text.percentDecoded? segment with
    | some source => (r.read .any).map (postWebhook s id now r source)
    | none => .error .badPath
  | .live =>
    if r.method = "HEAD" then .ok (.bare 405, s)
    else .error (sessionRefusal r)
  | .metrics => .ok (getMetrics s now)
  | .health => .ok (.text 200 "ok", s)

/-- A response as it is sent: without its body if only the head was asked for. -/
def Response.sentTo (response : Response) (r : Request) : Response :=
  if r.method = "HEAD" then .bare response.status else response

/-- The response to a request. A job that it enqueues gets the id `id`. -/
def answer (s : Service) (id : JobId) (now : Instant) (r : Request) : Response × Service :=
  match Endpoint.ofPath? r.path with
  | none => (.bare 404, s)
  | some endpoint =>
    if !endpoint.takes r.method then (.bare 405, s)
    else
      match respond s id now r endpoint with
      | .ok (response, s) => (response.sentTo r, s)
      | .error refusal => (refusal.response.sentTo r, s)

end JobRunner.Api
