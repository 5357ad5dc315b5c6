import JobRunner.Proofs.Admission
import JobRunner.Proofs.Formats
import JobRunner.Proofs.Integers
import JobRunner.Proofs.Recovery
import JobRunner.Proofs.Words
import Mathlib.Data.List.Dedup

/-!
# Errands

The jobs that endpoints make up themselves are understood by the workers that get them.

- `Handlers.work?`: what a worker does with a job.
- `Api.Endpoint.eq_webhook_of_path`: a path behind `/api/webhooks/` names a source or nothing.
- `Api.Occasion`, `Api.Wanted`: the event and the number of words that a request is about.
- `Api.Errand`: a request has been answered with an id, and any worker does the work for its job.
- `Api.errand_of_accepted`: what a worker does for every accepted webhook and random text.
-/

namespace JobRunner

/-! ## Workers -/

/-- What a worker does with a job, within the time limit of its handler; none if it has no handler
for the job. -/
def Handlers.work? (hs : Handlers) (calls : Nat) (job : Job) : Option Work :=
  hs[job.jobType]?.map fun h => (h.body calls job).within h.timeout

/-- A payload is read as what its format takes it for. -/
theorem Job.readPayload_of_takes {α : Type} {format : Json.Format α} {room : Nat} {job : Job}
    {a : α} (h : format.Takes room job.payload a) : job.readPayload format = .ok a := by
  unfold readPayload
  rw [h.ofJson]
  rfl

/-- Of three entries that are sorted but for the first, that comes last. -/
theorem Json.normalize_rotate {a b c : String × Json} (hbc : b.1 < c.1) (hca : c.1 < a.1) :
    normalize [a, b, c] = [b, c, a] := by
  have hperm : [a, b, c].Perm [b, c, a] := (List.perm_append_singleton a [b, c]).symm
  have hsorted : [b, c, a].Pairwise fun a b => a.1 < b.1 :=
    .cons (List.forall_mem_cons.mpr ⟨hbc, List.forall_mem_singleton.mpr (Std.lt_trans hbc hca)⟩)
      (.cons (List.forall_mem_singleton.mpr hca) (List.pairwise_singleton _ a))
  exact normalize_eq_of_perm hperm hsorted

namespace Builtin

variable {job : Job} {source event : String} {payload : Json} {n : Nat}

/-- The payload of a webhook's job, as the endpoint writes it, is read back by its handler. -/
theorem takes_webhook (room : Nat) (source event : String) (payload : Json) :
    webhookFormat.Takes (room + 1)
      (.object [("source", .text source), ("event", .text event), ("payload", payload)])
      (source, event, payload) := by
  have hfields : Json.Fields.Takes room
      [("source", .text source), ("event", .text event), ("payload", payload)]
      (.cons (.required "source" .text) <| .cons (.required "event" .text) <|
        .cons (.withDefault "payload" .any .null) .nil)
      (source, event, payload, ()) := by
    refine ⟨.found ?_ (Json.Format.takes_text room source),
      .found ?_ (Json.Format.takes_text room event),
      .found ?_ (Json.Format.takes_any room payload), trivial⟩
    all_goals simp [Json.Field.required, Json.Field.withDefault]
  exact Json.Format.takes_object _ _ hfields (.refl _) (by decide)

/-- The payload of a random text's job is read back by its handler. -/
theorem takes_randomText (room : Nat) (hn : n < UInt64.size) :
    randomTextFormat.Takes (room + 1) (.object [("length", .int n)]) (n : Int) := by
  have hhigh : (n : Int) ≤ 0xFFFFFFFFFFFFFFFF := Int.le_of_lt_add_one (Int.ofNat_lt.mpr hn)
  have hfields : Json.Fields.Takes room [("length", .int n)]
      (.cons (.required "length" (wordFormat "usize")) .nil) (n, ()) :=
    ⟨.found List.mem_cons_self
      (Json.Format.takes_integer "usize" room (Int.natCast_nonneg n) hhigh), trivial⟩
  exact Json.Format.takes_object _ _ hfields (.refl _) (by decide)

/-- The fields of a body are counted by their keys. -/
theorem fieldCount_eq (v : Json) : fieldCount v = v.keys.length := by
  cases v with
  | obj entries => exact (List.length_map _).symm
  | null | bool | number | text | array => rfl

/-- The built-in handlers are found under their types. -/
theorem getElem?_all {draws : Draws} {jobType : String} {h : Handler}
    (hmem : (jobType, h) ∈
      [(randomTextType, randomText draws), (echoType, echo), (webhookType, webhook)]) :
    (all draws)[jobType]? = some h := by
  refine Std.TreeMap.getElem?_ofList_of_mem Std.ReflCmp.compare_self ?_ hmem
  have htypes : [randomTextType, echoType, webhookType].Pairwise (· ≠ ·) := by decide
  simpa using htypes

/-- Every worker summarises the job of a webhook. -/
theorem work?_webhook (htype : job.jobType = webhookType)
    (hpayload : job.payload =
      .object [("source", .text source), ("event", .text event), ("payload", payload)])
    (draws : Draws) (calls : Nat) :
    (all draws).work? calls job = some (.instant (.value (.obj [("event", .text event),
      ("fields", .nat (fieldCount payload)), ("source", .text source)]))) := by
  have hread : job.readPayload webhookFormat = .ok (source, event, payload) :=
    Job.readPayload_of_takes (hpayload ▸ takes_webhook 0 source event payload)
  have hhandler : (all draws)[webhookType]? = some webhook := getElem?_all (by simp)
  have hkeys : "event" < "fields" ∧ "fields" < "source" := by decide
  have hsummary : Json.object [("source", .text source), ("event", .text event),
      ("fields", .nat (fieldCount payload))] = .obj [("event", .text event),
        ("fields", .nat (fieldCount payload)), ("source", .text source)] :=
    congrArg Json.obj (Json.normalize_rotate hkeys.1 hkeys.2)
  unfold Handlers.work?
  rw [htype, hhandler, ← hsummary]
  simp only [Option.map_some, webhook, hread]
  rfl

/-- Every worker draws as many words as the job of a random text says. -/
theorem work?_randomText (htype : job.jobType = randomTextType)
    (hpayload : job.payload = .object [("length", .int n)]) (hn : n < UInt64.size)
    (draws : Draws) (calls : Nat) :
    (all draws).work? calls job = some ((randomTextWork draws n).within (some 30000)) := by
  have hread : job.readPayload randomTextFormat = .ok (n : Int) :=
    Job.readPayload_of_takes (hpayload ▸ takes_randomText 0 hn)
  have hhandler : (all draws)[randomTextType]? = some (randomText draws) := getElem?_all (by simp)
  unfold Handlers.work?
  rw [htype, hhandler]
  simp only [Option.map_some, randomText, hread, Int.toNat_natCast]

/-- Two seconds after a worker has begun, it has a text of the right length. -/
theorem randomTextWork_of_picks {draws : Draws} (hpos : n ≠ 0) (h : draws.Picks) :
    ∃ text, IsRandomText n text ∧ randomTextWork draws n = ⟨2000, .value (.text text)⟩ := by
  obtain ⟨text, d', htext, hdraw⟩ := randomText?_of_picks hpos h
  refine ⟨text, htext, ?_⟩
  unfold randomTextWork
  rw [if_neg hpos, hdraw]
  rfl

end Builtin

/-! ## Accepted requests -/

/-- A job that is accepted is stored as it was asked for. -/
theorem Service.job?_of_enqueue_ok {s s' : Service} {id id' : JobId} {now : Instant}
    {request : JobRequest} (h : s.enqueue id now request = (.ok id', s')) :
    id' = id ∧ s'.store.job? id = some (.pending id now request) := by
  unfold enqueue at h
  split at h
  · cases h
  · rcases hq : s.queue.enqueue id now request with ⟨answer, q⟩
    rw [hq] at h
    cases h
    obtain ⟨rfl, -, b, hinsert, rfl⟩ := Queue.enqueue_ok hq
    obtain ⟨-, hstore⟩ := Backend.insertJob_ok hinsert
    have hbackend : (({ s.queue with backend := b } : Queue).append request.jobType
        id').2.backend = b := Queue.backend_requeue _ (.pending id' now request)
    refine ⟨rfl, ?_⟩
    show Store.job? (Queue.backend _).store id' = _
    rw [hbackend, hstore, Store.job?_put]
    exact if_pos rfl

namespace Api

variable {s : Service} {id : JobId} {now : Instant} {r : Request} {request : JobRequest}

/-! ## What requests are about -/

/-- Behind `/api/webhooks/`, there can only be the source of a webhook. -/
theorem Endpoint.eq_webhook_of_path {segment : String} {endpoint : Endpoint}
    (h : ofPath? ("/api/webhooks/" ++ segment) = some endpoint) : endpoint = .webhook segment := by
  have hpath : "/api/webhooks/" = "/api/webhooks" ++ String.singleton '/' := by decide
  have hparts : ("/api/webhooks/" ++ segment).splitOn "/" =
      ["", "api", "webhooks"] ++ segment.splitOn "/" := by
    rw [hpath]
    refine (Text.splitOn_append "/api/webhooks" segment '/').trans (congrArg (· ++ _) ?_)
    exact (Text.splitOn_singleton "/api/webhooks" '/').trans (by decide +kernel)
  have hsegment : "/".intercalate (segment.splitOn "/") = segment :=
    Text.intercalate_splitOn segment '/'
  unfold ofPath? at h
  rw [hparts] at h
  rcases hrest : segment.splitOn "/" with - | ⟨part, - | ⟨next, rest⟩⟩
  · rw [hrest] at h
    cases h
  · rw [hrest] at h hsegment
    obtain rfl : part = segment := hsegment
    have hsome : (if part.isEmpty then none else some (.webhook part)) = some endpoint := h
    split at hsome
    · cases hsome
    · cases hsome
      rfl
  · -- another slash, and nothing is there
    rw [hrest] at h
    cases h

theorem Endpoint.ofPath?_randomText : ofPath? "/api/random-text" = some .randomText := by
  have hparts : "/api/random-text".splitOn "/" = ["", "api", "random-text"] :=
    (Text.splitOn_singleton "/api/random-text" '/').trans (by decide +kernel)
  unfold ofPath?
  rw [hparts]
  rfl

/-- The event of a webhook: the one that the body names, or else the one that a header names, or
else it is unknown. -/
inductive Occasion (r : Request) (body : Json) : String → Prop
  | body {event : String} (named : body.get? "event" = some (.text event)) : Occasion r body event
  | header {event : String} (unnamed : ∀ other, body.get? "event" ≠ some (.text other))
      (readable : r.headerText? "x-webhook-event" = some event) : Occasion r body event
  | unknown (unnamed : ∀ other, body.get? "event" ≠ some (.text other))
      (unreadable : r.headerText? "x-webhook-event" = none) : Occasion r body "unknown"

/-- The event of a webhook is one that the request gives occasion for. -/
theorem occasion_webhookEvent (r : Request) (body : Json) :
    Occasion r body (webhookEvent r body) := by
  unfold webhookEvent
  cases hnamed : (body.get? "event").bind Json.text? with
  | some event =>
    obtain ⟨v, hv, htext⟩ := Option.bind_eq_some_iff.mp hnamed
    cases v with
    | text event' =>
      cases htext
      exact .body hv
    | null | bool | number | array | obj => cases htext
  | none =>
    have hunnamed : ∀ other, body.get? "event" ≠ some (.text other) := by
      intro other hother
      rw [hother] at hnamed
      cases hnamed
    cases hheader : r.headerText? "x-webhook-event" with
    | some event => exact .header hunnamed hheader
    | none => exact .unknown hunnamed hheader

/-- The number of words that a request wants: the one that the query gives once, or a hundred if it
gives none. -/
inductive Wanted (r : Request) : Nat → Prop
  | given {text : String} {n : Nat}
      (once : ((Query.parse r.query).filter (·.1 == some "length")).map Prod.snd = [some text])
      (spells : Text.Spells lengthRange text n) : Wanted r n
  | standard (absent : ∀ field ∈ Query.parse r.query, field.1 ≠ some "length") : Wanted r 100

/-- A request that gives a length wants it; one that gives none wants a hundred. -/
theorem wanted_of_value? {length : Option Int}
    (h : ((Query.parse r.query).value? "length" fun text =>
      (Text.parseInteger lengthRange text).toOption) = .ok length) :
    ∃ n : Nat, n = length.getD 100 ∧ Wanted r n := by
  unfold Query.value? at h
  dsimp only at h
  split at h
  · next hnone =>
    cases h
    refine ⟨100, rfl, .standard fun field hfield hname => ?_⟩
    have hmem := List.filter_eq_nil_iff.mp hnone field hfield
    rw [hname] at hmem
    exact hmem (beq_self_eq_true _)
  · next name text hone =>
    cases hparse : Text.parseInteger lengthRange text with
    | error why =>
      rw [hparse] at h
      cases h
    | ok m =>
      rw [hparse] at h
      cases h
      have hspells := (Text.parseInteger_eq_ok_iff (by decide)).mp hparse
      have hm : (m.toNat : Int) = m := Int.toNat_of_nonneg hspells.contained.1
      exact ⟨m.toNat, hm, .given (by rw [hone]; rfl) (hm.symm ▸ hspells)⟩
  · cases h

/-! ## Main result -/

/-- A request has been answered with the id of a job, and this is what any worker does with it. -/
structure Errand (s : Service) (id : JobId) (now : Instant) (r : Request)
    (does : Draws → Work → Prop) : Prop where
  answered : (answer s id now r).1 = (Response.json 200 (Ticket.toJson ⟨id⟩)).sentTo r
  /-- The job is stored, and its type and its payload are all that the worker goes by: the record it
  has may be a later one. -/
  understood : ∃ job, (answer s id now r).2.store.job? id = some job ∧
    ∀ later : Job, later.jobType = job.jobType → later.payload = job.payload →
      ∀ draws calls, ∃ work, (Builtin.all draws).work? calls later = some work ∧ does draws work

/-- The job of an accepted request is done as its type and its payload say. -/
theorem errand_of_asked? {does : Draws → Work → Prop} (h : r.asked? s = some request)
    (haccepted : (answer s id now r).1.status = 200)
    (hwork : ∀ job : Job, job.jobType = request.jobType → job.payload = request.payload →
      ∀ draws calls, ∃ work, (Builtin.all draws).work? calls job = some work ∧ does draws work) :
    Errand s id now r does := by
  have hanswer : answer s id now r = _ := answer_of_asked? h
  rw [hanswer, Response.status_sentTo, status_enqueueResponse] at haccepted
  obtain ⟨id', hok⟩ := haccepted
  obtain ⟨rfl, hjob⟩ := Service.job?_of_enqueue_ok (Prod.ext hok rfl)
  refine ⟨?_, .pending id' now request, ?_, hwork⟩
  · rw [hanswer, hok]
    rfl
  · rw [hanswer]
    exact hjob

/-- Only a request to an endpoint is accepted. -/
theorem exists_endpoint_of_accepted (haccepted : (answer s id now r).1.status = 200) :
    ∃ endpoint, Endpoint.ofPath? r.path = some endpoint := by
  cases hpath : Endpoint.ofPath? r.path with
  | some endpoint => exact ⟨endpoint, rfl⟩
  | none =>
    simp only [answer, hpath] at haccepted
    cases haccepted

/-- An endpoint that enqueues jobs has made out the job of an accepted request. -/
theorem asked?_of_accepted {endpoint : Endpoint} (hpath : Endpoint.ofPath? r.path = some endpoint)
    (henqueues : endpoint.enqueues = true) (haccepted : (answer s id now r).1.status = 200) :
    ∃ request, r.asked? s = some request ∧ endpoint.asked? s r = some request := by
  cases hasked : r.asked? s with
  | none =>
    have hdoor : (Endpoint.ofPath? r.path).any Endpoint.enqueues = true := by
      rw [hpath]
      exact henqueues
    exact absurd haccepted (answer_of_asked?_eq_none hdoor hasked id now).1
  | some request =>
    refine ⟨request, rfl, ?_⟩
    simp only [Request.asked?, hpath] at hasked
    split at hasked
    · exact hasked
    · cases hasked

/-- Who reads a whole body has read its first value. -/
theorem Request.readFirst_of_read {α : Type} {format : Json.Format α} {a : α}
    (h : r.read format = .ok a) : format.readFirst r.body = .ok a := by
  unfold read at h
  split at h
  · cases h
  · split at h
    · cases h
    · split at h
      · next hfirst =>
        cases h
        exact hfirst
      · cases h
      · cases h

/-- The keys of a body that is read are different. -/
theorem Request.nodup_keys_of_read {body : Json} (h : r.read .any = .ok body) :
    body.keys.Nodup := by
  have hfirst := readFirst_of_read h
  simp only [Json.Format.readFirst, Json.Format.any] at hfirst
  split at hfirst
  · cases hfirst
  · next found hread =>
    cases hfirst
    exact Json.nodup_keys_of_readValue hread

/-- Whatever a webhook posts and whatever is asked for as a random text, once it has been answered
with an id, any worker understands the job. A webhook is summarised by its source, its event and the
number of its keys. A random text has as many words of the list as the request wants, if drawing
ends. -/
theorem errand_of_accepted (s : Service) (id : JobId) (now : Instant) (r : Request)
    (haccepted : (answer s id now r).1.status = 200) :
    (∀ segment, r.path = "/api/webhooks/" ++ segment →
      ∃ source body event, Text.percentDecoded? segment = some source ∧
        r.read .any = .ok body ∧ Occasion r body event ∧
        Errand s id now r fun _ work => work = .instant (.value (.obj [("event", .text event),
          ("fields", .nat body.keys.dedup.length), ("source", .text source)]))) ∧
    (r.path = "/api/random-text" →
      ∃ n, Wanted r n ∧ 1 ≤ n ∧ n ≤ 1000 ∧
        Errand s id now r fun draws work => draws.Picks →
          ∃ text, Builtin.IsRandomText n text ∧ work = ⟨2000, .value (.text text)⟩) := by
  constructor
  case left =>
    intro segment htext
    obtain ⟨endpoint, hpath⟩ := exists_endpoint_of_accepted haccepted
    obtain rfl := Endpoint.eq_webhook_of_path (htext ▸ hpath)
    obtain ⟨request, hasked, hrequest⟩ := asked?_of_accepted hpath rfl haccepted
    simp only [Endpoint.asked?] at hrequest
    split at hrequest
    · next source body hsource hread =>
      cases hrequest
      refine ⟨source, body, webhookEvent r body, hsource, hread, occasion_webhookEvent r body, ?_⟩
      refine errand_of_asked? hasked haccepted fun job htype hpayload draws calls => ?_
      -- the keys of a body that was read are distinct already
      have hwork := Builtin.work?_webhook htype hpayload draws calls
      rw [Builtin.fieldCount_eq, ← (Request.nodup_keys_of_read hread).dedup] at hwork
      exact ⟨_, hwork, rfl⟩
    · cases hrequest
  case right =>
    intro htext
    have hpath : Endpoint.ofPath? r.path = some .randomText := htext ▸ Endpoint.ofPath?_randomText
    obtain ⟨request, hasked, hrequest⟩ := asked?_of_accepted hpath rfl haccepted
    simp only [Endpoint.asked?] at hrequest
    split at hrequest
    · next length hread =>
      split at hrequest
      · next hrange =>
        cases hrequest
        obtain ⟨n, hn, hwanted⟩ := wanted_of_value? hread
        rw [← hn] at hrange
        refine ⟨n, hwanted, by omega, by omega, ?_⟩
        refine errand_of_asked? hasked haccepted fun job htype hpayload draws calls => ?_
        rw [← hn] at hpayload
        -- a thousand words can be asked of the handler
        have hsmall : n < UInt64.size := Nat.lt_of_le_of_lt (by omega : n ≤ 1000) (by decide)
        refine ⟨_, Builtin.work?_randomText htype hpayload hsmall draws calls, fun hpicks => ?_⟩
        obtain ⟨text, htext, hwork⟩ := Builtin.randomTextWork_of_picks (by omega : n ≠ 0) hpicks
        exact ⟨text, htext, by rw [hwork]; rfl⟩
      · cases hrequest
    · cases hrequest

/-- A webhook whose body names its only key twice. -/
def push : Request where
  method := "POST"
  target := "/api/webhooks/git%20hub"
  headers := [("Content-Type", "application/json".toUTF8.toList),
    ("X-Webhook-Event", "push".toUTF8.toList)]
  body := "\x7b\"event\":7,\"event\":null\x7d".toUTF8.toList

theorem path_push : push.path = "/api/webhooks/git%20hub" := by decide +kernel

theorem ofPath?_push : Endpoint.ofPath? push.path = some (.webhook "git%20hub") := by
  have hparts : push.path.splitOn "/" = ["", "api", "webhooks", "git%20hub"] :=
    (Text.splitOn_singleton push.path '/').trans (by decide +kernel)
  unfold Endpoint.ofPath?
  rw [hparts]
  rfl

theorem read_push : push.read .any = .ok (.obj [("event", .null)]) := by
  have htokens : Json.lex push.body = [.openObject, .text (some "event"), .colon,
      .number (some (.int 7)), .comma, .text (some "event"), .colon, .null, .closeObject] := by
    decide +kernel
  have hjson : (push.headerText? "content-type").any isJsonType = true := by decide +kernel
  have hshort : ¬bodyLimit < push.body.length := by decide +kernel
  have hvalue : Json.readValue Json.nestingLimit (Json.lex push.body) =
      some (.obj [("event", .null)], []) := by
    rw [htokens]
    simp [Json.nestingLimit, Json.readValue, Json.valueIn, Json.finish, Json.object,
      Json.normalize, Json.keyLE, Json.keepLast, List.mergeSort,
      List.MergeSort.Internal.splitInTwo]
  simp [Request.read, hjson, hshort, Json.Format.readFirst, Json.Format.any, hvalue, Except.map]

theorem status_push :
    (answer (.ofBackend .standard .empty) .nil .epoch push).1.status = 200 := by
  have hsource : Text.percentDecoded? "git%20hub" = some "git hub" := by decide +kernel
  have hpayload : webhookPayload push "git hub" (.obj [("event", .null)]) =
      .obj [("event", .text "push"), ("payload", .obj [("event", .null)]),
        ("source", .text "git hub")] := by
    have hevent : webhookEvent push (.obj [("event", .null)]) = "push" := by decide +kernel
    unfold webhookPayload
    rw [hevent]
    exact congrArg Json.obj (Json.normalize_rotate (by decide) (by decide))
  simp only [answer, ofPath?_push, respond, hsource, read_push, Except.map, postWebhook, hpayload]
  decide +kernel

/-- A request for a text of three words. -/
def page : Request := ⟨"GET", "/api/random-text?length=3", [], []⟩

theorem path_page : page.path = "/api/random-text" := by decide +kernel

theorem parse_page : Query.parse page.query = [(some "length", some "3")] := by
  have hfields : page.query.splitOn "&" = ["length=3"] :=
    (Text.splitOn_singleton page.query '&').trans (by decide +kernel)
  unfold Query.parse
  rw [hfields]
  decide +kernel

theorem status_page :
    (answer (.ofBackend .standard .empty) .nil .epoch page).1.status = 200 := by
  simp only [answer, path_page, Endpoint.ofPath?_randomText, respond, parse_page]
  decide +kernel

/-- Three words are wanted, and no other number. -/
theorem eq_three_of_wanted_page {n : Nat} (h : Wanted page n) : n = 3 := by
  cases h with
  | given once spells =>
    rw [parse_page] at once
    cases once
    have hread := (Text.parseInteger_eq_ok_iff (by decide)).mpr spells
    have hthree : Text.parseInteger lengthRange "3" = .ok 3 := by decide +kernel
    rw [hthree] at hread
    cases hread
    rfl
  | standard absent =>
    rw [parse_page] at absent
    exact absurd rfl (absent _ List.mem_cons_self)

/-- Both are accepted, and understood by any worker; there is a source with which drawing ends. -/
theorem errand_of_push_and_page :
    let s := Service.ofBackend .standard .empty
    (answer s .nil .epoch push).1.status = 200 ∧
    Errand s .nil .epoch push (fun _ work => work = .instant (.value (.obj
      [("event", .text "push"), ("fields", .nat 1), ("source", .text "git hub")]))) ∧
    (answer s .nil .epoch page).1.status = 200 ∧
    Errand s .nil .epoch page (fun draws work => draws.Picks →
      ∃ text, Builtin.IsRandomText 3 text ∧ work = ⟨2000, .value (.text text)⟩) ∧
    (Draws.ofList [0xFFFFFFFF, 0]).Picks := by
  intro s
  refine ⟨status_push, ?_, status_page, ?_, by decide +kernel⟩
  · obtain ⟨source, body, event, hsource, hread, hevent, herrand⟩ :=
      (errand_of_accepted s .nil .epoch push status_push).1 "git%20hub" path_push
    have hdecoded : Text.percentDecoded? "git%20hub" = some "git hub" := by decide +kernel
    have hheader : push.headerText? "x-webhook-event" = some "push" := by decide +kernel
    rw [hdecoded] at hsource
    cases hsource
    rw [read_push] at hread
    cases hread
    -- null is no text, so the event is that of the header
    cases hevent with
    | body hnamed => cases hnamed
    | header _ hreadable =>
      rw [hheader] at hreadable
      cases hreadable
      exact herrand
    | unknown _ hunreadable =>
      rw [hheader] at hunreadable
      cases hunreadable
  · obtain ⟨n, hwanted, -, -, herrand⟩ :=
      (errand_of_accepted s .nil .epoch page status_page).2 path_page
    rw [eq_three_of_wanted_page hwanted] at herrand
    exact herrand

end Api

end JobRunner
