import JobRunner.Api.Server
import JobRunner.Proofs.Course
import JobRunner.Proofs.Lifecycle

/-!
# Results

A final status always comes with its own result, although result and status are written one after
the other, either write may be refused, and a restart may come in between.

- `Life.Reported`: a job with a final status has the outcome of its latest report.
- `Plant.Orderly.reported_turns`: so it is with every job, across restarts.
- `Queue.lookUp_of_readable`: what is answered about a job that can be read.
- `Plant.lookUp_turns`: the answer about every job, and the response to a request for it.
-/

namespace JobRunner

/-! ## Outcomes and reports -/

/-- The report whose outcome an attempt still has to write. -/
def Attempt.unwritten? (a : Attempt) : Option (Except Failure Json) :=
  match a.stage with
  | .recording report _ _ | .concluding report _ _ | .resting report _ _ _ => some report
  | _ => none

namespace Life

/-- What the handler has reported at the end of its latest call that came to an end. -/
def lastReport? (y : Life) : Option (Except Failure Json) :=
  (y.entries.filterMap Entry.reported?).getLast?

/-- A job with a final status has the outcome of its latest report, and so has the job whose outcome
is still to be written. -/
structure Reported (y : Life) : Prop where
  final : ∀ job, y.record = some job → job.status.isTerminal = true →
    ∃ r, y.lastReport? = some r ∧ Attempt.Settled job job y.outcome r
  unwritten : ∀ a r, y.post = .attempted a → a.unwritten? = some r → y.lastReport? = some r

variable {id : JobId} {y y' : Life}

/-- What is not done by a report leaves the latest one. -/
private theorem Reported.of_silent {record record' : Option Job} {outcome outcome' : Option Outcome}
    {post post' : Post} {js es : List Entry} (h : Reported ⟨record, outcome, post, js⟩)
    (silent : es.filterMap Entry.reported? = [])
    (final : ∀ job, record' = some job → job.status.isTerminal = true →
      record = some job ∧ outcome' = outcome)
    (unwritten : ∀ a' r, post' = .attempted a' → a'.unwritten? = some r →
      ∃ a, post = .attempted a ∧ a.unwritten? = some r) :
    Reported ⟨record', outcome', post', js ++ es⟩ := by
  have hlast : lastReport? ⟨record', outcome', post', js ++ es⟩ =
      lastReport? ⟨record, outcome, post, js⟩ := by
    simp only [lastReport?, List.filterMap_append, silent, List.append_nil]
  refine ⟨fun job hjob hfinal => ?_, fun a' r hpost hr => ?_⟩
  · obtain ⟨hrecord, rfl⟩ := final job hjob hfinal
    obtain ⟨r, hr, hsettled⟩ := h.final job hrecord hfinal
    exact ⟨r, hlast.trans hr, hsettled⟩
  · obtain ⟨a, ha, har⟩ := unwritten a' r hpost hr
    exact hlast.trans (h.unwritten a r ha har)

/-- An attempt that goes on is the one that has moved. -/
private theorem eq_of_after {a a' : Attempt} {hand : Attempt.Handover}
    (h : Post.after a' hand = .attempted a) : a' = a := by
  cases hand with
  | none =>
    simp only [Post.after] at h
    split at h
    · exact Post.attempted.inj h
    · cases h
  | lane | timer due => cases h

/-- In a move of an attempt, a final status is only written over the outcome of the report. -/
theorem Reported.move {record : Job} {outcome : Option Outcome} {js es : List Entry}
    {a a' : Attempt} {hand : Attempt.Handover}
    (h : Reported ⟨some record, outcome, .attempted a, js⟩) (move : Attempt.Move a a' es hand)
    (fits : a.Fits record outcome) :
    Reported ⟨es.foldl Entry.onRecord (some record), es.foldl Entry.onOutcome outcome,
      .after a' hand, js ++ es⟩ := by
  have busy : ∀ {b : Job}, b.status = .processing → b.status.isTerminal = true → False := by
    intro b hb hfinal
    rw [hb] at hfinal
    cases hfinal
  -- the record is processing until its status is written, which is when the outcome is there
  cases move with
  | @report job b clock r =>
    rw [Attempt.report_of_fits fits]
    refine ⟨fun job hjob hfinal => ?_, fun a' r' hpost hr => ?_⟩
    · cases hjob
      exact (busy fits.2 hfinal).elim
    · cases hpost
      cases hr
      simp [lastReport?, Entry.reported?]
  | record r o tries =>
    refine h.of_silent rfl (fun job hjob hfinal => ?_) (fun a' r' hpost hr => ?_)
    · cases hjob
      exact (busy fits.1 hfinal).elim
    · obtain rfl := eq_of_after hpost
      exact ⟨_, rfl, hr⟩
  | conclude r o tries =>
    obtain ⟨howed, rfl⟩ := fits
    refine ⟨fun job hjob _ => ?_, fun a' r' hpost hr => ?_⟩
    · -- the outcome that the attempt has written is the one that it owes for its report
      cases hjob
      refine ⟨r, ?_, howed.settled⟩
      have hlast := h.unwritten _ r rfl rfl
      simpa [lastReport?, Entry.reported?] using hlast
    · cases hpost
      cases hr
  | claim clock run room =>
    refine h.of_silent rfl (fun job hjob hfinal => ?_) (fun a' r' hpost hr => ?_)
    · cases hjob
      cases hfinal
    · obtain rfl := eq_of_after hpost
      cases hr
  | reschedule clock why may =>
    refine h.of_silent rfl (fun job hjob hfinal => ?_) (fun a' r' hpost hr => ?_)
    · cases hjob
      cases hfinal
    · obtain rfl := eq_of_after hpost
      cases hr
  | rest writing why left due =>
    refine h.of_silent rfl (fun job hjob _ => ⟨hjob, rfl⟩) (fun a' r' hpost hr => ?_)
    obtain rfl := eq_of_after hpost
    refine ⟨_, rfl, ?_⟩
    cases writing <;> exact hr
  | wake | stay =>
    refine h.of_silent rfl (fun job hjob _ => ⟨hjob, rfl⟩) (fun a' r' hpost hr => ?_)
    obtain rfl := eq_of_after hpost
    exact ⟨_, rfl, hr⟩
  | handBack | handOff =>
    exact h.of_silent rfl (fun job hjob _ => ⟨hjob, rfl⟩) (fun a' r' hpost => by cases hpost)
  | _ =>
    refine h.of_silent rfl (fun job hjob _ => ⟨hjob, rfl⟩) (fun a' r' hpost hr => ?_)
    obtain rfl := eq_of_after hpost
    cases hr

theorem Step.reported (step : Step id y y') (h : y.Reported) : y'.Reported := by
  cases step with
  | insert job isNew =>
    obtain ⟨id', now, request, rfl, -⟩ := isNew
    refine ⟨fun job hjob hfinal => ?_, fun a r hpost => by cases hpost⟩
    cases hjob
    cases hfinal
  | start job b runnable =>
    refine ⟨h.final, fun a r hpost hr => ?_⟩
    cases hpost
    cases hr
  | move move owns fits => exact h.move move fits

end Life

/-! ## Reports in a plant -/

namespace Plant

variable {p : Plant} {id : JobId}

/-- Every job with a final status has the outcome of its latest report. -/
def Reported (p : Plant) : Prop := ∀ id, ∃ post, p.Keeps id post ∧ (p.life id post).Reported

theorem reported_new (settings : ServiceSettings) : (new settings).Reported := by
  intro id
  have hnone : (new settings).record? id = none := Store.job?_empty id
  refine ⟨.absent, hnone, fun job hjob => ?_, fun a r hpost => by cases hpost⟩
  cases hnone.symm.trans hjob

namespace Orderly

theorem reported_step (h : p.Orderly) (hr : p.Reported) (act : Action) : (p.step act).Reported := by
  intro id
  obtain ⟨post, hpost, hlife⟩ := hr id
  obtain ⟨post', hpost', hsame | hstep⟩ := h.follows act hpost
  · exact ⟨post', hpost', hsame ▸ hlife⟩
  · exact ⟨post', hpost', hstep.reported hlife⟩

/-- A restart revives no job with a final status, and nobody is at work after it. -/
theorem reported_restart (h : p.Orderly) (hr : p.Reported) (clock : JobId → Instant)
    (types : List String) :
    (p.restart clock types).Reported := by
  intro id
  obtain ⟨post, -, hlife⟩ := hr id
  obtain ⟨-, hrevives⟩ := restart_revives h.keyed clock types
  obtain ⟨post', hpost'⟩ := (p.restart clock types).exists_keeps id
  refine ⟨post', hpost', fun job hjob hfinal => ?_, fun a r hattempted => ?_⟩
  · have hjob : (p.restart clock types).service.store.job? id = some job := hjob
    have houtcome : (p.restart clock types).outcome? id = p.outcome? id := hrevives.outcomes id
    -- a job that the restart moves is going to be tried again, so its status is not final
    rcases hrevives.jobs id with hsame | ⟨job₀, -, -, hmoved⟩
    · obtain ⟨r, hreport, hsettled⟩ := hlife.final job (hsame.symm.trans hjob) hfinal
      exact ⟨r, hreport, show Attempt.Settled job job ((p.restart clock types).outcome? id) r from
        houtcome ▸ hsettled⟩
    · rw [hmoved] at hjob
      cases hjob
      cases hfinal
  · obtain rfl : post' = .attempted a := hattempted
    exact absurd hpost' (not_attempted_restart clock types a)

theorem reported_turns (h : p.Orderly) (hr : p.Reported) (ts : List Turn) :
    (p.turns ts).Reported := by
  induction ts generalizing p with
  | nil => exact hr
  | cons t ts ih =>
    cases t with
    | act action => exact ih (h.step action) (h.reported_step hr action)
    | restart clock types => exact ih (h.restart clock types) (h.reported_restart hr clock types)

end Orderly

/-- The outcome behind a final status. -/
theorem Reported.settled (hr : p.Reported) {job : Job} (hjob : p.record? id = some job)
    (final : job.status.isTerminal = true) :
    ∃ r, (p.reports id).getLast? = some r ∧ Attempt.Settled job job (p.outcome? id) r := by
  obtain ⟨post, -, hlife⟩ := hr id
  exact hlife.final job hjob final

end Plant

/-! ## Reading a result -/

/-- An outcome carries what the handler returned, or why it failed. -/
theorem Attempt.outcomeOf_presence (job : Job) (clock : Instant) (r : Except Failure Json) :
    ((outcomeOf job clock r).status = .completed →
      (outcomeOf job clock r).value.isSome = true ∧ (outcomeOf job clock r).error = none) ∧
    ((outcomeOf job clock r).status = .failed →
      (outcomeOf job clock r).error.isSome = true ∧ (outcomeOf job clock r).value = none) := by
  cases r with
  | ok value => exact ⟨fun _ => ⟨rfl, rfl⟩, nofun⟩
  | error why => exact ⟨nofun, fun _ => ⟨rfl, rfl⟩⟩

/-- The next reads of a record and of an outcome do not fail. -/
structure Backend.Readable (b : Backend) : Prop where
  job : (b.plan .getJob).head? ≠ some true
  outcome : (b.plan .getResult).head? ≠ some true

/-- A read that does not fail answers from the store and leaves it, and the plan of other calls. -/
theorem Backend.call_of_readable {α : Type} {b : Backend} {c : StoreCall}
    (h : (b.plan c).head? ≠ some true) (read : Store → α) :
    ∃ b', b.call c (fun s => .ok (read s, s)) = (.ok (read b.store), b') ∧ b'.store = b.store ∧
      ∀ c', c' ≠ c → b'.plan c' = b.plan c' := by
  unfold Backend.call
  split
  · next rest hplan =>
    rw [hplan] at h
    exact absurd rfl h
  · next rest hplan => exact ⟨_, rfl, rfl, fun c' hne => if_neg hne⟩
  · exact ⟨_, rfl, rfl, fun _ _ => rfl⟩

/-- What a store says about the result of a job. -/
def Store.lookUp (s : Store) (id : JobId) : Queue.Lookup :=
  match s.job? id with
  | none => .notFound
  | some job =>
    if job.status.isTerminal then
      match s.outcome? id with
      | some outcome => .ready outcome
      | none => .pending job.status
    else .pending job.status

namespace Store

variable {s : Store} {id : JobId} {job : Job}

theorem lookUp_of_absent (hnone : s.job? id = none) : s.lookUp id = .notFound := by
  simp only [lookUp, hnone]

theorem lookUp_of_final (hjob : s.job? id = some job) (final : job.status.isTerminal = true)
    {o : Outcome} (houtcome : s.outcome? id = some o) : s.lookUp id = .ready o := by
  simp only [lookUp, hjob, final, if_true, houtcome]

theorem lookUp_of_going (hjob : s.job? id = some job) (going : job.status.isTerminal = false) :
    s.lookUp id = .pending job.status := by
  simp only [lookUp, hjob, going, Bool.false_eq_true, if_false]

end Store

/-- A job that can be read is answered for from the store. -/
theorem Queue.lookUp_of_readable {q : Queue} (h : q.backend.Readable) (id : JobId) :
    (q.lookUp id).1 = .ok (q.backend.store.lookUp id) := by
  obtain ⟨b, hjob, hstore, hplan⟩ := Backend.call_of_readable h.job (·.job? id)
  have hread : (b.plan .getResult).head? ≠ some true := by
    rw [hplan .getResult StoreCall.noConfusion]
    exact h.outcome
  obtain ⟨b', houtcome, -⟩ := Backend.call_of_readable hread (·.outcome? id)
  rw [hstore] at houtcome
  unfold Queue.lookUp Store.lookUp
  rw [show q.backend.getJob id = (.ok (q.backend.store.job? id), b) from hjob]
  cases q.backend.store.job? id with
  | none => rfl
  | some job =>
    dsimp only
    split
    · rw [show b.getResult id = (.ok (q.backend.store.outcome? id), b') from houtcome]
      cases q.backend.store.outcome? id <;> rfl
    · rfl

namespace Api

/-- The status of a response about a job. -/
def lookUpStatus : Queue.Lookup → Nat
  | .notFound => 404
  | .pending _ => 202
  | .ready _ => 200

/-- A request for a job is answered with the status that fits what is known about it. -/
theorem status_answer_of_lookUp {s : Service} {id : JobId} {l : Queue.Lookup}
    (known : (s.lookUp id).1 = .ok l) {r : Request} {segment : String} (method : r.method = "GET")
    (path : Endpoint.ofPath? r.path = some (.job segment))
    (names : (Text.percentDecoded? segment).bind JobId.parse? = some id) (fresh : JobId)
    (now : Instant) : (answer s fresh now r).1.status = lookUpStatus l := by
  have hrespond : respond s fresh now r (.job segment) = .ok (getJob s id) := by
    simp only [respond, names]
  have htakes : (Endpoint.job segment).takes r.method = true := by
    rw [method]
    rfl
  have hsent : ∀ response : Response, response.sentTo r = response := by
    intro response
    unfold Response.sentTo
    rw [method, if_neg (by decide)]
  unfold answer
  rw [path]
  simp only [htakes, Bool.not_true, Bool.false_eq_true, if_false, hrespond, hsent]
  unfold getJob
  simp only [known]
  cases l <;> rfl

end Api

namespace Plant

/-- What is answered about a job. -/
structure Answers (p : Plant) (id : JobId) (stored : Prop) : Prop where
  /-- A job is not found exactly if it was never stored. -/
  absent : (p.service.lookUp id).1 = .ok .notFound ↔ ¬stored
  /-- There is a result exactly if the status is final. -/
  ready : (∃ o, (p.service.lookUp id).1 = .ok (.ready o)) ↔
    ∃ job, p.record? id = some job ∧ job.status.isTerminal = true
  /-- The result has the status of the job, and it is the one that was reported last. -/
  own : ∀ o, (p.service.lookUp id).1 = .ok (.ready o) → o.jobId = id ∧
    ∃ job, p.record? id = some job ∧ o.status = job.status ∧
      (job.status = .completed → o.value.isSome = true ∧ o.error = none) ∧
      (job.status = .failed → o.error.isSome = true ∧ o.value = none) ∧
      ∃ r clock, (p.reports id).getLast? = some r ∧ o = Attempt.outcomeOf job clock r
  /-- Otherwise the answer is the status. -/
  pending : ∀ status, (p.service.lookUp id).1 = .ok (.pending status) ↔
    ∃ job, p.record? id = some job ∧ job.status = status ∧ status.isTerminal = false
  /-- The response to a request for the job says the same. -/
  status : ∃ l, (p.service.lookUp id).1 = .ok l ∧
    ∀ (r : Api.Request) segment fresh now, r.method = "GET" →
      Api.Endpoint.ofPath? r.path = some (.job segment) →
      (Text.percentDecoded? segment).bind JobId.parse? = some id →
      (Api.answer p.service fresh now r).1.status = Api.lookUpStatus l

variable {p : Plant} {id : JobId}

/-- What is answered about a job is what the plant knows. -/
theorem Reported.answers (hr : p.Reported) (hk : p.service.store.Keyed)
    (readable : p.service.queue.backend.Readable) {stored : Prop}
    (known : p.record? id = none ↔ ¬stored) : p.Answers id stored := by
  -- no read fails, so the answer is what the store says
  have hlookup : (p.service.lookUp id).1 = .ok (p.service.store.lookUp id) :=
    Queue.lookUp_of_readable readable id
  have hresponse : ∀ (r : Api.Request) (segment : String) fresh now, r.method = "GET" →
      Api.Endpoint.ofPath? r.path = some (.job segment) →
      (Text.percentDecoded? segment).bind JobId.parse? = some id →
      (Api.answer p.service fresh now r).1.status =
        Api.lookUpStatus (p.service.store.lookUp id) := by
    intro r segment fresh now method path names
    exact Api.status_answer_of_lookUp hlookup method path names fresh now
  cases hjob : p.record? id with
  | none =>
    rw [Store.lookUp_of_absent hjob] at hlookup hresponse
    refine ⟨?_, ?_, ?_, ?_, _, hlookup, hresponse⟩
    · simp [hlookup, ← known, hjob]
    · simp [hlookup, hjob]
    · simp [hlookup]
    · simp [hlookup, hjob]
  | some job =>
    have hstored : ¬¬stored := by
      rw [← known, hjob]
      exact Option.some_ne_none job
    cases hfinal : job.status.isTerminal with
    | false =>
      rw [Store.lookUp_of_going hjob hfinal] at hlookup hresponse
      refine ⟨?_, ?_, ?_, fun status => ?_, _, hlookup, hresponse⟩
      · simp [hlookup, hstored]
      · simp [hlookup, hjob, hfinal]
      · simp [hlookup]
      · rw [hlookup, hjob]
        constructor
        · rintro ⟨⟩
          exact ⟨job, rfl, rfl, hfinal⟩
        · rintro ⟨_, ⟨⟩, rfl, -⟩
          rfl
    | true =>
      -- the outcome in the store is the one written for the last report
      obtain ⟨r, hreport, -, clock, houtcome, hstatus⟩ := hr.settled hjob hfinal
      rw [Store.lookUp_of_final hjob hfinal houtcome] at hlookup hresponse
      refine ⟨?_, ?_, fun o ho => ?_, fun status => ?_, _, hlookup, hresponse⟩
      · simp [hlookup, hstored]
      · simp [hlookup, hjob, hfinal]
      · obtain rfl : Attempt.outcomeOf job clock r = o := by simpa [hlookup] using ho
        obtain ⟨hcompleted, hfailed⟩ := Attempt.outcomeOf_presence job clock r
        rw [← hstatus] at hcompleted hfailed
        exact ⟨(Attempt.outcomeOf_jobId job clock r).trans (hk id job hjob), job, hjob,
          hstatus.symm, hcompleted, hfailed, r, clock, hreport, rfl⟩
      · rw [hlookup, hjob]
        constructor
        · rintro ⟨⟩
        · rintro ⟨_, ⟨⟩, rfl, hgoing⟩
          cases hfinal.symm.trans hgoing

/-! ## Every job -/

/-- A job that is stored stays stored. -/
theorem Orderly.record?_turns_ne_none (h : p.Orderly) (ts : List Turn)
    (stored : p.record? id ≠ none) : (p.turns ts).record? id ≠ none := by
  induction ts generalizing p with
  | nil => exact stored
  | cons t ts ih =>
    obtain ⟨job, hjob⟩ := Option.ne_none_iff_exists'.mp stored
    obtain ⟨⟨job', hjob', -⟩, -⟩ := h.turn_proceeds t hjob
    exact ih (h.turn t) (hjob' ▸ Option.some_ne_none job')

/-- From an empty store on, every job with a final status comes with its own result, whatever
producers, workers and timers do in whatever order, whichever store calls fail, and however often
the plant is restarted in between; and that is what is answered, as long as the job can be read. -/
theorem lookUp_turns (settings : ServiceSettings) (ts : List Turn) (id : JobId)
    (readable : ((new settings).turns ts).service.queue.backend.Readable) :
    ((new settings).turns ts).Answers id
      (∃ n, ((new settings).turns (ts.take n)).record? id ≠ none) := by
  have h : ((new settings).turns ts).Orderly := (orderly_new settings).turns ts
  have hr := (orderly_new settings).reported_turns (reported_new settings) ts
  refine hr.answers h.keyed readable ⟨fun hnone ⟨n, hstored⟩ => ?_, fun hnever => ?_⟩
  · have hfirst := (orderly_new settings).turns (ts.take n)
    have hkept := hfirst.record?_turns_ne_none (ts.drop n) hstored
    rw [turns, turns, ← List.foldl_append, List.take_append_drop] at hkept
    exact hkept hnone
  · by_contra hstored
    exact hnever ⟨ts.length, by rwa [List.take_length]⟩

/-- A mail is delivered, but the plant is restarted after the result has been written and before the
status has; the next attempt fails for good. -/
def mailTwiceTurns : List Turn :=
  let t : Tick := ⟨0, .epoch, .ofList [], false, false⟩
  let steps (n i : Nat) := List.replicate n (Turn.act (.advance i t))
  [.act (.enqueue .nil .epoch ⟨"mail", .null, 2⟩ (by decide))] ++ steps 4 0 ++
    [.act (.hire "mail" .immediate)] ++ steps 8 1 ++ [.act (.report 1 .epoch (.ok .null))] ++
    steps 1 1 ++ [.restart (fun _ => .epoch) ["mail"], .act (.hire "mail" .immediate)] ++
    steps 8 0 ++ [.act (.report 0 .epoch (.error (.ofKind .badPayload "no address")))] ++ steps 3 0

/-- After the restart the mail has the result of the second attempt. -/
theorem lookUp_of_mail_twice :
    ∃ o, (((new .standard).turns mailTwiceTurns).service.lookUp .nil).1 = .ok (.ready o) ∧
      o.status = .failed ∧ o.error.isSome = true ∧ o.value = none := by
  have readable : ((new .standard).turns mailTwiceTurns).service.queue.backend.Readable := by
    constructor <;> decide +kernel
  have answers := lookUp_turns .standard mailTwiceTurns .nil readable
  have hstatus : (((new .standard).turns mailTwiceTurns).record? .nil).map Job.status =
      some .failed := by
    decide +kernel
  obtain ⟨job, hjob, hfailed⟩ := Option.map_eq_some_iff.mp hstatus
  obtain ⟨o, ho⟩ := answers.ready.mpr ⟨job, hjob, by rw [hfailed]; rfl⟩
  obtain ⟨-, job', hjob', hsame, -, hpresence, -⟩ := answers.own o ho
  obtain rfl : job = job' := Option.some.inj (hjob.symm.trans hjob')
  exact ⟨o, ho, hsame.trans hfailed, hpresence hfailed⟩

end Plant

end JobRunner
