import JobRunner.Proofs.Copies

/-!
# Counting what an attempt does

- `Tally`: the statuses written, the events published, the tries to write the outcome, and what
  became of the latest write.
- `Attempt.Stands`: what the tally is at every stage of an attempt, for every pattern of refused
  writes.
- `Attempt.Move.stands`: every move goes from one of these to the next.
- `Attempt.Stands.accounts`: the tally of an attempt that has its answer.
- `Attempt.Stands.brokenOff`: the tally of an attempt that has broken off.
-/

namespace JobRunner

/-! ## Tallies -/

/-- What became of the latest write to the store. -/
inductive LatestWrite where
  | none
  /-- A record was written. -/
  | record
  /-- An outcome was written. -/
  | outcome
  | refused (why : StoreError)
  deriving DecidableEq

/-- What happened to a job, counted. -/
structure Tally where
  /-- The statuses written, in order. -/
  written : List Status
  /-- The events published, in order. -/
  published : List Event
  /-- How often the handler was called. -/
  calls : Nat
  /-- How often the write of an outcome was tried. -/
  tries : Nat
  /-- How many of these tries wrote both the outcome and the record. -/
  commits : Nat
  latest : LatestWrite

namespace Tally

/-- Nothing has happened. -/
def blank : Tally := ⟨[], [], 0, 0, 0, .none⟩

/-- One more thing has happened. -/
def add (t : Tally) : Entry → Tally
  | .inserted _ | .reported _ _ => t
  | .written job =>
    { t with
      written := t.written ++ [job.status]
      commits := if t.latest = .outcome then t.commits + 1 else t.commits
      latest := .record }
  | .recorded _ => { t with tries := t.tries + 1, latest := .outcome }
  | .refused _ call why =>
    { t with tries := if call = .putResult then t.tries + 1 else t.tries, latest := .refused why }
  | .published e => { t with published := t.published ++ [e] }
  | .called _ => { t with calls := t.calls + 1 }

/-- All of this has happened. -/
def of (es : List Entry) : Tally := es.foldl add blank

/-- Every event was published after its status had been written; but an attempt that could not write
the outcome ends with one event more. -/
def InOrder (t : Tally) (answer : Option (Except AttemptError Status)) : Prop :=
  t.published.map (·.status) <+: t.written ∨
    (answer ≠ none ∧ t.published.map (·.status) = t.written ++ [.failed])

/-- How the answer of an attempt of `job`, the record of the job and its place in the lane agree
with what has happened. -/
structure Accounts (t : Tally) (job : Job) (record : Option Job) (waits : Prop)
    (answer : Except AttemptError Status) : Prop where
  /-- The events published are the statuses written, in order and once each, if some try wrote the
  outcome and the record, or the handler was not called at all. -/
  matched : t.calls = 0 ∨ t.commits ≠ 0 → t.published.map (·.status) = t.written
  /-- Otherwise the outcome was tried four times, the record is processing with one attempt more,
  and one last event carries the error of the last write. -/
  trailing : t.calls ≠ 0 → t.commits = 0 →
    t.tries = Attempt.outcomeTries ∧
    (∃ claimed, record = some claimed ∧ claimed.status = .processing ∧
      claimed.attempts = job.attempts + 1) ∧
    ∃ why, t.latest = .refused why ∧ answer = .error (.store why) ∧
      t.published.map (·.status) = t.written ++ [.failed] ∧
      t.published.getLast? = some (Attempt.abandonEvent job why)
  /-- The answer is a status exactly if that was written last, and the last write did not fail. -/
  ok : ∀ status, answer = .ok status ↔
    t.written.getLast? = some status ∧ ∀ why, t.latest ≠ .refused why
  /-- If the job could not be claimed, its handler is not called, nothing is published, the record
  is as before, and the job is in its lane. -/
  refused : t.written = [] → t.calls = 0 ∧ t.published = [] ∧ record = some job ∧ waits ∧
    ∃ why, t.latest = .refused why ∧ answer = .error (.store why)

/-- How the record of a job agrees with what has happened when an attempt has broken off. -/
structure BrokenOff (t : Tally) (record : Option Job) : Prop where
  /-- The events published are the statuses written, in order and once each. -/
  matched : t.published.map (·.status) = t.written
  /-- The last of them is retrying, and it was written by the last write. -/
  last : t.written.getLast? = some .retrying
  latest : t.latest = .record
  retrying : ∃ job, record = some job ∧ job.status = .retrying

theorem of_append (es es' : List Entry) : of (es ++ es') = es'.foldl add (of es) :=
  List.foldl_append

end Tally

namespace Attempt

/-- The status that a report leads to. -/
def reportStatus : Except Failure Json → Status
  | .ok _ => .completed
  | .error _ => .failed

theorem outcomeOf_status (job : Job) (clock : Instant) (r : Except Failure Json) :
    (outcomeOf job clock r).status = reportStatus r := by
  cases r <;> rfl

/-! ## The tally at every stage -/

/-- How an attempt of `job` stands: the attempt, the record, and the tally so far. Whether the job
waits in its lane is told only where a refused claim has brought it back there. -/
inductive Stands (job : Job) (waits : Prop) : Attempt → Job → Tally → Prop
  | claiming {b} : Stands job waits ⟨job, b, .claiming⟩ job .blank
  | handingBack {b} (clock : Instant) (why : StoreError) :
      Stands job waits ⟨job.claimed clock, b, .handingBack why⟩ job ⟨[], [], 0, 0, 0, .refused why⟩
  | ringingBack {copy b} (why : StoreError) (back : waits) :
      Stands job waits ⟨copy, b, .ringingBack why⟩ job ⟨[], [], 0, 0, 0, .refused why⟩
  | announcing {copy b} (clock : Instant) (same : copy.id = job.id) :
      Stands job waits ⟨copy, b, .announcing⟩ (job.claimed clock)
        ⟨[.processing], [], 0, 0, 0, .record⟩
  | calling {copy b} (clock : Instant) (same : copy.id = job.id) {e : Event}
      (he : e.status = .processing) :
      Stands job waits ⟨copy, b, .calling⟩ (job.claimed clock)
        ⟨[.processing], [e], 1, 0, 0, .record⟩
  | recording {copy b} (clock : Instant) (same : copy.id = job.id) {e : Event}
      (he : e.status = .processing) (r : Except Failure Json) (o : Outcome) (tries : Nat)
      (left : tries < outcomeTries) (latest : LatestWrite) :
      Stands job waits ⟨copy, b, .recording r o tries⟩ (job.claimed clock)
        ⟨[.processing], [e], 1, tries, 0, latest⟩
  | concluding {copy b} (clock : Instant) (same : copy.id = job.id) {e : Event}
      (he : e.status = .processing) (r : Except Failure Json) (o : Outcome) (tries : Nat)
      (left : tries < outcomeTries) :
      Stands job waits ⟨copy, b, .concluding r o tries⟩ (job.claimed clock)
        ⟨[.processing], [e], 1, tries + 1, 0, .outcome⟩
  | resting {copy b} (clock : Instant) (same : copy.id = job.id) {e : Event}
      (he : e.status = .processing) (r : Except Failure Json) (o : Outcome) (tries due : Nat)
      (left : tries < outcomeTries) (latest : LatestWrite) :
      Stands job waits ⟨copy, b, .resting r o tries due⟩ (job.claimed clock)
        ⟨[.processing], [e], 1, tries, 0, latest⟩
  | publishing {copy b record} {e : Event} (he : e.status = .processing)
      (r : Except Failure Json) (tries : Nat) :
      Stands job waits ⟨copy, b, .publishing r⟩ record
        ⟨[.processing, reportStatus r], [e], 1, tries, 1, .record⟩
  | abandoning {copy b} (clock : Instant) (same : copy.id = job.id) {e : Event}
      (he : e.status = .processing) (why : StoreError) :
      Stands job waits ⟨copy, b, .abandoning why⟩ (job.claimed clock)
        ⟨[.processing], [e], 1, outcomeTries, 0, .refused why⟩
  | rescheduling {copy b record} {e e' : Event} (he : e.status = .processing)
      (he' : e'.status = .failed) (why : Failure) (tries : Nat) :
      Stands job waits ⟨copy, b, .rescheduling why⟩ record
        ⟨[.processing, .failed], [e, e'], 1, tries, 1, .record⟩
  | announcingRetry {copy b record} {e e' : Event} (he : e.status = .processing)
      (he' : e'.status = .failed) (why : Failure) (tries : Nat) :
      Stands job waits ⟨copy, b, .announcingRetry why⟩ record
        ⟨[.processing, .failed, .retrying], [e, e'], 1, tries, 1, .record⟩
  | handingOff {copy b record} {es : List Event}
      (hes : es.map (·.status) = [.processing, .failed, .retrying]) (tries : Nat) :
      Stands job waits ⟨copy, b, .handingOff⟩ record
        ⟨[.processing, .failed, .retrying], es, 1, tries, 1, .record⟩
  | ringingOff {copy b record} {es : List Event}
      (hes : es.map (·.status) = [.processing, .failed, .retrying]) (tries : Nat) :
      Stands job waits ⟨copy, b, .ringingOff⟩ record
        ⟨[.processing, .failed, .retrying], es, 1, tries, 1, .record⟩
  | broken {copy b record} {es : List Event}
      (hes : es.map (·.status) = [.processing, .failed, .retrying]) (tries : Nat) :
      Stands job waits ⟨copy, b, .broken⟩ record
        ⟨[.processing, .failed, .retrying], es, 1, tries, 1, .record⟩
  | settled {copy b record} {written : List Status} {es : List Event} {status : Status}
      (hes : es.map (·.status) = written) (last : written.getLast? = some status) (tries : Nat) :
      Stands job waits ⟨copy, b, .done (.ok status)⟩ record ⟨written, es, 1, tries, 1, .record⟩
  | refused {copy b} (why : StoreError) (back : waits) :
      Stands job waits ⟨copy, b, .done (.error (.store why))⟩ job
        ⟨[], [], 0, 0, 0, .refused why⟩
  | abandoned {copy b} (clock : Instant) {e : Event} (he : e.status = .processing)
      (why : StoreError) :
      Stands job waits ⟨copy, b, .done (.error (.store why))⟩ (job.claimed clock)
        ⟨[.processing], [e, abandonEvent job why], 1, outcomeTries, 0, .refused why⟩
  | unscheduled {copy b record} {es : List Event}
      (hes : es.map (·.status) = [.processing, .failed]) (tries : Nat) (why : StoreError) :
      Stands job waits ⟨copy, b, .done (.error (.store why))⟩ record
        ⟨[.processing, .failed], es, 1, tries, 1, .refused why⟩

namespace Stands

variable {job record : Job} {waits waits' : Prop} {a : Attempt} {t : Tally}

theorem imp (h : Stands job waits a record t) (keeps : waits → waits') :
    Stands job waits' a record t := by
  cases h with
  | ringingBack why back => exact .ringingBack why (keeps back)
  | refused why back => exact .refused why (keeps back)
  | _ => constructor <;> assumption

theorem inOrder (h : Stands job waits a record t) : t.InOrder a.answer? := by
  cases h with
  | abandoned clock he why =>
    refine .inr ⟨Option.some_ne_none _, ?_⟩
    rw [List.map_cons, he]
    rfl
  | handingOff hes | ringingOff hes | broken hes | settled hes | unscheduled hes =>
    exact .inl (hes ▸ List.prefix_rfl)
  | claiming | handingBack | ringingBack | announcing | refused => exact .inl List.nil_prefix
  | calling _ _ he | recording _ _ he | concluding _ _ he | resting _ _ he | publishing he
  | abandoning _ _ he => exact .inl (by simp [he])
  | rescheduling he he' | announcingRetry he he' => exact .inl (by simp [he, he'])

/-- An answer after a write that failed is never a status. -/
private theorem ok_of_refused {why : StoreError} (t : Tally) (latest : t.latest = .refused why)
    (status : Status) : (Except.error (.store why) : Except AttemptError Status) = .ok status ↔
      t.written.getLast? = some status ∧ ∀ why, t.latest ≠ .refused why :=
  ⟨fun hc => (nomatch hc), fun hc => absurd latest (hc.2 why)⟩

theorem accounts {answer : Except AttemptError Status} (h : Stands job waits a record t)
    (hanswer : a.answer? = some answer) : t.Accounts job (some record) waits answer := by
  cases h with
  | @settled copy b record written es status hes last tries =>
    cases hanswer
    refine ⟨fun _ => hes, fun _ hc => ?_, fun status' => ⟨fun hc => ?_, fun hc => ?_⟩, fun hc => ?_⟩
    · cases hc
    · cases hc
      exact ⟨last, fun _ hc => by cases hc⟩
    · have hsame : some status = some status' := last.symm.trans hc.1
      cases hsame
      rfl
    · have hnil : written = [] := hc
      rw [hnil] at last
      cases last
  | refused why back =>
    cases hanswer
    exact ⟨fun _ => rfl, fun hc => absurd rfl hc, ok_of_refused _ rfl,
      fun _ => ⟨rfl, rfl, rfl, back, why, rfl, rfl⟩⟩
  | @abandoned copy b clock e he why =>
    cases hanswer
    -- the claim was announced, and then that the attempt is given up
    have hevents : [e, abandonEvent job why].map (·.status) = [.processing] ++ [.failed] := by
      rw [List.map_cons, he]
      rfl
    refine ⟨fun hc => ?_, fun _ _ => ?_, ok_of_refused _ rfl, fun hc => ?_⟩
    · rcases hc with hc | hc
      · cases hc
      · exact absurd rfl hc
    · exact ⟨rfl, ⟨job.claimed clock, rfl, rfl, rfl⟩, why, rfl, rfl, hevents, rfl⟩
    · cases hc
  | unscheduled hes tries why =>
    cases hanswer
    refine ⟨fun _ => hes, fun _ hc => ?_, ok_of_refused _ rfl, fun hc => ?_⟩
    · cases hc
    · cases hc
  | _ => cases hanswer

theorem brokenOff {outcome : Option Outcome} (h : Stands job waits a record t)
    (fits : a.Fits record outcome) (broken : a.isBroken = true) : t.BrokenOff (some record) := by
  cases h with
  | broken hes tries => exact ⟨hes, rfl, rfl, record, rfl, (fits.of_isBroken rfl).1⟩
  | _ => cases broken

end Stands

/-- What a refused write of the outcome does to the tally. -/
theorem Writing.add_refused {r : Except Failure Json} {o : Outcome} {tries : Nat}
    {stage : AttemptStage} {call : StoreCall} (w : Writing r o tries stage call) {job copy : Job}
    {b : Backoff} {waits : Prop} {record : Job} {t : Tally}
    (stands : Stands job waits ⟨copy, b, stage⟩ record t) (id : JobId) (why : StoreError) :
    copy.id = job.id ∧ (∃ clock, record = job.claimed clock) ∧ tries < outcomeTries ∧
      ∃ e : Event, e.status = .processing ∧
        t.add (.refused id call why) = ⟨[.processing], [e], 1, tries + 1, 0, .refused why⟩ := by
  cases w with
  | result =>
    cases stands with
    | recording clock same he _ _ _ left latest => exact ⟨same, ⟨clock, rfl⟩, left, _, he, rfl⟩
  | status =>
    cases stands with
    | concluding clock same he _ _ _ left => exact ⟨same, ⟨clock, rfl⟩, left, _, he, rfl⟩

/-- Every move of an attempt leads from one way to stand to the next. -/
theorem Move.stands {a a' : Attempt} {es : List Entry} {h : Handover} {record job : Job}
    {outcome : Option Outcome} {waits waits' : Prop} {t : Tally} (m : Move a a' es h)
    (fits : a.owns = true → a.Fits record outcome) (stands : Stands job waits a record t)
    (runnable : job.status.isRunnable = true) (room : job.attempts < Job.greatestCount)
    (back : h = .lane → waits') (keeps : waits → waits') :
    ∃ record', es.foldl Entry.onRecord (some record) = some record' ∧
      Stands job waits' a' record' (es.foldl Tally.add t) := by
  -- a move goes from one stage, and at that stage there is one way to stand
  cases m with
  | claim clock run full =>
    cases stands
    exact ⟨_, rfl, .announcing clock rfl⟩
  | claimRefused clock why run full =>
    cases stands
    exact ⟨_, rfl, .handingBack clock why⟩
  | notRunnable hnot =>
    cases stands
    rw [runnable] at hnot
    cases hnot
  | countFull run hfull =>
    cases stands
    omega
  | handBack why added =>
    cases stands
    refine ⟨_, rfl, ?_⟩
    cases added with
    | true => exact .ringingBack why (back rfl)
    | false => exact .refused why (back rfl)
  | ringBack why =>
    cases stands with
    | ringingBack _ hback => exact ⟨_, rfl, .refused why (keeps hback)⟩
  | announce =>
    cases stands with
    | announcing clock same => exact ⟨_, rfl, .calling clock same rfl⟩
  | report clock r =>
    cases stands with
    | calling clock' same he =>
      rw [report_of_fits (fits rfl)]
      refine ⟨_, rfl, ?_⟩
      exact .recording clock' ((Job.moved_id ..).trans same) he r _ 0 (by decide) .record
  | record r o tries =>
    cases stands with
    | recording clock same he _ _ _ left latest =>
      exact ⟨_, rfl, .concluding clock same he r o tries left⟩
  | @conclude copy b r o tries =>
    cases stands with
    | concluding clock same he _ _ _ left =>
      obtain ⟨⟨-, clock', hcopy, ho⟩, -⟩ := fits rfl
      -- the copy that is written bears the status of the report
      have hstatus : copy.status = reportStatus r := by
        have hmoved := congrArg Job.status hcopy
        rw [Job.moved_status, ho, outcomeOf_status] at hmoved
        exact hmoved
      refine ⟨_, rfl, ?_⟩
      show Stands job waits' _ copy ⟨[.processing] ++ [copy.status], _, _, _, _, _⟩
      rw [hstatus]
      exact .publishing he r (tries + 1)
  | rest writing why left due =>
    obtain ⟨same, ⟨clock, rfl⟩, -, e, he, ht⟩ := writing.add_refused stands _ why
    refine ⟨_, rfl, ?_⟩
    rw [List.foldl_cons, List.foldl_nil, ht]
    exact .resting clock same he _ _ _ due left _
  | giveUp writing why last =>
    obtain ⟨same, ⟨clock, rfl⟩, left, e, he, ht⟩ := writing.add_refused stands _ why
    refine ⟨_, rfl, ?_⟩
    have hlast : _ + 1 = outcomeTries := Nat.le_antisymm left last
    rw [List.foldl_cons, List.foldl_nil, ht, hlast]
    exact .abandoning clock same he why
  | wake r o tries due =>
    cases stands with
    | resting clock same he _ _ _ _ left latest =>
      exact ⟨_, rfl, .recording clock same he r o tries left latest⟩
  | succeed value =>
    cases stands with
    | publishing he _ tries => exact ⟨_, rfl, .settled (by simp [he]; rfl) rfl tries⟩
  | retry why again =>
    cases stands with
    | publishing he _ tries => exact ⟨_, rfl, .rescheduling he rfl why tries⟩
  | fail why final =>
    cases stands with
    | publishing he _ tries => exact ⟨_, rfl, .settled (by simp [he]; rfl) rfl tries⟩
  | @abandon copy b why =>
    cases stands with
    | abandoning clock same he =>
      have hevent : abandonEvent copy why = abandonEvent job why := by
        unfold abandonEvent
        rw [same]
      refine ⟨_, rfl, ?_⟩
      show Stands job waits' _ _ ⟨_, [_] ++ [abandonEvent copy why], _, _, _, _⟩
      rw [hevent]
      exact .abandoned clock he why
  | reschedule clock why may =>
    cases stands with
    | rescheduling he he' _ tries => exact ⟨_, rfl, .announcingRetry he he' why tries⟩
  | rescheduleRefused clock why e may =>
    cases stands with
    | rescheduling he he' _ tries => exact ⟨_, rfl, .unscheduled (by simp [he, he']) tries e⟩
  | notReschedulable why hnot =>
    obtain ⟨⟨rfl, -⟩, hstatus, -⟩ := fits rfl
    rw [hstatus] at hnot
    cases hnot
  | announceRetry why =>
    cases stands with
    | announcingRetry he he' _ tries =>
      exact ⟨_, rfl, .handingOff (by simp [he, he']; rfl) tries⟩
  | handOff added =>
    cases stands with
    | handingOff hes tries =>
      refine ⟨_, rfl, ?_⟩
      cases added with
      | true => exact .ringingOff hes tries
      | false => exact .settled hes rfl tries
  | breakOff draws undrawn =>
    cases stands with
    | handingOff hes tries => exact ⟨_, rfl, .broken hes tries⟩
  | nap due =>
    cases stands with
    | handingOff hes tries => exact ⟨_, rfl, .settled hes rfl tries⟩
  | ringOff =>
    cases stands with
    | ringingOff hes tries => exact ⟨_, rfl, .settled hes rfl tries⟩
  | stay now blocked => exact ⟨_, rfl, stands.imp keeps⟩

end Attempt

end JobRunner
