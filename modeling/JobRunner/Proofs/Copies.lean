import JobRunner.Proofs.Moves

/-!
# The copy of an attempt and the record of its job

An attempt writes its own copy of a job, which it has read before. `Attempt.Fits` says how the copy
stands to the record at every stage; `Attempt.Move.fits` says that no move of the attempt spoils
that, as long as nobody else writes the record.
-/

namespace JobRunner

namespace Attempt

/-- Whether the job is still in the hands of the attempt. -/
def owns (a : Attempt) : Bool :=
  match a.stage with
  | .ringingBack _ | .ringingOff | .done _ => false
  | _ => true

/-- The outcome is still to be written: the record is processing, the copy has gone on. -/
def Owed (record job : Job) (report : Except Failure Json) (o : Outcome) : Prop :=
  record.status = .processing ∧
    ∃ clock, job = record.moved o.status clock ∧ o = outcomeOf job clock report

/-- The outcome of the copy has been written. -/
def Settled (record job : Job) (outcome : Option Outcome) (report : Except Failure Json) : Prop :=
  record = job ∧ ∃ clock, outcome = some (outcomeOf job clock report) ∧
    job.status = (outcomeOf job clock report).status

/-- How the record and the outcome of its job stand to an attempt that has it in its hands. -/
def Fits (a : Attempt) (record : Job) (outcome : Option Outcome) : Prop :=
  match a.stage with
  | .claiming => record = a.job ∧ record.status.isRunnable = true
  | .handingBack _ => record.status.isRunnable = true ∧ ∃ clock, a.job = record.claimed clock
  | .announcing | .calling => record = a.job ∧ record.status = .processing
  | .recording report o _ | .resting report o _ _ => Owed record a.job report o
  | .concluding report o _ => Owed record a.job report o ∧ outcome = some o
  | .publishing report => Settled record a.job outcome report
  | .abandoning _ => record.status = .processing ∧ ∃ status clock, a.job = record.moved status clock
  | .rescheduling why =>
    Settled record a.job outcome (.error why) ∧ record.status = .failed ∧
      a.job.shouldRetry why = true
  | .announcingRetry _ | .handingOff => record = a.job ∧ record.status = .retrying
  | .broken => (record = a.job ∧ record.status = .retrying) ∧
    ∃ draws, a.backoff.delay a.job.attempts draws = none
  | .ringingBack _ | .ringingOff | .done _ => True

/-- An attempt that has broken off still has its job. -/
theorem owns_of_isBroken {a : Attempt} (h : a.isBroken = true) : a.owns = true := by
  obtain ⟨job, b, stage⟩ := a
  cases stage with
  | broken => rfl
  | _ => cases h

/-- An attempt breaks off with a job that is retrying, where a delay cannot be drawn. -/
theorem Fits.of_isBroken {a : Attempt} {record : Job} {outcome : Option Outcome}
    (h : a.Fits record outcome) (broken : a.isBroken = true) :
    record.status = .retrying ∧ ¬a.backoff.IsSteady := by
  obtain ⟨job, b, stage⟩ := a
  cases stage with
  | broken =>
    obtain ⟨⟨-, hstatus⟩, draws, hnone⟩ := h
    exact ⟨hstatus, fun hsteady => hsteady _ draws hnone⟩
  | _ => cases broken

theorem fits_of_not_owns {a : Attempt} (h : a.owns = false) (record : Job)
    (outcome : Option Outcome) : a.Fits record outcome := by
  obtain ⟨job, b, stage⟩ := a
  cases stage with
  | ringingBack | ringingOff | done => trivial
  | _ => cases h

theorem outcomeOf_jobId (job : Job) (clock : Instant) (report : Except Failure Json) :
    (outcomeOf job clock report).jobId = job.id := by
  cases report <;> rfl

/-- Outcomes of an attempt are final. -/
theorem outcomeOf_status_of_processing (job : Job) (clock : Instant)
    (report : Except Failure Json) :
    Status.processing.mayBecome (outcomeOf job clock report).status = true := by
  cases report <;> rfl

theorem Owed.jobId {record job : Job} {report : Except Failure Json} {o : Outcome}
    (h : Owed record job report o) : o.jobId = job.id := by
  obtain ⟨-, clock, -, ho⟩ := h
  rw [ho, outcomeOf_jobId]

/-- A report to a calling attempt that fits is taken as it is. -/
theorem report_of_fits {job : Job} {b : Backoff} {record : Job} {outcome : Option Outcome}
    (h : Fits ⟨job, b, .calling⟩ record outcome) (clock : Instant) (r : Except Failure Json) :
    Attempt.report ⟨job, b, .calling⟩ clock r =
      ⟨job.moved (outcomeOf job clock r).status clock, b,
        .recording r (outcomeOf job clock r) 0⟩ := by
  obtain ⟨hrecord, hstatus⟩ := h
  have hjob : record = job := hrecord
  have hmay : job.status.mayBecome (outcomeOf job clock r).status = true := by
    rw [← congrArg Job.status hjob, hstatus]
    exact outcomeOf_status_of_processing job clock r
  simp only [Attempt.report]
  rw [Job.advance_of_mayBecome clock hmay]

theorem owed_report {record : Job} (hstatus : record.status = .processing) (clock : Instant)
    (r : Except Failure Json) :
    Owed record (record.moved (outcomeOf record clock r).status clock) r
      (outcomeOf record clock r) := by
  refine ⟨hstatus, clock, rfl, ?_⟩
  cases r <;> rfl

/-- The copy that has been written is settled. -/
theorem Owed.settled {record job : Job} {report : Except Failure Json} {o : Outcome}
    (h : Owed record job report o) : Settled job job (some o) report := by
  obtain ⟨-, clock, hjob, ho⟩ := h
  refine ⟨rfl, clock, congrArg some ho, ?_⟩
  rw [← ho, hjob, Job.moved_status]

/-- A writing stage owes the outcome. -/
theorem Writing.owed {record job : Job} {outcome : Option Outcome} {b : Backoff}
    {report : Except Failure Json} {o : Outcome} {tries : Nat} {stage : AttemptStage}
    {call : StoreCall} (w : Writing report o tries stage call)
    (fits : Fits ⟨job, b, stage⟩ record outcome) : Owed record job report o := by
  cases w with
  | result => exact fits
  | status => exact fits.1

namespace Move

variable {a a' : Attempt} {es : List Entry} {h : Handover} {record : Job}
  {outcome : Option Outcome}

/-- An attempt keeps to its job, and to its type. -/
theorem job_kept (m : Move a a' es h) :
    a'.job.id = a.job.id ∧ a'.job.jobType = a.job.jobType := by
  cases m with
  | report clock r =>
    simp only [Attempt.report]
    split
    · next job hjob =>
      unfold Job.advance at hjob
      split at hjob
      · cases hjob
        exact ⟨rfl, rfl⟩
      · cases hjob
    · exact ⟨rfl, rfl⟩
  | _ => exact ⟨rfl, rfl⟩

/-- An attempt keeps to its rule of delays. -/
theorem backoff_kept (m : Move a a' es h) : a'.backoff = a.backoff := by
  cases m with
  | report clock r =>
    simp only [Attempt.report]
    split <;> rfl
  | _ => rfl

theorem job_id (m : Move a a' es h) : a'.job.id = a.job.id := m.job_kept.1

/-- Everything that an attempt does concerns its job. -/
theorem entry_jobId (m : Move a a' es h) (fits : a.Fits record outcome) :
    ∀ e ∈ es, e.jobId = a.job.id := by
  intro e he
  cases m with
  | record report o tries =>
    rw [List.mem_singleton] at he
    rw [he]
    exact Owed.jobId fits
  | succeed value =>
    rw [List.mem_singleton] at he
    rw [he]
    rfl
  | announce =>
    simp only [List.mem_cons, List.not_mem_nil, or_false] at he
    rcases he with rfl | rfl <;> rfl
  | claim | claimRefused | report | conclude | rest | giveUp | retry | fail | abandon | reschedule
  | rescheduleRefused | announceRetry =>
    rw [List.mem_singleton] at he
    rw [he]
    rfl
  | notRunnable | countFull | handBack | ringBack | wake | notReschedulable | handOff | nap
  | breakOff | ringOff | stay => exact absurd he List.not_mem_nil

/-- An attempt that has given its job away does nothing to it any more. -/
theorem of_not_owns (m : Move a a' es h) (gone : a.owns = false) :
    es = [] ∧ h = .none ∧ a'.owns = false := by
  cases m with
  | ringBack | ringOff => exact ⟨rfl, rfl, rfl⟩
  | stay now blocked => exact ⟨rfl, rfl, gone⟩
  | rest writing | giveUp writing => cases writing <;> cases gone
  | _ => cases gone

/-- An attempt that hands its job over has nothing more to do with it. -/
theorem of_handover (m : Move a a' es h) (handed : h ≠ .none) : es = [] ∧ a'.owns = false := by
  cases m with
  | handBack why added | handOff added => cases added <;> exact ⟨rfl, rfl⟩
  | nap due => exact ⟨rfl, rfl⟩
  | _ => exact absurd rfl handed

/-- A job handed over is runnable, and goes into the lane of its type. -/
theorem runnable_of_handover (m : Move a a' es h) (fits : a.Fits record outcome)
    (handed : h ≠ .none) :
    record.status.isRunnable = true ∧ record.jobType = a.job.jobType := by
  cases m with
  | handBack why added =>
    obtain ⟨hrun, clock, hjob⟩ := fits
    exact ⟨hrun, by rw [hjob, Job.claimed_jobType]⟩
  | handOff added | nap due =>
    obtain ⟨rfl, hstatus⟩ := fits
    exact ⟨by rw [hstatus]; rfl, rfl⟩
  | _ => exact absurd rfl handed

/-- A timer takes the record as it is. -/
theorem record_of_timer {due : Nat} (m : Move a a' es (.timer due))
    (fits : a.Fits record outcome) : record = a.job := by
  cases m
  exact fits.1

/-- The copy fits again after a move, if nobody else has written the record. -/
theorem fits (m : Move a a' es h) (fits : a.Fits record outcome) :
    ∃ record', es.foldl Entry.onRecord (some record) = some record' ∧
      (a'.owns = true → a'.Fits record' (es.foldl Entry.onOutcome outcome)) := by
  -- `claim`, `conclude` and `reschedule` write the copy itself; no other move writes the record
  cases m with
  | @claim job b clock run room => exact ⟨job.claimed clock, rfl, fun _ => ⟨rfl, rfl⟩⟩
  | claimRefused clock why run room =>
    obtain ⟨rfl, hrun⟩ := fits
    exact ⟨record, rfl, fun _ => ⟨hrun, clock, rfl⟩⟩
  | handBack why added | handOff added =>
    refine ⟨record, rfl, fun howns => ?_⟩
    cases added <;> cases howns
  | announce => exact ⟨record, rfl, fun _ => fits⟩
  | report clock r =>
    rw [report_of_fits fits]
    obtain ⟨rfl, hstatus⟩ := fits
    exact ⟨record, rfl, fun _ => owed_report hstatus clock r⟩
  | record r o tries => exact ⟨record, rfl, fun _ => ⟨fits, rfl⟩⟩
  | @conclude job b r o tries =>
    obtain ⟨howed, ho⟩ := fits
    refine ⟨job, rfl, fun _ => ?_⟩
    show Settled job job outcome r
    rw [ho]
    exact howed.settled
  | rest writing why left due => exact ⟨record, rfl, fun _ => writing.owed fits⟩
  | giveUp writing why last =>
    obtain ⟨hstatus, clock, hjob, -⟩ := writing.owed fits
    exact ⟨record, rfl, fun _ => ⟨hstatus, _, clock, hjob⟩⟩
  | wake r o tries due => exact ⟨record, rfl, fun _ => fits⟩
  | retry why again =>
    have hsettled := fits
    obtain ⟨rfl, clock, -, hstatus⟩ := fits
    exact ⟨record, rfl, fun _ => ⟨hsettled, hstatus, again⟩⟩
  | @reschedule job b clock why may =>
    exact ⟨job.moved .retrying clock, rfl, fun _ => ⟨rfl, rfl⟩⟩
  | announceRetry why => exact ⟨record, rfl, fun _ => fits⟩
  | breakOff draws undrawn => exact ⟨record, rfl, fun _ => ⟨fits, draws, undrawn⟩⟩
  | stay now blocked => exact ⟨record, rfl, fun _ => fits⟩
  | notRunnable | countFull | ringBack | succeed | fail | abandon | rescheduleRefused
  | notReschedulable | nap | ringOff => exact ⟨record, rfl, fun _ => trivial⟩

end Move

end Attempt

end JobRunner
