import JobRunner.Proofs.Owners
import Mathlib.Data.Nat.Find

/-!
# The course of a job

A job is attempted again and again until an execution ends its course.

- `Attempt.execution`: all that happens to a job from its claim to the publication of its outcome.
- `Course.endsAt`: whether an execution is the last one: it is the last that is allowed, or it
  succeeds, or its failure is final.
- `Course.events`: all the events of a course.
- `Life.OnCourse`: how far a job has come on its course.
- `Plant.retry_cycle`: while the store refuses no write of a job, the job keeps to its course, and
  at the end of it all is as the last execution says.
-/

namespace JobRunner

/-- A failure of a known kind is final exactly if the kind is: a handler that broke off or took too
long may be called again, but a job whose type has none is not attempted again. -/
theorem Failure.isTransient_ofKind (kind : Failure.Kind) (message : String) :
    (Failure.ofKind kind message).isTransient = !kind.isFinal := by
  show Failure.isTransientCode kind.code = !kind.isFinal
  cases kind <;> decide +kernel

/-! ## The course, by the outcomes of the executions -/

/-- The event that publishes a report. -/
def Event.ofReport (id : JobId) : Except Failure Json → Event
  | .ok value => .ofStatus id .completed (some value) none
  | .error why => .ofStatus id .failed none (some why.message)

namespace Attempt

/-- The first part of an execution: the job is written and published as processing, and its handler
is called. -/
def beginning (running : Job) : List Entry :=
  [.written running, .published (.ofStatus running.id .processing none none), .called running]

/-- The second part: the handler reports, and the outcome is written and published. -/
def ending (running : Job) (clock : Instant) (report : Except Failure Json) : List Entry :=
  let outcome := outcomeOf running clock report
  [.reported running.id report, .recorded outcome, .written (running.moved outcome.status clock),
    .published (.ofReport running.id report)]

/-- All that happens to a job in one execution. -/
def execution (running : Job) (clock : Instant) (report : Except Failure Json) : List Entry :=
  beginning running ++ ending running clock report

end Attempt

namespace Course

/-- Whether an execution, counted from zero, is the last one of a job that is allowed `most`. -/
def endsAt (most : Int) (o : Nat → Except Failure Json) (i : Nat) : Bool :=
  (i : Int) + 1 == most ||
    match o i with
    | .ok _ => true
    | .error why => !why.isTransient

/-- Every course ends. -/
theorem exists_endsAt (request : JobRequest) (o : Nat → Except Failure Json) :
    ∃ i, endsAt (max request.maxAttempts 1) o i = true := by
  refine ⟨(max request.maxAttempts 1 - 1).toNat, ?_⟩
  have hlast : ((max request.maxAttempts 1 - 1).toNat : Int) + 1 = max request.maxAttempts 1 := by
    omega
  unfold endsAt
  rw [hlast, beq_self_eq_true, Bool.true_or]

/-- The last execution of a job, counted from zero. -/
def last (request : JobRequest) (o : Nat → Except Failure Json) : Nat :=
  Nat.find (exists_endsAt request o)

/-- The events of one execution. -/
def round (id : JobId) (r : Except Failure Json) : List Event :=
  [.ofStatus id .processing none none, .ofReport id r]

/-- The event that there will be another one. -/
def again (id : JobId) : Except Failure Json → List Event
  | .ok _ => []
  | .error why => [.ofStatus id .retrying none (some why.message)]

/-- The events of executions that are followed by others. -/
def rounds (id : JobId) (o : Nat → Except Failure Json) (n : Nat) : List Event :=
  (List.range n).flatMap fun i => round id (o i) ++ again id (o i)

/-- The events of a whole course. -/
def events (id : JobId) (o : Nat → Except Failure Json) (last : Nat) : List Event :=
  rounds id o last ++ round id (o last)

variable {id : JobId} {o : Nat → Except Failure Json} {most : Int}

theorem rounds_succ (n : Nat) :
    rounds id o (n + 1) = rounds id o n ++ (round id (o n) ++ again id (o n)) := by
  unfold rounds
  rw [List.range_succ, List.flatMap_append, List.flatMap_singleton]

theorem rounds_mono {n m : Nat} (h : n ≤ m) : rounds id o n <+: rounds id o m := by
  induction h with
  | refl => exact List.prefix_rfl
  | step hle ih =>
    rw [rounds_succ]
    exact ih.trans (List.prefix_append _ _)

/-- The events of a beginning of a course. -/
theorem events_mono {n k : Nat} (h : n ≤ k) :
    rounds id o n ++ round id (o n) <+: events id o k := by
  rcases Nat.eq_or_lt_of_le h with rfl | hlt
  · exact List.prefix_rfl
  · have hnext : rounds id o n ++ round id (o n) <+: rounds id o (n + 1) := by
      rw [rounds_succ, ← List.append_assoc]
      exact List.prefix_append _ _
    exact (hnext.trans (rounds_mono hlt)).trans (List.prefix_append _ _)

/-- A course that has been going on so far has come no further than to its end. -/
theorem le_last {request : JobRequest} {n : Nat}
    (going : ∀ i < n, endsAt (max request.maxAttempts 1) o i = false) : n ≤ last request o := by
  by_contra hlt
  have hend : endsAt (max request.maxAttempts 1) o (last request o) = true :=
    Nat.find_spec (exists_endsAt request o)
  rw [going _ (Nat.lt_of_not_le hlt)] at hend
  cases hend

/-- A course that ends after having gone on so far ends at its end. -/
theorem eq_last {request : JobRequest} {n : Nat}
    (going : ∀ i < n, endsAt (max request.maxAttempts 1) o i = false)
    (ends : endsAt (max request.maxAttempts 1) o n = true) : n = last request o :=
  Nat.le_antisymm (le_last going) (Nat.find_min' _ ends)

/-- A failed job is attempted again exactly if its course has not ended. -/
theorem endsAt_eq_not_shouldRetry {job : Job} {why : Failure} {n : Nat} (hn : o n = .error why)
    (attempts : job.attempts = n + 1) (le : job.attempts ≤ job.maxAttempts) :
    endsAt job.maxAttempts o n = !job.shouldRetry why := by
  unfold endsAt Job.shouldRetry Job.attemptsLeft
  rw [hn, attempts]
  by_cases hlast : (n : Int) + 1 = job.maxAttempts
  · have hnone : ¬((n : Int) + 1 < job.maxAttempts) := by omega
    simp [hlast]
  · have hleft : (n : Int) + 1 < job.maxAttempts := by omega
    simp [hlast, hleft]

end Course

/-! ## What happened, by kind -/

namespace Entry

/-- The event that was published. -/
def published? : Entry → Option Event
  | published e => some e
  | _ => none

/-- The record with which a handler was called. -/
def called? : Entry → Option Job
  | called job => some job
  | _ => none

/-- What a handler reported. -/
def reported? : Entry → Option (Except Failure Json)
  | reported _ r => some r
  | _ => none

/-- The first record that was stored. -/
def inserted? : Entry → Option Job
  | inserted job => some job
  | _ => none

end Entry

namespace Life

/-! ## How far a job has come -/

variable {id : JobId} {most : Int} {o : Nat → Except Failure Json}

/-- A job in its round `n`: the rounds before were followed by others, so many calls and reports
have been made, and every call was made with a record that says so. -/
structure Round (id : JobId) (most : Int) (o : Nat → Except Failure Json) (n : Nat) (record : Job)
    (js : List Entry) (attempts : Nat) (events : List Event) (calls reports : Nat) : Prop where
  allowed : record.maxAttempts = most
  counted : record.attempts = attempts
  going : ∀ i < n, Course.endsAt most o i = false
  published : js.filterMap Entry.published? = Course.rounds id o n ++ events
  called : (js.filterMap Entry.called?).length = calls
  seen : ∀ (i : Nat) job, (js.filterMap Entry.called?)[i]? = some job →
    job.status = .processing ∧ job.attempts = i + 1
  reported : (js.filterMap Entry.reported?).length = reports

/-- How far a job has come on its course. -/
inductive OnCourse (id : JobId) (most : Int) (o : Nat → Except Failure Json) : Life → Prop
  | waiting {record outcome js n} (round : Round id most o n record js n [] n n) :
      OnCourse id most o ⟨some record, outcome, .waiting, js⟩
  | claiming {record outcome js job b n} (round : Round id most o n record js n [] n n) :
      OnCourse id most o ⟨some record, outcome, .attempted ⟨job, b, .claiming⟩, js⟩
  | announcing {record outcome js job b n} (round : Round id most o n record js (n + 1) [] n n) :
      OnCourse id most o ⟨some record, outcome, .attempted ⟨job, b, .announcing⟩, js⟩
  | calling {record outcome js job b n}
      (round : Round id most o n record js (n + 1) [.ofStatus id .processing none none] (n + 1) n) :
      OnCourse id most o ⟨some record, outcome, .attempted ⟨job, b, .calling⟩, js⟩
  | recording {record outcome js job b n r} (written : Outcome) (tries : Nat) (report : o n = r)
      (round : Round id most o n record js (n + 1) [.ofStatus id .processing none none] (n + 1)
        (n + 1)) :
      OnCourse id most o ⟨some record, outcome, .attempted ⟨job, b, .recording r written tries⟩, js⟩
  | concluding {record outcome js job b n r} (written : Outcome) (tries : Nat) (report : o n = r)
      (round : Round id most o n record js (n + 1) [.ofStatus id .processing none none] (n + 1)
        (n + 1)) :
      OnCourse id most o
        ⟨some record, outcome, .attempted ⟨job, b, .concluding r written tries⟩, js⟩
  | publishing {record outcome js job b n r} (report : o n = r)
      (round : Round id most o n record js (n + 1) [.ofStatus id .processing none none] (n + 1)
        (n + 1)) :
      OnCourse id most o ⟨some record, outcome, .attempted ⟨job, b, .publishing r⟩, js⟩
  | rescheduling {record outcome js job b n} (why : Failure) (report : o n = .error why)
      (next : Course.endsAt most o n = false)
      (round : Round id most o n record js (n + 1) (Course.round id (o n)) (n + 1) (n + 1)) :
      OnCourse id most o ⟨some record, outcome, .attempted ⟨job, b, .rescheduling why⟩, js⟩
  | announcingRetry {record outcome js job b n} (why : Failure) (report : o n = .error why)
      (next : Course.endsAt most o n = false)
      (round : Round id most o n record js (n + 1) (Course.round id (o n)) (n + 1) (n + 1)) :
      OnCourse id most o ⟨some record, outcome, .attempted ⟨job, b, .announcingRetry why⟩, js⟩
  | handingOff {record outcome js job b n} (round : Round id most o n record js n [] n n) :
      OnCourse id most o ⟨some record, outcome, .attempted ⟨job, b, .handingOff⟩, js⟩
  | broken {record outcome js job b n} (round : Round id most o n record js n [] n n) :
      OnCourse id most o ⟨some record, outcome, .attempted ⟨job, b, .broken⟩, js⟩
  | ended {record js n} (clock : Instant) (ends : Course.endsAt most o n = true)
      (status : record.status = (Event.ofReport id (o n)).status)
      (round : Round id most o n record js (n + 1) (Course.round id (o n)) (n + 1) (n + 1)) :
      OnCourse id most o ⟨some record, some (Attempt.outcomeOf record clock (o n)), .free, js⟩

namespace Round

variable {n : Nat} {record : Job} {js : List Entry} {attempts : Nat} {events : List Event}
  {calls reports : Nat}

/-- More has happened to a job in its round. -/
theorem append (h : Round id most o n record js attempts events calls reports) {record' : Job}
    {attempts' : Nat} (es : List Entry) (most' : record'.maxAttempts = record.maxAttempts)
    (hattempts : record'.attempts = attempts')
    (called : ∀ (i : Nat) job, (es.filterMap Entry.called?)[i]? = some job →
      job.status = .processing ∧ job.attempts = calls + i + 1) :
    Round id most o n record' (js ++ es) attempts' (events ++ es.filterMap Entry.published?)
      (calls + (es.filterMap Entry.called?).length)
      (reports + (es.filterMap Entry.reported?).length) where
  allowed := most'.trans h.allowed
  counted := hattempts
  going := h.going
  published := by rw [List.filterMap_append, h.published, List.append_assoc]
  called := by rw [List.filterMap_append, List.length_append, h.called]
  reported := by rw [List.filterMap_append, List.length_append, h.reported]
  seen i job hi := by
    rw [List.filterMap_append] at hi
    rcases Nat.lt_or_ge i calls with hlt | hge
    · rw [List.getElem?_append_left (by rw [h.called]; exact hlt)] at hi
      exact h.seen i job hi
    · rw [List.getElem?_append_right (by rw [h.called]; exact hge), h.called] at hi
      obtain ⟨hstatus, hattempts⟩ := called _ job hi
      refine ⟨hstatus, ?_⟩
      rw [hattempts]
      omega

/-- The round is followed by another one. -/
theorem next (h : Round id most o n record js attempts
      (Course.round id (o n) ++ Course.again id (o n)) calls reports)
    (going : Course.endsAt most o n = false) :
    Round id most o (n + 1) record js attempts [] calls reports where
  allowed := h.allowed
  counted := h.counted
  going i hi := by
    rcases Nat.lt_succ_iff_lt_or_eq.mp hi with hlt | rfl
    · exact h.going i hlt
    · exact going
  published := by rw [Course.rounds_succ, List.append_nil, h.published]
  called := h.called
  seen := h.seen
  reported := h.reported

end Round

theorem reportEvent_eq (job : Job) (r : Except Failure Json) :
    Attempt.reportEvent job r = Event.ofReport job.id r := by
  cases r <;> rfl

/-- The last report of a course has been published. -/
private theorem settled {record : Job} {js : List Entry} {n : Nat} {r : Except Failure Json}
    (clock : Instant) (report : o n = r) (ends : Course.endsAt most o n = true)
    (status : record.status = (Attempt.outcomeOf record clock r).status)
    (round : Round record.id most o n record js (n + 1)
      [.ofStatus record.id .processing none none, Attempt.reportEvent record r] (n + 1) (n + 1)) :
    OnCourse record.id most o
      ⟨some record, some (Attempt.outcomeOf record clock r), .free, js⟩ := by
  subst report
  rw [reportEvent_eq] at round
  refine .ended clock ends ?_ round
  rw [status]
  cases o n <;> rfl

/-- A move keeps a job on its course, as long as the store refuses no write. -/
theorem OnCourse.move {record : Job} {outcome : Option Outcome} {js es : List Entry}
    {a a' : Attempt} {h : Attempt.Handover} (m : Attempt.Move a a' es h) (owns : a.owns = true)
    (fits : a.Fits record outcome) (hid : a.job.id = id) (hc : record.Counted)
    (on : OnCourse id most o ⟨some record, outcome, .attempted a, js⟩)
    (accepted : ∀ i call why, Entry.refused i call why ∉ es)
    (reported : ∀ (i : Nat) r, ((js ++ es).filterMap Entry.reported?)[i]? = some r → r = o i) :
    OnCourse id most o ⟨es.foldl Entry.onRecord (some record), es.foldl Entry.onOutcome outcome,
      .after a' h, js ++ es⟩ := by
  have nobody : ∀ {calls : Nat} (i : Nat) (job : Job), ([] : List Job)[i]? = some job →
      job.status = .processing ∧ job.attempts = calls + i + 1 := fun i job hi => by cases hi
  -- each move takes the job to the next place on its course; those that a refusal leads to cannot
  -- happen, and neither can those of a job that is not runnable, or has no attempt left
  cases m with
  | @claim job b clock run room =>
    cases on with
    | @claiming _ _ _ _ _ n round =>
      obtain ⟨rfl, -⟩ := fits
      have hcounted : (record.claimed clock).attempts = (n + 1 : Nat) := by
        rw [Job.claimed_attempts, round.counted]
        rfl
      exact .announcing (round.append [.written _] rfl hcounted nobody)
  | claimRefused | rest | giveUp | rescheduleRefused =>
    exact absurd List.mem_cons_self (accepted _ _ _)
  | notRunnable hnot =>
    obtain ⟨rfl, hrun⟩ := fits
    rw [hnot] at hrun
    cases hrun
  | countFull run hfull =>
    obtain ⟨rfl, -⟩ := fits
    have hleft := hc.left run
    have hmax := hc.max_le
    omega
  | handBack | wake | abandon => cases on
  | ringBack | ringOff => cases owns
  | announce =>
    cases on with
    | announcing round =>
      obtain ⟨rfl, hstatus⟩ := fits
      subst hid
      refine .calling (round.append [.published _, .called record] rfl round.counted ?_)
      intro i job hi
      obtain ⟨rfl, rfl⟩ : i = 0 ∧ job = record := by
        cases i with
        | zero => exact ⟨rfl, (Option.some.inj hi).symm⟩
        | succ i => cases hi
      exact ⟨hstatus, round.counted⟩
  | report clock r =>
    cases on with
    | @calling _ _ _ _ _ n round =>
      rw [Attempt.report_of_fits fits]
      obtain ⟨rfl, -⟩ := fits
      have hr : o n = r := by
        refine (reported n r ?_).symm
        rw [List.filterMap_append, List.getElem?_append_right (Nat.le_of_eq round.reported),
          round.reported, Nat.sub_self]
        rfl
      exact .recording _ 0 hr (round.append [.reported _ r] rfl round.counted nobody)
  | record r written tries =>
    cases on with
    | recording _ _ report round =>
      exact .concluding written tries report (round.append [.recorded _] rfl round.counted nobody)
  | conclude r written tries =>
    cases on with
    | concluding _ _ report round =>
      obtain ⟨⟨-, clock, rfl, -⟩, -⟩ := fits
      exact .publishing report (round.append [.written _] rfl round.counted nobody)
  | succeed value =>
    cases on with
    | @publishing _ _ _ _ _ n _ report round =>
      obtain ⟨rfl, clock, rfl, hstatus⟩ := fits
      subst hid
      have hends : Course.endsAt most o n = true := by
        unfold Course.endsAt
        rw [report, Bool.or_true]
      exact settled clock report hends hstatus
        (round.append [.published (Attempt.reportEvent record (.ok value))] rfl round.counted
          nobody)
  | retry why again =>
    cases on with
    | @publishing _ _ _ _ _ n _ report round =>
      obtain ⟨rfl, -⟩ := fits
      subst hid
      have hends := Course.endsAt_eq_not_shouldRetry report round.counted hc.le_max
      rw [round.allowed, again] at hends
      refine .rescheduling why report hends ?_
      rw [report]
      exact round.append [.published (Attempt.reportEvent record (.error why))] rfl round.counted
        nobody
  | fail why final =>
    cases on with
    | @publishing _ _ _ _ _ n _ report round =>
      obtain ⟨rfl, clock, rfl, hstatus⟩ := fits
      subst hid
      have hends := Course.endsAt_eq_not_shouldRetry report round.counted hc.le_max
      rw [round.allowed, final] at hends
      exact settled clock report hends hstatus
        (round.append [.published (Attempt.reportEvent record (.error why))] rfl round.counted
          nobody)
  | reschedule clock why may =>
    cases on with
    | rescheduling _ report next round =>
      obtain ⟨⟨rfl, -⟩, -⟩ := fits
      exact .announcingRetry why report next (round.append [.written _] rfl round.counted nobody)
  | notReschedulable why hnot =>
    obtain ⟨⟨rfl, -⟩, hstatus, -⟩ := fits
    rw [hstatus] at hnot
    cases hnot
  | announceRetry why =>
    cases on with
    | @announcingRetry _ _ _ _ _ n _ report next round =>
      subst hid
      refine .handingOff (Round.next ?_ next)
      rw [report]
      rw [report] at round
      exact round.append [.published _] rfl round.counted nobody
  | handOff added =>
    cases on with
    | handingOff round => exact .waiting (round.append [] rfl round.counted nobody)
  | breakOff draws undrawn =>
    cases on with
    | handingOff round => exact .broken (round.append [] rfl round.counted nobody)
  | nap due =>
    cases on with
    | handingOff round => exact .waiting (round.append [] rfl round.counted nobody)
  | stay now blocked =>
    have hafter : Post.after a .none = .attempted a := if_pos owns
    rw [hafter, List.append_nil]
    exact on

/-- An attempt does not store a job for the first time. -/
theorem inserted?_of_move {a a' : Attempt} {es : List Entry} {h : Attempt.Handover}
    (m : Attempt.Move a a' es h) : es.filterMap Entry.inserted? = [] := by
  cases m <;> rfl

/-- As long as the store refuses no write of a job, the job keeps to its course. -/
theorem Lived.onCourse {y : Life} (lived : Lived id y)
    (accepted : ∀ i call why, Entry.refused i call why ∉ y.entries)
    (reported : ∀ (i : Nat) r, (y.entries.filterMap Entry.reported?)[i]? = some r → r = o i) :
    y = Life.unborn ∨ ∃ job : Job, job.IsNew ∧ y.entries.filterMap Entry.inserted? = [job] ∧
      OnCourse id job.maxAttempts o y := by
  induction lived with
  | unborn => exact .inl rfl
  | step lived step ih =>
    right
    cases step with
    | insert job isNew hid =>
      refine ⟨job, isNew, rfl, .waiting (n := 0) ?_⟩
      obtain ⟨i, now, request, rfl, -⟩ := isNew
      refine ⟨rfl, rfl, fun i hi => absurd hi (Nat.not_lt_zero i), rfl, rfl, fun i job hi => ?_,
        rfl⟩
      cases hi
    | start job b runnable hid =>
      rcases ih accepted reported with hunborn | ⟨first, isNew, hinserted, on⟩
      · cases hunborn
      · refine ⟨first, isNew, hinserted, ?_⟩
        cases on with
        | waiting round => exact .claiming round
    | @move record outcome js a a' es hand move owns fits hid =>
      -- what had been reported before has still been reported
      have hbefore : ∀ (i : Nat) r, (js.filterMap Entry.reported?)[i]? = some r → r = o i := by
        intro i r hi
        refine reported i r ?_
        obtain ⟨hlt, -⟩ := List.getElem?_eq_some_iff.mp hi
        rw [List.filterMap_append, List.getElem?_append_left hlt]
        exact hi
      rcases ih (fun i call why hmem => accepted i call why (List.mem_append_left es hmem)) hbefore
        with hunborn | ⟨first, isNew, hinserted, on⟩
      · cases hunborn
      · refine ⟨first, isNew, ?_, ?_⟩
        · show (js ++ es).filterMap Entry.inserted? = [first]
          rw [List.filterMap_append, hinserted, inserted?_of_move move]
          rfl
        · exact on.move move owns fits hid (lived.sane.counted record rfl)
            (fun i call why hmem => accepted i call why (List.mem_append_right js hmem)) reported

/-! ## What is seen of a course -/

namespace Round

variable {request : JobRequest} {n : Nat} {record : Job} {js : List Entry} {attempts : Nat}
  {events : List Event} {calls reports : Nat}

theorem events_begin
    (h : Round id (max request.maxAttempts 1) o n record js attempts events calls reports)
    (part : events <+: Course.round id (o n)) :
    js.filterMap Entry.published? <+: Course.events id o (Course.last request o) := by
  rw [h.published]
  exact ((List.prefix_append_right_inj _).mpr part).trans
    (Course.events_mono (Course.le_last h.going))

/-- In the middle of an execution, not all events of the course have been published. -/
theorem events_short
    (h : Round id (max request.maxAttempts 1) o n record js attempts events calls reports)
    (short : events.length < 2) :
    js.filterMap Entry.published? ≠ Course.events id o (Course.last request o) := by
  intro hall
  have hle : (Course.rounds id o n ++ Course.round id (o n)).length ≤
      (Course.events id o (Course.last request o)).length :=
    (Course.events_mono (Course.le_last h.going)).length_le
  rw [← hall, h.published, List.length_append, List.length_append] at hle
  have hround : (Course.round id (o n)).length = 2 := rfl
  omega

/-- Before another execution, not all events of the course have been published. -/
theorem events_again
    (h : Round id (max request.maxAttempts 1) o n record js attempts (Course.round id (o n)) calls
      reports) {why : Failure} (report : o n = .error why)
    (next : Course.endsAt (max request.maxAttempts 1) o n = false) :
    js.filterMap Entry.published? ≠ Course.events id o (Course.last request o) := by
  intro hall
  have hgoing : ∀ i < n + 1, Course.endsAt (max request.maxAttempts 1) o i = false := by
    intro i hi
    rcases Nat.lt_succ_iff_lt_or_eq.mp hi with hlt | rfl
    · exact h.going i hlt
    · exact next
  have hle : (Course.rounds id o (n + 1) ++ Course.round id (o (n + 1))).length ≤
      (Course.events id o (Course.last request o)).length :=
    (Course.events_mono (Course.le_last hgoing)).length_le
  rw [← hall, h.published, Course.rounds_succ, report] at hle
  simp only [List.length_append, Course.again, List.length_singleton] at hle
  omega

end Round

namespace OnCourse

variable {request : JobRequest} {y : Life}

/-- The events published so far are a beginning of those of the course. -/
theorem events_begin (h : OnCourse id (max request.maxAttempts 1) o y) :
    y.entries.filterMap Entry.published? <+: Course.events id o (Course.last request o) := by
  cases h with
  | waiting round | claiming round | announcing round | handingOff round | broken round =>
    exact round.events_begin List.nil_prefix
  | calling round | recording _ _ _ round | concluding _ _ _ round | publishing _ round =>
    exact round.events_begin (List.prefix_append _ _)
  | rescheduling _ _ _ round | announcingRetry _ _ _ round | ended _ _ _ round =>
    exact round.events_begin List.prefix_rfl

/-- Every execution was given the record with its own number. -/
theorem seen (h : OnCourse id most o y) :
    ∀ (i : Nat) job, (y.entries.filterMap Entry.called?)[i]? = some job →
      job.status = .processing ∧ job.attempts = i + 1 := by
  cases h with
  | waiting round | claiming round | announcing round | handingOff round | broken round
  | calling round | recording _ _ _ round | concluding _ _ _ round | publishing _ round
  | rescheduling _ _ _ round | announcingRetry _ _ _ round | ended _ _ _ round => exact round.seen

/-- When all events of the course have been published, the job is at rest, and all is as the last
execution says. -/
theorem ended_of_events (h : OnCourse id (max request.maxAttempts 1) o y)
    (all : y.entries.filterMap Entry.published? = Course.events id o (Course.last request o)) :
    y.post = .free ∧ ∃ (record : Job) (clock : Instant), y.record = some record ∧
      record.attempts = Course.last request o + 1 ∧
      record.status = (Event.ofReport id (o (Course.last request o))).status ∧
      y.outcome = some (Attempt.outcomeOf record clock (o (Course.last request o))) := by
  cases h with
  | waiting round | claiming round | announcing round | handingOff round | broken round =>
    exact absurd all (round.events_short (Nat.zero_lt_succ 1))
  | calling round | recording _ _ _ round | concluding _ _ _ round | publishing _ round =>
    exact absurd all (round.events_short (Nat.lt_succ_self 1))
  | rescheduling _ report next round | announcingRetry _ report next round =>
    exact absurd all (round.events_again report next)
  | @ended record js n clock ends status round =>
    obtain rfl := Course.eq_last round.going ends
    exact ⟨rfl, record, clock, rfl, round.counted, status, rfl⟩

end OnCourse

end Life

/-- The life of a job that is at rest has come to its end. -/
theorem Life.Step.post_ne_free {id : JobId} {y y' : Life} (step : Step id y y') :
    y.post ≠ .free := by
  cases step <;> exact Post.noConfusion

namespace Plant

/-! ## The course of a job in a plant -/

/-- The events published for a job so far. -/
def events (p : Plant) (id : JobId) : List Event := (p.history id).filterMap Entry.published?

/-- The records with which the handler of a job has been called so far. -/
def calls (p : Plant) (id : JobId) : List Job := (p.history id).filterMap Entry.called?

/-- What the handler of a job has reported so far. -/
def reports (p : Plant) (id : JobId) : List (Except Failure Json) :=
  (p.history id).filterMap Entry.reported?

variable {p : Plant} {id : JobId}

/-- Nothing happens any more to a job that is at rest. -/
theorem Orderly.run_of_free (h : p.Orderly) (hfree : p.Keeps id .free) (actions : List Action) :
    (p.run actions).Keeps id .free ∧ (p.run actions).life id .free = p.life id .free := by
  induction actions generalizing p with
  | nil => exact ⟨hfree, rfl⟩
  | cons act actions ih =>
    obtain ⟨post, hpost, hlife | hstep⟩ := h.follows act hfree
    · obtain rfl : post = .free := congrArg Life.post hlife
      obtain ⟨hkeeps, hsame⟩ := ih (h.step act) hpost
      exact ⟨hkeeps, hsame.trans hlife⟩
    · exact absurd rfl hstep.post_ne_free

/-- Nobody executes the handler of a job that is at rest. -/
theorem not_executes_of_free (hfree : p.Keeps id .free) (i : Nat) : ¬p.Executes i id := by
  intro hexecutes
  obtain ⟨x, hx, hid⟩ := Option.bind_eq_some_iff.mp (holds_of_owns (owns_of_executes hexecutes))
  exact hfree.2.1 x (List.mem_of_getElem? hx) hid

/-- The retry cycle. A job has been accepted and the store has refused no write of it; `o` are the
outcomes of its executions, one after the other. Then its events are those of its course, in order,
and each execution is given the record with its own number. After the last event the record and the
outcome are as the last execution says, nothing of this changes any more, and the job is executed no
more, whatever happens. -/
theorem retry_cycle (settings : ServiceSettings) (actions : List Action) (id : JobId)
    (now : Instant) (request : JobRequest) (o : Nat → Except Failure Json)
    (inserted : .inserted (.pending id now request) ∈ ((new settings).run actions).journal)
    (accepted : ∀ call why, .refused id call why ∉ ((new settings).run actions).journal)
    (reported : ∀ (i : Nat) r, (((new settings).run actions).reports id)[i]? = some r → r = o i) :
    let p := (new settings).run actions
    let last := Course.last request o
    p.events id <+: Course.events id o last ∧
    (∀ (i : Nat) job, (p.calls id)[i]? = some job →
      job.status = .processing ∧ job.attempts = i + 1) ∧
    (p.events id = Course.events id o last →
      (∃ job clock, p.record? id = some job ∧ job.attempts = last + 1 ∧
        job.status = (Event.ofReport id (o last)).status ∧
        p.outcome? id = some (Attempt.outcomeOf job clock (o last))) ∧
      ∀ more, (p.run more).record? id = p.record? id ∧ (p.run more).outcome? id = p.outcome? id ∧
        (p.run more).calls id = p.calls id ∧ ∀ i, ¬(p.run more).Executes i id) := by
  intro p last
  have h : p.Orderly := orderly_run settings actions
  obtain ⟨post, hpost, lived⟩ := exists_lived settings actions id
  have hmem : ∀ {e : Entry}, e ∈ p.history id ↔ e ∈ p.journal ∧ e.jobId = id := by
    intro e
    unfold history
    rw [List.mem_filter, decide_eq_true_eq]
  have hinserted : .inserted (.pending id now request) ∈ p.history id := hmem.mpr ⟨inserted, rfl⟩
  have haccepted : ∀ i call why, Entry.refused i call why ∉ p.history id := by
    intro i call why he
    obtain ⟨hjournal, hid⟩ := hmem.mp he
    obtain rfl : i = id := hid
    exact accepted call why hjournal
  rcases lived.onCourse (o := o) haccepted reported with hunborn | ⟨job, -, hjob, on⟩
  · have hnone : p.history id = [] := congrArg Life.entries hunborn
    rw [hnone] at hinserted
    cases hinserted
  · -- the job that was accepted is the one whose course this is
    have hfirst : Job.pending id now request ∈ (p.history id).filterMap Entry.inserted? :=
      List.mem_filterMap.mpr ⟨_, hinserted, rfl⟩
    rw [show (p.history id).filterMap Entry.inserted? = [job] from hjob,
      List.mem_singleton] at hfirst
    subst hfirst
    refine ⟨on.events_begin, on.seen, fun all => ?_⟩
    obtain ⟨hfree, record, clock, hrecord, hattempts, hstatus, houtcome⟩ := on.ended_of_events all
    obtain rfl : post = .free := hfree
    refine ⟨⟨record, clock, hrecord, hattempts, hstatus, houtcome⟩, fun more => ?_⟩
    -- the job is in nobody's hands any more
    obtain ⟨hkeeps, hsame⟩ := h.run_of_free hpost more
    have hhistory : (p.run more).history id = p.history id := congrArg Life.entries hsame
    refine ⟨congrArg Life.record hsame, congrArg Life.outcome hsame, ?_, ?_⟩
    · unfold calls
      rw [hhistory]
    · exact not_executes_of_free hkeeps

/-- The failure of a delivery that takes too long. -/
def noAnswer : Failure := .ofKind .timeout "no answer"

/-- The first delivery of a mail takes too long, and every later one succeeds. -/
def mailOutcomes : Nat → Except Failure Json
  | 0 => .error noAnswer
  | _ + 1 => .ok .null

/-- A mail is enqueued that may be tried four times. The first attempt takes too long, and the
second one delivers the mail. -/
def mailActions : List Action :=
  let t : Tick := ⟨0, .epoch, .ofList [], false, false⟩
  [.enqueue .nil .epoch ⟨"mail", .null, 4⟩ (by decide)] ++ List.replicate 4 (.advance 0 t) ++
    [.hire "mail" .immediate] ++ List.replicate 8 (.advance 1 t) ++
    [.report 1 .epoch (mailOutcomes 0)] ++ List.replicate 16 (.advance 1 t) ++
    [.report 1 .epoch (mailOutcomes 1)] ++ List.replicate 3 (.advance 1 t)

/-- What happens to the mail. -/
def mailJournal : List Entry :=
  let waiting : Job := .pending .nil .epoch ⟨"mail", .null, 4⟩
  let first := waiting.claimed .epoch
  let failed := first.moved .failed .epoch
  let retrying := failed.moved .retrying .epoch
  let second := retrying.claimed .epoch
  [.inserted waiting] ++
    Attempt.execution first .epoch (mailOutcomes 0) ++
    [.written retrying, .published (.ofStatus .nil .retrying none (some noAnswer.message))] ++
    Attempt.execution second .epoch (mailOutcomes 1)

/-- The second execution of the mail is the last one: the failure of the first is transient. -/
theorem last_mailOutcomes : Course.last ⟨"mail", .null, 4⟩ mailOutcomes = 1 := by
  refine (Nat.find_eq_iff _).mpr ⟨rfl, fun i hi => ?_⟩
  obtain rfl : i = 0 := Nat.lt_one_iff.mp hi
  have htransient : noAnswer.isTransient = true := Failure.isTransient_ofKind .timeout "no answer"
  show ¬((((0 : Nat) : Int) + 1 == max 4 1) || !noAnswer.isTransient) = true
  rw [htransient]
  decide

/-- The mail is tried twice, and completed after its last event. -/
theorem retry_cycle_of_mail :
    ((new .standard).run mailActions).events .nil = Course.events .nil mailOutcomes 1 ∧
      ∃ job clock, ((new .standard).run mailActions).record? .nil = some job ∧
        job.attempts = 2 ∧ job.status = .completed ∧
        ((new .standard).run mailActions).outcome? .nil = some (.completed job.id .null clock) := by
  have hjournal : ((new .standard).run mailActions).journal = mailJournal := by rfl
  have inserted : .inserted (.pending .nil .epoch ⟨"mail", .null, 4⟩) ∈
      ((new .standard).run mailActions).journal := by
    rw [hjournal]
    exact List.mem_cons_self
  have accepted : ∀ call why,
      .refused .nil call why ∉ ((new .standard).run mailActions).journal := by
    intro call why hmem
    rw [hjournal] at hmem
    simp [mailJournal, Attempt.execution, Attempt.beginning, Attempt.ending] at hmem
  have reported : ∀ (i : Nat) r, (((new .standard).run mailActions).reports .nil)[i]? = some r →
      r = mailOutcomes i := by
    have hreports : ((new .standard).run mailActions).reports .nil =
        [mailOutcomes 0, mailOutcomes 1] := by
      rfl
    intro i r hi
    rw [hreports] at hi
    match i with
    | 0 | 1 => exact (Option.some.inj hi).symm
  obtain ⟨hbegin, -, hover⟩ := retry_cycle .standard mailActions .nil .epoch ⟨"mail", .null, 4⟩
    mailOutcomes inserted accepted reported
  rw [last_mailOutcomes] at hbegin hover
  have hlength : (((new .standard).run mailActions).events .nil).length = 5 := by decide +kernel
  have hevents := hbegin.eq_of_length hlength
  exact ⟨hevents, (hover hevents).1⟩

end Plant

end JobRunner
