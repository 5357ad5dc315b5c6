import JobRunner.Proofs.Journal

/-!
# The moves of an attempt

- `Attempt.entries`: what a step of an attempt does to its job, by what the store answers.
- `Attempt.Move`: what a step makes of the attempt itself, and how the job goes on.
- `Backoff.IsSteady`: a delay can always be drawn, so that no attempt breaks off.
- `Attempt.step_explained`: every step is a move, its entries say all that happens to the store and
  to the hub, and the lanes change only where the job is handed over.
-/

namespace JobRunner

/-- The store behind the queue of a service. -/
abbrev Service.store (s : Service) : Store := s.queue.backend.store

/-! ## Delays that can be drawn -/

/-- A delay can be drawn after every attempt, from every source. -/
def Backoff.IsSteady (b : Backoff) : Prop := ∀ attempts draws, b.delay attempts draws ≠ none

/-- Without jitter nothing is drawn. -/
theorem Backoff.isSteady_of_jitter_le {b : Backoff} (h : b.jitter ≤ 0) : b.IsSteady := by
  intro attempts draws
  unfold delay
  rw [if_pos (.inr h)]
  exact Option.some_ne_none _

/-- One to ten seconds, with a jitter that is no number. -/
def Backoff.erratic : Backoff := ⟨.ofSeconds 1, .ofSeconds 10, 0.0 / 0.0⟩

-- After the first attempt already, no delay can be drawn.
example : ¬Backoff.erratic.IsSteady := fun steady => steady 1 (.ofList []) rfl

namespace Attempt

/-- The rests between the writes of an outcome can always be drawn. -/
theorem exists_outcome_rest {tries : Nat} (left : tries + 1 < outcomeTries) (draws : Draws) :
    ∃ rest draws', outcomeBackoff.delay (tries + 1 : Nat) draws = some (rest, draws') := by
  have htries : tries < 3 := Nat.lt_of_succ_lt_succ left
  match tries, htries with
  | 0, _ | 1, _ | 2, _ => exact ⟨_, _, rfl⟩

/-! ## Entries of a step -/

/-- What the next step of an attempt does to its job. -/
def entries (a : Attempt) (s : Service) (clock : Instant) : List Entry :=
  let b := s.queue.backend
  match a.stage with
  | .claiming =>
    if a.job.status.isRunnable = true ∧ a.job.attempts ≠ Job.greatestCount then
      let job := a.job.claimed clock
      [.ofAnswer job.id .updateJob (.written job) (b.updateJob job).1]
    else []
  | .announcing => [.published (.ofStatus a.job.id .processing none none), .called a.job]
  | .recording _ outcome _ =>
    [.ofAnswer a.job.id .putResult (.recorded outcome) (b.putResult outcome).1]
  | .concluding _ _ _ => [.ofAnswer a.job.id .updateJob (.written a.job) (b.updateJob a.job).1]
  | .publishing report => [.published (reportEvent a.job report)]
  | .abandoning why => [.published (abandonEvent a.job why)]
  | .rescheduling _ =>
    if a.job.status.mayBecome .retrying = true then
      let job := a.job.moved .retrying clock
      [.ofAnswer job.id .updateJob (.written job) (b.updateJob job).1]
    else []
  | .announcingRetry why => [.published (.ofStatus a.job.id .retrying none (some why.message))]
  | _ => []

/-! ## Moves -/

/-- How a job leaves its attempt by a move, if it does. -/
inductive Handover where
  | none
  /-- It is put into its lane. -/
  | lane
  /-- A timer takes it. -/
  | timer (due : Nat)

/-- The timer that takes a job. -/
def Handover.timer? (job : Job) : Handover → Option RetryTimer
  | timer due => some ⟨job, due, .sleeping⟩
  | _ => Option.none

/-- The stages that write the outcome, and the calls they make. -/
inductive Writing (report : Except Failure Json) (o : Outcome) (tries : Nat) :
    AttemptStage → StoreCall → Prop
  | result : Writing report o tries (.recording report o tries) .putResult
  | status : Writing report o tries (.concluding report o tries) .updateJob

/-- A step of an attempt, or the end of its call: the attempt before and after, what happened to the
job, and how the job was handed over. -/
inductive Move : Attempt → Attempt → List Entry → Handover → Prop
  | claim {job b} (clock : Instant) (run : job.status.isRunnable = true)
      (room : job.attempts ≠ Job.greatestCount) :
      Move ⟨job, b, .claiming⟩ ⟨job.claimed clock, b, .announcing⟩
        [.written (job.claimed clock)] .none
  | claimRefused {job b} (clock : Instant) (why : StoreError) (run : job.status.isRunnable = true)
      (room : job.attempts ≠ Job.greatestCount) :
      Move ⟨job, b, .claiming⟩ ⟨job.claimed clock, b, .handingBack why⟩
        [.refused job.id .updateJob why] .none
  | notRunnable {job b} (h : job.status.isRunnable = false) :
      Move ⟨job, b, .claiming⟩
        ⟨job, b, .done (.error (.transition ⟨job.id, job.status, .processing⟩))⟩ [] .none
  | countFull {job b} (run : job.status.isRunnable = true)
      (h : job.attempts = Job.greatestCount) :
      Move ⟨job, b, .claiming⟩ ⟨job, b, .done (.error .counterOverflow)⟩ [] .none
  | handBack {job b} (why : StoreError) (added : Bool) :
      Move ⟨job, b, .handingBack why⟩
        ⟨job, b, if added then .ringingBack why else .done (.error (.store why))⟩ [] .lane
  | ringBack {job b} (why : StoreError) :
      Move ⟨job, b, .ringingBack why⟩ ⟨job, b, .done (.error (.store why))⟩ [] .none
  | announce {job b} :
      Move ⟨job, b, .announcing⟩ ⟨job, b, .calling⟩
        [.published (.ofStatus job.id .processing none none), .called job] .none
  | report {job b} (clock : Instant) (report : Except Failure Json) :
      Move ⟨job, b, .calling⟩ (Attempt.report ⟨job, b, .calling⟩ clock report)
        [.reported job.id report] .none
  | record {job b} (report : Except Failure Json) (o : Outcome) (tries : Nat) :
      Move ⟨job, b, .recording report o tries⟩ ⟨job, b, .concluding report o tries⟩
        [.recorded o] .none
  | conclude {job b} (report : Except Failure Json) (o : Outcome) (tries : Nat) :
      Move ⟨job, b, .concluding report o tries⟩ ⟨job, b, .publishing report⟩ [.written job] .none
  | rest {job b report o tries stage call} (writing : Writing report o tries stage call)
      (why : StoreError) (left : tries + 1 < outcomeTries) (due : Nat) :
      Move ⟨job, b, stage⟩ ⟨job, b, .resting report o (tries + 1) due⟩
        [.refused job.id call why] .none
  | giveUp {job b report o tries stage call} (writing : Writing report o tries stage call)
      (why : StoreError) (last : outcomeTries ≤ tries + 1) :
      Move ⟨job, b, stage⟩ ⟨job, b, .abandoning why⟩ [.refused job.id call why] .none
  | wake {job b} (report : Except Failure Json) (o : Outcome) (tries due : Nat) :
      Move ⟨job, b, .resting report o tries due⟩ ⟨job, b, .recording report o tries⟩ [] .none
  | succeed {job b} (value : Json) :
      Move ⟨job, b, .publishing (.ok value)⟩ ⟨job, b, .done (.ok .completed)⟩
        [.published (reportEvent job (.ok value))] .none
  | retry {job b} (why : Failure) (again : job.shouldRetry why = true) :
      Move ⟨job, b, .publishing (.error why)⟩ ⟨job, b, .rescheduling why⟩
        [.published (reportEvent job (.error why))] .none
  | fail {job b} (why : Failure) (final : job.shouldRetry why = false) :
      Move ⟨job, b, .publishing (.error why)⟩ ⟨job, b, .done (.ok .failed)⟩
        [.published (reportEvent job (.error why))] .none
  | abandon {job b} (why : StoreError) :
      Move ⟨job, b, .abandoning why⟩ ⟨job, b, .done (.error (.store why))⟩
        [.published (abandonEvent job why)] .none
  | reschedule {job b} (clock : Instant) (why : Failure)
      (may : job.status.mayBecome .retrying = true) :
      Move ⟨job, b, .rescheduling why⟩ ⟨job.moved .retrying clock, b, .announcingRetry why⟩
        [.written (job.moved .retrying clock)] .none
  | rescheduleRefused {job b} (clock : Instant) (why : Failure) (e : StoreError)
      (may : job.status.mayBecome .retrying = true) :
      Move ⟨job, b, .rescheduling why⟩ ⟨job.moved .retrying clock, b, .done (.error (.store e))⟩
        [.refused job.id .updateJob e] .none
  | notReschedulable {job b} (why : Failure) (h : job.status.mayBecome .retrying = false) :
      Move ⟨job, b, .rescheduling why⟩
        ⟨job, b, .done (.error (.transition ⟨job.id, job.status, .retrying⟩))⟩ [] .none
  | announceRetry {job b} (why : Failure) :
      Move ⟨job, b, .announcingRetry why⟩ ⟨job, b, .handingOff⟩
        [.published (.ofStatus job.id .retrying none (some why.message))] .none
  | handOff {job b} (added : Bool) :
      Move ⟨job, b, .handingOff⟩
        ⟨job, b, if added then .ringingOff else .done (.ok .retrying)⟩ [] .lane
  | nap {job b} (due : Nat) :
      Move ⟨job, b, .handingOff⟩ ⟨job, b, .done (.ok .retrying)⟩ [] (.timer due)
  | breakOff {job b} (draws : Draws) (undrawn : b.delay job.attempts draws = none) :
      Move ⟨job, b, .handingOff⟩ ⟨job, b, .broken⟩ [] .none
  | ringOff {job b} : Move ⟨job, b, .ringingOff⟩ ⟨job, b, .done (.ok .retrying)⟩ [] .none
  | stay {a} (now : Nat) (blocked : a.isBlocked now = true) : Move a a [] .none

/-- What a step does, apart from the attempt: entries say all about the store and the hub, the lanes
stay sound and gain at most the job, and a timer runs only for the job. -/
structure Explains (a : Attempt) (s : Service) (r : Step) (es : List Entry) (h : Handover) :
    Prop where
  move : Move a r.1 es h
  store : r.2.1.store = es.foldl Entry.onStore s.store
  hub : r.2.1.hub = es.foldl Entry.onHub s.hub
  sound : r.2.1.queue.Sound
  waits : ∀ t id, r.2.1.queue.Waits t id ↔
    s.queue.Waits t id ∨ (h = .lane ∧ t = a.job.jobType ∧ id = a.job.id)
  timer : r.2.2 = h.timer? a.job

namespace Explains

variable {a a' : Attempt} {s : Service} {es : List Entry}

/-- A step that does nothing but a call to the store. -/
private theorem ofBackend {b : Backend} (hs : s.queue.Sound) (move : Move a a' es .none)
    (store : b.store = es.foldl Entry.onStore s.store) (hub : s.hub = es.foldl Entry.onHub s.hub) :
    Explains a s (a', s.setBackend b, none) es .none where
  move := move
  store := store
  hub := hub
  sound := hs.backend b
  waits t id := by
    show s.queue.Waits t id ↔ _
    simp
  timer := rfl

/-- A step that changes nothing but the attempt. -/
private theorem ofStill (hs : s.queue.Sound) (move : Move a a' [] .none) :
    Explains a s (a', s, none) [] .none where
  move := move
  store := rfl
  hub := rfl
  sound := hs
  waits t id := by simp
  timer := rfl

/-- A step that publishes an event. -/
private theorem ofPublish {e : Event} (hs : s.queue.Sound) (move : Move a a' es .none)
    (store : s.store = es.foldl Entry.onStore s.store)
    (hub : (s.hub.publish e).2 = es.foldl Entry.onHub s.hub) :
    Explains a s (a', s.publish e, none) es .none where
  move := move
  store := store
  hub := hub
  sound := hs
  waits t id := by
    show s.queue.Waits t id ↔ _
    simp
  timer := rfl

/-- A step that rings the bell of a lane. -/
private theorem ofRing (hs : s.queue.Sound) (t : String) (move : Move a a' [] .none) :
    Explains a s (a', { s with queue := s.queue.ring t }, none) [] .none where
  move := move
  store := rfl
  hub := rfl
  sound := hs.ring t
  waits t' id := by
    show (s.queue.ring t).Waits t' id ↔ _
    simp
  timer := rfl

/-- A step that puts the job into its lane. -/
private theorem ofPush (hs : s.queue.Sound) (move : Move a a' [] .lane) :
    Explains a s (a', { s with queue := (s.queue.push a.job.jobType a.job.id).2 }, none) [] .lane
    where
  move := move
  store := rfl
  hub := rfl
  sound := hs.push a.job.jobType a.job.id
  waits t' id := by
    show (s.queue.push a.job.jobType a.job.id).2.Waits t' id ↔ _
    rw [Queue.waits_push hs]
    simp
  timer := rfl

end Explains

variable {s : Service} {job : Job} {b : Backoff}

/-! ## Writes of the job's own record -/

theorem claim_eq (s : Service) (b : Backoff) (clock : Instant)
    (run : job.status.isRunnable = true) (room : job.attempts ≠ Job.greatestCount) :
    claim ⟨job, b, .claiming⟩ s clock =
      match s.queue.backend.updateJob (job.claimed clock) with
      | (.error why, b') => (⟨job.claimed clock, b, .handingBack why⟩, s.setBackend b')
      | (.ok (), b') => (⟨job.claimed clock, b, .announcing⟩, s.setBackend b') := by
  unfold claim
  rw [Job.advance_of_mayBecome clock (by rw [Status.mayBecome_processing, run])]
  exact if_neg room

theorem reschedule_eq (s : Service) (b : Backoff) (clock : Instant) (why : Failure)
    (may : job.status.mayBecome .retrying = true) :
    reschedule ⟨job, b, .rescheduling why⟩ s clock why =
      match s.queue.backend.updateJob (job.moved .retrying clock) with
      | (.error e, b') =>
        (⟨job.moved .retrying clock, b, .done (.error (.store e))⟩, s.setBackend b')
      | (.ok (), b') =>
        (⟨job.moved .retrying clock, b, .announcingRetry why⟩, s.setBackend b') := by
  unfold reschedule
  rw [Job.advance_of_mayBecome clock may]
  rfl

private theorem claiming_explained (hs : s.queue.Sound) (now : Nat) (clock : Instant)
    (draws : Draws) :
    ∃ h, Explains ⟨job, b, .claiming⟩ s (step ⟨job, b, .claiming⟩ s now clock draws)
      (entries ⟨job, b, .claiming⟩ s clock) h := by
  refine ⟨.none, ?_⟩
  simp only [step, entries]
  by_cases run : job.status.isRunnable = true
  · by_cases room : job.attempts = Job.greatestCount
    · have hclaim : claim ⟨job, b, .claiming⟩ s clock =
          (⟨job, b, .done (.error .counterOverflow)⟩, s) := by
        unfold claim
        rw [Job.advance_of_mayBecome clock (by rw [Status.mayBecome_processing, run])]
        exact if_pos room
      rw [hclaim, if_neg (fun h => h.2 room)]
      exact .ofStill hs (.countFull run room)
    · rw [claim_eq s b clock run room, if_pos ⟨run, room⟩]
      rcases hu : s.queue.backend.updateJob (job.claimed clock) with ⟨why | _, b'⟩
      · exact .ofBackend hs (.claimRefused clock why run room) (Backend.call_error hu) rfl
      · exact .ofBackend hs (.claim clock run room) (Backend.updateJob_ok hu).2 rfl
  · have hrun : job.status.isRunnable = false := Bool.eq_false_iff.mpr run
    have hclaim : claim ⟨job, b, .claiming⟩ s clock =
        (⟨job, b, .done (.error (.transition ⟨job.id, job.status, .processing⟩))⟩, s) := by
      unfold claim
      rw [Job.advance_of_not_mayBecome clock (by rw [Status.mayBecome_processing, hrun])]
      rfl
    rw [hclaim, if_neg (fun h => run h.1)]
    exact .ofStill hs (.notRunnable hrun)

private theorem rescheduling_explained (hs : s.queue.Sound) (why : Failure) (now : Nat)
    (clock : Instant) (draws : Draws) :
    ∃ h, Explains ⟨job, b, .rescheduling why⟩ s
      (step ⟨job, b, .rescheduling why⟩ s now clock draws)
      (entries ⟨job, b, .rescheduling why⟩ s clock) h := by
  refine ⟨.none, ?_⟩
  simp only [step, entries]
  by_cases may : job.status.mayBecome .retrying = true
  · rw [reschedule_eq s b clock why may, if_pos may]
    rcases hu : s.queue.backend.updateJob (job.moved .retrying clock) with ⟨e | _, b'⟩
    · exact .ofBackend hs (.rescheduleRefused clock why e may) (Backend.call_error hu) rfl
    · exact .ofBackend hs (.reschedule clock why may) (Backend.updateJob_ok hu).2 rfl
  · have hmay : job.status.mayBecome .retrying = false := Bool.eq_false_iff.mpr may
    have hreschedule : reschedule ⟨job, b, .rescheduling why⟩ s clock why =
        (⟨job, b, .done (.error (.transition ⟨job.id, job.status, .retrying⟩))⟩, s) := by
      unfold reschedule
      rw [Job.advance_of_not_mayBecome clock hmay]
      rfl
    rw [hreschedule, if_neg may]
    exact .ofStill hs (.notReschedulable why hmay)

/-! ## Writes of the outcome -/

/-- A refused write of the outcome leads to a rest, or to the end of the attempt. -/
private theorem retryWrite_explained (hs : s.queue.Sound) {stage : AttemptStage}
    {report : Except Failure Json} {o : Outcome} {tries : Nat} {call : StoreCall}
    (writing : Writing report o tries stage call) (why : StoreError) (now : Nat) (draws : Draws)
    {b' : Backend} (same : b'.store = s.store) :
    Explains ⟨job, b, stage⟩ s
      (retryWrite ⟨job, b, stage⟩ now draws report o tries why, s.setBackend b', none)
      [.refused job.id call why] .none := by
  refine .ofBackend hs ?_ same rfl
  simp only [retryWrite]
  by_cases left : tries + 1 < outcomeTries
  · obtain ⟨rest, draws', hrest⟩ := exists_outcome_rest left draws
    rw [if_pos left, hrest]
    exact .rest writing why left _
  · rw [if_neg left]
    exact .giveUp writing why (Nat.le_of_not_lt left)

private theorem recording_explained (hs : s.queue.Sound) (report : Except Failure Json)
    (o : Outcome) (tries now : Nat) (clock : Instant) (draws : Draws) :
    ∃ h, Explains ⟨job, b, .recording report o tries⟩ s
      (step ⟨job, b, .recording report o tries⟩ s now clock draws)
      (entries ⟨job, b, .recording report o tries⟩ s clock) h := by
  refine ⟨.none, ?_⟩
  simp only [step, entries]
  rcases hu : s.queue.backend.putResult o with ⟨why | _, b'⟩
  · exact retryWrite_explained hs .result why now draws (Backend.call_error hu)
  · exact .ofBackend hs (.record report o tries) (Backend.putResult_ok hu) rfl

private theorem concluding_explained (hs : s.queue.Sound) (report : Except Failure Json)
    (o : Outcome) (tries now : Nat) (clock : Instant) (draws : Draws) :
    ∃ h, Explains ⟨job, b, .concluding report o tries⟩ s
      (step ⟨job, b, .concluding report o tries⟩ s now clock draws)
      (entries ⟨job, b, .concluding report o tries⟩ s clock) h := by
  refine ⟨.none, ?_⟩
  simp only [step, entries]
  rcases hu : s.queue.backend.updateJob job with ⟨why | _, b'⟩
  · exact retryWrite_explained hs .status why now draws (Backend.call_error hu)
  · exact .ofBackend hs (.conclude report o tries) (Backend.updateJob_ok hu).2 rfl

/-! ## The other steps -/

private theorem handingOff_explained (hs : s.queue.Sound) (now : Nat) (clock : Instant)
    (draws : Draws) :
    ∃ h, Explains ⟨job, b, .handingOff⟩ s (step ⟨job, b, .handingOff⟩ s now clock draws)
      (entries ⟨job, b, .handingOff⟩ s clock) h := by
  simp only [step, entries, handOff]
  split
  · next hnone => exact ⟨.none, .ofStill hs (.breakOff draws hnone)⟩
  · rcases hp : s.queue.push job.jobType job.id with ⟨added, queue⟩
    refine ⟨.lane, ?_⟩
    have hmove := Explains.ofPush (a := ⟨job, b, .handingOff⟩) hs (.handOff added)
    rw [hp] at hmove
    cases added with
    | true => exact hmove
    | false => exact hmove
  · exact ⟨.timer _, .nap _, rfl, rfl, hs, fun t id => by simp, rfl⟩

/-- Every step of an attempt is a move, and its entries say all else that it does. -/
theorem step_explained (hs : s.queue.Sound) (a : Attempt) (now : Nat) (clock : Instant)
    (draws : Draws) : ∃ h, Explains a s (a.step s now clock draws) (a.entries s clock) h := by
  obtain ⟨job, b, stage⟩ := a
  -- one move for each stage; those that write are explained above
  cases stage with
  | claiming => exact claiming_explained hs now clock draws
  | handingBack why =>
    rcases hp : s.queue.push job.jobType job.id with ⟨added, queue⟩
    refine ⟨.lane, ?_⟩
    have hmove := Explains.ofPush (a := ⟨job, b, .handingBack why⟩) hs (.handBack why added)
    simp only [step, entries, hp] at hmove ⊢
    cases added with
    | true => exact hmove
    | false => exact hmove
  | ringingBack why => exact ⟨.none, .ofRing hs job.jobType (.ringBack why)⟩
  | announcing => exact ⟨.none, .ofPublish hs .announce rfl rfl⟩
  | calling => exact ⟨.none, .ofStill hs (.stay now rfl)⟩
  | recording report o tries => exact recording_explained hs report o tries now clock draws
  | concluding report o tries => exact concluding_explained hs report o tries now clock draws
  | resting report o tries due =>
    refine ⟨.none, ?_⟩
    simp only [step, entries]
    by_cases hdue : due ≤ now
    · rw [if_pos hdue]
      exact .ofStill hs (.wake report o tries due)
    · rw [if_neg hdue]
      exact .ofStill hs (.stay now (decide_eq_true (Nat.lt_of_not_le hdue)))
  | publishing report =>
    refine ⟨.none, ?_⟩
    cases report with
    | ok value => exact .ofPublish hs (.succeed value) rfl rfl
    | error why =>
      simp only [step, entries]
      by_cases again : job.shouldRetry why = true
      · rw [if_pos again]
        exact .ofPublish hs (.retry why again) rfl rfl
      · rw [if_neg again]
        exact .ofPublish hs (.fail why (Bool.eq_false_iff.mpr again)) rfl rfl
  | abandoning why => exact ⟨.none, .ofPublish hs (.abandon why) rfl rfl⟩
  | rescheduling why => exact rescheduling_explained hs why now clock draws
  | announcingRetry why => exact ⟨.none, .ofPublish hs (.announceRetry why) rfl rfl⟩
  | handingOff => exact handingOff_explained hs now clock draws
  | ringingOff => exact ⟨.none, .ofRing hs job.jobType .ringOff⟩
  | broken => exact ⟨.none, .ofStill hs (.stay now rfl)⟩
  | done answer => exact ⟨.none, .ofStill hs (.stay now rfl)⟩

end Attempt

end JobRunner
