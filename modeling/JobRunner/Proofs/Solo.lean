import JobRunner.Proofs.Plant
import JobRunner.Proofs.Tally

/-!
# An attempt from its beginning to its end

- `Attempt.measure`: how many moves an attempt has left at most.
- `Solo`: an attempt with the service it works on, and what has happened so far.
- `Solo.run`: the attempt goes on alone, and rests no longer than it has to.
- `Solo.run_accounts`: events match writes, whatever the handler reports and whichever store calls
  fail.
-/

namespace JobRunner

namespace Attempt

/-! ## The end of an attempt -/

/-- How many moves an attempt has left at most. -/
def measure (a : Attempt) : Nat :=
  match a.stage with
  | .claiming => 22
  | .announcing => 21
  | .calling => 20
  | .resting _ _ tries _ => 8 + 3 * (outcomeTries - tries)
  | .recording _ _ tries => 7 + 3 * (outcomeTries - tries)
  | .concluding _ _ tries => 6 + 3 * (outcomeTries - tries)
  | .publishing _ => 5
  | .rescheduling _ => 4
  | .announcingRetry _ => 3
  | .handingBack _ | .handingOff => 2
  | .abandoning _ | .ringingBack _ | .ringingOff => 1
  | .broken | .done _ => 0

theorem isOver_of_measure {a : Attempt} (h : a.measure = 0) : a.isOver = true := by
  obtain ⟨job, b, stage⟩ := a
  cases stage with
  | broken | done => rfl
  | resting | recording | concluding =>
    simp only [measure] at h
    omega
  | _ => cases h

/-- A move that leads to another stage brings the attempt closer to its end. -/
theorem Move.measure_lt {a a' : Attempt} {es : List Entry} {h : Handover} (m : Move a a' es h)
    (onward : a'.stage ≠ a.stage) : a'.measure < a.measure := by
  cases m with
  | handBack why added | handOff added => cases added <;> simp [measure]
  | report clock r =>
    simp only [Attempt.report]
    split <;> simp [measure, finish, outcomeTries]
  | rest writing why left due =>
    unfold outcomeTries at left
    cases writing <;> (simp only [measure, outcomeTries]; omega)
  | giveUp writing => cases writing <;> (simp only [measure]; omega)
  | record | conclude | wake =>
    simp only [measure]
    omega
  | stay => exact absurd rfl onward
  | _ => simp [measure]

/-- An attempt that is not blocked leaves its stage. -/
theorem stage_step_ne {a : Attempt} {now : Nat} (awake : a.isBlocked now = false) (s : Service)
    (clock : Instant) (draws : Draws) : (a.step s now clock draws).1.stage ≠ a.stage := by
  obtain ⟨job, b, stage⟩ := a
  cases stage with
  | claiming =>
    simp only [step, claim]
    split
    · simp [finish]
    · split
      · simp [finish]
      · split <;> simp
  | handingBack why =>
    simp only [step]
    split <;> simp [finish]
  -- none of these goes on by itself
  | calling | broken | done => cases awake
  | recording report o tries =>
    simp only [step]
    split
    · simp only [retryWrite]
      repeat' split
      all_goals simp
    · simp
  | concluding report o tries =>
    simp only [step]
    split
    · simp only [retryWrite]
      repeat' split
      all_goals simp
    · simp
  | resting report o tries due =>
    -- the pause is over
    have hdue : due ≤ now := Nat.le_of_not_lt (of_decide_eq_false awake)
    simp [step, if_pos hdue]
  | publishing report =>
    cases report with
    | ok value => simp [step, finish]
    | error why =>
      simp only [step]
      split <;> simp [finish]
  | rescheduling why =>
    simp only [step, reschedule]
    split
    · simp [finish]
    · split <;> simp [finish]
  | handingOff =>
    simp only [step, handOff]
    split
    · simp
    · split <;> simp [finish]
    · simp [finish]
  | ringingBack | announcing | abandoning | announcingRetry | ringingOff => simp [step, finish]

end Attempt

/-! ## An attempt alone -/

/-- An attempt with the service it works on, and what has happened so far. -/
structure Solo where
  attempt : Attempt
  service : Service
  entries : List Entry

namespace Solo

/-- An attempt of a job as it was handed out. -/
def start (job : Job) (b : Backoff) (s : Service) : Solo := ⟨.new job b, s, []⟩

/-- What has happened so far, counted. -/
def tally (x : Solo) : Tally := .of x.entries

/-- The attempt goes on; if it waits for its handler, that reports `r`, and if it rests, it does so
until that is due at least. -/
def step (r : Except Failure Json) (x : Solo) (t : Tick) : Solo :=
  if x.attempt.isCalling then
    ⟨x.attempt.report t.clock r, x.service, x.entries ++ [.reported x.attempt.job.id r]⟩
  else
    let now := max t.now (x.attempt.deadline?.getD 0)
    let (a, s, _) := x.attempt.step x.service now t.clock t.draws
    ⟨a, s, x.entries ++ x.attempt.entries x.service t.clock⟩

/-- The attempt goes on for some steps. -/
def run (r : Except Failure Json) (x : Solo) (ticks : List Tick) : Solo := ticks.foldl (step r) x

variable {x : Solo} {r : Except Failure Json}

theorem step_of_calling (h : x.attempt.isCalling = true) (t : Tick) :
    x.step r t =
      ⟨x.attempt.report t.clock r, x.service, x.entries ++ [.reported x.attempt.job.id r]⟩ :=
  if_pos h

theorem step_of_not_calling (h : x.attempt.isCalling = false) (t : Tick) :
    ∃ now, x.attempt.deadline?.getD 0 ≤ now ∧ x.step r t =
      ⟨(x.attempt.step x.service now t.clock t.draws).1,
        (x.attempt.step x.service now t.clock t.draws).2.1,
        x.entries ++ x.attempt.entries x.service t.clock⟩ := by
  refine ⟨max t.now (x.attempt.deadline?.getD 0), Nat.le_max_right _ _, ?_⟩
  unfold step
  rw [if_neg (Bool.eq_false_iff.mp h)]

/-- An attempt that is not over leaves its stage. -/
theorem step_onward (h : x.attempt.isOver = false) (t : Tick) :
    (x.step r t).attempt.stage ≠ x.attempt.stage := by
  obtain ⟨⟨job, b, stage⟩, s, es⟩ := x
  by_cases hcalling : (⟨job, b, stage⟩ : Attempt).isCalling = true
  · rw [step_of_calling hcalling]
    cases stage with
    | calling =>
      simp only [Attempt.report]
      split <;> simp [Attempt.finish]
    | _ => cases hcalling
  · obtain ⟨now, hnow, hstep⟩ := step_of_not_calling (x := ⟨⟨job, b, stage⟩, s, es⟩) (r := r)
      (Bool.eq_false_iff.mpr hcalling) t
    rw [hstep]
    refine Attempt.stage_step_ne ?_ s t.clock t.draws
    cases stage with
    | calling => exact absurd rfl hcalling
    | broken | done => cases h
    | resting report o tries due => exact decide_eq_false (Nat.not_lt.mpr hnow)
    | _ => rfl

/-- What an attempt of `job` with the delays `b` that has begun on the service `s` keeps true. -/
structure Keeps (job : Job) (b : Backoff) (s : Service) (x : Solo) : Prop where
  sound : x.service.queue.Sound
  store : x.service.store = x.entries.foldl Entry.onStore s.store
  hub : x.service.hub = x.entries.foldl Entry.onHub s.hub
  id : x.attempt.job.id = job.id
  jobType : x.attempt.job.jobType = job.jobType
  backoff : x.attempt.backoff = b
  stands : ∃ record, x.service.store.job? job.id = some record ∧
    (x.attempt.owns = true → x.attempt.Fits record (x.service.store.outcome? job.id)) ∧
    Attempt.Stands job (x.service.queue.Waits job.jobType job.id) x.attempt record x.tally

variable {job : Job} {b : Backoff} {s : Service}

/-- Every step is a move of the attempt, and its entries say what it does to the store and the hub.
-/
theorem step_explained (hs : x.service.queue.Sound) (t : Tick) :
    ∃ (es : List Entry) (h : Attempt.Handover),
      Attempt.Move x.attempt (x.step r t).attempt es h ∧
      (x.step r t).entries = x.entries ++ es ∧
      (x.step r t).service.store = es.foldl Entry.onStore x.service.store ∧
      (x.step r t).service.hub = es.foldl Entry.onHub x.service.hub ∧
      (x.step r t).service.queue.Sound ∧
      ∀ t' id, (x.step r t).service.queue.Waits t' id ↔ x.service.queue.Waits t' id ∨
        (h = .lane ∧ t' = x.attempt.job.jobType ∧ id = x.attempt.job.id) := by
  obtain ⟨⟨job, b, stage⟩, s, es⟩ := x
  by_cases hcalling : (⟨job, b, stage⟩ : Attempt).isCalling = true
  · rw [step_of_calling hcalling]
    cases stage with
    | calling =>
      exact ⟨[.reported job.id r], .none, .report t.clock r, rfl, rfl, rfl, hs,
        fun t' id => by simp⟩
    | _ => cases hcalling
  · obtain ⟨now, -, hstep⟩ := step_of_not_calling (x := ⟨⟨job, b, stage⟩, s, es⟩) (r := r)
      (Bool.eq_false_iff.mpr hcalling) t
    obtain ⟨h, explained⟩ := Attempt.step_explained hs ⟨job, b, stage⟩ now t.clock t.draws
    rw [hstep]
    exact ⟨_, h, explained.move, rfl, explained.store, explained.hub, explained.sound,
      explained.waits⟩

/-- What holds of an attempt holds after its next step. -/
theorem Keeps.step (h : x.Keeps job b s) (runnable : job.status.isRunnable = true)
    (room : job.attempts < Job.greatestCount) (t : Tick) : (x.step r t).Keeps job b s := by
  obtain ⟨es, hand, move, hentries, hstore, hhub, hsound, hwaits⟩ :=
    step_explained (r := r) h.sound t
  obtain ⟨record, hrecord, hfits, hstands⟩ := h.stands
  have hid : (x.step r t).attempt.job.id = job.id := move.job_kept.1.trans h.id
  -- an attempt that has given its job away fits whatever is stored
  have hfitsAlways : x.attempt.Fits record (x.service.store.outcome? job.id) := by
    by_cases howns : x.attempt.owns = true
    · exact hfits howns
    · exact Attempt.fits_of_not_owns (Bool.eq_false_iff.mpr howns) _ _
  have hes : ∀ e ∈ es, e.jobId = job.id :=
    fun e he => (move.entry_jobId hfitsAlways e he).trans h.id
  obtain ⟨record', hrecord', hstands'⟩ := move.stands hfits hstands runnable room
    (fun hlane => (hwaits _ _).mpr (.inr ⟨hlane, h.jobType.symm, h.id.symm⟩))
    (fun hold => (hwaits _ _).mpr (.inl hold))
  obtain ⟨record'', hrecord'', hfits'⟩ := move.fits hfitsAlways
  rw [hrecord'] at hrecord''
  cases hrecord''
  refine ⟨hsound, ?_, ?_, hid, move.job_kept.2.trans h.jobType, move.backoff_kept.trans h.backoff,
    record', ?_, ?_, ?_⟩
  · rw [hentries, List.foldl_append, hstore, h.store]
  · rw [hentries, List.foldl_append, hhub, h.hub]
  · rw [hstore, Entry.job?_foldl_onStore es _ job.id hes, hrecord, hrecord']
  · rw [hstore, Entry.outcome?_foldl_onStore es _ job.id hes]
    exact hfits'
  · unfold tally
    rw [hentries, Tally.of_append]
    exact hstands'

theorem Keeps.run (h : x.Keeps job b s) (runnable : job.status.isRunnable = true)
    (room : job.attempts < Job.greatestCount) (ticks : List Tick) :
    (x.run r ticks).Keeps job b s := by
  induction ticks generalizing x with
  | nil => exact h
  | cons t ticks ih => exact ih (h.step runnable room t)

/-- An attempt that has just begun. -/
theorem keeps_start (hs : s.queue.Sound) (stored : s.store.job? job.id = some job)
    (runnable : job.status.isRunnable = true) (b : Backoff) : (start job b s).Keeps job b s :=
  ⟨hs, rfl, rfl, rfl, rfl, rfl, job, stored, fun _ => ⟨rfl, runnable⟩, .claiming⟩

/-- An attempt is over after as many steps as its measure says. -/
theorem isOver_run (hs : x.service.queue.Sound) (ticks : List Tick)
    (enough : x.attempt.measure ≤ ticks.length) : (x.run r ticks).attempt.isOver = true := by
  -- on the ticks: each takes something off the measure, unless the attempt is over already
  induction ticks generalizing x with
  | nil => exact Attempt.isOver_of_measure (Nat.le_zero.mp enough)
  | cons t ticks ih =>
    obtain ⟨es, hand, move, -, -, -, hsound, -⟩ := step_explained (r := r) hs t
    refine ih hsound ?_
    have hlength : (t :: ticks).length = ticks.length + 1 := rfl
    cases hover : x.attempt.isOver with
    | false =>
      have hless := move.measure_lt (step_onward hover t)
      omega
    | true =>
      obtain ⟨⟨job, b, stage⟩, s, entries⟩ := x
      cases stage with
      | broken | done => exact Nat.zero_le _
      | _ => cases hover

/-- An attempt that is over goes no further. -/
theorem step_of_isOver (h : x.attempt.isOver = true) (t : Tick) : x.step r t = x := by
  obtain ⟨⟨job, b, stage⟩, s, entries⟩ := x
  cases stage with
  | broken | done => simp [step, Attempt.isCalling, Attempt.step, Attempt.entries]
  | _ => cases h

theorem run_of_isOver (h : x.attempt.isOver = true) (ticks : List Tick) : x.run r ticks = x := by
  induction ticks with
  | nil => rfl
  | cons t ticks ih =>
    show (x.step r t).run r ticks = x
    rw [step_of_isOver h, ih]

/-- An attempt of a job that is not runnable ends at once. -/
theorem run_of_not_runnable (hnot : job.status.isRunnable = false) (b : Backoff) (s : Service)
    (ticks : List Tick) :
    (start job b s).run r ticks = start job b s ∨ (start job b s).run r ticks =
      ⟨⟨job, b, .done (.error (.transition ⟨job.id, job.status, .processing⟩))⟩, s, []⟩ := by
  cases ticks with
  | nil => exact .inl rfl
  | cons t ticks =>
    right
    have hmay : job.status.mayBecome .processing = false := by
      rw [Status.mayBecome_processing, hnot]
    have hfirst : (start job b s).step r t =
        ⟨⟨job, b, .done (.error (.transition ⟨job.id, job.status, .processing⟩))⟩, s, []⟩ := by
      simp [step, start, Attempt.new, Attempt.isCalling, Attempt.step, Attempt.claim,
        Job.advance_of_not_mayBecome t.clock hmay, Attempt.finish, Attempt.entries, hnot]
    show ((start job b s).step r t).run r ticks = _
    rw [hfirst]
    exact run_of_isOver rfl ticks

/-! ## What an attempt accounts for -/

/-- Events match writes, for every report of the handler and every pattern of refused writes: an
attempt of a stored job that is not runnable does nothing, and one of a runnable job publishes what
it has written, in order, and accounts for all of it in its answer. Twenty-two steps are enough.
Only where a delay cannot be drawn, the attempt breaks off instead of answering; then too it has
published what it has written, retrying at last. -/
theorem run_accounts (s : Service) (hs : s.queue.Sound) (job : Job)
    (stored : s.store.job? job.id = some job) (room : job.attempts < Job.greatestCount)
    (b : Backoff) (r : Except Failure Json) (ticks : List Tick) :
    let x := (start job b s).run r ticks
    (job.status.isRunnable = false → x.service = s ∧ x.entries = [] ∧ (22 ≤ ticks.length →
      x.attempt.answer? = some (.error (.transition ⟨job.id, job.status, .processing⟩)))) ∧
    (job.status.isRunnable = true →
      x.service.store = x.entries.foldl Entry.onStore s.store ∧
      x.service.hub = x.entries.foldl Entry.onHub s.hub ∧
      x.tally.InOrder x.attempt.answer? ∧ (22 ≤ ticks.length →
        (∃ answer, x.attempt.answer? = some answer ∧
          x.tally.Accounts job (x.service.store.job? job.id)
            (x.service.queue.Waits job.jobType job.id) answer) ∨
        (x.attempt.isBroken = true ∧ ¬b.IsSteady ∧
          x.tally.BrokenOff (x.service.store.job? job.id)))) := by
  refine ⟨fun hnot => ?_, fun runnable => ?_⟩
  · have hover := isOver_run (x := start job b s) (r := r) hs ticks
    rcases run_of_not_runnable (r := r) hnot b s ticks with hx | hx
    · rw [hx] at hover ⊢
      refine ⟨rfl, rfl, fun enough => ?_⟩
      cases hover enough
    · rw [hx]
      exact ⟨rfl, rfl, fun _ => rfl⟩
  · have hkeeps := (keeps_start hs stored runnable b).run (r := r) runnable room ticks
    obtain ⟨record, hrecord, hfits, hstands⟩ := hkeeps.stands
    refine ⟨hkeeps.store, hkeeps.hub, hstands.inOrder, fun enough => ?_⟩
    have hover := isOver_run (x := start job b s) (r := r) hs ticks enough
    rw [hrecord]
    cases hanswer : ((start job b s).run r ticks).attempt.answer? with
    | some answer => exact .inl ⟨answer, rfl, hstands.accounts hanswer⟩
    | none =>
      have hbroken : ((start job b s).run r ticks).attempt.isBroken = true := by
        rw [Attempt.isOver, hanswer] at hover
        exact hover
      have hfits := hfits (Attempt.owns_of_isBroken hbroken)
      refine .inr ⟨hbroken, ?_, hstands.brokenOff hfits hbroken⟩
      exact hkeeps.backoff ▸ (hfits.of_isBroken hbroken).2

/-- A job none of whose outcomes can be written is accounted for. -/
theorem accounts_of_lost_outcome :
    let job := Job.pending .nil .epoch (.once "mail" .null)
    let plan := fun call => if call = StoreCall.putResult then List.replicate 4 true else []
    let s := Service.ofBackend .standard ⟨Store.empty.put job, plan⟩
    let ticks := List.replicate 22 (⟨0, .epoch, .ofList [], false, false⟩ : Tick)
    let x := (start job .immediate s).run (.ok .null) ticks
    ∃ answer, x.attempt.answer? = some answer ∧
      x.tally.Accounts job (x.service.store.job? job.id)
        (x.service.queue.Waits job.jobType job.id) answer := by
  intro job plan s ticks
  have hs : s.queue.Sound := Queue.sound_ofBackend _ _
  have stored : s.store.job? job.id = some job := by
    show (Store.empty.put job).job? job.id = some job
    rw [Store.job?_put, if_pos rfl]
  have room : job.attempts < Job.greatestCount := by decide
  have enough : 22 ≤ ticks.length := Nat.le_of_eq List.length_replicate.symm
  obtain ⟨-, hrunnable⟩ := run_accounts s hs job stored room .immediate (.ok .null) ticks
  obtain ⟨-, -, -, hdone⟩ := hrunnable rfl
  have hsteady : Backoff.immediate.IsSteady := Backoff.isSteady_of_jitter_le (by decide)
  exact (hdone enough).resolve_right fun hbroken => hbroken.2.1 hsteady

/-- With a jitter that is no number, an attempt writes and publishes that its job is retrying, and
never answers. -/
theorem unanswered_of_erratic :
    let job := Job.pending .nil .epoch ⟨"mail", .null, 2⟩
    let s := Service.ofBackend .standard ⟨Store.empty.put job, fun _ => []⟩
    let ticks := List.replicate 22 (⟨0, .epoch, .ofList [], false, false⟩ : Tick)
    let x := (start job .erratic s).run (.error (.timeout 5)) ticks
    x.tally.written = [.processing, .failed, .retrying] ∧
      x.tally.published.map (·.status) = x.tally.written ∧
      ∀ more, (x.run (.error (.timeout 5)) more).attempt.answer? = none := by
  intro job s ticks x
  have hbroken : x.attempt.isBroken = true := by decide +kernel
  have hanswer : x.attempt.answer? = none := by decide +kernel
  have hover : x.attempt.isOver = true := by rw [Attempt.isOver, hbroken, Bool.or_true]
  refine ⟨by decide +kernel, by decide +kernel, fun more => ?_⟩
  rw [run_of_isOver hover]
  exact hanswer

end Solo

end JobRunner
