import JobRunner.Proofs.Owners

/-!
# A store whose calls succeed

- `Plant.Unfailing`: the store behind a plant is willing, it has refused no write, and nobody is
  about to put back a job whose record could not be read.
- `Plant.unfailing_run`: every plant that began empty is unfailing, as long as nobody plans for
  calls to fail.
-/

namespace JobRunner

/-! ## Steps over a willing backend -/

/-- A call to enqueue makes no store fail. -/
theorem Producer.willing_step (p : Producer) {q : Queue} (h : q.backend.Willing) :
    (p.step q).2.backend.Willing := by
  cases p with
  | checking id now request =>
    simp only [Producer.step]
    cases q.check request with
    | error e => exact h
    | ok u => exact h
  | inserting job =>
    rcases hu : q.backend.insertJob job with ⟨e | u, b⟩
    · simp only [Producer.step, hu]
      exact h.of_call hu
    · simp only [Producer.step, hu]
      exact h.of_call hu
  | pushing job | ringing job | done answer => exact h

/-- Nor does a timer. -/
theorem RetryTimer.willing_step (r : RetryTimer) {q : Queue} (h : q.backend.Willing) (now : Nat) :
    (r.step q now).2.backend.Willing := by
  obtain ⟨job, due, stage⟩ := r
  cases stage with
  | sleeping =>
    simp only [RetryTimer.step]
    by_cases hdue : due ≤ now
    · rw [if_pos hdue]
      exact h
    · rw [if_neg hdue]
      exact h
  | ringing | done => exact h

/-- Whether a consumer is about to put back an id whose record could not be read. -/
def Consumer.isRestoring (c : Consumer) : Bool :=
  match c.stage with
  | .restoring _ _ _ => true
  | _ => false

/-- Over a willing backend, every record can be read. -/
theorem Consumer.willing_step (c : Consumer) {q : Queue} (h : q.backend.Willing) (now : Nat)
    (cancelled ringFirst : Bool) :
    (c.step q now cancelled ringFirst).2.backend.Willing ∧
      (c.step q now cancelled ringFirst).1.isRestoring = false := by
  obtain ⟨jobType, deadline, stage⟩ := c
  cases stage with
  | popping ear =>
    simp only [Consumer.step]
    rcases (q.lane jobType).pop? with _ | ⟨id, l⟩
    · exact ⟨h, rfl⟩
    · exact ⟨h, rfl⟩
  | reading ear id =>
    have hanswer := h.getJob id
    rcases hu : q.backend.getJob id with ⟨e | found, b⟩
    · rw [hu] at hanswer
      -- a read that fails is none of a willing backend
      cases hanswer
    · have hwilling := h.of_call hu
      simp only [Consumer.step, hu]
      cases found with
      | none => exact ⟨hwilling, rfl⟩
      | some job =>
        refine ⟨hwilling, ?_⟩
        by_cases hrun : job.status.isRunnable = true
        · simp only [if_pos hrun]
          rfl
        · simp only [if_neg hrun]
          rfl
  | parked ear =>
    simp only [Consumer.step]
    split
    · exact ⟨h, rfl⟩
    · split
      · exact ⟨h, rfl⟩
      · exact ⟨h, rfl⟩
  | listening | restoring | ringing | leaving | done => exact ⟨h, rfl⟩

namespace Attempt

variable {s : Service}

private theorem willing_claim (a : Attempt) (h : s.queue.backend.Willing) (clock : Instant) :
    (a.claim s clock).2.queue.backend.Willing := by
  unfold claim
  cases a.job.advance clock .processing with
  | error why => exact h
  | ok job =>
    by_cases hfull : job.attempts = 0x7FFFFFFF
    · simp only [if_pos hfull]
      exact h
    · simp only [if_neg hfull]
      rcases hu : s.queue.backend.updateJob { job with attempts := job.attempts + 1 } with
        ⟨why | u, b⟩
      · exact h.of_call hu
      · exact h.of_call hu

private theorem willing_reschedule (a : Attempt) (h : s.queue.backend.Willing) (clock : Instant)
    (why : Failure) : (a.reschedule s clock why).2.queue.backend.Willing := by
  unfold reschedule
  cases a.job.advance clock .retrying with
  | error why => exact h
  | ok job =>
    rcases hu : s.queue.backend.updateJob job with ⟨e | u, b⟩
    · simp only [hu]
      exact h.of_call hu
    · simp only [hu]
      exact h.of_call hu

private theorem willing_handOff (a : Attempt) (h : s.queue.backend.Willing) (now : Nat)
    (draws : Draws) : (a.handOff s now draws).2.1.queue.backend.Willing := by
  simp only [handOff]
  split
  · exact h
  · exact h
  · exact h

/-- Nor does an attempt. -/
theorem willing_step (a : Attempt) (h : s.queue.backend.Willing) (now : Nat) (clock : Instant)
    (draws : Draws) : (a.step s now clock draws).2.1.queue.backend.Willing := by
  obtain ⟨job, b, stage⟩ := a
  cases stage with
  | claiming => exact willing_claim _ h clock
  | rescheduling why => exact willing_reschedule _ h clock why
  | handingOff => exact willing_handOff _ h now draws
  | recording report o tries =>
    rcases hu : s.queue.backend.putResult o with ⟨why | u, b'⟩
    · simp only [step, hu]
      exact h.of_call hu
    · simp only [step, hu]
      exact h.of_call hu
  | concluding report o tries =>
    rcases hu : s.queue.backend.updateJob job with ⟨why | u, b'⟩
    · simp only [step, hu]
      exact h.of_call hu
    · simp only [step, hu]
      exact h.of_call hu
  | publishing report => cases report <;> exact h
  | handingBack | ringingBack | announcing | calling | resting | abandoning | announcingRetry
  | ringingOff | broken | done => exact h

/-- Every write of an attempt that still has its job is accepted. -/
theorem accepted (a : Attempt) (h : s.queue.backend.Willing)
    (stored : a.owns = true → s.store.job? a.job.id ≠ none) (clock : Instant) :
    ∀ id call why, .refused id call why ∉ a.entries s clock := by
  obtain ⟨job, b, stage⟩ := a
  have hupdate : (⟨job, b, stage⟩ : Attempt).owns = true → ∀ job' : Job, job'.id = job.id →
      (s.queue.backend.updateJob job').1 = .ok () := by
    intro howns job' hid
    refine h.updateJob ?_
    rw [hid]
    exact stored howns
  intro id call why hmem
  cases stage with
  | claiming =>
    simp only [entries] at hmem
    split at hmem
    · rw [hupdate rfl (job.claimed clock) rfl] at hmem
      cases List.mem_singleton.mp hmem
    · cases hmem
  | rescheduling failure =>
    simp only [entries] at hmem
    split at hmem
    · rw [hupdate rfl (job.moved .retrying clock) rfl] at hmem
      cases List.mem_singleton.mp hmem
    · cases hmem
  | recording report o tries =>
    simp only [entries] at hmem
    rw [h.putResult o] at hmem
    cases List.mem_singleton.mp hmem
  | concluding report o tries =>
    simp only [entries] at hmem
    rw [hupdate rfl job rfl] at hmem
    cases List.mem_singleton.mp hmem
  | announcing =>
    simp only [entries, List.mem_cons, List.not_mem_nil, or_false] at hmem
    rcases hmem with hmem | hmem <;> cases hmem
  | publishing | abandoning | announcingRetry => cases List.mem_singleton.mp hmem
  | handingBack | ringingBack | calling | resting | handingOff | ringingOff | broken | done =>
    cases hmem

end Attempt

/-! ## Activities over a willing backend -/

namespace Actor

variable {s : Service}

/-- Whether an activity is about to put back an id whose record could not be read. -/
def restores : Actor → Bool
  | worker ⟨_, _, .fetching consumer⟩ => consumer.isRestoring
  | _ => false

/-- An activity leaves a willing backend willing, and puts nothing back. -/
theorem willing_step (x : Actor) (h : s.queue.backend.Willing) (t : Tick) :
    (x.step s t).2.1.queue.backend.Willing ∧
      (x.restores = false → (x.step s t).1.restores = false) := by
  cases x with
  | producer p => exact ⟨p.willing_step h, fun _ => rfl⟩
  | timer r => exact ⟨r.willing_step h t.now, fun _ => rfl⟩
  | worker w =>
    obtain ⟨jobType, b, stage⟩ := w
    cases stage with
    | idle =>
      simp only [Actor.step, Worker.step]
      split
      · exact ⟨h, fun _ => rfl⟩
      · exact ⟨h, fun _ => rfl⟩
    | fetching c =>
      cases hstage : c.stage with
      | done answer =>
        simp only [Actor.step, Worker.step, hstage]
        rcases answer with e | _ | job
        · exact ⟨h, fun _ => rfl⟩
        · exact ⟨h, fun _ => rfl⟩
        · exact ⟨h, fun _ => rfl⟩
      | _ =>
        obtain ⟨hwilling, hread⟩ := c.willing_step h t.now t.cancelled t.ringFirst
        simp only [Actor.step, Worker.step, hstage]
        exact ⟨hwilling, fun _ => hread⟩
    | busy a =>
      cases hanswer : a.answer? with
      | some answer =>
        simp only [Actor.step, Worker.step, hanswer]
        unfold Worker.afterAttempt
        split
        · exact ⟨h, fun _ => rfl⟩
        · exact ⟨h, fun _ => rfl⟩
      | none =>
        simp only [Actor.step, Worker.step, hanswer]
        exact ⟨a.willing_step h t.now t.clock t.draws, fun _ => rfl⟩
    | resting due =>
      simp only [Actor.step, Worker.step]
      split
      · exact ⟨h, fun _ => rfl⟩
      · split
        · exact ⟨h, fun _ => rfl⟩
        · exact ⟨h, fun _ => rfl⟩
    | stopped => exact ⟨h, fun _ => rfl⟩

/-- Every write of an activity that knows its job is accepted. -/
theorem accepted (x : Actor) (h : s.queue.backend.Willing) (hi : x.Informed s.store) (t : Tick) :
    ∀ id call why, .refused id call why ∉ x.entries s t := by
  cases x with
  | producer p =>
    intro id call why hmem
    cases p with
    | inserting job =>
      simp only [entries] at hmem
      split at hmem
      · cases List.mem_singleton.mp hmem
      · cases hmem
    | checking | pushing | ringing | done => cases hmem
  | timer r => exact fun _ _ _ => List.not_mem_nil
  | worker w =>
    obtain ⟨jobType, b, stage⟩ := w
    cases stage with
    | busy a =>
      refine a.accepted h (fun howns => ?_) t.clock
      have ha : (worker ⟨jobType, b, .busy a⟩).attempt? = some a := if_pos howns
      exact hi.stored (holds?_of_attempt? ha)
    | idle | fetching | resting | stopped => exact fun _ _ _ => List.not_mem_nil

/-- A report brings no activity to put an id back. -/
theorem restores_report (x : Actor) (clock : Instant) (r : Except Failure Json)
    (h : x.restores = false) : (x.report clock r).restores = false := by
  cases hx : x.executes? with
  | some id =>
    obtain ⟨t, b, job, backoff, rfl, -⟩ := executes?_eq_some hx
    rfl
  | none =>
    rw [report_of_not_executes hx clock r]
    exact h

/-- No call to the store is refused in a report. -/
theorem accepted_report (x : Actor) (r : Except Failure Json) :
    ∀ id call why, .refused id call why ∉ x.reportEntries r := by
  intro id call why hmem
  unfold reportEntries at hmem
  cases hx : x.executes? with
  | some job =>
    rw [hx] at hmem
    cases List.mem_singleton.mp hmem
  | none =>
    rw [hx] at hmem
    cases hmem

end Actor

/-! ## Plants without failing calls -/

/-- Whether an action plans for calls to fail. -/
def Action.isPlan : Action → Bool
  | plan _ _ => true
  | _ => false

namespace Plant

/-- The store accepts whatever it is asked to do, and has always done so. -/
structure Unfailing (p : Plant) : Prop where
  willing : p.service.queue.backend.Willing
  reads : ∀ x ∈ p.actors, x.restores = false
  accepted : ∀ id call why, .refused id call why ∉ p.journal

variable {p : Plant}

theorem unfailing_new (settings : ServiceSettings) : (new settings).Unfailing :=
  ⟨Backend.willing_empty, fun _ hx => absurd hx List.not_mem_nil, fun _ _ _ => List.not_mem_nil⟩

namespace Unfailing

/-- A plant stays unfailing when somebody comes who puts nothing back. -/
private theorem join (h : p.Unfailing) {x : Actor} (hx : x.restores = false) :
    { p with actors := p.actors ++ [x] }.Unfailing := by
  refine ⟨h.willing, fun y hy => ?_, h.accepted⟩
  rcases List.mem_append.mp hy with hy | hy
  · exact h.reads y hy
  · rw [List.mem_singleton.mp hy]
    exact hx

/-- A plant stays unfailing when an activity comes to a new state. -/
private theorem replace (h : p.Unfailing) (i : Nat) {x : Actor} {service : Service}
    (added : Option RetryTimer) {es : List Entry} (hx : x.restores = false)
    (willing : service.queue.backend.Willing)
    (accepted : ∀ id call why, .refused id call why ∉ es) :
    (p.replace i x service added es).Unfailing := by
  refine ⟨willing, fun y hy => ?_, fun id call why hmem => ?_⟩
  · rcases List.mem_append.mp hy with hy | hy
    · rcases List.mem_or_eq_of_mem_set hy with hy | rfl
      · exact h.reads y hy
      · exact hx
    · cases added with
      | none => cases hy
      | some r => rw [List.mem_singleton.mp hy]; rfl
  · rcases List.mem_append.mp hmem with hmem | hmem
    · exact h.accepted id call why hmem
    · exact accepted id call why hmem

/-- In a plant that does not fail, no step fails unless it is planned to. -/
theorem step (h : p.Unfailing) (ho : p.Orderly) {act : Action} (hact : act.isPlan = false) :
    (p.step act).Unfailing := by
  cases act with
  | enqueue | hire => exact h.join rfl
  | advance i t =>
    simp only [Plant.step]
    cases hx : p.actors[i]? with
    | none => exact h
    | some x =>
      have hmem : x ∈ p.actors := List.mem_of_getElem? hx
      obtain ⟨hwilling, hreads⟩ := x.willing_step h.willing t
      exact h.replace i _ (hreads (h.reads x hmem)) hwilling
        (x.accepted h.willing (ho.informed x hmem) t)
  | report i clock r =>
    simp only [Plant.step]
    cases hx : p.actors[i]? with
    | none => exact h
    | some x =>
      have hmem : x ∈ p.actors := List.mem_of_getElem? hx
      exact h.replace i none (x.restores_report clock r (h.reads x hmem)) h.willing
        (x.accepted_report r)
  | plan => cases hact
  | visit => exact ⟨h.willing, h.reads, h.accepted⟩

/-- It does not fail until a failure is planned. -/
theorem run (h : p.Unfailing) (ho : p.Orderly) {actions : List Action}
    (unplanned : ∀ act ∈ actions, act.isPlan = false) : (p.run actions).Unfailing := by
  -- on the actions, for all plants
  induction actions generalizing p with
  | nil => exact h
  | cons act actions ih =>
    have hstep := h.step ho (unplanned act List.mem_cons_self)
    exact ih hstep (ho.step act) fun act' hmem => unplanned act' (List.mem_cons_of_mem act hmem)

end Unfailing

/-- Every plant that began empty is unfailing, as long as nobody plans for calls to fail. -/
theorem unfailing_run (settings : ServiceSettings) {actions : List Action}
    (unplanned : ∀ act ∈ actions, act.isPlan = false) : ((new settings).run actions).Unfailing :=
  (unfailing_new settings).run (orderly_new settings) unplanned

end Plant

end JobRunner
