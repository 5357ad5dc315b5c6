import JobRunner.Proofs.Plant

/-!
# From hand to hand

What one step of one activity does to jobs.

- `Actor.Informed`: what an activity knows of the job in its hands agrees with the store.
- `Actor.Transfer`: the ways in which a job passes between an activity and a lane, enters the store,
  or is attempted.
- `Actor.Effect`: a transfer, together with what it does to the service.
-/

namespace JobRunner

/-- The record of a job that has just been accepted. -/
def Job.IsNew (job : Job) : Prop :=
  ∃ id now request, job = .pending id now request ∧ request.maxAttempts ≤ Job.greatestCount

/-- The lanes hold the ids of runnable jobs of their types only. -/
def Service.Posted (s : Service) : Prop :=
  ∀ t id, s.queue.Waits t id →
    ∃ job, s.store.job? id = some job ∧ job.jobType = t ∧ job.status.isRunnable = true

/-- What a consumer knows of the job it has taken. -/
def Consumer.Informed (c : Consumer) (st : Store) : Prop :=
  match c.stage with
  | .reading _ id | .restoring _ id _ =>
    ∃ job, st.job? id = some job ∧ job.id = id ∧ job.jobType = c.jobType ∧
      job.status.isRunnable = true
  | .leaving _ (.ok (some job)) | .done (.ok (some job)) =>
    st.job? job.id = some job ∧ job.status.isRunnable = true
  | _ => True

namespace Actor

/-- What an activity knows of the job in its hands agrees with the store. -/
def Informed (x : Actor) (st : Store) : Prop :=
  match x with
  | producer (.checking _ _ request) => request.maxAttempts ≤ Job.greatestCount
  | producer (.inserting job) => job.IsNew
  | producer (.pushing job) => st.job? job.id = some job ∧ job.status.isRunnable = true
  | worker ⟨_, _, .fetching consumer⟩ => consumer.Informed st
  | worker ⟨_, _, .busy attempt⟩ =>
    attempt.owns = true → ∃ record, st.job? attempt.job.id = some record ∧
      attempt.Fits record (st.outcome? attempt.job.id)
  | timer ⟨job, _, .sleeping⟩ => st.job? job.id = some job ∧ job.status.isRunnable = true
  | _ => True

/-- How jobs pass from hand to hand in a step. -/
inductive Transfer (s s' : Service) : Actor → Actor → Option RetryTimer → List Entry → Prop
  /-- None does. -/
  | quiet {x x'} (carries : x'.carries? = x.carries?) (attempt : x'.attempt? = x.attempt?)
      (waits : ∀ t id, s'.queue.Waits t id ↔ s.queue.Waits t id) : Transfer s s' x x' none []
  /-- A new job is stored. -/
  | insert {x x'} (job : Job) (isNew : job.IsNew) (fresh : s.store.job? job.id = none)
      (empty : x.holds? = none) (carries : x'.carries? = some job.id)
      (attempt : x'.attempt? = none)
      (waits : ∀ t id, s'.queue.Waits t id ↔ s.queue.Waits t id) :
      Transfer s s' x x' none [.inserted job]
  /-- A job is put into the lane of its type. -/
  | push {x x'} (job : Job) (stored : s.store.job? job.id = some job)
      (runnable : job.status.isRunnable = true) (carries : x.carries? = some job.id)
      (attempt : x.attempt? = none) (empty : x'.holds? = none)
      (waits : ∀ t id, s'.queue.Waits t id ↔
        s.queue.Waits t id ∨ (t = job.jobType ∧ id = job.id)) : Transfer s s' x x' none []
  /-- A job is taken from a lane. -/
  | pop {x x'} (t₀ : String) (id₀ : JobId) (empty : x.holds? = none)
      (carries : x'.carries? = some id₀) (attempt : x'.attempt? = none)
      (waited : s.queue.Waits t₀ id₀)
      (waits : ∀ t id, s'.queue.Waits t id ↔ s.queue.Waits t id ∧ ¬(t = t₀ ∧ id = id₀)) :
      Transfer s s' x x' none []
  /-- An attempt of a job begins. -/
  | start {x x'} (job : Job) (b : Backoff) (stored : s.store.job? job.id = some job)
      (runnable : job.status.isRunnable = true) (carries : x.carries? = some job.id)
      (attempt : x.attempt? = none) (attempt' : x'.attempt? = some (.new job b))
      (waits : ∀ t id, s'.queue.Waits t id ↔ s.queue.Waits t id) : Transfer s s' x x' none []
  /-- An attempt goes on. -/
  | move {x x'} {a a' : Attempt} {es : List Entry} {h : Attempt.Handover}
      (move : Attempt.Move a a' es h) (attempt : x.attempt? = some a)
      (carries' : x'.carries? = none)
      (attempt' : x'.attempt? = if a'.owns then some a' else none)
      (waits : ∀ t id, s'.queue.Waits t id ↔
        s.queue.Waits t id ∨ (h = .lane ∧ t = a.job.jobType ∧ id = a.job.id)) :
      Transfer s s' x x' (h.timer? a.job) es

/-- What a step of an activity does. -/
structure Effect (x : Actor) (s : Service) (x' : Actor) (s' : Service)
    (added : Option RetryTimer) (es : List Entry) : Prop where
  transfer : Transfer s s' x x' added es
  store : s'.store = es.foldl Entry.onStore s.store
  hub : s'.hub = es.foldl Entry.onHub s.hub
  sound : s'.queue.Sound
  informed : x'.Informed s'.store
  timer : ∀ r, added = some r → (Actor.timer r).Informed s'.store

/-! ## What is known of held jobs -/

theorem holds?_of_attempt? {x : Actor} {a : Attempt} (h : x.attempt? = some a) :
    x.holds? = some a.job.id := by
  unfold holds?
  rw [h]

theorem holds?_of_carries? {x : Actor} (h : x.attempt? = none) : x.holds? = x.carries? := by
  unfold holds?
  rw [h]

/-- An attempt in an activity's hands is that of a busy worker. -/
theorem attempt?_eq_some {x : Actor} {a : Attempt} (h : x.attempt? = some a) :
    a.owns = true ∧ ∃ t b, x = worker ⟨t, b, .busy a⟩ := by
  unfold attempt? at h
  split at h
  · next t b attempt =>
    split at h
    · next howns =>
      cases h
      exact ⟨howns, t, b, rfl⟩
    · cases h
  · cases h

theorem carries?_of_attempt? {x : Actor} {a : Attempt} (h : x.attempt? = some a) :
    x.carries? = none := by
  obtain ⟨-, t, b, rfl⟩ := attempt?_eq_some h
  rfl

theorem holds?_of_carries?_eq_some {x : Actor} {id : JobId} (h : x.carries? = some id) :
    x.holds? = some id := by
  cases ha : x.attempt? with
  | none => rw [holds?_of_carries? ha, h]
  | some a =>
    rw [carries?_of_attempt? ha] at h
    cases h

/-- A job in an activity's hands is either carried or attempted. -/
theorem carries?_or_attempt? {x : Actor} {id : JobId} (h : x.holds? = some id) :
    x.carries? = some id ∨ ∃ a, x.attempt? = some a ∧ a.job.id = id := by
  cases ha : x.attempt? with
  | none =>
    rw [holds?_of_carries? ha] at h
    exact .inl h
  | some a =>
    rw [holds?_of_attempt? ha] at h
    exact .inr ⟨a, rfl, Option.some.inj h⟩

/-- An activity that has broken off with a job has its attempt in its hands. -/
theorem strands?_eq_some {x : Actor} {id : JobId} (h : x.strands? = some id) :
    ∃ a, x.attempt? = some a ∧ a.isBroken = true ∧ a.job.id = id := by
  unfold strands? at h
  split at h
  · next t b attempt =>
    split at h
    · next hbroken =>
      exact ⟨attempt, if_pos (Attempt.owns_of_isBroken hbroken), hbroken, Option.some.inj h⟩
    · cases h
  · cases h

theorem holds?_of_strands? {x : Actor} {id : JobId} (h : x.strands? = some id) :
    x.holds? = some id := by
  obtain ⟨a, ha, -, rfl⟩ := strands?_eq_some h
  exact holds?_of_attempt? ha

theorem owns?_eq_some_iff {x : Actor} {id : JobId} :
    x.owns? = some id ↔ x.strands? = none ∧ x.holds? = some id := by
  unfold owns?
  split
  · next hnone => exact (and_iff_right hnone).symm
  · next hsome => exact ⟨nofun, fun h => absurd h.1 hsome⟩

/-- An activity goes on with the job in its hands, or has broken off with it. -/
theorem owns?_or_strands? {x : Actor} {id : JobId} (h : x.holds? = some id) :
    x.owns? = some id ∨ x.strands? = some id := by
  cases hstrands : x.strands? with
  | none => exact .inl (owns?_eq_some_iff.mpr ⟨hstrands, h⟩)
  | some id' => exact .inr ((holds?_of_strands? hstrands).symm.trans h)

theorem Informed.attempt {x : Actor} {a : Attempt} {st : Store} (h : x.Informed st)
    (ha : x.attempt? = some a) :
    ∃ record, st.job? a.job.id = some record ∧ a.Fits record (st.outcome? a.job.id) := by
  obtain ⟨howns, t, b, rfl⟩ := attempt?_eq_some ha
  exact h howns

end Actor

/-- The job that a consumer has taken is stored, and runnable. -/
theorem Consumer.Informed.carried {c : Consumer} {st : Store} {id : JobId} (h : c.Informed st)
    (hc : c.carries? = some id) :
    ∃ job, st.job? id = some job ∧ job.status.isRunnable = true := by
  obtain ⟨t, deadline, stage⟩ := c
  unfold Consumer.carries? at hc
  split at hc
  · next ear taken hstage =>
    cases hstage
    cases hc
    obtain ⟨job, hjob, -, -, hrun⟩ := h
    exact ⟨job, hjob, hrun⟩
  · next ear taken why hstage =>
    cases hstage
    cases hc
    obtain ⟨job, hjob, -, -, hrun⟩ := h
    exact ⟨job, hjob, hrun⟩
  · next ear job hstage =>
    cases hstage
    cases hc
    exact ⟨job, h⟩
  · next job hstage =>
    cases hstage
    cases hc
    exact ⟨job, h⟩
  · cases hc

/-- What a consumer knows depends on the record of the job it has taken alone. -/
theorem Consumer.Informed.frame {c : Consumer} {st st' : Store} (h : c.Informed st)
    (same : ∀ id, c.carries? = some id → st'.job? id = st.job? id) : c.Informed st' := by
  obtain ⟨t, deadline, stage⟩ := c
  cases stage with
  | reading ear id | restoring ear id =>
    obtain ⟨job, hjob, hrest⟩ := h
    exact ⟨job, (same id rfl).trans hjob, hrest⟩
  | leaving ear answer | done answer =>
    rcases answer with e | _ | job
    · trivial
    · trivial
    · exact ⟨(same job.id rfl).trans h.1, h.2⟩
  | listening | popping | ringing | parked => trivial

namespace Actor

/-- The job that an activity carries is stored, and runnable. -/
theorem Informed.carried {x : Actor} {st : Store} {id : JobId} (h : x.Informed st)
    (hc : x.carries? = some id) :
    ∃ job, st.job? id = some job ∧ job.status.isRunnable = true := by
  unfold carries? at hc
  split at hc
  · next job =>
    cases hc
    exact ⟨job, h⟩
  · next t b consumer => exact Consumer.Informed.carried h hc
  · next job due =>
    cases hc
    exact ⟨job, h⟩
  · cases hc

/-- The job in an activity's hands is stored. -/
theorem Informed.stored {x : Actor} {st : Store} {id : JobId} (h : x.Informed st)
    (hx : x.holds? = some id) : st.job? id ≠ none := by
  unfold holds? at hx
  split at hx
  · next a ha =>
    cases hx
    obtain ⟨record, hrecord, -⟩ := h.attempt ha
    rw [hrecord]
    exact Option.some_ne_none record
  · obtain ⟨job, hjob, -⟩ := h.carried hx
    rw [hjob]
    exact Option.some_ne_none job

/-- What an activity knows depends on the job in its hands alone. -/
theorem Informed.frame {x : Actor} {st st' : Store} (h : x.Informed st)
    (same : ∀ id, x.holds? = some id →
      st'.job? id = st.job? id ∧ st'.outcome? id = st.outcome? id) : x.Informed st' := by
  cases x with
  | producer p =>
    cases p with
    | pushing job => exact ⟨(same job.id rfl).1.trans h.1, h.2⟩
    | checking | inserting | ringing | done => exact h
  | worker w =>
    obtain ⟨t, b, stage⟩ := w
    cases stage with
    | fetching consumer => exact Consumer.Informed.frame h fun id hid => (same id hid).1
    | busy attempt =>
      intro howns
      have ha : (worker ⟨t, b, .busy attempt⟩).attempt? = some attempt := if_pos howns
      obtain ⟨hjob, houtcome⟩ := same attempt.job.id (holds?_of_attempt? ha)
      rw [hjob, houtcome]
      exact h howns
    | idle | resting | stopped => trivial
  | timer r =>
    obtain ⟨job, due, stage⟩ := r
    cases stage with
    | sleeping => exact ⟨(same job.id rfl).1.trans h.1, h.2⟩
    | ringing | done => trivial

end Actor

end JobRunner
