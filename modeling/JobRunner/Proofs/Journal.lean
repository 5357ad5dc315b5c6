import JobRunner.Attempt
import JobRunner.Proofs.Lanes
import JobRunner.Proofs.Store

/-!
# The journal of jobs

- `Entry`: something that happened to a job, and what that does to the store and to the hub.
- `Entry.job?_foldl_onStore`, `Entry.foldl_onStore_of_ne`: entries change the job they are about as
  `Entry.onRecord` and `Entry.onOutcome` say, and no other.
- `Job.moved`, `Job.claimed`: the copies that an attempt makes of its job.
-/

namespace JobRunner

/-! ## Entries -/

/-- Something that happened to a job. -/
inductive Entry where
  /-- Its first record was stored. -/
  | inserted (job : Job)
  /-- Its record was replaced. -/
  | written (job : Job)
  /-- Its outcome was set. -/
  | recorded (o : Outcome)
  /-- The store refused a write. -/
  | refused (id : JobId) (call : StoreCall) (why : StoreError)
  | published (e : Event)
  /-- Its handler was called with this record. -/
  | called (job : Job)
  /-- Its handler came to an end. -/
  | reported (id : JobId) (report : Except Failure Json)

namespace Entry

/-- The job that an entry is about. -/
def jobId : Entry → JobId
  | inserted job | written job | called job => job.id
  | recorded o => o.jobId
  | refused id _ _ | reported id _ => id
  | published e => e.jobId

/-- What an entry does to the store. -/
def onStore (s : Store) : Entry → Store
  | inserted job | written job => s.put job
  | recorded o => s.putOutcome o
  | _ => s

/-- What an entry does to the hub. -/
def onHub (h : Hub) : Entry → Hub
  | published e => (h.publish e).2
  | _ => h

/-- The entry of a write, by what the store answered. -/
def ofAnswer (id : JobId) (call : StoreCall) (written : Entry) : Except StoreError Unit → Entry
  | .ok () => written
  | .error why => .refused id call why

/-- What an entry does to the record of its job. -/
def onRecord (record : Option Job) : Entry → Option Job
  | inserted job | written job => some job
  | _ => record

/-- What an entry does to the outcome of its job. -/
def onOutcome (outcome : Option Outcome) : Entry → Option Outcome
  | recorded o => some o
  | _ => outcome

/-- An entry changes no record but that of its own job. -/
theorem job?_onStore (s : Store) (e : Entry) (id : JobId) :
    (e.onStore s).job? id = if e.jobId = id then e.onRecord (s.job? id) else s.job? id := by
  cases e with
  | inserted job => exact s.job?_put job id
  | written job => exact s.job?_put job id
  | recorded | refused | published | called | reported => exact (ite_self _).symm

/-- Nor does it change any other result. -/
theorem outcome?_onStore (s : Store) (e : Entry) (id : JobId) :
    (e.onStore s).outcome? id =
      if e.jobId = id then e.onOutcome (s.outcome? id) else s.outcome? id := by
  cases e with
  | recorded o => exact s.outcome?_putOutcome o id
  | inserted | written | refused | published | called | reported => exact (ite_self _).symm

/-- Jobs stay under their own ids. -/
theorem keyed_onStore {s : Store} (h : s.Keyed) (e : Entry) : (e.onStore s).Keyed := by
  cases e with
  | inserted job => exact h.put job
  | written job => exact h.put job
  | recorded o => exact h.putOutcome o
  | refused | published | called | reported => exact h

/-- Entries about one job do to its record what they do to the store. -/
theorem job?_foldl_onStore (es : List Entry) (s : Store) (id : JobId) (h : ∀ e ∈ es, e.jobId = id) :
    (es.foldl onStore s).job? id = es.foldl onRecord (s.job? id) := by
  induction es generalizing s with
  | nil => rfl
  | cons e es ih =>
    rw [List.foldl_cons, List.foldl_cons, ih _ fun x hx => h x (List.mem_cons_of_mem e hx),
      job?_onStore, if_pos (h e List.mem_cons_self)]

/-- Entries about one job do to its outcome what they do to the store. -/
theorem outcome?_foldl_onStore (es : List Entry) (s : Store) (id : JobId)
    (h : ∀ e ∈ es, e.jobId = id) :
    (es.foldl onStore s).outcome? id = es.foldl onOutcome (s.outcome? id) := by
  induction es generalizing s with
  | nil => rfl
  | cons e es ih =>
    rw [List.foldl_cons, List.foldl_cons, ih _ fun x hx => h x (List.mem_cons_of_mem e hx),
      outcome?_onStore, if_pos (h e List.mem_cons_self)]

/-- Entries about other jobs change neither the record nor the outcome of a job. -/
theorem foldl_onStore_of_ne (es : List Entry) (s : Store) (id : JobId)
    (h : ∀ e ∈ es, e.jobId ≠ id) :
    (es.foldl onStore s).job? id = s.job? id ∧
      (es.foldl onStore s).outcome? id = s.outcome? id := by
  induction es generalizing s with
  | nil => exact ⟨rfl, rfl⟩
  | cons e es ih =>
    have hne : e.jobId ≠ id := h e List.mem_cons_self
    obtain ⟨hjob, houtcome⟩ := ih (e.onStore s) fun x hx => h x (List.mem_cons_of_mem e hx)
    rw [job?_onStore, if_neg hne] at hjob
    rw [outcome?_onStore, if_neg hne] at houtcome
    exact ⟨hjob, houtcome⟩

/-- A job that is stored, or that is stored on the way, is stored in the end. -/
theorem stored_foldl_onStore (es : List Entry) {s : Store} {id : JobId}
    (h : s.job? id ≠ none ∨ ∃ job, inserted job ∈ es ∧ job.id = id) :
    (es.foldl onStore s).job? id ≠ none := by
  -- no entry takes a record away, so the first disjunct lasts once it is reached
  induction es generalizing s with
  | nil =>
    rcases h with h | ⟨job, hmem, -⟩
    · exact h
    · exact absurd hmem List.not_mem_nil
  | cons e es ih =>
    refine ih ?_
    rcases h with h | ⟨job, hmem, hid⟩
    · left
      rw [job?_onStore]
      split
      · cases e <;> simp [onRecord, h]
      · exact h
    · rcases List.mem_cons.mp hmem with rfl | hmem
      · left
        rw [job?_onStore, if_pos (show (inserted job).jobId = id from hid)]
        exact Option.some_ne_none job
      · exact .inr ⟨job, hmem, hid⟩

theorem keyed_foldl_onStore (es : List Entry) {s : Store} (h : s.Keyed) :
    (es.foldl onStore s).Keyed := by
  induction es generalizing s with
  | nil => exact h
  | cons e es ih => exact ih (keyed_onStore h e)

end Entry

/-! ## The copies of an attempt -/

namespace Job

/-- The job in another state. -/
def moved (job : Job) (status : Status) (at_ : Instant) : Job :=
  { job with status, updatedAt := at_ }

/-- The job as an attempt claims it. -/
def claimed (job : Job) (clock : Instant) : Job :=
  { job.moved .processing clock with attempts := job.attempts + 1 }

/-- The greatest number of attempts that can be counted. -/
def greatestCount : Int := 0x7FFFFFFF

variable (job : Job) (status : Status) (clock : Instant)

@[simp] theorem moved_id : (job.moved status clock).id = job.id := rfl
@[simp] theorem moved_jobType : (job.moved status clock).jobType = job.jobType := rfl
@[simp] theorem moved_payload : (job.moved status clock).payload = job.payload := rfl
@[simp] theorem moved_status : (job.moved status clock).status = status := rfl
@[simp] theorem moved_attempts : (job.moved status clock).attempts = job.attempts := rfl
@[simp] theorem moved_maxAttempts : (job.moved status clock).maxAttempts = job.maxAttempts := rfl
@[simp] theorem moved_createdAt : (job.moved status clock).createdAt = job.createdAt := rfl

@[simp] theorem claimed_id : (job.claimed clock).id = job.id := rfl
@[simp] theorem claimed_jobType : (job.claimed clock).jobType = job.jobType := rfl
@[simp] theorem claimed_payload : (job.claimed clock).payload = job.payload := rfl
@[simp] theorem claimed_status : (job.claimed clock).status = .processing := rfl
@[simp] theorem claimed_attempts : (job.claimed clock).attempts = job.attempts + 1 := rfl
@[simp] theorem claimed_maxAttempts : (job.claimed clock).maxAttempts = job.maxAttempts := rfl
@[simp] theorem claimed_createdAt : (job.claimed clock).createdAt = job.createdAt := rfl

variable {job status}

/-- A job that may become what it is told does, and its clock is set. -/
theorem advance_of_mayBecome (h : job.status.mayBecome status = true) :
    job.advance clock status = .ok (job.moved status clock) := by
  unfold advance
  rw [if_pos h]
  rfl

/-- Otherwise it is left as it is, and the answer says what was tried. -/
theorem advance_of_not_mayBecome (h : job.status.mayBecome status = false) :
    job.advance clock status = .error ⟨job.id, job.status, status⟩ := by
  unfold advance
  rw [h]
  rfl

end Job

/-- The states from which an attempt begins are the runnable ones. -/
theorem Status.mayBecome_processing (s : Status) : s.mayBecome .processing = s.isRunnable := by
  cases s <;> rfl

end JobRunner
