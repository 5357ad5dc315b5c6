import JobRunner.Proofs.Listings
import Mathlib.Algebra.BigOperators.Group.Finset.Basic
import Mathlib.Algebra.Order.BigOperators.Group.Finset
import Mathlib.Algebra.Ring.Nat

/-!
# What a store remembers

A store is as good as two finite maps, both given by the writes made so far: from the ids of jobs to
their last records, and from the ids of jobs to the last outcomes.

- `StoreWrite`: a write to a store, and `StoreLog`: writes with the answers they got.
- `StoreLog.job?`, `StoreLog.outcome?`, `StoreLog.ids`: the two maps, and the ids ever inserted.
- `StoreLog.Lists`: what a listing of the first map has to be.
- `Backend.Remembers`: what a store answers after some writes.
- `Backend.remembers_writes`: every store answers so.
-/

namespace JobRunner

/-! ## Writes -/

/-- A write to a store. -/
inductive StoreWrite where
  | insert (job : Job)
  | update (job : Job)
  | putOutcome (o : Outcome)

namespace StoreWrite

/-- Makes a write. -/
def act (b : Backend) : StoreWrite → Except StoreError Unit × Backend
  | insert job => b.insertJob job
  | update job => b.updateJob job
  | putOutcome o => b.putResult o

/-- The id under which a record is to be inserted. -/
def insertedId? : StoreWrite → Option JobId
  | insert job => some job.id
  | _ => none

end StoreWrite

/-- Some writes in their order, each with the answer it got. -/
abbrev StoreLog := List (StoreWrite × Except StoreError Unit)

/-- Makes several writes. -/
def Backend.writes (b : Backend) : List StoreWrite → StoreLog × Backend
  | [] => ([], b)
  | w :: ws =>
    let (answer, b) := w.act b
    let (log, b) := b.writes ws
    ((w, answer) :: log, b)

namespace StoreLog

/-- The record that a write has set. -/
def record? : StoreWrite × Except StoreError Unit → Option Job
  | (.insert job, .ok ()) | (.update job, .ok ()) => some job
  | _ => none

/-- The outcome that a write has set. -/
def outcomeOf? : StoreWrite × Except StoreError Unit → Option Outcome
  | (.putOutcome o, .ok ()) => some o
  | _ => none

/-- The last record written for a job. -/
def job? (log : StoreLog) (id : JobId) : Option Job :=
  ((log.filterMap record?).filter (·.id = id)).getLast?

/-- The last outcome written for a job. -/
def outcome? (log : StoreLog) (id : JobId) : Option Outcome :=
  ((log.filterMap outcomeOf?).filter (·.jobId = id)).getLast?

/-- The ids under which records were ever to be inserted. -/
def ids (log : StoreLog) : Finset JobId := (log.filterMap (·.1.insertedId?)).toFinset

/-- The number of jobs whose last record has a status. -/
def count (log : StoreLog) (status : Status) : Nat :=
  (log.ids.filter fun id => ((log.job? id).map Job.status) = some status).card

/-- These are the jobs of a type, and of one state if it is given, the older ones first. -/
structure Lists (log : StoreLog) (t : String) (status : Option Status) (jobs : List Job) :
    Prop where
  mem_iff : ∀ job, job ∈ jobs ↔
    log.job? job.id = some job ∧ job.jobType = t ∧ ∀ s, status = some s → job.status = s
  nodup : jobs.Nodup
  sorted : jobs.Pairwise Job.Older

variable {log : StoreLog} {t : String} {status : Option Status} {jobs jobs' : List Job}

/-- There is only one such list. -/
theorem Lists.unique (h : log.Lists t status jobs) (h' : log.Lists t status jobs') :
    jobs = jobs' :=
  h.sorted.eq_of_mem_iff h'.sorted fun job => (h.mem_iff job).trans (h'.mem_iff job).symm

/-- The last write that succeeded says what is stored under its id. -/
theorem job?_append_singleton (log : StoreLog) (w : StoreWrite × Except StoreError Unit)
    (id : JobId) : (log ++ [w]).job? id =
      match record? w with
      | some job => if job.id = id then some job else log.job? id
      | none => log.job? id := by
  unfold job?
  rw [List.filterMap_append, List.filter_append, List.filterMap_cons]
  cases record? w with
  | none => simp
  | some job =>
    by_cases hid : job.id = id <;> simp [hid]

/-- The last result that was put is the one stored. -/
theorem outcome?_append_singleton (log : StoreLog) (w : StoreWrite × Except StoreError Unit)
    (id : JobId) : (log ++ [w]).outcome? id =
      match outcomeOf? w with
      | some o => if o.jobId = id then some o else log.outcome? id
      | none => log.outcome? id := by
  unfold outcome?
  rw [List.filterMap_append, List.filter_append, List.filterMap_cons]
  cases outcomeOf? w with
  | none => simp
  | some o =>
    by_cases hid : o.jobId = id <;> simp [hid]

/-- An insertion that succeeded adds its id. -/
theorem mem_ids_append_singleton (log : StoreLog) (w : StoreWrite × Except StoreError Unit)
    (id : JobId) : id ∈ ids (log ++ [w]) ↔ id ∈ log.ids ∨ w.1.insertedId? = some id := by
  simp [ids]

end StoreLog

namespace Backend

variable {b : Backend} {log : StoreLog}

/-! ## Single calls -/

namespace Willing

/-- A willing store inserts a job unless its id is taken. -/
theorem insertJob_eq (h : b.Willing) (job : Job) :
    b.insertJob job = if b.store.job? job.id = none
      then (.ok (), { b with store := b.store.put job })
      else (.error (.duplicate job.id), b) := by
  split
  · next hnone =>
    refine h.call_of_ok .insertJob ?_
    rw [Store.insert?_eq_ok_iff.mpr ⟨hnone, rfl⟩]
    rfl
  · next hstored =>
    refine h.call_of_error .insertJob ?_
    rw [Store.insert?_of_stored hstored]
    rfl

/-- It updates a job unless it does not have it. -/
theorem updateJob_eq (h : b.Willing) (job : Job) :
    b.updateJob job = if b.store.job? job.id = none
      then (.error (.unknownJob job.id), b)
      else (.ok (), { b with store := b.store.put job }) := by
  split
  · next hnone =>
    refine h.call_of_error .updateJob ?_
    rw [Store.update?_of_not_stored hnone]
    rfl
  · next hstored =>
    refine h.call_of_ok .updateJob ?_
    rw [Store.update?_eq_ok_iff.mpr ⟨hstored, rfl⟩]
    rfl

/-- It takes every result. -/
theorem putResult_eq (h : b.Willing) (o : Outcome) :
    b.putResult o = (.ok (), { b with store := b.store.putOutcome o }) :=
  h.call_of_ok .putResult rfl

/-- A read answers from the store and changes nothing. -/
theorem read_eq {α : Type} (h : b.Willing) (c : StoreCall) (read : Store → α) :
    b.call c (fun s => .ok (read s, s)) = (.ok (read b.store), b) :=
  h.call_of_ok c rfl

end Willing

/-! ## Any number of writes -/

/-- A store holds what the writes in a log have set. -/
structure Holds (b : Backend) (log : StoreLog) : Prop where
  willing : b.Willing
  keyed : b.store.Keyed
  jobs : ∀ id, b.store.job? id = log.job? id
  outcomes : ∀ id, b.store.outcome? id = log.outcome? id
  ids : ∀ id, id ∈ log.ids ↔ b.store.job? id ≠ none

theorem holds_empty : empty.Holds [] where
  willing := willing_empty
  keyed := Store.keyed_empty
  jobs := Store.job?_empty
  outcomes := Store.outcome?_empty
  ids id := by
    show id ∈ (∅ : Finset JobId) ↔ Store.empty.job? id ≠ none
    simp

namespace Holds

/-- A record is written under an id that is stored already or inserted now. -/
theorem put (h : b.Holds log) {w : StoreWrite} {job : Job}
    (hrecord : StoreLog.record? (w, .ok ()) = some job)
    (houtcome : StoreLog.outcomeOf? (w, .ok ()) = none)
    (hids : ∀ id, id ∈ log.ids ∨ w.insertedId? = some id ↔ id ∈ log.ids ∨ job.id = id) :
    ({ b with store := b.store.put job } : Backend).Holds (log ++ [(w, .ok ())]) where
  willing := h.willing
  keyed := h.keyed.put job
  jobs id := by
    rw [StoreLog.job?_append_singleton, hrecord, Store.job?_put, h.jobs]
  outcomes id := by
    rw [StoreLog.outcome?_append_singleton, houtcome, Store.outcome?_put, h.outcomes]
  ids id := by
    rw [StoreLog.mem_ids_append_singleton, hids, h.ids, Store.job?_put]
    split
    · next hid => simp [hid]
    · next hid => simp [hid]

/-- A failing write changes nothing. -/
theorem fail (h : b.Holds log) {w : StoreWrite} {why : StoreError}
    (hids : ∀ id, w.insertedId? = some id → id ∈ log.ids) :
    b.Holds (log ++ [(w, .error why)]) where
  willing := h.willing
  keyed := h.keyed
  jobs id := by
    rw [StoreLog.job?_append_singleton, h.jobs]
    cases w <;> rfl
  outcomes id := by
    rw [StoreLog.outcome?_append_singleton, h.outcomes]
    cases w <;> rfl
  ids id := by
    rw [StoreLog.mem_ids_append_singleton, ← h.ids]
    exact ⟨fun hmem => hmem.elim (fun h => h) (hids id), .inl⟩

theorem putOutcome (h : b.Holds log) (o : Outcome) :
    ({ b with store := b.store.putOutcome o } : Backend).Holds
      (log ++ [(.putOutcome o, .ok ())]) where
  willing := h.willing
  keyed := h.keyed.putOutcome o
  jobs id := by
    rw [StoreLog.job?_append_singleton, Store.job?_putOutcome, h.jobs]
    rfl
  outcomes id := by
    rw [StoreLog.outcome?_append_singleton, Store.outcome?_putOutcome, h.outcomes]
    rfl
  ids id := by
    rw [StoreLog.mem_ids_append_singleton, Store.job?_putOutcome, ← h.ids]
    exact ⟨fun hmem => hmem.elim (fun h => h) nofun, .inl⟩

/-- Any write is remembered with its answer. -/
theorem act (h : b.Holds log) (w : StoreWrite) :
    (w.act b).2.Holds (log ++ [(w, (w.act b).1)]) := by
  cases w with
  | insert job =>
    show (b.insertJob job).2.Holds (log ++ [(.insert job, (b.insertJob job).1)])
    rw [h.willing.insertJob_eq]
    split
    · exact h.put rfl rfl fun id => by simp [StoreWrite.insertedId?]
    · next hstored =>
      refine h.fail fun id hid => ?_
      cases hid
      exact (h.ids job.id).mpr hstored
  | update job =>
    show (b.updateJob job).2.Holds (log ++ [(.update job, (b.updateJob job).1)])
    rw [h.willing.updateJob_eq]
    split
    · exact h.fail fun id hid => nomatch hid
    · next hstored =>
      have hknown : job.id ∈ log.ids := (h.ids job.id).mpr hstored
      refine h.put rfl rfl fun id => ⟨fun hmem => .inl (hmem.elim (fun h => h) nofun), ?_⟩
      rintro (hid | rfl)
      · exact .inl hid
      · exact .inl hknown
  | putOutcome o =>
    show (b.putResult o).2.Holds (log ++ [(.putOutcome o, (b.putResult o).1)])
    rw [h.willing.putResult_eq]
    exact h.putOutcome o

/-- A store holds what has been written, whatever was written. -/
theorem writes (h : b.Holds log) (ws : List StoreWrite) :
    (b.writes ws).2.Holds (log ++ (b.writes ws).1) := by
  induction ws generalizing b log with
  | nil =>
    rw [Backend.writes, List.append_nil]
    exact h
  | cons w ws ih =>
    have hws := ih (h.act w)
    rw [List.append_assoc] at hws
    exact hws

/-- The jobs with a status are counted. -/
theorem countP_eq (h : b.Holds log) (status : Status) :
    b.store.jobs.values.countP (·.status == status) = log.count status := by
  have hids : ((b.store.jobs.values.filter (·.status == status)).map Job.id).toFinset =
      log.ids.filter fun id => ((log.job? id).map Job.status) = some status := by
    ext id
    rw [List.mem_toFinset, List.mem_map, Finset.mem_filter, h.ids, ← h.jobs]
    constructor
    · rintro ⟨job, hjob, rfl⟩
      obtain ⟨hmem, hstatus⟩ := List.mem_filter.mp hjob
      have hrecord := (Store.mem_values h.keyed).mp hmem
      rw [hrecord]
      exact ⟨Option.some_ne_none job, congrArg some (beq_iff_eq.mp hstatus)⟩
    · rintro ⟨-, hstatus⟩
      obtain ⟨job, hrecord, rfl⟩ := Option.map_eq_some_iff.mp hstatus
      have hid : job.id = id := h.keyed id job hrecord
      have hmem : job ∈ b.store.jobs.values := (Store.mem_values h.keyed).mpr (hid ▸ hrecord)
      exact ⟨job, List.mem_filter.mpr ⟨hmem, beq_self_eq_true _⟩, hid⟩
  unfold StoreLog.count
  rw [List.countP_eq_length_filter, ← hids,
    List.toFinset_card_of_nodup (Store.nodup_filter h.keyed _), List.length_map]

/-- There are as many records as ids. -/
theorem length_values (h : b.Holds log) : b.store.jobs.values.length = log.ids.card := by
  have hkeys : b.store.jobs.keys.toFinset = log.ids := by
    ext id
    rw [List.mem_toFinset, Std.TreeMap.mem_keys, h.ids, Std.TreeMap.mem_iff_contains]
    exact b.store.contains_iff_job?_ne_none id
  rw [← hkeys, List.toFinset_card_of_nodup (nodup_keys _), ← Store.map_id_values h.keyed,
    List.length_map]

/-- Jobs are listed as the last records say, whichever order they are found in. -/
theorem lists (h : b.Holds log) (t : String) (status : Option Status) {found : List Job}
    (hfound : found.Perm b.store.jobs.values) :
    log.Lists t status ((found.filter fun job =>
      job.jobType == t && status.all (job.status == ·)).mergeSort Job.olderOrSame) := by
  have hvalues := hfound.filter fun job => job.jobType == t && status.all (job.status == ·)
  have hnodup := (hvalues.map Job.id).nodup_iff.mpr (Store.nodup_filter h.keyed _)
  have hsorted := Job.sorted_mergeSort hnodup
  refine ⟨fun job => ?_, hsorted.nodup, hsorted⟩
  rw [List.mem_mergeSort, List.mem_filter, hfound.mem_iff, Store.mem_values h.keyed, h.jobs,
    Bool.and_eq_true, beq_iff_eq]
  cases status <;> simp

end Holds

/-- Every job has one of the five states. -/
theorem sum_countP_status (jobs : List Job) :
    (Status.all.map fun status => jobs.countP (·.status == status)).sum = jobs.length := by
  induction jobs with
  | nil => rfl
  | cons job jobs ih =>
    rw [List.length_cons, ← ih]
    simp only [Status.all, List.map_cons, List.map_nil, List.sum_cons, List.sum_nil,
      List.countP_cons]
    cases job.status <;> simp <;> omega

/-! ## What a store answers -/

/-- A store answers as the writes in a log say. -/
structure Remembers (b : Backend) (log : StoreLog) : Prop where
  /-- A job is stored once a record was to be inserted under its id. -/
  stored : ∀ id, id ∈ log.ids ↔ log.job? id ≠ none
  /-- A record is inserted exactly under an id that is not stored. -/
  inserts : ∀ job, (b.insertJob job).1 =
    if job.id ∈ log.ids then .error (.duplicate job.id) else .ok ()
  /-- A record is replaced exactly under an id that is stored. -/
  updates : ∀ job, (b.updateJob job).1 =
    if job.id ∈ log.ids then .ok () else .error (.unknownJob job.id)
  puts : ∀ o, (b.putResult o).1 = .ok ()
  /-- A failing write changes nothing. -/
  unchanged : ∀ w why, (StoreWrite.act b w).1 = .error why → (StoreWrite.act b w).2 = b
  getJob : ∀ id, b.getJob id = (.ok (log.job? id), b)
  getResult : ∀ id, b.getResult id = (.ok (log.outcome? id), b)
  /-- The answer is the only list that it may be. -/
  listByType : ∀ t status, ∃ jobs, b.listByType t status = (.ok jobs, b) ∧
    ∀ jobs', log.Lists t status jobs' ↔ jobs' = jobs
  /-- It makes no difference in which order the records are found. -/
  anyOrder : ∀ t status (found : List Job), found.Perm b.store.jobs.values →
    b.listByType t status = (.ok ((found.filter fun job =>
      job.jobType == t && status.all (job.status == ·)).mergeSort Job.olderOrSame), b)
  countByStatus : b.countByStatus =
    (.ok (Status.all.map fun status => (status, log.count status)), b)
  /-- The counts add up to the number of ids ever inserted. -/
  total : (Status.all.map log.count).sum = log.ids.card

theorem Holds.remembers (h : b.Holds log) : b.Remembers log where
  stored id := by
    rw [h.ids, h.jobs]
  inserts job := by
    rw [h.willing.insertJob_eq]
    by_cases hmem : job.id ∈ log.ids
    · rw [if_pos hmem, if_neg ((h.ids job.id).mp hmem)]
    · rw [if_neg hmem, if_pos (by_contra fun hc => hmem ((h.ids job.id).mpr hc))]
  updates job := by
    rw [h.willing.updateJob_eq]
    by_cases hmem : job.id ∈ log.ids
    · rw [if_pos hmem, if_neg ((h.ids job.id).mp hmem)]
    · rw [if_neg hmem, if_pos (by_contra fun hc => hmem ((h.ids job.id).mpr hc))]
  puts o := by
    rw [h.willing.putResult_eq]
  unchanged w why hw := by
    cases w with
    | insert job =>
      change (b.insertJob job).1 = .error why at hw
      show (b.insertJob job).2 = b
      rw [h.willing.insertJob_eq] at hw ⊢
      split at hw
      · cases hw
      · next hstored => rw [if_neg hstored]
    | update job =>
      change (b.updateJob job).1 = .error why at hw
      show (b.updateJob job).2 = b
      rw [h.willing.updateJob_eq] at hw ⊢
      split at hw
      · next hnone => rw [if_pos hnone]
      · cases hw
    | putOutcome o =>
      change (b.putResult o).1 = .error why at hw
      rw [h.willing.putResult_eq] at hw
      cases hw
  getJob id := by
    rw [← h.jobs]
    exact h.willing.read_eq .getJob (·.job? id)
  getResult id := by
    rw [← h.outcomes]
    exact h.willing.read_eq .getResult (·.outcome? id)
  listByType t status := by
    refine ⟨b.store.listByType t status, h.willing.read_eq .listByType (·.listByType t status),
      fun jobs' => ?_⟩
    -- of the sorted lists of the log there is only one
    have hlists : log.Lists t status (b.store.listByType t status) := h.lists t status (.refl _)
    exact ⟨fun h' => h'.unique hlists, fun h' => h' ▸ hlists⟩
  anyOrder t status found hfound := by
    have hsame := (h.lists t status hfound).unique (h.lists t status (.refl _))
    rw [hsame]
    exact h.willing.read_eq .listByType (·.listByType t status)
  countByStatus := by
    have hcounts : b.store.countByStatus =
        Status.all.map fun status => (status, log.count status) :=
      List.map_congr_left fun status _ => congrArg (status, ·) (h.countP_eq status)
    rw [← hcounts]
    exact h.willing.read_eq .countByStatus (·.countByStatus)
  total := by
    -- every record counts for one status
    rw [← h.length_values, ← sum_countP_status]
    exact congrArg List.sum (List.map_congr_left fun status _ => (h.countP_eq status).symm)

/-- Whatever is written to a store, it remembers just that. -/
theorem remembers_writes (ws : List StoreWrite) :
    (empty.writes ws).2.Remembers (empty.writes ws).1 :=
  (holds_empty.writes ws).remembers

end Backend

end JobRunner
