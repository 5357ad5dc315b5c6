import JobRunner.Store.Backend
import Mathlib.Tactic.Common

/-!
# The store, seen through its records

What the writes of a store do to the record and to the outcome of a single job, and what a call to
a backend can answer. A call that succeeds does what the store does; a call that fails leaves the
store as it was. No call to a `Backend.Willing` one is planned to fail.
-/

namespace JobRunner

/-! ## Maps -/

theorem values_eq_map_toList {α β : Type} [Ord α] (t : Std.TreeMap α β) :
    t.values = t.toList.map (·.2) := by
  have hfoldr : t.values = t.foldr (fun _ b bs => b :: bs) [] := rfl
  rw [hfoldr, Std.TreeMap.foldr_eq_foldr_toList]
  induction t.toList with
  | nil => rfl
  | cons entry entries ih => rw [List.foldr_cons, ih, List.map_cons]

/-- No key is listed twice. -/
theorem nodup_keys {α β : Type} [Ord α] [Std.TransOrd α] (t : Std.TreeMap α β) :
    t.keys.Nodup := by
  refine Std.TreeMap.distinct_keys.imp fun {a a'} hne h => hne ?_
  rw [h]
  exact Std.ReflCmp.compare_self

/-! ## Stores -/

namespace Store

/-- The store with this record under its id. -/
def put (s : Store) (job : Job) : Store := { s with jobs := s.jobs.insert job.id job }

@[simp] theorem job?_empty (id : JobId) : empty.job? id = none := by
  simp [job?, empty]

@[simp] theorem outcome?_empty (id : JobId) : empty.outcome? id = none := by
  simp [outcome?, empty]

@[simp] theorem job?_put (s : Store) (job : Job) (id : JobId) :
    (s.put job).job? id = if job.id = id then some job else s.job? id := by
  unfold put job?
  rw [Std.TreeMap.getElem?_insert]
  simp only [Std.LawfulEqOrd.compare_eq_iff_eq]

@[simp] theorem outcome?_put (s : Store) (job : Job) (id : JobId) :
    (s.put job).outcome? id = s.outcome? id := rfl

@[simp] theorem job?_putOutcome (s : Store) (o : Outcome) (id : JobId) :
    (s.putOutcome o).job? id = s.job? id := rfl

@[simp] theorem outcome?_putOutcome (s : Store) (o : Outcome) (id : JobId) :
    (s.putOutcome o).outcome? id = if o.jobId = id then some o else s.outcome? id := by
  unfold putOutcome outcome?
  rw [Std.TreeMap.getElem?_insert]
  simp only [Std.LawfulEqOrd.compare_eq_iff_eq]

/-- A store contains the ids of its jobs. -/
theorem contains_iff_job?_ne_none (s : Store) (id : JobId) :
    s.jobs.contains id = true ↔ s.job? id ≠ none := by
  unfold job?
  rw [Std.TreeMap.contains_eq_isSome_getElem?]
  exact Option.isSome_iff_ne_none

/-- A record can be added only under an id that is not stored. -/
theorem insert?_eq_ok_iff {s s' : Store} {job : Job} :
    s.insert? job = .ok s' ↔ s.job? job.id = none ∧ s' = s.put job := by
  have hmem := s.contains_iff_job?_ne_none job.id
  unfold insert?
  split
  · next h => simp [hmem.mp h]
  · next h =>
    have hnone : s.job? job.id = none := by
      by_contra hc
      exact h (hmem.mpr hc)
    simp [hnone, put, eq_comm]

/-- A record can be replaced only under an id that is stored. -/
theorem update?_eq_ok_iff {s s' : Store} {job : Job} :
    s.update? job = .ok s' ↔ s.job? job.id ≠ none ∧ s' = s.put job := by
  have hmem := s.contains_iff_job?_ne_none job.id
  unfold update?
  split
  · next h => simp [hmem.mp h, put, eq_comm]
  · next h =>
    have hnone : s.job? job.id = none := by
      by_contra hc
      exact h (hmem.mpr hc)
    simp [hnone]

/-- A job is stored under a new id only. -/
theorem insert?_of_stored {s : Store} {job : Job} (h : s.job? job.id ≠ none) :
    s.insert? job = .error (.duplicate job.id) :=
  if_pos ((s.contains_iff_job?_ne_none job.id).mpr h)

/-- Only a stored job is updated. -/
theorem update?_of_not_stored {s : Store} {job : Job} (h : s.job? job.id = none) :
    s.update? job = .error (.unknownJob job.id) :=
  if_neg fun hc => (s.contains_iff_job?_ne_none job.id).mp hc h

/-- Every record stands under its own id. -/
def Keyed (s : Store) : Prop := ∀ id job, s.job? id = some job → job.id = id

theorem keyed_empty : empty.Keyed := by
  intro id job h
  simp at h

/-- Jobs are kept under their own ids. -/
theorem Keyed.put {s : Store} (h : s.Keyed) (job : Job) : (s.put job).Keyed := by
  intro id record hrecord
  rw [job?_put] at hrecord
  split at hrecord
  · next hid =>
    cases hrecord
    exact hid
  · exact h id record hrecord

theorem Keyed.putOutcome {s : Store} (h : s.Keyed) (o : Outcome) : (s.putOutcome o).Keyed :=
  fun id job hjob => h id job hjob

/-- The jobs of a store are those found under their ids. -/
theorem mem_values {s : Store} (h : s.Keyed) {job : Job} :
    job ∈ s.jobs.values ↔ s.job? job.id = some job := by
  rw [values_eq_map_toList, List.mem_map]
  refine ⟨?_, fun hjob => ?_⟩
  · rintro ⟨⟨id, record⟩, hmem, rfl⟩
    have hrecord : s.job? id = some record := Std.TreeMap.mem_toList_iff_getElem?_eq_some.mp hmem
    rw [h id record hrecord]
    exact hrecord
  · exact ⟨(job.id, job), Std.TreeMap.mem_toList_iff_getElem?_eq_some.mpr hjob, rfl⟩

/-- The jobs listed for a type are the stored ones of that type. -/
theorem mem_listByType {s : Store} (h : s.Keyed) {t : String} {status : Option Status} {job : Job} :
    job ∈ s.listByType t status ↔
      s.job? job.id = some job ∧ job.jobType = t ∧ status.all (job.status == ·) = true := by
  unfold listByType
  rw [List.mem_mergeSort, List.mem_filter, mem_values h, Bool.and_eq_true, beq_iff_eq]

end Store

/-! ## Calls to a backend -/

namespace Backend

variable {α : Type} {b b' : Backend}

/-- A call that succeeds does what it is for. -/
theorem call_ok {c : StoreCall} {act : Store → Except StoreError (α × Store)} {x : α}
    (h : b.call c act = (.ok x, b')) : act b.store = .ok (x, b'.store) := by
  have hgo : ∀ b₀ : Backend, b₀.store = b.store → call.go act b₀ = (.ok x, b') →
      act b.store = .ok (x, b'.store) := by
    intro b₀ hstore hcall
    -- nothing but the plan tells `b₀` from `b`, and the call itself does not look at that
    unfold call.go at hcall
    rw [hstore] at hcall
    split at hcall
    · next a store hact =>
      cases hcall
      exact hact
    · cases hcall
  unfold call at h
  split at h
  · cases h
  · next rest _ => exact hgo (b.setPlan c rest) rfl h
  · exact hgo b rfl h

/-- A call that fails leaves the store as it was. -/
theorem call_error {c : StoreCall} {act : Store → Except StoreError (α × Store)} {e : StoreError}
    (h : b.call c act = (.error e, b')) : b'.store = b.store := by
  have hgo : ∀ b₀ : Backend, b₀.store = b.store → call.go act b₀ = (.error e, b') →
      b'.store = b.store := by
    intro b₀ hstore hcall
    unfold call.go at hcall
    split at hcall
    · cases hcall
    · cases hcall
      exact hstore
  unfold call at h
  split at h
  · cases h
    rfl
  · next rest _ => exact hgo (b.setPlan c rest) rfl h
  · exact hgo b rfl h

/-- A job that was inserted had not been there. -/
theorem insertJob_ok {job : Job} {u : Unit} (h : b.insertJob job = (.ok u, b')) :
    b.store.job? job.id = none ∧ b'.store = b.store.put job := by
  have hact := call_ok h
  cases hins : b.store.insert? job with
  | error e => simp [hins, Except.map] at hact
  | ok s =>
    obtain ⟨hnone, rfl⟩ := Store.insert?_eq_ok_iff.mp hins
    simp only [hins, Except.map, Except.ok.injEq, Prod.mk.injEq, true_and] at hact
    exact ⟨hnone, hact.symm⟩

/-- A job that was updated had been there. -/
theorem updateJob_ok {job : Job} {u : Unit} (h : b.updateJob job = (.ok u, b')) :
    b.store.job? job.id ≠ none ∧ b'.store = b.store.put job := by
  have hact := call_ok h
  cases hupd : b.store.update? job with
  | error e => simp [hupd, Except.map] at hact
  | ok s =>
    obtain ⟨hsome, rfl⟩ := Store.update?_eq_ok_iff.mp hupd
    simp only [hupd, Except.map, Except.ok.injEq, Prod.mk.injEq, true_and] at hact
    exact ⟨hsome, hact.symm⟩

/-- A result that was put is stored. -/
theorem putResult_ok {o : Outcome} {u : Unit} (h : b.putResult o = (.ok u, b')) :
    b'.store = b.store.putOutcome o := by
  have hact := call_ok h
  simp only [Except.ok.injEq, Prod.mk.injEq, true_and] at hact
  exact hact.symm

/-- A job that was read is the one stored. -/
theorem getJob_ok {id : JobId} {x : Option Job} (h : b.getJob id = (.ok x, b')) :
    x = b.store.job? id ∧ b'.store = b.store := by
  have hact := call_ok h
  simp only [Except.ok.injEq, Prod.mk.injEq] at hact
  exact ⟨hact.1.symm, hact.2.symm⟩

/-- A list that was read is that of the store, which remains as it is. -/
theorem listByType_ok {t : String} {status : Option Status} {jobs : List Job}
    (h : b.listByType t status = (.ok jobs, b')) :
    jobs = b.store.listByType t status ∧ b'.store = b.store := by
  have hact := call_ok h
  simp only [Except.ok.injEq, Prod.mk.injEq] at hact
  exact ⟨hact.1.symm, hact.2.symm⟩

end Backend

/-! ## Willing backends -/

/-- No call is planned to fail. -/
def Backend.Willing (b : Backend) : Prop := ∀ c, b.plan c = []

namespace Backend

variable {b : Backend}

theorem willing_empty : empty.Willing := fun _ => rfl

namespace Willing

/-- A call answers as the store does, and the next one will, too. -/
theorem call_eq {α : Type} (h : b.Willing) (c : StoreCall)
    (act : Store → Except StoreError (α × Store)) :
    (b.call c act).1 = (act b.store).map (·.1) ∧ (b.call c act).2.Willing := by
  unfold Backend.call
  rw [h c]
  show (Backend.call.go act b).1 = _ ∧ (Backend.call.go act b).2.Willing
  unfold Backend.call.go
  cases act b.store with
  | error e => exact ⟨rfl, h⟩
  | ok answer => exact ⟨rfl, h⟩

/-- A store that is willing stays so. -/
theorem of_call {α : Type} {b' : Backend} (h : b.Willing) {c : StoreCall}
    {act : Store → Except StoreError (α × Store)} {answer : Except StoreError α}
    (hcall : b.call c act = (answer, b')) : b'.Willing := by
  have hwilling := (h.call_eq c act).2
  rw [hcall] at hwilling
  exact hwilling

/-- A call that a willing store can carry out succeeds. -/
theorem call_of_ok {α : Type} (h : b.Willing) (c : StoreCall)
    {act : Store → Except StoreError (α × Store)} {x : α} {s : Store}
    (hact : act b.store = .ok (x, s)) : b.call c act = (.ok x, { b with store := s }) := by
  unfold Backend.call
  rw [h c]
  show Backend.call.go act b = _
  unfold Backend.call.go
  rw [hact]

/-- A call that it cannot carry out says why. -/
theorem call_of_error {α : Type} (h : b.Willing) (c : StoreCall)
    {act : Store → Except StoreError (α × Store)} {e : StoreError}
    (hact : act b.store = .error e) : b.call c act = (.error e, b) := by
  unfold Backend.call
  rw [h c]
  show Backend.call.go act b = _
  unfold Backend.call.go
  rw [hact]

/-- The record of a job is read. -/
theorem getJob (h : b.Willing) (id : JobId) : (b.getJob id).1 = .ok (b.store.job? id) :=
  (h.call_eq _ _).1

/-- The record of a stored job is replaced. -/
theorem updateJob (h : b.Willing) {job : Job} (stored : b.store.job? job.id ≠ none) :
    (b.updateJob job).1 = .ok () := by
  have hput : b.store.update? job = .ok (b.store.put job) :=
    Store.update?_eq_ok_iff.mpr ⟨stored, rfl⟩
  have hanswer := (h.call_eq .updateJob fun s => (s.update? job).map ((), ·)).1
  rw [hput] at hanswer
  exact hanswer

/-- An outcome is set. -/
theorem putResult (h : b.Willing) (o : Outcome) : (b.putResult o).1 = .ok () := (h.call_eq _ _).1

end Willing

end Backend

end JobRunner
