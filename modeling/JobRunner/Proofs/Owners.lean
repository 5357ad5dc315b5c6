import JobRunner.Proofs.Life

/-!
# Owners

No job is attempted twice at once, and none is lost but where a delay cannot be drawn.

- `Job.Counted`: the counts of a record, which leave room for another attempt while it is runnable.
- `Life.Sane`: the records of a job are counted, and a job that is in nobody's hands and in no lane
  is not runnable.
- `Actor.Paced`: the rules of delays that an activity goes by.
- `Plant.solelyOwned_run`: every runnable job has exactly one owner, unless a worker with an
  unsteady rule has broken off with it.
- `Plant.lost_of_erratic`: such a job, which nobody owns.
-/

namespace JobRunner

/-! ## Counts -/

/-- The counts of a record are in range, and a runnable job may be attempted once more. -/
structure Job.Counted (job : Job) : Prop where
  nonneg : 0 ≤ job.attempts
  le_max : job.attempts ≤ job.maxAttempts
  max_le : job.maxAttempts ≤ Job.greatestCount
  left : job.status.isRunnable = true → job.attempts < job.maxAttempts

/-- The same, where `extra` attempts are allowed beyond the most, however many those are. -/
structure Job.Budgeted (job : Job) (extra : Nat) : Prop where
  nonneg : 0 ≤ job.attempts
  within : job.attempts ≤ job.maxAttempts + extra
  left : job.status.isRunnable = true → job.attempts < job.maxAttempts + extra

/-- A counted job is within its budget, which can be counted. -/
theorem Job.counted_iff {job : Job} :
    job.Counted ↔ job.Budgeted 0 ∧ job.maxAttempts ≤ Job.greatestCount := by
  have hnothing : job.maxAttempts + (0 : Nat) = job.maxAttempts := Int.add_zero _
  constructor
  · intro h
    exact ⟨⟨h.nonneg, hnothing.symm ▸ h.le_max, fun hrun => hnothing.symm ▸ h.left hrun⟩, h.max_le⟩
  · rintro ⟨h, hmax⟩
    exact ⟨h.nonneg, hnothing ▸ h.within, hmax, fun hrun => hnothing ▸ h.left hrun⟩

/-- A new job is counted. -/
theorem Job.IsNew.counted {job : Job} (h : job.IsNew) : job.Counted := by
  obtain ⟨id, now, request, rfl, hmax⟩ := h
  have hgreatest : (1 : Int) ≤ Job.greatestCount := by decide
  have hpending : 0 < max request.maxAttempts 1 := by omega
  have hmost : max request.maxAttempts 1 ≤ Job.greatestCount := by omega
  exact ⟨Int.le_refl 0, Int.le_of_lt hpending, hmost, fun _ => hpending⟩

namespace Attempt.Move

variable {a a' : Attempt} {es : List Entry} {h : Handover} {record : Job}
  {outcome : Option Outcome}

/-- A record stays within its budget in an attempt, and the budget stays as it is. -/
theorem budgeted (m : Move a a' es h) (fits : a.Fits record outcome) {extra : Nat}
    (hb : record.Budgeted extra) :
    ∀ record', es.foldl Entry.onRecord (some record) = some record' →
      record'.Budgeted extra ∧ record'.maxAttempts = record.maxAttempts := by
  intro record' hrecord
  cases m with
  | claim clock run room =>
    cases hrecord
    obtain ⟨rfl, -⟩ := fits
    -- only a claim counts, and only a runnable job is claimed, which has an attempt left
    have hleft := hb.left run
    refine ⟨⟨?_, ?_, fun hrun => ?_⟩, rfl⟩
    · have hnonneg := hb.nonneg
      show 0 ≤ record.attempts + 1
      omega
    · show record.attempts + 1 ≤ record.maxAttempts + extra
      omega
    · cases hrun
  | conclude r o tries =>
    cases hrecord
    obtain ⟨⟨hstatus, clock, rfl, ho⟩, -⟩ := fits
    refine ⟨⟨hb.nonneg, hb.within, fun hrun => ?_⟩, rfl⟩
    rw [ho, Job.moved_status] at hrun
    cases r <;> cases hrun
  | reschedule clock why may =>
    cases hrecord
    obtain ⟨⟨rfl, -⟩, hstatus, again⟩ := fits
    refine ⟨⟨hb.nonneg, hb.within, fun _ => ?_⟩, rfl⟩
    simp only [Job.shouldRetry, Job.attemptsLeft, Bool.and_eq_true, decide_eq_true_eq] at again
    have hleft : record.attempts < record.maxAttempts := again.2
    show record.attempts < record.maxAttempts + extra
    omega
  | _ =>
    cases hrecord
    exact ⟨hb, rfl⟩

/-- A counted record stays counted in an attempt. -/
theorem counted (m : Move a a' es h) (fits : a.Fits record outcome) (hc : record.Counted) :
    ∀ record', es.foldl Entry.onRecord (some record) = some record' → record'.Counted := by
  intro record' hrecord
  obtain ⟨hb, hmax⟩ := Job.counted_iff.mp hc
  obtain ⟨hb', hsame⟩ := m.budgeted fits hb record' hrecord
  exact Job.counted_iff.mpr ⟨hb', hsame ▸ hmax⟩

/-- A job that its attempt gives up is not runnable. -/
theorem not_runnable (m : Move a a' es .none) (fits : a.Fits record outcome) (hc : record.Counted)
    (owns : a.owns = true) (gone : a'.owns = false) :
    ∀ record', es.foldl Entry.onRecord (some record) = some record' →
      record'.status.isRunnable = false := by
  intro record' hrecord
  -- the attempt ends with a record that is final, or failed, or still processing
  cases m with
  | notRunnable hnot =>
    obtain ⟨rfl, hrun⟩ := fits
    rw [hnot] at hrun
    cases hrun
  | countFull run hfull =>
    obtain ⟨rfl, -⟩ := fits
    have hleft := hc.left run
    have hmax := hc.max_le
    omega
  | succeed value =>
    cases hrecord
    obtain ⟨rfl, clock, -, hstatus⟩ := fits
    rw [hstatus]
    rfl
  | fail why final =>
    cases hrecord
    obtain ⟨rfl, clock, -, hstatus⟩ := fits
    rw [hstatus]
    rfl
  | abandon why =>
    cases hrecord
    rw [fits.1]
    rfl
  | rescheduleRefused clock why e may =>
    cases hrecord
    rw [fits.2.1]
    rfl
  | notReschedulable why hnot =>
    obtain ⟨⟨rfl, -⟩, hstatus, -⟩ := fits
    rw [hstatus] at hnot
    cases hnot
  | report clock r =>
    rw [report_of_fits fits] at gone
    cases gone
  | stay now blocked =>
    rw [gone] at owns
    cases owns
  | ringBack | ringOff => cases owns
  | _ => cases gone

end Attempt.Move

/-! ## Sane lives -/

/-- Counts are in range, and a job that nobody has is not runnable. -/
structure Life.Sane (y : Life) : Prop where
  counted : ∀ job, y.record = some job → job.Counted
  free : y.post = .free → ∀ job, y.record = some job → job.status.isRunnable = false

/-- Every step of a life keeps it sane. -/
theorem Life.Step.sane {id : JobId} {y y' : Life} (step : Step id y y') (h : y.Sane) :
    y'.Sane := by
  cases step with
  | insert job isNew =>
    refine ⟨fun job' hjob => ?_, fun hpost => by cases hpost⟩
    cases hjob
    exact isNew.counted
  | start job b runnable => exact ⟨h.counted, fun hpost => by cases hpost⟩
  | @move record outcome js a a' es hand move owns fits =>
    have hc := h.counted record rfl
    refine ⟨move.counted fits hc, fun hpost => ?_⟩
    cases hand with
    | none =>
      have hgone : a'.owns = false := by
        by_contra hkept
        have hafter : Post.after a' .none = .attempted a' := if_pos (Bool.not_eq_false _ ▸ hkept)
        rw [hafter] at hpost
        cases hpost
      exact move.not_runnable fits hc owns hgone
    | lane | timer due => cases hpost

/-- A life is sane as long as it lasts. -/
theorem Life.Lived.sane {id : JobId} {y : Life} (h : Lived id y) : y.Sane := by
  induction h with
  | unborn => exact ⟨nofun, nofun⟩
  | step lived step ih => exact step.sane ih

/-! ## Rules of delays -/

/-- A worker and its attempt go by rules of delays with a property. -/
def Worker.Paced (w : Worker) (rule : Backoff → Prop) : Prop :=
  rule w.backoff ∧ ∀ a, w.attempt? = some a → rule a.backoff

/-- So does an activity, if it is a worker. -/
def Actor.Paced (x : Actor) (rule : Backoff → Prop) : Prop :=
  match x with
  | worker w => w.Paced rule
  | producer _ | timer _ => True

variable {rule : Backoff → Prop}

theorem Worker.paced_of_idle {w : Worker} (hrule : rule w.backoff) (hidle : w.attempt? = none) :
    w.Paced rule := by
  refine ⟨hrule, fun a ha => ?_⟩
  rw [hidle] at ha
  cases ha

/-- A worker keeps its pace. -/
theorem Worker.Paced.step {w : Worker} {s : Service} (h : w.Paced rule) (hs : s.queue.Sound)
    (t : Tick) : (w.step s t.now t.clock t.draws t.cancelled t.ringFirst).1.Paced rule := by
  obtain ⟨jobType, b, stage⟩ := w
  obtain ⟨hb, ha⟩ := h
  have hb : rule b := hb
  cases stage with
  | idle =>
    simp only [Worker.step]
    split <;> exact Worker.paced_of_idle hb rfl
  | fetching c =>
    simp only [Worker.step]
    split
    · next answer hdone =>
      rcases answer with e | _ | job
      · exact Worker.paced_of_idle hb rfl
      · exact Worker.paced_of_idle hb rfl
      · -- a new attempt goes by the rule of its worker
        refine ⟨hb, fun a hnew => ?_⟩
        cases hnew
        exact hb
    · exact Worker.paced_of_idle hb rfl
  | busy a =>
    simp only [Worker.step]
    split
    · next answer hanswer =>
      unfold Worker.afterAttempt
      split <;> exact Worker.paced_of_idle hb rfl
    · -- no step of an attempt changes its rule
      obtain ⟨_, explained⟩ := Attempt.step_explained hs a t.now t.clock t.draws
      refine ⟨hb, fun a' ha' => ?_⟩
      cases ha'
      rw [explained.move.backoff_kept]
      exact ha a rfl
  | resting due =>
    simp only [Worker.step]
    split
    · exact Worker.paced_of_idle hb rfl
    · split <;> exact Worker.paced_of_idle hb rfl
  | stopped => exact Worker.paced_of_idle hb rfl

/-- So does every activity. -/
theorem Actor.Paced.step {x : Actor} {s : Service} (h : x.Paced rule) (hs : s.queue.Sound)
    (t : Tick) : (x.step s t).1.Paced rule := by
  cases x with
  | worker w => exact Worker.Paced.step h hs t
  | producer | timer => trivial

theorem Actor.Paced.report {x : Actor} (h : x.Paced rule) (clock : Instant)
    (r : Except Failure Json) : (x.report clock r).Paced rule := by
  cases hx : x.executes? with
  | none => rwa [Actor.report_of_not_executes hx]
  | some id =>
    obtain ⟨t, b, job, backoff, rfl, -⟩ := Actor.executes?_eq_some hx
    obtain ⟨hb, ha⟩ := h
    refine ⟨hb, fun a' ha' => ?_⟩
    cases ha'
    have hmove : Attempt.Move ⟨job, backoff, .calling⟩
        (Attempt.report ⟨job, backoff, .calling⟩ clock r) [.reported job.id r] .none :=
      .report clock r
    rw [hmove.backoff_kept]
    exact ha _ rfl

namespace Plant

theorem paced_replace {p : Plant} (h : ∀ x ∈ p.actors, x.Paced rule) {x : Actor}
    (hx : x.Paced rule) (i : Nat) (s : Service) (added : Option RetryTimer) (es : List Entry) :
    ∀ y ∈ (p.replace i x s added es).actors, y.Paced rule := by
  intro y hy
  rcases List.mem_append.mp hy with hy | hy
  · rcases List.mem_or_eq_of_mem_set hy with hy | rfl
    · exact h y hy
    · exact hx
  · cases added with
    | none => cases hy
    | some r =>
      cases List.mem_singleton.mp hy
      trivial

/-- An action leaves all activities paced, if those that it hires are. -/
theorem paced_step {p : Plant} (h : p.Orderly) (hp : ∀ x ∈ p.actors, x.Paced rule) (act : Action)
    (hires : ∀ t b, act = .hire t b → rule b) : ∀ x ∈ (p.step act).actors, x.Paced rule := by
  cases act with
  | enqueue =>
    intro x hx
    rcases List.mem_append.mp hx with hx | hx
    · exact hp x hx
    · cases List.mem_singleton.mp hx
      trivial
  | hire t b =>
    intro x hx
    rcases List.mem_append.mp hx with hx | hx
    · exact hp x hx
    · cases List.mem_singleton.mp hx
      exact Worker.paced_of_idle (hires t b rfl) rfl
  | advance i t =>
    simp only [Plant.step]
    split
    · next x hx => exact paced_replace hp ((hp x (List.mem_of_getElem? hx)).step h.sound t) _ _ _ _
    · exact hp
  | report i clock r =>
    simp only [Plant.step]
    split
    · next x hx => exact paced_replace hp ((hp x (List.mem_of_getElem? hx)).report clock r) _ _ _ _
    · exact hp
  | plan | visit => exact hp

/-- All activities go by rules with which workers have been hired. -/
theorem paced_run (rule : Backoff → Prop) {p : Plant} (h : p.Orderly)
    (hp : ∀ x ∈ p.actors, x.Paced rule) (actions : List Action)
    (hires : ∀ t b, .hire t b ∈ actions → rule b) : ∀ x ∈ (p.run actions).actors, x.Paced rule := by
  induction actions generalizing p with
  | nil => exact hp
  | cons act actions ih =>
    refine ih (h.step act) (paced_step h hp act fun t b hact => ?_) fun t b hmem => ?_
    · exact hires t b (hact ▸ List.mem_cons_self)
    · exact hires t b (List.mem_cons_of_mem act hmem)

end Plant

/-! ## Owners in a plant -/

namespace Plant

variable {p : Plant} {id : JobId}

/-- A job that waits or is attempted has an owner, unless an activity has broken off with it. -/
theorem exists_owner {post : Post} (hpost : p.Keeps id post)
    (stored : p.record? id ≠ none) (busy : post ≠ .free) :
    (∃ o, p.Owns o id) ∨ ∃ i, p.Strands i id := by
  have of_actor : ∀ x ∈ p.actors, x.holds? = some id →
      (∃ o, p.Owns o id) ∨ ∃ i, p.Strands i id := by
    intro x hx hid
    obtain ⟨i, hi⟩ := List.mem_iff_getElem?.mp hx
    have hbind : ∀ f : Actor → Option JobId, p.actors[i]?.bind f = f x := by
      intro f
      rw [hi]
      rfl
    rcases Actor.owns?_or_strands? hid with howns | hstrands
    · exact .inl ⟨.actor i, (hbind _).trans howns⟩
    · exact .inr ⟨i, (hbind _).trans hstrands⟩
  cases post with
  | absent => exact absurd hpost stored
  | waiting =>
    rcases hpost with ⟨t, ht⟩ | ⟨x, hx, hc⟩
    · obtain ⟨k, hk⟩ := List.mem_iff_getElem?.mp ht
      exact .inl ⟨.place t k, hk⟩
    · exact of_actor x hx (Actor.holds?_of_carries?_eq_some hc)
  | attempted a =>
    obtain ⟨hid, x, hx, ha⟩ := hpost
    exact of_actor x hx (hid ▸ Actor.holds?_of_attempt? ha)
  | free => exact absurd rfl busy

/-- An activity that owns a job has it in its hands. -/
theorem holds_of_owns {i : Nat} (h : p.Owns (.actor i) id) :
    p.actors[i]?.bind Actor.holds? = some id := by
  obtain ⟨x, hx, hid⟩ := Option.bind_eq_some_iff.mp h
  exact Option.bind_eq_some_iff.mpr ⟨x, hx, (Actor.owns?_eq_some_iff.mp hid).2⟩

/-- Who strands a job holds it. -/
theorem holds_of_strands {i : Nat} (h : p.Strands i id) :
    p.actors[i]?.bind Actor.holds? = some id := by
  obtain ⟨x, hx, hid⟩ := Option.bind_eq_some_iff.mp h
  exact Option.bind_eq_some_iff.mpr ⟨x, hx, Actor.holds?_of_strands? hid⟩

namespace Orderly

/-- Activities that have the same job in their hands stand at the same place. -/
theorem index_unique (h : p.Orderly) {i j : Nat} (hi : p.actors[i]?.bind Actor.holds? = some id)
    (hj : p.actors[j]?.bind Actor.holds? = some id) : i = j := by
  obtain ⟨x, hx, hxid⟩ := Option.bind_eq_some_iff.mp hi
  obtain ⟨y, hy, hyid⟩ := Option.bind_eq_some_iff.mp hj
  obtain ⟨hi, rfl⟩ := List.getElem?_eq_some_iff.mp hx
  obtain ⟨hj, rfl⟩ := List.getElem?_eq_some_iff.mp hy
  have hapart := List.pairwise_iff_getElem.mp h.apart
  rcases Nat.lt_trichotomy i j with hlt | heq | hlt
  · exact absurd hyid (hapart i j hi hj hlt id hxid)
  · exact heq
  · exact absurd hxid (hapart j i hj hi hlt id hyid)

/-- A job in a lane is in nobody's hands. -/
theorem not_holds_of_place (h : p.Orderly) {t : String} {k i : Nat}
    (hplace : p.Owns (.place t k) id) : p.actors[i]?.bind Actor.holds? ≠ some id := by
  intro hactor
  obtain ⟨x, hx, hxid⟩ := Option.bind_eq_some_iff.mp hactor
  exact h.unheld t id (List.mem_of_getElem? hplace) x (List.mem_of_getElem? hx) hxid

/-- Nobody owns a job beside its owner. -/
theorem owner_unique (h : p.Orderly) {o o' : Owner} (ho : p.Owns o id) (ho' : p.Owns o' id) :
    o = o' := by
  cases o with
  | actor i =>
    cases o' with
    | actor j => rw [h.index_unique (holds_of_owns ho) (holds_of_owns ho')]
    | place t k => exact absurd (holds_of_owns ho) (h.not_holds_of_place ho')
  | place t k =>
    cases o' with
    | actor j => exact absurd (holds_of_owns ho') (h.not_holds_of_place ho)
    | place t' k' =>
      obtain ⟨job, hjob, htype, -⟩ := h.posted t id (List.mem_of_getElem? ho)
      obtain ⟨job', hjob', htype', -⟩ := h.posted t' id (List.mem_of_getElem? ho')
      rw [hjob] at hjob'
      cases hjob'
      obtain rfl := htype.symm.trans htype'
      obtain ⟨hk, -⟩ := List.getElem?_eq_some_iff.mp ho
      rw [(List.getElem?_inj hk (h.sound t).nodup).mp (ho.trans ho'.symm)]

/-- Nobody owns a job with which an activity has broken off. -/
theorem not_owns_of_strands (h : p.Orderly) {i : Nat} (hi : p.Strands i id) (o : Owner) :
    ¬p.Owns o id := by
  intro ho
  cases o with
  | actor j =>
    obtain rfl := h.index_unique (holds_of_strands hi) (holds_of_owns ho)
    obtain ⟨x, hx, hstrands⟩ := Option.bind_eq_some_iff.mp hi
    obtain ⟨y, hy, howns⟩ := Option.bind_eq_some_iff.mp ho
    cases hx.symm.trans hy
    rw [(Actor.owns?_eq_some_iff.mp howns).1] at hstrands
    cases hstrands
  | place t k => exact h.not_holds_of_place ho (holds_of_strands hi)

/-- A job with which an activity has broken off is retrying, and the activity goes by a rule of
delays that is not steady. -/
theorem stranded (h : p.Orderly) (hp : ∀ x ∈ p.actors, x.Paced rule) {i : Nat}
    (hi : p.Strands i id) :
    (∃ job, p.record? id = some job ∧ job.status = .retrying) ∧ ∃ b, rule b ∧ ¬b.IsSteady := by
  obtain ⟨x, hx, hstrands⟩ := Option.bind_eq_some_iff.mp hi
  have hmem : x ∈ p.actors := List.mem_of_getElem? hx
  obtain ⟨a, ha, hbroken, rfl⟩ := Actor.strands?_eq_some hstrands
  obtain ⟨record, hrecord, hfits⟩ := (h.informed x hmem).attempt ha
  obtain ⟨hstatus, hunsteady⟩ := hfits.of_isBroken hbroken
  obtain ⟨-, t, b, rfl⟩ := Actor.attempt?_eq_some ha
  exact ⟨⟨record, hrecord, hstatus⟩, a.backoff, (hp _ hmem).2 a rfl, hunsteady⟩

end Orderly

/-- An activity that executes a handler owns the job. -/
theorem owns_of_executes {i : Nat} (h : p.Executes i id) : p.Owns (.actor i) id := by
  obtain ⟨x, hx, hid⟩ := Option.bind_eq_some_iff.mp h
  obtain ⟨t, b, job, backoff, rfl, hjob⟩ := Actor.executes?_eq_some hid
  show p.actors[i]?.bind Actor.owns? = some id
  rw [hx, ← hjob]
  rfl

/-- A stored job that is pending or retrying has an owner, unless an activity has broken off with
it. -/
theorem exists_owner_of_runnable (settings : ServiceSettings) (actions : List Action) {job : Job}
    (record : ((new settings).run actions).record? id = some job)
    (runnable : job.status.isRunnable = true) :
    (∃ o, ((new settings).run actions).Owns o id) ∨
      ∃ i, ((new settings).run actions).Strands i id := by
  obtain ⟨post, hpost, lived⟩ := exists_lived settings actions id
  have hstored : ((new settings).run actions).record? id ≠ none := by
    rw [record]
    exact Option.some_ne_none job
  refine exists_owner hpost hstored fun hfree => ?_
  have hidle := lived.sane.free hfree job record
  rw [runnable] at hidle
  cases hidle

end Plant

end JobRunner
