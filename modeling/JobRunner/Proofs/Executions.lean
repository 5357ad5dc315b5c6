import JobRunner.Proofs.Course
import JobRunner.Proofs.Willing

/-!
# Executions

What becomes of a job that a worker has taken, as long as no call to the store fails.

- `Attempt.Partway`: how far an attempt has come in an execution.
- `Plant.Underway`: the worker still has the job it has taken, attempts it, or has executed it.
- `Plant.underway_run`: a job that has been taken stays under way, whatever happens.
-/

namespace JobRunner

namespace Attempt

/-! ## One execution -/

/-- How far an attempt of `job` has come in its execution, and what has happened so far. -/
inductive Partway (job : Job) : Attempt → List Entry → Prop
  | claiming {b} : Partway job ⟨job, b, .claiming⟩ []
  | announcing {b} (clock : Instant) :
      Partway job ⟨job.claimed clock, b, .announcing⟩ [.written (job.claimed clock)]
  | calling {b} (clock : Instant) :
      Partway job ⟨job.claimed clock, b, .calling⟩ (beginning (job.claimed clock))
  | recording {b} {running : Job} (clock clock' : Instant) (report : Except Failure Json)
      (claimed : running = job.claimed clock) :
      Partway job
        ⟨running.moved (outcomeOf running clock' report).status clock', b,
          .recording report (outcomeOf running clock' report) 0⟩
        (beginning running ++ (ending running clock' report).take 1)
  | concluding {b} {running : Job} (clock clock' : Instant) (report : Except Failure Json)
      (claimed : running = job.claimed clock) :
      Partway job
        ⟨running.moved (outcomeOf running clock' report).status clock', b,
          .concluding report (outcomeOf running clock' report) 0⟩
        (beginning running ++ (ending running clock' report).take 2)
  | publishing {b} {running : Job} (clock clock' : Instant) (report : Except Failure Json)
      (claimed : running = job.claimed clock) :
      Partway job
        ⟨running.moved (outcomeOf running clock' report).status clock', b, .publishing report⟩
        (beginning running ++ (ending running clock' report).take 3)

theorem Partway.job_id {job : Job} {a : Attempt} {js : List Entry} (part : Partway job a js) :
    a.job.id = job.id := by
  cases part with
  | claiming | announcing | calling => rfl
  | recording _ _ _ claimed | concluding _ _ _ claimed | publishing _ _ _ claimed =>
    rw [claimed]
    rfl

/-- A move of an attempt whose writes are accepted takes it a part further, or to the end of its
execution. -/
theorem Partway.move {job : Job} {a a' : Attempt} {es js : List Entry} {h : Handover}
    {record : Job} {outcome : Option Outcome} (part : Partway job a js) (m : Move a a' es h)
    (fits : a.Fits record outcome) (counted : record.Counted)
    (accepted : ∀ id call why, .refused id call why ∉ es) :
    (a'.owns = true ∧ Partway job a' (js ++ es)) ∨
      ∃ clock clock' report, js ++ es = execution (job.claimed clock) clock' report := by
  -- a step of the attempt does what comes next, or nothing at all
  have refused : ∀ {id call why}, es ≠ [.refused id call why] := by
    rintro id call why rfl
    exact accepted id call why List.mem_cons_self
  have still : a' = a → es = [] → a.owns = true → a'.owns = true ∧ Partway job a' (js ++ es) := by
    rintro rfl rfl howns
    rw [List.append_nil]
    exact ⟨howns, part⟩
  cases part with
  | claiming =>
    cases m with
    | claim clock run room => exact .inl ⟨rfl, .announcing clock⟩
    | claimRefused clock why => exact absurd rfl refused
    | notRunnable hnot =>
      obtain ⟨rfl, hrun⟩ := fits
      rw [hnot] at hrun
      cases hrun
    | countFull run hfull =>
      obtain ⟨rfl, -⟩ := fits
      have hleft := counted.left run
      have hmax := counted.max_le
      omega
    | rest writing | giveUp writing => cases writing
    | stay => exact .inl (still rfl rfl rfl)
  | announcing clock =>
    cases m with
    | announce => exact .inl ⟨rfl, .calling clock⟩
    | rest writing | giveUp writing => cases writing
    | stay => exact .inl (still rfl rfl rfl)
  | calling clock =>
    cases m with
    | report clock' r =>
      left
      rw [report_of_fits fits]
      exact ⟨rfl, .recording clock clock' r rfl⟩
    | rest writing | giveUp writing => cases writing
    | stay => exact .inl (still rfl rfl rfl)
  | recording clock clock' r claimed =>
    cases m with
    | record => exact .inl ⟨rfl, .concluding clock clock' r claimed⟩
    | rest writing why | giveUp writing why => exact absurd rfl refused
    | stay => exact .inl (still rfl rfl rfl)
  | concluding clock clock' r claimed =>
    cases m with
    | conclude => exact .inl ⟨rfl, .publishing clock clock' r claimed⟩
    | rest writing why | giveUp writing why => exact absurd rfl refused
    | stay => exact .inl (still rfl rfl rfl)
  | publishing clock clock' r claimed =>
    subst claimed
    cases m with
    | succeed value => exact .inr ⟨clock, clock', _, rfl⟩
    | retry why again => exact .inr ⟨clock, clock', _, rfl⟩
    | fail why final => exact .inr ⟨clock, clock', _, rfl⟩
    | rest writing | giveUp writing => cases writing
    | stay => exact .inl (still rfl rfl rfl)

end Attempt

/-- A job that is at rest at the end of its course is not processing. -/
theorem Life.OnCourse.not_processing_of_free {id : JobId} {most : Int}
    {o : Nat → Except Failure Json} {y : Life} (on : OnCourse id most o y) (free : y.post = .free)
    {record : Job} (hrecord : y.record = some record) : record.status ≠ .processing := by
  cases on with
  | @ended record₀ js n clock ends status =>
    obtain rfl : record₀ = record := Option.some.inj hrecord
    rw [status]
    cases o n <;> exact Status.noConfusion
  | _ => cases free

/-- An outcome that has been written, or is written on the way, is there in the end. -/
theorem Entry.foldl_onOutcome_ne_none (es : List Entry) {outcome : Option Outcome}
    (h : outcome ≠ none ∨ ∃ o, .recorded o ∈ es) : es.foldl onOutcome outcome ≠ none := by
  induction es generalizing outcome with
  | nil =>
    rcases h with h | ⟨o, hmem⟩
    · exact h
    · cases hmem
  | cons e es ih =>
    refine ih ?_
    rcases h with h | ⟨o, hmem⟩
    · left
      cases e with
      | recorded o => exact Option.some_ne_none o
      | inserted | written | refused | published | called | reported => exact h
    · rcases List.mem_cons.mp hmem with rfl | hmem
      · exact .inl (Option.some_ne_none o)
      · exact .inr ⟨o, hmem⟩

/-- A job of which an outcome has been written has one. -/
theorem Life.Lived.outcome_ne_none {id : JobId} {y : Life} (lived : Lived id y) {o : Outcome}
    (recorded : .recorded o ∈ y.entries) : y.outcome ≠ none := by
  induction lived with
  | unborn => cases recorded
  | step lived step ih =>
    cases step with
    | insert => cases List.mem_singleton.mp recorded
    | start => exact ih recorded
    | move =>
      rcases List.mem_append.mp recorded with hbefore | hnow
      · exact Entry.foldl_onOutcome_ne_none _ (.inl (ih hbefore))
      · exact Entry.foldl_onOutcome_ne_none _ (.inr ⟨o, hnow⟩)

/-! ## A worker that has taken a job -/

namespace Actor

variable {w : Worker} {id : JobId}

/-- A worker keeps the job that it has taken, as long as its record can be read. -/
theorem holds?_step_of_carries? {s : Service} (h : s.queue.backend.Willing)
    (hi : (worker w).Informed s.store) (reads : (worker w).restores = false)
    (carries : (worker w).carries? = some id) (t : Tick) :
    ((worker w).step s t).1.holds? = some id := by
  obtain ⟨jobType, b, stage⟩ := w
  cases stage with
  | fetching c =>
    obtain ⟨cType, deadline, stage⟩ := c
    cases stage with
    | reading ear id₀ =>
      cases carries
      obtain ⟨job, hjob, hid, -, hrun⟩ := hi
      -- the record can be read, and its job is runnable
      have hread := h.getJob id
      rcases hu : s.queue.backend.getJob id with ⟨e | found, b'⟩
      · rw [hu] at hread
        cases hread
      · rw [hu] at hread
        obtain rfl : found = some job := (Except.ok.inj hread).trans hjob
        simp only [Actor.step, Worker.step, Consumer.step, hu, hrun, if_true]
        exact congrArg some hid
    | leaving ear answer =>
      rcases answer with e | _ | job
      · cases carries
      · cases carries
      · exact carries
    | done answer =>
      rcases answer with e | _ | job
      · cases carries
      · cases carries
      · exact carries
    | restoring => cases reads
    | listening | popping | ringing | parked => cases carries
  | idle | busy | resting | stopped => cases carries

/-- A worker that has taken a job and does not attempt it yet executes no handler. -/
theorem executes?_of_carries? (carries : (worker w).carries? = some id) :
    (worker w).executes? = none := by
  obtain ⟨jobType, b, stage⟩ := w
  cases stage with
  | busy a => cases carries
  | idle | fetching | resting | stopped => rfl

end Actor

/-! ## What one activity leaves alone -/

/-- The activity whose step an action is. -/
def Action.actor? : Action → Option Nat
  | advance i _ | report i _ _ => some i
  | _ => none

namespace Plant

variable {p : Plant} {id : JobId} {i : Nat} {x x' : Actor} {service : Service}
  {added : Option RetryTimer} {es : List Entry}

/-- An activity that has taken a step stands where it stood. -/
theorem getElem?_replace (hx : p.actors[i]? = some x) (x' : Actor) (service : Service)
    (added : Option RetryTimer) (es : List Entry) :
    (p.replace i x' service added es).actors[i]? = some x' := by
  obtain ⟨hlt, -⟩ := List.getElem?_eq_some_iff.mp hx
  have hlt' : i < (p.actors.set i x').length := by rwa [List.length_set]
  show (p.actors.set i x' ++ (added.map Actor.timer).toList)[i]? = some x'
  rw [List.getElem?_append_left hlt', List.getElem?_set_self hlt]

theorem step_advance (hx : p.actors[i]? = some x) (t : Tick) :
    p.step (.advance i t) = p.replace i (x.step p.service t).1 (x.step p.service t).2.1
      (x.step p.service t).2.2 (x.entries p.service t) := by
  simp only [Plant.step, hx]

theorem step_report (hx : p.actors[i]? = some x) (clock : Instant) (r : Except Failure Json) :
    p.step (.report i clock r) =
      p.replace i (x.report clock r) p.service none (x.reportEntries r) := by
  simp only [Plant.step, hx]

/-- What happens adds to the history of a job. -/
theorem Orderly.history_step (h : p.Orderly) (act : Action) (id : JobId) :
    ∃ more, (p.step act).history id = p.history id ++ more := by
  obtain ⟨es, hjournal, -⟩ := h.journal_step act
  refine ⟨es.filter (·.jobId = id), ?_⟩
  unfold history
  rw [hjournal, List.filter_append]

namespace Orderly

/-- The step of an activity leaves the others alone, and the jobs in their hands. -/
private theorem replace_of_other (h : p.Orderly) (hx : p.actors[i]? = some x)
    (held : x.holds? = some id) {j : Nat} (hne : j ≠ i) {y y' : Actor}
    (hy : p.actors[j]? = some y) (effect : Actor.Effect y p.service y' service added es) :
    (p.replace j y' service added es).actors[i]? = some x ∧
      (p.replace j y' service added es).record? id = p.record? id ∧
      (p.replace j y' service added es).history id = p.history id := by
  have hmem : x ∈ p.actors := List.mem_of_getElem? hx
  have hstored : p.record? id ≠ none := (h.informed x hmem).stored held
  have hes : ∀ e ∈ es, e.jobId ≠ id := by
    intro e he hid
    rcases effect.transfer.touched (h.informed y (List.mem_of_getElem? hy)) e he with
      hheld | ⟨hfresh, -⟩
    · have hi : p.actors[i]?.bind Actor.holds? = some id := by rw [hx]; exact held
      have hj : p.actors[j]?.bind Actor.holds? = some id := by rw [hy]; exact hid ▸ hheld
      exact hne (h.index_unique hj hi)
    · exact hstored (hid ▸ hfresh)
  obtain ⟨hlt, -⟩ := List.getElem?_eq_some_iff.mp hx
  refine ⟨?_, ?_, ?_⟩
  · have hlt' : i < (p.actors.set j y').length := by rwa [List.length_set]
    show (p.actors.set j y' ++ (added.map Actor.timer).toList)[i]? = some x
    rw [List.getElem?_append_left hlt', List.getElem?_set_ne hne, hx]
  · show service.store.job? id = p.service.store.job? id
    rw [effect.store]
    exact (Entry.foldl_onStore_of_ne es _ id hes).1
  · rw [history_replace, List.filter_eq_nil_iff.mpr, List.append_nil]
    exact fun e he => by simpa using hes e he

/-- Whatever others do, an activity stays as it is, and so does the job in its hands. -/
theorem step_of_other (h : p.Orderly) (hx : p.actors[i]? = some x) (held : x.holds? = some id)
    {act : Action} (other : act.actor? ≠ some i) :
    (p.step act).actors[i]? = some x ∧ (p.step act).record? id = p.record? id ∧
      (p.step act).history id = p.history id := by
  obtain ⟨hlt, -⟩ := List.getElem?_eq_some_iff.mp hx
  cases act with
  | enqueue | hire => exact ⟨(List.getElem?_append_left hlt).trans hx, rfl, rfl⟩
  | advance j t =>
    simp only [Plant.step]
    cases hy : p.actors[j]? with
    | none => exact ⟨hx, rfl, rfl⟩
    | some y =>
      have hne : j ≠ i := fun heq => other (congrArg some heq)
      exact h.replace_of_other hx held hne hy (h.advance_effect hy t)
  | report j clock r =>
    simp only [Plant.step]
    cases hy : p.actors[j]? with
    | none => exact ⟨hx, rfl, rfl⟩
    | some y =>
      have hne : j ≠ i := fun heq => other (congrArg some heq)
      exact h.replace_of_other hx held hne hy (h.report_effect hy clock r)
  | plan | visit => exact ⟨hx, rfl, rfl⟩

end Orderly

/-! ## A job that has been taken -/

/-- What has become of a job that the worker at `i` has taken when `js` had happened to it. -/
inductive Underway (p : Plant) (i : Nat) (job : Job) (js : List Entry) : Prop
  | taken {w : Worker} (place : p.actors[i]? = some (.worker w))
      (carries : (Actor.worker w).carries? = some job.id) (record : p.record? job.id = some job)
      (history : p.history job.id = js)
  | attempted {x : Actor} {a : Attempt} {part : List Entry} (place : p.actors[i]? = some x)
      (attempt : x.attempt? = some a) (partway : Attempt.Partway job a part)
      (history : p.history job.id = js ++ part)
  | executed (clock clock' : Instant) (report : Except Failure Json) (more : List Entry)
      (history : p.history job.id =
        js ++ Attempt.execution (job.claimed clock) clock' report ++ more)

namespace Underway

variable {job : Job} {js : List Entry}

/-- A worker that keeps the job it has taken still has it, or begins to attempt it. -/
private theorem replace_taken {w w' : Worker} (hx : p.actors[i]? = some (.worker w))
    (carries : (Actor.worker w).carries? = some job.id) (record : p.record? job.id = some job)
    (history : p.history job.id = js)
    (effect : Actor.Effect (.worker w) p.service (.worker w') service added es)
    (keeps : (Actor.worker w').holds? = some job.id) :
    (p.replace i (.worker w') service added es).Underway i job js := by
  -- only a start and a move of an attempt change what is in the hands of the worker
  have hplace := getElem?_replace hx (.worker w') service added es
  have hheld := Actor.holds?_of_carries?_eq_some carries
  have hstore := effect.store
  cases effect.transfer with
  | quiet carries' =>
    refine .taken hplace (carries'.trans carries) ?_ ?_
    · show service.store.job? job.id = some job
      rw [hstore]
      exact record
    · rw [history_replace, history]
      exact List.append_nil js
  | start job' b stored runnable carries₀ attempt attempt' =>
    have hid : job'.id = job.id := Option.some.inj (carries₀.symm.trans carries)
    rw [hid] at stored
    obtain rfl : job' = job := Option.some.inj (stored.symm.trans record)
    refine .attempted hplace attempt' .claiming ?_
    rw [history_replace, history]
    rfl
  | move move attempt =>
    rw [Actor.carries?_of_attempt? attempt] at carries
    cases carries
  | push job' stored runnable carries₀ attempt empty =>
    rw [empty] at keeps
    cases keeps
  | insert job' isNew fresh empty | pop t₀ id₀ empty =>
    rw [empty] at hheld
    cases hheld

/-- An attempt goes on, or comes to the end of its execution. -/
private theorem replace_attempted (h : p.Orderly) (hx : p.actors[i]? = some x) {a : Attempt}
    {part : List Entry} (attempt : x.attempt? = some a) (partway : Attempt.Partway job a part)
    (history : p.history job.id = js ++ part)
    (effect : Actor.Effect x p.service x' service added es)
    (counted : ∀ record, p.record? job.id = some record → record.Counted)
    (accepted : ∀ id call why, .refused id call why ∉ es) :
    (p.replace i x' service added es).Underway i job js := by
  have hplace := getElem?_replace hx x' service added es
  have hheld := Actor.holds?_of_attempt? attempt
  have hid : a.job.id = job.id := partway.job_id
  cases effect.transfer with
  | quiet carries' attempt' =>
    refine .attempted hplace (attempt'.trans attempt) partway ?_
    rw [history_replace, history]
    exact List.append_nil _
  | @move a₀ a' es hand move attempt₀ carries' attempt' =>
    obtain rfl : a₀ = a := Option.some.inj (attempt₀.symm.trans attempt)
    obtain ⟨record, hrecord, hfits⟩ :=
      (h.informed x (List.mem_of_getElem? hx)).attempt attempt
    rw [hid] at hrecord
    -- everything the attempt does concerns this job
    have hes : es.filter (·.jobId = job.id) = es := by
      rw [List.filter_eq_self]
      intro e he
      simpa using (move.entry_jobId hfits e he).trans hid
    have hnext : (p.replace i x' service (hand.timer? a₀.job) es).history job.id =
        js ++ (part ++ es) := by
      rw [history_replace, history, hes, List.append_assoc]
    rcases partway.move move hfits (counted record hrecord) accepted with
      ⟨howns, hpart⟩ | ⟨clock, clock', report, hdone⟩
    · rw [if_pos howns] at attempt'
      exact .attempted hplace attempt' hpart hnext
    · refine .executed clock clock' report [] ?_
      rw [hnext, hdone, List.append_nil]
  | push job' stored runnable carries attempt₀ | start job' b stored runnable carries attempt₀ =>
    rw [attempt₀] at attempt
    cases attempt
  | insert job' isNew fresh empty | pop t₀ id₀ empty =>
    rw [empty] at hheld
    cases hheld

/-- Whatever happens, a job that has been taken stays under way. -/
theorem step (h : p.Orderly) (hu : p.Unfailing)
    (counted : ∀ record, p.record? job.id = some record → record.Counted) (act : Action)
    (under : p.Underway i job js) : (p.step act).Underway i job js := by
  -- whoever else takes a step leaves the worker and the history of the job alone
  cases under with
  | taken place carries record history =>
    have hmem := List.mem_of_getElem? place
    by_cases other : act.actor? = some i
    · cases act with
      | advance j t =>
        cases other
        rw [step_advance place]
        exact replace_taken place carries record history (h.advance_effect place t)
          (Actor.holds?_step_of_carries? hu.willing (h.informed _ hmem) (hu.reads _ hmem) carries t)
      | report j clock r =>
        cases other
        have heffect := h.report_effect place clock r
        rw [step_report place]
        rw [Actor.report_of_not_executes (Actor.executes?_of_carries? carries)] at heffect ⊢
        exact replace_taken place carries record history heffect
          (Actor.holds?_of_carries?_eq_some carries)
      | _ => cases other
    · obtain ⟨hplace, hrecord, hhistory⟩ :=
        h.step_of_other place (Actor.holds?_of_carries?_eq_some carries) other
      exact .taken hplace carries (hrecord.trans record) (hhistory.trans history)
  | attempted place attempt partway history =>
    have hmem := List.mem_of_getElem? place
    by_cases other : act.actor? = some i
    · cases act with
      | advance j t =>
        cases other
        rw [step_advance place]
        exact replace_attempted h place attempt partway history (h.advance_effect place t) counted
          (Actor.accepted _ hu.willing (h.informed _ hmem) t)
      | report j clock r =>
        cases other
        rw [step_report place]
        exact replace_attempted h place attempt partway history (h.report_effect place clock r)
          counted (Actor.accepted_report _ r)
      | _ => cases other
    · have hheld := Actor.holds?_of_attempt? attempt
      rw [partway.job_id] at hheld
      obtain ⟨hplace, -, hhistory⟩ := h.step_of_other place hheld other
      exact .attempted hplace attempt partway (hhistory.trans history)
  | executed clock clock' report more history =>
    obtain ⟨more', hmore⟩ := h.history_step act job.id
    refine .executed clock clock' report (more ++ more') ?_
    rw [hmore, history, List.append_assoc]

end Underway

/-- The records of an unfailing plant that began empty are counted. -/
private theorem counted_run (settings : ServiceSettings) (actions : List Action) (id : JobId) :
    ∀ record, ((new settings).run actions).record? id = some record → record.Counted := by
  obtain ⟨post, -, lived⟩ := exists_lived settings actions id
  exact lived.sane.counted

theorem run_append (p : Plant) (actions actions' : List Action) :
    p.run (actions ++ actions') = (p.run actions).run actions' := List.foldl_append ..

/-- A job that has been taken stays under way, whatever happens. -/
theorem underway_run (settings : ServiceSettings) {before after : List Action}
    (unplanned : ∀ act ∈ before ++ after, act.isPlan = false) {job : Job} {js : List Entry}
    (under : ((new settings).run before).Underway i job js) :
    ((new settings).run (before ++ after)).Underway i job js := by
  -- on what happens afterwards; what has happened before grows
  induction after generalizing before with
  | nil =>
    rw [List.append_nil]
    exact under
  | cons act after ih =>
    have hsplit : before ++ act :: after = before ++ [act] ++ after := by
      rw [List.append_assoc, List.singleton_append]
    have hbefore : ∀ act ∈ before, act.isPlan = false :=
      fun act hmem => unplanned act (List.mem_append_left _ hmem)
    rw [hsplit] at unplanned ⊢
    refine ih unplanned ?_
    rw [run_append]
    exact under.step (orderly_run settings before) (unfailing_run settings hbefore)
      (counted_run settings before job.id) act

/-- As long as no call to the store fails, a job that is processing is being attempted. -/
theorem attempted_of_processing (settings : ServiceSettings) {actions : List Action}
    (unplanned : ∀ act ∈ actions, act.isPlan = false) {job : Job}
    (record : ((new settings).run actions).record? id = some job)
    (processing : job.status = .processing) :
    ∃ a, ((new settings).run actions).Keeps id (.attempted a) := by
  have h : ((new settings).run actions).Orderly := orderly_run settings actions
  have hu := unfailing_run settings unplanned
  obtain ⟨post, hpost, lived⟩ := exists_lived settings actions id
  generalize (new settings).run actions = p at *
  have hnot : job.status.isRunnable ≠ true := by
    rw [processing]
    decide
  have waiting : ¬p.Keeps id .waiting := by
    rintro (⟨t, ht⟩ | ⟨x, hx, hc⟩)
    · obtain ⟨job', hjob', -, hrun⟩ := h.posted t id ht
      exact hnot (Option.some.inj (record.symm.trans hjob') ▸ hrun)
    · obtain ⟨job', hjob', hrun⟩ := (h.informed x hx).carried hc
      exact hnot (Option.some.inj (record.symm.trans hjob') ▸ hrun)
  have accepted : ∀ i call why, Entry.refused i call why ∉ (p.life id post).entries := by
    intro i call why hmem
    exact hu.accepted i call why (List.mem_filter.mp hmem).1
  -- the reports so far are those of the course that they begin
  have reported : ∀ (i : Nat) r,
      ((p.life id post).entries.filterMap Entry.reported?)[i]? = some r →
        r = (((p.life id post).entries.filterMap Entry.reported?)[i]?).getD (.ok .null) := by
    intro i r hr
    rw [hr]
    rfl
  rcases lived.onCourse accepted reported with hunborn | ⟨first, -, -, on⟩
  · cases record.symm.trans (congrArg Life.record hunborn)
  · cases post with
    | absent => cases record.symm.trans hpost
    | waiting => exact absurd hpost waiting
    | attempted a => exact ⟨a, hpost⟩
    | free => exact absurd processing (on.not_processing_of_free rfl record)

end Plant

end JobRunner
