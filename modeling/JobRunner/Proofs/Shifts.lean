import JobRunner.Machine.Basic
import JobRunner.Proofs.Executions

/-!
# Shifts

A crew at work until it is told to stop.

- `Shift`: a plant, and the only crew that works in it, which begins once and can be told to stop at
  any moment, before it begins as well.
- `Deed`: one thing that happens in a shift. No call to the store fails.
- `Shift.Returned`: the crew has begun, and all of its workers have ended.
- `Shift.drained_run`: when the crew has returned, whatever it has taken from the lanes has been
  executed to the end, and whatever is still to be done waits in one place, but for jobs with which
  a worker has broken off.
- `Shift.lost_of_erraticCrew`: a job that waits nowhere when the crew has returned.
-/

namespace JobRunner

/-! ## A crew that can be told to stop -/

/-- All workers have ended. -/
def Plant.Deserted (p : Plant) : Prop := ∀ w, .worker w ∈ p.actors → w.isStopped = true

/-- A plant with a crew that works in it. -/
structure Shift where
  plant : Plant
  crew : Crew
  /-- Whether the crew has begun. -/
  begun : Bool
  /-- Whether the crew has been told to stop. -/
  cancelled : Bool

/-- One thing that happens in a shift. -/
inductive Deed where
  /-- The crew begins, all workers at once. -/
  | start
  /-- The crew is told to stop. -/
  | cancel
  /-- A call that enqueues a job begins. -/
  | enqueue (id : JobId) (now : Instant) (request : JobRequest)
      (countable : request.maxAttempts ≤ Job.greatestCount)
  /-- An activity takes a step. -/
  | advance (actor : Nat) (now : Nat) (clock : Instant) (draws : Draws) (ringFirst : Bool)
  /-- The handler that an activity has called comes to an end. -/
  | report (actor : Nat) (clock : Instant) (report : Except Failure Json)
  | visit (visit : Visit)

/-- All workers of a crew go by its rule of delays. -/
theorem Crew.backoff_of_mem_workers (crew : Crew) {w : Worker} (h : w ∈ crew.workers) :
    w.backoff = crew.backoff := by
  obtain ⟨t, -, hw⟩ := List.mem_flatMap.mp h
  rw [List.eq_of_mem_replicate hw]
  rfl

/-- What may happen in a plant while a crew is at work: no call to the store fails, and whoever is
hired goes by the rule of the crew. -/
def Action.Suits (act : Action) (crew : Crew) : Prop :=
  act.isPlan = false ∧ ∀ t b, act = .hire t b → b = crew.backoff

namespace Shift

/-- An empty service, and a crew that has not begun. -/
def new (settings : ServiceSettings) (crew : Crew) : Shift := ⟨.new settings, crew, false, false⟩

/-- What a deed is in the plant. A crew begins only once. -/
def actions (s : Shift) : Deed → List Action
  | .start => if s.begun then [] else s.crew.workers.map fun w => .hire w.jobType w.backoff
  | .cancel => []
  | .enqueue id now request countable => [.enqueue id now request countable]
  | .advance i now clock draws ringFirst => [.advance i ⟨now, clock, draws, s.cancelled, ringFirst⟩]
  | .report i clock report => [.report i clock report]
  | .visit visit => [.visit visit]

/-- Something happens. -/
def step (s : Shift) (d : Deed) : Shift where
  plant := s.plant.run (s.actions d)
  crew := s.crew
  begun := s.begun || d matches .start
  cancelled := s.cancelled || d matches .cancel

/-- Some things happen, one after the other. -/
def run (s : Shift) (ds : List Deed) : Shift := ds.foldl step s

/-- The crew has begun, and all of its workers have ended. -/
structure Returned (s : Shift) : Prop where
  begun : s.begun = true
  deserted : s.plant.Deserted

variable {s : Shift}

/-- Nobody plans for calls to fail in a shift, and all workers go by the rule of the crew. -/
theorem suits_actions (s : Shift) (d : Deed) : ∀ act ∈ s.actions d, act.Suits s.crew := by
  intro act hact
  cases d with
  | start =>
    simp only [actions] at hact
    by_cases hbegun : s.begun = true
    · rw [if_pos hbegun] at hact
      cases hact
    · rw [if_neg hbegun] at hact
      obtain ⟨w, hw, rfl⟩ := List.mem_map.mp hact
      refine ⟨rfl, fun t b hhire => ?_⟩
      cases hhire
      exact s.crew.backoff_of_mem_workers hw
  | cancel => cases hact
  | enqueue | advance | report | visit =>
    cases List.mem_singleton.mp hact
    exact ⟨rfl, nofun⟩

/-- What happens in the plant of a shift. -/
theorem exists_plant_run (s : Shift) (ds : List Deed) :
    ∃ acts, (s.run ds).plant = s.plant.run acts ∧ ∀ act ∈ acts, act.Suits s.crew := by
  induction ds generalizing s with
  | nil => exact ⟨[], rfl, fun act hact => absurd hact List.not_mem_nil⟩
  | cons d ds ih =>
    obtain ⟨acts, hplant, hacts⟩ := ih (s.step d)
    refine ⟨s.actions d ++ acts, ?_, fun act hact => ?_⟩
    · rw [Plant.run_append]
      exact hplant
    · rcases List.mem_append.mp hact with hact | hact
      · exact s.suits_actions d act hact
      · exact hacts act hact

theorem run_append (s : Shift) (ds ds' : List Deed) :
    s.run (ds ++ ds') = (s.run ds).run ds' := List.foldl_append ..

end Shift

/-! ## While nobody works -/

namespace Plant

/-- A worker has taken a job from its lane, and does not attempt it yet. -/
def Takes (p : Plant) (id : JobId) : Prop :=
  ∃ w, .worker w ∈ p.actors ∧ (Actor.worker w).carries? = some id

/-- The owners that a job can have while nobody works. -/
inductive Shelved (p : Plant) (job : Job) : Owner → Prop
  /-- A place in the lane of its type. -/
  | lane {k : Nat} (waits : (p.waiting job.jobType)[k]? = some job.id) :
      Shelved p job (.place job.jobType k)
  /-- A timer that has not fired. -/
  | timer {i due : Nat} (sleeps : p.actors[i]? = some (.timer ⟨job, due, .sleeping⟩)) :
      Shelved p job (.actor i)
  /-- A call that enqueues it, and is not done. -/
  | call {i : Nat} (pushes : p.actors[i]? = some (.producer (.pushing job))) :
      Shelved p job (.actor i)

namespace Deserted

variable {p : Plant}

/-- A worker that has ended carries no job. -/
theorem carries?_eq_none (h : p.Deserted) {w : Worker} (hw : .worker w ∈ p.actors) :
    (Actor.worker w).carries? = none := by
  have hstopped := h w hw
  obtain ⟨t, b, stage⟩ := w
  cases stage with
  | fetching => cases hstopped
  | idle | busy | resting | stopped => rfl

/-- A worker that has ended in an attempt has broken off. -/
theorem isBroken (h : p.Deserted) {x : Actor} (hx : x ∈ p.actors) {a : Attempt}
    (ha : x.attempt? = some a) : a.isBroken = true := by
  obtain ⟨-, t, b, rfl⟩ := Actor.attempt?_eq_some ha
  exact h _ hx

/-- A worker that has ended will go on with nothing. -/
theorem owns?_eq_none (h : p.Deserted) {w : Worker} (hw : .worker w ∈ p.actors) :
    (Actor.worker w).owns? = none := by
  cases howns : (Actor.worker w).owns? with
  | none => rfl
  | some id =>
    obtain ⟨hnone, hheld⟩ := Actor.owns?_eq_some_iff.mp howns
    rcases Actor.carries?_or_attempt? hheld with hcarries | ⟨a, ha, -⟩
    · rw [h.carries?_eq_none hw] at hcarries
      cases hcarries
    · have hbroken := h.isBroken hw ha
      obtain ⟨-, t, b, hworker⟩ := Actor.attempt?_eq_some ha
      rw [hworker] at hnone
      rw [show (Actor.worker ⟨t, b, .busy a⟩).strands? = some a.job.id from if_pos hbroken] at hnone
      cases hnone

/-- A job under way has been executed. -/
theorem executed (h : p.Deserted) {i : Nat} {job : Job} {js : List Entry}
    (under : p.Underway i job js) : ∃ clock clock' report more,
      p.history job.id = js ++ Attempt.execution (job.claimed clock) clock' report ++ more := by
  cases under with
  | taken place carries =>
    rw [h.carries?_eq_none (List.mem_of_getElem? place)] at carries
    cases carries
  | attempted place attempt partway =>
    have hbroken := h.isBroken (List.mem_of_getElem? place) attempt
    cases partway <;> cases hbroken
  | executed clock clock' report more history => exact ⟨clock, clock', report, more, history⟩

/-- Whoever owns a job keeps it for another worker. -/
theorem shelved (h : p.Deserted) (ho : p.Orderly) {job : Job}
    (record : p.record? job.id = some job) {o : Owner} (owns : p.Owns o job.id) :
    p.Shelved job o := by
  have same : ∀ {job' : Job}, p.service.store.job? job'.id = some job' → job'.id = job.id →
      job = job' := by
    intro job' hjob' hid
    rw [hid] at hjob'
    exact Option.some.inj (record.symm.trans hjob')
  cases o with
  | place t k =>
    obtain ⟨job', hjob', htype, -⟩ := ho.posted t job.id (List.mem_of_getElem? owns)
    obtain rfl : job = job' := Option.some.inj (record.symm.trans hjob')
    subst htype
    exact .lane owns
  | actor i =>
    obtain ⟨x, hx, hheld⟩ := Option.bind_eq_some_iff.mp owns
    have hmem : x ∈ p.actors := List.mem_of_getElem? hx
    have hinformed := ho.informed x hmem
    cases x with
    | producer q =>
      cases q with
      | pushing job' =>
        obtain rfl := same hinformed.1 (Option.some.inj hheld)
        exact .call hx
      | checking | inserting | ringing | done => cases hheld
    | worker w =>
      -- the shift is over, so no worker holds anything
      rw [h.owns?_eq_none hmem] at hheld
      cases hheld
    | timer r =>
      obtain ⟨job', due, stage⟩ := r
      cases stage with
      | sleeping =>
        obtain rfl := same hinformed.1 (Option.some.inj hheld)
        exact .timer hx
      | ringing | done => cases hheld

end Deserted

/-- A job of which an execution has come to its end has an outcome. -/
theorem outcome?_ne_none_of_execution (settings : ServiceSettings) {actions : List Action}
    {id : JobId} {running : Job} {clock : Instant} {report : Except Failure Json}
    {js more : List Entry} (history : ((new settings).run actions).history id =
      js ++ Attempt.execution running clock report ++ more) :
    ((new settings).run actions).outcome? id ≠ none := by
  obtain ⟨post, -, lived⟩ := exists_lived settings actions id
  refine lived.outcome_ne_none (o := Attempt.outcomeOf running clock report) ?_
  show _ ∈ ((new settings).run actions).history id
  rw [history]
  simp [Attempt.execution, Attempt.beginning, Attempt.ending]

end Plant

namespace Shift

/-! ## After the crew has returned -/

/-- The plant of a shift after some deeds, from an empty service on. -/
def plantAfter (settings : ServiceSettings) (crew : Crew) (ds : List Deed) : Plant :=
  ((new settings crew).run ds).plant

/-- What a shift has left behind. -/
structure Drained (settings : ServiceSettings) (crew : Crew) (ds : List Deed) : Prop where
  /-- No stored job is processing. -/
  settled : ∀ id job, (plantAfter settings crew ds).record? id = some job →
    job.status ≠ .processing
  /-- Every job that a worker took at some time was executed from there on: from the claim of the
  record that was stored then to the publication of the outcome. And it has an outcome. -/
  executed : ∀ before, before <+: ds → ∀ id, (plantAfter settings crew before).Takes id →
    ∃ job clock clock' report more,
      (plantAfter settings crew before).record? id = some job ∧
      (plantAfter settings crew ds).history id = (plantAfter settings crew before).history id ++
        Attempt.execution (job.claimed clock) clock' report ++ more ∧
      (plantAfter settings crew ds).outcome? id ≠ none
  /-- Every stored job that is pending or retrying has exactly one owner, who keeps it for another
  worker; unless a worker has broken off with it, whose rule of delays is not steady. -/
  kept : ∀ id job, (plantAfter settings crew ds).record? id = some job →
    job.status.isRunnable = true →
      (∃ o, (plantAfter settings crew ds).Shelved job o ∧
        ∀ o', (plantAfter settings crew ds).Owns o' id ↔ o' = o) ∨
      (¬crew.backoff.IsSteady ∧ job.status = .retrying ∧
        ∃ i, (plantAfter settings crew ds).Strands i id)

/-- The plant of a shift began empty. -/
private theorem exists_run (settings : ServiceSettings) (crew : Crew) (ds : List Deed) :
    ∃ acts, plantAfter settings crew ds = (Plant.new settings).run acts ∧
      ∀ act ∈ acts, act.Suits crew :=
  (new settings crew).exists_plant_run ds

/-- What happens in a shift goes on from what happened before. -/
private theorem exists_run_append (settings : ServiceSettings) (crew : Crew) (ds ds' : List Deed) :
    ∃ acts acts', plantAfter settings crew ds = (Plant.new settings).run acts ∧
      plantAfter settings crew (ds ++ ds') = (Plant.new settings).run (acts ++ acts') ∧
      ∀ act ∈ acts ++ acts', act.isPlan = false := by
  obtain ⟨acts, hplant, hacts⟩ := exists_run settings crew ds
  obtain ⟨acts', hplant', hacts'⟩ := ((new settings crew).run ds).exists_plant_run ds'
  refine ⟨acts, acts', hplant, ?_, fun act hact => ?_⟩
  · rw [Plant.run_append, ← hplant]
    unfold plantAfter
    rw [run_append, hplant']
  · rcases List.mem_append.mp hact with hact | hact
    · exact (hacts act hact).1
    · exact (hacts' act hact).1

/-- When a crew has returned, wherever it was when it was told to stop, everything that it had taken
has been executed to the end, and everything still to be done is kept, unless a worker has broken
off with it. -/
theorem drained_run (settings : ServiceSettings) (crew : Crew) (ds : List Deed)
    (returned : ((new settings crew).run ds).Returned) : Drained settings crew ds := by
  have deserted : (plantAfter settings crew ds).Deserted := returned.deserted
  refine ⟨fun id job record processing => ?_, fun before hbefore id takes => ?_,
    fun id job record runnable => ?_⟩
  · obtain ⟨acts, hplant, hacts⟩ := exists_run settings crew ds
    rw [hplant] at record deserted
    obtain ⟨a, rfl, x, hx, ha⟩ := Plant.attempted_of_processing settings
      (fun act hact => (hacts act hact).1) record processing
    -- a worker that has ended in an attempt has left the job retrying
    have h : ((Plant.new settings).run acts).Orderly := Plant.orderly_run settings acts
    obtain ⟨record', hrecord', hfits⟩ := (h.informed x hx).attempt ha
    cases record.symm.trans hrecord'
    rw [(hfits.of_isBroken (deserted.isBroken hx ha)).1] at processing
    cases processing
  · obtain ⟨after, rfl⟩ := hbefore
    obtain ⟨acts, acts', hplant, hplant', unplanned⟩ :=
      exists_run_append settings crew before after
    rw [hplant] at takes ⊢
    rw [hplant'] at deserted ⊢
    obtain ⟨w, hw, carries⟩ := takes
    obtain ⟨i, hi⟩ := List.mem_iff_getElem?.mp hw
    have h : ((Plant.new settings).run acts).Orderly := Plant.orderly_run settings acts
    obtain ⟨job, record, -⟩ := (h.informed _ hw).carried carries
    obtain rfl : job.id = id := h.keyed id job record
    -- the worker has ended since, so the job is not on its way any more
    obtain ⟨clock, clock', report, more, history⟩ :=
      deserted.executed (Plant.underway_run settings unplanned (.taken hi carries record rfl))
    exact ⟨job, clock, clock', report, more, record, history,
      Plant.outcome?_ne_none_of_execution settings history⟩
  · obtain ⟨acts, hplant, hacts⟩ := exists_run settings crew ds
    rw [hplant] at record deserted ⊢
    have h : ((Plant.new settings).run acts).Orderly := Plant.orderly_run settings acts
    obtain rfl : job.id = id := h.keyed id job record
    rcases Plant.exists_owner_of_runnable settings acts record runnable with
      ⟨o, owns⟩ | ⟨i, strands⟩
    · refine .inl ⟨o, deserted.shelved h record owns, fun o' => ⟨fun owns' => ?_, ?_⟩⟩
      · exact h.owner_unique owns' owns
      · rintro rfl
        exact owns
    · have hpaced := Plant.paced_run (· = crew.backoff) (Plant.orderly_new settings)
        (fun x hx => absurd hx List.not_mem_nil) acts fun t b hmem => (hacts _ hmem).2 t b rfl
      obtain ⟨⟨job', record', retrying⟩, b, rfl, unsteady⟩ := h.stranded hpaced strands
      cases record.symm.trans record'
      exact .inr ⟨unsteady, retrying, i, strands⟩

/-- A crew with one worker, who delivers mail. -/
def mailCrew (b : Backoff) : Crew :=
  .ofHandlers (.ofList [("mail", Handler.plain fun _ _ => .endless)]) 1 b

/-- The crew is told to stop just after its worker has taken a mail from the lane. The delivery
takes too long, and may be tried again. -/
def interruptedMail : List Deed :=
  let steps (n i : Nat) := List.replicate n (Deed.advance i 0 .epoch (.ofList []) false)
  [.enqueue .nil .epoch ⟨"mail", .null, 5⟩ (by decide)] ++ steps 4 0 ++ [.start] ++ steps 3 1 ++
    [.cancel] ++ steps 5 1 ++ [.report 1 .epoch (.error (.ofKind .timeout "no answer"))] ++
    steps 9 1

/-- A shift in which a mail was enqueued and one worker was hired is over when the worker has
ended. -/
private theorem returned_of_actors {b : Backoff} {ds : List Deed} {w : Worker}
    (begun : ((new .standard (mailCrew b)).run ds).begun = true)
    (actors : (plantAfter .standard (mailCrew b) ds).actors =
      [.producer (.done (.ok .nil)), .worker w])
    (stopped : w.isStopped = true) : ((new .standard (mailCrew b)).run ds).Returned := by
  refine ⟨begun, fun w' hw' => ?_⟩
  have hmem : .worker w' ∈ (plantAfter .standard (mailCrew b) ds).actors := hw'
  rw [actors] at hmem
  simp only [List.mem_cons, List.not_mem_nil, or_false, reduceCtorEq, false_or,
    Actor.worker.injEq] at hmem
  rw [hmem]
  exact stopped

/-- The mail is tried once, and then waits in its lane for another crew. -/
theorem drained_of_interruptedMail :
    ((new .standard (mailCrew .immediate)).run interruptedMail).Returned ∧
      (plantAfter .standard (mailCrew .immediate) (interruptedMail.take 9)).Takes .nil ∧
      Drained .standard (mailCrew .immediate) interruptedMail ∧
      ((plantAfter .standard (mailCrew .immediate) interruptedMail).record? .nil).map Job.status =
        some .retrying ∧
      (plantAfter .standard (mailCrew .immediate) interruptedMail).waiting "mail" = [.nil] := by
  have hactors : (plantAfter .standard (mailCrew .immediate) interruptedMail).actors =
      [.producer (.done (.ok .nil)), .worker ⟨"mail", .immediate, .stopped⟩] := by
    rfl
  have returned := returned_of_actors (by decide +kernel) hactors rfl
  refine ⟨returned, ?_, drained_run .standard _ interruptedMail returned, ?_, ?_⟩
  · have hreading :
        (plantAfter .standard (mailCrew .immediate) (interruptedMail.take 9)).actors[1]? =
          some (.worker
            ⟨"mail", .immediate, .fetching ⟨"mail", 5000, .reading .satisfied .nil⟩⟩) := by
      rfl
    exact ⟨_, List.mem_of_getElem? hreading, rfl⟩
  · decide +kernel
  · decide +kernel

/-- If the worker goes by a rule from which no delay can be drawn, the crew returns, and the mail is
retrying and waits nowhere. -/
theorem lost_of_erraticCrew :
    ((new .standard (mailCrew .erratic)).run interruptedMail).Returned ∧
      ((plantAfter .standard (mailCrew .erratic) interruptedMail).record? .nil).map Job.status =
        some .retrying ∧
      ∀ o, ¬(plantAfter .standard (mailCrew .erratic) interruptedMail).Owns o .nil := by
  have hactors : ∃ a, (plantAfter .standard (mailCrew .erratic) interruptedMail).actors =
      [.producer (.done (.ok .nil)), .worker ⟨"mail", .erratic, .busy a⟩] ∧ a.isBroken = true :=
    ⟨_, rfl, rfl⟩
  obtain ⟨a, hactors, hbroken⟩ := hactors
  obtain ⟨acts, hplant, -⟩ := exists_run .standard (mailCrew .erratic) interruptedMail
  have horderly : (plantAfter .standard (mailCrew .erratic) interruptedMail).Orderly :=
    hplant ▸ Plant.orderly_run .standard acts
  have hstrands : (plantAfter .standard (mailCrew .erratic) interruptedMail).Strands 1 .nil := by
    unfold Plant.Strands
    decide +kernel
  exact ⟨returned_of_actors (by decide +kernel) hactors hbroken, by decide +kernel,
    horderly.not_owns_of_strands hstrands⟩

end Shift

end JobRunner
