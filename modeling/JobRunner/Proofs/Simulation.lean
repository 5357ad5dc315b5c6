import JobRunner.Machine.Step
import JobRunner.Proofs.Executions

/-!
# The machine and the plant

`Plant` lets activities step in any order. The machine takes them in an order of its own, under a
clock of its own. This file connects the two: whatever the machine does is a run of a plant.

- `Task.actor?`: what a task of the machine is in a plant.
- `Plant.Depicts`: a plant in which the tasks of a machine are at work.
- `Machine.verdict?`: what an attempt is told that waits for its handler.
- `Plant.Depicts.step`: a step of the machine is some actions of such a plant.
- `Machine.Depicted`: a machine whose work is a run of a plant that began empty.
- `Machine.Depicted.calls_once`: no two tasks of such a machine call the handler of one job.
-/

namespace JobRunner

/-! ## Places in a list -/

section
variable {α β : Type} {f : α → Option β} {l : List α} {i j : Nat} {x : α} {y : β}

/-- What is replaced in a list is replaced in what is made of it. -/
theorem exists_filterMap_set (hx : l[i]? = some x) (hy : f x = some y) :
    ∃ j, (l.filterMap f)[j]? = some y ∧
      ∀ x' y', f x' = some y' → (l.set i x').filterMap f = (l.filterMap f).set j y' := by
  induction l generalizing i with
  | nil => cases hx
  | cons z l ih =>
    cases i with
    | zero =>
      cases hx
      refine ⟨0, by simp [hy], fun x' y' hy' => ?_⟩
      simp [hy, hy']
    | succ i =>
      obtain ⟨j, hj, hset⟩ := ih hx
      cases hz : f z with
      | none =>
        refine ⟨j, by simpa [hz] using hj, fun x' y' hy' => ?_⟩
        simp [hz, hset x' y' hy']
      | some w =>
        refine ⟨j + 1, by simpa [hz] using hj, fun x' y' hy' => ?_⟩
        simp [hz, hset x' y' hy']

/-- What is replaced in what is made of a list can be replaced in the list. -/
theorem exists_set_filterMap (hy : (l.filterMap f)[j]? = some y) :
    ∃ i x, l[i]? = some x ∧ f x = some y ∧
      ∀ x' y', f x' = some y' → (l.set i x').filterMap f = (l.filterMap f).set j y' := by
  induction l generalizing j with
  | nil => cases hy
  | cons z l ih =>
    cases hz : f z with
    | none =>
      obtain ⟨i, x, hx, hfx, hset⟩ := ih (by simpa [hz] using hy)
      refine ⟨i + 1, x, hx, hfx, fun x' y' hy' => ?_⟩
      simp [hz, hset x' y' hy']
    | some w =>
      cases j with
      | zero =>
        obtain rfl : w = y := by simpa [hz] using hy
        refine ⟨0, z, rfl, hz, fun x' y' hy' => ?_⟩
        simp [hz, hy']
      | succ j =>
        obtain ⟨i, x, hx, hfx, hset⟩ := ih (by simpa [hz] using hy)
        refine ⟨i + 1, x, hx, hfx, fun x' y' hy' => ?_⟩
        simp [hz, hset x' y' hy']

/-- What is replaced by something of which the same is made changes nothing. -/
theorem filterMap_set_of_eq (hx : l[i]? = some x) {x' : α} (same : f x' = f x) :
    (l.set i x').filterMap f = l.filterMap f := by
  induction l generalizing i with
  | nil => cases hx
  | cons z l ih =>
    cases i with
    | zero =>
      cases hx
      simp [List.filterMap_cons, same]
    | succ i => simp [List.filterMap_cons, ih hx]

end

/-! ## Services without crews -/

/-- A service as it would be if no crew had been hired. -/
def Service.unstaffed (s : Service) : Service := { s with handled := none }

/-- Enqueuing a job changes nothing of a service but its queue. -/
theorem Service.enqueue_cases (s : Service) (id : JobId) (now : Instant) (request : JobRequest) :
    (s.enqueue id now request).2 = s ∨
      (s.enqueue id now request).2 =
        { s with queue := (s.queue.enqueue id now request).2 } := by
  unfold enqueue
  split
  · exact .inl rfl
  · exact .inr rfl

theorem Service.publish_unstaffed (s : Service) (e : Event) :
    s.unstaffed.publish e = (s.publish e).unstaffed := rfl

/-- What becomes of the service in a step of an attempt does not depend on who is accepted. -/
theorem Attempt.step_unstaffed (a : Attempt) (s : Service) (now : Nat) (clock : Instant)
    (draws : Draws) : a.step s.unstaffed now clock draws =
      ((a.step s now clock draws).1, (a.step s now clock draws).2.1.unstaffed,
        (a.step s now clock draws).2.2) := by
  obtain ⟨job, b, stage⟩ := a
  cases stage with
  | claiming =>
    simp only [Attempt.step, Attempt.claim, Service.unstaffed]
    split
    · rfl
    · split
      · rfl
      · split <;> rfl
  | rescheduling why =>
    simp only [Attempt.step, Attempt.reschedule, Service.unstaffed]
    split
    · rfl
    · split <;> rfl
  | recording r o tries | concluding r o tries =>
    simp only [Attempt.step, Service.unstaffed]
    split <;> rfl
  | publishing r => cases r <;> simp only [Attempt.step, Service.publish_unstaffed]
  | announcing | abandoning | announcingRetry =>
    simp only [Attempt.step, Service.publish_unstaffed]
  | handingOff =>
    simp only [Attempt.step, Attempt.handOff]
    generalize b.delay job.attempts draws = delay
    obtain - | ⟨- | n, draws'⟩ := delay <;> rfl
  | handingBack | ringingBack | calling | resting | ringingOff | broken | done => rfl

/-- Nor does what becomes of it in a step of a worker. -/
theorem Worker.step_unstaffed (w : Worker) (s : Service) (now : Nat) (clock : Instant)
    (draws : Draws) (cancelled ringFirst : Bool) :
    w.step s.unstaffed now clock draws cancelled ringFirst =
      ((w.step s now clock draws cancelled ringFirst).1,
        (w.step s now clock draws cancelled ringFirst).2.1.unstaffed,
        (w.step s now clock draws cancelled ringFirst).2.2) := by
  obtain ⟨jobType, b, stage⟩ := w
  cases stage with
  | idle => cases cancelled <;> rfl
  | resting due =>
    simp only [Worker.step]
    split
    · rfl
    · split <;> rfl
  | fetching c =>
    simp only [Worker.step]
    split <;> rfl
  | busy a =>
    simp only [Worker.step]
    split
    · rfl
    · rw [Attempt.step_unstaffed]
  | stopped => rfl

/-- No activity asks which job types are accepted: that is asked before a job is enqueued. -/
theorem Actor.step_unstaffed (x : Actor) (s : Service) (t : Tick) :
    x.step s.unstaffed t = ((x.step s t).1, (x.step s t).2.1.unstaffed, (x.step s t).2.2) := by
  cases x with
  | worker w =>
    simp only [Actor.step, Worker.step_unstaffed]
  | producer | timer => rfl

/-! ## Tasks and activities -/

/-- What a task is in a plant. A consumer or an attempt that no worker has begun is that of a worker
of no type. Calls of handlers and loops of sessions are no activities of a plant. -/
def Task.actor? (t : Task) : Option Actor :=
  match t.activity with
  | .consumer c => some (.worker ⟨"", .immediate, .fetching c⟩)
  | .attempt a => some (.worker ⟨"", .immediate, .busy a⟩)
  | .worker w => some (.worker w)
  | .timer r => some (.timer r)
  | .call _ | .reader _ | .writer _ => none

/-- An activity that is a task of a machine; the calls that enqueue jobs come from outside. -/
def Actor.task? : Actor → Option Actor
  | producer _ => none
  | x => some x

namespace Task

variable {t : Task} {x : Actor} {a : Attempt}

/-- What a task is in a plant is not a call from outside. -/
theorem task?_of_actor? (h : t.actor? = some x) : x.task? = some x := by
  unfold actor? at h
  split at h <;> first | (cases h; rfl) | cases h

/-- A task that waits for its handler executes it in the plant, and its report there is what becomes
of its attempt. -/
theorem actor?_of_calling? (h : t.calling? = some a) :
    ∃ x, t.actor? = some x ∧ x.executes? = some a.job.id ∧
      ∀ clock report, (t.setAttempt (a.report clock report)).actor? =
        some (x.report clock report) := by
  obtain ⟨activity, crew, switch, awaited⟩ := t
  unfold calling? at h
  cases activity with
  | attempt a' =>
    by_cases hcalling : a'.isCalling = true
    · obtain rfl : a' = a := by simpa [hcalling] using h
      exact ⟨_, rfl, if_pos hcalling, fun _ _ => congrArg some (if_pos hcalling).symm⟩
    · simp [hcalling] at h
  | worker w =>
    obtain ⟨hbusy, hcalling⟩ := Option.filter_eq_some_iff.mp h
    obtain ⟨jobType, b, stage⟩ := w
    cases stage with
    | busy a' =>
      cases hbusy
      exact ⟨_, rfl, if_pos hcalling, fun _ _ => congrArg some (if_pos hcalling).symm⟩
    | idle | fetching | resting | stopped => cases hbusy
  | consumer | call | timer | reader | writer => cases h

end Task

namespace Actor

variable {s : Service} {t : Tick}

/-- An activity that is a task of a machine is that task. -/
theorem eq_of_task? {x y : Actor} (h : x.task? = some y) : x = y := by
  cases x with
  | producer => cases h
  | worker | timer => exact Option.some.inj h

/-- A consumer that is not done goes on. -/
theorem step_fetching {c : Consumer} (h : c.answer? = none) :
    (worker ⟨"", .immediate, .fetching c⟩).step s t =
      (worker ⟨"", .immediate, .fetching (c.step s.queue t.now t.cancelled t.ringFirst).1⟩,
        { s with queue := (c.step s.queue t.now t.cancelled t.ringFirst).2 }, none) := by
  obtain ⟨jobType, deadline, stage⟩ := c
  cases stage with
  | done => cases h
  | _ => rfl

/-- An attempt that has no answer goes on. -/
theorem step_busy {a : Attempt} (h : a.answer? = none) :
    (worker ⟨"", .immediate, .busy a⟩).step s t =
      (worker ⟨"", .immediate, .busy (a.step s t.now t.clock t.draws).1⟩,
        (a.step s t.now t.clock t.draws).2) := by
  simp only [Actor.step, Worker.step, h]

end Actor

/-! ## Sessions -/

namespace Api.Session

variable (x : Session) (s : Service)

/-- What a session does to the hub when it ends. -/
theorem finish_visits : (x.finish s).2 =
    { s with
      hub := [Visit.disconnect x.connection, .close x.connection].foldl Visit.act s.hub } := rfl

/-- All that a session does on a message is visits to the hub. -/
theorem exists_visits_obey (text : String) :
    ∃ visits : List Visit, x.obey s text = { s with hub := visits.foldl Visit.act s.hub } := by
  unfold obey
  split
  · next job hparse => exact ⟨[.join x.connection job], rfl⟩
  · next job hparse => exact ⟨[.unsubscribe x.connection job], rfl⟩
  · exact ⟨[], rfl⟩

/-- All that the beginning of a session does to a service is visits to the hub. -/
theorem exists_visits_start (job : Option JobId) :
    ∃ visits : List Visit, (start s job).2 = { s with hub := visits.foldl Visit.act s.hub } := by
  unfold start Service.connect? Service.openConnection? Hub.openConnection?
  by_cases hroom : s.settings.connectionBuffer ≤ Connection.greatestRoom
  · rw [if_pos hroom]
    cases job with
    | none => exact ⟨[.openConnection s.settings.connectionBuffer], rfl⟩
    | some job => exact ⟨[.openConnection s.settings.connectionBuffer, .join _ job], rfl⟩
  · rw [if_neg hroom]
    cases job <;> exact ⟨[], rfl⟩

/-- All that the reading loop of a session does to a service is visits to the hub. -/
theorem exists_visits_read :
    ∃ visits : List Visit, (x.read s).2 = { s with hub := visits.foldl Visit.act s.hub } := by
  unfold read
  split
  · exact ⟨[], rfl⟩
  · split
    · exact ⟨_, x.finish_visits s⟩
    · split
      · exact x.exists_visits_obey s _
      · exact ⟨[], rfl⟩
      · exact ⟨[], rfl⟩
      · exact ⟨_, finish_visits _ s⟩
      · split
        · exact ⟨[], rfl⟩
        · exact ⟨_, x.finish_visits s⟩

/-- So is all that the writing loop does. -/
theorem exists_visits_write :
    ∃ visits : List Visit, (x.write s).2 = { s with hub := visits.foldl Visit.act s.hub } := by
  unfold write
  split
  · exact ⟨[], rfl⟩
  · split
    · refine ⟨[.abandon x.connection], ?_⟩
      unfold stopWriting send
      split <;> rfl
    · split
      · next e rest hub htake =>
        obtain rfl : (s.hub.take x.connection 1).2 = hub := congrArg Prod.snd htake
        split
        · exact ⟨[.take x.connection 1], rfl⟩
        · exact ⟨[.take x.connection 1, .abandon x.connection], rfl⟩
      · exact ⟨[], rfl⟩

end Api.Session

/-- Visits change the hub and nothing else. -/
theorem Plant.run_visits (p : Plant) (visits : List Visit) :
    p.run (visits.map .visit) =
      { p with service := { p.service with hub := visits.foldl Visit.act p.service.hub } } := by
  induction visits generalizing p with
  | nil => rfl
  | cons visit visits ih => exact ih _

/-! ## Steps of the machine -/

namespace Machine

/-- What a task is told that waits for its handler: how its call ended, or that there is no handler.
As long as the call goes on it is told nothing. -/
def verdict? (m : Machine) (t : Task) (a : Attempt) : Option (Except Failure Json) :=
  match t.awaited, (m.crew t.crew).station? a.job.jobType with
  | some call, _ => (m.ending? call).map Ending.report
  | none, some _ => none
  | none, none => some (.error (.noHandler a.job.jobType))

/-- What the tasks of a machine are in a plant. -/
def actors (m : Machine) : List Actor := m.tasks.toList.filterMap Task.actor?

variable {m : Machine} {id : TaskId} {t t' : Task}

/-- Who is ready and who waits is all that changes when tasks are woken. -/
theorem wake_eq (m : Machine) :
    m.wake = { m with ready := m.wake.ready, waiting := m.wake.waiting } := by
  unfold wake
  dsimp only
  split <;> rfl

@[simp] theorem service_wake (m : Machine) : m.wake.service = m.service := by
  rw [wake_eq]

@[simp] theorem tasks_wake (m : Machine) : m.wake.tasks = m.tasks := by
  rw [wake_eq]

theorem toList_setTask (m : Machine) (id : TaskId) (t : Task) :
    (m.setTask id t).tasks.toList = m.tasks.toList.set id t := Array.toList_setIfInBounds ..

/-- A task stays what it is when another one is added. -/
theorem getElem?_spawn (ht : m.tasks[id]? = some t) (t' : Task) :
    (m.spawn t').2.tasks[id]? = some t := by
  obtain ⟨hid, -⟩ := Array.getElem?_eq_some_iff.mp ht
  show (m.tasks.push t')[id]? = some t
  rw [Array.getElem?_push, if_neg (Nat.ne_of_lt hid), ht]

section

variable {β : Type} {f : Task → Option β}

/-- What is made of a new task comes last. -/
theorem filterMap_spawn (m : Machine) (t : Task) (f : Task → Option β) :
    (m.spawn t).2.tasks.toList.filterMap f = m.tasks.toList.filterMap f ++ (f t).toList := by
  show (m.tasks.push t).toList.filterMap f = _
  rw [Array.toList_push, List.filterMap_append]
  cases h : f t <;> simp [h]

/-- A task that changes in nothing that is made of it changes nothing there. -/
theorem filterMap_setTask (ht : m.tasks[id]? = some t) (same : f t' = f t) :
    (m.setTask id t').tasks.toList.filterMap f = m.tasks.toList.filterMap f := by
  rw [toList_setTask]
  exact filterMap_set_of_eq (by rwa [Array.getElem?_toList]) same

end

/-- A new task comes last. -/
theorem actors_spawn (m : Machine) (t : Task) :
    (m.spawn t).2.actors = m.actors ++ t.actor?.toList := m.filterMap_spawn t Task.actor?

end Machine

namespace Plant

/-- A plant in which the tasks of a machine are at work. In a plant all job types are accepted. -/
structure Depicts (p : Plant) (m : Machine) : Prop where
  service : p.service = m.service.unstaffed
  actors : p.actors.filterMap Actor.task? = m.actors

namespace Depicts

variable {p : Plant} {m m' : Machine} {id : TaskId} {t t' : Task} {x x' : Actor}

/-- A plant depicts no more of a machine than its service and its tasks. -/
theorem congr (h : p.Depicts m) (service : m'.service = m.service) (tasks : m'.tasks = m.tasks) :
    p.Depicts m' := by
  refine ⟨h.service.trans (congrArg Service.unstaffed service.symm), h.actors.trans ?_⟩
  unfold Machine.actors
  rw [tasks]

/-- A task has a place in the plant, where it can be replaced. -/
theorem exists_place (h : p.Depicts m) (ht : m.tasks[id]? = some t) (hx : t.actor? = some x) :
    ∃ i, p.actors[i]? = some x ∧ ∀ t' x' service added es, t'.actor? = some x' →
      (p.replace i x' service.unstaffed added es).Depicts
        (({ m.setTask id t' with service } : Machine).spawnTimer added) := by
  have hmem : m.tasks.toList[id]? = some t := by rwa [Array.getElem?_toList]
  obtain ⟨j, hj, htasks⟩ := exists_filterMap_set hmem hx
  have hplace : (p.actors.filterMap Actor.task?)[j]? = some x := h.actors ▸ hj
  obtain ⟨i, y, hy, hsame, hactors⟩ := exists_set_filterMap hplace
  obtain rfl := Actor.eq_of_task? hsame
  refine ⟨i, hy, fun t' x' service added es hx' => ⟨?_, ?_⟩⟩
  · cases added <;> rfl
  · -- the task and the activity change at the same place, and a timer comes last
    have hset : (p.actors.set i x').filterMap Actor.task? =
        ({ m.setTask id t' with service } : Machine).actors := by
      rw [hactors x' x' (Task.task?_of_actor? hx'), h.actors]
      show _ = (m.setTask id t').tasks.toList.filterMap Task.actor?
      rw [Machine.toList_setTask, htasks t' x' hx']
      rfl
    show (p.actors.set i x' ++ (added.map Actor.timer).toList).filterMap Actor.task? = _
    rw [List.filterMap_append, hset]
    cases added with
    | none => exact List.append_nil _
    | some r =>
      exact (Machine.actors_spawn ({ m.setTask id t' with service } : Machine)
        ⟨.timer r, 0, 0, none⟩).symm

/-- What a task does as an activity is a step of that activity. -/
theorem advance (h : p.Depicts m) (ht : m.tasks[id]? = some t) (hx : t.actor? = some x)
    (tick : Tick) (t' : Task) {service : Service} {added : Option RetryTimer}
    (step : x.step m.service tick = (x', service, added)) (hx' : t'.actor? = some x') :
    ∃ act, (p.step act).Depicts
      (({ m.setTask id t' with service } : Machine).spawnTimer added) := by
  obtain ⟨i, hi, hreplace⟩ := h.exists_place ht hx
  refine ⟨.advance i tick, ?_⟩
  rw [step_advance hi, h.service, x.step_unstaffed, step]
  exact hreplace t' x' service added _ hx'

/-- What becomes of a task whose handler has come to an end is the report of it. -/
theorem report (h : p.Depicts m) (ht : m.tasks[id]? = some t) {a : Attempt}
    (ha : t.calling? = some a) (clock : Instant) (report : Except Failure Json)
    (same : t'.actor? = (t.setAttempt (a.report clock report)).actor?) :
    ∃ i, (p.step (.report i clock report)).Depicts (m.setTask id t') := by
  obtain ⟨x, hx, -, hreport⟩ := Task.actor?_of_calling? ha
  obtain ⟨i, hi, hreplace⟩ := h.exists_place ht hx
  refine ⟨i, ?_⟩
  rw [step_report hi]
  rw [h.service]
  exact hreplace t' _ m.service none _ (same.trans (hreport clock report))

/-- A task may change in what is not seen of it in a plant. -/
theorem setTask (h : p.Depicts m) (ht : m.tasks[id]? = some t) (same : t'.actor? = t.actor?) :
    p.Depicts (m.setTask id t') :=
  ⟨h.service, h.actors.trans (Machine.filterMap_setTask ht same).symm⟩

/-- A new task that is no activity of a plant is not seen there. -/
theorem spawn (h : p.Depicts m) (hnone : t.actor? = none) : p.Depicts (m.spawn t).2 := by
  refine ⟨h.service, h.actors.trans ?_⟩
  rw [Machine.actors_spawn, hnone, Option.toList_none, List.append_nil]

/-- An attempt that waits for its handler is told the verdict, which is the report of the handler in
the plant. As long as there is none, nothing happens there. -/
theorem stepCalling (h : p.Depicts m) (ht : m.tasks[id]? = some t) {a : Attempt}
    (ha : t.calling? = some a) :
    match m.verdict? t a with
    | some report => ∃ i, (p.step (.report i m.clock report)).Depicts (m.stepCalling id t a)
    | none => p.Depicts (m.stepCalling id t a) := by
  unfold Machine.stepCalling Machine.verdict?
  cases hawaited : t.awaited with
  | some call =>
    dsimp only
    cases m.ending? call with
    | some ending => exact h.report ht ha m.clock ending.report rfl
    | none => exact h
  | none =>
    dsimp only
    cases (m.crew t.crew).station? a.job.jobType with
    | some station => exact (h.spawn rfl).setTask (Machine.getElem?_spawn ht _) rfl
    | none => exact h.report ht ha m.clock (.error (.noHandler a.job.jobType)) rfl

/-- A loop of a session does nothing but visit the hub. -/
theorem stepSession (h : p.Depicts m) (session : SessionId)
    {act : Api.Session → Service → Api.Session × Service}
    (visits : ∀ x s, ∃ visits : List Visit,
      (act x s).2 = { s with hub := visits.foldl Visit.act s.hub }) :
    ∃ acts, (p.run acts).Depicts (m.stepSession session act) := by
  obtain ⟨visits, hvisits⟩ := visits (m.session session) m.service
  refine ⟨visits.map .visit, ?_⟩
  rw [run_visits]
  refine ⟨?_, h.actors⟩
  show { p.service with hub := visits.foldl Visit.act p.service.hub } =
    (act (m.session session) m.service).2.unstaffed
  rw [hvisits, h.service]
  rfl

/-- What a task does is done in the plant. -/
theorem stepTask (h : p.Depicts m) (ht : m.tasks[id]? = some t) (going : m.isOver t = false) :
    ∃ acts, (p.run acts).Depicts (m.stepTask id t) := by
  unfold Machine.stepTask
  split
  · next a ha =>
    have hdepicts := h.stepCalling ht ha
    split at hdepicts
    · next report _ =>
      obtain ⟨i, hdepicts⟩ := hdepicts
      exact ⟨[.report i m.clock report], hdepicts⟩
    · exact ⟨[], hdepicts⟩
  · obtain ⟨activity, crew, switch, awaited⟩ := t
    let tick (cancelled : Bool) : Tick := ⟨m.now, m.clock, m.draws, cancelled, false⟩
    cases activity with
    | consumer c =>
      have hopen : c.answer? = none := Option.not_isSome_iff_eq_none.mp (Bool.eq_false_iff.mp going)
      obtain ⟨act, hdepicts⟩ := h.advance ht rfl (tick (m.isThrown switch))
        ⟨.consumer _, crew, switch, awaited⟩ (Actor.step_fetching hopen) rfl
      exact ⟨[act], hdepicts⟩
    | attempt a =>
      have hgoing : a.answer?.isSome = false := (Bool.or_eq_false_iff.mp going).1
      have hopen : a.answer? = none :=
        Option.not_isSome_iff_eq_none.mp (Bool.eq_false_iff.mp hgoing)
      obtain ⟨act, hdepicts⟩ := h.advance ht rfl (tick false)
        ⟨.attempt _, crew, switch, awaited⟩ (Actor.step_busy hopen) rfl
      exact ⟨[act], hdepicts⟩
    | worker w =>
      obtain ⟨act, hdepicts⟩ := h.advance ht rfl (tick (m.isThrown switch))
        ⟨.worker _, crew, switch, awaited⟩ rfl rfl
      exact ⟨[act], hdepicts⟩
    | call c =>
      refine ⟨[], ?_⟩
      -- a call changes its station, of which nothing is seen in a plant
      show p.Depicts (m.stepCall id ⟨.call c, crew, switch, awaited⟩ c)
      unfold Machine.stepCall
      dsimp only
      split
      · next station _ =>
        have hstepped : p.Depicts (m.setTask id
            ⟨.call (c.step station m.now).1, crew, switch, awaited⟩) := h.setTask ht rfl
        exact hstepped.congr rfl rfl
      · exact h
    | timer r =>
      obtain ⟨act, hdepicts⟩ := h.advance ht rfl (tick false)
        ⟨.timer _, crew, switch, awaited⟩ rfl rfl
      exact ⟨[act], hdepicts⟩
    | reader session => exact h.stepSession session Api.Session.exists_visits_read
    | writer session => exact h.stepSession session Api.Session.exists_visits_write

/-- A step of a machine is some actions in the plant. -/
theorem step (h : p.Depicts m) : ∃ acts, (p.run acts).Depicts m.step := by
  unfold Machine.step
  split
  · exact ⟨[], h⟩
  · split
    · exact ⟨[], h.congr rfl rfl⟩
    · next id ready hready _ t ht =>
      split
      · exact ⟨[], h.congr rfl rfl⟩
      · split
        · exact ⟨[], h.congr rfl rfl⟩
        · next hgoing _ =>
          have hticked : p.Depicts m.tick := h.congr rfl rfl
          have htask : m.tick.tasks[id]? = some t := ht
          obtain ⟨acts, hdepicts⟩ := hticked.stepTask htask (Bool.not_eq_true _ ▸ hgoing)
          exact ⟨acts, hdepicts.congr (Machine.service_wake _) (Machine.tasks_wake _)⟩

/-! ### What begins from outside -/

/-- A worker that begins is hired. -/
theorem hired (h : p.Depicts m) {jobType : String} {b : Backoff}
    (ht : t.actor? = some (.worker (.new jobType b))) :
    (p.step (.hire jobType b)).Depicts (m.spawn t).2 := by
  refine ⟨h.service, ?_⟩
  show (p.actors ++ [_]).filterMap Actor.task? = _
  rw [List.filterMap_append, h.actors, Machine.actors_spawn, ht]
  rfl

/-- Tasks that begin are workers that are hired, or are not seen. -/
theorem spawnAll (h : p.Depicts m) (tasks : List Task)
    (known : ∀ t ∈ tasks, t.actor? = none ∨
      ∃ jobType b, t.actor? = some (.worker (.new jobType b))) :
    ∃ acts, (p.run acts).Depicts (m.spawnAll tasks).2 := by
  -- the numbers that have been collected so far do not matter
  have hfold : ∀ ids : List TaskId, ∃ acts, (p.run acts).Depicts
      (tasks.foldl (fun x task => (x.1 ++ [(x.2.spawn task).1], (x.2.spawn task).2))
        (ids, m)).2 := by
    induction tasks generalizing p m with
    | nil => exact fun _ => ⟨[], h⟩
    | cons t tasks ih =>
      intro ids
      have hrest := fun t' ht' => known t' (List.mem_cons_of_mem t ht')
      rcases known t List.mem_cons_self with hnone | ⟨jobType, b, hworker⟩
      · exact ih (h.spawn hnone) hrest _
      · obtain ⟨acts, hdepicts⟩ := ih (h.hired hworker) hrest (ids ++ [(m.spawn t).1])
        exact ⟨.hire jobType b :: acts, hdepicts⟩
  exact hfold []

/-- To start a crew is some actions: each of its workers is hired. -/
theorem startCrew (h : p.Depicts m) (crew : CrewId) (switch : SwitchId) :
    ∃ acts, (p.run acts).Depicts (m.startCrew crew switch).2 := by
  refine h.spawnAll _ fun t ht => ?_
  obtain ⟨w, hw, rfl⟩ := List.mem_map.mp ht
  obtain ⟨jobType, -, hw⟩ := List.mem_flatMap.mp hw
  exact .inr ⟨jobType, _, congrArg (some <| Actor.worker ·) (List.eq_of_mem_replicate hw)⟩

/-- The steps of a call that enqueues a job, with nothing in between. -/
theorem run_producer {n : Nat} {q : Producer} (hq : p.actors[n]? = some (.producer q)) (tick : Tick)
    (count : Nat) :
    (p.run (List.replicate count (.advance n tick))).service =
        { p.service with queue := (q.steps count p.service.queue).2 } ∧
      (p.run (List.replicate count (.advance n tick))).actors.filterMap Actor.task? =
        p.actors.filterMap Actor.task? := by
  induction count generalizing p q with
  | zero => exact ⟨rfl, rfl⟩
  | succ count ih =>
    have hstep := step_advance hq tick
    have hnext : (p.step (.advance n tick)).actors[n]? =
        some (.producer (q.step p.service.queue).1) := by
      rw [hstep]
      exact getElem?_replace hq _ _ _ _
    obtain ⟨hservice, hactors⟩ := ih hnext
    refine ⟨hservice.trans ?_, hactors.trans ?_⟩
    · rw [hstep]
      rfl
    · rw [hstep]
      show (p.actors.set n _ ++ []).filterMap _ = _
      rw [List.append_nil]
      exact filterMap_set_of_eq hq rfl

/-- A call that enqueues a job does so in four steps. -/
theorem exists_run_enqueue (p : Plant) (id : JobId) (now : Instant) (request : JobRequest)
    (countable : request.maxAttempts ≤ Job.greatestCount) :
    ∃ acts, (p.run acts).service =
        { p.service with queue := (p.service.queue.enqueue id now request).2 } ∧
      (p.run acts).actors.filterMap Actor.task? = p.actors.filterMap Actor.task? := by
  let tick : Tick := ⟨0, .epoch, .ofList [], false, false⟩
  refine ⟨[.enqueue id now request countable] ++
    List.replicate 4 (.advance p.actors.length tick), ?_⟩
  rw [run_append]
  have hcall : (p.run [.enqueue id now request countable]).actors[p.actors.length]? =
      some (.producer (.checking id now request)) := List.getElem?_concat_length ..
  obtain ⟨hservice, hactors⟩ := run_producer hcall tick 4
  rw [Producer.steps_checking] at hservice
  refine ⟨hservice, hactors.trans ?_⟩
  show (p.actors ++ [_]).filterMap _ = _
  rw [List.filterMap_append]
  exact List.append_nil _

/-- A job is enqueued by a call that is made at once. -/
theorem enqueue (h : p.Depicts m) (id : JobId) (request : JobRequest)
    (countable : request.maxAttempts ≤ Job.greatestCount) :
    ∃ acts, (p.run acts).Depicts (m.withService fun s now => s.enqueue id now request).2 := by
  have hservice : (m.withService fun s now => s.enqueue id now request).2.service =
      (m.service.enqueue id m.clock request).2 := Machine.service_wake _
  have htasks : (m.withService fun s now => s.enqueue id now request).2.tasks = m.tasks :=
    Machine.tasks_wake _
  generalize (m.withService fun s now => s.enqueue id now request).2 = m' at hservice htasks
  have hsame : m'.actors = m.actors := congrArg (·.toList.filterMap Task.actor?) htasks
  rcases m.service.enqueue_cases id m.clock request with hrefused | hqueue
  · exact ⟨[], h.congr (hservice.trans hrefused) htasks⟩
  · obtain ⟨acts, hafter, hactors⟩ := exists_run_enqueue p id m.clock request countable
    refine ⟨acts, ?_, hactors.trans (h.actors.trans hsame.symm)⟩
    rw [hafter, h.service, hservice, hqueue]
    rfl

/-- To start a session is some visits to the hub. -/
theorem startSession (h : p.Depicts m) (job : Option JobId) :
    ∃ acts, (p.run acts).Depicts (m.startSession job).2 := by
  obtain ⟨visits, hvisits⟩ := Api.Session.exists_visits_start m.service job
  let m' : Machine :=
    { m with
      service := (Api.Session.start m.service job).2
      sessions := m.sessions.push (Api.Session.start m.service job).1 }
  have hopened : (p.run (visits.map .visit)).Depicts m' := by
    rw [run_visits]
    refine ⟨?_, h.actors⟩
    show { p.service with hub := visits.foldl Visit.act p.service.hub } =
      (Api.Session.start m.service job).2.unstaffed
    rw [hvisits, h.service]
    rfl
  -- the two loops of a session are not seen
  obtain ⟨acts, hdepicts⟩ := hopened.spawnAll
    [⟨.reader m.sessions.size, 0, 0, none⟩, ⟨.writer m.sessions.size, 0, 0, none⟩]
    fun t ht => .inl (by
      rcases List.mem_pair.mp ht with rfl | rfl <;> rfl)
  refine ⟨visits.map .visit ++ acts, ?_⟩
  rw [run_append]
  exact hdepicts

end Depicts

end Plant

/-! ## Runs of the machine -/

namespace Machine

/-- What every step keeps, and every move of the clock, a run keeps. -/
theorem runWithin_induction {P : Machine → Prop} (step : ∀ m, P m → P m.step)
    (moveTo : ∀ m moment, P m → P (m.moveTo moment)) (stop : Machine → Bool) (target : Option Nat)
    (fuel : Nat) {m : Machine} (h : P m) : P (runWithin stop target fuel m) := by
  induction fuel generalizing m with
  | zero => exact h
  | succ fuel ih =>
    unfold runWithin
    split
    · exact h
    · split
      · exact ih (step m h)
      · split
        · split
          · exact ih (moveTo m _ h)
          · exact moveTo m _ h
        · exact ih (moveTo m _ h)
        · exact moveTo m _ h
        · exact h

/-- What every step preserves holds when the machine has settled. -/
theorem settleWithin_induction {P : Machine → Prop} (step : ∀ m, P m → P m.step) (fuel : Nat)
    {m : Machine} (h : P m) : P (settleWithin fuel m) := by
  induction fuel generalizing m with
  | zero => exact h
  | succ fuel ih =>
    unfold settleWithin
    split
    · exact h
    · exact ih (step m h)

/-- A machine whose work is a run of a plant that began empty. -/
def Depicted (settings : ServiceSettings) (m : Machine) : Prop :=
  ∃ acts, ((Plant.new settings).run acts).Depicts m

namespace Depicted

variable {settings : ServiceSettings} {m m' : Machine}

/-- A machine that has just been built is depicted by an empty plant. -/
theorem ofService (settings : ServiceSettings) :
    Depicted settings (.ofService (.ofBackend settings .empty)) := ⟨[], rfl, rfl⟩

/-- What is some actions in a plant keeps a machine depicted. -/
private theorem of_run (h : m.Depicted settings)
    (goesOn : ∀ p : Plant, p.Depicts m → ∃ acts, (p.run acts).Depicts m') :
    m'.Depicted settings := by
  obtain ⟨acts, hdepicts⟩ := h
  obtain ⟨acts', hdepicts'⟩ := goesOn _ hdepicts
  refine ⟨acts ++ acts', ?_⟩
  rwa [Plant.run_append]

theorem step (h : m.Depicted settings) : m.step.Depicted settings := h.of_run fun _ hp => hp.step

theorem moveTo (h : m.Depicted settings) (moment : Nat) : (m.moveTo moment).Depicted settings :=
  h.of_run fun _ hp => ⟨[], hp.congr (service_wake _) (tasks_wake _)⟩

theorem settle (h : m.Depicted settings) : m.settle.Depicted settings :=
  settleWithin_induction (P := Depicted settings) (fun _ => step) patience h

/-- However long it runs, and whatever it waits for. -/
theorem runWithin (h : m.Depicted settings) (stop : Machine → Bool) (target : Option Nat)
    (fuel : Nat) : (m.runWithin stop target fuel).Depicted settings :=
  runWithin_induction (P := Depicted settings) (fun _ => step) (fun _ moment hm => hm.moveTo moment)
    stop target fuel h

theorem hire (h : m.Depicted settings) (crew : Crew) : (m.hire crew).2.Depicted settings :=
  h.of_run fun _ hp => ⟨[], hp.service, hp.actors⟩

theorem startCrew (h : m.Depicted settings) (crew : CrewId) (switch : SwitchId) :
    (m.startCrew crew switch).2.Depicted settings := h.of_run fun _ hp => hp.startCrew crew switch

theorem throwSwitch (h : m.Depicted settings) (switch : SwitchId) :
    (m.throwSwitch switch).Depicted settings :=
  h.of_run fun _ hp => ⟨[], hp.congr (service_wake _) (tasks_wake _)⟩

theorem enqueue (h : m.Depicted settings) (id : JobId) (request : JobRequest)
    (countable : request.maxAttempts ≤ Job.greatestCount) :
    (m.withService fun s now => s.enqueue id now request).2.Depicted settings :=
  h.of_run fun _ hp => hp.enqueue id request countable

theorem startSession (h : m.Depicted settings) (job : Option JobId) :
    (m.startSession job).2.Depicted settings := h.of_run fun _ hp => hp.startSession job

theorem withSession (h : m.Depicted settings) (session : SessionId)
    (act : Api.Session → Api.Session) : (m.withSession session act).Depicted settings :=
  h.of_run fun _ hp => ⟨[], hp.congr (service_wake _) (tasks_wake _)⟩

/-- No two tasks have the same job in their hands. -/
theorem apart (h : m.Depicted settings) : m.actors.Pairwise Actor.Apart := by
  obtain ⟨acts, hdepicts⟩ := h
  rw [← hdepicts.actors]
  refine List.Pairwise.filterMap Actor.task? (fun x y hxy x' hx' y' hy' => ?_)
    (Plant.orderly_run settings acts).apart
  rwa [← Actor.eq_of_task? hx', ← Actor.eq_of_task? hy']

/-- The lanes of the machine hold the ids of stored jobs that are pending or retrying. -/
theorem posted (h : m.Depicted settings) : m.service.Posted := by
  obtain ⟨acts, hdepicts⟩ := h
  have hposted := (Plant.orderly_run settings acts).posted
  rw [hdepicts.service] at hposted
  exact hposted

/-- No two tasks call the handler of one job. -/
theorem calls_once (h : m.Depicted settings) {i j : TaskId} {t t' : Task} {a a' : Attempt}
    (ht : m.tasks[i]? = some t) (ht' : m.tasks[j]? = some t') (ha : t.calling? = some a)
    (ha' : t'.calling? = some a') (same : a.job.id = a'.job.id) : i = j := by
  have holds : ∀ {t : Task} {a : Attempt}, t.calling? = some a →
      ∃ x, t.actor? = some x ∧ x.holds? = some a.job.id := by
    intro t a ha
    obtain ⟨x, hx, hexecutes, -⟩ := Task.actor?_of_calling? ha
    obtain ⟨_, _, _, _, rfl, hid⟩ := Actor.executes?_eq_some hexecutes
    exact ⟨_, hx, congrArg some hid⟩
  obtain ⟨x, hx, hheld⟩ := holds ha
  obtain ⟨x', hx', hheld'⟩ := holds ha'
  have hapart := List.pairwise_filterMap.mp h.apart
  rw [← Array.getElem?_toList] at ht ht'
  obtain ⟨hi, rfl⟩ := List.getElem?_eq_some_iff.mp ht
  obtain ⟨hj, rfl⟩ := List.getElem?_eq_some_iff.mp ht'
  rcases Nat.lt_trichotomy i j with hlt | heq | hlt
  · have hne := List.pairwise_iff_getElem.mp hapart i j hi hj hlt x hx x' hx'
    exact absurd (same ▸ hheld') (hne _ hheld)
  · exact heq
  · have hne := List.pairwise_iff_getElem.mp hapart j i hj hi hlt x' hx' x hx
    exact absurd (same ▸ hheld) (hne _ hheld')

end Depicted

end Machine

end JobRunner
