import JobRunner.Machine.Basic

/-!
# Running the machine

- `Machine.step`: one atomic step of the task whose turn it is. A task goes on until it has to wait.
- `Machine.settle`: runs until every task waits.
- `Machine.sleep`, `Machine.await`: move the clock on, always to the next moment at which a task
  goes on.
-/

namespace JobRunner.Machine

/-! ## Steps -/

/-- Adds a retry timer, if there is one. -/
def spawnTimer (m : Machine) (timer : Option RetryTimer) : Machine :=
  match timer with
  | some timer => (m.spawn ⟨.timer timer, 0, 0, none⟩).2
  | none => m

/-- An attempt is about to call its handler, or waits for it: the call becomes a task, and its end
is reported. -/
def stepCalling (m : Machine) (id : TaskId) (t : Task) (a : Attempt) : Machine :=
  match t.awaited with
  | some call =>
    match m.ending? call with
    | some ending =>
      m.setTask id { t.setAttempt (a.report m.clock ending.report) with awaited := none }
    | none => m
  | none =>
    match (m.crew t.crew).station? a.job.jobType with
    | some _ =>
      let (call, m) := m.spawn ⟨.call (.new m.tasks.size a.job), t.crew, t.switch, none⟩
      m.setTask id { t with awaited := some call }
    | none =>
      m.setTask id (t.setAttempt (a.report m.clock (.error (.noHandler a.job.jobType))))

/-- One atomic step of a call. -/
def stepCall (m : Machine) (id : TaskId) (t : Task) (c : Call) : Machine :=
  let crew := m.crew t.crew
  match crew.station? c.job.jobType with
  | some station =>
    let (c, station) := c.step station m.now
    { m.setTask id { t with activity := .call c } with
      crews := m.crews.setIfInBounds t.crew (crew.setStation c.job.jobType station) }
  | none => m

/-- One atomic step of a loop of a session. -/
def stepSession (m : Machine) (session : SessionId)
    (act : Api.Session → Service → Api.Session × Service) : Machine :=
  let (x, service) := act (m.session session) m.service
  { m with service, sessions := m.sessions.setIfInBounds session x }

/-- One atomic step of a task. -/
def stepTask (m : Machine) (id : TaskId) (t : Task) : Machine :=
  match t.calling? with
  | some a => m.stepCalling id t a
  | none =>
    match t.activity with
    | .consumer c =>
      let (c, queue) := c.step m.service.queue m.now (m.isThrown t.switch) false
      { m.setTask id { t with activity := .consumer c } with service := { m.service with queue } }
    | .attempt a =>
      let (a, service, timer) := a.step m.service m.now m.clock m.draws
      { m.setTask id { t with activity := .attempt a } with service }.spawnTimer timer
    | .worker w =>
      let (w, service, timer) := w.step m.service m.now m.clock m.draws (m.isThrown t.switch) false
      { m.setTask id { t with activity := .worker w } with service }.spawnTimer timer
    | .call c => m.stepCall id t c
    | .timer timer =>
      let (timer, queue) := timer.step m.service.queue m.now
      { m.setTask id { t with activity := .timer timer } with service := { m.service with queue } }
    | .reader x => m.stepSession x Api.Session.read
    | .writer x => m.stepSession x Api.Session.write

/-- One step of the task whose turn it is: it ends, begins to wait, or does something. -/
def step (m : Machine) : Machine :=
  match m.ready with
  | [] => m
  | id :: ready =>
    match m.tasks[id]? with
    | none => { m with ready }
    | some t =>
      if m.isOver t then { m with ready, ends := m.ends.insert id m.now }
      else if m.isBlocked t then { m with ready, waiting := m.waiting ++ [id] }
      else (m.tick.stepTask id t).wake

/-! ## Time -/

/-- Runs until every task waits, for at most `fuel` steps. -/
def settleWithin : (fuel : Nat) → Machine → Machine
  | 0, m => m
  | fuel + 1, m => if m.ready.isEmpty then m else settleWithin fuel m.step

/-- The next moment at which a waiting task goes on. -/
def nextDeadline? (m : Machine) : Option Nat :=
  (m.waiting.filterMap fun id => m.tasks[id]?.bind (·.deadline?)).min?

/-- Moves the clock to a moment that is not past. -/
def moveTo (m : Machine) (moment : Nat) : Machine := { m with now := max m.now moment }.wake

/-- Runs until `stop`, or until every task waits and the clock has come to `target`; the clock moves
only while every task waits. -/
def runWithin (stop : Machine → Bool) (target : Option Nat) : (fuel : Nat) → Machine → Machine
  | 0, m => m
  | fuel + 1, m =>
    if stop m then m
    else if !m.ready.isEmpty then runWithin stop target fuel m.step
    else
      match m.nextDeadline?, target with
      | some due, some target =>
        if due ≤ target then runWithin stop (some target) fuel (m.moveTo due)
        else m.moveTo target
      | some due, none => runWithin stop none fuel (m.moveTo due)
      | none, some target => m.moveTo target
      | none, none => m

/-- More steps than any wait needs. -/
def patience : Nat := Nat.pow 2 40

/-- Runs until every task waits. -/
def settle (m : Machine) : Machine := settleWithin patience m

/-- Lets a time in milliseconds pass. -/
def sleep (m : Machine) (duration : Nat) : Machine :=
  runWithin (fun _ => false) (some (m.now + duration)) patience m

/-- Lets time pass until some tasks are over and every other task waits. -/
def await (m : Machine) (tasks : List TaskId) : Machine :=
  runWithin (fun m => m.ready.isEmpty && tasks.all m.ends.contains) none patience m

/-- Lets time pass until an attempt is over, and no step is made after that. -/
def finishAttempt (m : Machine) (task : TaskId) : Machine :=
  runWithin (fun m => (m.attemptAnswer? task).isSome) none patience m

/-- Awaits consumers one after the other, up to the first that fails: what those before it got, and
the failure. -/
def gather : List TaskId → Machine → List (Option Job) × Option StoreError × Machine
  | [], m => ([], none, m)
  | task :: tasks, m =>
    let m := m.await [task]
    match m.consumerAnswer? task with
    | some (.error e) => ([], some e, m)
    | some (.ok job) =>
      let (jobs, failure, m) := gather tasks m
      (job :: jobs, failure, m)
    | none => gather tasks m

/-! ## Beginning and ending activities -/

/-- A new switch. -/
def newSwitch (m : Machine) : SwitchId × Machine :=
  (m.nextSwitch, { m with nextSwitch := m.nextSwitch + 1 })

/-- Throws a switch. -/
def throwSwitch (m : Machine) (switch : SwitchId) : Machine :=
  { m with thrown := m.thrown.insert switch }.wake

/-- Adds a crew; from now on the service accepts its job types. -/
def hire (m : Machine) (crew : Crew) : CrewId × Machine :=
  (m.crews.size,
    { m with crews := m.crews.push crew, service := m.service.accept crew.jobTypes })

/-- Begins to wait for a job. -/
def startConsumer (m : Machine) (jobType : String) (switch : SwitchId) : TaskId × Machine :=
  let (consumer, queue) := Consumer.start m.service.queue m.now jobType
  { m with service := { m.service with queue } }.spawn ⟨.consumer consumer, 0, switch, none⟩

/-- Begins to wait for jobs `n` times over; each consumer waits before the next one begins. -/
def startConsumers (jobType : String) (switch : SwitchId) : (n : Nat) → Machine →
    List TaskId × Machine
  | 0, m => ([], m)
  | n + 1, m =>
    let (task, m) := m.startConsumer jobType switch
    let (tasks, m) := startConsumers jobType switch n m.settle
    (task :: tasks, m)

/-- Begins an attempt of a job, which goes as far as it can before any other task goes on. -/
def startAttempt (m : Machine) (crew : CrewId) (job : Job) : TaskId × Machine :=
  m.spawnFirst ⟨.attempt (.new job (m.crew crew).backoff), crew, 0, none⟩

/-- Calls a handler; none if there is none for the type of the job. -/
def startCall (m : Machine) (crew : CrewId) (job : Job) : Option TaskId × Machine :=
  match (m.crew crew).station? job.jobType with
  | some _ =>
    let (call, m) := m.spawn ⟨.call (.new m.tasks.size job), crew, 0, none⟩
    (some call, m)
  | none => (none, m)

/-- Adds several tasks. -/
def spawnAll (m : Machine) (tasks : List Task) : List TaskId × Machine :=
  tasks.foldl
    (fun (ids, m) task =>
      let (id, m) := m.spawn task
      (ids ++ [id], m))
    ([], m)

/-- Begins the work of a crew. -/
def startCrew (m : Machine) (crew : CrewId) (switch : SwitchId) : List TaskId × Machine :=
  m.spawnAll ((m.crew crew).workers.map fun w => ⟨.worker w, crew, switch, none⟩)

/-- Begins a live session; one for which there is no connection is over at once. -/
def startSession (m : Machine) (job : Option JobId) : SessionId × Machine :=
  let (x, service) := Api.Session.start m.service job
  let session := m.sessions.size
  let m := { m with service, sessions := m.sessions.push x }
  (session, (m.spawnAll [⟨.reader session, 0, 0, none⟩, ⟨.writer session, 0, 0, none⟩]).2)

/-- Does something to a session from the client's side. -/
def withSession (m : Machine) (session : SessionId) (act : Api.Session → Api.Session) : Machine :=
  { m with sessions := m.sessions.modify session act }.wake

/-- Does something to the service from outside. -/
def withService (m : Machine) (act : Service → Instant → α × Service) : α × Machine :=
  let (answer, service) := act m.service m.clock
  (answer, { m with service }.tick.wake)

end JobRunner.Machine
