import JobRunner.Proofs.Permits
import JobRunner.Proofs.Simulation

/-!
# The machine and its halls

`Hall` lets the calls of one handler go on in any order. In the machine the calls are tasks among
others. This file connects the two: what the machine makes of the calls of one handler of one crew
is a run of a hall.

- `Machine.callsAt`: the calls of a handler of a crew.
- `Hall.Depicts`: a hall in which these calls are made of that handler.
- `Hall.Depicts.step`: a step of the machine is some moves in such a hall.
- `Machine.Served`: a machine in which the calls of a handler are a run of a hall, from the first
  call on.
- `Machine.Served.limited`: no more of them run at once than the handler takes.
- `Machine.Served.verdict?_eq`: what an attempt is told that waits for one of them.
-/

namespace JobRunner

/-! ## The calls of a handler -/

/-- Whether a task is a call of a handler. -/
def Task.isCall (t : Task) : Bool :=
  match t.activity with
  | .call _ => true
  | _ => false

/-- The call of a handler of a crew that a task is. -/
def Task.call? (t : Task) (crew : CrewId) (jobType : String) : Option Call :=
  match t.activity with
  | .call c => if t.crew = crew ∧ c.job.jobType = jobType then some c else none
  | _ => none

namespace Task

variable {t : Task} {crew : CrewId} {jobType : String} {c : Call}

theorem isCall_of_activity (h : t.activity = .call c) : t.isCall = true := by
  unfold isCall
  rw [h]

theorem call?_of_not_isCall (h : t.isCall = false) : t.call? crew jobType = none := by
  unfold call?
  split
  · next c hc =>
    rw [isCall_of_activity hc] at h
    cases h
  · rfl

theorem call?_eq_some (h : t.call? crew jobType = some c) : t.activity = .call c := by
  unfold call? at h
  split at h
  · next c' hc =>
    split at h
    · cases h
      exact hc
    · cases h
  · cases h

/-- A task that waits for its handler is no call itself, and neither is what becomes of it. -/
theorem not_isCall_of_calling? {a : Attempt} (h : t.calling? = some a) :
    t.isCall = false ∧ ∀ a', (t.setAttempt a').isCall = false := by
  obtain ⟨activity, crew, switch, awaited⟩ := t
  cases activity with
  | attempt | worker => exact ⟨rfl, fun _ => rfl⟩
  | consumer | call | timer | reader | writer => exact absurd h (Option.some_ne_none a).symm

end Task

/-- Handlers of different types share nothing. -/
theorem Crew.station?_setStation (c : Crew) (jobType jobType' : String) (s : Station) :
    (c.setStation jobType s).station? jobType' =
      if jobType = jobType' then some s else c.station? jobType' := by
  show (c.stations.insert jobType s)[jobType']? = _
  rw [Std.TreeMap.getElem?_insert]
  simp only [Std.LawfulEqOrd.compare_eq_iff_eq]
  rfl

/-- A step of a call leaves its identifier and its job as they are. -/
theorem Call.step_fst (c : Call) (s : Station) (now : Nat) :
    (c.step s now).1.id = c.id ∧ (c.step s now).1.job = c.job := by
  obtain ⟨stage, s', hstep, -⟩ := c.step_turn s now
  rw [hstep]
  exact ⟨rfl, rfl⟩

namespace Machine

/-- The calls of a handler of a crew. -/
def callsAt (m : Machine) (crew : CrewId) (jobType : String) : List Call :=
  m.tasks.toList.filterMap (·.call? crew jobType)

/-- Calls are numbered by the tasks that they are. -/
def Numbered (m : Machine) : Prop :=
  ∀ (id : TaskId) t c, m.tasks[id]? = some t → t.activity = .call c → c.id = id

variable {m : Machine} {crew : CrewId} {jobType : String} {id : TaskId} {t t' : Task}

@[simp] theorem crews_wake (m : Machine) : m.wake.crews = m.crews := by
  rw [wake_eq]

@[simp] theorem now_wake (m : Machine) : m.wake.now = m.now := by
  rw [wake_eq]

/-- Only crews that have been hired have handlers. -/
theorem lt_size_of_station? {s : Station} (h : (m.crew crew).station? jobType = some s) :
    crew < m.crews.size := by
  by_contra hout
  have hnone : m.crew crew = default := by
    unfold Machine.crew
    rw [Array.getD_eq_getD_getElem?, Array.getElem?_eq_none (Nat.not_lt.mp hout)]
    rfl
  rw [hnone] at h
  cases h

/-- Crews share nothing. -/
theorem crew_of_setIfInBounds {m' : Machine} {c : Crew}
    (crews : m'.crews = m.crews.setIfInBounds crew c) (hired : crew < m.crews.size)
    (crew' : CrewId) : m'.crew crew' = if crew = crew' then c else m.crew crew' := by
  unfold Machine.crew
  rw [crews, Array.getD_eq_getD_getElem?, Array.getD_eq_getD_getElem?,
    Array.getElem?_setIfInBounds]
  split <;> rfl

/-! ### Calls and tasks -/

/-- A new task may be a new call, which comes last. -/
theorem callsAt_spawn (m : Machine) (t : Task) (crew : CrewId) (jobType : String) :
    (m.spawn t).2.callsAt crew jobType =
      m.callsAt crew jobType ++ (t.call? crew jobType).toList := m.filterMap_spawn t _

/-- A task that remains the call it was changes no list of calls. -/
theorem callsAt_setTask (ht : m.tasks[id]? = some t)
    (same : t'.call? crew jobType = t.call? crew jobType) :
    (m.setTask id t').callsAt crew jobType = m.callsAt crew jobType := filterMap_setTask ht same

namespace Numbered

/-- A new call is numbered by its task. -/
theorem spawn (h : m.Numbered) (known : ∀ c, t.activity = .call c → c.id = m.tasks.size) :
    (m.spawn t).2.Numbered := by
  intro id t' c ht' hc
  have hpush : (m.tasks.push t)[id]? = some t' := ht'
  rw [Array.getElem?_push] at hpush
  split at hpush
  · next hlast =>
    cases hpush
    exact (known c hc).trans hlast.symm
  · exact h id t' c hpush hc

/-- A call that goes on keeps its number. -/
theorem setTask (h : m.Numbered) (known : ∀ c, t'.activity = .call c → c.id = id) :
    (m.setTask id t').Numbered := by
  intro id' t c ht hc
  have hset : (m.tasks.setIfInBounds id t')[id']? = some t := ht
  rw [Array.getElem?_setIfInBounds] at hset
  split at hset
  · next hid =>
    split at hset
    · cases hset
      exact hid ▸ known c hc
    · cases hset
  · exact h id' t c hset hc

/-- The next task has a number that no call has. -/
theorem size_not_mem (h : m.Numbered) (crew : CrewId) (jobType : String) :
    m.tasks.size ∉ (m.callsAt crew jobType).map Call.id := by
  intro hmem
  obtain ⟨c, hc, hid⟩ := List.mem_map.mp hmem
  obtain ⟨t, ht, hcall⟩ := List.mem_filterMap.mp hc
  obtain ⟨i, hi⟩ := List.mem_iff_getElem?.mp ht
  rw [Array.getElem?_toList] at hi
  obtain ⟨hlt, -⟩ := Array.getElem?_eq_some_iff.mp hi
  have hnumber := h i t c hi (Task.call?_eq_some hcall)
  exact Nat.ne_of_lt hlt (hnumber.symm.trans hid)

end Numbered

end Machine

namespace Hall

/-- A hall in which the calls of a handler of a crew of a machine are made. -/
structure Depicts (a : Hall) (m : Machine) (crew : CrewId) (jobType : String) : Prop where
  station : (m.crew crew).station? jobType = some a.station
  calls : a.calls = m.callsAt crew jobType
  now : a.now = m.now
  numbered : m.Numbered

namespace Depicts

variable {a : Hall} {m m' : Machine} {crew : CrewId} {jobType : String} {id : TaskId}
  {t t' : Task} {c : Call}

/-- A hall depicts no more of a machine than its crews, its tasks and its time. -/
theorem congr (h : a.Depicts m crew jobType) (crews : m'.crews = m.crews)
    (tasks : m'.tasks = m.tasks) (now : m'.now = m.now) : a.Depicts m' crew jobType := by
  refine ⟨?_, h.calls.trans ?_, h.now.trans now.symm, fun id t c ht => ?_⟩
  · unfold Machine.crew
    rw [crews]
    exact h.station
  · unfold Machine.callsAt
    rw [tasks]
  · rw [tasks] at ht
    exact h.numbered id t c ht

/-! ### Tasks -/

/-- A task that is no call changes. -/
theorem setTask (h : a.Depicts m crew jobType) (ht : m.tasks[id]? = some t)
    (hnone : t.isCall = false) (hnone' : t'.isCall = false) :
    a.Depicts (m.setTask id t') crew jobType where
  station := h.station
  calls := by
    have hsame : t'.call? crew jobType = t.call? crew jobType := by
      rw [Task.call?_of_not_isCall hnone, Task.call?_of_not_isCall hnone']
    rw [h.calls, Machine.callsAt_setTask ht hsame]
  now := h.now
  numbered := h.numbered.setTask fun c hc =>
    absurd (Task.isCall_of_activity hc) (Bool.eq_false_iff.mp hnone')

/-- A new task is a new call, or is not seen. -/
theorem spawn (h : a.Depicts m crew jobType)
    (known : ∀ c, t.activity = .call c → c = .new m.tasks.size c.job) :
    ∃ moves, (a.run moves).Depicts (m.spawn t).2 crew jobType := by
  have hnumbered : (m.spawn t).2.Numbered := h.numbered.spawn fun c hc => by rw [known c hc]; rfl
  have hcalls := m.callsAt_spawn t crew jobType
  cases hcall : t.call? crew jobType with
  | none =>
    rw [hcall, Option.toList_none, List.append_nil, ← h.calls] at hcalls
    exact ⟨[], h.station, hcalls.symm, h.now, hnumbered⟩
  | some c =>
    have hnew := known c (Task.call?_eq_some hcall)
    rw [hcall, Option.toList_some, hnew, ← h.calls] at hcalls
    have hfresh : m.tasks.size ∉ a.calls.map Call.id :=
      h.calls ▸ h.numbered.size_not_mem crew jobType
    have hrun : a.run [.call m.tasks.size c.job] =
        { a with calls := a.calls ++ [.new m.tasks.size c.job] } := if_neg hfresh
    refine ⟨[.call m.tasks.size c.job], ?_⟩
    rw [hrun]
    exact ⟨h.station, hcalls.symm, h.now, hnumbered⟩

/-- A task that is no call takes a step, and may leave a timer. -/
theorem other (h : a.Depicts m crew jobType) (ht : m.tasks[id]? = some t) (hnone : t.isCall = false)
    (hnone' : t'.isCall = false) (service : Service) (added : Option RetryTimer) :
    a.Depicts (({ m.setTask id t' with service } : Machine).spawnTimer added) crew jobType := by
  have hset : a.Depicts ({ m.setTask id t' with service } : Machine) crew jobType :=
    (h.setTask ht hnone hnone').congr rfl rfl rfl
  cases added with
  | none => exact hset
  | some r =>
    have hcalls := Machine.callsAt_spawn ({ m.setTask id t' with service } : Machine)
      ⟨.timer r, 0, 0, none⟩ crew jobType
    exact ⟨hset.station, hset.calls.trans (hcalls.trans (List.append_nil _)).symm, hset.now,
      hset.numbered.spawn nofun⟩

/-! ### Steps -/

/-- An attempt calls its handler, or is told how the call ended, or that there is none. -/
theorem stepCalling (h : a.Depicts m crew jobType) (ht : m.tasks[id]? = some t) {attempt : Attempt}
    (ha : t.calling? = some attempt) :
    ∃ moves, (a.run moves).Depicts (m.stepCalling id t attempt) crew jobType := by
  obtain ⟨hnone, hnone'⟩ := Task.not_isCall_of_calling? ha
  unfold Machine.stepCalling
  split
  · split
    · exact ⟨[], h.setTask ht hnone (hnone' _)⟩
    · exact ⟨[], h⟩
  · split
    · -- the call is a task of its own, and the attempt remembers its number
      obtain ⟨moves, hdepicts⟩ := h.spawn
        (t := ⟨.call (.new m.tasks.size attempt.job), t.crew, t.switch, none⟩)
        (fun c hc => by cases hc; rfl)
      exact ⟨moves, hdepicts.setTask (Machine.getElem?_spawn ht _) hnone hnone⟩
    · exact ⟨[], h.setTask ht hnone (hnone' _)⟩

/-- A call of the handler takes its turn. -/
private theorem turn (h : a.Depicts m crew jobType) {switch : SwitchId} {awaited : Option TaskId}
    (ht : m.tasks[id]? = some ⟨.call c, crew, switch, awaited⟩) (htype : c.job.jobType = jobType)
    (station : (m'.crew crew).station? jobType = some (c.step a.station m.now).2)
    (tasks : m'.tasks = (m.setTask id
      ⟨.call (c.step a.station m.now).1, crew, switch, awaited⟩).tasks)
    (now : m'.now = m.now) (numbered : m'.Numbered) :
    ∃ moves, (a.run moves).Depicts m' crew jobType := by
  have hmem : m.tasks.toList[id]? = some ⟨.call c, crew, switch, awaited⟩ := by
    rwa [Array.getElem?_toList]
  have hcall : (⟨.call c, crew, switch, awaited⟩ : Task).call? crew jobType = some c :=
    if_pos ⟨rfl, htype⟩
  have hkept : (⟨.call (c.step a.station m.now).1, crew, switch, awaited⟩ : Task).call? crew
      jobType = some (c.step a.station m.now).1 := by
    refine if_pos ⟨rfl, ?_⟩
    rw [(c.step_fst a.station m.now).2, htype]
  obtain ⟨j, hj, hset⟩ := exists_filterMap_set (f := (·.call? crew jobType)) hmem hcall
  have hj : a.calls[j]? = some c := h.calls ▸ hj
  have hrun : a.run [.turn j] = a.turn j c := by
    show a.step (.turn j) = a.turn j c
    simp only [Hall.step, hj]
  refine ⟨[.turn j], ?_⟩
  rw [hrun]
  refine ⟨?_, ?_, h.now.trans now.symm, numbered⟩
  · rw [station, ← h.now]
    rfl
  · show a.calls.set j (c.step a.station a.now).1 = _
    unfold Machine.callsAt
    rw [tasks, Machine.toList_setTask, hset _ _ hkept, h.calls, h.now]
    rfl

/-- A step of a call is its turn in the hall of its handler, and changes no other hall. -/
theorem stepCall (h : a.Depicts m crew jobType) (ht : m.tasks[id]? = some t)
    (hc : t.activity = .call c) :
    ∃ moves, (a.run moves).Depicts (m.stepCall id t c) crew jobType := by
  obtain ⟨activity, k, switch, awaited⟩ := t
  obtain rfl : activity = .call c := hc
  unfold Machine.stepCall
  dsimp only
  split
  · next station hstation =>
    obtain ⟨hid, hjob⟩ := c.step_fst station m.now
    have hnumbered : (m.setTask id
        ⟨.call (c.step station m.now).1, k, switch, awaited⟩).Numbered := by
      refine h.numbered.setTask fun c' hc' => ?_
      cases hc'
      exact hid.trans (h.numbered id _ c ht rfl)
    rw [hjob]
    have hired := Machine.lt_size_of_station? hstation
    by_cases hmine : k = crew ∧ c.job.jobType = jobType
    · obtain ⟨rfl, htype⟩ := hmine
      rw [htype] at hstation
      obtain rfl : station = a.station := Option.some.inj (hstation.symm.trans h.station)
      refine h.turn ht htype ?_ rfl rfl hnumbered
      rw [Machine.crew_of_setIfInBounds rfl hired, if_pos rfl, Crew.station?_setStation,
        if_pos htype]
    · -- another handler is called, or that of another crew
      refine ⟨[], ?_, ?_, h.now, hnumbered⟩
      · rw [Machine.crew_of_setIfInBounds rfl hired]
        split
        · next hsame =>
          subst hsame
          rw [Crew.station?_setStation, if_neg fun htype => hmine ⟨rfl, htype⟩]
          exact h.station
        · exact h.station
      · have hsame : (⟨.call (c.step station m.now).1, k, switch, awaited⟩ : Task).call? crew
            jobType = (⟨.call c, k, switch, awaited⟩ : Task).call? crew jobType := by
          unfold Task.call?
          dsimp only
          rw [hjob, if_neg hmine, if_neg hmine]
        exact h.calls.trans (Machine.callsAt_setTask ht hsame).symm
  · exact ⟨[], h⟩

/-- What a task does is done in the hall, if it is a call of its handler. -/
theorem stepTask (h : a.Depicts m crew jobType) (ht : m.tasks[id]? = some t) :
    ∃ moves, (a.run moves).Depicts (m.stepTask id t) crew jobType := by
  unfold Machine.stepTask
  split
  · next attempt ha => exact h.stepCalling ht ha
  · obtain ⟨activity, crew', switch, awaited⟩ := t
    cases activity with
    | consumer c => exact ⟨[], h.other ht rfl rfl _ none⟩
    | attempt attempt => exact ⟨[], h.other ht rfl rfl _ _⟩
    | worker w => exact ⟨[], h.other ht rfl rfl _ _⟩
    | call c => exact h.stepCall ht rfl
    | timer r => exact ⟨[], h.other ht rfl rfl _ none⟩
    | reader | writer => exact ⟨[], h.congr rfl rfl rfl⟩

/-- A step of the machine is some moves in the hall. -/
theorem step (h : a.Depicts m crew jobType) :
    ∃ moves, (a.run moves).Depicts m.step crew jobType := by
  unfold Machine.step
  split
  · exact ⟨[], h⟩
  · split
    · exact ⟨[], h.congr rfl rfl rfl⟩
    · next id ready _ _ t ht =>
      split
      · exact ⟨[], h.congr rfl rfl rfl⟩
      · split
        · exact ⟨[], h.congr rfl rfl rfl⟩
        · have hticked : a.Depicts m.tick crew jobType := h.congr rfl rfl rfl
          have htask : m.tick.tasks[id]? = some t := ht
          obtain ⟨moves, hdepicts⟩ := hticked.stepTask htask
          exact ⟨moves, hdepicts.congr (Machine.crews_wake _) (Machine.tasks_wake _)
            (Machine.now_wake _)⟩

/-- Time passes in the hall as it does in the machine. -/
theorem moveTo (h : a.Depicts m crew jobType) (moment : Nat) :
    ∃ moves, (a.run moves).Depicts (m.moveTo moment) crew jobType := by
  refine ⟨[.wait (max m.now moment - m.now)], ?_⟩
  have hlater : (⟨a.station, a.calls, max m.now moment, a.log⟩ : Hall).Depicts
      ({ m with now := max m.now moment } : Machine) crew jobType :=
    ⟨h.station, h.calls, rfl, h.numbered⟩
  have hrun : a.run [.wait (max m.now moment - m.now)] =
      ⟨a.station, a.calls, max m.now moment, a.log⟩ := by
    show (⟨_, _, a.now + (max m.now moment - m.now), _⟩ : Hall) = _
    rw [h.now, Nat.add_sub_cancel' (Nat.le_max_left _ _)]
  rw [hrun]
  exact hlater.congr (Machine.crews_wake _) (Machine.tasks_wake _) (Machine.now_wake _)

/-- A call that is made from outside is a call in the hall of its handler. -/
theorem startCall (h : a.Depicts m crew jobType) (crew' : CrewId) (job : Job) :
    ∃ moves, (a.run moves).Depicts (m.startCall crew' job).2 crew jobType := by
  unfold Machine.startCall
  split
  · exact h.spawn fun c hc => by cases hc; rfl
  · exact ⟨[], h⟩

end Depicts

end Hall

/-! ## Runs of the machine -/

namespace Machine

/-- A machine in which the calls of a handler of a crew have been a run of a hall. -/
def Served (m : Machine) (crew : CrewId) (jobType : String) (h : Handler) : Prop :=
  ∃ moves, ((Hall.new h).run moves).Depicts m crew jobType

namespace Served

variable {m m' : Machine} {crew : CrewId} {jobType : String} {h : Handler}

/-- A handler that has not been called is served. -/
theorem of_uncalled (station : (m.crew crew).station? jobType = some (.ofHandler h))
    (uncalled : m.callsAt crew jobType = []) (numbered : m.Numbered) :
    m.Served crew jobType h := by
  refine ⟨[.wait m.now], station, uncalled.symm, ?_, numbered⟩
  show 0 + m.now = m.now
  exact Nat.zero_add _

/-- What is some moves in a hall keeps a handler served. -/
private theorem of_moves (hs : m.Served crew jobType h)
    (goesOn : ∀ a : Hall, a.Depicts m crew jobType →
      ∃ moves, (a.run moves).Depicts m' crew jobType) : m'.Served crew jobType h := by
  obtain ⟨moves, hdepicts⟩ := hs
  obtain ⟨moves', hdepicts'⟩ := goesOn _ hdepicts
  refine ⟨moves ++ moves', ?_⟩
  have hrun : (Hall.new h).run (moves ++ moves') = ((Hall.new h).run moves).run moves' :=
    List.foldl_append
  rwa [hrun]

/-- A handler remains served in a step of the machine. -/
theorem step (hs : m.Served crew jobType h) : m.step.Served crew jobType h :=
  hs.of_moves fun _ ha => ha.step

theorem moveTo (hs : m.Served crew jobType h) (moment : Nat) :
    (m.moveTo moment).Served crew jobType h := hs.of_moves fun _ ha => ha.moveTo moment

theorem startCall (hs : m.Served crew jobType h) (crew' : CrewId) (job : Job) :
    (m.startCall crew' job).2.Served crew jobType h :=
  hs.of_moves fun _ ha => ha.startCall crew' job

theorem settle (hs : m.Served crew jobType h) : m.settle.Served crew jobType h :=
  settleWithin_induction (P := (Served · crew jobType h)) (fun _ => step) patience hs

/-- However long the machine runs, and whatever it waits for. -/
theorem runWithin (hs : m.Served crew jobType h) (stop : Machine → Bool) (target : Option Nat)
    (fuel : Nat) : (m.runWithin stop target fuel).Served crew jobType h :=
  runWithin_induction (P := (Served · crew jobType h)) (fun _ => step)
    (fun _ moment hm => hm.moveTo moment) stop target fuel hs

variable {body : Nat → Job → Work} {n : Nat} {timeout : Option Nat}

/-- The calls of a handler share it as those of a hall do. -/
theorem shared (hs : m.Served crew jobType ⟨body, some n, timeout⟩) :
    ∃ a : Hall, a.Depicts m crew jobType ∧ a.Shared body n timeout := by
  obtain ⟨moves, hdepicts⟩ := hs
  exact ⟨_, hdepicts, ((Hall.Orderly.new rfl).run moves).shared⟩

/-- No more bodies of a handler run at once than it takes. -/
theorem limited (hs : m.Served crew jobType ⟨body, some n, timeout⟩) :
    ((m.callsAt crew jobType).filter (·.isRunning)).length ≤ max n 1 := by
  obtain ⟨a, hdepicts, hshared⟩ := hs.shared
  have hlimited := hshared.limited
  unfold Hall.running at hlimited
  rwa [hdepicts.calls, List.length_map] at hlimited

/-- An attempt that waits for such a call is told what came of the body within the time limit. -/
theorem verdict?_eq (hs : m.Served crew jobType ⟨body, some n, timeout⟩) {id : TaskId}
    {t t' : Task} {a : Attempt} {c : Call} {report : Except Failure Json}
    (hawaits : t.awaited = some id) (ht' : m.tasks[id]? = some t')
    (hc : t'.call? crew jobType = some c) (hreport : m.verdict? t a = some report) :
    ∃ k, report = ((body k c.job).within timeout).ending.report := by
  obtain ⟨moves, hdepicts⟩ := hs
  have hmem : c ∈ ((Hall.new ⟨body, some n, timeout⟩).run moves).calls := by
    rw [hdepicts.calls]
    refine List.mem_filterMap.mpr ⟨t', ?_, hc⟩
    rw [← Array.getElem?_toList] at ht'
    exact List.mem_of_getElem? ht'
  have hending : m.ending? id = c.ending? := by
    obtain ⟨activity, k, switch, awaited⟩ := t'
    obtain rfl : activity = .call c := Task.call?_eq_some hc
    unfold Machine.ending?
    rw [ht']
  unfold Machine.verdict? at hreport
  rw [hawaits] at hreport
  dsimp only at hreport
  rw [hending] at hreport
  -- a report is made only of a call that has ended
  obtain ⟨ending, hended, rfl⟩ := Option.map_eq_some_iff.mp hreport
  obtain ⟨k, -, -, -, rfl, -, -⟩ :=
    (((Hall.Orderly.new rfl).run moves).stands c hmem).of_ended (Call.stage_of_ending? hended)
  exact ⟨k, rfl⟩

end Served

end Machine

end JobRunner
