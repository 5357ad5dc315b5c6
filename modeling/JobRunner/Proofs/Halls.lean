import JobRunner.Proofs.Gates
import Mathlib.Tactic.Common

/-!
# Calls that share a handler

- `Hall`: a handler with a limit and any number of calls, which come and go on at any time.
- `Notice`: what happens to a call, and `CallLog`: all that has happened.
- `Hall.Orderly`: how gate, calls and log fit together.
-/

namespace JobRunner

/-! ## What happens to calls -/

/-- Something that happened to a call, and when. -/
inductive Notice where
  | arrived (id : CallId) (time : Nat)
  /-- The body has begun; left to itself, it would do this work. -/
  | begun (id : CallId) (time : Nat) (work : Work)
  | ended (id : CallId) (time : Nat) (ending : Ending)

namespace Notice

/-- The call that a notice is about. -/
def id : Notice → CallId
  | arrived id _ | begun id _ _ | ended id _ _ => id

/-- The call that has arrived. -/
def arrival? : Notice → Option CallId
  | arrived id _ => some id
  | _ => none

/-- The call whose body has begun, when, and its work. -/
def beginning? : Notice → Option (CallId × Nat × Work)
  | begun id time work => some (id, time, work)
  | _ => none

/-- The call that has ended. -/
def departure? : Notice → Option CallId
  | ended id _ _ => some id
  | _ => none

end Notice

/-- What has happened to some calls, in its order. -/
abbrev CallLog := List Notice

namespace CallLog

/-- The calls that have arrived, in their order. -/
def arrivals (log : CallLog) : List CallId := log.filterMap Notice.arrival?

/-- The calls whose bodies have begun, in their order, with the time and the work. -/
def beginnings (log : CallLog) : List (CallId × Nat × Work) := log.filterMap Notice.beginning?

/-- The calls that have ended, in their order. -/
def departures (log : CallLog) : List CallId := log.filterMap Notice.departure?

/-- The body of a call has begun. -/
def HasBegun (log : CallLog) (id : CallId) : Prop := id ∈ log.beginnings.map Prod.fst

section
variable (log : CallLog) (id : CallId) (time : Nat) (work : Work) (ending : Ending)

@[simp] theorem arrivals_arrived :
    arrivals (log ++ [.arrived id time]) = log.arrivals ++ [id] := List.filterMap_append

@[simp] theorem arrivals_begun : arrivals (log ++ [.begun id time work]) = log.arrivals :=
  List.filterMap_append.trans (List.append_nil _)

@[simp] theorem arrivals_ended : arrivals (log ++ [.ended id time ending]) = log.arrivals :=
  List.filterMap_append.trans (List.append_nil _)

@[simp] theorem beginnings_arrived :
    beginnings (log ++ [.arrived id time]) = log.beginnings :=
  List.filterMap_append.trans (List.append_nil _)

@[simp] theorem beginnings_begun :
    beginnings (log ++ [.begun id time work]) = log.beginnings ++ [(id, time, work)] :=
  List.filterMap_append

@[simp] theorem beginnings_ended :
    beginnings (log ++ [.ended id time ending]) = log.beginnings :=
  List.filterMap_append.trans (List.append_nil _)

@[simp] theorem departures_arrived :
    departures (log ++ [.arrived id time]) = log.departures :=
  List.filterMap_append.trans (List.append_nil _)

@[simp] theorem departures_begun : departures (log ++ [.begun id time work]) = log.departures :=
  List.filterMap_append.trans (List.append_nil _)

@[simp] theorem departures_ended :
    departures (log ++ [.ended id time ending]) = log.departures ++ [id] := List.filterMap_append

end

variable (log : CallLog) {n : Notice} {id : CallId}

/-- What is not about a call does not make it arrive, begin or leave. -/
theorem mem_arrivals_append_singleton (hne : n.id ≠ id) :
    id ∈ arrivals (log ++ [n]) ↔ id ∈ log.arrivals := by
  cases n with
  | arrived id' => simp [show id ≠ id' from hne.symm]
  | begun | ended => simp

/-- A notice about another call begins no body of this one. -/
theorem hasBegun_append_singleton (hne : n.id ≠ id) :
    HasBegun (log ++ [n]) id ↔ log.HasBegun id := by
  unfold HasBegun
  cases n with
  | begun id' => simp [show id ≠ id' from hne.symm]
  | arrived | ended => simp

/-- A notice about another call does not put this one out. -/
theorem mem_departures_append_singleton (hne : n.id ≠ id) :
    id ∈ departures (log ++ [n]) ↔ id ∈ log.departures := by
  cases n with
  | ended id' => simp [show id ≠ id' from hne.symm]
  | arrived | begun => simp

/-- Who has begun stays in his place. -/
theorem getElem?_beginnings_append_singleton {k : Nat} {e : CallId × Nat × Work}
    (h : log.beginnings[k]? = some e) (n : Notice) : (beginnings (log ++ [n]))[k]? = some e := by
  have hk : k < log.beginnings.length := (List.getElem?_eq_some_iff.mp h).1
  cases n with
  | begun => rw [beginnings_begun, List.getElem?_append_left hk, h]
  | arrived => rw [beginnings_arrived, h]
  | ended => rw [beginnings_ended, h]

variable {log}

/-- The bodies that have begun are those that had, and the one that begins. -/
theorem mem_beginnings_begun {e : CallId × Nat × Work} {time : Nat} {work : Work} :
    e ∈ beginnings (log ++ [.begun id time work]) ↔
      e ∈ log.beginnings ∨ e.1 = id ∧ e.2.1 = time ∧ e.2.2 = work := by
  rw [beginnings_begun, List.mem_append, List.mem_singleton, Prod.ext_iff, Prod.ext_iff]

/-- A call has begun if its beginning is in the log. -/
theorem hasBegun_iff : log.HasBegun id ↔ ∃ time work, (id, time, work) ∈ log.beginnings := by
  unfold HasBegun
  constructor
  · intro h
    obtain ⟨⟨_, time, work⟩, hmem, rfl⟩ := List.mem_map.mp h
    exact ⟨time, work, hmem⟩
  · rintro ⟨time, work, hmem⟩
    exact List.mem_map_of_mem hmem

/-- Whose end is in the log has left. -/
theorem mem_departures_of_ended {time : Nat} {ending : Ending} (h : .ended id time ending ∈ log) :
    id ∈ log.departures := List.mem_filterMap.mpr ⟨_, h, rfl⟩

/-- A permit could become free for a call at this time: it arrived then, or a call ended then. -/
def Occasion (log : CallLog) (id : CallId) (time : Nat) : Prop :=
  .arrived id time ∈ log ∨ ∃ id' ending, .ended id' time ending ∈ log

/-- What has been an occasion stays one. -/
theorem Occasion.append {time : Nat} (h : log.Occasion id time) (log' : CallLog) :
    Occasion (log ++ log') id time := by
  rcases h with harrived | ⟨id', ending, hended⟩
  · exact .inl (List.mem_append_left _ harrived)
  · exact .inr ⟨id', ending, List.mem_append_left _ hended⟩

end CallLog

/-! ## Steps of a call -/

namespace Call

/-- What is noticed of a step of a call. -/
def notice? (c : Call) (s : Station) (now : Nat) : Option Notice :=
  match c.stage, (c.step s now).1.stage with
  | .arriving, .waiting => some (.arrived c.id now)
  | .waiting, .running _ _ => some (.begun c.id now (s.handler.body s.begun.length c.job))
  | .running _ _, .ended ending => some (.ended c.id now ending)
  | _, _ => none

/-- Whether the body is running. -/
def isRunning (c : Call) : Bool := c.deadline?.isSome

/-- Whether the call has ended. -/
def isOver (c : Call) : Bool := c.ending?.isSome

/-- A call runs from the beginning of its body until it ends. -/
theorem isRunning_iff {c : Call} :
    c.isRunning = true ↔ ∃ due ending, c.stage = .running due ending := by
  unfold isRunning deadline?
  cases c.stage <;> simp

/-- A call is over once it has ended somehow. -/
theorem isOver_iff {c : Call} : c.isOver = true ↔ ∃ ending, c.stage = .ended ending := by
  unfold isOver ending?
  cases c.stage <;> simp

/-- A call that has an ending has ended in that way. -/
theorem stage_of_ending? {c : Call} {ending : Ending} (h : c.ending? = some ending) :
    c.stage = .ended ending := by
  unfold ending? at h
  cases hstage : c.stage with
  | ended ending' =>
    rw [hstage] at h
    exact congrArg CallStage.ended (Option.some.inj h)
  | arriving | waiting | running =>
    rw [hstage] at h
    cases h

/-- What a step of a call does to its stage and to the handler, and what is noticed of it. -/
inductive Turn (c : Call) (s : Station) (now : Nat) : CallStage → Station → Option Notice → Prop
  | arrive (stage : c.stage = .arriving) :
      c.Turn s now .waiting { s with gate := s.gate.arrive c.id } (some (.arrived c.id now))
  | begin {work : Work} (stage : c.stage = .waiting) (inside : c.id ∈ s.gate.inside)
      (work_eq : work = s.handler.body s.begun.length c.job) :
      c.Turn s now
        (.running (now + (work.within s.handler.timeout).busy)
          (work.within s.handler.timeout).ending)
        { s with begun := (c.job, now) :: s.begun } (some (.begun c.id now work))
  | finish {due : Nat} {ending : Ending} (stage : c.stage = .running due ending)
      (passed : due ≤ now) :
      c.Turn s now (.ended ending) { s with gate := s.gate.leave c.id }
        (some (.ended c.id now ending))
  | stay : c.Turn s now c.stage s none

/-- A step of a call is one of its turns, and says so. -/
theorem step_turn (c : Call) (s : Station) (now : Nat) :
    ∃ stage s', c.step s now = ({ c with stage }, s') ∧
      c.Turn s now stage s' (c.notice? s now) := by
  obtain ⟨id, job, stage⟩ := c
  -- each stage is one turn, with its own notice, or stays
  cases stage with
  | arriving => exact ⟨_, _, rfl, .arrive rfl⟩
  | waiting =>
    by_cases hinside : s.gate.isInside id = true
    · have hstep : (⟨id, job, .waiting⟩ : Call).step s now = (⟨id, job, .running
          (now + ((s.handler.body s.begun.length job).within s.handler.timeout).busy)
          ((s.handler.body s.begun.length job).within s.handler.timeout).ending⟩,
          { s with begun := (job, now) :: s.begun }) := if_pos hinside
      refine ⟨_, _, hstep, ?_⟩
      unfold notice?
      rw [hstep]
      exact .begin rfl (List.contains_iff_mem.mp hinside) rfl
    · have hstep : (⟨id, job, .waiting⟩ : Call).step s now = (⟨id, job, .waiting⟩, s) :=
        if_neg hinside
      refine ⟨_, _, hstep, ?_⟩
      unfold notice?
      rw [hstep]
      exact .stay
  | running due ending =>
    by_cases hover : due ≤ now
    · have hstep : (⟨id, job, .running due ending⟩ : Call).step s now =
          (⟨id, job, .ended ending⟩, { s with gate := s.gate.leave id }) := if_pos hover
      refine ⟨_, _, hstep, ?_⟩
      unfold notice?
      rw [hstep]
      exact .finish rfl hover
    · have hstep : (⟨id, job, .running due ending⟩ : Call).step s now =
          (⟨id, job, .running due ending⟩, s) := if_neg hover
      refine ⟨_, _, hstep, ?_⟩
      unfold notice?
      rw [hstep]
      exact .stay
  | ended ending => exact ⟨_, _, rfl, .stay⟩

/-- A call that has not arrived does so in its next step. -/
theorem notice?_of_arriving {c : Call} (hstage : c.stage = .arriving) (s : Station) (now : Nat) :
    c.notice? s now = some (.arrived c.id now) := by
  unfold notice? step
  simp only [hstage]

/-- A call ends in its next step when its body is due. -/
theorem notice?_of_due {c : Call} {due now : Nat} {ending : Ending}
    (hstage : c.stage = .running due ending) (hdue : due ≤ now) (s : Station) :
    c.notice? s now = some (.ended c.id now ending) := by
  unfold notice? step
  simp only [hstage, if_pos hdue]

/-- Who holds a permit begins with its next turn. -/
theorem notice?_of_inside {c : Call} {s : Station} (hstage : c.stage = .waiting)
    (hinside : c.id ∈ s.gate.inside) (now : Nat) :
    c.notice? s now = some (.begun c.id now (s.handler.body s.begun.length c.job)) := by
  unfold notice? step
  simp only [hstage, Gate.isInside, List.contains_iff_mem.mpr hinside, if_true]

/-! ## Where a call stands -/

/-- The body of a call was the `k`-th to begin, counted from zero, and began at `time`. -/
def Began (h : Handler) (log : CallLog) (c : Call) (k time : Nat) : Prop :=
  log.beginnings[k]? = some (c.id, time, h.body k c.job)

/-- The stage of a call agrees with the gate and with what has happened. -/
inductive Stands (h : Handler) (g : Gate) (log : CallLog) (c : Call) : Prop where
  | arriving (stage : c.stage = .arriving) (outside : c.id ∉ log.arrivals)
  | waiting (stage : c.stage = .waiting) (arrived : c.id ∈ log.arrivals)
      (idle : ¬log.HasBegun c.id) (stays : c.id ∉ log.departures)
  | running {k time : Nat} (began : c.Began h log k time)
      (stage : c.stage = .running (time + ((h.body k c.job).within h.timeout).busy)
        ((h.body k c.job).within h.timeout).ending)
      (inside : c.id ∈ g.inside)
  | ended {k time stop : Nat} (began : c.Began h log k time)
      (stage : c.stage = .ended ((h.body k c.job).within h.timeout).ending)
      (noticed : .ended c.id stop ((h.body k c.job).within h.timeout).ending ∈ log)
      (late : time + ((h.body k c.job).within h.timeout).busy ≤ stop)

variable {h : Handler} {g g' : Gate} {log : CallLog} {c : Call} {k time : Nat}

/-- What has begun is not forgotten. -/
theorem Began.append_singleton (hb : c.Began h log k time) (n : Notice) :
    c.Began h (log ++ [n]) k time := log.getElem?_beginnings_append_singleton hb n

theorem Began.mem (hb : c.Began h log k time) : (c.id, time, h.body k c.job) ∈ log.beginnings :=
  List.mem_of_getElem? hb

theorem Began.hasBegun (hb : c.Began h log k time) : log.HasBegun c.id := List.mem_map_of_mem hb.mem

/-- Who is on the way has not arrived. -/
theorem Stands.of_arriving (hs : c.Stands h g log) (hstage : c.stage = .arriving) :
    c.id ∉ log.arrivals := by
  cases hs with
  | arriving _ outside => exact outside
  | waiting stage | running _ stage | ended _ stage =>
    rw [hstage] at stage
    cases stage

/-- Who waits has arrived, and has neither begun nor left. -/
theorem Stands.of_waiting (hs : c.Stands h g log) (hstage : c.stage = .waiting) :
    c.id ∈ log.arrivals ∧ ¬log.HasBegun c.id ∧ c.id ∉ log.departures := by
  cases hs with
  | waiting _ arrived idle stays => exact ⟨arrived, idle, stays⟩
  | arriving stage | running _ stage | ended _ stage =>
    rw [hstage] at stage
    cases stage

/-- Who runs holds a permit, and ends as its body does within the time limit. -/
theorem Stands.of_running (hs : c.Stands h g log) {due : Nat} {ending : Ending}
    (hstage : c.stage = .running due ending) : c.id ∈ g.inside ∧ ∃ k time,
      c.Began h log k time ∧ due = time + ((h.body k c.job).within h.timeout).busy ∧
      ending = ((h.body k c.job).within h.timeout).ending := by
  cases hs with
  | running began stage inside =>
    rw [hstage] at stage
    cases stage
    exact ⟨inside, _, _, began, rfl, rfl⟩
  | arriving stage | waiting stage | ended _ stage =>
    rw [hstage] at stage
    cases stage

/-- Who has ended did so as its body does within the time limit, and not before its time. -/
theorem Stands.of_ended (hs : c.Stands h g log) {ending : Ending}
    (hstage : c.stage = .ended ending) : ∃ k time stop, c.Began h log k time ∧
      ending = ((h.body k c.job).within h.timeout).ending ∧ .ended c.id stop ending ∈ log ∧
      time + ((h.body k c.job).within h.timeout).busy ≤ stop := by
  cases hs with
  | ended began stage noticed late =>
    rw [hstage] at stage
    cases stage
    exact ⟨_, _, _, began, rfl, noticed, late⟩
  | arriving stage | waiting stage | running _ stage =>
    rw [hstage] at stage
    cases stage

/-- What happens to another call changes nothing, unless it puts this one out. -/
theorem Stands.frame (hs : c.Stands h g log) {n : Notice} (hne : n.id ≠ c.id)
    (keeps : c.id ∈ g.inside → c.id ∈ g'.inside) : c.Stands h g' (log ++ [n]) := by
  cases hs with
  | arriving stage outside =>
    exact .arriving stage ((CallLog.mem_arrivals_append_singleton log hne).not.mpr outside)
  | waiting stage arrived idle stays =>
    exact .waiting stage ((CallLog.mem_arrivals_append_singleton log hne).mpr arrived)
      ((CallLog.hasBegun_append_singleton log hne).not.mpr idle)
      ((CallLog.mem_departures_append_singleton log hne).not.mpr stays)
  | running began stage inside => exact .running (began.append_singleton n) stage (keeps inside)
  | ended began stage noticed late =>
    exact .ended (began.append_singleton n) stage (List.mem_append_left _ noticed) late

end Call

/-! ## Any number of calls -/

/-- A handler, the calls made of it, the time, and what has happened so far. -/
structure Hall where
  station : Station
  calls : List Call
  now : Nat
  log : CallLog

namespace Hall

/-- What can happen in a hall. -/
inductive Move where
  /-- A call is made, under an identifier of its own. -/
  | call (id : CallId) (job : Job)
  /-- A call takes its next step. -/
  | turn (i : Nat)
  /-- Some time passes. -/
  | wait (millis : Nat)

/-- A handler that has not been called. -/
def new (h : Handler) : Hall := ⟨.ofHandler h, [], 0, []⟩

/-- A call takes its next step. -/
def turn (a : Hall) (i : Nat) (c : Call) : Hall :=
  let (c', station) := c.step a.station a.now
  { a with
    station
    calls := a.calls.set i c'
    log := a.log ++ (c.notice? a.station a.now).toList }

/-- One move. -/
def step (a : Hall) : Move → Hall
  | .call id job =>
    if id ∈ a.calls.map Call.id then a else { a with calls := a.calls ++ [.new id job] }
  | .turn i =>
    match a.calls[i]? with
    | some c => a.turn i c
    | none => a
  | .wait millis => { a with now := a.now + millis }

/-- Several moves. -/
def run (a : Hall) (moves : List Move) : Hall := moves.foldl step a

variable {a : Hall} {h : Handler} {limit i : Nat} {c : Call}

/-- A turn in a hall is a turn of one call. -/
theorem turn_turn (a : Hall) (i : Nat) (c : Call) :
    ∃ stage s, a.turn i c = ⟨s, a.calls.set i { c with stage }, a.now,
      a.log ++ (c.notice? a.station a.now).toList⟩ ∧
      c.Turn a.station a.now stage s (c.notice? a.station a.now) := by
  obtain ⟨stage, s, hstep, hturn⟩ := c.step_turn a.station a.now
  refine ⟨stage, s, ?_, hturn⟩
  unfold turn
  rw [hstep]

/-- Gate, calls and log of a hall fit together. -/
structure Orderly (a : Hall) (h : Handler) (limit : Nat) : Prop where
  handler : a.station.handler = h
  fair : a.station.gate.Fair limit a.log.arrivals a.log.departures
  ids : (a.calls.map Call.id).Nodup
  known : ∀ id ∈ a.log.arrivals, id ∈ a.calls.map Call.id
  begun : a.station.begun.length = a.log.beginnings.length
  once : (a.log.beginnings.map Prod.fst).Nodup
  after : ∀ id, a.log.HasBegun id → id ∈ a.log.arrivals
  stands : ∀ c ∈ a.calls, c.Stands h a.station.gate a.log

namespace Orderly

/-- A hall is orderly as long as nobody has come. -/
theorem new {n : Nat} (hn : h.maxConcurrency = some n) :
    (Hall.new h).Orderly h (max n 1) where
  handler := rfl
  fair := .ofHandler hn
  ids := .nil
  known _ hid := nomatch hid
  begun := rfl
  once := .nil
  after _ hid := nomatch hid
  stands _ hc := nomatch hc

/-- A new call is made. Nobody has arrived under its identifier. -/
theorem join (ho : a.Orderly h limit) {id : CallId} (hnew : id ∉ a.calls.map Call.id) (job : Job) :
    ({ a with calls := a.calls ++ [.new id job] } : Hall).Orderly h limit where
  handler := ho.handler
  fair := ho.fair
  ids := by
    rw [List.map_append]
    refine List.nodup_append.mpr ⟨ho.ids, List.pairwise_singleton _ _, fun x hx y hy => ?_⟩
    rw [List.mem_singleton.mp hy]
    rintro rfl
    exact hnew hx
  known x hx := by
    rw [List.map_append]
    exact List.mem_append_left _ (ho.known x hx)
  begun := ho.begun
  once := ho.once
  after := ho.after
  stands c hc := by
    rcases List.mem_append.mp hc with hold | hjoined
    · exact ho.stands c hold
    · rw [List.mem_singleton.mp hjoined]
      exact .arriving rfl fun harrived => hnew (ho.known id harrived)

/-- A new call disturbs nobody. -/
theorem call (ho : a.Orderly h limit) (id : CallId) (job : Job) :
    (a.step (.call id job)).Orderly h limit := by
  simp only [Hall.step]
  split
  · exact ho
  · next hnew => exact ho.join hnew job

/-- Calls with the same identifier stand at the same place. -/
theorem index_unique (ho : a.Orderly h limit) {i j : Nat} {c d : Call} (hc : a.calls[i]? = some c)
    (hd : a.calls[j]? = some d) (hid : c.id = d.id) : i = j := by
  have hi : (a.calls.map Call.id)[i]? = some c.id := by rw [List.getElem?_map, hc]; rfl
  have hj : (a.calls.map Call.id)[j]? = some d.id := by rw [List.getElem?_map, hd]; rfl
  obtain ⟨hlt, -⟩ := List.getElem?_eq_some_iff.mp hi
  exact (List.getElem?_inj hlt ho.ids).mp (hi.trans (hid ▸ hj.symm))

/-- Something is noticed of a step of a call. -/
private theorem noticed (ho : a.Orderly h limit) (hc : a.calls[i]? = some c) {stage : CallStage}
    {s : Station} {n : Notice} (about : n.id = c.id) (handler : s.handler = h)
    (fair : s.gate.Fair limit (CallLog.arrivals (a.log ++ [n])) (CallLog.departures (a.log ++ [n])))
    (begun : s.begun.length = (CallLog.beginnings (a.log ++ [n])).length)
    (once : ((CallLog.beginnings (a.log ++ [n])).map Prod.fst).Nodup)
    (arrived : c.id ∈ CallLog.arrivals (a.log ++ [n]))
    (keeps : ∀ id, id ≠ c.id → id ∈ a.station.gate.inside → id ∈ s.gate.inside)
    (stands : ({ c with stage } : Call).Stands h s.gate (a.log ++ [n])) :
    (⟨s, a.calls.set i { c with stage }, a.now, a.log ++ [n]⟩ : Hall).Orderly h limit := by
  -- the call whose turn it is stands in its place, all others in theirs
  have hcases : ∀ (j : Nat) (d : Call), (a.calls.set i { c with stage })[j]? = some d →
      j = i ∧ d = { c with stage } ∨ j ≠ i ∧ a.calls[j]? = some d := by
    intro j d hd
    rw [List.getElem?_set] at hd
    split at hd
    · next hij =>
      split at hd
      · cases hd
        exact .inl ⟨hij.symm, rfl⟩
      · cases hd
    · next hij => exact .inr ⟨fun hji => hij hji.symm, hd⟩
  have hids : (a.calls.set i { c with stage }).map Call.id = a.calls.map Call.id := by
    obtain ⟨hi, rfl⟩ := List.getElem?_eq_some_iff.mp hc
    have hi' : i < (a.calls.map Call.id).length := by rwa [List.length_map]
    have hsame : (a.calls.map Call.id)[i] = a.calls[i].id := List.getElem_map Call.id
    rw [List.map_set]
    show (a.calls.map Call.id).set i a.calls[i].id = _
    rw [← hsame, List.set_getElem_self hi']
  refine ⟨handler, fair, hids ▸ ho.ids, fun id hmem => ?_, begun, once, fun id hbegun => ?_,
    fun d hd => ?_⟩
  · show id ∈ (a.calls.set i { c with stage }).map Call.id
    rw [hids]
    by_cases heq : n.id = id
    · rw [← heq, about]
      exact List.mem_map_of_mem (List.mem_of_getElem? hc)
    · exact ho.known id ((CallLog.mem_arrivals_append_singleton a.log heq).mp hmem)
  · by_cases heq : n.id = id
    · exact heq ▸ about ▸ arrived
    · have hbefore := ho.after id ((CallLog.hasBegun_append_singleton a.log heq).mp hbegun)
      exact (CallLog.mem_arrivals_append_singleton a.log heq).mpr hbefore
  · obtain ⟨j, hj⟩ := List.mem_iff_getElem?.mp hd
    rcases hcases j d hj with ⟨-, rfl⟩ | ⟨hne, hold⟩
    · exact stands
    · -- the others stand where they stood
      have hother : d.id ≠ c.id := fun hsame => hne (ho.index_unique hold hc hsame)
      exact (ho.stands d (List.mem_of_getElem? hold)).frame (about ▸ hother.symm)
        (keeps d.id hother)

/-- A call takes its next step. -/
theorem turn (ho : a.Orderly h limit) (hc : a.calls[i]? = some c) :
    (a.turn i c).Orderly h limit := by
  have hstands := ho.stands c (List.mem_of_getElem? hc)
  obtain ⟨stage, s, heq, hturn⟩ := a.turn_turn i c
  rw [heq]
  obtain rfl := ho.handler
  generalize c.notice? a.station a.now = noticed at hturn
  cases hturn with
  | arrive harriving =>
    have hnew : c.id ∉ a.log.arrivals := hstands.of_arriving harriving
    have hidle : ¬a.log.HasBegun c.id := fun hbegun => hnew (ho.after c.id hbegun)
    have hstays : c.id ∉ a.log.departures :=
      fun hleft => hnew (ho.fair.mem_iff.mpr (.inr (.inl hleft)))
    have hthere : c.id ∈ CallLog.arrivals (a.log ++ [.arrived c.id a.now]) := by simp
    refine ho.noticed hc rfl rfl ?_ ?_ ?_ hthere ?_ ?_
    · simpa using ho.fair.arrive hnew
    · simpa using ho.begun
    · simpa using ho.once
    · exact fun id _ hid => Gate.mem_inside_arrive hid c.id
    · exact .waiting rfl hthere (by simpa [CallLog.HasBegun] using hidle) (by simpa using hstays)
  | @begin work hwaiting hinside hwork =>
    obtain ⟨harrived, hidle, -⟩ := hstands.of_waiting hwaiting
    refine ho.noticed hc rfl rfl ?_ ?_ ?_ (by simpa using harrived) (fun _ _ hid => hid) ?_
    · simpa using ho.fair
    · simp [ho.begun]
    · rw [CallLog.beginnings_begun, List.map_append]
      refine List.nodup_append.mpr ⟨ho.once, List.pairwise_singleton _ _, fun id hid id' hid' => ?_⟩
      rintro rfl
      have hsame : id = c.id := List.mem_singleton.mp hid'
      rw [hsame] at hid
      exact hidle hid
    · -- so many bodies have begun before
      have hbegan : Call.Began a.station.handler (a.log ++ [.begun c.id a.now work]) c
          a.log.beginnings.length a.now := by
        show (CallLog.beginnings (a.log ++ [.begun c.id a.now work]))[a.log.beginnings.length]? = _
        rw [CallLog.beginnings_begun, List.getElem?_concat_length, hwork, ho.begun]
      rw [hwork, ho.begun] at hbegan ⊢
      exact .running hbegan rfl hinside
  | finish hrunning hover =>
    obtain ⟨hinside, k, time, hbegan, rfl, rfl⟩ := hstands.of_running hrunning
    have harrived := ho.fair.mem_iff.mpr (.inl hinside)
    refine ho.noticed hc rfl rfl ?_ ?_ ?_ (by simpa using harrived) ?_ ?_
    · simpa using ho.fair.leave hinside
    · simpa using ho.begun
    · simpa using ho.once
    · exact fun id hne hid => Gate.mem_inside_leave hid hne
    · exact .ended (hbegan.append_singleton _) rfl (List.mem_append_right _ List.mem_cons_self)
        hover
  | stay =>
    obtain ⟨hi, rfl⟩ := List.getElem?_eq_some_iff.mp hc
    rw [Option.toList_none, List.append_nil, List.set_getElem_self hi]
    exact ho

/-- No move disturbs the order. -/
theorem step (ho : a.Orderly h limit) (m : Move) : (a.step m).Orderly h limit := by
  cases m with
  | call id job => exact ho.call id job
  | turn i =>
    simp only [Hall.step]
    split
    · next c hc => exact ho.turn hc
    · exact ho
  | wait millis =>
    exact ⟨ho.handler, ho.fair, ho.ids, ho.known, ho.begun, ho.once, ho.after, ho.stands⟩

/-- A hall is orderly after any moves. -/
theorem run (ho : a.Orderly h limit) (moves : List Move) : (a.run moves).Orderly h limit := by
  induction moves generalizing a with
  | nil => exact ho
  | cons m moves ih => exact ih (ho.step m)

end Orderly

end Hall

end JobRunner
