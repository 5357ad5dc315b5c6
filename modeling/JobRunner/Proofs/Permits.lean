import JobRunner.Proofs.Halls
import Mathlib.Data.List.Perm.Subperm

/-!
# Permits

What a handler with a limit grants to the calls that share it.

- `Hall.running`, `Hall.unfinished`: the calls whose bodies run, and those that have not ended.
- `Hall.Orderly.length_running`: while no call can go on, as many bodies run as may and can.
- `Hall.Shared`: no more bodies run at once than the handler allows, permits go to those who arrived
  first, none is lost or free while a call waits for one, and the time limit of a call counts from
  the beginning of its body.
-/

namespace JobRunner

/-! ## Time limits -/

namespace Work

variable {w : Work} {timeout : Option Nat} {limit : Nat}

theorem within_of_lt (w : Work) (h : limit < w.busy) :
    w.within (some limit) = ⟨limit, .failure (.timeout limit)⟩ := if_pos h

theorem within_of_le (w : Work) (h : ∀ limit, timeout = some limit → w.busy ≤ limit) :
    w.within timeout = w := by
  cases timeout with
  | none => rfl
  | some limit => exact if_neg (Nat.not_lt.mpr (h limit rfl))

end Work

namespace Hall

/-- The calls whose bodies are running. -/
def running (a : Hall) : List CallId := (a.calls.filter (·.isRunning)).map Call.id

/-- The calls that have not ended. -/
def unfinished (a : Hall) : List CallId := (a.calls.filter (!·.isOver)).map Call.id

/-- Whether no call can go on. -/
def isIdle (a : Hall) : Bool := a.calls.all (·.isBlocked a.station a.now)

variable {a : Hall} {h : Handler} {limit i : Nat} {c : Call} {id : CallId}

/-- What the turn of a call adds to the log. -/
theorem log_step_turn (hc : a.calls[i]? = some c) :
    (a.step (.turn i)).log = a.log ++ (c.notice? a.station a.now).toList := by
  unfold Hall.step
  simp only [hc]
  rfl

/-! ## Who is inside -/

theorem isBlocked_of_isIdle (hidle : a.isIdle = true) (hc : c ∈ a.calls) :
    c.isBlocked a.station a.now = true := List.all_eq_true.mp hidle c hc

namespace Orderly

theorem nodup_running (ho : a.Orderly h limit) : a.running.Nodup :=
  ho.ids.sublist (List.filter_sublist.map _)

theorem nodup_unfinished (ho : a.Orderly h limit) : a.unfinished.Nodup :=
  ho.ids.sublist (List.filter_sublist.map _)

/-- Whoever has arrived is one of the calls. -/
theorem exists_call (ho : a.Orderly h limit) (hid : id ∈ a.log.arrivals) :
    ∃ c ∈ a.calls, c.id = id := List.mem_map.mp (ho.known id hid)

theorem mem_departures_iff (ho : a.Orderly h limit) (hc : c ∈ a.calls) :
    c.id ∈ a.log.departures ↔ c.isOver = true := by
  have hstands := ho.stands c hc
  constructor
  · intro hleft
    cases hstands with
    | arriving _ outside => exact absurd (ho.fair.mem_iff.mpr (.inr (.inl hleft))) outside
    | waiting _ _ _ stays => exact absurd hleft stays
    | running _ _ inside => exact absurd hleft (ho.fair.not_left_of_inside inside)
    | ended _ stage => exact Call.isOver_iff.mpr ⟨_, stage⟩
  · intro hover
    obtain ⟨ending, hstage⟩ := Call.isOver_iff.mp hover
    obtain ⟨k, time, stop, -, -, hnoticed, -⟩ := hstands.of_ended hstage
    exact CallLog.mem_departures_of_ended hnoticed

/-- Whoever holds a permit is about to begin, or running. -/
theorem stage_of_inside (ho : a.Orderly h limit) (hc : c ∈ a.calls)
    (hinside : c.id ∈ a.station.gate.inside) :
    c.stage = .waiting ∧ ¬a.log.HasBegun c.id ∨ c.isRunning = true := by
  cases ho.stands c hc with
  | arriving _ outside => exact absurd (ho.fair.mem_iff.mpr (.inl hinside)) outside
  | waiting stage _ idle => exact .inl ⟨stage, idle⟩
  | running _ stage => exact .inr (Call.isRunning_iff.mpr ⟨_, _, stage⟩)
  | ended _ _ noticed =>
    have hleft := CallLog.mem_departures_of_ended noticed
    exact absurd hleft (ho.fair.not_left_of_inside hinside)

/-- Whoever runs holds a permit and has begun. -/
theorem inside_and_hasBegun_of_mem_running (ho : a.Orderly h limit) (hid : id ∈ a.running) :
    id ∈ a.station.gate.inside ∧ a.log.HasBegun id := by
  obtain ⟨c, hc, rfl⟩ := List.mem_map.mp hid
  obtain ⟨hmem, hrunning⟩ := List.mem_filter.mp hc
  obtain ⟨due, ending, hstage⟩ := Call.isRunning_iff.mp hrunning
  obtain ⟨hinside, k, time, hbegan, -, -⟩ := (ho.stands c hmem).of_running hstage
  exact ⟨hinside, hbegan.hasBegun⟩

theorem length_running_le (ho : a.Orderly h limit) : a.running.length ≤ limit :=
  have hsub : a.running.Subperm a.station.gate.inside :=
    ho.nodup_running.subperm fun _ hid => (ho.inside_and_hasBegun_of_mem_running hid).1
  Nat.le_trans hsub.length_le ho.fair.room

/-- Whose body has begun does not wait at the gate. -/
theorem not_waiting_of_hasBegun (ho : a.Orderly h limit) (hbegun : a.log.HasBegun id) :
    id ∉ a.station.gate.waiting := by
  intro hwaiting
  obtain ⟨c, hc, rfl⟩ := ho.exists_call (ho.after id hbegun)
  cases ho.stands c hc with
  | arriving _ outside => exact outside (ho.after c.id hbegun)
  | waiting _ _ idle => exact idle hbegun
  | running _ _ inside => exact ho.fair.not_inside_of_waiting hwaiting inside
  | ended _ _ noticed =>
    exact ho.fair.not_left_of_waiting hwaiting (CallLog.mem_departures_of_ended noticed)

theorem hasBegun_of_departed (ho : a.Orderly h limit) (hleft : id ∈ a.log.departures) :
    a.log.HasBegun id := by
  obtain ⟨c, hc, rfl⟩ := ho.exists_call (ho.fair.mem_iff.mpr (.inr (.inl hleft)))
  obtain ⟨ending, hstage⟩ := Call.isOver_iff.mp ((ho.mem_departures_iff hc).mp hleft)
  obtain ⟨k, time, stop, hbegan, -, -, -⟩ := (ho.stands c hc).of_ended hstage
  exact hbegan.hasBegun

/-- Whoever arrived before a call that has been let in has been let in too. -/
theorem begun_or_inside (ho : a.Orderly h limit) {earlier later : List CallId} {id' : CallId}
    (harrived : a.log.arrivals = earlier ++ id' :: later) (hid : id ∈ earlier)
    (hadmitted : id' ∉ a.station.gate.waiting) :
    a.log.HasBegun id ∨ ¬a.log.HasBegun id ∧ id ∈ a.station.gate.inside := by
  by_cases hbegun : a.log.HasBegun id
  · exact .inl hbegun
  · right
    refine ⟨hbegun, ?_⟩
    have hmem : id ∈ a.log.arrivals := harrived ▸ List.mem_append_left _ hid
    rcases ho.fair.mem_iff.mp hmem with hinside | hleft | hwaiting
    · exact hinside
    · exact absurd (ho.hasBegun_of_departed hleft) hbegun
    · exact absurd hwaiting (ho.fair.not_waiting_of_before harrived hid hadmitted)

/-! ## Halls in which no call can go on -/

/-- While no call can go on, whoever holds a permit runs. -/
theorem running_perm_inside (ho : a.Orderly h limit) (hidle : a.isIdle = true) :
    a.running.Perm a.station.gate.inside := by
  refine (List.perm_ext_iff_of_nodup ho.nodup_running ho.fair.nodup_inside).mpr fun id =>
    ⟨fun hid => (ho.inside_and_hasBegun_of_mem_running hid).1, fun hinside => ?_⟩
  obtain ⟨c, hc, rfl⟩ := ho.exists_call (ho.fair.mem_iff.mpr (.inl hinside))
  rcases ho.stage_of_inside hc hinside with ⟨hwaiting, -⟩ | hrunning
  · have hblocked := isBlocked_of_isIdle hidle hc
    unfold Call.isBlocked Gate.isInside at hblocked
    rw [hwaiting, List.contains_iff_mem.mpr hinside] at hblocked
    cases hblocked
  · exact List.mem_map_of_mem (List.mem_filter.mpr ⟨hc, hrunning⟩)

/-- While no call can go on, the body of whoever holds a permit has begun. -/
theorem hasBegun_of_inside (ho : a.Orderly h limit) (hidle : a.isIdle = true)
    (hinside : id ∈ a.station.gate.inside) : a.log.HasBegun id :=
  (ho.inside_and_hasBegun_of_mem_running ((ho.running_perm_inside hidle).mem_iff.mpr hinside)).2

/-- While no call can go on, every call has arrived: one that has not could. -/
theorem arrived_of_isIdle (ho : a.Orderly h limit) (hidle : a.isIdle = true) (hc : c ∈ a.calls) :
    c.id ∈ a.log.arrivals := by
  cases ho.stands c hc with
  | arriving stage =>
    have hblocked := isBlocked_of_isIdle hidle hc
    unfold Call.isBlocked at hblocked
    rw [stage] at hblocked
    cases hblocked
  | waiting _ arrived => exact arrived
  | running began | ended began => exact ho.after c.id began.hasBegun

/-- While no call can go on, the calls that have not ended hold a permit or wait for one. -/
theorem unfinished_perm (ho : a.Orderly h limit) (hidle : a.isIdle = true) :
    a.unfinished.Perm (a.station.gate.inside ++ a.station.gate.waiting) := by
  have hnodup : (a.station.gate.inside ++ a.station.gate.waiting).Nodup :=
    ho.fair.nodup_places.sublist (List.append_assoc .. ▸
      (List.Sublist.refl _).append (List.sublist_append_right _ _))
  refine (List.perm_ext_iff_of_nodup ho.nodup_unfinished hnodup).mpr fun id => ?_
  rw [List.mem_append]
  constructor
  · intro hid
    obtain ⟨c, hc, rfl⟩ := List.mem_map.mp hid
    obtain ⟨hmem, hopen⟩ := List.mem_filter.mp hc
    have hstays : c.id ∉ a.log.departures := by
      rw [ho.mem_departures_iff hmem]
      simpa using hopen
    rcases ho.fair.mem_iff.mp (ho.arrived_of_isIdle hidle hmem) with hinside | hleft | hwaiting
    · exact .inl hinside
    · exact absurd hleft hstays
    · exact .inr hwaiting
  · intro hid
    have hplace : id ∈ a.log.arrivals ∧ id ∉ a.log.departures := by
      rcases hid with hinside | hwaiting
      · exact ⟨ho.fair.mem_iff.mpr (.inl hinside), ho.fair.not_left_of_inside hinside⟩
      · exact ⟨ho.fair.mem_iff.mpr (.inr (.inr hwaiting)), ho.fair.not_left_of_waiting hwaiting⟩
    obtain ⟨c, hc, rfl⟩ := ho.exists_call hplace.1
    rw [ho.mem_departures_iff hc] at hplace
    exact List.mem_map_of_mem (List.mem_filter.mpr ⟨hc, by simpa using hplace.2⟩)

/-- While no call can go on, as many bodies run as may and can. -/
theorem length_running (ho : a.Orderly h limit) (hidle : a.isIdle = true) :
    a.running.length = min limit a.unfinished.length := by
  rw [(ho.running_perm_inside hidle).length_eq, (ho.unfinished_perm hidle).length_eq,
    List.length_append]
  have hroom := ho.fair.room
  -- if somebody waits, all permits are given; if not, everybody has one
  by_cases hwaiting : a.station.gate.waiting = []
  · rw [hwaiting, List.length_nil]
    omega
  · have hfull := ho.fair.full hwaiting
    omega

/-- Once all calls have ended, the gate is empty. -/
theorem empty_of_over (ho : a.Orderly h limit) (hover : ∀ c ∈ a.calls, c.isOver = true) :
    a.station.gate.inside = [] ∧ a.station.gate.waiting = [] := by
  have hleft : ∀ id ∈ a.log.arrivals, id ∈ a.log.departures := by
    intro id hid
    obtain ⟨c, hc, rfl⟩ := ho.exists_call hid
    exact (ho.mem_departures_iff hc).mpr (hover c hc)
  constructor
  · refine List.eq_nil_iff_forall_not_mem.mpr fun id hinside => ?_
    exact ho.fair.not_left_of_inside hinside (hleft id (ho.fair.mem_iff.mpr (.inl hinside)))
  · refine List.eq_nil_iff_forall_not_mem.mpr fun id hwaiting => ?_
    exact ho.fair.not_left_of_waiting hwaiting
      (hleft id (ho.fair.mem_iff.mpr (.inr (.inr hwaiting))))

/-- The next turn of a call that has been let in begins its body. -/
theorem turn_of_inside (ho : a.Orderly h limit) (hc : a.calls[i]? = some c)
    (hstage : c.stage = .waiting) (hinside : c.id ∈ a.station.gate.inside) :
    (a.step (.turn i)).log =
      a.log ++ [.begun c.id a.now (h.body a.log.beginnings.length c.job)] := by
  rw [log_step_turn hc, c.notice?_of_inside hstage hinside, ho.handler, ho.begun]
  rfl

end Orderly

/-! ## How calls share a handler -/

/-- The calls of a hall share a handler that takes `n` of them at once, each for `timeout`. -/
structure Shared (a : Hall) (body : Nat → Job → Work) (n : Nat) (timeout : Option Nat) : Prop where
  /-- No more bodies run at once than the handler takes. -/
  limited : a.running.length ≤ max n 1
  /-- While no call can go on, as many bodies run as may and can. -/
  busy : a.isIdle = true → a.running.length = min (max n 1) a.unfinished.length
  /-- A call arrives at the gate with its first turn. -/
  arrives : ∀ (i : Nat) (c : Call), a.calls[i]? = some c → c.stage = .arriving →
    (a.step (.turn i)).log = a.log ++ [.arrived c.id a.now]
  /-- Permits go to those who arrived first, one after the other, and each of them has the permit or
  gave it back. -/
  inOrder : ∃ admitted, a.log.arrivals = admitted ++ a.station.gate.waiting ∧
    a.station.gate.inside.Sublist admitted ∧
    admitted.Perm (a.station.gate.inside ++ a.log.departures)
  /-- No body begins without a permit, or twice. -/
  admitted : ∀ id, a.log.HasBegun id → id ∉ a.station.gate.waiting
  once : (a.log.beginnings.map Prod.fst).Nodup
  /-- While a call waits for a permit, none is free. -/
  full : a.station.gate.waiting ≠ [] → a.station.gate.inside.length = max n 1
  /-- Whoever has a permit begins with its next turn. -/
  ready : ∀ (i : Nat) (c : Call), a.calls[i]? = some c → c.stage = .waiting →
    c.id ∈ a.station.gate.inside →
    (a.step (.turn i)).log = a.log ++ [.begun c.id a.now (body a.log.beginnings.length c.job)]
  /-- Whose body is due ends with its next turn. -/
  ends : ∀ (i : Nat) (c : Call), a.calls[i]? = some c → ∀ due ending,
    c.stage = .running due ending → due ≤ a.now →
      (a.step (.turn i)).log = a.log ++ [.ended c.id a.now ending]
  /-- Every call that has ended, however it did, has given its permit back, and did so once. -/
  returned : ∀ c ∈ a.calls, c.id ∈ a.log.departures ↔ c.isOver = true
  returnedOnce : (a.station.gate.inside ++ a.log.departures).Nodup
  /-- Once all calls have ended, all permits are free. -/
  free : (∀ c ∈ a.calls, c.isOver = true) →
    a.station.gate.limit = some (max n 1) ∧ a.station.gate.inside = [] ∧
      a.station.gate.waiting = []
  /-- A call is cut off when its own body needs longer than the limit, however long it waited, and
  answers what its body does otherwise. -/
  answers : ∀ c ∈ a.calls, ∀ ending, c.ending? = some ending → ∃ k time,
    a.log.beginnings[k]? = some (c.id, time, body k c.job) ∧
    (∀ limit, timeout = some limit → limit < (body k c.job).busy →
      ending = .failure (.timeout limit)) ∧
    ((∀ limit, timeout = some limit → (body k c.job).busy ≤ limit) →
      ending = (body k c.job).ending)

theorem Orderly.shared {body : Nat → Job → Work} {n : Nat} {timeout : Option Nat}
    (ho : a.Orderly ⟨body, some n, timeout⟩ (max n 1)) : a.Shared body n timeout where
  limited := ho.length_running_le
  busy := ho.length_running
  arrives i c hc hstage := by
    rw [log_step_turn hc, Call.notice?_of_arriving hstage]
    rfl
  inOrder := ho.fair.admitted
  admitted _ := ho.not_waiting_of_hasBegun
  once := ho.once
  full := ho.fair.full
  ready _ _ := ho.turn_of_inside
  ends i c hc due ending hstage hdue := by
    rw [log_step_turn hc, Call.notice?_of_due hstage hdue]
    rfl
  returned _ := ho.mem_departures_iff
  returnedOnce := ho.fair.nodup_admitted
  free hover := ⟨ho.fair.limit_eq, ho.empty_of_over hover⟩
  answers c hc ending hending := by
    have hstage := Call.stage_of_ending? hending
    obtain ⟨k, time, stop, hbegan, rfl, -, -⟩ := (ho.stands c hc).of_ended hstage
    refine ⟨k, time, hbegan, fun limit hlimit hlong => ?_, fun hshort => ?_⟩
    · subst hlimit
      rw [Work.within_of_lt _ hlong]
    · rw [Work.within_of_le _ hshort]

end Hall

end JobRunner
