import JobRunner.Proofs.Permits

/-!
# Punctuality

When the bodies of calls that share a handler begin and end.

- `Hall.isPunctual`: time passes only while no call can go on, and never beyond the end of a body.
- `Hall.Timely`: in a punctual hall, no body begins earlier than that of a call that arrived before,
  each begins as soon as it can, and all end when they should.
- `Hall.isInTurn`: of the calls that were let in, those let in first begin first.
- `Hall.shared_run`: every hall is shared so, and every punctual one is timely.
- `Hall.overtaken_by_latecomer`: of two calls that are let in at one moment, the second may begin
  first.
-/

namespace JobRunner

namespace Hall

variable {a : Hall} {h : Handler} {limit i : Nat} {c : Call} {id : CallId} {timeout : Option Nat}

/-! ## Time -/

/-- Whether a move keeps nobody waiting: time passes only while no call can go on, and only until a
body ends. -/
def isPrompt (a : Hall) : Move → Bool
  | .wait millis => a.isIdle && a.calls.all fun c => c.deadline?.all (a.now + millis ≤ ·)
  | .call _ _ | .turn _ => true

/-- Whether all of these moves, one after the other, keep nobody waiting. -/
def isPunctual (a : Hall) : List Move → Bool
  | [] => true
  | m :: moves => a.isPrompt m && (a.step m).isPunctual moves

/-- In a hall in which nobody is kept waiting, bodies begin and end in time. -/
structure Timely (a : Hall) (timeout : Option Nat) : Prop where
  past : ∀ id time work, (id, time, work) ∈ a.log.beginnings → time ≤ a.now
  due : ∀ c ∈ a.calls, ∀ due, c.deadline? = some due → a.now ≤ due
  /-- Whoever has a permit and has not begun got it just now. -/
  fresh : ∀ c ∈ a.calls, c.stage = .waiting → c.id ∈ a.station.gate.inside →
    a.log.Occasion c.id a.now
  /-- A body begins when its call arrives or when another call gives its permit back. -/
  prompt : ∀ id time work, (id, time, work) ∈ a.log.beginnings → a.log.Occasion id time
  /-- A call ends when its body does or when its time is over, counted from when its body began. -/
  onTime : ∀ id stop ending, .ended id stop ending ∈ a.log →
    ∃ time work, (id, time, work) ∈ a.log.beginnings ∧ stop = time + (work.within timeout).busy
  /-- Whoever arrived first begins no later; within the present moment it may be about to. -/
  inTurn : ∀ earlier id' later, a.log.arrivals = earlier ++ id' :: later → ∀ id ∈ earlier,
    ∀ time work, (id', time, work) ∈ a.log.beginnings →
      (∃ time₀ work₀, (id, time₀, work₀) ∈ a.log.beginnings ∧ time₀ ≤ time) ∨
      ¬a.log.HasBegun id ∧ id ∈ a.station.gate.inside ∧ time = a.now

private theorem eq_of_concat_eq {α : Type} {xs earlier later : List α} {x y : α}
    (h : xs ++ [x] = earlier ++ y :: later) (hne : y ≠ x) :
    ∃ later', xs = earlier ++ y :: later' := by
  rcases List.eq_nil_or_concat later with rfl | ⟨later', z, rfl⟩
  · have hlast := (List.append_inj' h rfl).2
    exact absurd (List.singleton_inj.mp hlast).symm hne
  · have hsplit : xs ++ [x] = (earlier ++ y :: later') ++ [z] := by
      rw [h, List.concat_eq_append, List.append_assoc]
      rfl
    exact ⟨later', (List.append_inj' hsplit rfl).1⟩

namespace Timely

/-- A hall is timely as long as nobody has come. -/
theorem new (h : Handler) : (Hall.new h).Timely timeout where
  past _ _ _ hmem := nomatch hmem
  due _ hc := nomatch hc
  fresh _ hc := nomatch hc
  prompt _ _ _ hmem := nomatch hmem
  onTime _ _ _ hmem := nomatch hmem
  inTurn _ _ _ _ _ _ _ _ hmem := nomatch hmem

/-- A call that joins disturbs nobody's time. -/
theorem join (ht : a.Timely timeout) (id : CallId) (job : Job) :
    ({ a with calls := a.calls ++ [.new id job] } : Hall).Timely timeout where
  past := ht.past
  due c hc due hdue := by
    rcases List.mem_append.mp hc with hold | hnew
    · exact ht.due c hold due hdue
    · rw [List.mem_singleton.mp hnew] at hdue
      cases hdue
  fresh c hc hstage hinside := by
    rcases List.mem_append.mp hc with hold | hnew
    · exact ht.fresh c hold hstage hinside
    · rw [List.mem_singleton.mp hnew] at hstage
      cases hstage
  prompt := ht.prompt
  onTime := ht.onTime
  inTurn := ht.inTurn

theorem call (ht : a.Timely timeout) (id : CallId) (job : Job) :
    (a.step (.call id job)).Timely timeout := by
  simp only [Hall.step]
  split
  · exact ht
  · exact ht.join id job

/-- Time passes while no call can go on, and no body ends meanwhile. -/
theorem wait (ht : a.Timely timeout) (ho : a.Orderly h limit) {millis : Nat}
    (hprompt : a.isPrompt (.wait millis) = true) : (a.step (.wait millis)).Timely timeout := by
  obtain ⟨hidle, hdeadlines⟩ := Bool.and_eq_true_iff.mp hprompt
  constructor
  case past =>
    intro id time work hmem
    exact Nat.le_add_right_of_le (ht.past id time work hmem)
  case due =>
    intro c hc due hdue
    have hall := List.all_eq_true.mp hdeadlines c hc
    rw [hdue] at hall
    exact of_decide_eq_true hall
  case fresh =>
    intro c hc hstage hinside
    have hidle' := ((ho.stands c hc).of_waiting hstage).2.1
    exact absurd (ho.hasBegun_of_inside hidle hinside) hidle'
  case prompt =>
    exact ht.prompt
  case onTime =>
    exact ht.onTime
  case inTurn =>
    intro earlier id' later harrived id hid time work hmem
    rcases ht.inTurn earlier id' later harrived id hid time work hmem with
      hbegun | ⟨hnot, hinside, -⟩
    · exact .inl hbegun
    · exact absurd (ho.hasBegun_of_inside hidle hinside) hnot

/-- A call that arrives begins at once if there is room, and otherwise waits for an occasion. -/
theorem arrive (ht : a.Timely timeout) (ho : a.Orderly h limit) (hc : a.calls[i]? = some c)
    (harriving : c.stage = .arriving) :
    (⟨{ a.station with gate := a.station.gate.arrive c.id },
      a.calls.set i { c with stage := .waiting }, a.now,
      a.log ++ [.arrived c.id a.now]⟩ : Hall).Timely timeout := by
  have hnew : c.id ∉ a.log.arrivals :=
    (ho.stands c (List.mem_of_getElem? hc)).of_arriving harriving
  constructor
  case past =>
    intro id time work hbegun
    exact ht.past id time work (by simpa using hbegun)
  case due =>
    intro d hd due hdue
    rcases List.mem_or_eq_of_mem_set hd with hold | rfl
    · exact ht.due d hold due hdue
    · cases hdue
  case fresh =>
    intro d hd hstage hinside
    -- whoever is let in now is the call that arrives now
    by_cases hid : d.id = c.id
    · exact .inl (hid ▸ List.mem_append_right _ List.mem_cons_self)
    · rcases List.mem_or_eq_of_mem_set hd with hold | rfl
      · rcases ho.fair.of_mem_inside_arrive hinside with hbefore | hsame
        · exact (ht.fresh d hold hstage hbefore).append _
        · exact absurd hsame hid
      · exact absurd rfl hid
  case prompt =>
    intro id time work hbegun
    exact (ht.prompt id time work (by simpa using hbegun)).append _
  case onTime =>
    intro id stop ending hended
    have hbefore : .ended id stop ending ∈ a.log := by simpa using hended
    simpa using ht.onTime id stop ending hbefore
  case inTurn =>
    intro earlier id' later harrived id hid time work hbegun
    have hbegun : (id', time, work) ∈ a.log.beginnings := by simpa using hbegun
    have hbefore : id' ∈ a.log.arrivals := ho.after id' (CallLog.hasBegun_iff.mpr ⟨_, _, hbegun⟩)
    -- the call that arrives has not begun, so both stood in the list before
    have hother : id' ≠ c.id := fun heq => hnew (heq ▸ hbefore)
    rw [CallLog.arrivals_arrived] at harrived
    obtain ⟨later, hold⟩ := eq_of_concat_eq harrived hother
    rcases ht.inTurn earlier id' later hold id hid time work hbegun with
      hearlier | ⟨hnot, hinside, hnow⟩
    · exact .inl (by simpa using hearlier)
    · refine .inr ⟨?_, Gate.mem_inside_arrive hinside c.id, hnow⟩
      simpa [CallLog.HasBegun] using hnot

/-- A body begins at the time of its occasion. -/
theorem begin (ht : a.Timely timeout) (ho : a.Orderly h limit) (hc : a.calls[i]? = some c)
    (hwaiting : c.stage = .waiting) (hinside : c.id ∈ a.station.gate.inside) (work : Work)
    (busy : Nat) (ending : Ending) :
    (⟨{ a.station with begun := (c.job, a.now) :: a.station.begun },
      a.calls.set i { c with stage := .running (a.now + busy) ending }, a.now,
      a.log ++ [.begun c.id a.now work]⟩ : Hall).Timely timeout := by
  have hnow : a.log.Occasion c.id a.now := ht.fresh c (List.mem_of_getElem? hc) hwaiting hinside
  constructor
  case past =>
    intro id time work' hbegun
    rcases CallLog.mem_beginnings_begun.mp hbegun with hold | ⟨-, rfl, -⟩
    · exact ht.past id time work' hold
    · exact Nat.le_refl _
  case due =>
    intro d hd due hdue
    rcases List.mem_or_eq_of_mem_set hd with hold | rfl
    · exact ht.due d hold due hdue
    · cases hdue
      exact Nat.le_add_right _ _
  case fresh =>
    intro d hd hstage hin
    rcases List.mem_or_eq_of_mem_set hd with hold | rfl
    · exact (ht.fresh d hold hstage hin).append _
    · cases hstage
  case prompt =>
    intro id time work' hbegun
    rcases CallLog.mem_beginnings_begun.mp hbegun with hold | ⟨rfl, rfl, -⟩
    · exact (ht.prompt id time work' hold).append _
    · exact hnow.append _
  case onTime =>
    intro id stop ending hended
    have hbefore : .ended id stop ending ∈ a.log := by simpa using hended
    obtain ⟨time, work', hbegun, hover⟩ := ht.onTime id stop ending hbefore
    exact ⟨time, work', CallLog.mem_beginnings_begun.mpr (.inl hbegun), hover⟩
  case inTurn =>
    intro earlier id' later harrived id hid time work' hbegun
    rw [CallLog.arrivals_begun] at harrived
    have hearlier : (∃ time₀ work₀, (id, time₀, work₀) ∈ a.log.beginnings ∧ time₀ ≤ time) ∨
        ¬a.log.HasBegun id ∧ id ∈ a.station.gate.inside ∧ time = a.now := by
      rcases CallLog.mem_beginnings_begun.mp hbegun with hold | ⟨rfl, rfl, -⟩
      · exact ht.inTurn earlier id' later harrived id hid time work' hold
      · have hadmitted := fun hw => ho.fair.not_inside_of_waiting hw hinside
        rcases ho.begun_or_inside harrived hid hadmitted with hbegun | ⟨hnot, hin⟩
        · obtain ⟨time₀, work₀, hmem₀⟩ := CallLog.hasBegun_iff.mp hbegun
          exact .inl ⟨time₀, work₀, hmem₀, ht.past id time₀ work₀ hmem₀⟩
        · exact .inr ⟨hnot, hin, rfl⟩
    -- of those let in but not begun, one begins now, and the others may within this moment
    rcases hearlier with ⟨time₀, work₀, hmem₀, hle⟩ | ⟨hnot, hin, rfl⟩
    · exact .inl ⟨time₀, work₀, CallLog.mem_beginnings_begun.mpr (.inl hmem₀), hle⟩
    · by_cases hid : id = c.id
      · refine .inl ⟨a.now, work, ?_, Nat.le_refl _⟩
        exact CallLog.mem_beginnings_begun.mpr (.inr ⟨hid, rfl, rfl⟩)
      · have habout : (Notice.begun c.id a.now work).id ≠ id := Ne.symm hid
        exact .inr ⟨(CallLog.hasBegun_append_singleton a.log habout).not.mpr hnot, hin, rfl⟩

/-- A body ends when it is due, which is an occasion for those who wait. -/
theorem finish (ht : a.Timely h.timeout) (ho : a.Orderly h limit) (hc : a.calls[i]? = some c)
    {due : Nat} {ending : Ending} (hrunning : c.stage = .running due ending) (hover : due ≤ a.now) :
    (⟨{ a.station with gate := a.station.gate.leave c.id },
      a.calls.set i { c with stage := .ended ending }, a.now,
      a.log ++ [.ended c.id a.now ending]⟩ : Hall).Timely h.timeout := by
  have hmem : c ∈ a.calls := List.mem_of_getElem? hc
  obtain ⟨-, k, time₀, hbegan, hdue, -⟩ := (ho.stands c hmem).of_running hrunning
  -- time does not pass beyond the end of a body, so the body ends just now
  have hends : due = a.now := by
    have hle := ht.due c hmem due (by unfold Call.deadline?; rw [hrunning])
    exact Nat.le_antisymm hover hle
  constructor
  case past =>
    intro id time work hbegun
    exact ht.past id time work (by simpa using hbegun)
  case due =>
    intro d hd due hdue
    rcases List.mem_or_eq_of_mem_set hd with hold | rfl
    · exact ht.due d hold due hdue
    · cases hdue
  case fresh =>
    intro d _ _ _
    exact .inr ⟨c.id, ending, List.mem_append_right _ List.mem_cons_self⟩
  case prompt =>
    intro id time work hbegun
    exact (ht.prompt id time work (by simpa using hbegun)).append _
  case onTime =>
    intro id stop ending' hended
    rw [CallLog.beginnings_ended]
    rcases List.mem_append.mp hended with hold | hnew
    · exact ht.onTime id stop ending' hold
    · cases List.mem_singleton.mp hnew
      exact ⟨time₀, _, hbegan.mem, hends.symm.trans hdue⟩
  case inTurn =>
    intro earlier id' later harrived id hid time work hbegun
    rw [CallLog.arrivals_ended] at harrived
    rw [CallLog.beginnings_ended] at hbegun ⊢
    rcases ht.inTurn earlier id' later harrived id hid time work hbegun with
      hearlier | ⟨hnot, hin, hnow⟩
    · exact .inl hearlier
    · have hother : id ≠ c.id := by
        rintro rfl
        exact hnot hbegan.hasBegun
      refine .inr ⟨?_, Gate.mem_inside_leave hin hother, hnow⟩
      have habout : (Notice.ended c.id a.now ending).id ≠ id := hother.symm
      exact (CallLog.hasBegun_append_singleton a.log habout).not.mpr hnot

/-- A call takes its next step. -/
theorem turn (ht : a.Timely h.timeout) (ho : a.Orderly h limit) (hc : a.calls[i]? = some c) :
    (a.turn i c).Timely h.timeout := by
  obtain ⟨stage, s, heq, hturn⟩ := a.turn_turn i c
  rw [heq]
  generalize c.notice? a.station a.now = noticed at hturn
  cases hturn with
  | arrive harriving => exact ht.arrive ho hc harriving
  | begin hwaiting hinside => exact ht.begin ho hc hwaiting hinside _ _ _
  | finish hrunning hover => exact ht.finish ho hc hrunning hover
  | stay =>
    obtain ⟨hi, rfl⟩ := List.getElem?_eq_some_iff.mp hc
    rw [Option.toList_none, List.append_nil, List.set_getElem_self hi]
    exact ht

/-- No prompt move disturbs the times. -/
theorem step (ht : a.Timely h.timeout) (ho : a.Orderly h limit) {m : Move}
    (hprompt : a.isPrompt m = true) : (a.step m).Timely h.timeout := by
  cases m with
  | call id job => exact ht.call id job
  | turn i =>
    simp only [Hall.step]
    split
    · next c hc => exact ht.turn ho hc
    · exact ht
  | wait millis => exact ht.wait ho hprompt

/-- A hall is timely after any punctual moves. -/
theorem run (ht : a.Timely h.timeout) (ho : a.Orderly h limit) {moves : List Move}
    (hpunctual : a.isPunctual moves = true) : (a.run moves).Timely h.timeout := by
  induction moves generalizing a with
  | nil => exact ht
  | cons m moves ih =>
    obtain ⟨hprompt, hrest⟩ := Bool.and_eq_true_iff.mp hpunctual
    exact ih (ht.step ho hprompt) (ho.step m) hrest

end Timely

/-! ## Turns -/

/-- Whether a move lets no body begin before that of a call that was let in earlier. -/
def keepsTurn (a : Hall) : Move → Bool
  | .turn i =>
    match a.calls[i]? with
    | some c =>
      c.isRunning || !a.station.gate.isInside c.id ||
        (a.station.gate.inside.takeWhile (· != c.id)).all a.running.contains
    | none => true
  | .call _ _ | .wait _ => true

/-- Whether all of these moves, one after the other, keep the turns. -/
def isInTurn (a : Hall) : List Move → Bool
  | [] => true
  | m :: moves => a.keepsTurn m && (a.step m).isInTurn moves

/-- The calls whose bodies have begun, in their order. -/
def beginners (a : Hall) : List CallId := a.log.beginnings.map Prod.fst

/-- In turn, those let in before a call that begins are running. -/
theorem mem_running_of_keepsTurn (hc : a.calls[i]? = some c)
    (hkeeps : a.keepsTurn (.turn i) = true) (hwaiting : c.stage = .waiting)
    (hinside : c.id ∈ a.station.gate.inside)
    (hid : id ∈ a.station.gate.inside.takeWhile (· != c.id)) : id ∈ a.running := by
  unfold keepsTurn at hkeeps
  simp only [hc, Call.isRunning, Call.deadline?, hwaiting, Gate.isInside,
    List.contains_iff_mem.mpr hinside] at hkeeps
  simpa using List.all_eq_true.mp hkeeps id hid

namespace Orderly

/-- Where turns are kept, the next body to begin is that of the call that arrived first of those
that have not begun. -/
theorem beginners_turn (ho : a.Orderly h limit) (hc : a.calls[i]? = some c)
    (hkeeps : a.keepsTurn (.turn i) = true) (hbefore : a.beginners <+: a.log.arrivals) :
    (a.turn i c).beginners <+: (a.turn i c).log.arrivals := by
  have hstands := ho.stands c (List.mem_of_getElem? hc)
  obtain ⟨stage, s, heq, hturn⟩ := a.turn_turn i c
  rw [heq]
  unfold beginners at hbefore ⊢
  generalize c.notice? a.station a.now = noticed at hturn
  cases hturn with
  | arrive =>
    simp only [Option.toList_some, CallLog.arrivals_arrived, CallLog.beginnings_arrived]
    exact hbefore.trans (List.prefix_append _ _)
  | begin hwaiting hinside =>
    simp only [Option.toList_some, CallLog.arrivals_begun, CallLog.beginnings_begun,
      List.map_append, List.map_singleton]
    obtain ⟨harrived, hidle, -⟩ := hstands.of_waiting hwaiting
    obtain ⟨rest, hrest⟩ := hbefore
    have hmem : c.id ∈ rest := (List.mem_append.mp (hrest ▸ harrived)).resolve_left hidle
    obtain ⟨between, later, rfl⟩ := List.append_of_mem hmem
    cases between with
    | nil => exact ⟨later, by rw [← hrest, List.append_assoc]; rfl⟩
    | cons id between =>
      exfalso
      -- the first of those in between was let in before this call, and has begun before it
      have harrivals : a.log.arrivals = (a.beginners ++ id :: between) ++ c.id :: later := by
        rw [← hrest, List.append_assoc]
        rfl
      have hid : id ∈ a.beginners ++ id :: between := List.mem_append_right _ List.mem_cons_self
      have hidle : ¬a.log.HasBegun id := by
        intro hbegun
        have hnodup := (List.nodup_append.mp (harrivals ▸ ho.fair.nodup)).1
        exact (List.nodup_append.mp hnodup).2.2 id hbegun id List.mem_cons_self rfl
      have hadmitted := fun hwaits => ho.fair.not_inside_of_waiting hwaits hinside
      obtain ⟨-, hin⟩ := (ho.begun_or_inside harrivals hid hadmitted).resolve_left hidle
      have hfirst := ho.fair.mem_takeWhile_inside harrivals hid hin
      have hrunning : id ∈ a.running := mem_running_of_keepsTurn hc hkeeps hwaiting hinside hfirst
      exact hidle (ho.inside_and_hasBegun_of_mem_running hrunning).2
  | finish =>
    simpa using hbefore
  | stay => simpa using hbefore

/-- In turn, bodies begin in the order of the arrivals. -/
theorem beginners_step (ho : a.Orderly h limit) {m : Move} (hkeeps : a.keepsTurn m = true)
    (hbefore : a.beginners <+: a.log.arrivals) :
    (a.step m).beginners <+: (a.step m).log.arrivals := by
  cases m with
  | call id job =>
    simp only [Hall.step]
    split <;> exact hbefore
  | turn i =>
    simp only [Hall.step]
    split
    · next c hc => exact ho.beginners_turn hc hkeeps hbefore
    · exact hbefore
  | wait millis => exact hbefore

/-- They do so in a whole run. -/
theorem beginners_run (ho : a.Orderly h limit) {moves : List Move}
    (hinTurn : a.isInTurn moves = true) (hbefore : a.beginners <+: a.log.arrivals) :
    (a.run moves).beginners <+: (a.run moves).log.arrivals := by
  induction moves generalizing a with
  | nil => exact hbefore
  | cons m moves ih =>
    obtain ⟨hkeeps, hrest⟩ := Bool.and_eq_true_iff.mp hinTurn
    exact ih (ho.step m) hrest (ho.beginners_step hkeeps hbefore)

end Orderly

/-! ## Any number of calls of one handler -/

/-- Whatever calls are made of a handler, whenever they come and however they end, they share it. If
nobody is kept waiting, bodies begin and end in time, and if those who were let in begin in that
order, bodies begin in the order in which their calls arrived. -/
theorem shared_run (body : Nat → Job → Work) (n : Nat) (timeout : Option Nat) (moves : List Move) :
    let h : Handler := ⟨body, some n, timeout⟩
    ((Hall.new h).run moves).Shared body n timeout ∧
      ((Hall.new h).isPunctual moves = true → ((Hall.new h).run moves).Timely timeout) ∧
      ((Hall.new h).isInTurn moves = true →
        ((Hall.new h).run moves).beginners <+: ((Hall.new h).run moves).log.arrivals) := by
  intro h
  have ho : (Hall.new h).Orderly h (max n 1) := .new rfl
  exact ⟨(ho.run moves).shared, fun hpunctual => (Timely.new h).run ho hpunctual,
    fun hinTurn => ho.beginners_run hinTurn List.nil_prefix⟩

/-- Both permits are given back at the same time, the first of them to a call that has waited for
it. Before that call has its turn, a latecomer takes the other permit and begins. -/
def latecomer : List Move :=
  [.call 0 default, .turn 0, .turn 0, .call 1 default, .turn 1, .turn 1, .call 2 default, .turn 2,
    .wait 250, .turn 0, .turn 1, .call 3 default, .turn 3, .turn 3, .turn 2]

theorem overtaken_by_latecomer :
    let a := Hall.new ⟨fun _ _ => ⟨250, .value .null⟩, some 2, none⟩
    a.isPunctual latecomer = true ∧ (a.run latecomer).log.arrivals = [0, 1, 2, 3] ∧
      (a.run latecomer).beginners = [0, 1, 3, 2] := by
  decide +kernel

/-- The first body answers, the second needs longer than five milliseconds, and every other breaks
off after just as long. -/
def threeBodies : Nat → Job → Work
  | 0, _ => ⟨3, .value .null⟩
  | 1, _ => ⟨9, .value .null⟩
  | _, _ => ⟨5, .panic none⟩

/-- Two calls arrive together, and a third while the body of the first runs. -/
def threeCalls : List Move :=
  [.call 0 default, .call 1 default, .turn 0, .turn 1, .turn 0, .wait 2, .call 2 default,
    .turn 2, .wait 1, .turn 0, .turn 1, .wait 5, .turn 1, .turn 2, .wait 5, .turn 2]

theorem shared_run_of_three :
    let a := (Hall.new ⟨threeBodies, some 0, some 5⟩).run threeCalls
    a.Timely (some 5) ∧ a.beginners <+: a.log.arrivals ∧ a.station.gate.inside = [] := by
  obtain ⟨hshared, htimely, hinTurn⟩ := shared_run threeBodies 0 (some 5) threeCalls
  have hempty := hshared.free (by decide +kernel)
  exact ⟨htimely (by decide +kernel), hinTurn (by decide +kernel), hempty.2.1⟩

end Hall

end JobRunner
