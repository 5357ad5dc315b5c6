import JobRunner.Proofs.Lanes
import Mathlib.Data.List.Perm.Basic

/-!
# Bells

The bell of a lane keeps no more than one ring for those who do not listen yet, however often it is
rung. What is rung is never lost for those who wait.

- `Bell.Heard`: every place at a bell is held by one listener, and nobody waits beside a permit.
- `ConsumerStage.Move`: what one step of a waiting call does to its lane.
- `Lane.Served`: while a call waits to be rung, there is for every id in the lane a ring not noticed
  yet, a call that attends to the lane, or a push about to ring.

Every step of a call keeps a lane served.
-/

namespace JobRunner

/-! ## Bells and their listeners -/

/-- The place that a listener has. -/
def Ear.ticket? : Ear → Option Nat
  | satisfied => none
  | place ticket => some ticket

namespace Bell

variable {b : Bell} {tickets tickets' : List Nat} {ear : Ear} {ticket : Nat}

/-- A bell that nobody waits for keeps a permit for whoever comes next. -/
theorem ring_of_nobody (h : b.waiting = []) : b.ring = { b with permit := true } := by
  unfold ring
  rw [h]

/-- Otherwise the ring goes to the first in the line. -/
theorem ring_of_somebody {first : Nat} {waiting : List Nat} (h : b.waiting = first :: waiting) :
    b.ring = { b with waiting, rung := first :: b.rung } := by
  unfold ring
  rw [h]

/-- Who leaves although the bell has been rung for it hands the ring on. -/
theorem leave_of_rung (h : ticket ∈ b.rung) :
    b.leave (.place ticket) = ({ b with rung := b.rung.erase ticket } : Bell).ring :=
  if_pos (List.contains_iff_mem.mpr h)

/-- Who leaves before that only quits the line. -/
theorem leave_of_not_rung (h : ticket ∉ b.rung) :
    b.leave (.place ticket) = { b with waiting := b.waiting.erase ticket } :=
  if_neg fun hr => h (List.contains_iff_mem.mp hr)

/-- The listeners at a bell hold its places, each its own. -/
structure Heard (b : Bell) (tickets : List Nat) : Prop where
  held : (b.waiting ++ b.rung).Perm tickets
  nodup : tickets.Nodup
  given : ∀ ticket ∈ tickets, ticket < b.next
  /-- There is a permit only while nobody waits. -/
  permit : b.permit = true → b.waiting = []

/-- Nobody listens to a new bell. -/
theorem heard_silent : silent.Heard [] :=
  ⟨.nil, .nil, fun _ h => absurd h List.not_mem_nil, fun _ => rfl⟩

namespace Heard

/-- The order in which the listeners are counted does not matter. -/
theorem perm (h : b.Heard tickets) (hp : tickets.Perm tickets') : b.Heard tickets' where
  held := h.held.trans hp
  nodup := hp.nodup h.nodup
  given ticket hmem := h.given ticket (hp.mem_iff.mpr hmem)
  permit := h.permit

/-- A listener waits in the line, or the bell has been rung for it. -/
theorem mem_iff (h : b.Heard tickets) :
    ticket ∈ tickets ↔ ticket ∈ b.waiting ∨ ticket ∈ b.rung := by
  rw [← h.held.mem_iff, List.mem_append]

/-- No place is both rung and not rung. -/
theorem not_mem_waiting (h : b.Heard tickets) (hr : ticket ∈ b.rung) : ticket ∉ b.waiting := by
  have hnodup : (b.waiting ++ b.rung).Nodup := h.held.symm.nodup h.nodup
  intro hw
  exact (List.nodup_append.mp hnodup).2.2 ticket hw ticket hr rfl

/-- A ring loses no listener. -/
theorem ring (h : b.Heard tickets) : b.ring.Heard tickets := by
  cases hwaiting : b.waiting with
  | nil =>
    rw [ring_of_nobody hwaiting]
    exact ⟨h.held, h.nodup, h.given, fun _ => hwaiting⟩
  | cons first waiting =>
    have hheld := h.held
    rw [hwaiting] at hheld
    rw [ring_of_somebody hwaiting]
    refine ⟨List.perm_middle.trans hheld, h.nodup, h.given, fun hpermit => ?_⟩
    have hnobody := h.permit hpermit
    rw [hwaiting] at hnobody
    cases hnobody

/-- A newcomer becomes a listener. -/
theorem listen (h : b.Heard tickets) :
    b.listen.2.Heard (b.listen.1.ticket?.toList ++ tickets) := by
  unfold Bell.listen
  split
  · next hpermit => exact ⟨h.held, h.nodup, h.given, fun _ => h.permit hpermit⟩
  · next hpermit =>
    have hnew : b.next ∉ tickets := fun hmem => Nat.lt_irrefl _ (h.given _ hmem)
    refine ⟨?_, List.nodup_cons.mpr ⟨hnew, h.nodup⟩, fun ticket hmem => ?_, fun hp => ?_⟩
    · show ((b.waiting ++ [b.next]) ++ b.rung).Perm (b.next :: tickets)
      rw [List.append_assoc]
      exact List.perm_middle.trans (h.held.cons b.next)
    · rcases List.mem_cons.mp hmem with rfl | hold
      · exact Nat.lt_succ_self _
      · exact Nat.lt_succ_of_lt (h.given ticket hold)
    · exact absurd hp hpermit

/-- A place that was rung is given up. -/
theorem erase_rung (h : b.Heard (ticket :: tickets)) (hr : ticket ∈ b.rung) :
    ({ b with rung := b.rung.erase ticket } : Bell).Heard tickets where
  held := by
    have hheld := h.held.erase ticket
    rw [List.erase_cons_head, List.erase_append_right _ (h.not_mem_waiting hr)] at hheld
    exact hheld
  nodup := (List.nodup_cons.mp h.nodup).2
  given t hmem := h.given t (List.mem_cons_of_mem ticket hmem)
  permit := h.permit

/-- A place that was not rung is given up. -/
theorem erase_waiting (h : b.Heard (ticket :: tickets)) (hr : ticket ∉ b.rung) :
    ({ b with waiting := b.waiting.erase ticket } : Bell).Heard tickets where
  held := by
    have hmem : ticket ∈ b.waiting := (h.mem_iff.mp List.mem_cons_self).resolve_right hr
    have hheld := h.held.erase ticket
    rw [List.erase_cons_head, List.erase_append_left _ hmem] at hheld
    exact hheld
  nodup := (List.nodup_cons.mp h.nodup).2
  given t hmem := h.given t (List.mem_cons_of_mem ticket hmem)
  permit hp := by
    show b.waiting.erase ticket = []
    rw [h.permit hp, List.erase_nil]

/-- Who notices the ring listens no longer. -/
theorem notice (h : b.Heard (ear.ticket?.toList ++ tickets)) (hr : b.isRung ear = true) :
    (b.notice ear).Heard tickets := by
  cases ear with
  | satisfied => exact h
  | place ticket => exact h.erase_rung (List.contains_iff_mem.mp hr)

/-- Nor does who leaves. -/
theorem leave (h : b.Heard (ear.ticket?.toList ++ tickets)) : (b.leave ear).Heard tickets := by
  cases ear with
  | satisfied => exact h
  | place ticket =>
    by_cases hr : ticket ∈ b.rung
    · rw [leave_of_rung hr]
      exact (h.erase_rung hr).ring
    · rw [leave_of_not_rung hr]
      exact h.erase_waiting hr

end Heard

/-! ### Who waits and who has been rung -/

/-- A ring puts nobody into the line. -/
theorem mem_waiting_of_ring (h : ticket ∈ b.ring.waiting) : ticket ∈ b.waiting := by
  cases hwaiting : b.waiting with
  | nil =>
    rw [ring_of_nobody hwaiting] at h
    exact hwaiting ▸ h
  | cons first waiting =>
    rw [ring_of_somebody hwaiting] at h
    exact List.mem_cons_of_mem first h

/-- A ring while somebody waits reaches one of those who do. -/
theorem length_rung_ring (h : ticket ∈ b.waiting) : b.ring.rung.length = b.rung.length + 1 := by
  cases hwaiting : b.waiting with
  | nil =>
    rw [hwaiting] at h
    cases h
  | cons first waiting =>
    rw [ring_of_somebody hwaiting]
    rfl

/-- Nor does a listener that leaves. -/
theorem mem_waiting_of_leave (h : ticket ∈ (b.leave ear).waiting) : ticket ∈ b.waiting := by
  cases ear with
  | satisfied => exact h
  | place t =>
    by_cases hr : t ∈ b.rung
    · rw [leave_of_rung hr] at h
      have hwaiting : ticket ∈ ({ b with rung := b.rung.erase t } : Bell).waiting :=
        mem_waiting_of_ring h
      exact hwaiting
    · rw [leave_of_not_rung hr] at h
      exact List.mem_of_mem_erase h

/-- No ring is lost when somebody leaves while others wait. -/
theorem length_rung_leave (h : ticket ∈ (b.leave ear).waiting) :
    b.rung.length ≤ (b.leave ear).rung.length := by
  cases ear with
  | satisfied => exact Nat.le_refl _
  | place t =>
    by_cases hr : t ∈ b.rung
    · rw [leave_of_rung hr] at h ⊢
      have hpos : 0 < b.rung.length := List.length_pos_of_mem hr
      have herased : (b.rung.erase t).length = b.rung.length - 1 := List.length_erase_of_mem hr
      rw [length_rung_ring (mem_waiting_of_ring h)]
      show b.rung.length ≤ (b.rung.erase t).length + 1
      omega
    · have hsame : (b.leave (.place t)).rung = b.rung := by rw [leave_of_not_rung hr]
      exact Nat.le_of_eq (congrArg List.length hsame.symm)

/-- The only one to enter the line is a newcomer. -/
theorem mem_waiting_of_listen (h : ticket ∈ b.listen.2.waiting) :
    ticket = b.next ∨ ticket ∈ b.waiting := by
  unfold listen at h
  split at h
  · exact .inr h
  · exact (List.mem_append.mp h).symm.imp_left List.mem_singleton.mp

/-- A newcomer is not rung for. -/
theorem rung_listen (b : Bell) : b.listen.2.rung = b.rung := by
  unfold listen
  split <;> rfl

theorem waiting_notice (b : Bell) (ear : Ear) : (b.notice ear).waiting = b.waiting := by
  cases ear <;> rfl

theorem length_rung_notice (b : Bell) (ear : Ear) :
    b.rung.length ≤ (b.notice ear).rung.length + 1 := by
  cases ear with
  | satisfied => exact Nat.le_succ _
  | place t =>
    have herased : b.rung.length - 1 ≤ (b.rung.erase t).length := List.le_length_erase
    show b.rung.length ≤ (b.rung.erase t).length + 1
    omega

end Bell

/-! ## What is done to a lane -/

namespace Lane

variable {l l' : Lane} {id : JobId}

/-- A lane from which nothing is popped is empty. -/
theorem pop?_eq_none (h : l.pop? = none) : l.ids = [] := by
  unfold pop? at h
  split at h
  · cases h
  · next hids => exact hids

/-- What is popped is the front, and no bell is rung. -/
theorem pop?_eq_some (h : l.pop? = some (id, l')) : l.ids = id :: l'.ids ∧ l'.bell = l.bell := by
  unfold pop? at h
  split at h
  · next hids =>
    cases h
    exact ⟨hids, rfl⟩
  · cases h

theorem bell_pushFront (l : Lane) (id : JobId) : (l.pushFront id).bell = l.bell := by
  unfold pushFront
  split <;> rfl

/-- A lane grows by at most one id. -/
theorem length_pushFront_le (l : Lane) (id : JobId) :
    (l.pushFront id).ids.length ≤ l.ids.length + 1 := by
  unfold pushFront
  split
  · exact Nat.le_succ _
  · exact Nat.le_refl _

theorem bell_pushBack (l : Lane) (id : JobId) : (l.pushBack id).2.bell = l.bell := by
  unfold pushBack
  split <;> rfl

/-- An id that a lane takes is one more in it. -/
theorem length_pushBack (l : Lane) (id : JobId) :
    (l.pushBack id).2.ids.length = l.ids.length + (l.pushBack id).1.toNat := by
  unfold pushBack
  split
  · rfl
  · exact List.length_append

end Lane

/-! ## The steps of a waiting call -/

namespace ConsumerStage

/-- What a waiting call holds of the bell. -/
def ear? : ConsumerStage → Option Ear
  | popping ear | reading ear _ | restoring ear _ _ | ringing ear _ | parked ear | leaving ear _ =>
    some ear
  | listening | done _ => none

/-- The place that a waiting call has. -/
def ticket? (s : ConsumerStage) : Option Nat := s.ear?.bind Ear.ticket?

/-- The call will take an id, if there is one, or ring. -/
def attends : ConsumerStage → Bool
  | listening | popping _ | ringing _ _ => true
  | _ => false

theorem filterMap_ticket?_cons (s : ConsumerStage) (others : List ConsumerStage) :
    (s :: others).filterMap ticket? = s.ticket?.toList ++ others.filterMap ticket? := by
  rw [List.filterMap_cons]
  cases s.ticket? <;> rfl

/-- What a step of a waiting call does to its lane. A call that is dropped by its caller while it
reads or while it is parked goes away like any other. -/
inductive Move (l : Lane) : ConsumerStage → Lane → ConsumerStage → Prop
  | listen : Move l .listening { l with bell := l.bell.listen.2 } (.popping l.bell.listen.1)
  | pop {ear id l'} (taken : l.pop? = some (id, l')) : Move l (.popping ear) l' (.reading ear id)
  | park {ear} (nothing : l.ids = []) : Move l (.popping ear) l (.parked ear)
  | skip {ear id} : Move l (.reading ear id) l (.popping ear)
  | fail {ear id} (why : StoreError) : Move l (.reading ear id) l (.restoring ear id why)
  | give {ear id} (answer : ConsumerAnswer) : Move l (.reading ear id) l (.leaving ear answer)
  | restore {ear id why} : Move l (.restoring ear id why) (l.pushFront id) (.ringing ear why)
  | ring {ear why} : Move l (.ringing ear why) l.ring (.leaving ear (.error why))
  | giveUp {ear} : Move l (.parked ear) l (.leaving ear (.ok none))
  | notice {ear} (rung : l.bell.isRung ear = true) :
      Move l (.parked ear) { l with bell := l.bell.notice ear } .listening
  | leave {ear answer} :
      Move l (.leaving ear answer) { l with bell := l.bell.leave ear } (.done answer)
  | stay {s} : Move l s l s

end ConsumerStage

/-- A call is dropped by its caller. It can be where it waits for the store or for a ring; then it
stops listening. -/
def Consumer.drop (c : Consumer) : Consumer :=
  match c.stage with
  | .reading ear _ | .parked ear => { c with stage := .leaving ear (.ok none) }
  | _ => c

namespace Consumer

theorem jobType_drop (c : Consumer) : c.drop.jobType = c.jobType := by
  unfold drop
  split <;> rfl

/-- To drop a call is a move of its lane. -/
theorem drop_move (c : Consumer) (l : Lane) : c.stage.Move l l c.drop.stage := by
  unfold drop
  split
  · next hstage => exact hstage ▸ .give (.ok none)
  · next hstage => exact hstage ▸ .giveUp
  · exact .stay

/-- A step of a waiting call is a move, and concerns no lane but its own. -/
theorem step_move (c : Consumer) (q : Queue) (now : Nat) (cancelled ringFirst : Bool) :
    c.stage.Move (q.lane c.jobType) ((c.step q now cancelled ringFirst).2.lane c.jobType)
        (c.step q now cancelled ringFirst).1.stage ∧
      (c.step q now cancelled ringFirst).1.jobType = c.jobType ∧
      ∀ t, t ≠ c.jobType → (c.step q now cancelled ringFirst).2.lane t = q.lane t := by
  -- a step touches the lane of its type only
  have apart : ∀ (l : Lane) t, t ≠ c.jobType → (q.setLane c.jobType l).lane t = q.lane t :=
    fun l t ht => (Queue.lane_setLane q c.jobType t l).trans (if_neg (Ne.symm ht))
  have own : ∀ l : Lane, (q.setLane c.jobType l).lane c.jobType = l :=
    fun l => (Queue.lane_setLane q c.jobType c.jobType l).trans (if_pos rfl)
  have same : c.stage.Move (q.lane c.jobType) (q.lane c.jobType) c.stage := .stay
  obtain ⟨t, deadline, stage⟩ := c
  unfold step
  cases stage with
  | listening => exact ⟨own _ ▸ .listen, rfl, apart _⟩
  | popping ear =>
    dsimp only
    split
    · next id l hpop => exact ⟨own _ ▸ .pop hpop, rfl, apart _⟩
    · next hpop => exact ⟨.park (Lane.pop?_eq_none hpop), rfl, fun _ _ => rfl⟩
  | reading ear id =>
    dsimp only
    split
    · exact ⟨.fail _, rfl, fun _ _ => rfl⟩
    · refine ⟨?_, rfl, fun _ _ => rfl⟩
      split
      · exact .give _
      · exact .skip
    · exact ⟨.skip, rfl, fun _ _ => rfl⟩
  | restoring ear id why => exact ⟨own _ ▸ .restore, rfl, apart _⟩
  | ringing ear why => exact ⟨own _ ▸ .ring, rfl, apart _⟩
  | parked ear =>
    dsimp only
    split
    · next hrung => exact ⟨own _ ▸ .notice (Bool.and_eq_true_iff.mp hrung).1, rfl, apart _⟩
    · split
      · exact ⟨.giveUp, rfl, fun _ _ => rfl⟩
      · exact ⟨same, rfl, fun _ _ => rfl⟩
  | leaving ear answer => exact ⟨own _ ▸ .leave, rfl, apart _⟩
  | done answer => exact ⟨same, rfl, fun _ _ => rfl⟩

end Consumer

/-! ## One lane and the calls that wait for it -/

namespace Lane

/-- While somebody waits to be rung, there is for every id a ring that has not been noticed, a call
that attends to the lane, or one of `pushes` pushes that are about to ring. -/
structure Served (l : Lane) (pushes : Nat) (stages : List ConsumerStage) : Prop where
  heard : l.bell.Heard (stages.filterMap ConsumerStage.ticket?)
  covered : ∀ ticket ∈ l.bell.waiting, .parked (.place ticket) ∈ stages →
    l.ids.length ≤ l.bell.rung.length + stages.countP ConsumerStage.attends + pushes

variable {l l' : Lane} {pushes : Nat} {s s' : ConsumerStage} {stages others : List ConsumerStage}

namespace Served

/-- The order of the calls does not matter. -/
theorem perm (h : l.Served pushes stages) (hp : stages.Perm others) : l.Served pushes others where
  heard := h.heard.perm (hp.filterMap _)
  covered ticket hwaits hmem := by
    rw [← hp.countP_eq]
    exact h.covered ticket hwaits (hp.mem_iff.mpr hmem)

/-- A call goes on. Those that wait waited before, and what is due to the ids does not shrink. -/
private theorem of_balance (h : l.Served pushes (s :: others))
    (heard : l'.bell.Heard (s'.ticket?.toList ++ others.filterMap ConsumerStage.ticket?))
    (awake : ∀ ear, s' ≠ .parked ear)
    (waited : ∀ ticket ∈ l'.bell.waiting, ticket ∈ others.filterMap ConsumerStage.ticket? →
      ticket ∈ l.bell.waiting)
    (balance : ∀ ticket ∈ l'.bell.waiting, ticket ∈ l.bell.waiting →
      l'.ids.length + l.bell.rung.length + s.attends.toNat ≤
        l.ids.length + l'.bell.rung.length + s'.attends.toNat) :
    l'.Served pushes (s' :: others) := by
  have count : ∀ s : ConsumerStage, (s :: others).countP ConsumerStage.attends =
      others.countP ConsumerStage.attends + s.attends.toNat := by
    intro s
    rw [List.countP_cons]
    cases s.attends <;> rfl
  refine ⟨?_, fun ticket hwaits hmem => ?_⟩
  · rw [ConsumerStage.filterMap_ticket?_cons]
    exact heard
  · have hother : .parked (.place ticket) ∈ others :=
      (List.mem_cons.mp hmem).resolve_left fun hs => awake _ hs.symm
    have hwaited : ticket ∈ l.bell.waiting :=
      waited ticket hwaits (List.mem_filterMap.mpr ⟨_, hother, rfl⟩)
    have hcovered := h.covered ticket hwaited (List.mem_cons_of_mem s hother)
    have hbalance := balance ticket hwaits hwaited
    rw [count] at hcovered ⊢
    omega

/-- Every step of a waiting call keeps the lane served. -/
theorem move (h : l.Served pushes (s :: others)) (move : s.Move l l' s') :
    l'.Served pushes (s' :: others) := by
  have hheard := h.heard
  rw [ConsumerStage.filterMap_ticket?_cons] at hheard
  -- a place in the lane's own bell, unless the step does something to the bell
  have same : ∀ ticket ∈ l.bell.waiting, ticket ∈ others.filterMap ConsumerStage.ticket? →
      ticket ∈ l.bell.waiting := fun _ hwaits _ => hwaits
  cases move with
  | listen =>
    refine h.of_balance hheard.listen nofun (fun ticket hwaits hother => ?_) (fun _ _ _ => ?_)
    · rcases Bell.mem_waiting_of_listen hwaits with rfl | hwaited
      · exact absurd (hheard.given _ hother) (Nat.lt_irrefl _)
      · exact hwaited
    · have hsame : l.bell.listen.2.rung.length = l.bell.rung.length :=
        congrArg List.length (Bell.rung_listen l.bell)
      show l.ids.length + l.bell.rung.length + 1 ≤ l.ids.length + l.bell.listen.2.rung.length + 1
      omega
  | @pop ear id l' hpop =>
    obtain ⟨hids, hbell⟩ := pop?_eq_some hpop
    rw [← hbell] at hheard same
    refine h.of_balance hheard nofun (hbell ▸ same) (fun _ _ _ => ?_)
    show l'.ids.length + l.bell.rung.length + 1 ≤ l.ids.length + l'.bell.rung.length + 0
    rw [hbell, hids, List.length_cons]
    omega
  | @park ear nothing =>
    -- the call that goes to sleep has seen the lane empty
    refine ⟨?_, fun ticket _ _ => ?_⟩
    · rw [ConsumerStage.filterMap_ticket?_cons]
      exact hheard
    · rw [nothing]
      exact Nat.zero_le _
  | skip => exact h.of_balance hheard nofun same fun _ _ _ => Nat.le_succ _
  | fail why => exact h.of_balance hheard nofun same fun _ _ _ => Nat.le_refl _
  | give answer => exact h.of_balance hheard nofun same fun _ _ _ => Nat.le_refl _
  | @restore ear id why =>
    have hbell := bell_pushFront l id
    have hids := length_pushFront_le l id
    rw [← hbell] at hheard
    refine h.of_balance hheard nofun (hbell ▸ same) (fun _ _ _ => ?_)
    show (l.pushFront id).ids.length + l.bell.rung.length + 0 ≤
      l.ids.length + (l.pushFront id).bell.rung.length + 1
    rw [hbell]
    omega
  | ring =>
    refine h.of_balance hheard.ring nofun (fun _ hwaits _ => Bell.mem_waiting_of_ring hwaits)
      (fun ticket _ hwaited => ?_)
    have hrung := Bell.length_rung_ring hwaited
    show l.ids.length + l.bell.rung.length + 1 ≤ l.ids.length + l.bell.ring.rung.length + 0
    omega
  | giveUp => exact h.of_balance hheard nofun same fun _ _ _ => Nat.le_refl _
  | @notice ear hrung =>
    have hlost := Bell.length_rung_notice l.bell ear
    refine h.of_balance (hheard.notice hrung) nofun (fun ticket hwaits _ => ?_) (fun _ _ _ => ?_)
    · rwa [Bell.waiting_notice] at hwaits
    · show l.ids.length + l.bell.rung.length + 0 ≤
        l.ids.length + (l.bell.notice ear).rung.length + 1
      omega
  | @leave ear answer =>
    refine h.of_balance hheard.leave nofun (fun _ hwaits _ => Bell.mem_waiting_of_leave hwaits)
      (fun ticket hwaits _ => ?_)
    have hkept := Bell.length_rung_leave hwaits
    show l.ids.length + l.bell.rung.length + 0 ≤ l.ids.length + (l.bell.leave ear).rung.length + 0
    omega
  | stay => exact h

/-- A push puts an id in, and is then one that is about to ring. -/
theorem pushBack (h : l.Served pushes stages) (id : JobId) :
    (l.pushBack id).2.Served (pushes + (l.pushBack id).1.toNat) stages := by
  have hbell := bell_pushBack l id
  have hids := length_pushBack l id
  refine ⟨hbell ▸ h.heard, fun ticket hwaits hmem => ?_⟩
  have hcovered := h.covered ticket (hbell ▸ hwaits) hmem
  rw [hids, hbell]
  omega

/-- A push rings. -/
theorem ring (h : l.Served (pushes + 1) stages) : l.ring.Served pushes stages := by
  refine ⟨h.heard.ring, fun ticket hwaits hmem => ?_⟩
  have hwaited : ticket ∈ l.bell.waiting := Bell.mem_waiting_of_ring hwaits
  have hcovered := h.covered ticket hwaited hmem
  have hrung := Bell.length_rung_ring hwaited
  show l.ids.length ≤ l.bell.ring.rung.length + stages.countP ConsumerStage.attends + pushes
  omega

end Served

/-- A call sleeps: it is parked, and has not been rung. -/
def Sleeps (l : Lane) (s : ConsumerStage) : Prop :=
  ∃ ear, s = .parked ear ∧ l.bell.isRung ear = false

/-- A call is awake: it is under way, or it is parked and has been rung. -/
def Awake (l : Lane) : ConsumerStage → Prop
  | .parked ear => l.bell.isRung ear = true
  | .done _ => False
  | _ => True

/-- Who attends to the lane is awake. -/
theorem awake_of_attends (l : Lane) (h : s.attends = true) : l.Awake s := by
  cases s with
  | parked | done => cases h
  | _ => trivial

/-- A call that sleeps has a place at the bell. -/
theorem Served.mem_waiting (h : l.Served pushes stages) (hmem : s ∈ stages) (hs : l.Sleeps s) :
    ∃ ticket ∈ l.bell.waiting, s = .parked (.place ticket) := by
  obtain ⟨ear, rfl, hrung⟩ := hs
  cases ear with
  | satisfied => cases hrung
  | place ticket =>
    have hplace : ticket ∈ stages.filterMap ConsumerStage.ticket? :=
      List.mem_filterMap.mpr ⟨_, hmem, rfl⟩
    refine ⟨ticket, (h.heard.mem_iff.mp hplace).resolve_right fun hr => ?_, rfl⟩
    rw [show l.bell.isRung (.place ticket) = true from List.contains_iff_mem.mpr hr] at hrung
    cases hrung

/-- A ring that has not been noticed has woken somebody. -/
theorem Served.exists_awake (h : l.Served pushes stages) {ticket : Nat}
    (hr : ticket ∈ l.bell.rung) : ∃ s ∈ stages, l.Awake s := by
  obtain ⟨s, hmem, hplace⟩ := List.mem_filterMap.mp (h.heard.mem_iff.mpr (.inr hr))
  refine ⟨s, hmem, ?_⟩
  cases s with
  | parked ear =>
    have hear : ear.ticket? = some ticket := hplace
    cases ear with
    | satisfied => cases hear
    | place place =>
      cases hear
      exact List.contains_iff_mem.mpr hr
  | listening | done => cases hplace
  | _ => trivial

/-- A call begins that waits. -/
theorem Served.join (h : l.Served pushes stages) : l.Served pushes (.listening :: stages) where
  heard := h.heard
  covered ticket hwaits hmem := by
    have hold : .parked (.place ticket) ∈ stages := (List.mem_cons.mp hmem).resolve_left nofun
    have hcovered := h.covered ticket hwaits hold
    rw [List.countP_cons]
    omega

/-- A new lane is served. -/
theorem served_empty : empty.Served 0 [] :=
  ⟨Bell.heard_silent, fun _ h => absurd h List.not_mem_nil⟩

end Lane

end JobRunner
