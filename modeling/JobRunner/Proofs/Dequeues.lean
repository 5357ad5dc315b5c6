import JobRunner.Proofs.Admission
import JobRunner.Proofs.Bells

/-!
# Taking the next job

What a call that waits for a job does to the queue when nobody else uses it in between.

- `Queue.dequeue`: the call, step by step.
- `Queue.Searched`: a call has passed over the ids at the front of a lane whose jobs are not ready.
- `Queue.Dequeued`: what an answered call leaves: the first ready job has been taken, the first id
  that could not be read stands at the front again, or the lane is empty.
- `Queue.dequeued_of_answer`: every answered call leaves that.
- `Queue.answers_of_late`: a call is answered soon after its time is over.
-/

namespace JobRunner

/-! ## Reads that may fail -/

/-- The job of an id is stored and runnable. -/
def Store.isReady (s : Store) (id : JobId) : Bool := (s.job? id).any (·.status.isRunnable)

namespace Backend

/-- The read of a record that comes after `n` others is going to fail. -/
def failsRead (b : Backend) (n : Nat) : Bool := (b.plan .getJob)[n]?.getD false

/-- The backend after `n` reads of records. -/
def afterReads (b : Backend) (n : Nat) : Backend := b.setPlan .getJob ((b.plan .getJob).drop n)

theorem setPlan_setPlan (b : Backend) (c : StoreCall) (failures failures' : List Bool) :
    (b.setPlan c failures).setPlan c failures' = b.setPlan c failures' := by
  unfold setPlan
  congr 1
  funext c'
  by_cases hc : c' = c
  · rw [if_pos hc, if_pos hc]
  · rw [if_neg hc, if_neg hc]
    exact if_neg hc

theorem setPlan_self (b : Backend) (c : StoreCall) : b.setPlan c (b.plan c) = b := by
  unfold setPlan
  congr 1
  funext c'
  split
  · next hc => rw [hc]
  · rfl

theorem afterReads_zero (b : Backend) : b.afterReads 0 = b := b.setPlan_self .getJob

/-- Each read has its own turn to fail, and reads the store as it is. -/
theorem getJob_afterReads (b : Backend) (n : Nat) (id : JobId) :
    (b.afterReads n).getJob id =
      (if b.failsRead n then .error StoreCall.getJob.fault else .ok (b.store.job? id),
        b.afterReads (n + 1)) := by
  have hplan : (b.afterReads n).plan .getJob = (b.plan .getJob).drop n := by
    simp only [afterReads, setPlan, if_true]
  have hnext : (b.afterReads n).setPlan .getJob ((b.plan .getJob).drop (n + 1)) =
      b.afterReads (n + 1) := b.setPlan_setPlan _ _ _
  unfold getJob call failsRead
  rw [hplan]
  by_cases hlt : n < (b.plan .getJob).length
  · rw [List.drop_eq_getElem_cons hlt, List.getElem?_eq_getElem hlt, Option.getD_some]
    cases (b.plan .getJob)[n] with
    | true => exact Prod.ext rfl hnext
    | false => exact Prod.ext rfl hnext
  · have hle : (b.plan .getJob).length ≤ n := Nat.not_lt.mp hlt
    have hlast : b.afterReads (n + 1) = b.afterReads n := by
      unfold afterReads
      rw [List.drop_eq_nil_of_le hle, List.drop_eq_nil_of_le (Nat.le_succ_of_le hle)]
    rw [List.drop_eq_nil_of_le hle, List.getElem?_eq_none hle, hlast]
    rfl

end Backend

/-! ## The call -/

/-- When a step is made, whether its caller has cancelled the wait by then, and whether the call
takes notice of a ring first, though its wait is over. -/
structure Moment where
  now : Nat
  cancelled : Bool
  ringFirst : Bool
  deriving DecidableEq, Repr

/-- Some steps of a waiting call that nobody interrupts. -/
def Consumer.steps (c : Consumer) (q : Queue) : List Moment → Consumer × Queue
  | [] => (c, q)
  | m :: ms =>
    let (c, q) := c.step q m.now m.cancelled m.ringFirst
    c.steps q ms

/-- Moments follow one another. -/
theorem Consumer.steps_append (c : Consumer) (q : Queue) (ms ms' : List Moment) :
    c.steps q (ms ++ ms') = (c.steps q ms).1.steps (c.steps q ms).2 ms' := by
  induction ms generalizing c q with
  | nil => rfl
  | cons m ms ih => exact ih _ _

namespace Queue

/-- A call that waits for a job from `now` on, as far as it gets in some steps. -/
def dequeue (q : Queue) (t : String) (now : Nat) (ms : List Moment) : Consumer × Queue :=
  (Consumer.start q now t).1.steps (Consumer.start q now t).2 ms

/-- From `q` to `q'`, a call has searched a lane: it has passed over some ids, read records `reads`
times, holds the ids `held`, and has touched nothing else. -/
structure Searched (q q' : Queue) (t : String) (passed : List JobId) (reads : Nat)
    (held : List JobId) : Prop where
  ids : (q.lane t).ids = passed ++ held ++ (q'.lane t).ids
  /-- The jobs passed over are not stored or not runnable. -/
  idle : ∀ id ∈ passed, q.backend.store.isReady id = false
  legible : ∀ n < passed.length, q.backend.failsRead n = false
  backend : q'.backend = q.backend.afterReads reads
  settings : q'.settings = q.settings
  sound : (q'.lane t).Sound
  others : ∀ t', t' ≠ t → q'.lanes[t']? = q.lanes[t']?

/-- What a call leaves that waited for a job and has been answered. -/
inductive Dequeued (q q' : Queue) (t : String) : ConsumerAnswer → Prop
  /-- The first id whose job is ready has been taken, with those before it. -/
  | job {passed id job} (searched : q.Searched q' t passed (passed.length + 1) [id])
      (stored : q.backend.store.job? id = some job) (ready : job.status.isRunnable = true)
      (legible : q.backend.failsRead passed.length = false) : Dequeued q q' t (.ok (some job))
  /-- An id that could not be read stands at the front again, and none before it was ready. -/
  | unread {passed id rest} (searched : q.Searched q' t passed (passed.length + 1) [])
      (front : (q'.lane t).ids = id :: rest) (failed : q.backend.failsRead passed.length = true) :
      Dequeued q q' t (.error StoreCall.getJob.fault)
  /-- None was ready. -/
  | nothing {passed} (searched : q.Searched q' t passed passed.length [])
      (empty : (q'.lane t).ids = []) : Dequeued q q' t (.ok none)

end Queue

/-- Where a call stands that began at `q`, and what it has done so far. -/
inductive ConsumerStage.Reached (q q' : Queue) (t : String) : ConsumerStage → Prop
  | listening {passed} (searched : q.Searched q' t passed passed.length []) :
      Reached q q' t .listening
  | popping {passed ear} (searched : q.Searched q' t passed passed.length []) :
      Reached q q' t (.popping ear)
  | reading {passed ear id} (searched : q.Searched q' t passed passed.length [id]) :
      Reached q q' t (.reading ear id)
  | restoring {passed ear id} (searched : q.Searched q' t passed (passed.length + 1) [id])
      (failed : q.backend.failsRead passed.length = true) :
      Reached q q' t (.restoring ear id StoreCall.getJob.fault)
  | ringing {ear e} (dequeued : q.Dequeued q' t (.error e)) : Reached q q' t (.ringing ear e)
  | parked {passed ear} (searched : q.Searched q' t passed passed.length [])
      (empty : (q'.lane t).ids = []) : Reached q q' t (.parked ear)
  | leaving {ear answer} (dequeued : q.Dequeued q' t answer) : Reached q q' t (.leaving ear answer)
  | done {answer} (dequeued : q.Dequeued q' t answer) : Reached q q' t (.done answer)

namespace Queue

variable {q q' : Queue} {t : String} {passed held : List JobId} {reads : Nat} {id : JobId}
  {answer : ConsumerAnswer}

/-! ## What a step does to the search -/

namespace Searched

/-- A search begins with nothing passed over, read or held. -/
theorem start (hs : q.Sound) (t : String) : q.Searched (q.openLane t) t [] 0 [] where
  ids := by
    unfold openLane
    rw [lane_setLane, if_pos rfl]
    rfl
  idle := nofun
  legible := nofun
  backend := q.backend.afterReads_zero.symm
  settings := rfl
  sound := hs.openLane t t
  others t' hne := getElem?_setLane_of_ne q _ hne

/-- The lane is replaced by another one. -/
private theorem setLane (h : q.Searched q' t passed reads held) {l : Lane} {held' : List JobId}
    (ids : held' ++ l.ids = held ++ (q'.lane t).ids) (sound : l.Sound) :
    q.Searched (q'.setLane t l) t passed reads held' where
  ids := by
    rw [lane_setLane, if_pos rfl, List.append_assoc, ids, h.ids, List.append_assoc]
  idle := h.idle
  legible := h.legible
  backend := h.backend
  settings := h.settings
  sound := by
    rw [lane_setLane, if_pos rfl]
    exact sound
  others t' hne := (getElem?_setLane_of_ne q' l hne).trans (h.others t' hne)

/-- A search does not depend on the bell. -/
theorem withBell (h : q.Searched q' t passed reads held) (act : Bell → Bell) :
    q.Searched (Consumer.withBell q' t act) t passed reads held :=
  h.setLane rfl (h.sound.withBell _)

/-- What is popped is held. -/
theorem pop (h : q.Searched q' t passed reads []) {l : Lane}
    (hpop : (q'.lane t).pop? = some (id, l)) : q.Searched (q'.setLane t l) t passed reads [id] :=
  h.setLane (Lane.pop?_eq_some hpop).1.symm (h.sound.pop? hpop)

/-- The record of the id that is held is read, or cannot be read. -/
theorem read (h : q.Searched q' t passed passed.length held) :
    q.Searched { q' with backend := q.backend.afterReads (passed.length + 1) } t passed
      (passed.length + 1) held :=
  { h with backend := rfl }

/-- The id that is held is dropped, because its job is not ready. -/
theorem skip (h : q.Searched q' t passed (passed.length + 1) [id])
    (idle : q.backend.store.isReady id = false)
    (legible : q.backend.failsRead passed.length = false) :
    q.Searched q' t (passed ++ [id]) (passed ++ [id]).length [] where
  ids := by
    rw [h.ids, List.append_nil]
  idle x hx := by
    rcases List.mem_append.mp hx with hold | hnew
    · exact h.idle x hold
    · exact List.mem_singleton.mp hnew ▸ idle
  legible n hn := by
    rw [List.length_append, List.length_singleton] at hn
    rcases Nat.lt_or_eq_of_le (Nat.le_of_lt_succ hn) with hlt | rfl
    · exact h.legible n hlt
    · exact legible
  backend := by
    rw [List.length_append]
    exact h.backend
  settings := h.settings
  sound := h.sound
  others := h.others

/-- The id that is held goes back to the front. -/
theorem restore (hs : q.Sound) (h : q.Searched q' t passed reads [id]) :
    q.Searched (q'.setLane t ((q'.lane t).pushFront id)) t passed reads [] ∧
      ((q'.setLane t ((q'.lane t).pushFront id)).lane t).ids = id :: (q'.lane t).ids := by
  -- it stood once in the lane, so it is not among those behind it
  have hnodup : (passed ++ [id] ++ (q'.lane t).ids).Nodup := h.ids ▸ (hs t).nodup
  have hnew : id ∉ (q'.lane t).ids := fun hmem =>
    (List.nodup_append.mp hnodup).2.2 id (List.mem_append_right passed List.mem_cons_self) id hmem
      rfl
  have hqueued : ¬(q'.lane t).queued.contains id = true :=
    fun hc => hnew ((h.sound.mem_queued id).mp hc)
  have hids : ((q'.lane t).pushFront id).ids = id :: (q'.lane t).ids := by
    unfold Lane.pushFront
    rw [if_neg hqueued]
  refine ⟨h.setLane hids (h.sound.pushFront id), ?_⟩
  rw [lane_setLane, if_pos rfl, hids]

/-- A search makes no lane longer. -/
theorem length_le (h : q.Searched q' t passed reads held) :
    held.length + (q'.lane t).ids.length ≤ q.depth t := by
  have hids := congrArg List.length h.ids
  rw [List.length_append, List.length_append] at hids
  show _ ≤ (q.lane t).ids.length
  omega

/-- All lanes are sound afterwards. -/
theorem all_sound (hs : q.Sound) (h : q.Searched q' t passed reads held) : q'.Sound := by
  intro t'
  by_cases ht : t' = t
  · rw [ht]
    exact h.sound
  · rw [lane_eq_of_getElem? (h.others t' ht)]
    exact hs t'

end Searched

theorem Dequeued.withBell (h : q.Dequeued q' t answer) (act : Bell → Bell) :
    q.Dequeued (Consumer.withBell q' t act) t answer := by
  have hids : ((Consumer.withBell q' t act).lane t).ids = (q'.lane t).ids := by
    unfold Consumer.withBell
    rw [lane_setLane, if_pos rfl]
  cases h with
  | job searched stored ready legible => exact .job (searched.withBell act) stored ready legible
  | unread searched front failed => exact .unread (searched.withBell act) (hids.trans front) failed
  | nothing searched empty => exact .nothing (searched.withBell act) (hids.trans empty)

end Queue

/-! ## Steps and runs -/

namespace Consumer

variable {q q' : Queue} {c : Consumer} {t : String}

/-- A call keeps its job type and its deadline. -/
theorem step_keeps (c : Consumer) (q : Queue) (now : Nat) (cancelled ringFirst : Bool) :
    (c.step q now cancelled ringFirst).1.jobType = c.jobType ∧
      (c.step q now cancelled ringFirst).1.deadline = c.deadline := by
  unfold step
  repeat' split
  all_goals exact ⟨rfl, rfl⟩

theorem steps_keeps (c : Consumer) (q : Queue) (ms : List Moment) :
    (c.steps q ms).1.jobType = c.jobType ∧ (c.steps q ms).1.deadline = c.deadline := by
  induction ms generalizing c q with
  | nil => exact ⟨rfl, rfl⟩
  | cons m ms ih =>
    obtain ⟨htype, hdeadline⟩ := step_keeps c q m.now m.cancelled m.ringFirst
    obtain ⟨htypes, hdeadlines⟩ := ih (c.step q m.now m.cancelled m.ringFirst).1
      (c.step q m.now m.cancelled m.ringFirst).2
    exact ⟨htypes.trans htype, hdeadlines.trans hdeadline⟩

/-- One step of a call, wherever it stands. -/
theorem reached_step (hs : q.Sound) (h : c.stage.Reached q q' c.jobType) (now : Nat)
    (cancelled ringFirst : Bool) :
    (c.step q' now cancelled ringFirst).1.stage.Reached q
      (c.step q' now cancelled ringFirst).2 c.jobType := by
  obtain ⟨t, deadline, stage⟩ := c
  unfold step
  dsimp only at h ⊢
  cases h with
  | listening searched => exact .popping (searched.withBell fun _ => (q'.lane t).bell.listen.2)
  | popping searched =>
    dsimp only
    split
    · next id l hpop => exact .reading (searched.pop hpop)
    · next hpop => exact .parked searched (Lane.pop?_eq_none hpop)
  | @reading passed ear id searched =>
    have hread := searched.read
    have hget := q.backend.getJob_afterReads passed.length id
    -- the read fails, or nothing is stored, or the job is ready, or it is not
    dsimp only
    rw [searched.backend, hget]
    cases hfails : q.backend.failsRead passed.length with
    | true => exact .restoring hread hfails
    | false =>
      rw [if_neg Bool.false_ne_true]
      cases hjob : q.backend.store.job? id with
      | none => exact .popping (hread.skip (by rw [Store.isReady, hjob]; rfl) hfails)
      | some job =>
        dsimp only
        split
        · next hready => exact .leaving (.job hread hjob hready hfails)
        · next hidle =>
          refine .popping (hread.skip ?_ hfails)
          rw [Store.isReady, hjob]
          exact Bool.eq_false_iff.mpr hidle
  | restoring searched failed =>
    obtain ⟨hrestored, hfront⟩ := searched.restore hs
    exact .ringing (.unread hrestored hfront failed)
  | ringing dequeued => exact .leaving (dequeued.withBell Bell.ring)
  | @parked passed ear searched empty =>
    dsimp only
    split
    · exact .listening (searched.withBell (·.notice ear))
    · split
      · exact .leaving (.nothing searched empty)
      · exact .parked searched empty
  | @leaving ear answer dequeued => exact .done (dequeued.withBell (·.leave ear))
  | done dequeued => exact .done dequeued

/-- Whatever the moments, a call has searched its lane from the front. -/
theorem reached_steps (hs : q.Sound) (h : c.stage.Reached q q' c.jobType) (ms : List Moment) :
    (c.steps q' ms).1.stage.Reached q (c.steps q' ms).2 c.jobType := by
  induction ms generalizing c q' with
  | nil => exact h
  | cons m ms ih =>
    have hstep := reached_step hs h m.now m.cancelled m.ringFirst
    obtain ⟨hkeeps, -⟩ := step_keeps c q' m.now m.cancelled m.ringFirst
    rw [← hkeeps] at hstep ⊢
    exact ih hstep

/-! ## How long a call takes -/

end Consumer

/-- The rings of a bell that nobody has taken notice of yet. -/
def Bell.unnoticed (b : Bell) : Nat := b.permit.toNat + b.rung.length

/-- The rings that a listener has taken to itself. -/
def Ear.rings : Ear → Nat
  | .satisfied => 1
  | .place _ => 0

/-- A newcomer that is rung for at once uses up the permit. -/
theorem Bell.unnoticed_listen (b : Bell) :
    b.listen.2.unnoticed + b.listen.1.rings = b.unnoticed := by
  unfold listen unnoticed
  cases b.permit with
  | true => exact Nat.add_right_comm ..
  | false => rfl

/-- Taking notice of a ring uses it up. -/
theorem Bell.unnoticed_notice {b : Bell} {ear : Ear} (rung : b.isRung ear = true) :
    (b.notice ear).unnoticed + 1 = b.unnoticed + ear.rings := by
  cases ear with
  | satisfied => rfl
  | place ticket =>
    have hmem : ticket ∈ b.rung := List.contains_iff_mem.mp rung
    have hpos : 0 < b.rung.length := List.length_pos_of_mem hmem
    have herased : (b.rung.erase ticket).length = b.rung.length - 1 := List.length_erase_of_mem hmem
    show b.permit.toNat + (b.rung.erase ticket).length + 1 = b.permit.toNat + b.rung.length + 0
    omega

namespace ConsumerStage

/-- The most steps that a call takes that does not have to wait. After every ring that it takes
notice of it looks into the lane once more. -/
def stepsLeft (l : Lane) : ConsumerStage → Nat
  | listening => 2 * l.depth + 4 + 3 * l.bell.unnoticed
  | popping ear => 2 * l.depth + 3 + 3 * (l.bell.unnoticed + ear.rings)
  | reading ear _ => 2 * l.depth + 4 + 3 * (l.bell.unnoticed + ear.rings)
  | restoring _ _ _ => 3
  | ringing _ _ => 2
  | parked ear => 2 * l.depth + 2 + 3 * (l.bell.unnoticed + ear.rings)
  | leaving _ _ => 1
  | done _ => 0

/-- With every step there are fewer steps left, unless nothing happens. -/
theorem Move.stepsLeft_lt {l l' : Lane} {s s' : ConsumerStage} (m : Move l s l' s') :
    (l' = l ∧ s' = s) ∨ s'.stepsLeft l' < s.stepsLeft l := by
  cases m with
  | stay => exact .inl ⟨rfl, rfl⟩
  | listen =>
    have hrings := l.bell.unnoticed_listen
    simp only [stepsLeft, Lane.depth]
    omega
  | @pop ear id l' taken =>
    obtain ⟨hids, hbell⟩ := Lane.pop?_eq_some taken
    simp only [stepsLeft, Lane.depth, hids, hbell, List.length_cons]
    omega
  | notice rung =>
    have hrings := Bell.unnoticed_notice rung
    simp only [stepsLeft, Lane.depth]
    omega
  | park | skip | fail | give | restore | ring | giveUp | leave =>
    simp only [stepsLeft]
    omega

end ConsumerStage

namespace Consumer

variable {q : Queue} {c : Consumer}

/-- The most steps that a call takes that does not have to wait. -/
def stepsLeft (c : Consumer) (q : Queue) : Nat := c.stage.stepsLeft (q.lane c.jobType)

theorem stepsLeft_step_le (c : Consumer) (q : Queue) (now : Nat) (cancelled ringFirst : Bool) :
    (c.step q now cancelled ringFirst).1.stepsLeft (c.step q now cancelled ringFirst).2 ≤
      c.stepsLeft q := by
  obtain ⟨move, htype, -⟩ := c.step_move q now cancelled ringFirst
  unfold stepsLeft
  rw [htype]
  rcases move.stepsLeft_lt with ⟨hlane, hstage⟩ | hlt
  · exact Nat.le_of_eq (congrArg₂ ConsumerStage.stepsLeft hlane hstage)
  · exact Nat.le_of_lt hlt

/-- A call never has more steps left than before. -/
theorem stepsLeft_steps_le (c : Consumer) (q : Queue) (ms : List Moment) :
    (c.steps q ms).1.stepsLeft (c.steps q ms).2 ≤ c.stepsLeft q := by
  induction ms generalizing c q with
  | nil => exact Nat.le_refl _
  | cons m ms ih =>
    exact Nat.le_trans (ih _ _) (c.stepsLeft_step_le q m.now m.cancelled m.ringFirst)

/-- A call whose time is over does not stay where it is. -/
theorem stage_step_ne {now : Nat} {cancelled : Bool} (hover : c.isOver now cancelled = true)
    (hwaits : c.answer? = none) (q : Queue) (ringFirst : Bool) :
    (c.step q now cancelled ringFirst).1.stage ≠ c.stage := by
  obtain ⟨t, deadline, stage⟩ := c
  unfold step
  cases stage with
  | popping | reading =>
    dsimp only
    repeat' split
    all_goals exact ConsumerStage.noConfusion
  | parked ear =>
    dsimp only
    rw [if_pos hover]
    split
    all_goals exact ConsumerStage.noConfusion
  | listening | restoring | ringing | leaving => exact ConsumerStage.noConfusion
  | done answer => cases hwaits

theorem stepsLeft_step_lt {now : Nat} {cancelled : Bool} (hover : c.isOver now cancelled = true)
    (hwaits : c.answer? = none) (q : Queue) (ringFirst : Bool) :
    (c.step q now cancelled ringFirst).1.stepsLeft (c.step q now cancelled ringFirst).2 <
      c.stepsLeft q := by
  obtain ⟨move, htype, -⟩ := c.step_move q now cancelled ringFirst
  unfold stepsLeft
  rw [htype]
  exact move.stepsLeft_lt.resolve_left fun h => stage_step_ne hover hwaits q ringFirst h.2

/-- A call whose time is over is answered after as many steps. -/
theorem answer?_steps (c : Consumer) (q : Queue) {ms : List Moment}
    (hover : ∀ m ∈ ms, c.isOver m.now m.cancelled = true)
    (hlong : c.stepsLeft q ≤ ms.length) : (c.steps q ms).1.answer?.isSome = true := by
  induction ms generalizing c q with
  | nil =>
    obtain ⟨t, deadline, stage⟩ := c
    cases stage with
    | done => rfl
    | _ => exact absurd hlong (by simp [stepsLeft, ConsumerStage.stepsLeft])
  | cons m ms ih =>
    obtain ⟨-, hdeadline⟩ := step_keeps c q m.now m.cancelled m.ringFirst
    -- the time is over from now on, and every step leaves one step less
    refine ih (c.step q m.now m.cancelled m.ringFirst).1 (c.step q m.now m.cancelled m.ringFirst).2
      (fun m' hm' => ?_) ?_
    · have hlater := hover m' (List.mem_cons_of_mem m hm')
      unfold isOver at hlater ⊢
      rw [hdeadline]
      exact hlater
    · rw [List.length_cons] at hlong
      cases hanswer : c.answer? with
      | none =>
        have hstep := stepsLeft_step_lt (hover m List.mem_cons_self) hanswer q m.ringFirst
        omega
      | some answer =>
        have hdone : c.stepsLeft q = 0 := by
          obtain ⟨t, deadline, stage⟩ := c
          cases stage with
          | done => rfl
          | _ => cases hanswer
        have hstep := c.stepsLeft_step_le q m.now m.cancelled m.ringFirst
        omega

end Consumer

/-- What a call answers, it has found by a search. -/
theorem Queue.Dequeued.searched {q q' : Queue} {t : String} {answer : ConsumerAnswer}
    (h : q.Dequeued q' t answer) : ∃ passed reads held, q.Searched q' t passed reads held := by
  cases h with
  | job searched | unread searched | nothing searched => exact ⟨_, _, _, searched⟩

/-- Wherever a call stands, all that it has done is to search its lane. -/
theorem ConsumerStage.Reached.searched {q q' : Queue} {t : String} {stage : ConsumerStage}
    (h : stage.Reached q q' t) : ∃ passed reads held, q.Searched q' t passed reads held := by
  cases h with
  | listening searched | popping searched | reading searched | restoring searched
  | parked searched => exact ⟨_, _, _, searched⟩
  | ringing dequeued | leaving dequeued | done dequeued => exact dequeued.searched

namespace Queue

variable {q : Queue} {t : String} {now : Nat} {ms : List Moment} {answer : ConsumerAnswer}

theorem reached_dequeue (hs : q.Sound) (t : String) (now : Nat) (ms : List Moment) :
    (q.dequeue t now ms).1.stage.Reached q (q.dequeue t now ms).2 t :=
  Consumer.reached_steps (c := (Consumer.start q now t).1) hs (.listening (.start hs t)) ms

/-- What every answered call leaves. -/
theorem dequeued_of_answer (hs : q.Sound) (h : (q.dequeue t now ms).1.answer? = some answer) :
    q.Dequeued (q.dequeue t now ms).2 t answer := by
  have hreached := reached_dequeue hs t now ms
  unfold Consumer.answer? at h
  split at h
  · next hdone =>
    cases h
    rw [hdone] at hreached
    cases hreached with
    | done dequeued => exact dequeued
  · cases h

/-- A call is answered soon after it has been cancelled or its deadline has come. -/
theorem answers_of_late (q : Queue) (t : String) (now : Nat) (ms : List Moment) {late : List Moment}
    (hlate : ∀ m ∈ late, m.cancelled = true ∨ now + q.settings.pollTimeout ≤ m.now)
    (hlong : 2 * q.depth t + 4 + 3 * (q.lane t).bell.unnoticed ≤ late.length) :
    (q.dequeue t now (ms ++ late)).1.answer?.isSome = true := by
  obtain ⟨-, hdeadline⟩ :=
    Consumer.steps_keeps (Consumer.start q now t).1 (Consumer.start q now t).2 ms
  have hsteps := (Consumer.start q now t).1.stepsLeft_steps_le (Consumer.start q now t).2 ms
  have hlane : (q.openLane t).lane t = q.lane t := by
    unfold openLane
    rw [lane_setLane, if_pos rfl]
  have hstart : (Consumer.start q now t).1.stepsLeft (Consumer.start q now t).2 =
      2 * q.depth t + 4 + 3 * (q.lane t).bell.unnoticed :=
    congrArg (fun l : Lane => 2 * l.depth + 4 + 3 * l.bell.unnoticed) hlane
  unfold dequeue
  rw [Consumer.steps_append]
  refine Consumer.answer?_steps _ _ (fun m hm => ?_) ?_
  · unfold Consumer.isOver
    rw [hdeadline, Bool.or_eq_true, decide_eq_true_eq]
    exact hlate m hm
  · exact Nat.le_trans (hstart ▸ hsteps) hlong

end Queue

end JobRunner
