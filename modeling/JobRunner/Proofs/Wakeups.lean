import JobRunner.Proofs.Bells
import JobRunner.Queue.Producer

/-!
# Wake-ups

No id stays in a lane while a call that could take it sleeps.

- `Lobby`: a queue with any number of calls that push jobs and of calls that wait for them.
- `Lobby.Attended`: nobody is left asleep while there is an id to be taken.
- `Lobby.attended_run`: every lane of every lobby is attended.
- `Lobby.unattended_before_ring`: a call that sleeps beside an id, until the push of the id rings.
-/

namespace JobRunner

/-! ## Calls that push jobs -/

namespace Producer

/-- A push of a job that is stored already, with nothing in between, is a requeue. -/
theorem steps_pushing (job : Job) (q : Queue) :
    steps 2 (pushing job) q = (done (.ok job.id), (q.requeue job).2) := by
  rcases hpush : q.push job.jobType job.id with ⟨added, q'⟩
  cases added <;> simp [steps, step, Queue.requeue, Queue.append, hpush]

/-- The type of the lane in which a push has put its id, when it is about to ring. -/
def rings? : Producer → Option String
  | ringing job => some job.jobType
  | _ => none

/-- The next step of such a push is the ring. -/
theorem lane_step_of_rings? (p : Producer) (q : Queue) {t : String} (h : p.rings? = some t) :
    (p.step q).2.lane t = (q.lane t).ring := by
  cases p with
  | ringing job =>
    cases h
    exact (Queue.lane_setLane q job.jobType job.jobType _).trans (if_pos rfl)
  | _ => cases h

/-- What a call that pushes a job counts for in the lane of a type. -/
def ringsIn (p : Producer) (t : String) : Nat := if p.rings? = some t then 1 else 0

theorem ringsIn_ringing (job : Job) (t : String) :
    (ringing job).ringsIn t = if job.jobType = t then 1 else 0 := by
  unfold ringsIn rings?
  simp only [Option.some.injEq]

/-- A step of a call that pushes a job keeps every lane served. -/
theorem served_step (p : Producer) {q : Queue} {t : String} {pushes : Nat}
    {stages : List ConsumerStage} (h : (q.lane t).Served (pushes + p.ringsIn t) stages) :
    ((p.step q).2.lane t).Served (pushes + (p.step q).1.ringsIn t) stages := by
  cases p with
  | checking id now request =>
    rw [step]
    split <;> exact h
  | inserting job =>
    rw [step]
    split <;> exact h
  | pushing job =>
    show ((q.setLane job.jobType ((q.lane job.jobType).pushBack job.id).2).lane t).Served
      (pushes + (if ((q.lane job.jobType).pushBack job.id).1 then ringing job
        else done (.ok job.id)).ringsIn t) stages
    rw [Queue.lane_setLane]
    by_cases ht : job.jobType = t
    · subst ht
      -- a push that adds the job owes one ring, any other one owes none
      have hpushed := h.pushBack job.id
      rw [if_pos rfl]
      cases hadded : ((q.lane job.jobType).pushBack job.id).1 with
      | false =>
        rw [hadded] at hpushed
        exact hpushed
      | true =>
        rw [hadded] at hpushed
        rw [if_pos rfl, ringsIn_ringing, if_pos rfl]
        exact hpushed
    · rw [if_neg ht]
      split
      · rw [ringsIn_ringing, if_neg ht]
        exact h
      · exact h
  | ringing job =>
    rw [ringsIn_ringing] at h
    show ((q.setLane job.jobType (q.lane job.jobType).ring).lane t).Served pushes stages
    rw [Queue.lane_setLane]
    by_cases ht : job.jobType = t
    · -- the ring that was owed is rung
      rw [if_pos ht] at h ⊢
      subst ht
      exact h.ring
    · rw [if_neg ht] at h ⊢
      exact h
  | done answer => exact h

end Producer

/-! ## Any number of calls -/

/-- A queue, the calls that push jobs into its lanes, and the calls that wait for jobs. -/
structure Lobby where
  queue : Queue
  producers : List Producer
  consumers : List Consumer

namespace Lobby

/-- What can happen in a lobby. -/
inductive Action where
  /-- A call begins that enqueues a new job. -/
  | enqueue (id : JobId) (now : Instant) (request : JobRequest)
  /-- A call begins that puts a job back into its lane. -/
  | requeue (job : Job)
  /-- A call begins that waits for a job. -/
  | dequeue (now : Nat) (jobType : String)
  /-- A call that pushes a job goes on. -/
  | push (i : Nat)
  /-- A call that waits for a job goes on, or gives up, as its deadline has come or it is
  cancelled. If it has been rung as well, it takes notice of that only if `ringFirst`. -/
  | wait (i : Nat) (now : Nat) (cancelled ringFirst : Bool)
  /-- A call that waits for a job is dropped. -/
  | drop (i : Nat)
  /-- Somebody else uses the store. -/
  | backend (b : Backend)

/-- A lobby in which nobody is. -/
def new (settings : QueueSettings) (b : Backend) : Lobby := ⟨.ofBackend settings b, [], []⟩

/-- One atomic step. -/
def step (b : Lobby) : Action → Lobby
  | .enqueue id now request => { b with producers := b.producers ++ [.checking id now request] }
  | .requeue job => { b with producers := b.producers ++ [.pushing job] }
  | .dequeue now jobType =>
    let (c, queue) := Consumer.start b.queue now jobType
    { b with queue, consumers := b.consumers ++ [c] }
  | .push i =>
    match b.producers[i]? with
    | some p =>
      let (p, queue) := p.step b.queue
      { b with queue, producers := b.producers.set i p }
    | none => b
  | .wait i now cancelled ringFirst =>
    match b.consumers[i]? with
    | some c =>
      let (c, queue) := c.step b.queue now cancelled ringFirst
      { b with queue, consumers := b.consumers.set i c }
    | none => b
  | .drop i =>
    match b.consumers[i]? with
    | some c => { b with consumers := b.consumers.set i c.drop }
    | none => b
  | .backend backend => { b with queue := { b.queue with backend } }

/-- Several steps. -/
def run (b : Lobby) (actions : List Action) : Lobby := actions.foldl step b

/-- Where the calls stand that wait for jobs of a type. -/
def stages (consumers : List Consumer) (t : String) : List ConsumerStage :=
  (consumers.filter (·.jobType = t)).map (·.stage)

/-- The number of pushes that have put an id of a type in and are about to ring. -/
def pushes (producers : List Producer) (t : String) : Nat :=
  producers.countP (·.rings? = some t)

/-- Every lane is served. -/
def Served (b : Lobby) : Prop :=
  ∀ t, (b.queue.lane t).Served (pushes b.producers t) (stages b.consumers t)

variable {b : Lobby} {t : String}

theorem stages_cons (c : Consumer) (consumers : List Consumer) (t : String) :
    stages (c :: consumers) t =
      if c.jobType = t then c.stage :: stages consumers t else stages consumers t := by
  unfold stages
  rw [List.filter_cons]
  by_cases ht : c.jobType = t
  · rw [if_pos ht, if_pos (decide_eq_true ht), List.map_cons]
  · rw [if_neg ht, if_neg (fun hc => ht (of_decide_eq_true hc))]

theorem perm_stages {consumers consumers' : List Consumer} (h : consumers.Perm consumers')
    (t : String) : (stages consumers t).Perm (stages consumers' t) :=
  (h.filter _).map _

theorem pushes_cons (p : Producer) (producers : List Producer) (t : String) :
    pushes (p :: producers) t = pushes producers t + p.ringsIn t := by
  unfold pushes Producer.ringsIn
  rw [List.countP_cons]
  simp only [decide_eq_true_eq]

theorem perm_pushes {producers producers' : List Producer} (h : producers.Perm producers')
    (t : String) : pushes producers t = pushes producers' t :=
  h.countP_eq _

/-- One of several goes on. -/
private theorem exists_others {α : Type} {l : List α} {i : Nat} {x : α} (h : l[i]? = some x)
    (x' : α) : ∃ others, l.Perm (x :: others) ∧ (l.set i x').Perm (x' :: others) := by
  obtain ⟨hi, rfl⟩ := List.getElem?_eq_some_iff.mp h
  exact ⟨l.eraseIdx i, (List.getElem_cons_eraseIdx_perm hi).symm, List.set_perm_cons_eraseIdx hi x'⟩

namespace Served

/-- A call that waits for a job goes on. -/
theorem consumer (h : b.Served) {i : Nat} {c c' : Consumer} {q : Queue}
    (hc : b.consumers[i]? = some c)
    (move : c.stage.Move (b.queue.lane c.jobType) (q.lane c.jobType) c'.stage)
    (jobType : c'.jobType = c.jobType)
    (apart : ∀ t, t ≠ c.jobType → q.lane t = b.queue.lane t) :
    ({ b with queue := q, consumers := b.consumers.set i c' } : Lobby).Served := by
  intro t
  obtain ⟨others, hperm, hperm'⟩ := exists_others hc c'
  have hbefore := (h t).perm (perm_stages hperm t)
  have hafter := (perm_stages hperm' t).symm
  show (q.lane t).Served (pushes b.producers t) (stages (b.consumers.set i c') t)
  rw [stages_cons] at hbefore hafter
  rw [jobType] at hafter
  by_cases ht : c.jobType = t
  · rw [if_pos ht] at hbefore hafter
    subst ht
    exact (hbefore.move move).perm hafter
  · rw [if_neg ht] at hbefore hafter
    rw [apart t (Ne.symm ht)]
    exact hbefore.perm hafter

/-- A call that pushes a job goes on. -/
theorem producer (h : b.Served) {i : Nat} {p : Producer} (hp : b.producers[i]? = some p) :
    ({ b with queue := (p.step b.queue).2, producers := b.producers.set i (p.step b.queue).1 } :
      Lobby).Served := by
  intro t
  obtain ⟨others, hperm, hperm'⟩ := exists_others hp (p.step b.queue).1
  have hbefore := h t
  show ((p.step b.queue).2.lane t).Served (pushes (b.producers.set i (p.step b.queue).1) t)
    (stages b.consumers t)
  rw [perm_pushes hperm, pushes_cons] at hbefore
  rw [perm_pushes hperm', pushes_cons]
  exact p.served_step hbefore

/-- A call begins that pushes a job. It has put nothing into a lane yet. -/
theorem join (h : b.Served) {p : Producer} (hp : p.rings? = none) :
    ({ b with producers := b.producers ++ [p] } : Lobby).Served := by
  intro t
  have hnone : p.ringsIn t = 0 := if_neg (by rw [hp]; exact Option.some_ne_none t ∘ Eq.symm)
  show (b.queue.lane t).Served (pushes (b.producers ++ [p]) t) (stages b.consumers t)
  rw [perm_pushes (List.perm_append_singleton p b.producers), pushes_cons, hnone]
  exact h t

/-- A call begins that waits for a job. It does not listen yet. -/
theorem dequeue (h : b.Served) (now : Nat) (jobType : String) :
    (b.step (.dequeue now jobType)).Served := by
  intro t
  show ((b.queue.openLane jobType).lane t).Served (pushes b.producers t)
    (stages (b.consumers ++ [(Consumer.start b.queue now jobType).1]) t)
  have hlane : (b.queue.openLane jobType).lane t = b.queue.lane t := by
    unfold Queue.openLane
    rw [Queue.lane_setLane]
    split
    · next ht => rw [ht]
    · rfl
  rw [hlane]
  refine Lane.Served.perm ?_ (perm_stages (List.perm_append_singleton _ b.consumers).symm t)
  rw [stages_cons]
  split
  · exact (h t).join
  · exact h t

/-- Whatever happens in a lobby, every lane stays served. -/
theorem step (h : b.Served) (act : Action) : (b.step act).Served := by
  cases act with
  | enqueue id now request => exact h.join rfl
  | requeue job => exact h.join rfl
  | dequeue now jobType => exact h.dequeue now jobType
  | push i =>
    simp only [Lobby.step]
    split
    · next p hp => exact h.producer hp
    · exact h
  | wait i now cancelled ringFirst =>
    simp only [Lobby.step]
    split
    · next c hc =>
      obtain ⟨move, jobType, apart⟩ := c.step_move b.queue now cancelled ringFirst
      exact h.consumer hc move jobType apart
    · exact h
  | drop i =>
    simp only [Lobby.step]
    split
    · next c hc => exact h.consumer hc (c.drop_move _) c.jobType_drop fun _ _ => rfl
    · exact h
  | backend backend => exact h

theorem run (h : b.Served) (actions : List Action) : (b.run actions).Served := by
  induction actions generalizing b with
  | nil => exact h
  | cons act actions ih => exact ih (h.step act)

end Served

theorem served_new (settings : QueueSettings) (backend : Backend) :
    (new settings backend).Served := by
  intro t
  show ((Queue.ofBackend settings backend).lane t).Served 0 []
  rw [Queue.lane_ofBackend]
  exact Lane.served_empty

/-! ## Nobody is left asleep -/

/-- Nobody who waits for jobs of a type is left asleep while an id of that type is in its lane. -/
structure Attended (b : Lobby) (t : String) : Prop where
  /-- While a call sleeps beside an id, there is one that is awake, or a push that is about to
  ring. -/
  watched : ∀ s ∈ stages b.consumers t, (b.queue.lane t).Sleeps s → (b.queue.lane t).ids ≠ [] →
    (∃ s' ∈ stages b.consumers t, (b.queue.lane t).Awake s') ∨
      ∃ p ∈ b.producers, p.rings? = some t
  /-- The ring of such a push wakes a call, unless one is under way. -/
  woken : ∀ s ∈ stages b.consumers t, (b.queue.lane t).Sleeps s →
    ∀ i p, b.producers[i]? = some p → p.rings? = some t →
      ∃ s' ∈ stages b.consumers t, ((b.step (.push i)).queue.lane t).Awake s'
  /-- There are as many who will come for an id as there are ids. -/
  covered : ∀ s ∈ stages b.consumers t, (b.queue.lane t).Sleeps s →
    (b.queue.lane t).ids.length ≤ (b.queue.lane t).bell.rung.length +
      (stages b.consumers t).countP ConsumerStage.attends + pushes b.producers t
  /-- No ring is kept for later while a call sleeps. -/
  permit : ∀ s ∈ stages b.consumers t, (b.queue.lane t).Sleeps s →
    (b.queue.lane t).bell.permit = false

theorem Served.attended (h : b.Served) (t : String) : b.Attended t where
  covered s hmem hs := by
    obtain ⟨ticket, hwaits, rfl⟩ := (h t).mem_waiting hmem hs
    exact (h t).covered ticket hwaits hmem
  permit s hmem hs := by
    obtain ⟨ticket, hwaits, rfl⟩ := (h t).mem_waiting hmem hs
    by_contra hpermit
    rw [(h t).heard.permit (eq_true_of_ne_false hpermit)] at hwaits
    cases hwaits
  watched s hmem hs hids := by
    obtain ⟨ticket, hwaits, rfl⟩ := (h t).mem_waiting hmem hs
    have hcovered := (h t).covered ticket hwaits hmem
    have hpos : 0 < (b.queue.lane t).ids.length := List.length_pos_iff.mpr hids
    have hsome : 0 < (b.queue.lane t).bell.rung.length ∨
        0 < (stages b.consumers t).countP ConsumerStage.attends ∨ 0 < pushes b.producers t := by
      omega
    rcases hsome with hrung | hattends | hpushes
    · obtain ⟨place, hplace⟩ := List.exists_mem_of_length_pos hrung
      exact .inl ((h t).exists_awake hplace)
    · obtain ⟨s', hs', hattends⟩ := List.countP_pos_iff.mp hattends
      exact .inl ⟨s', hs', Lane.awake_of_attends _ hattends⟩
    · obtain ⟨p, hp, hrings⟩ := List.countP_pos_iff.mp hpushes
      exact .inr ⟨p, hp, of_decide_eq_true hrings⟩
  woken s hmem hs i p hp hrings := by
    obtain ⟨ticket, hwaits, rfl⟩ := (h t).mem_waiting hmem hs
    have hafter := h.step (.push i) t
    have hstep : b.step (.push i) =
        { b with
          queue := (p.step b.queue).2
          producers := b.producers.set i (p.step b.queue).1 } := by
      simp only [Lobby.step, hp]
    rw [hstep] at hafter ⊢
    have hlane := p.lane_step_of_rings? b.queue hrings
    have hrung : 0 < (b.queue.lane t).ring.bell.rung.length := by
      show 0 < (b.queue.lane t).bell.ring.rung.length
      rw [Bell.length_rung_ring hwaits]
      exact Nat.succ_pos _
    obtain ⟨place, hplace⟩ := List.exists_mem_of_length_pos hrung
    exact hafter.exists_awake (hlane ▸ hplace)

/-- No wake-up is lost: whatever calls push jobs and wait for them, and however their steps
interleave, every lane is attended. -/
theorem attended_run (settings : QueueSettings) (backend : Backend) (actions : List Action)
    (t : String) : ((new settings backend).run actions).Attended t :=
  ((served_new settings backend).run actions).attended t

/-- A call is parked, and a push has put an id into the lane and has not rung yet: the call sleeps
beside the id, no ring is kept, nobody has been rung, and no other call is under way. -/
theorem unattended_before_ring :
    let waits := [Action.dequeue 0 "mail", .wait 0 0 false false, .wait 0 0 false false]
    let pushes := [Action.enqueue .nil .epoch (.once "mail" .null), .push 0, .push 0, .push 0]
    let b := (new .standard .empty).run (waits ++ pushes)
    (b.queue.lane "mail").ids = [.nil] ∧ stages b.consumers "mail" = [.parked (.place 0)] ∧
      (b.queue.lane "mail").Sleeps (.parked (.place 0)) ∧
      (b.queue.lane "mail").bell.permit = false ∧ (b.queue.lane "mail").bell.rung = [] ∧
      ∀ s ∈ stages b.consumers "mail", ¬(b.queue.lane "mail").Awake s := by
  intro waits pushes b
  have hstages : stages b.consumers "mail" = [.parked (.place 0)] := rfl
  have hdeaf : (b.queue.lane "mail").bell.isRung (.place 0) = false := by decide +kernel
  refine ⟨by decide +kernel, hstages, ⟨_, rfl, hdeaf⟩, by decide +kernel, by decide +kernel, ?_⟩
  intro s hs hawake
  rw [hstages, List.mem_singleton] at hs
  subst hs
  exact Bool.noConfusion (hdeaf.symm.trans hawake)

-- Two calls sleep, one job comes, and one of the two is woken. The id is still in the lane.
example :
    let enqueued := [Action.enqueue .nil .epoch (.once "mail" .null), .push 0, .push 0, .push 0]
    let wait (i : Nat) := Action.wait i 0 false false
    let parked := [Action.dequeue 0 "mail", .dequeue 0 "mail", wait 0, wait 0, wait 1, wait 1]
    let b := (new .standard .empty).run (parked ++ enqueued ++ [.push 0])
    b.queue.depth "mail" = 1 ∧
      b.consumers.map (·.isBlocked b.queue 0 false) = [false, true] := by
  decide +kernel

end Lobby

end JobRunner
