import JobRunner.Proofs.Dequeues
import JobRunner.Proofs.HubCalls

/-!
# First in, first out

What any calls on a queue do to its lanes, each call in one piece. Between the calls the store may
be changed by others, and any of its reads may fail.

- `QueueCall`: the calls.
- `Queue.pushes`, `Queue.removals`: the ids that a call adds to a lane, and those that it takes out.
- `Queue.Orderly`: the laws of a single call.
- `Queue.fifo_calls`: after any calls a lane holds what was pushed without what was removed, in the
  order of the pushes, and the next call obeys these laws.
-/

namespace JobRunner

open Hub (collect collect_append)

/-- A call on a queue, or what happens to its store between two calls. -/
inductive QueueCall where
  | enqueue (id : JobId) (now : Instant) (request : JobRequest)
  | requeue (job : Job)
  /-- A call that waits for a job from `now` on, with the moments of its steps. -/
  | dequeue (jobType : String) (now : Nat) (ms : List Moment)
  /-- Others have used the store, or other calls to it are going to fail. -/
  | useStore (b : Backend)

namespace QueueCall

/-- What a call leaves behind. -/
def act (q : Queue) : QueueCall → Queue
  | enqueue id now request => (q.enqueue id now request).2
  | requeue job => (q.requeue job).2
  | dequeue t now ms => (q.dequeue t now ms).2
  | useStore b => { q with backend := b }

/-- The type whose lane a call concerns. -/
def jobType? : QueueCall → Option String
  | enqueue _ _ request => some request.jobType
  | requeue job => some job.jobType
  | dequeue t _ _ => some t
  | useStore _ => none

/-- A call comes to its end: one that waits for a job has moments enough. -/
def returns (q : Queue) : QueueCall → Bool
  | dequeue t now ms => (q.dequeue t now ms).1.answer?.isSome
  | enqueue _ _ _ | requeue _ | useStore _ => true

end QueueCall

namespace Queue

variable {q q' : Queue} {t t' : String} {id : JobId}

/-- The queue after some calls. -/
def calls (q : Queue) (cs : List QueueCall) : Queue := cs.foldl QueueCall.act q

/-- All of some calls come to their end. -/
def allReturn : Queue → List QueueCall → Bool
  | _, [] => true
  | q, c :: cs => c.returns q && allReturn (c.act q) cs

/-- The ids that a call adds to the lane of a type: of a job that is stored, or is so already,
unless it waits there. -/
def pushes (t : String) (q : Queue) : QueueCall → List JobId
  | .enqueue id now request =>
    match (q.enqueue id now request).1 with
    | .ok _ => if request.jobType = t ∧ (q.push t id).1 = true then [id] else []
    | .error _ => []
  | .requeue job => if job.jobType = t ∧ (q.requeue job).1 = true then [job.id] else []
  | .dequeue _ _ _ | .useStore _ => []

/-- The ids that wait in the lane of a type and do so no more after a call. -/
def removals (t : String) (q : Queue) (c : QueueCall) : List JobId :=
  (q.lane t).ids.filter fun id => id ∉ ((c.act q).lane t).ids

/-! ## Pushes -/

/-- Whether or not an id is taken, an append concerns one lane only. -/
theorem getElem?_append (q : Queue) (id : JobId) (hne : t' ≠ t) :
    (q.append t id).2.lanes[t']? = q.lanes[t']? := by
  have hpush : (q.push t id).2.lanes[t']? = q.lanes[t']? := getElem?_setLane_of_ne q _ hne
  show (if (q.push t id).1 = true then (q.push t id).2.ring t else (q.push t id).2).lanes[t']? = _
  split
  · exact (getElem?_setLane_of_ne _ _ hne).trans hpush
  · exact hpush

/-- An id that waits is not taken. -/
theorem push_of_waits (hs : q.Sound) (hwaits : q.Waits t id) :
    q.push t id = (false, q.setLane t (q.lane t)) := by
  have hqueued : (q.lane t).queued.contains id = true := ((hs t).mem_queued id).mpr hwaits
  unfold push Lane.pushBack
  rw [if_pos hqueued]

theorem append_of_waits (hs : q.Sound) (hwaits : q.Waits t id) :
    q.append t id = (false, q.setLane t (q.lane t)) := by
  unfold append
  rw [push_of_waits hs hwaits]
  rfl

/-- What an append adds to the lanes. -/
theorem ids_append_eq (hs : q.Sound) (t : String) (id : JobId) (t' : String) :
    ((q.append t id).2.lane t').ids =
      (q.lane t').ids ++ if t = t' ∧ (q.push t' id).1 = true then [id] else [] := by
  by_cases ht : t = t'
  · subst ht
    have hadded := push_added_iff hs t id
    by_cases hwaits : q.Waits t id
    · rw [append_of_waits hs hwaits, lane_setLane, if_pos rfl, if_neg, List.append_nil]
      exact fun h => hadded.mp h.2 hwaits
    · rw [ids_append hs hwaits, if_pos ⟨rfl, hadded.mpr hwaits⟩]
  · rw [lane_eq_of_getElem? (getElem?_append q id (Ne.symm ht)), if_neg fun h => ht h.1,
      List.append_nil]

/-! ## One call -/

/-- What holds of a queue and of whichever call comes next. -/
structure Orderly (q : Queue) : Prop where
  /-- Every lane holds the same ids as a list and as a set, none twice. -/
  sound : q.Sound
  /-- An id that waits is not taken again, and that changes nothing. -/
  requeue : ∀ job, q.Waits job.jobType job.id →
    (q.requeue job).1 = false ∧ (q.requeue job).2.backend = q.backend ∧
      (q.requeue job).2.settings = q.settings ∧
      ∀ t : String, (q.requeue job).2.lanes[t]? = q.lanes[t]?
  /-- A call that is answered has taken the first ready job of its lane, has put back the first id
  that it could not read, or has emptied the lane. -/
  dequeue : ∀ t now ms answer, (q.dequeue t now ms).1.answer? = some answer →
    q.Dequeued (q.dequeue t now ms).2 t answer
  /-- Every call is answered, soon after it is cancelled or its deadline has come at the latest.
  Until then it may take notice of every ring that nobody else has heard. -/
  answers : ∀ t now ms late,
    (∀ m ∈ late, m.cancelled = true ∨ now + q.settings.pollTimeout ≤ m.now) →
    2 * q.depth t + 4 + 3 * (q.lane t).bell.unnoticed ≤ late.length →
      (q.dequeue t now (ms ++ late)).1.answer?.isSome = true
  /-- No lane is touched but that of the type concerned. -/
  apart : ∀ (c : QueueCall) (t : String), c.jobType? ≠ some t →
    (c.act q).lanes[t]? = q.lanes[t]?

theorem requeue_of_waits (hs : q.Sound) {job : Job} (hwaits : q.Waits job.jobType job.id) :
    (q.requeue job).1 = false ∧ (q.requeue job).2.backend = q.backend ∧
      (q.requeue job).2.settings = q.settings ∧
      ∀ t : String, (q.requeue job).2.lanes[t]? = q.lanes[t]? := by
  have hlane : q.lanes[job.jobType]? = some (q.lane job.jobType) := by
    cases hl : q.lanes[job.jobType]? with
    | none =>
      -- nothing waits in a lane that is not there
      have hempty : q.lane job.jobType = .empty := by
        unfold lane
        rw [Std.TreeMap.getD_eq_getD_getElem?, hl]
        rfl
      rw [Waits, hempty] at hwaits
      cases hwaits
    | some l => rw [lane_eq_of_getElem?_eq_some hl]
  unfold requeue
  rw [append_of_waits hs hwaits]
  refine ⟨rfl, rfl, rfl, fun t => ?_⟩
  by_cases ht : t = job.jobType
  · -- the lane is put back where it stands
    subst ht
    rw [hlane]
    exact Std.TreeMap.getElem?_insert_self
  · exact getElem?_setLane_of_ne q _ ht

theorem lanes_act (hs : q.Sound) (c : QueueCall) (hc : c.jobType? ≠ some t) :
    (c.act q).lanes[t]? = q.lanes[t]? := by
  cases c with
  | enqueue id now request =>
    have hne : t ≠ request.jobType := fun ht => hc (congrArg some ht.symm)
    rcases henqueue : q.enqueue id now request with ⟨answer, q'⟩
    show (q.enqueue id now request).2.lanes[t]? = _
    rw [henqueue]
    cases answer with
    | error e => rw [(enqueue_error henqueue).2.1]
    | ok id' =>
      obtain ⟨-, -, b, -, rfl⟩ := enqueue_ok henqueue
      exact getElem?_append ({ q with backend := b } : Queue) id hne
  | requeue job => exact getElem?_append q job.id fun ht => hc (congrArg some ht.symm)
  | dequeue t' now ms =>
    obtain ⟨passed, reads, held, searched⟩ := (reached_dequeue hs t' now ms).searched
    exact searched.others t fun ht => hc (congrArg some ht.symm)
  | useStore b => rfl

theorem Sound.orderly (hs : q.Sound) : q.Orderly where
  sound := hs
  requeue _ hwaits := requeue_of_waits hs hwaits
  dequeue _ _ _ _ h := dequeued_of_answer hs h
  answers t now ms _ hlate hlong := q.answers_of_late t now ms hlate hlong
  apart c _ hc := lanes_act hs c hc

theorem Sound.act (hs : q.Sound) (c : QueueCall) : (c.act q).Sound := by
  cases c with
  | enqueue id now request =>
    rcases henqueue : q.enqueue id now request with ⟨answer, q'⟩
    show (q.enqueue id now request).2.Sound
    rw [henqueue]
    cases answer with
    | error e =>
      intro t
      have hlanes : q'.lanes = q.lanes := (enqueue_error henqueue).2.1
      show (q'.lanes.getD t .empty).Sound
      rw [hlanes]
      exact hs t
    | ok id' =>
      obtain ⟨-, -, b, -, rfl⟩ := enqueue_ok henqueue
      exact (hs.backend b).append request.jobType id
  | requeue job => exact hs.append job.jobType job.id
  | dequeue t now ms =>
    obtain ⟨passed, reads, held, searched⟩ := (reached_dequeue hs t now ms).searched
    exact searched.all_sound hs
  | useStore b => exact hs.backend b

/-! ## All calls -/

/-- Nothing has left a lane that has only grown. -/
private theorem removals_of_grown {c : QueueCall} {new : List JobId}
    (h : ((c.act q).lane t).ids = (q.lane t).ids ++ new) : removals t q c = [] := by
  refine List.filter_eq_nil_iff.mpr fun id hid => ?_
  rw [h]
  simp [hid]

/-- What stood in front of those that are left has left the lane. -/
private theorem removals_of_front {c : QueueCall} {gone : List JobId} (hs : q.Sound)
    (h : (q.lane t).ids = gone ++ ((c.act q).lane t).ids) : removals t q c = gone := by
  have hnodup : (gone ++ ((c.act q).lane t).ids).Nodup := h ▸ (hs t).nodup
  have happart := (List.nodup_append.mp hnodup).2.2
  have hgone : gone.filter (fun id => id ∉ ((c.act q).lane t).ids) = gone := by
    refine List.filter_eq_self.mpr fun id hid => ?_
    exact decide_eq_true fun hleft => happart id hid id hleft rfl
  have hleft : ((c.act q).lane t).ids.filter (fun id => id ∉ ((c.act q).lane t).ids) = [] := by
    refine List.filter_eq_nil_iff.mpr fun id hid => ?_
    simp [hid]
  unfold removals
  rw [h, List.filter_append, hgone, hleft, List.append_nil]

/-- One call takes ids from the front of a lane, or adds one at its back. -/
theorem pushes_removals (hs : q.Sound) (c : QueueCall) (hc : c.returns q = true) (t : String) :
    (q.lane t).ids ++ pushes t q c = removals t q c ++ ((c.act q).lane t).ids := by
  -- a call that only adds to a lane removes nothing
  have hgrown : ((c.act q).lane t).ids = (q.lane t).ids ++ pushes t q c →
      (q.lane t).ids ++ pushes t q c = removals t q c ++ ((c.act q).lane t).ids := by
    intro h
    rw [removals_of_grown h, h, List.nil_append]
  cases c with
  | enqueue id now request =>
    apply hgrown
    rcases henqueue : q.enqueue id now request with ⟨answer, q'⟩
    simp only [QueueCall.act, pushes, henqueue]
    cases answer with
    | error e =>
      have hlanes : q'.lanes = q.lanes := (enqueue_error henqueue).2.1
      show (q'.lanes.getD t .empty).ids = _
      rw [hlanes, List.append_nil]
      rfl
    | ok id' =>
      obtain ⟨-, -, b, -, rfl⟩ := enqueue_ok henqueue
      exact ids_append_eq (hs.backend b) request.jobType id t
  | requeue job =>
    apply hgrown
    refine (ids_append_eq hs job.jobType job.id t).trans ?_
    dsimp only [pushes]
    by_cases ht : job.jobType = t
    · subst ht
      rfl
    · rw [if_neg fun h => ht h.1, if_neg fun h => ht h.1]
  | dequeue t' now ms =>
    obtain ⟨answer, hanswer⟩ := Option.isSome_iff_exists.mp hc
    have hdequeued := dequeued_of_answer hs hanswer
    show (q.lane t).ids ++ [] = _
    rw [List.append_nil]
    by_cases ht : t' = t
    · subst ht
      obtain ⟨passed, reads, held, searched⟩ := hdequeued.searched
      -- the search has taken from the front what it passed over and what it hands out
      have hfront : (q.lane t').ids =
          (passed ++ held) ++ (((QueueCall.dequeue t' now ms).act q).lane t').ids := searched.ids
      rw [removals_of_front hs hfront]
      exact hfront
    · have hlanes := lanes_act hs (.dequeue t' now ms) fun h => ht (Option.some.inj h)
      have hsame := lane_eq_of_getElem? hlanes
      have hgrown : (((QueueCall.dequeue t' now ms).act q).lane t).ids = (q.lane t).ids ++ [] := by
        rw [hsame, List.append_nil]
      rw [removals_of_grown hgrown, hsame, List.nil_append]
  | useStore b =>
    apply hgrown
    exact (List.append_nil _).symm

theorem Sound.calls (hs : q.Sound) (cs : List QueueCall) : (q.calls cs).Sound := by
  induction cs generalizing q with
  | nil => exact hs
  | cons c cs ih => exact ih (hs.act c)

/-- What waits at first, and then all pushes, come out in this order. -/
theorem pushes_removals_calls (hs : q.Sound) (cs : List QueueCall)
    (returns : q.allReturn cs = true) (t : String) :
    (q.lane t).ids ++ collect QueueCall.act (pushes t) q cs =
      collect QueueCall.act (removals t) q cs ++ ((q.calls cs).lane t).ids := by
  induction cs generalizing q with
  | nil => exact List.append_nil _
  | cons c cs ih =>
    obtain ⟨hfirst, hrest⟩ := Bool.and_eq_true_iff.mp returns
    have hstep := pushes_removals hs c hfirst t
    have hlater := ih (hs.act c) hrest
    calc (q.lane t).ids ++ (pushes t q c ++ collect QueueCall.act (pushes t) (c.act q) cs)
        = (removals t q c ++ ((c.act q).lane t).ids) ++
            collect QueueCall.act (pushes t) (c.act q) cs := by rw [← List.append_assoc, hstep]
      _ = removals t q c ++ (collect QueueCall.act (removals t) (c.act q) cs ++
            (((c.act q).calls cs).lane t).ids) := by rw [List.append_assoc, hlater]
      _ = _ := (List.append_assoc _ _ _).symm

/-- After any calls every lane holds the ids pushed to it but for those removed, in the order in
which they were pushed, and none twice. -/
theorem fifo_calls (settings : QueueSettings) (b : Backend) (cs : List QueueCall)
    (returns : (ofBackend settings b).allReturn cs = true) :
    let q := (ofBackend settings b).calls cs
    q.Orderly ∧ ∀ t,
      let pushed := collect QueueCall.act (pushes t) (ofBackend settings b) cs
      let removed := collect QueueCall.act (removals t) (ofBackend settings b) cs
      pushed = removed ++ (q.lane t).ids ∧ q.depth t = pushed.length - removed.length := by
  have hs := sound_ofBackend settings b
  refine ⟨(hs.calls cs).orderly, fun t => ?_⟩
  have horder := pushes_removals_calls hs cs returns t
  rw [lane_ofBackend] at horder
  refine ⟨horder, ?_⟩
  have hlength := congrArg List.length horder
  rw [List.length_append, List.length_append] at hlength
  show (((ofBackend settings b).calls cs).lane t).ids.length = _
  have hnone : Lane.empty.ids.length = 0 := rfl
  omega

/-- Three mails are enqueued. The record of the first is lost, the second cannot be read when its
turn comes, and then somebody asks again. -/
def strayMails : List QueueCall :=
  let request : JobRequest := .once "mail" .null
  let kept := (Store.empty.put (.pending (.ofNat 2) .epoch request)).put
    (.pending (.ofNat 3) .epoch request)
  let ask : QueueCall := .dequeue "mail" 0 (List.replicate 8 ⟨0, false, false⟩)
  [1, 2, 3].map (fun n => .enqueue (.ofNat n) .epoch request) ++
    [.useStore (Backend.setPlan ⟨kept, fun _ => []⟩ .getJob [false, true]), ask, ask]

/-- The second mail has been handed out before the third. -/
theorem fifo_of_strayMails :
    let start := ofBackend .standard .empty
    start.allReturn strayMails = true ∧
      collect QueueCall.act (removals "mail") start strayMails = [.ofNat 1, .ofNat 2] ∧
      ((start.calls strayMails).lane "mail").ids = [.ofNat 3] := by
  have returns : (ofBackend .standard .empty).allReturn strayMails = true := by decide +kernel
  have hremoved : collect QueueCall.act (removals "mail") (ofBackend .standard .empty) strayMails =
      [.ofNat 1, .ofNat 2] := by
    decide +kernel
  have hpushed : collect QueueCall.act (pushes "mail") (ofBackend .standard .empty) strayMails =
      [.ofNat 1, .ofNat 2, .ofNat 3] := by
    decide +kernel
  obtain ⟨horder, -⟩ := (fifo_calls .standard .empty strayMails returns).2 "mail"
  rw [hremoved, hpushed] at horder
  have hleft : [JobId.ofNat 1, .ofNat 2] ++ [.ofNat 3] = [.ofNat 1, .ofNat 2] ++
      (((ofBackend .standard .empty).calls strayMails).lane "mail").ids := horder
  exact ⟨returns, hremoved, (List.append_cancel_left hleft).symm⟩

end Queue

end JobRunner
