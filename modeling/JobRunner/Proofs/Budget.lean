import JobRunner.Proofs.Course
import JobRunner.Proofs.Lifecycle

/-!
# The budget of attempts

A job is attempted as often as it may be, and once more for every restart that finds it processing.

- `Life.Budgeted`: the counts of a job are in range, and every call of its handler is counted.
- `Plant.revivals`: how often restarts have made a job retrying that was processing.
- `Plant.attempt_budget`: no job exceeds its budget, and without restarts no count overflows.
-/

namespace JobRunner

/-- The calls of the handler that are counted in the record and have not been made yet. -/
def Post.callsDue : Post → Nat
  | .attempted ⟨_, _, .announcing⟩ => 1
  | _ => 0

/-- The number of calls of the handler. -/
def Life.callCount (y : Life) : Nat := (y.entries.filterMap Entry.called?).length

/-- Every call that an attempt makes has been counted before. -/
theorem Attempt.Move.calls_counted {a a' : Attempt} {es : List Entry} {h : Handover} {record : Job}
    {outcome : Option Outcome} (m : Move a a' es h) (fits : a.Fits record outcome) {calls : Nat}
    (hcalls : (calls + (Post.attempted a).callsDue : Nat) ≤ record.attempts) :
    ∀ record', es.foldl Entry.onRecord (some record) = some record' →
      (calls + (es.filterMap Entry.called?).length + (Post.after a' h).callsDue : Nat) ≤
        record'.attempts := by
  intro record' hrecord
  cases m with
  | claim clock run room =>
    -- the claim counts one attempt more, and owes the call of the handler for it
    cases hrecord
    obtain ⟨rfl, -⟩ := fits
    have hbefore : (calls : Int) ≤ record.attempts := hcalls
    show ((calls + 1 : Nat) : Int) ≤ record.attempts + 1
    omega
  | announce =>
    cases hrecord
    exact hcalls
  | report clock r =>
    cases hrecord
    rw [report_of_fits fits]
    exact hcalls
  | conclude r o tries =>
    cases hrecord
    obtain ⟨⟨-, clock, rfl, -⟩, -⟩ := fits
    exact hcalls
  | reschedule clock why may =>
    cases hrecord
    obtain ⟨⟨rfl, -⟩, -⟩ := fits
    exact hcalls
  | rest writing | giveUp writing =>
    cases hrecord
    cases writing <;> exact hcalls
  | stay now blocked =>
    cases hrecord
    show ((calls + (if a.owns then Post.attempted a else .free).callsDue : Nat) : Int) ≤ _
    split
    · exact hcalls
    · have hfree : Post.free.callsDue = 0 := rfl
      omega
  | _ =>
    cases hrecord
    exact hcalls

/-- The counts of a job are in range, where `extra` attempts are allowed beyond the most, and every
call of its handler is counted. -/
structure Life.Budgeted (y : Life) (extra : Nat) : Prop where
  positive : ∀ job, y.record = some job → 1 ≤ job.maxAttempts
  counts : ∀ job, y.record = some job → job.Budgeted extra
  calls : ∀ job, y.record = some job → (y.callCount + y.post.callsDue : Nat) ≤ job.attempts

namespace Life.Budgeted

variable {record : Option Job} {job : Job} {outcome : Option Outcome} {post post' : Post}
  {js : List Entry} {extra : Nat}

/-- The attempt of a job is lost. -/
theorem idle (h : Budgeted ⟨record, outcome, post, js⟩ extra) (nothing : post'.callsDue = 0) :
    Budgeted ⟨record, outcome, post', js⟩ extra := by
  refine ⟨h.positive, h.counts, fun job hjob => ?_⟩
  have hcalls := h.calls job hjob
  show ((callCount ⟨record, outcome, post, js⟩ + post'.callsDue : Nat) : Int) ≤ job.attempts
  omega

/-- A job that was processing is retrying, though its last attempt may have been under way. -/
theorem revive (h : Budgeted ⟨some job, outcome, post, js⟩ extra) (clock : Instant) :
    Budgeted ⟨some (job.moved .retrying clock), outcome, post, js⟩ (extra + 1) := by
  have hcounts := h.counts job rfl
  have hwithin := hcounts.within
  have hleft : job.attempts < job.maxAttempts + (extra + 1 : Nat) := by omega
  refine ⟨fun job' hjob => ?_, fun job' hjob => ?_, fun job' hjob => ?_⟩ <;> cases hjob
  · exact h.positive job rfl
  · exact ⟨hcounts.nonneg, Int.le_of_lt hleft, fun _ => hleft⟩
  · exact h.calls job rfl

end Life.Budgeted

/-- A step of a life keeps it within its budget. -/
theorem Life.Step.budgeted {id : JobId} {y y' : Life} {extra : Nat} (step : Step id y y')
    (h : y.Budgeted extra) : y'.Budgeted extra := by
  cases step with
  | insert job isNew =>
    obtain ⟨_, now, request, rfl, -⟩ := isNew
    have hmost : 1 ≤ max request.maxAttempts 1 := Int.le_max_right _ _
    refine ⟨fun job hjob => ?_, fun job hjob => ?_, fun job hjob => ?_⟩ <;> cases hjob
    · exact hmost
    · have hleft : (0 : Int) < max request.maxAttempts 1 + extra := by omega
      exact ⟨Int.le_refl 0, Int.le_of_lt hleft, fun _ => hleft⟩
    · exact Int.le_refl 0
  | start job b runnable => exact ⟨h.positive, h.counts, h.calls⟩
  | @move record outcome js a a' es hand move owns fits =>
    have hcounts := move.budgeted fits (h.counts record rfl)
    refine ⟨fun job hjob => ?_, fun job hjob => (hcounts job hjob).1, fun job hjob => ?_⟩
    · rw [(hcounts job hjob).2]
      exact h.positive record rfl
    · have hcalls := move.calls_counted fits (h.calls record rfl) job hjob
      unfold Life.callCount
      rw [List.filterMap_append, List.length_append]
      exact hcalls

namespace Plant

variable {p : Plant} {id : JobId} {extra : Nat}

/-- A job is within its budget. -/
def KeepsBudget (p : Plant) (id : JobId) (extra : Nat) : Prop :=
  ∃ post, p.Keeps id post ∧ (p.life id post).Budgeted extra

/-- Whether a turn makes a job retrying that was processing. -/
def Revives (p : Plant) (id : JobId) : Turn → Prop
  | .act _ => False
  | .restart clock types =>
    (p.record? id).map (·.status) = some .processing ∧
      ((p.restart clock types).record? id).map (·.status) = some .retrying

instance (p : Plant) (id : JobId) : (t : Turn) → Decidable (p.Revives id t)
  | .act _ => inferInstanceAs (Decidable False)
  | .restart _ _ => inferInstanceAs (Decidable (_ ∧ _))

/-- How often the restarts among some turns make a job retrying that was processing. -/
def revivals (p : Plant) (id : JobId) : List Turn → Nat
  | [] => 0
  | t :: ts => (if p.Revives id t then 1 else 0) + (p.turn t).revivals id ts

namespace Orderly

/-- What happens in a plant keeps a job within its budget. -/
theorem step_keepsBudget (h : p.Orderly) (hb : p.KeepsBudget id extra) (act : Action) :
    (p.step act).KeepsBudget id extra := by
  obtain ⟨post, hpost, hbudget⟩ := hb
  obtain ⟨post', hpost', hsame | hstep⟩ := h.follows act hpost
  · exact ⟨post', hpost', hsame ▸ hbudget⟩
  · exact ⟨post', hpost', hstep.budgeted hbudget⟩

/-- A restart allows a job that it revives one attempt more. -/
theorem restart_keepsBudget (h : p.Orderly) (hb : p.KeepsBudget id extra)
    (clock : JobId → Instant) (types : List String) :
    (p.restart clock types).KeepsBudget id
      (extra + if p.Revives id (.restart clock types) then 1 else 0) := by
  obtain ⟨before, -, hbudget⟩ := hb
  obtain ⟨post, hpost⟩ := (p.restart clock types).exists_keeps id
  -- nobody is at work after a restart, so that no call is owed
  have hnothing : post.callsDue = 0 := by
    cases post with
    | attempted a => exact absurd hpost (not_attempted_restart clock types a)
    | _ => rfl
  have hidle : Life.Budgeted ⟨p.record? id, p.outcome? id, post, p.history id⟩ extra :=
    hbudget.idle hnothing
  obtain ⟨-, hrevives⟩ := restart_revives h.keyed clock types
  refine ⟨post, hpost, ?_⟩
  rcases hrevives.jobs id with hsame | ⟨job, hjob, hstatus, hmoved⟩
  · have hrecord : (p.restart clock types).record? id = p.record? id := hsame
    have hnot : ¬p.Revives id (.restart clock types) := by
      rintro ⟨hprocessing, hretrying⟩
      rw [hrecord, hprocessing] at hretrying
      cases hretrying
    have hlife : (p.restart clock types).life id post =
        ⟨p.record? id, p.outcome? id, post, p.history id⟩ :=
      Life.ext hrecord (hrevives.outcomes id) rfl rfl
    rw [if_neg hnot, hlife]
    exact hidle
  · have hrecord : p.record? id = some job := hjob
    have hrecord' : (p.restart clock types).record? id = some (job.moved .retrying (clock id)) :=
      hmoved
    have hrevived : p.Revives id (.restart clock types) := by
      refine ⟨?_, ?_⟩
      · rw [hrecord, Option.map_some, hstatus]
      · rw [hrecord', Option.map_some, Job.moved_status]
    have hlife : (p.restart clock types).life id post =
        ⟨some (job.moved .retrying (clock id)), p.outcome? id, post, p.history id⟩ :=
      Life.ext hrecord' (hrevives.outcomes id) rfl rfl
    rw [hrecord] at hidle
    rw [if_pos hrevived, hlife]
    exact hidle.revive (clock id)

theorem turn_keepsBudget (h : p.Orderly) (hb : p.KeepsBudget id extra) (t : Turn) :
    (p.turn t).KeepsBudget id (extra + if p.Revives id t then 1 else 0) := by
  cases t with
  | act action => exact h.step_keepsBudget hb action
  | restart clock types => exact h.restart_keepsBudget hb clock types

theorem turns_keepsBudget (h : p.Orderly) (hb : p.KeepsBudget id extra) (ts : List Turn) :
    (p.turns ts).KeepsBudget id (extra + p.revivals id ts) := by
  -- on the turns; what is allowed grows along with the plant
  induction ts generalizing p extra with
  | nil => exact hb
  | cons t ts ih =>
    have hrest := ih (h.turn t) (h.turn_keepsBudget hb t)
    rw [Nat.add_assoc] at hrest
    exact hrest

end Orderly

/-- The counts of the stored jobs, where `revived` says how often a job has been revived. -/
structure WithinBudget (p : Plant) (revived : JobId → Nat) : Prop where
  positive : ∀ id job, p.record? id = some job → 1 ≤ job.maxAttempts
  attempts : ∀ id job, p.record? id = some job →
    0 ≤ job.attempts ∧ job.attempts ≤ job.maxAttempts + revived id
  /-- Every call of a handler is counted. -/
  calls : ∀ id job, p.record? id = some job → (p.calls id).length ≤ job.attempts

/-- No handler is called for a job more often than it may be attempted, and no count of attempts is
at its end when it is to be increased. -/
structure NeverOverdrawn (p : Plant) : Prop where
  calls : ∀ id job, p.record? id = some job → (p.calls id).length ≤ job.maxAttempts
  unstored : ∀ id, p.record? id = none → p.calls id = []
  room : ∀ x ∈ p.actors, ∀ a, x.attempt? = some a → a.stage = .claiming →
    a.job.attempts < Job.greatestCount

theorem turns_act (p : Plant) (actions : List Action) :
    p.turns (actions.map .act) = p.run actions := by
  unfold turns run
  rw [List.foldl_map]
  rfl

theorem revivals_act (p : Plant) (id : JobId) (actions : List Action) :
    p.revivals id (actions.map .act) = 0 := by
  induction actions generalizing p with
  | nil => rfl
  | cons act actions ih =>
    have hnot : ¬p.Revives id (.act act) := fun h => h
    show (if p.Revives id (.act act) then 1 else 0) +
      (p.step act).revivals id (actions.map .act) = 0
    rw [ih, if_neg hnot]

/-- In every plant that began empty, every job is within its budget. -/
theorem keepsBudget_turns (settings : ServiceSettings) (ts : List Turn) (id : JobId) :
    ((new settings).turns ts).KeepsBudget id ((new settings).revivals id ts) := by
  have hnone : (new settings).record? id = none := Store.job?_empty id
  have hbefore : (new settings).KeepsBudget id 0 := by
    refine ⟨.absent, hnone, fun job hjob => ?_, fun job hjob => ?_, fun job hjob => ?_⟩ <;>
      cases hnone.symm.trans hjob
  have hafter := (orderly_new settings).turns_keepsBudget hbefore ts
  rw [Nat.zero_add] at hafter
  exact hafter

theorem withinBudget_turns (settings : ServiceSettings) (ts : List Turn) :
    ((new settings).turns ts).WithinBudget ((new settings).revivals · ts) := by
  refine ⟨fun id job hjob => ?_, fun id job hjob => ?_, fun id job hjob => ?_⟩ <;>
    obtain ⟨post, -, hbudget⟩ := keepsBudget_turns settings ts id
  · exact hbudget.positive job hjob
  · exact ⟨(hbudget.counts job hjob).nonneg, (hbudget.counts job hjob).within⟩
  · have hcalls := hbudget.calls job hjob
    have hsame : (((new settings).turns ts).life id post).callCount =
        (((new settings).turns ts).calls id).length := rfl
    omega

/-- An attempt about to claim its job has one left. -/
theorem Orderly.room_of_claiming (h : p.Orderly) (hsane : ∀ id, ∃ post, (p.life id post).Sane)
    {x : Actor} (hx : x ∈ p.actors) {a : Attempt} (ha : x.attempt? = some a)
    (hstage : a.stage = .claiming) : a.job.attempts < Job.greatestCount := by
  obtain ⟨record, hrecord, hfits⟩ := (h.informed x hx).attempt ha
  obtain ⟨post, hsane⟩ := hsane a.job.id
  unfold Attempt.Fits at hfits
  rw [hstage] at hfits
  obtain ⟨rfl, hrun⟩ := hfits
  have hcounted := hsane.counted a.job hrecord
  have hleft := hcounted.left hrun
  have hmax := hcounted.max_le
  omega

/-- Whatever producers, workers and timers do in whatever order, whichever store calls fail, and
however often the plant is restarted in between, every job keeps to its budget. Without restarts
none is called for more often than it may be attempted, and no count overflows. -/
theorem attempt_budget (settings : ServiceSettings) :
    (∀ ts : List Turn, ((new settings).turns ts).WithinBudget ((new settings).revivals · ts)) ∧
      ∀ actions : List Action, ((new settings).run actions).NeverOverdrawn := by
  refine ⟨withinBudget_turns settings, fun actions => ?_⟩
  have h := orderly_run settings actions
  have hbudget := withinBudget_turns settings (actions.map .act)
  rw [turns_act] at hbudget
  refine ⟨fun id job hjob => ?_, fun id hnone => ?_, fun x hx a ha => ?_⟩
  · obtain ⟨-, hwithin⟩ := hbudget.attempts id job hjob
    have hcalls := hbudget.calls id job hjob
    have hnever := revivals_act (new settings) id actions
    omega
  · unfold calls
    rw [(h.blank id hnone).2]
    rfl
  · refine h.room_of_claiming (fun id => ?_) hx ha
    obtain ⟨post, -, lived⟩ := exists_lived settings actions id
    exact ⟨post, lived.sane⟩

-- A job that may be attempted once is attempted twice, as a restart finds it processing.
example :
    let t : Tick := ⟨0, .epoch, .ofList [], false, false⟩
    let working := fun i => [Action.hire "mail" .immediate] ++ List.replicate 8 (.advance i t)
    let enqueued := [Action.enqueue .nil .epoch (.once "mail" .null) (by decide)] ++
      List.replicate 4 (.advance 0 t)
    let ts := (enqueued ++ working 1).map Turn.act ++ [.restart (fun _ => .epoch) ["mail"]] ++
      (working 0).map Turn.act
    (((new .standard).turns ts).record? .nil).map (fun job => (job.attempts, job.maxAttempts)) =
        some (2, 1) ∧
      (new .standard).revivals .nil ts = 1 ∧
      (((new .standard).turns ts).calls .nil).length = 2 := by
  decide +kernel

end Plant

end JobRunner
