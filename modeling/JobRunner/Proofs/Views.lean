import JobRunner.Proofs.HubCalls
import JobRunner.Proofs.Results
import Mathlib.Data.List.Infix

/-!
# What is pushed and what is polled

The store, which answers those who ask for a job, and the hub, which tells those who follow it, are
changed at different steps. At rest they agree.

- `Event.Tells`: an event says what is stored about a job.
- `Life.Shown`: the last event published of a job tells what is stored, unless an attempt is between
  a write and its publication.
- `Plant.Mirrored`: the latest event that the hub keeps of a job is the last one published.
- `Plant.views_agree`: the latest event of a job that nobody attempts tells what is stored, unless
  an outcome of the job was given up.
-/

namespace JobRunner

/-! ## Events and records -/

/-- An event says what is stored about a job: its status and, if that is final, its outcome. -/
def Event.Tells (e : Event) (job : Job) (outcome : Option Outcome) : Prop :=
  e.status = job.status ∧ (job.status.isTerminal = true →
    ∃ o, outcome = some o ∧ e.value = o.value ∧ e.error = o.error)

/-- The event that publishes a report tells what has been written. -/
theorem Attempt.Settled.tells {record job : Job} {outcome : Option Outcome}
    {report : Except Failure Json} (h : Attempt.Settled record job outcome report) :
    (Attempt.reportEvent job report).Tells record outcome := by
  obtain ⟨rfl, clock, houtcome, hstatus⟩ := h
  constructor
  · rw [hstatus]
    cases report <;> rfl
  · intro _
    refine ⟨_, houtcome, ?_⟩
    cases report <;> exact ⟨rfl, rfl⟩

/-! ## What is shown of a job -/

/-- What is published of a job at this post is what is stored: no attempt is between a write and its
publication. -/
def Post.Agrees : Post → Prop
  | .attempted a =>
    match a.stage with
    | .claiming | .handingBack _ | .rescheduling _ | .handingOff | .broken => True
    | _ => False
  | _ => True

/-- Who has broken off with a job has published what is stored. -/
theorem Post.agrees_of_isBroken {a : Attempt} (h : a.isBroken = true) :
    (Post.attempted a).Agrees := by
  obtain ⟨job, b, stage⟩ := a
  cases stage with
  | broken => trivial
  | _ => cases h

/-- An attempt could not write the outcome, and has given up. -/
def Attempt.givesUp (a : Attempt) : Bool :=
  match a.stage with
  | .abandoning _ => true
  | _ => false

/-- The attempt at this post has given up. -/
def Post.GivesUp : Post → Prop
  | .attempted a => a.givesUp = true
  | _ => False

namespace Life

/-- The last event that was published of a job. -/
def lastEvent? (y : Life) : Option Event := (y.entries.filterMap Entry.published?).getLast?

/-- The last event tells what is stored, and no attempt gives up. -/
structure Shown (y : Life) : Prop where
  tells : y.post.Agrees → ∀ job e, y.record = some job → y.lastEvent? = some e →
    e.Tells job y.outcome
  keeps : ¬y.post.GivesUp

namespace Shown

variable {record record' : Option Job} {job : Job} {outcome outcome' : Option Outcome}
  {post post' : Post} {js es : List Entry}

/-- An attempt is between a write and its publication. -/
private theorem of_busy (busy : ¬post'.Agrees) (keeps : ¬post'.GivesUp) :
    Shown ⟨record', outcome', post', js⟩ :=
  ⟨fun h => absurd h busy, keeps⟩

/-- Nothing is written, and nothing is published. -/
private theorem of_silent (h : Shown ⟨record, outcome, post, js⟩)
    (silent : es.filterMap Entry.published? = []) (agrees : post'.Agrees → post.Agrees)
    (keeps : ¬post'.GivesUp) : Shown ⟨record, outcome, post', js ++ es⟩ := by
  refine ⟨fun hagrees job e hjob he => ?_, keeps⟩
  have hlast : lastEvent? ⟨record, outcome, post, js⟩ = some e := by
    simp only [lastEvent?, List.filterMap_append, silent, List.append_nil] at he
    exact he
  exact h.tells (agrees hagrees) job e hjob hlast

/-- What has been written is published. -/
private theorem of_published {e : Event} (tells : e.Tells job outcome) (keeps : ¬post'.GivesUp) :
    Shown ⟨some job, outcome, post', js ++ [.published e]⟩ := by
  refine ⟨fun _ job' e' hjob he => ?_, keeps⟩
  have hlast : lastEvent? ⟨some job, outcome, post', js ++ [.published e]⟩ = some e := by
    simp [lastEvent?, Entry.published?]
  rw [hlast] at he
  cases he
  cases hjob
  exact tells

/-- A move of an attempt that does not give up shows what it writes. -/
theorem move {a a' : Attempt} {hand : Attempt.Handover}
    (h : Shown ⟨some job, outcome, .attempted a, js⟩) (move : Attempt.Move a a' es hand)
    (owns : a.owns = true) (fits : a.Fits job outcome) (keeps : ¬(Post.after a' hand).GivesUp) :
    Shown ⟨es.foldl Entry.onRecord (some job), es.foldl Entry.onOutcome outcome, .after a' hand,
      js ++ es⟩ := by
  -- a write is followed by its publication, and until then nothing is claimed
  cases move with
  | claim | announce | record | conclude | rest | wake | reschedule =>
    exact of_busy (fun hagrees => hagrees) keeps
  | report clock r =>
    rw [Attempt.report_of_fits fits] at keeps ⊢
    exact of_busy (fun hagrees => hagrees) keeps
  | claimRefused | notRunnable | countFull | handBack | rescheduleRefused | notReschedulable
  | handOff | breakOff | nap =>
    exact h.of_silent rfl (fun _ => trivial) keeps
  | stay now blocked =>
    have hafter : Post.after a .none = .attempted a := if_pos owns
    rw [hafter] at keeps ⊢
    exact h.of_silent rfl (fun hagrees => hagrees) keeps
  | succeed | retry | fail => exact of_published (Attempt.Settled.tells fits) keeps
  | announceRetry why =>
    obtain ⟨rfl, hstatus⟩ := fits
    refine of_published ⟨hstatus.symm, fun hfinal => ?_⟩ keeps
    rw [hstatus] at hfinal
    cases hfinal
  | giveUp => exact absurd rfl keeps
  | abandon => exact absurd rfl h.keeps
  | ringBack | ringOff => cases owns

end Shown

/-- In every step of a life in which nothing is given up, what is written is shown. -/
theorem Step.shown {id : JobId} {y y' : Life} (step : Step id y y') (h : y.Shown)
    (keeps : ¬y'.post.GivesUp) : y'.Shown := by
  cases step with
  | insert job isNew => exact ⟨fun _ _ _ _ he => (by cases he), keeps⟩
  | start job b runnable => exact ⟨fun _ => h.tells trivial, keeps⟩
  | move move owns fits => exact h.move move owns fits keeps

end Life

/-! ## What the hub keeps -/

namespace Hub

variable {h : Hub} {id : JobId} {e : Event}

/-- The latest event of a job after a publication is the one published, or the one from before. -/
theorem latest?_publish (hs : h.Sound) (e₀ : Event)
    (hlatest : (h.publish e₀).2.latest? id = some e) :
    (if id = e₀.jobId then some e₀ else h.latest? id) = some e := by
  obtain ⟨owner, howned⟩ := hs.cache
  have hstored := howned.latest?_store (e := e₀) e₀.jobId id
  unfold latest? at hlatest ⊢
  rw [← hstored]
  rw [cache_publish] at hlatest
  dsimp only at hlatest
  split at hlatest
  · -- a settlement may take latest events away, and brings none
    unfold EventCache.settle at hlatest
    rw [EventCache.latest?_trim] at hlatest
    exact (Option.filter_eq_some_iff.mp hlatest).1
  · exact hlatest

theorem sound_onHub (hs : h.Sound) (entry : Entry) : (entry.onHub h).Sound := by
  cases entry with
  | published e => exact hs.publish e
  | _ => exact hs

theorem sound_foldl_onHub (hs : h.Sound) (es : List Entry) : (es.foldl Entry.onHub h).Sound := by
  induction es generalizing h with
  | nil => exact hs
  | cons entry es ih => exact ih (sound_onHub hs entry)

/-- The events of a job that an entry publishes. -/
private theorem filterMap_published?_cons (id : JobId) (entry : Entry) (es : List Entry) :
    ((entry :: es).filter (·.jobId = id)).filterMap Entry.published? =
      (if entry.jobId = id then entry.published? else none).toList ++
        (es.filter (·.jobId = id)).filterMap Entry.published? := by
  rw [List.filter_cons]
  by_cases hid : entry.jobId = id
  · rw [if_pos (decide_eq_true hid), if_pos hid, List.filterMap_cons]
    cases entry.published? <;> rfl
  · rw [if_neg (fun hc => hid (of_decide_eq_true hc)), if_neg hid, Option.toList_none,
      List.nil_append]

/-- The latest event of a job is the last one published, however many entries there are. -/
theorem latest?_foldl_onHub (hs : h.Sound) (es : List Entry) (events : List Event)
    (last : ∀ e, h.latest? id = some e → events.getLast? = some e)
    (hlatest : (es.foldl Entry.onHub h).latest? id = some e) :
    (events ++ (es.filter (·.jobId = id)).filterMap Entry.published?).getLast? = some e := by
  -- on the entries; the events published so far grow along with the hub
  induction es generalizing h events with
  | nil =>
    rw [List.filter_nil, List.filterMap_nil, List.append_nil]
    exact last e hlatest
  | cons entry es ih =>
    rw [filterMap_published?_cons, ← List.append_assoc]
    refine ih (sound_onHub hs entry) _ (fun e he => ?_) hlatest
    cases entry with
    | published e₀ =>
      have hnow := latest?_publish hs e₀ he
      by_cases hid : e₀.jobId = id
      · rw [if_pos hid.symm] at hnow
        rw [if_pos (show (Entry.published e₀).jobId = id from hid)]
        exact List.getLast?_concat.trans hnow
      · rw [if_neg (Ne.symm hid)] at hnow
        rw [if_neg (show (Entry.published e₀).jobId ≠ id from hid), Option.toList_none,
          List.append_nil]
        exact last e hnow
    | _ =>
      show (events ++ (if _ then none else none).toList).getLast? = some e
      rw [ite_self, Option.toList_none, List.append_nil]
      exact last e he

end Hub

/-! ## Plants -/

namespace Plant

variable {p : Plant} {id : JobId}

/-- The latest event that the hub keeps of a job is the last one published. -/
structure Mirrored (p : Plant) : Prop where
  sound : p.service.hub.Sound
  last : ∀ id e, p.service.hub.latest? id = some e → (p.events id).getLast? = some e

theorem mirrored_new (settings : ServiceSettings) : (new settings).Mirrored where
  sound := Hub.sound_empty settings.eventCacheCapacity
  last id e h := by cases h

/-- Whatever happens, the hub keeps the last event of a job, or none. -/
theorem Mirrored.step (h : p.Mirrored) (ho : p.Orderly) (act : Action) : (p.step act).Mirrored := by
  by_cases hvisit : ∃ visit, act = .visit visit
  · obtain ⟨visit, rfl⟩ := hvisit
    refine ⟨h.sound.visit visit, fun id e hlatest => ?_⟩
    have hcache : (visit.act p.service.hub).cache = p.service.hub.cache := visit.cache_act _
    have hbefore : p.service.hub.latest? id = some e := by
      unfold Hub.latest?
      rw [← hcache]
      exact hlatest
    exact h.last id e hbefore
  · obtain ⟨es, hjournal, -, hhub⟩ := ho.journal_step act
    have hhub := hhub fun visit hact => hvisit ⟨visit, hact⟩
    refine ⟨hhub ▸ Hub.sound_foldl_onHub h.sound es, fun id e hlatest => ?_⟩
    rw [hhub] at hlatest
    have hlast := Hub.latest?_foldl_onHub h.sound es (p.events id) (h.last id) hlatest
    have hevents : (p.step act).events id =
        p.events id ++ (es.filter (·.jobId = id)).filterMap Entry.published? := by
      unfold events history
      rw [hjournal, List.filter_append, List.filterMap_append]
    rw [hevents]
    exact hlast

/-- An attempt of a job could not write the outcome, and has given up. -/
def GivesUp (p : Plant) (id : JobId) : Prop :=
  ∃ x ∈ p.actors, ∃ a ∈ x.attempt?, a.job.id = id ∧ a.givesUp = true

instance (p : Plant) (id : JobId) : Decidable (p.GivesUp id) :=
  inferInstanceAs (Decidable (∃ x ∈ p.actors, ∃ a ∈ x.attempt?, a.job.id = id ∧ a.givesUp = true))

/-- What has happened to a job is shown. -/
def Shows (p : Plant) (id : JobId) : Prop := ∃ post, p.Keeps id post ∧ (p.life id post).Shown

theorem not_givesUp {post : Post} (hpost : p.Keeps id post) (h : ¬p.GivesUp id) :
    ¬post.GivesUp := by
  intro hup
  cases post with
  | attempted a =>
    obtain ⟨hid, x, hx, ha⟩ := hpost
    exact h ⟨x, hx, a, ha, hid, hup⟩
  | _ => exact hup

theorem shows_new (settings : ServiceSettings) (id : JobId) : (new settings).Shows id := by
  have hnone : (new settings).record? id = none := Store.job?_empty id
  refine ⟨.absent, hnone, fun _ job e hjob => ?_, fun hup => hup⟩
  cases hnone.symm.trans hjob

/-- What happens in a plant is shown, unless an outcome is given up. -/
theorem Orderly.step_shows (ho : p.Orderly) (h : p.Shows id) (act : Action)
    (keeps : ¬(p.step act).GivesUp id) : (p.step act).Shows id := by
  obtain ⟨post, hpost, hshown⟩ := h
  obtain ⟨post', hpost', hsame | hstep⟩ := ho.follows act hpost
  · exact ⟨post', hpost', hsame ▸ hshown⟩
  · exact ⟨post', hpost', hstep.shown hshown (not_givesUp hpost' keeps)⟩

/-- A run in which no outcome of a job is given up shows what happens to the job. -/
theorem Orderly.run_shows (ho : p.Orderly) (hm : p.Mirrored) (h : p.Shows id)
    (actions : List Action)
    (keeps : ∀ before, before <+: actions → ¬(p.run before).GivesUp id) :
    (p.run actions).Orderly ∧ (p.run actions).Mirrored ∧ (p.run actions).Shows id := by
  induction actions generalizing p with
  | nil => exact ⟨ho, hm, h⟩
  | cons act actions ih =>
    have hnext : ¬(p.step act).GivesUp id := keeps [act] (List.prefix_append [act] actions)
    refine ih (ho.step act) (hm.step ho act) (ho.step_shows h act hnext) ?_
    intro before hbefore
    exact keeps (act :: before) (List.cons_prefix_cons.mpr ⟨rfl, hbefore⟩)

/-- Nobody attempts a job, but for those who have broken off with it. -/
def Rests (p : Plant) (id : JobId) : Prop :=
  ∀ x ∈ p.actors, ∀ a ∈ x.attempt?, a.isBroken = false → a.job.id ≠ id

instance (p : Plant) (id : JobId) : Decidable (p.Rests id) :=
  inferInstanceAs (Decidable (∀ x ∈ p.actors, ∀ a ∈ x.attempt?, a.isBroken = false → a.job.id ≠ id))

/-- Those who follow a job and those who ask for it are told the same: whatever producers, workers,
timers and sessions do in whatever order, and whichever store calls fail, the latest event of a job
that nobody attempts has the stored status and, if that is final, the result and the error that are
answered; unless an outcome of the job was given up. -/
theorem views_agree (settings : ServiceSettings) (actions : List Action) (id : JobId) (e : Event)
    (rests : ((new settings).run actions).Rests id)
    (keeps : ∀ before, before <+: actions → ¬((new settings).run before).GivesUp id)
    (latest : ((new settings).run actions).service.hub.latest? id = some e) :
    ∃ job, ((new settings).run actions).record? id = some job ∧ e.status = job.status ∧
      (job.status.isTerminal = true →
        ∃ o, ((new settings).run actions).outcome? id = some o ∧
          e.value = o.value ∧ e.error = o.error ∧
          (((new settings).run actions).service.queue.backend.Readable →
            (((new settings).run actions).service.lookUp id).1 = .ok (.ready o))) := by
  obtain ⟨ho, hm, post, hpost, hshown⟩ :=
    (orderly_new settings).run_shows (mirrored_new settings) (shows_new settings id) actions keeps
  generalize (new settings).run actions = p at *
  have hagrees : post.Agrees := by
    cases post with
    | attempted a =>
      obtain ⟨hid, x, hx, ha⟩ := hpost
      refine Post.agrees_of_isBroken ?_
      by_contra hgoing
      exact rests x hx a ha (Bool.not_eq_true _ ▸ hgoing) hid
    | _ => trivial
  have hlast : (p.life id post).lastEvent? = some e := hm.last id e latest
  cases hjob : p.record? id with
  | none =>
    -- nothing has been published of a job that is not stored
    have hblank : p.history id = [] := (ho.blank id hjob).2
    have hnothing : (p.life id post).lastEvent? = none := by
      show ((p.history id).filterMap Entry.published?).getLast? = none
      rw [hblank]
      rfl
    rw [hnothing] at hlast
    cases hlast
  | some job =>
    obtain ⟨hstatus, houtcome⟩ := hshown.tells hagrees job e hjob hlast
    refine ⟨job, rfl, hstatus, fun hfinal => ?_⟩
    obtain ⟨o, ho, hvalue, herror⟩ := houtcome hfinal
    refine ⟨o, ho, hvalue, herror, fun readable => ?_⟩
    have hlookup : (p.service.lookUp id).1 = .ok (p.service.store.lookUp id) :=
      Queue.lookUp_of_readable readable id
    rw [hlookup, Store.lookUp_of_final hjob hfinal ho]

/-- The store refuses the first claim of a mail, the first attempt takes too long, and the second
one delivers the mail. -/
def mailAgainActions : List Action :=
  let t : Tick := ⟨0, .epoch, .ofList [], false, false⟩
  [.enqueue .nil .epoch ⟨"mail", .null, 3⟩ (by decide)] ++ List.replicate 4 (.advance 0 t) ++
    [.hire "mail" .immediate, .plan .updateJob [true]] ++ List.replicate 18 (.advance 1 t) ++
    [.report 1 .epoch (.error (.ofKind .timeout "no answer"))] ++
    List.replicate 16 (.advance 1 t) ++ [.report 1 .epoch (.ok .null)] ++
    List.replicate 3 (.advance 1 t)

/-- Whoever follows the mail and whoever asks for it is told that it has been delivered. -/
theorem views_agree_of_mail_again :
    ∃ e o, ((new .standard).run mailAgainActions).service.hub.latest? .nil = some e ∧
      (((new .standard).run mailAgainActions).service.lookUp .nil).1 = .ok (.ready o) ∧
      e.status = .completed ∧ e.value = o.value ∧ e.error = o.error := by
  have rests : ((new .standard).run mailAgainActions).Rests .nil := by decide +kernel
  have keeps : ∀ before, before <+: mailAgainActions →
      ¬((new .standard).run before).GivesUp .nil := by
    have hinits : ∀ before ∈ mailAgainActions.inits,
        ¬((new .standard).run before).GivesUp .nil := by
      decide +kernel
    exact fun before hbefore => hinits before ((List.mem_inits before _).mpr hbefore)
  have readable : ((new .standard).run mailAgainActions).service.queue.backend.Readable := by
    constructor <;> decide +kernel
  have hstatus : (((new .standard).run mailAgainActions).service.hub.latest? .nil).map
      Event.status = some .completed := by
    decide +kernel
  obtain ⟨e, latest, hcompleted⟩ := Option.map_eq_some_iff.mp hstatus
  obtain ⟨job, -, hsame, hfinal⟩ := views_agree .standard mailAgainActions .nil e rests keeps latest
  obtain ⟨o, -, hvalue, herror, hlookup⟩ := hfinal (by rw [← hsame, hcompleted]; rfl)
  exact ⟨e, o, latest, hlookup readable, hcompleted, hvalue, herror⟩

end Plant

end JobRunner
