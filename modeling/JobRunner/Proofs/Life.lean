import JobRunner.Proofs.Custody
import Mathlib.Data.List.Pairwise

/-!
# The life of one job

Seen from one job, a plant is a sequential program, however its activities interleave.

- `Life`: the record of a job, its outcome, its post and what happened to it.
- `Life.Step`: the job is stored, an attempt of it begins, or an attempt makes a move.
- `Plant.Orderly.follows`: whatever happens in an orderly plant, the life of every job stands still
  or takes one such step.
-/

namespace JobRunner

/-! ## Lives -/

/-- Where a job is. -/
inductive Post where
  /-- Not stored yet. -/
  | absent
  /-- In a lane, or on its way to one or from one. -/
  | waiting
  | attempted (a : Attempt)
  /-- In nobody's hands and in no lane. -/
  | free

/-- Where a job is after a move of its attempt. -/
def Post.after (a : Attempt) : Attempt.Handover → Post
  | .none => if a.owns then .attempted a else .free
  | .lane | .timer _ => .waiting

/-- A job, apart from everything else in a plant. -/
@[ext]
structure Life where
  record : Option Job
  outcome : Option Outcome
  post : Post
  entries : List Entry

namespace Life

/-- A job that is not stored yet. -/
def unborn : Life := ⟨none, none, .absent, []⟩

/-- The steps of the life of a job. -/
inductive Step (id : JobId) : Life → Life → Prop
  | insert (job : Job) (isNew : job.IsNew) (hid : job.id = id) :
      Step id unborn ⟨some job, none, .waiting, [.inserted job]⟩
  | start {outcome js} (job : Job) (b : Backoff) (runnable : job.status.isRunnable = true)
      (hid : job.id = id) :
      Step id ⟨some job, outcome, .waiting, js⟩ ⟨some job, outcome, .attempted (.new job b), js⟩
  | move {record outcome js a a' es h} (move : Attempt.Move a a' es h) (owns : a.owns = true)
      (fits : a.Fits record outcome) (hid : a.job.id = id) :
      Step id ⟨some record, outcome, .attempted a, js⟩
        ⟨es.foldl Entry.onRecord (some record), es.foldl Entry.onOutcome outcome, .after a' h,
          js ++ es⟩

/-- The lives that a job can have. -/
inductive Lived (id : JobId) : Life → Prop
  | unborn : Lived id unborn
  | step {y y' : Life} (lived : Lived id y) (step : Step id y y') : Lived id y'

end Life

/-! ## The life of a job in a plant -/

namespace Plant

/-- A job is at a post. -/
def Keeps (p : Plant) (id : JobId) : Post → Prop
  | .absent => p.record? id = none
  | .waiting => (∃ t, p.service.queue.Waits t id) ∨ ∃ x ∈ p.actors, x.carries? = some id
  | .attempted a => a.job.id = id ∧ ∃ x ∈ p.actors, x.attempt? = some a
  | .free => p.record? id ≠ none ∧ (∀ x ∈ p.actors, x.holds? ≠ some id) ∧
      ∀ t, ¬p.service.queue.Waits t id

/-- The life of a job, if that is its post. -/
def life (p : Plant) (id : JobId) (post : Post) : Life :=
  ⟨p.record? id, p.outcome? id, post, p.history id⟩

/-- From one plant to the next, the life of a job stands still or takes one step. -/
def Follows (p p' : Plant) (id : JobId) (post : Post) : Prop :=
  ∃ post', p'.Keeps id post' ∧
    (p'.life id post' = p.life id post ∨ Life.Step id (p.life id post) (p'.life id post'))

variable {p p' : Plant} {id : JobId} {post post' : Post}

/-- Every job is at some post. -/
theorem exists_keeps (p : Plant) (id : JobId) : ∃ post, p.Keeps id post := by
  by_cases hnone : p.record? id = none
  · exact ⟨.absent, hnone⟩
  by_cases hwaits : ∃ t, p.service.queue.Waits t id
  · exact ⟨.waiting, .inl hwaits⟩
  by_cases hheld : ∃ x ∈ p.actors, x.holds? = some id
  · obtain ⟨x, hx, hid⟩ := hheld
    rcases Actor.carries?_or_attempt? hid with hc | ⟨a, ha, haid⟩
    · exact ⟨.waiting, .inr ⟨x, hx, hc⟩⟩
    · exact ⟨.attempted a, haid, x, hx, ha⟩
  · exact ⟨.free, hnone, fun x hx hid => hheld ⟨x, hx, hid⟩, fun t ht => hwaits ⟨t, ht⟩⟩

namespace Orderly

/-- Activities that have the same job in their hands are the same. -/
theorem eq_of_holds? (h : p.Orderly) {x y : Actor} (hx : x ∈ p.actors) (hy : y ∈ p.actors)
    (hxid : x.holds? = some id) (hyid : y.holds? = some id) : x = y := by
  by_contra hne
  exact h.apart.forall hx hy hne id hxid hyid

/-- An attempted job is stored, and attempted by nobody else. -/
theorem of_attempted (h : p.Orderly) {a : Attempt} (ha : p.Keeps id (.attempted a)) :
    p.record? id ≠ none ∧ ∀ a', p.Keeps id (.attempted a') → a = a' := by
  obtain ⟨haid, x, hx, ha⟩ := ha
  have hxid : x.holds? = some id := haid ▸ Actor.holds?_of_attempt? ha
  refine ⟨(h.informed x hx).stored hxid, fun a' ⟨haid', y, hy, ha'⟩ => ?_⟩
  obtain rfl := h.eq_of_holds? hx hy hxid (haid' ▸ Actor.holds?_of_attempt? ha')
  rw [ha] at ha'
  exact Option.some.inj ha'

/-- A waiting job is stored, and nobody attempts it. -/
theorem of_waiting (h : p.Orderly) (hw : p.Keeps id .waiting) :
    p.record? id ≠ none ∧ ∀ a, ¬p.Keeps id (.attempted a) := by
  rcases hw with ⟨t, ht⟩ | ⟨x, hx, hc⟩
  · obtain ⟨job, hjob, -⟩ := h.posted t id ht
    refine ⟨fun hnone => ?_, fun a ⟨haid, y, hy, ha⟩ => ?_⟩
    · rw [record?, hjob] at hnone
      cases hnone
    · exact h.unheld t id ht y hy (haid ▸ Actor.holds?_of_attempt? ha)
  · have hxid := Actor.holds?_of_carries?_eq_some hc
    refine ⟨(h.informed x hx).stored hxid, fun a ⟨haid, y, hy, ha⟩ => ?_⟩
    obtain rfl := h.eq_of_holds? hx hy hxid (haid ▸ Actor.holds?_of_attempt? ha)
    rw [Actor.carries?_of_attempt? ha] at hc
    cases hc

/-- A job is at one post only. -/
theorem keeps_unique (h : p.Orderly) (hpost : p.Keeps id post) (hpost' : p.Keeps id post') :
    post = post' := by
  have hfree : ∀ {a}, p.Keeps id .free → ¬p.Keeps id (.attempted a) := by
    rintro a ⟨-, hheld, -⟩ ⟨haid, x, hx, ha⟩
    exact hheld x hx (haid ▸ Actor.holds?_of_attempt? ha)
  have hidle : p.Keeps id .free → ¬p.Keeps id .waiting := by
    rintro ⟨-, hheld, hwaits⟩ (⟨t, ht⟩ | ⟨x, hx, hc⟩)
    · exact hwaits t ht
    · exact hheld x hx (Actor.holds?_of_carries?_eq_some hc)
  -- each post excludes the others: absent by the record, the rest by whose hands the job is in
  cases post with
  | absent =>
    cases post' with
    | absent => rfl
    | waiting => exact absurd hpost (h.of_waiting hpost').1
    | attempted a => exact absurd hpost (h.of_attempted hpost').1
    | free => exact absurd hpost hpost'.1
  | waiting =>
    cases post' with
    | absent => exact absurd hpost' (h.of_waiting hpost).1
    | waiting => rfl
    | attempted a => exact absurd hpost' ((h.of_waiting hpost).2 a)
    | free => exact absurd hpost (hidle hpost')
  | attempted a =>
    cases post' with
    | absent => exact absurd hpost' (h.of_attempted hpost).1
    | waiting => exact absurd hpost ((h.of_waiting hpost').2 a)
    | attempted a' => exact congrArg _ ((h.of_attempted hpost).2 a' hpost')
    | free => exact absurd hpost (hfree hpost')
  | free =>
    cases post' with
    | absent => exact absurd hpost' hpost.1
    | waiting => exact absurd hpost' (hidle hpost)
    | attempted a => exact absurd hpost' (hfree hpost)
    | free => rfl

/-! ### One step of one activity -/

/-- What a step of an activity leaves of the others. -/
private theorem mem_after {i : Nat} {x : Actor} (hx : p.actors[i]? = some x) (x' : Actor)
    (service : Service) (added : Option RetryTimer) (es : List Entry) :
    (x' ∈ (p.replace i x' service added es).actors ∧
      ∀ r, added = some r → Actor.timer r ∈ (p.replace i x' service added es).actors) ∧
    (∀ y ∈ p.actors, y = x ∨ y ∈ (p.replace i x' service added es).actors) ∧
    ∀ y ∈ (p.replace i x' service added es).actors,
      y ∈ p.actors ∨ y = x' ∨ ∃ r, added = some r ∧ y = .timer r := by
  obtain ⟨others, hperm, hperm'⟩ := exists_others hx x' service added es
  refine ⟨⟨?_, fun r hr => ?_⟩, fun y hy => ?_, fun y hy => ?_⟩
  · exact hperm'.mem_iff.mpr List.mem_cons_self
  · exact hperm'.mem_iff.mpr (by simp [hr])
  · rcases List.mem_cons.mp (hperm.mem_iff.mp hy) with rfl | hy
    · exact .inl rfl
    · exact .inr (hperm'.mem_iff.mpr (by simp [hy]))
  · have hmem := hperm'.mem_iff.mp hy
    simp only [List.mem_cons, List.mem_append, Option.mem_toList, Option.map_eq_some_iff] at hmem
    rcases hmem with rfl | ⟨r, hr, rfl⟩ | hy
    · exact .inr (.inl rfl)
    · exact .inr (.inr ⟨r, hr, rfl⟩)
    · exact .inl (hperm.mem_iff.mpr (List.mem_cons_of_mem x hy))

/-- A job stays at its post if its holder and the lanes keep it. -/
private theorem keeps_of_still (same : p'.record? id = p.record? id)
    (waits : ∀ t, p'.service.queue.Waits t id ↔ p.service.queue.Waits t id)
    (holders : ∀ y ∈ p.actors, y.holds? = some id →
      ∃ y' ∈ p'.actors, y'.carries? = y.carries? ∧ y'.attempt? = y.attempt?)
    (nobody : ∀ y' ∈ p'.actors, y'.holds? = some id → ∃ y ∈ p.actors, y.holds? = some id)
    (hpost : p.Keeps id post) : p'.Keeps id post := by
  cases post with
  | absent => exact same.trans hpost
  | waiting =>
    rcases hpost with ⟨t, ht⟩ | ⟨x, hx, hc⟩
    · exact .inl ⟨t, (waits t).mpr ht⟩
    · obtain ⟨y, hy, hcy, -⟩ := holders x hx (Actor.holds?_of_carries?_eq_some hc)
      exact .inr ⟨y, hy, hcy.trans hc⟩
  | attempted a =>
    obtain ⟨haid, x, hx, ha⟩ := hpost
    obtain ⟨y, hy, -, hay⟩ := holders x hx (haid ▸ Actor.holds?_of_attempt? ha)
    exact ⟨haid, y, hy, hay.trans ha⟩
  | free =>
    obtain ⟨hstored, hheld, hwaits⟩ := hpost
    refine ⟨fun hnone => hstored (same.symm.trans hnone), fun y hy hid => ?_, fun t ht => ?_⟩
    · obtain ⟨x, hx, hxid⟩ := nobody y hy hid
      exact hheld x hx hxid
    · exact hwaits t ((waits t).mp ht)

section

variable {i : Nat} {x x' : Actor} {service : Service} {added : Option RetryTimer} {es : List Entry}

/-- Entries about other jobs leave the life of a job as it is. -/
private theorem life_of_ne (effect : Actor.Effect x p.service x' service added es)
    (hne : ∀ e ∈ es, e.jobId ≠ id) (post : Post) :
    (p.replace i x' service added es).life id post = p.life id post := by
  obtain ⟨hrecord, houtcome⟩ := Entry.foldl_onStore_of_ne es p.service.store id hne
  rw [← effect.store] at hrecord houtcome
  have hhistory : (p.replace i x' service added es).history id = p.history id := by
    rw [history_replace, List.filter_eq_nil_iff.mpr, List.append_nil]
    exact fun e he => by simpa using hne e he
  exact Life.ext hrecord houtcome rfl hhistory

/-- Entries about a job change its life as they say. -/
private theorem life_of_eq (effect : Actor.Effect x p.service x' service added es)
    (heq : ∀ e ∈ es, e.jobId = id) (post : Post) :
    (p.replace i x' service added es).life id post =
      ⟨es.foldl Entry.onRecord (p.record? id), es.foldl Entry.onOutcome (p.outcome? id), post,
        p.history id ++ es⟩ := by
  have hrecord := Entry.job?_foldl_onStore es p.service.store id heq
  have houtcome := Entry.outcome?_foldl_onStore es p.service.store id heq
  rw [← effect.store] at hrecord houtcome
  have hhistory : (p.replace i x' service added es).history id = p.history id ++ es := by
    rw [history_replace, List.filter_eq_self.mpr]
    exact fun e he => by simpa using heq e he
  exact Life.ext hrecord houtcome rfl hhistory

/-- A job in other hands, or in none, stays at its post. -/
private theorem keeps_of_untouched (hx : p.actors[i]? = some x)
    (effect : Actor.Effect x p.service x' service added es) (hne : ∀ e ∈ es, e.jobId ≠ id)
    (unheld : x.holds? ≠ some id) (unheld' : x'.holds? ≠ some id)
    (waits : ∀ t, service.queue.Waits t id ↔ p.service.queue.Waits t id)
    (hpost : p.Keeps id post) : (p.replace i x' service added es).Keeps id post := by
  obtain ⟨-, hstays, hfrom⟩ := mem_after hx x' service added es
  refine keeps_of_still ?_ waits (fun y hy hid => ?_) (fun y hy hid => ?_) hpost
  · exact congrArg Life.record (life_of_ne effect hne .absent)
  · rcases hstays y hy with rfl | hy'
    · exact absurd hid unheld
    · exact ⟨y, hy', rfl, rfl⟩
  · rcases hfrom y hy with hy' | rfl | ⟨r, rfl, rfl⟩
    · exact ⟨y, hy', hid⟩
    · exact absurd hid unheld'
    · exact absurd (effect.transfer.timed hid).1 unheld

/-- A job that an activity gives away is in nobody's hands. -/
private theorem nobody_after (h : p.Orderly) (hx : p.actors[i]? = some x) (service : Service)
    (es : List Entry) (hxid : x.holds? = some id) (gone : x'.holds? ≠ some id) :
    ∀ y ∈ (p.replace i x' service none es).actors, y.holds? ≠ some id := by
  obtain ⟨others, hperm, hperm'⟩ := exists_others hx x' service none es
  have hapart := h.apart.perm hperm Actor.Apart.symm
  rw [List.pairwise_cons] at hapart
  intro y hy
  rcases List.mem_cons.mp (hperm'.mem_iff.mp hy) with rfl | hy
  · exact gone
  · exact hapart.1 y hy id hxid

/-- A move of an attempt is a step of the life of its job. -/
private theorem life_of_move (h : p.Orderly) (hx : p.actors[i]? = some x)
    {a a' : Attempt} {hand : Attempt.Handover}
    (effect : Actor.Effect x p.service x' service (hand.timer? a.job) es)
    (move : Attempt.Move a a' es hand) (attempt : x.attempt? = some a)
    (carries' : x'.carries? = none) (attempt' : x'.attempt? = if a'.owns then some a' else none)
    (waits : ∀ t id, service.queue.Waits t id ↔
      p.service.queue.Waits t id ∨ (hand = .lane ∧ t = a.job.jobType ∧ id = a.job.id))
    (hid : a.job.id = id) :
    (p.replace i x' service (hand.timer? a.job) es).Keeps id (.after a' hand) ∧
      Life.Step id (p.life id (.attempted a))
        ((p.replace i x' service (hand.timer? a.job) es).life id (.after a' hand)) := by
  have hmem : x ∈ p.actors := List.mem_of_getElem? hx
  obtain ⟨howns, -⟩ := Actor.attempt?_eq_some attempt
  obtain ⟨record, hrecord, hfits⟩ := (h.informed x hmem).attempt attempt
  have hxid : x.holds? = some id := hid ▸ Actor.holds?_of_attempt? attempt
  obtain ⟨⟨hx', htimer⟩, -, hfrom⟩ := mem_after hx x' service (hand.timer? a.job) es
  -- first who keeps the job afterwards, then how its life goes on
  constructor
  · cases hand with
    | none =>
      show (p.replace i x' service none es).Keeps id (if a'.owns then .attempted a' else .free)
      split
      · next howns' =>
        rw [if_pos howns'] at attempt'
        exact ⟨move.job_id.trans hid, x', hx', attempt'⟩
      · next howns' =>
        rw [if_neg howns'] at attempt'
        -- the attempt was the only one to have the job
        have hstored : p.record? id ≠ none := by
          rw [record?, ← hid, hrecord]
          exact Option.some_ne_none record
        refine ⟨?_, h.nobody_after hx service es hxid ?_, fun t ht => ?_⟩
        · rw [record?, show (p.replace i x' service none es).service = service from rfl,
            effect.store]
          exact Entry.stored_foldl_onStore es (.inl hstored)
        · rw [Actor.holds?_of_carries? attempt', carries']
          exact Option.some_ne_none id ∘ Eq.symm
        · rcases (waits t id).mp ht with hold | ⟨hc, -⟩
          · exact h.unheld t id hold x hmem hxid
          · cases hc
    | lane => exact .inl ⟨a.job.jobType, (waits _ id).mpr (.inr ⟨rfl, rfl, hid.symm⟩)⟩
    | timer due => exact .inr ⟨_, htimer _ rfl, congrArg some hid⟩
  · rw [life_of_eq effect fun e he => (move.entry_jobId hfits e he).trans hid]
    have hrecord : p.record? id = some record := hid ▸ hrecord
    have houtcome : p.service.store.outcome? a.job.id = p.outcome? id := hid ▸ rfl
    rw [houtcome] at hfits
    unfold life
    rw [hrecord]
    exact .move move howns hfits hid

private theorem follows_of_untouched (hx : p.actors[i]? = some x)
    (effect : Actor.Effect x p.service x' service added es) (hne : ∀ e ∈ es, e.jobId ≠ id)
    (unheld : x.holds? ≠ some id) (unheld' : x'.holds? ≠ some id)
    (waits : ∀ t, service.queue.Waits t id ↔ p.service.queue.Waits t id)
    (hpost : p.Keeps id post) : p.Follows (p.replace i x' service added es) id post :=
  ⟨post, keeps_of_untouched hx effect hne unheld unheld' waits hpost,
    .inl (life_of_ne effect hne post)⟩

private theorem follows_insert (h : p.Orderly) (hx : p.actors[i]? = some x) {job : Job}
    (effect : Actor.Effect x p.service x' service none [.inserted job]) (isNew : job.IsNew)
    (fresh : p.service.store.job? job.id = none) (carries : x'.carries? = some job.id)
    (hpost : p.Keeps job.id post) :
    p.Follows (p.replace i x' service none [.inserted job]) job.id post := by
  obtain ⟨⟨hx', -⟩, -⟩ := mem_after hx x' service none [.inserted job]
  obtain rfl := h.keeps_unique hpost (show p.Keeps job.id .absent from fresh)
  obtain ⟨houtcome, hhistory⟩ := h.blank job.id fresh
  refine ⟨.waiting, .inr ⟨x', hx', carries⟩, .inr ?_⟩
  rw [life_of_eq effect fun e he => by rw [List.mem_singleton.mp he]; rfl]
  unfold life
  rw [houtcome, hhistory, show p.record? job.id = none from fresh]
  exact .insert job isNew rfl

private theorem follows_quiet (hx : p.actors[i]? = some x)
    (effect : Actor.Effect x p.service x' service none []) (carries : x'.carries? = x.carries?)
    (attempt : x'.attempt? = x.attempt?)
    (waits : ∀ t id, service.queue.Waits t id ↔ p.service.queue.Waits t id)
    (hpost : p.Keeps id post) : p.Follows (p.replace i x' service none []) id post := by
  obtain ⟨⟨hx', -⟩, hstays, hfrom⟩ := mem_after hx x' service none []
  have still : ∀ post, (p.replace i x' service none []).life id post = p.life id post :=
    life_of_ne effect fun e he => absurd he List.not_mem_nil
  refine ⟨post, ?_, .inl (still post)⟩
  refine keeps_of_still (congrArg Life.record (still .absent)) (waits · id)
    (fun y hy hid => ?_) (fun y hy hid => ?_) hpost
  · rcases hstays y hy with rfl | hy'
    · exact ⟨x', hx', carries, attempt⟩
    · exact ⟨y, hy', rfl, rfl⟩
  · rcases hfrom y hy with hy' | rfl | ⟨r, hr, -⟩
    · exact ⟨y, hy', hid⟩
    · exact ⟨x, List.mem_of_getElem? hx, (Actor.holds?_congr carries attempt).symm.trans hid⟩
    · cases hr

/-- The step of an activity is a step in the life of at most one job. -/
private theorem follows_replace (h : p.Orderly) (hx : p.actors[i]? = some x)
    (effect : Actor.Effect x p.service x' service added es) (hpost : p.Keeps id post) :
    p.Follows (p.replace i x' service added es) id post := by
  have hmem : x ∈ p.actors := List.mem_of_getElem? hx
  obtain ⟨⟨hx', -⟩, -⟩ := mem_after hx x' service added es
  have other : ∀ {id₀ : JobId}, id₀ ≠ id → some id₀ ≠ some id := fun hne => hne ∘ Option.some.inj
  have nobody : none ≠ some id := Option.some_ne_none id ∘ Eq.symm
  have nothing : ∀ e ∈ ([] : List Entry), e.jobId ≠ id := fun e he => absurd he List.not_mem_nil
  -- the job that passes from hand to hand may be this one, or another, which leaves this one alone
  cases effect.transfer with
  | quiet carries attempt waits => exact follows_quiet hx effect carries attempt waits hpost
  | insert job isNew fresh empty carries attempt waits =>
    by_cases hid : job.id = id
    · subst hid
      exact h.follows_insert hx effect isNew fresh carries hpost
    · have hne : ∀ e ∈ [Entry.inserted job], e.jobId ≠ id :=
        fun e he => by rw [List.mem_singleton.mp he]; exact hid
      refine follows_of_untouched hx effect hne ?_ ?_ (waits · id) hpost
      · rw [empty]
        exact nobody
      · rw [Actor.holds?_of_carries? attempt, carries]
        exact other hid
  | push job stored runnable carries attempt empty waits =>
    by_cases hid : job.id = id
    · subst hid
      have hwaiting : p.Keeps job.id .waiting := .inr ⟨x, hmem, carries⟩
      obtain rfl := h.keeps_unique hpost hwaiting
      exact ⟨.waiting, .inl ⟨job.jobType, (waits _ _).mpr (.inr ⟨rfl, rfl⟩)⟩,
        .inl (life_of_ne effect (fun e he => absurd he List.not_mem_nil) .waiting)⟩
    · refine follows_of_untouched hx effect nothing ?_ ?_ (fun t => ?_) hpost
      · rw [Actor.holds?_of_carries? attempt, carries]
        exact other hid
      · rw [empty]
        exact nobody
      · rw [waits]
        exact or_iff_left fun hc => hid hc.2.symm
  | pop t₀ id₀ empty carries attempt waited waits =>
    by_cases hid : id₀ = id
    · subst hid
      have hwaiting : p.Keeps id₀ .waiting := .inl ⟨t₀, waited⟩
      obtain rfl := h.keeps_unique hpost hwaiting
      exact ⟨.waiting, .inr ⟨x', hx', carries⟩, .inl (life_of_ne effect nothing .waiting)⟩
    · refine follows_of_untouched hx effect nothing ?_ ?_ (fun t => ?_) hpost
      · rw [empty]
        exact nobody
      · rw [Actor.holds?_of_carries? attempt, carries]
        exact other hid
      · rw [waits]
        exact and_iff_left fun hc => hid hc.2.symm
  | start job b stored runnable carries attempt attempt' waits =>
    by_cases hid : job.id = id
    · subst hid
      have hwaiting : p.Keeps job.id .waiting := .inr ⟨x, hmem, carries⟩
      obtain rfl := h.keeps_unique hpost hwaiting
      refine ⟨.attempted (.new job b), ⟨rfl, x', hx', attempt'⟩, .inr ?_⟩
      rw [life_of_ne effect nothing]
      unfold life
      rw [show p.record? job.id = some job from stored]
      exact .start job b runnable rfl
    · refine follows_of_untouched hx effect nothing ?_ ?_ (waits · id) hpost
      · rw [Actor.holds?_of_carries? attempt, carries]
        exact other hid
      · rw [Actor.holds?_of_attempt? attempt']
        exact other hid
  | @move a a' es hand move attempt carries' attempt' waits =>
    by_cases hid : a.job.id = id
    · have hattempted : p.Keeps id (.attempted a) := ⟨hid, x, hmem, attempt⟩
      obtain rfl := h.keeps_unique hpost hattempted
      obtain ⟨hkeeps, hstep⟩ := h.life_of_move hx effect move attempt carries' attempt' waits hid
      exact ⟨_, hkeeps, .inr hstep⟩
    · obtain ⟨record, -, hfits⟩ := (h.informed x hmem).attempt attempt
      have hxid : x.holds? ≠ some id := by
        rw [Actor.holds?_of_attempt? attempt]
        exact other hid
      refine follows_of_untouched hx effect (fun e he => ?_) hxid ?_ (fun t => ?_) hpost
      · rw [move.entry_jobId hfits e he]
        exact hid
      · rw [Actor.holds?_of_move move attempt carries' attempt']
        split
        · exact hxid
        · exact nobody
      · rw [waits]
        exact or_iff_left fun hc => hid hc.2.2.symm

end

/-! ### All that can happen -/

/-- Somebody who comes with empty hands changes the life of no job. -/
private theorem follows_join {x : Actor} (empty : x.holds? = none) (hpost : p.Keeps id post) :
    p.Follows { p with actors := p.actors ++ [x] } id post := by
  refine ⟨post, ?_, .inl rfl⟩
  refine keeps_of_still (p := p) rfl (fun _ => Iff.rfl) (fun y hy hid => ?_) (fun y hy hid => ?_)
    hpost
  · exact ⟨y, List.mem_append_left [x] hy, rfl, rfl⟩
  · rcases List.mem_append.mp hy with hy | hy
    · exact ⟨y, hy, hid⟩
    · rw [List.mem_singleton.mp hy, empty] at hid
      cases hid

/-- Whatever happens, the life of a job stands still or takes one step. -/
theorem follows (h : p.Orderly) (act : Action) (hpost : p.Keeps id post) :
    p.Follows (p.step act) id post := by
  have still : p.Follows p id post := ⟨post, hpost, .inl rfl⟩
  cases act with
  | enqueue | hire => exact follows_join rfl hpost
  | advance i t =>
    simp only [Plant.step]
    split
    · next x hx => exact h.follows_replace hx (h.advance_effect hx t) hpost
    · exact still
  | report i clock r =>
    simp only [Plant.step]
    split
    · next x hx => exact h.follows_replace hx (h.report_effect hx clock r) hpost
    · exact still
  | plan | visit => exact still

/-- A run continues the life of a job. -/
theorem lived_run (h : p.Orderly) (hpost : p.Keeps id post) (lived : Life.Lived id (p.life id post))
    (actions : List Action) :
    ∃ post', (p.run actions).Keeps id post' ∧ Life.Lived id ((p.run actions).life id post') := by
  -- on the actions; the post goes along with the plant
  induction actions generalizing p post with
  | nil => exact ⟨post, hpost, lived⟩
  | cons act actions ih =>
    obtain ⟨post', hpost', hlife | hstep⟩ := h.follows act hpost
    · exact ih (h.step act) hpost' (hlife ▸ lived)
    · exact ih (h.step act) hpost' (lived.step hstep)

end Orderly

/-- In every plant that began empty, the life of every job is one that a job can have. -/
theorem exists_lived (settings : ServiceSettings) (actions : List Action) (id : JobId) :
    ∃ post, ((new settings).run actions).Keeps id post ∧
      Life.Lived id (((new settings).run actions).life id post) := by
  have hnone : (new settings).record? id = none := Store.job?_empty id
  have hunborn : (new settings).life id .absent = .unborn :=
    Life.ext hnone (Store.outcome?_empty id) rfl rfl
  exact (orderly_new settings).lived_run (show (new settings).Keeps id .absent from hnone)
    (hunborn ▸ .unborn) actions

end Plant

end JobRunner
