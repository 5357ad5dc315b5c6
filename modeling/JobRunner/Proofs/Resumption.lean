import JobRunner.Proofs.Refill
import Mathlib.Algebra.BigOperators.Group.Finset.Basic

/-!
# Recoveries that are broken off

A recovery goes through its types one after the other, and the first call of the store that fails
ends it. Whoever makes it again goes on from what it finds.

- `Queue.Full`: no job of a type is an orphan, and the runnable ones wait.
- `Queue.Underway`: the lane of every type is as it was, or the type has been recovered. Every
  recovery leaves that, whether or not it comes to its end, and so do several of them.
- `Queue.Recovered`: what a recovery leaves that comes to its end.
- `Queue.Tried`: a recovery has failed some times.
- `Queue.recovers`: a recovery leaves what it should, again it does nothing, and after any number of
  failures it leaves the same.
-/

namespace JobRunner

/-! ## Calls that do not fail -/

namespace Backend

variable {α : Type} {b : Backend} {c c' : StoreCall}
  {act : Store → Except StoreError (α × Store)}

/-- None of the coming calls that a recovery makes is going to fail. -/
structure Reliable (b : Backend) : Prop where
  lists : true ∉ b.plan .listByType
  updates : true ∉ b.plan .updateJob

private theorem call_go (b : Backend) :
    (call.go act b).1 = (act b.store).map Prod.fst ∧ (call.go act b).2.plan = b.plan := by
  unfold call.go
  cases act b.store <;> exact ⟨rfl, rfl⟩

/-- A call that is not planned to fail answers as the store does. -/
theorem call_of_not_mem (h : true ∉ b.plan c) : (b.call c act).1 = (act b.store).map Prod.fst := by
  unfold call
  split
  · next rest hplan => exact absurd (hplan ▸ List.mem_cons_self) h
  · next rest hplan => exact (call_go (b.setPlan c rest)).1
  · exact (call_go b).1

/-- No failures are added to a plan. -/
theorem not_mem_plan_call (h : true ∉ b.plan c') : true ∉ (b.call c act).2.plan c' := by
  have hset : ∀ {x : Bool} {rest : List Bool}, b.plan c = x :: rest →
      true ∉ (b.setPlan c rest).plan c' := by
    intro x rest hplan
    unfold setPlan
    dsimp only
    split
    · next hc =>
      rw [hc, hplan] at h
      exact fun hmem => h (List.mem_cons_of_mem x hmem)
    · exact h
  unfold call
  split
  · next rest hplan => exact hset hplan
  · next rest hplan =>
    rw [(call_go (b.setPlan c rest)).2]
    exact hset hplan
  · rw [(call_go b).2]
    exact h

theorem Reliable.call (h : b.Reliable) : (b.call c act).2.Reliable :=
  ⟨not_mem_plan_call h.lists, not_mem_plan_call h.updates⟩

end Backend

namespace Queue

variable {clock clock' : JobId → Instant} {types types' : List String} {q q' q₁ q₂ : Queue}
  {t : String} {added : List Job} {n : Nat}

/-- With a reliable store all orphans are revived. -/
theorem revive_reliable (clock : JobId → Instant) (jobs : List Job) (q : Queue)
    (hw : q.backend.Reliable) (stored : ∀ job ∈ jobs, q.backend.store.job? job.id ≠ none) :
    (revive clock jobs q).1 = .ok () ∧ (revive clock jobs q).2.backend.Reliable := by
  induction jobs generalizing q with
  | nil => exact ⟨rfl, hw⟩
  | cons job jobs ih =>
    have hcall : (q.backend.updateJob (job.moved .retrying (clock job.id))).1 =
        (((q.backend.store.update? (job.moved .retrying (clock job.id))).map
          fun s => ((), s)).map Prod.fst) := Backend.call_of_not_mem hw.updates
    have hupdate : q.backend.store.update? (job.moved .retrying (clock job.id)) =
        .ok (q.backend.store.put (job.moved .retrying (clock job.id))) :=
      Store.update?_eq_ok_iff.mpr ⟨stored job List.mem_cons_self, rfl⟩
    have hreliable : (q.backend.updateJob (job.moved .retrying (clock job.id))).2.Reliable :=
      hw.call
    unfold revive
    rcases hu : q.backend.updateJob { job with status := .retrying, updatedAt := clock job.id } with
      ⟨e | u, b⟩
    · have herror : (q.backend.updateJob (job.moved .retrying (clock job.id))).1 = .error e :=
        congrArg Prod.fst hu
      rw [herror, hupdate] at hcall
      cases hcall
    · have hb : (q.backend.updateJob (job.moved .retrying (clock job.id))).2 = b :=
        congrArg Prod.snd hu
      rw [hb] at hreliable
      -- nothing is taken out of the store, so the jobs that follow are still there
      refine ih { q with backend := b } hreliable fun x hx => ?_
      show b.store.job? x.id ≠ none
      rw [(Backend.updateJob_ok hu).2, Store.job?_put]
      split
      · exact Option.some_ne_none _
      · exact stored x (List.mem_cons_of_mem job hx)

/-- A recovery comes to its end if no call fails. -/
theorem recoverType_reliable (hk : q.backend.store.Keyed) (hw : q.backend.Reliable)
    (clock : JobId → Instant) (t : String) :
    (∃ n, (recoverType clock t q).1 = .ok n) ∧ (recoverType clock t q).2.backend.Reliable := by
  have hlist : ∀ (status : Option Status) {b : Backend}, b.Reliable →
      (b.listByType t status).1 = .ok (b.store.listByType t status) ∧
        (b.listByType t status).2.Reliable :=
    fun _ _ hw => ⟨Backend.call_of_not_mem hw.lists, hw.call⟩
  obtain ⟨hok, hreliable⟩ := hlist (some .processing) hw
  unfold recoverType
  rcases hl : q.backend.listByType t (some .processing) with ⟨e | orphans, b⟩
  · rw [hl] at hok
    cases hok
  · rw [hl] at hreliable
    obtain ⟨rfl, hb⟩ := Backend.listByType_ok hl
    have hstored : ∀ job ∈ q.backend.store.listByType t (some .processing),
        b.store.job? job.id ≠ none := by
      intro job hjob
      rw [hb, ((Store.mem_listByType hk).mp hjob).1]
      exact Option.some_ne_none job
    obtain ⟨hrevived, hrevive⟩ := revive_reliable clock _ { q with backend := b } hreliable hstored
    rcases hr : revive clock (q.backend.store.listByType t (some .processing))
      { q with backend := b } with ⟨e | u, q₁⟩
    · rw [hr] at hrevived
      cases hrevived
    · rw [hr] at hrevive
      obtain ⟨hok', hreliable'⟩ := hlist none hrevive
      dsimp only
      rw [hr]
      dsimp only
      rcases hl' : q₁.backend.listByType t none with ⟨e | jobs, b'⟩
      · rw [hl'] at hok'
        cases hok'
      · rw [hl'] at hreliable'
        refine ⟨⟨_, rfl⟩, ?_⟩
        show (appendRunnable jobs { q₁ with backend := b' }).2.backend.Reliable
        rw [backend_appendRunnable]
        exact hreliable'

/-! ## Types that have been recovered -/

/-- No job of a type is processing, and all that are runnable wait. -/
structure Full (q : Queue) (t : String) : Prop where
  settled : ∀ id job, q.backend.store.job? id = some job → job.jobType = t →
    job.status ≠ .processing
  waiting : ∀ id job, q.backend.store.job? id = some job → job.jobType = t →
    job.status.isRunnable = true → q.Waits t id

/-- Which calls of the store are going to fail does not matter. -/
theorem Full.ofBackend {b : Backend} (h : q.Full t) (same : b.store = q.backend.store) :
    ({ q with backend := b } : Queue).Full t :=
  ⟨fun id job hjob => h.settled id job (same ▸ hjob),
    fun id job hjob => h.waiting id job (same ▸ hjob)⟩

/-- Recoveries of some types have been begun, and perhaps broken off: the lane of every type is as
it was, or has got all that it lacked. -/
structure Underway (types : List String) (q q' : Queue) : Prop where
  store : q.backend.store.PartlyRevived types q'.backend.store
  lanes : ∀ t, q'.lanes[t]? = q.lanes[t]? ∨
    t ∈ types ∧ q'.Full t ∧ ∃ added, q.Refilled q' t added
  settings : q'.settings = q.settings
  sound : q'.Sound

/-- The records of a type without orphans are not revived again. -/
theorem Full.record_iff (h : q.Full t) {s' : Store}
    (hstore : q.backend.store.PartlyRevived types s') {id : JobId} {job : Job}
    (htype : job.jobType = t) :
    s'.job? id = some job ↔ q.backend.store.job? id = some job := by
  rcases hstore.jobs id with hsame | ⟨clock, hrevived⟩
  · rw [hsame]
  · rw [hrevived]
    cases hjob : q.backend.store.job? id with
    | none => exact Iff.rfl
    | some job₀ =>
      rw [Option.map_some, Option.some.injEq, Option.some.injEq]
      by_cases htype₀ : job₀.jobType = t
      · rw [Job.revived_of_not_orphan fun horphan => h.settled id job₀ hjob htype₀ horphan.2]
      · refine iff_of_false (fun heq => htype₀ ?_) (fun heq => htype₀ (heq ▸ htype))
        rw [← htype, ← heq, Job.revived_jobType]

namespace Refilled

/-- The lane was the same before. -/
theorem of_lane (h : q₁.Refilled q' t added) (hlane : q₁.lanes[t]? = q.lanes[t]?) :
    q.Refilled q' t added := by
  have hsame := lane_eq_of_getElem? hlane
  refine ⟨?_, ?_, fun job => ?_, h.sorted⟩
  · rw [h.ids, hsame]
  · rw [h.lane, hsame, hlane]
  · rw [h.mem, Waits, Waits, hsame]

/-- The lane is the same later on, and so are the records of its type. -/
theorem onward (h : q.Refilled q₁ t added) (hlane : q₂.lanes[t]? = q₁.lanes[t]?)
    (hrecord : ∀ {id : JobId} {job : Job}, job.jobType = t →
      (q₂.backend.store.job? id = some job ↔ q₁.backend.store.job? id = some job)) :
    q.Refilled q₂ t added := by
  refine ⟨?_, hlane.trans h.lane, fun job => ?_, h.sorted⟩
  · rw [lane_eq_of_getElem? hlane, h.ids]
  · rw [h.mem]
    exact ⟨fun ⟨hjob, htype, hrest⟩ => ⟨(hrecord htype).mpr hjob, htype, hrest⟩,
      fun ⟨hjob, htype, hrest⟩ => ⟨(hrecord htype).mp hjob, htype, hrest⟩⟩

/-- Nothing is missing in the lane of a type that has been recovered. -/
theorem lanes_eq_of_full (h : q.Refilled q' t added) (hf : q.Full t)
    (hstore : q.backend.store.PartlyRevived types q'.backend.store) :
    q'.lanes[t]? = q.lanes[t]? := by
  have hnone : added = [] := by
    refine List.eq_nil_iff_forall_not_mem.mpr fun job hjob => ?_
    obtain ⟨hstored, htype, hrun, hnew⟩ := (h.mem job).mp hjob
    exact hnew (hf.waiting job.id job ((hf.record_iff hstore htype).mp hstored) htype hrun)
  rw [h.lane, if_pos hnone]

/-- A refill takes nobody out of its lane. -/
theorem waits_of_waits (h : q.Refilled q' t added) {id : JobId} (hwaits : q.Waits t id) :
    q'.Waits t id := by
  rw [Waits, h.ids]
  exact List.mem_append_left _ hwaits

/-- A lane grows by what is added to it. -/
theorem depth_eq (h : q.Refilled q' t added) : q'.depth t = q.depth t + added.length := by
  have hids := congrArg List.length h.ids
  rw [List.length_append, List.length_map] at hids
  exact hids

end Refilled

namespace Underway

theorem refl (hs : q.Sound) (types : List String) : Underway types q q :=
  ⟨.refl types _, fun _ => .inl rfl, rfl, hs⟩

/-- A queue that is under way for some types is under way for more. -/
theorem mono (h : Underway types q q') (hsub : ∀ t ∈ types, t ∈ types') :
    Underway types' q q' :=
  ⟨h.store.mono hsub, fun t => (h.lanes t).imp_right fun ⟨ht, hrest⟩ => ⟨hsub t ht, hrest⟩,
    h.settings, h.sound⟩

/-- A type that has been recovered stays so. -/
theorem full (h : Underway types q q') (hf : q.Full t) : q'.Full t where
  settled id job hjob htype := hf.settled id job ((hf.record_iff h.store htype).mp hjob) htype
  waiting id job hjob htype hrun := by
    have hwaits := hf.waiting id job ((hf.record_iff h.store htype).mp hjob) htype hrun
    rcases h.lanes t with hsame | ⟨-, -, added, hrefilled⟩
    · rw [Waits, lane_eq_of_getElem? hsame]
      exact hwaits
    · exact hrefilled.waits_of_waits hwaits

/-- What was begun is taken up again. -/
theorem trans (h : Underway types q q₁) (h' : Underway types q₁ q₂) : Underway types q q₂ := by
  refine ⟨h.store.trans h'.store, fun t => ?_, h'.settings.trans h.settings, h'.sound⟩
  have hafter : ∀ {added : List Job}, t ∈ types → q₁.Full t → q.Refilled q₁ t added →
      q₂.lanes[t]? = q₁.lanes[t]? →
      t ∈ types ∧ q₂.Full t ∧ ∃ added, q.Refilled q₂ t added :=
    fun ht hf hrefilled hsame => ⟨ht, h'.full hf, _, hrefilled.onward hsame fun htype =>
      hf.record_iff h'.store htype⟩
  rcases h.lanes t with hsame | ⟨ht, hf, added, hrefilled⟩
  · rcases h'.lanes t with hsame' | ⟨ht, hf, added, hrefilled⟩
    · exact .inl (hsame'.trans hsame)
    · exact .inr ⟨ht, hf, added, hrefilled.of_lane hsame⟩
  · rcases h'.lanes t with hsame' | ⟨-, -, added', hrefilled'⟩
    · exact .inr (hafter ht hf hrefilled hsame')
    · -- the type had been recovered already, so that nothing was missing
      exact .inr (hafter ht hf hrefilled (hrefilled'.lanes_eq_of_full hf h'.store))

/-- A recovered type has got what it lacked, even if that is nothing. -/
theorem refilled (h : Underway types q q') (hf : q'.Full t) :
    ∃ added, q.Refilled q' t added := by
  rcases h.lanes t with hsame | ⟨-, -, hrefilled⟩
  · have hlane := lane_eq_of_getElem? hsame
    refine ⟨[], ?_, hsame, fun job => ?_, .nil⟩
    · rw [hlane, List.map_nil, List.append_nil]
    · refine iff_of_false List.not_mem_nil ?_
      rintro ⟨hjob, htype, hrun, hnew⟩
      have hwaits := hf.waiting job.id job hjob htype hrun
      rw [Waits, hlane] at hwaits
      exact hnew hwaits
  · exact hrefilled

end Underway

/-! ## Recoveries -/

/-- After a refill every runnable job of the type waits. -/
theorem full_of_refilled (hk : q'.backend.store.Keyed)
    (hstore : q.backend.store.Revived clock [t] q'.backend.store)
    (h : q.Refilled q' t added) : q'.Full t where
  settled id job hjob htype := by
    rw [hstore.jobs] at hjob
    obtain ⟨job₀, -, rfl⟩ := Option.map_eq_some_iff.mp hjob
    rw [Job.revived_jobType] at htype
    exact Job.status_revived_ne (List.mem_singleton.mpr htype)
  waiting id job hjob htype hrun := by
    obtain rfl : job.id = id := hk id job hjob
    by_cases hwaits : q.Waits t job.id
    · exact h.waits_of_waits hwaits
    · have hadded : job ∈ added := (h.mem job).mpr ⟨hjob, htype, hrun, hwaits⟩
      rw [Waits, h.ids]
      exact List.mem_append_right _ (List.mem_map_of_mem hadded)

/-- A call for one type, whether it fails or not, is a part of the way. -/
theorem recoverType_underway (hs : q.Sound) (hk : q.backend.store.Keyed) (clock : JobId → Instant)
    (t : String) : Underway [t] q (recoverType clock t q).2 := by
  rcases recoverType_cases hs hk clock t with
    ⟨e, -, hlanes, hsettings, hstore⟩ | ⟨added, -, hstore, hextended, hrefilled⟩
  · refine ⟨hstore, fun t => .inl (by rw [hlanes]), hsettings, fun t => ?_⟩
    show ((recoverType clock _ q).2.lanes.getD t .empty).Sound
    rw [hlanes]
    exact hs t
  · have hfull := full_of_refilled (hstore.keyed hk) hstore hrefilled
    refine ⟨hstore.partly, fun t' => ?_, hextended.settings, hextended.sound⟩
    by_cases ht : t' = t
    · subst ht
      exact .inr ⟨List.mem_singleton_self t', hfull, added, hrefilled⟩
    · exact .inl (hextended.others t' ht)

/-- The recovery of one more type, and then of the others unless it has failed. -/
theorem recover_cons (clock : JobId → Instant) (t : String) (types : List String) (q : Queue) :
    (∃ e, (recoverType clock t q).1 = .error e ∧
        recover clock (t :: types) q = (.error e, (recoverType clock t q).2)) ∨
      ∃ n, (recoverType clock t q).1 = .ok n ∧
        (recover clock (t :: types) q).1 =
          (recover clock types (recoverType clock t q).2).1.map (n + ·) ∧
        (recover clock (t :: types) q).2 = (recover clock types (recoverType clock t q).2).2 := by
  rcases hr : recoverType clock t q with ⟨e | n, q₁⟩
  · exact .inl ⟨e, rfl, by rw [recover, hr]⟩
  · refine .inr ⟨n, rfl, ?_⟩
    rw [recover, hr]
    dsimp only
    rcases recover clock types q₁ with ⟨e | m, q₂⟩ <;> exact ⟨rfl, rfl⟩

/-- However far a recovery comes, it leaves every lane as it was or refilled. -/
theorem recover_underway (hs : q.Sound) (hk : q.backend.store.Keyed) (clock : JobId → Instant)
    (types : List String) : Underway types q (recover clock types q).2 := by
  induction types generalizing q with
  | nil => exact .refl hs []
  | cons t types ih =>
    have hfirst := recoverType_underway hs hk clock t
    have hfirst' : Underway (t :: types) q (recoverType clock t q).2 :=
      hfirst.mono fun t' ht' => List.mem_singleton.mp ht' ▸ List.mem_cons_self
    rcases recover_cons clock t types q with ⟨e, -, heq⟩ | ⟨n, -, -, heq⟩
    · rw [heq]
      exact hfirst'
    · rw [heq]
      have hrest := ih hfirst.sound (hfirst.store.keyed hk)
      exact hfirst'.trans (hrest.mono fun t' ht' => List.mem_cons_of_mem t ht')

/-- A recovery that comes to its end has revived all orphans, recovered all types, and counted what
it has appended. -/
theorem recover_ok (hs : q.Sound) (hk : q.backend.store.Keyed)
    (hok : (recover clock types q).1 = .ok n) :
    q.backend.store.Revived clock types (recover clock types q).2.backend.store ∧
      (∀ t ∈ types, (recover clock types q).2.Full t) ∧
      ∀ T : Finset String, (∀ t ∈ types, t ∈ T) →
        ∑ t ∈ T, (recover clock types q).2.depth t = ∑ t ∈ T, q.depth t + n := by
  induction types generalizing q n with
  | nil =>
    cases hok
    exact ⟨Store.revived_nil clock _, nofun, fun T _ => rfl⟩
  | cons t types ih =>
    rcases recover_cons clock t types q with ⟨e, -, heq⟩ | ⟨n₁, hok₁, heq, hstate⟩
    · rw [heq] at hok
      cases hok
    · rw [heq] at hok
      obtain ⟨m, hm, rfl⟩ : ∃ m, (recover clock types (recoverType clock t q).2).1 = .ok m ∧
          n₁ + m = n := by
        cases hrest : (recover clock types (recoverType clock t q).2).1 with
        | error e =>
          rw [hrest] at hok
          cases hok
        | ok m =>
          rw [hrest] at hok
          exact ⟨m, rfl, Except.ok.inj hok⟩
      rcases recoverType_cases hs hk clock t with
        ⟨e, herror, -⟩ | ⟨added, hcount, hstore, hextended, hrefilled⟩
      · rw [herror] at hok₁
        cases hok₁
      · obtain rfl : added.length = n₁ := Except.ok.inj (hcount.symm.trans hok₁)
        have hk₁ := hstore.keyed hk
        obtain ⟨hrevived, hfull, hsum⟩ := ih hextended.sound hk₁ hm
        -- what is done for the later types takes nothing from the lane of the first
        have hunderway := recover_underway hextended.sound hk₁ clock types
        rw [hstate]
        refine ⟨hstore.trans hrevived, fun t' ht' => ?_, fun T hT => ?_⟩
        · rcases List.mem_cons.mp ht' with rfl | hlater
          · exact hunderway.full (full_of_refilled hk₁ hstore hrefilled)
          · exact hfull t' hlater
        · -- in the first step one lane grows, and the others stay as they are
          have htT : t ∈ T := hT t List.mem_cons_self
          have hothers : ∑ t' ∈ T.erase t, (recoverType clock t q).2.depth t' =
              ∑ t' ∈ T.erase t, q.depth t' := by
            refine Finset.sum_congr rfl fun t' ht' => ?_
            unfold depth
            rw [lane_eq_of_getElem? (hextended.others t' (Finset.ne_of_mem_erase ht'))]
          have hfirst : ∑ t' ∈ T, (recoverType clock t q).2.depth t' =
              ∑ t' ∈ T, q.depth t' + added.length := by
            rw [← Finset.add_sum_erase T _ htT, ← Finset.add_sum_erase T q.depth htT, hothers,
              hrefilled.depth_eq]
            omega
          rw [hsum T fun t' ht' => hT t' (List.mem_cons_of_mem t ht'), hfirst]
          omega

/-- Types that have been recovered have nothing left to recover, whichever calls fail. -/
theorem recover_of_full (hs : q.Sound) (hk : q.backend.store.Keyed)
    (hfull : ∀ t ∈ types, q.Full t) (clock : JobId → Instant) :
    (∀ n, (recover clock types q).1 = .ok n → n = 0) ∧
      (∀ id, (recover clock types q).2.backend.store.job? id = q.backend.store.job? id) ∧
      (recover clock types q).2.backend.store.outcomes = q.backend.store.outcomes ∧
      (recover clock types q).2.settings = q.settings ∧
      ∀ t : String, (recover clock types q).2.lanes[t]? = q.lanes[t]? := by
  have hunderway := recover_underway hs hk clock types
  have hlanes : ∀ t : String, (recover clock types q).2.lanes[t]? = q.lanes[t]? := by
    intro t
    rcases hunderway.lanes t with hsame | ⟨ht, -, added, hrefilled⟩
    · exact hsame
    · exact hrefilled.lanes_eq_of_full (hfull t ht) hunderway.store
  refine ⟨fun n hn => ?_, fun id => ?_, hunderway.store.outcomes, hunderway.settings, hlanes⟩
  · -- whatever had been appended would show in the depths
    have hcount := (recover_ok hs hk hn).2.2 types.toFinset fun t ht => List.mem_toFinset.mpr ht
    have hsame : ∑ t ∈ types.toFinset, (recover clock types q).2.depth t =
        ∑ t ∈ types.toFinset, q.depth t := by
      refine Finset.sum_congr rfl fun t _ => ?_
      unfold depth
      rw [lane_eq_of_getElem? (hlanes t)]
    omega
  · -- no record has been left that could be revived
    rcases hunderway.store.jobs id with hsame | ⟨clock', hrevived⟩
    · exact hsame
    · rw [hrevived]
      cases hjob : q.backend.store.job? id with
      | none => rfl
      | some job =>
        exact congrArg some (Job.revived_of_not_orphan fun horphan =>
          (hfull _ horphan.1).settled id job hjob rfl horphan.2)

/-- With a reliable store a recovery succeeds. -/
theorem recover_reliable (hs : q.Sound) (hk : q.backend.store.Keyed) (hw : q.backend.Reliable)
    (clock : JobId → Instant) (types : List String) : ∃ n, (recover clock types q).1 = .ok n := by
  induction types generalizing q with
  | nil => exact ⟨0, rfl⟩
  | cons t types ih =>
    obtain ⟨⟨n, hn⟩, hw₁⟩ := recoverType_reliable hk hw clock t
    have hfirst := recoverType_underway hs hk clock t
    obtain ⟨m, hm⟩ := ih hfirst.sound (hfirst.store.keyed hk) hw₁
    rcases recover_cons clock t types q with ⟨e, herror, -⟩ | ⟨n', -, heq, -⟩
    · rw [herror] at hn
      cases hn
    · exact ⟨n' + m, by rw [heq, hm]; rfl⟩

end Queue

/-! ## What does not depend on the time -/

/-- A record without the time of its last change. -/
def Job.undated (job : Job) : Job := { job with updatedAt := .epoch }

/-- Records that are the same but for their dates. -/
theorem Job.same_of_undated_eq {job job' : Job} (h : job'.undated = job.undated) :
    job'.id = job.id ∧ job'.jobType = job.jobType ∧ job'.status = job.status :=
  ⟨(congrArg Job.id h :), (congrArg Job.jobType h :), (congrArg Job.status h :)⟩

/-- Clocks only matter for dates. -/
theorem Job.undated_revived (job : Job) (clock clock' : JobId → Instant) (types : List String) :
    (job.revived clock types).undated = (job.revived clock' types).undated := by
  unfold Job.revived
  split <;> rfl

/-- Once no orphan is left, it does not matter when each of them was revived. -/
theorem Store.PartlyRevived.undated {types : List String} {s s' : Store}
    (h : s.PartlyRevived types s')
    (settled : ∀ id job, s'.job? id = some job → job.jobType ∈ types → job.status ≠ .processing)
    (id : JobId) (clock : JobId → Instant) :
    (s'.job? id).map Job.undated =
      (s.job? id).map fun job => (job.revived clock types).undated := by
  rcases h.jobs id with hsame | ⟨clock', hrevived⟩
  · rw [hsame]
    cases hjob : s.job? id with
    | none => rfl
    | some job =>
      rw [Option.map_some, Option.map_some, Job.revived_of_not_orphan fun horphan =>
        settled id job (hsame.trans hjob) horphan.1 horphan.2]
  · rw [hrevived, Option.map_map]
    refine congrArg (Option.map · (s.job? id)) (funext fun job => ?_)
    exact job.undated_revived clock' clock types

namespace Queue

variable {clock clock' : JobId → Instant} {types : List String} {q q' q₁ q₂ : Queue} {t : String}
  {n n' : Nat}

/-- Two queues with the same lanes and the same records, but for the times of their last changes. -/
structure SameButDates (q q' : Queue) : Prop where
  jobs : ∀ id, (q'.backend.store.job? id).map Job.undated =
    (q.backend.store.job? id).map Job.undated
  outcomes : q'.backend.store.outcomes = q.backend.store.outcomes
  lanes : ∀ t : String, q'.lanes[t]? = q.lanes[t]?

/-- What a lane lacks is found in its order from the records alone, whatever their dates. -/
theorem Refilled.map_id_eq {added added' : List Job} (h : q.Refilled q₁ t added)
    (h' : q.Refilled q₂ t added')
    (hjobs : ∀ id, (q₁.backend.store.job? id).map Job.undated =
      (q₂.backend.store.job? id).map Job.undated) : added.map Job.id = added'.map Job.id := by
  have hstored : ∀ {q₁ q₂ : Queue}, (∀ id, (q₁.backend.store.job? id).map Job.undated =
      (q₂.backend.store.job? id).map Job.undated) → ∀ {job : Job},
      q₁.backend.store.job? job.id = some job →
      ∃ job', q₂.backend.store.job? job'.id = some job' ∧ job'.undated = job.undated := by
    intro q₁ q₂ hjobs job hjob
    have hsame := hjobs job.id
    rw [hjob, Option.map_some] at hsame
    obtain ⟨job', hjob', hundated⟩ := Option.map_eq_some_iff.mp hsame.symm
    exact ⟨job', (Job.same_of_undated_eq hundated).1 ▸ hjob', hundated⟩
  have hsubset : ∀ {q₁ q₂ : Queue} {added added' : List Job}, q.Refilled q₁ t added →
      q.Refilled q₂ t added' → (∀ id, (q₁.backend.store.job? id).map Job.undated =
        (q₂.backend.store.job? id).map Job.undated) →
      ∀ job ∈ added.map Job.undated, job ∈ added'.map Job.undated := by
    intro q₁ q₂ added added' h h' hjobs job hmem
    obtain ⟨job₁, hadded, rfl⟩ := List.mem_map.mp hmem
    obtain ⟨hjob₁, htype, hrun, hnew⟩ := (h.mem job₁).mp hadded
    obtain ⟨job₂, hjob₂, hundated⟩ := hstored hjobs hjob₁
    obtain ⟨hid₂, htype₂, hstatus₂⟩ := Job.same_of_undated_eq hundated
    refine List.mem_map.mpr ⟨job₂, (h'.mem job₂).mpr ⟨hjob₂, htype₂.trans htype, ?_, ?_⟩,
      hundated⟩
    · rw [hstatus₂]
      exact hrun
    · rw [hid₂]
      exact hnew
  have hsorted : ∀ {added : List Job}, added.Pairwise Job.Older →
      (added.map Job.undated).Pairwise Job.Older :=
    fun h => List.pairwise_map.mpr (h.imp fun h => h)
  -- two lists by age with the same members are the same
  have hlists : added.map Job.undated = added'.map Job.undated :=
    (hsorted h.sorted).eq_of_mem_iff (hsorted h'.sorted) fun job =>
      ⟨hsubset h h' hjobs job, hsubset h' h (fun id => (hjobs id).symm) job⟩
  have hids := congrArg (List.map Job.id) hlists
  rw [List.map_map, List.map_map] at hids
  exact hids

/-- All ways to a recovery of all types lead to the same queue. -/
theorem Underway.sameButDates (h : Underway types q q₁) (h' : Underway types q q₂)
    (hfull : ∀ t ∈ types, q₁.Full t) (hfull' : ∀ t ∈ types, q₂.Full t) :
    q₁.SameButDates q₂ := by
  have hundated := h.store.undated fun id job hjob ht => (hfull _ ht).settled id job hjob rfl
  have hundated' := h'.store.undated fun id job hjob ht => (hfull' _ ht).settled id job hjob rfl
  have hjobs : ∀ id, (q₂.backend.store.job? id).map Job.undated =
      (q₁.backend.store.job? id).map Job.undated :=
    fun id => (hundated' id fun _ => .epoch).trans (hundated id fun _ => .epoch).symm
  refine ⟨hjobs, h'.store.outcomes.trans h.store.outcomes.symm, fun t => ?_⟩
  by_cases ht : t ∈ types
  · obtain ⟨added, hrefilled⟩ := h.refilled (hfull t ht)
    obtain ⟨added', hrefilled'⟩ := h'.refilled (hfull' t ht)
    have hids := hrefilled'.map_id_eq hrefilled hjobs
    have hnil : added' = [] ↔ added = [] := by
      rw [← List.map_eq_nil_iff (f := Job.id), hids, List.map_eq_nil_iff]
    rw [hrefilled.lane, hrefilled'.lane, hids]
    simp only [hnil]
  · have huntouched : ∀ {q' : Queue}, Underway types q q' → q'.lanes[t]? = q.lanes[t]? :=
      fun h => (h.lanes t).resolve_right fun hrefilled => ht hrefilled.1
    exact (huntouched h').trans (huntouched h).symm

/-! ## The whole of it -/

/-- What a recovery leaves that comes to its end and is answered with `n`. -/
structure Recovered (clock : JobId → Instant) (types : List String) (n : Nat) (q q' : Queue) :
    Prop where
  /-- All orphans of the types are retrying, and nothing else has changed in the store. -/
  store : q.backend.store.Revived clock types q'.backend.store
  /-- The lanes of the types have got what they lacked, and the answer says how much. -/
  lanes : ∃ added : String → List Job, (∀ t ∈ types, q.Refilled q' t (added t)) ∧
    n = ∑ t ∈ types.toFinset, (added t).length
  others : ∀ t, t ∉ types → q'.lanes[t]? = q.lanes[t]?
  settings : q'.settings = q.settings
  sound : q'.Sound
  /-- Another recovery, whichever of its calls fail, changes nothing and appends nothing. -/
  again : ∀ (clock' : JobId → Instant) (b : Backend), b.store = q'.backend.store →
    let second := recover clock' types { q' with backend := b }
    (∀ m, second.1 = .ok m → m = 0) ∧
      (∀ id, second.2.backend.store.job? id = q'.backend.store.job? id) ∧
      second.2.backend.store.outcomes = q'.backend.store.outcomes ∧
      second.2.settings = q'.settings ∧ ∀ t : String, second.2.lanes[t]? = q'.lanes[t]?

/-- A recovery has been made some times, of which each has failed, and meanwhile other calls of the
store may fail than before. -/
inductive Tried (types : List String) (q : Queue) : Queue → Prop
  | begun : Tried types q q
  | replanned {q₁ : Queue} {b : Backend} (tried : Tried types q q₁)
      (same : b.store = q₁.backend.store) : Tried types q { q₁ with backend := b }
  | failed {q₁ : Queue} {e : StoreError} {clock : JobId → Instant} (tried : Tried types q q₁)
      (fails : (recover clock types q₁).1 = .error e) : Tried types q (recover clock types q₁).2

/-- Tries that fail are a part of the way. -/
theorem Tried.underway (hs : q.Sound) (hk : q.backend.store.Keyed) (h : q.Tried types q₁) :
    Underway types q q₁ := by
  induction h with
  | begun => exact .refl hs types
  | replanned tried same ih =>
    refine ⟨same ▸ ih.store, fun t => (ih.lanes t).imp_right ?_, ih.settings, ih.sound⟩
    rintro ⟨ht, hf, added, hrefilled⟩
    refine ⟨ht, hf.ofBackend same, added, hrefilled.onward rfl fun _ => ?_⟩
    show _ = _ ↔ _
    rw [same]
  | failed tried fails ih =>
    exact ih.trans (recover_underway ih.sound (ih.store.keyed hk) _ types)

/-- A recovery that succeeds has done all that it is for. -/
theorem recovered_of_ok (hs : q.Sound) (hk : q.backend.store.Keyed)
    (hok : (recover clock types q).1 = .ok n) :
    q.Recovered clock types n (recover clock types q).2 := by
  have hunderway := recover_underway hs hk clock types
  obtain ⟨hrevived, hfull, hsum⟩ := recover_ok hs hk hok
  have hk' := hrevived.keyed hk
  refine ⟨hrevived, ?_, fun t ht => ?_, hunderway.settings, hunderway.sound, ?_⟩
  · have hexists : ∀ t, ∃ added, t ∈ types → q.Refilled (recover clock types q).2 t added := by
      intro t
      by_cases ht : t ∈ types
      · obtain ⟨added, hrefilled⟩ := hunderway.refilled (hfull t ht)
        exact ⟨added, fun _ => hrefilled⟩
      · exact ⟨[], fun h => absurd h ht⟩
    choose added hrefilled using hexists
    have hdepths : ∑ t ∈ types.toFinset, (recover clock types q).2.depth t =
        ∑ t ∈ types.toFinset, q.depth t + ∑ t ∈ types.toFinset, (added t).length := by
      rw [← Finset.sum_add_distrib]
      exact Finset.sum_congr rfl fun t ht => (hrefilled t (List.mem_toFinset.mp ht)).depth_eq
    have hcount := hsum types.toFinset fun t ht => List.mem_toFinset.mpr ht
    exact ⟨added, hrefilled, by omega⟩
  · exact (hunderway.lanes t).resolve_right fun h => ht h.1
  · intro clock' b same
    have hagain := recover_of_full (q := { (recover clock types q).2 with backend := b })
      hunderway.sound (same ▸ hk') (fun t ht => (hfull t ht).ofBackend same) clock'
    rw [← same]
    exact hagain

/-- A recovery revives the orphans of its types and appends what their lanes lack, and then it has
nothing more to do. One that fails leaves every lane as it was or refilled, and however often it
has failed, in the end there is the same as if it had not. -/
theorem recovers (clock : JobId → Instant) (types : List String) (q : Queue) (hs : q.Sound)
    (hk : q.backend.store.Keyed) :
    (q.backend.Reliable → ∃ n, (recover clock types q).1 = .ok n) ∧
      (∀ n, (recover clock types q).1 = .ok n →
        q.Recovered clock types n (recover clock types q).2) ∧
      (∀ q₁, q.Tried types q₁ → Underway types q q₁) ∧
      ∀ q₁ q₂ clock₁ clock₂ n₁ n₂, q.Tried types q₁ → q.Tried types q₂ →
        (recover clock₁ types q₁).1 = .ok n₁ → (recover clock₂ types q₂).1 = .ok n₂ →
        (recover clock₁ types q₁).2.SameButDates (recover clock₂ types q₂).2 := by
  have hend : ∀ {q₁ : Queue} {clock₁ : JobId → Instant} {n₁ : Nat}, q.Tried types q₁ →
      (recover clock₁ types q₁).1 = .ok n₁ →
      Underway types q (recover clock₁ types q₁).2 ∧
        ∀ t ∈ types, (recover clock₁ types q₁).2.Full t := by
    intro q₁ clock₁ n₁ tried hok
    have hbegun := tried.underway hs hk
    have hk₁ := hbegun.store.keyed hk
    exact ⟨hbegun.trans (recover_underway hbegun.sound hk₁ clock₁ types),
      (recover_ok hbegun.sound hk₁ hok).2.1⟩
  refine ⟨fun hw => recover_reliable hs hk hw clock types, fun n hok => recovered_of_ok hs hk hok,
    fun q₁ tried => tried.underway hs hk, ?_⟩
  intro q₁ q₂ clock₁ clock₂ n₁ n₂ tried₁ tried₂ hok₁ hok₂
  obtain ⟨hunderway₁, hfull₁⟩ := hend tried₁ hok₁
  obtain ⟨hunderway₂, hfull₂⟩ := hend tried₂ hok₂
  exact hunderway₁.sameButDates hunderway₂ hfull₁ hfull₂

/-- A mail that was being sent, and a report that waits; the third listing is going to fail. -/
def orphanedMail : Queue :=
  let mail := (Job.pending (.ofNat 1) .epoch (.once "mail" .null)).moved .processing .epoch
  let report := Job.pending (.ofNat 2) .epoch (.once "report" .null)
  ofBackend .standard (Backend.setPlan ⟨(Store.empty.put mail).put report, fun _ => []⟩ .listByType
    [false, false, true])

/-- The recovery fails when it has come to the report, and the next one appends only that. -/
theorem recovers_of_orphanedMail :
    let types := ["mail", "report", "mail"]
    let clock := fun _ : JobId => Instant.epoch
    let q := orphanedMail
    let failed := recover clock types q
    let again := recover clock types failed.2
    let once := recover clock types { q with backend := ⟨q.backend.store, fun _ => []⟩ }
    q.Sound ∧ q.backend.store.Keyed ∧ failed.1 = .error StoreCall.listByType.fault ∧
      (failed.2.depths, again.1, once.1) = ([("mail", 1)], .ok 1, .ok 2) ∧
      once.2.SameButDates again.2 := by
  intro types clock q failed again once
  have hs : q.Sound := sound_ofBackend _ _
  have hk : q.backend.store.Keyed := (Store.keyed_empty.put _).put _
  have hfailed : failed.1 = .error StoreCall.listByType.fault := by decide +kernel
  have hdepths : failed.2.depths = [("mail", 1)] := by decide +kernel
  have hagain : again.1 = .ok 1 := by decide +kernel
  have honce : once.1 = .ok 2 := by decide +kernel
  obtain ⟨-, -, -, hsame⟩ := recovers clock types q hs hk
  refine ⟨hs, hk, hfailed, by rw [hdepths, hagain, honce], ?_⟩
  exact hsame _ _ _ _ _ _ (.replanned .begun rfl) (.failed .begun hfailed) honce hagain

end Queue

end JobRunner
