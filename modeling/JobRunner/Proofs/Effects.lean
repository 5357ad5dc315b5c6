import JobRunner.Proofs.Transfers

/-!
# The effect of every step

Each step of a producer, a consumer, a worker or a timer is one transfer of a job, leaves its
activity informed, and does to the store and to the hub what its entries say.
-/

namespace JobRunner.Actor

variable {s s' : Service}

namespace Effect

/-- A step in which no job passes from hand to hand and nothing is written. -/
theorem ofQuiet {x x' : Actor} (carries : x'.carries? = x.carries?)
    (attempt : x'.attempt? = x.attempt?)
    (waits : ∀ t id, s'.queue.Waits t id ↔ s.queue.Waits t id) (store : s'.store = s.store)
    (hub : s'.hub = s.hub) (sound : s'.queue.Sound) (informed : x'.Informed s.store) :
    Effect x s x' s' none [] where
  transfer := .quiet carries attempt waits
  store := store
  hub := hub
  sound := sound
  informed := store ▸ informed
  timer r hr := by cases hr

/-- A step that puts a job into its lane. -/
theorem ofPush {x x' : Actor} (job : Job) (stored : s.store.job? job.id = some job)
    (runnable : job.status.isRunnable = true) (carries : x.carries? = some job.id)
    (attempt : x.attempt? = none) (empty : x'.holds? = none)
    (waits : ∀ t id, s'.queue.Waits t id ↔
      s.queue.Waits t id ∨ (t = job.jobType ∧ id = job.id))
    (store : s'.store = s.store) (hub : s'.hub = s.hub) (sound : s'.queue.Sound)
    (informed : x'.Informed s.store) : Effect x s x' s' none [] where
  transfer := .push job stored runnable carries attempt empty waits
  store := store
  hub := hub
  sound := sound
  informed := store ▸ informed
  timer r hr := by cases hr

end Effect

/-! ## Producers -/

theorem producer_effect (hs : s.queue.Sound) (p : Producer) (hi : (producer p).Informed s.store)
    (t : Tick) :
    Effect (producer p) s (producer (p.step s.queue).1) { s with queue := (p.step s.queue).2 } none
      ((producer p).entries s t) := by
  cases p with
  | checking id now request =>
    simp only [Producer.step]
    cases s.queue.check request with
    | error e => exact .ofQuiet rfl rfl (fun _ _ => Iff.rfl) rfl rfl hs trivial
    | ok u => exact .ofQuiet rfl rfl (fun _ _ => Iff.rfl) rfl rfl hs ⟨id, now, request, rfl, hi⟩
  | inserting job =>
    rcases hu : s.queue.backend.insertJob job with ⟨e | u, b⟩
    · simp only [Producer.step, entries, hu]
      exact .ofQuiet rfl rfl (fun _ _ => Iff.rfl) (Backend.call_error hu) rfl hs trivial
    · simp only [Producer.step, entries, hu]
      -- from now on the call has the job in its hands
      obtain ⟨hfresh, hstore⟩ := Backend.insertJob_ok hu
      have hnew : job.IsNew := hi
      refine ⟨.insert job hnew hfresh rfl rfl rfl (fun _ _ => Iff.rfl), hstore, rfl, hs, ?_, ?_⟩
      · obtain ⟨id, now, request, rfl, -⟩ := hnew
        refine ⟨?_, rfl⟩
        show b.store.job? _ = _
        rw [hstore, Store.job?_put, if_pos rfl]
      · intro r hr
        cases hr
  | pushing job =>
    rcases hp : s.queue.push job.jobType job.id with ⟨added, q⟩
    obtain ⟨hsound, hbackend, hwaits⟩ := Queue.of_push hs hp
    have hstore : q.backend.store = s.store := congrArg Backend.store hbackend
    simp only [Producer.step, hp]
    cases added with
    | true => exact .ofPush job hi.1 hi.2 rfl rfl rfl hwaits hstore rfl hsound trivial
    | false => exact .ofPush job hi.1 hi.2 rfl rfl rfl hwaits hstore rfl hsound trivial
  | ringing job =>
    exact .ofQuiet rfl rfl (Queue.waits_ring s.queue job.jobType) rfl rfl (hs.ring job.jobType)
      trivial
  | done answer => exact .ofQuiet rfl rfl (fun _ _ => Iff.rfl) rfl rfl hs trivial

/-! ## Timers -/

theorem timer_effect (hs : s.queue.Sound) (r : RetryTimer) (hi : (timer r).Informed s.store)
    (now : Nat) :
    Effect (timer r) s (timer (r.step s.queue now).1)
      { s with queue := (r.step s.queue now).2 } none [] := by
  obtain ⟨job, due, stage⟩ := r
  cases stage with
  | sleeping =>
    by_cases hdue : due ≤ now
    · rcases hp : s.queue.push job.jobType job.id with ⟨added, q⟩
      obtain ⟨hsound, hbackend, hwaits⟩ := Queue.of_push hs hp
      have hstore : q.backend.store = s.store := congrArg Backend.store hbackend
      simp only [RetryTimer.step, if_pos hdue, hp]
      cases added with
      | true => exact .ofPush job hi.1 hi.2 rfl rfl rfl hwaits hstore rfl hsound trivial
      | false => exact .ofPush job hi.1 hi.2 rfl rfl rfl hwaits hstore rfl hsound trivial
    · simp only [RetryTimer.step, if_neg hdue]
      exact .ofQuiet rfl rfl (fun _ _ => Iff.rfl) rfl rfl hs hi
  | ringing =>
    exact .ofQuiet rfl rfl (Queue.waits_ring s.queue job.jobType) rfl rfl (hs.ring job.jobType)
      trivial
  | done => exact .ofQuiet rfl rfl (fun _ _ => Iff.rfl) rfl rfl hs trivial

/-! ## Workers that wait for a job -/

/-- A step of a consumer inside its worker. -/
theorem fetching_effect (hs : s.queue.Sound) (hk : s.store.Keyed) (hw : s.Posted) (t : String)
    (b : Backoff) (c : Consumer) (hi : c.Informed s.store) (now : Nat) (cancelled ringFirst : Bool)
    (going : ∀ answer, c.stage ≠ .done answer) :
    Effect (worker ⟨t, b, .fetching c⟩) s
      (worker ⟨t, b, .fetching (c.step s.queue now cancelled ringFirst).1⟩)
      { s with queue := (c.step s.queue now cancelled ringFirst).2 } none [] := by
  obtain ⟨jobType, deadline, stage⟩ := c
  cases stage with
  | listening =>
    exact .ofQuiet rfl rfl (Queue.waits_withBell s.queue jobType _) rfl rfl (hs.withBell jobType _)
      trivial
  | popping ear =>
    simp only [Consumer.step]
    cases hp : (s.queue.lane jobType).pop? with
    | none => exact .ofQuiet rfl rfl (fun _ _ => Iff.rfl) rfl rfl hs trivial
    | some taken =>
      obtain ⟨id, l⟩ := taken
      obtain ⟨hwaited, hwaits⟩ := Queue.waits_pop? hs hp
      obtain ⟨job, hjob, htype, hrun⟩ := hw jobType id hwaited
      refine ⟨.pop jobType id rfl rfl rfl hwaited hwaits, rfl, rfl, hs.pop? hp, ?_, ?_⟩
      · exact ⟨job, hjob, hk id job hjob, htype, hrun⟩
      · intro r hr
        cases hr
  | reading ear id =>
    obtain ⟨job, hjob, hid, htype, hrun⟩ := hi
    simp only [Consumer.step]
    rcases hu : s.queue.backend.getJob id with ⟨e | found, b'⟩
    · exact .ofQuiet rfl rfl (fun _ _ => Iff.rfl) (Backend.call_error hu) rfl hs
        ⟨job, hjob, hid, htype, hrun⟩
    · obtain ⟨hfound, hstore⟩ := Backend.getJob_ok hu
      -- what is read is runnable still, so the consumer does not drop the id
      have hread : found = some job := hfound.trans hjob
      rw [hread]
      simp only [hrun, if_true]
      refine .ofQuiet ?_ rfl (fun _ _ => Iff.rfl) hstore rfl hs ?_
      · exact congrArg some hid
      · exact ⟨hid.symm ▸ hjob, hrun⟩
  | restoring ear id e =>
    obtain ⟨job, hjob, hid, htype, hrun⟩ := hi
    have htype : job.jobType = jobType := htype
    have hwaits := Queue.waits_pushFront hs jobType id
    rw [← htype, ← hid] at hwaits
    have hstored : s.store.job? job.id = some job := hid.symm ▸ hjob
    simp only [Consumer.step]
    rw [← htype, ← hid]
    exact .ofPush job hstored hrun rfl rfl rfl hwaits rfl rfl (hs.pushFront job.jobType job.id)
      trivial
  | ringing ear e =>
    exact .ofQuiet rfl rfl (Queue.waits_ring s.queue jobType) rfl rfl (hs.ring jobType) trivial
  | parked ear =>
    simp only [Consumer.step]
    split
    · exact .ofQuiet rfl rfl (Queue.waits_withBell s.queue jobType _) rfl rfl
        (hs.withBell jobType _) trivial
    · split
      · exact .ofQuiet rfl rfl (fun _ _ => Iff.rfl) rfl rfl hs trivial
      · exact .ofQuiet rfl rfl (fun _ _ => Iff.rfl) rfl rfl hs trivial
  | leaving ear answer =>
    rcases answer with e | _ | job
    · exact .ofQuiet rfl rfl (Queue.waits_withBell s.queue jobType _) rfl rfl
        (hs.withBell jobType _) trivial
    · exact .ofQuiet rfl rfl (Queue.waits_withBell s.queue jobType _) rfl rfl
        (hs.withBell jobType _) trivial
    · exact .ofQuiet rfl rfl (Queue.waits_withBell s.queue jobType _) rfl rfl
        (hs.withBell jobType _) hi
  | done answer => exact absurd rfl (going answer)

/-- A worker takes up the job that it was given, if any. -/
theorem receive_effect (hs : s.queue.Sound) (t : String) (b : Backoff) (jobType : String)
    (deadline : Nat) (answer : ConsumerAnswer)
    (hi : (⟨jobType, deadline, .done answer⟩ : Consumer).Informed s.store) (now : Nat) :
    Effect (worker ⟨t, b, .fetching ⟨jobType, deadline, .done answer⟩⟩) s
      (worker (Worker.receive ⟨t, b, .fetching ⟨jobType, deadline, .done answer⟩⟩ now answer)) s
      none [] := by
  rcases answer with e | _ | job
  · exact .ofQuiet rfl rfl (fun _ _ => Iff.rfl) rfl rfl hs trivial
  · exact .ofQuiet rfl rfl (fun _ _ => Iff.rfl) rfl rfl hs trivial
  · obtain ⟨hjob, hrun⟩ := hi
    refine ⟨.start job b hjob hrun rfl rfl rfl (fun _ _ => Iff.rfl), rfl, rfl, hs, ?_, ?_⟩
    · exact fun _ => ⟨job, hjob, rfl, hrun⟩
    · intro r hr
      cases hr

/-! ## Workers that attempt a job -/

/-- An attempt inside its worker makes a move. -/
theorem busy_effect (t : String) (b : Backoff) {a a' : Attempt} {es : List Entry}
    {h : Attempt.Handover} {added : Option RetryTimer} (move : Attempt.Move a a' es h)
    (hi : (worker ⟨t, b, .busy a⟩).Informed s.store)
    (store : s'.store = es.foldl Entry.onStore s.store)
    (hub : s'.hub = es.foldl Entry.onHub s.hub) (sound : s'.queue.Sound)
    (waits : ∀ t id, s'.queue.Waits t id ↔
      s.queue.Waits t id ∨ (h = .lane ∧ t = a.job.jobType ∧ id = a.job.id))
    (timer : added = h.timer? a.job) :
    Effect (worker ⟨t, b, .busy a⟩) s (worker ⟨t, b, .busy a'⟩) s' added es := by
  subst timer
  by_cases howns : a.owns = true
  · -- the store and the journal of the job go the same way, entry by entry
    obtain ⟨record, hrecord, hfits⟩ := hi howns
    have hentries := move.entry_jobId hfits
    obtain ⟨record', hrecord', hfits'⟩ := move.fits hfits
    have hjob' : s'.store.job? a.job.id = some record' := by
      rw [store, Entry.job?_foldl_onStore es s.store a.job.id hentries, hrecord, hrecord']
    have houtcome' : s'.store.outcome? a.job.id =
        es.foldl Entry.onOutcome (s.store.outcome? a.job.id) := by
      rw [store, Entry.outcome?_foldl_onStore es s.store a.job.id hentries]
    refine ⟨.move move (if_pos howns) rfl rfl waits, store, hub, sound, ?_, ?_⟩
    · intro howns'
      rw [move.job_id, hjob', houtcome']
      exact ⟨record', rfl, hfits' howns'⟩
    · intro r hr
      cases h with
      | none | lane => cases hr
      | timer due =>
        cases hr
        have hrun := (move.runnable_of_handover hfits (by simp)).1
        have hjob := move.record_of_timer hfits
        obtain ⟨rfl, -⟩ := move.of_handover (by simp)
        refine ⟨?_, hjob ▸ hrun⟩
        rw [store, ← hjob]
        exact hjob ▸ hrecord
  · -- what is left of an attempt without its job concerns no job at all
    obtain ⟨rfl, rfl, hgone⟩ := move.of_not_owns (Bool.eq_false_iff.mpr howns)
    have hattempt : (worker ⟨t, b, .busy a⟩).attempt? = none := if_neg howns
    have hattempt' : (worker ⟨t, b, .busy a'⟩).attempt? = none :=
      if_neg (Bool.eq_false_iff.mp hgone)
    refine .ofQuiet rfl (hattempt'.trans hattempt.symm) ?_ store hub sound ?_
    · intro t id
      rw [waits]
      simp
    · exact fun hc => absurd hc (Bool.eq_false_iff.mp hgone)

/-- A worker is done with an attempt. -/
theorem after_effect (hs : s.queue.Sound) (t : String) (b : Backoff) {a : Attempt}
    {answer : Except AttemptError Status} (hanswer : a.answer? = some answer) (tick : Tick) :
    Effect (worker ⟨t, b, .busy a⟩) s (worker (Worker.afterAttempt ⟨t, b, .busy a⟩ answer)) s none
      ((worker ⟨t, b, .busy a⟩).entries s tick) := by
  obtain ⟨job, backoff, stage⟩ := a
  cases stage with
  | done answer' =>
    unfold Worker.afterAttempt
    split
    · exact .ofQuiet rfl rfl (fun _ _ => Iff.rfl) rfl rfl hs trivial
    · exact .ofQuiet rfl rfl (fun _ _ => Iff.rfl) rfl rfl hs trivial
  | _ => cases hanswer

/-- The activity that executes a handler is a worker whose attempt is calling. -/
theorem executes?_eq_some {x : Actor} {id : JobId} (h : x.executes? = some id) :
    ∃ t b job backoff, x = worker ⟨t, b, .busy ⟨job, backoff, .calling⟩⟩ ∧ job.id = id := by
  unfold executes? at h
  split at h
  · next t b a =>
    obtain ⟨job, backoff, stage⟩ := a
    cases stage with
    | calling =>
      cases h
      exact ⟨t, b, job, backoff, rfl, rfl⟩
    | _ => cases h
  · cases h

/-- A report to an activity that executes no handler is not heard. -/
theorem report_of_not_executes {x : Actor} (h : x.executes? = none) (clock : Instant)
    (r : Except Failure Json) : x.report clock r = x := by
  unfold executes? at h
  unfold report
  split at h
  · next t b a =>
    split at h
    · cases h
    · next hcalling => exact if_neg hcalling
  · rfl

/-- The handler of an attempt comes to an end. -/
theorem report_effect (hs : s.queue.Sound) (x : Actor) (hi : x.Informed s.store)
    (clock : Instant) (r : Except Failure Json) :
    Effect x s (x.report clock r) s none (x.reportEntries r) := by
  unfold reportEntries
  cases hx : x.executes? with
  | some id =>
    obtain ⟨t, b, job, backoff, rfl, rfl⟩ := executes?_eq_some hx
    exact busy_effect t b (.report clock r) hi rfl rfl hs (fun t id => by simp) rfl
  | none =>
    rw [report_of_not_executes hx clock r]
    exact .ofQuiet rfl rfl (fun _ _ => Iff.rfl) rfl rfl hs hi

/-! ## All steps -/

theorem worker_effect (hs : s.queue.Sound) (hk : s.store.Keyed) (hw : s.Posted) (w : Worker)
    (hi : (worker w).Informed s.store) (t : Tick) :
    Effect (worker w) s (worker (w.step s t.now t.clock t.draws t.cancelled t.ringFirst).1)
      (w.step s t.now t.clock t.draws t.cancelled t.ringFirst).2.1
      (w.step s t.now t.clock t.draws t.cancelled t.ringFirst).2.2 ((worker w).entries s t) := by
  obtain ⟨jobType, b, stage⟩ := w
  cases stage with
  | idle =>
    simp only [Worker.step]
    split
    · exact .ofQuiet rfl rfl (fun _ _ => Iff.rfl) rfl rfl hs trivial
    · exact .ofQuiet rfl rfl (Queue.waits_openLane s.queue jobType) rfl rfl (hs.openLane jobType)
        trivial
  | fetching c =>
    cases hstage : c.stage with
    | done answer =>
      obtain ⟨cType, deadline, stage⟩ := c
      cases hstage
      exact receive_effect hs jobType b cType deadline answer hi t.now
    | _ =>
      -- a consumer without an answer goes on by itself
      have going : ∀ answer, c.stage ≠ .done answer := by
        intro answer hc
        rw [hstage] at hc
        cases hc
      have heffect := fetching_effect hs hk hw jobType b c hi t.now t.cancelled t.ringFirst going
      simp only [Worker.step, hstage]
      exact heffect
  | busy a =>
    cases hanswer : a.answer? with
    | some answer =>
      simp only [Worker.step, hanswer]
      exact after_effect hs jobType b hanswer t
    | none =>
      obtain ⟨h, explained⟩ := Attempt.step_explained hs a t.now t.clock t.draws
      simp only [Worker.step, hanswer]
      exact busy_effect jobType b explained.move hi explained.store explained.hub explained.sound
        explained.waits explained.timer
  | resting due =>
    simp only [Worker.step]
    split
    · exact .ofQuiet rfl rfl (fun _ _ => Iff.rfl) rfl rfl hs trivial
    · split
      · exact .ofQuiet rfl rfl (fun _ _ => Iff.rfl) rfl rfl hs trivial
      · exact .ofQuiet rfl rfl (fun _ _ => Iff.rfl) rfl rfl hs trivial
  | stopped => exact .ofQuiet rfl rfl (fun _ _ => Iff.rfl) rfl rfl hs trivial

/-- Every step of an activity passes jobs on as a transfer does, and its entries say what it does to
the store and to the hub. -/
theorem step_effect (hs : s.queue.Sound) (hk : s.store.Keyed) (hw : s.Posted) (x : Actor)
    (hi : x.Informed s.store) (t : Tick) :
    Effect x s (x.step s t).1 (x.step s t).2.1 (x.step s t).2.2 (x.entries s t) := by
  cases x with
  | producer p => exact producer_effect hs p hi t
  | worker w => exact worker_effect hs hk hw w hi t
  | timer r => exact timer_effect hs r hi t.now

end JobRunner.Actor
