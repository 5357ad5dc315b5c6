import JobRunner.Proofs.HubCalls
import Mathlib.Data.List.Induction

/-!
# The events of one follower

- `HubCall.Ends`: the calls that end the subscription of a connection to a job: it is unsubscribed,
  or evicted because it refuses a delivery.
- `Hub.InPeriod`: a connection has joined a job, and nothing has ended its subscription since.
- `Hub.streams_calls`: in such a period the connection receives the event that was the latest when
  it joined, and all that are published from then on; outside of one it receives nothing.
-/

namespace JobRunner

/-! ## How a subscription ends -/

namespace HubCall

/-- The event that a call delivers to a connection. -/
def delivery? (call : HubCall) (h : Hub) (c : ConnectionId) : Option Event :=
  match call with
  | publish e => if h.subscriptions.Follows c e.jobId then some e else none
  | visit (.join c' job) => if c' = c then h.latest? job else none
  | _ => none

/-- The event of a job that a call offers to a connection that follows the job. -/
def offer? (call : HubCall) (h : Hub) (c : ConnectionId) (job : JobId) : Option Event :=
  match call with
  | visit (.join c' j) => if c' = c ∧ j = job then h.latest? job else none
  | _ => call.published? job

theorem offer?_join (h : Hub) (c : ConnectionId) (job : JobId) :
    (visit (.join c job)).offer? h c job = h.latest? job := if_pos ⟨rfl, rfl⟩

theorem offer?_of_ne {call : HubCall} {h : Hub} {c : ConnectionId} {job : JobId}
    (hjoin : call ≠ .visit (.join c job)) : call.offer? h c job = call.published? job := by
  cases call with
  | publish | forget => rfl
  | visit v =>
    cases v with
    | join c' j =>
      refine if_neg ?_
      rintro ⟨rfl, rfl⟩
      exact hjoin rfl
    | _ => rfl

/-- A call delivers an event to a connection that refuses it. -/
def Evicts (call : HubCall) (h : Hub) (c : ConnectionId) : Prop :=
  (call.delivery? h c).isSome = true ∧ (h.connection c).Refuses

instance (call : HubCall) (h : Hub) (c : ConnectionId) : Decidable (call.Evicts h c) :=
  inferInstanceAs (Decidable (_ ∧ _))

/-- A call ends the subscription of a connection to a job. -/
def Ends (call : HubCall) (h : Hub) (c : ConnectionId) (job : JobId) : Prop :=
  call.Leaves c job ∨ call.Evicts h c

instance (call : HubCall) (h : Hub) (c : ConnectionId) (job : JobId) :
    Decidable (call.Ends h c job) := inferInstanceAs (Decidable (_ ∨ _))

/-- Who leaves gets nothing at that. -/
theorem delivery?_of_leaves {call : HubCall} {h : Hub} {c : ConnectionId} {job : JobId}
    (hleaves : call.Leaves c job) : call.delivery? h c = none := by
  cases call with
  | publish | forget => cases hleaves
  | visit v =>
    cases v with
    | join => cases hleaves
    | _ => rfl

end HubCall

namespace Hub

variable {h : Hub} {c : ConnectionId} {job : JobId} {call : HubCall} {cs : List HubCall}

/-! ## One call -/

/-- A connection follows a job after a call if it has done so before or joins now, and the call does
not end that. -/
theorem follows_act (hs : h.Sound) (call : HubCall) (c : ConnectionId) (job : JobId) :
    (call.act h).subscriptions.Follows c job ↔ ¬call.Ends h c job ∧
      (h.subscriptions.Follows c job ∨ call = .visit (.join c job)) := by
  unfold HubCall.Ends HubCall.Evicts
  cases call with
  | publish e =>
    refine (follows_of_turn (seat_publish hs.subscriptions e c) job).trans ?_
    simp [HubCall.Leaves, HubCall.delivery?]
  | forget j =>
    show h.subscriptions.Follows c job ↔ _
    simp [HubCall.Leaves, HubCall.delivery?]
  | visit v =>
    cases v with
    | join c' j =>
      refine (follows_of_turn (seat_join hs.subscriptions c c' j) job).trans ?_
      simp [HubCall.Leaves, Visit.Leaves, HubCall.delivery?]
    | _ =>
      refine (follows_visit hs (by rintro _ _ ⟨⟩) c job).trans ?_
      simp [HubCall.Leaves, HubCall.delivery?]

/-- What is delivered is accepted unless the connection refuses it, and nothing else is. -/
theorem accepted_act (hs : h.Sound) (call : HubCall) (c : ConnectionId) (job : JobId) :
    accepted h (call.act h) c job =
      if (h.connection c).Refuses then []
      else ((call.delivery? h c).filter (·.jobId = job)).toList := by
  cases call with
  | publish e => exact accepted_of_turn (seat_publish hs.subscriptions e c) job
  | forget j => exact (accepted_of_length_le (Nat.le_refl _)).trans (ite_self _).symm
  | visit v =>
    cases v with
    | join c' j => exact accepted_of_turn (seat_join hs.subscriptions c c' j) job
    | _ => exact (accepted_visit (by rintro _ _ ⟨⟩) c job).trans (ite_self _).symm

/-- The event of a job that a call delivers to a connection that does not join that job. -/
private theorem filter_delivery? (hs : h.Sound) (hjoin : call ≠ .visit (.join c job)) :
    (call.delivery? h c).filter (·.jobId = job) =
      if h.subscriptions.Follows c job then call.published? job else none := by
  cases call with
  | publish e => exact filter_offered h c e job
  | forget j => exact (ite_self _).symm
  | visit v =>
    show _ = if _ then none else none
    rw [ite_self]
    cases v with
    | join c' j =>
      -- the latest event of another job is none of this one
      refine Option.filter_eq_none_iff.mpr fun e hdelivery => ?_
      obtain ⟨rfl, hlatest⟩ : c' = c ∧ h.latest? j = some e := by
        simpa [HubCall.delivery?] using hdelivery
      have hj : e.jobId = j := hs.jobId_of_latest? hlatest
      simp only [decide_eq_true_eq]
      rintro rfl
      exact hjoin (by rw [hj])
    | _ => rfl

/-- A follower that is not evicted accepts what is published. -/
theorem accepted_of_follows (hs : h.Sound) (hfollows : h.subscriptions.Follows c job)
    (hends : ¬call.Ends h c job) (hjoin : call ≠ .visit (.join c job)) :
    accepted h (call.act h) c job = (call.published? job).toList := by
  have hfilter := filter_delivery? hs hjoin
  rw [if_pos hfollows] at hfilter
  rw [accepted_act hs, hfilter]
  split
  · next hr =>
    -- the call delivers nothing, or it would evict the connection
    have hdelivery : call.delivery? h c = none :=
      Option.not_isSome_iff_eq_none.mp fun hsome => hends (.inr ⟨hsome, hr⟩)
    rw [hdelivery] at hfilter
    rw [← hfilter]
    rfl
  · rfl

/-- A connection that joins and is not evicted accepts the latest event. -/
theorem accepted_join (hs : h.Sound) (hends : ¬(HubCall.visit (.join c job)).Ends h c job) :
    accepted h ((h.join c job).2) c job = (h.latest? job).toList := by
  have hdelivery : (HubCall.visit (.join c job)).delivery? h c = h.latest? job := if_pos rfl
  refine (accepted_act hs (.visit (.join c job)) c job).trans ?_
  rw [hdelivery]
  split
  · next hr =>
    have hlatest : h.latest? job = none :=
      Option.not_isSome_iff_eq_none.mp fun hsome =>
        hends (.inr ⟨by rw [hdelivery]; exact hsome, hr⟩)
    rw [hlatest]
    rfl
  · cases hlatest : h.latest? job with
    | none => rfl
    | some e => rw [Option.filter_some, if_pos (decide_eq_true (hs.jobId_of_latest? hlatest))]

/-- Whoever accepts an event of a job follows it from then on. -/
theorem follows_of_accepted (hs : h.Sound) (haccepted : accepted h (call.act h) c job ≠ []) :
    (call.act h).subscriptions.Follows c job := by
  rw [accepted_act hs] at haccepted
  split at haccepted
  · exact absurd rfl haccepted
  · next hr =>
    have hdelivery : (call.delivery? h c).filter (·.jobId = job) ≠ none :=
      fun hnone => haccepted (by rw [hnone]; rfl)
    -- it has not left, and unless it joins it has followed the job before
    rw [follows_act hs]
    constructor
    · rintro (hleaves | ⟨-, hrefuses⟩)
      · rw [HubCall.delivery?_of_leaves hleaves] at hdelivery
        exact hdelivery rfl
      · exact hr hrefuses
    · by_contra hout
      obtain ⟨hfollows, hjoin⟩ := not_or.mp hout
      rw [filter_delivery? hs hjoin, if_neg hfollows] at hdelivery
      exact hdelivery rfl

/-- A connection that is evicted is closed, and follows nothing. -/
theorem evicted (hs : h.Sound) (hevicts : call.Evicts h c) :
    ((call.act h).connection c).closed = true ∧
      ∀ job, ¬(call.act h).subscriptions.Follows c job := by
  refine ⟨?_, fun job hfollows => ((follows_act hs call c job).mp hfollows).1 (.inr hevicts)⟩
  obtain ⟨hsome, hr⟩ := hevicts
  cases call with
  | publish e => exact closed_of_turn (seat_publish hs.subscriptions e c) hsome hr
  | forget j => cases hsome
  | visit v =>
    cases v with
    | join c' j => exact closed_of_turn (seat_join hs.subscriptions c c' j) hsome hr
    | _ => cases hsome

/-! ## Periods -/

/-- No call ends the subscription of a connection to a job. -/
def Lasts (c : ConnectionId) (job : JobId) : Hub → List HubCall → Prop
  | _, [] => True
  | h, call :: cs => ¬call.Ends h c job ∧ Lasts c job (call.act h) cs

instance decidableLasts (c : ConnectionId) (job : JobId) :
    (h : Hub) → (cs : List HubCall) → Decidable (Lasts c job h cs)
  | _, [] => .isTrue trivial
  | h, call :: cs =>
    have := decidableLasts c job (call.act h) cs
    inferInstanceAs (Decidable (_ ∧ _))

/-- A connection has joined a job, and nothing has ended its subscription since. -/
def InPeriod (capacity : Nat) (cs : List HubCall) (c : ConnectionId) (job : JobId) : Prop :=
  ∃ before during, cs = before ++ .visit (.join c job) :: during ∧
    Lasts c job ((empty capacity).calls before) (.visit (.join c job) :: during)

/-- The events of a job that some calls publish. -/
def published (job : JobId) (cs : List HubCall) : List Event := cs.filterMap (·.published? job)

theorem lasts_append {cs' : List HubCall} :
    Lasts c job h (cs ++ cs') ↔ Lasts c job h cs ∧ Lasts c job (h.calls cs) cs' := by
  induction cs generalizing h with
  | nil => exact (iff_of_eq (true_and _)).symm
  | cons call cs ih => exact (and_congr_right fun _ => ih).trans and_assoc.symm

theorem follows_of_lasts (hs : h.Sound) (hfollows : h.subscriptions.Follows c job)
    (hlasts : Lasts c job h cs) : (h.calls cs).subscriptions.Follows c job := by
  induction cs generalizing h with
  | nil => exact hfollows
  | cons call cs ih =>
    exact ih (hs.act call) ((follows_act hs call c job).mpr ⟨hlasts.1, .inl hfollows⟩) hlasts.2

theorem follows_of_inPeriod {capacity : Nat} (h : InPeriod capacity cs c job) :
    ((empty capacity).calls cs).subscriptions.Follows c job := by
  obtain ⟨before, during, rfl, hends, hlasts⟩ := h
  have hs := (sound_empty capacity).calls before
  rw [calls_append]
  have hjoined := (follows_act hs _ c job).mpr ⟨hends, .inr rfl⟩
  exact follows_of_lasts (h := HubCall.act _ (.visit (.join c job))) (hs.act _) hjoined hlasts

/-- A connection follows a job exactly in its periods. -/
theorem follows_calls (capacity : Nat) (cs : List HubCall) (c : ConnectionId) (job : JobId) :
    ((empty capacity).calls cs).subscriptions.Follows c job ↔ InPeriod capacity cs c job := by
  refine ⟨?_, follows_of_inPeriod⟩
  induction cs using List.reverseRecOn with
  | nil => exact fun hfollows => absurd hfollows Subscriptions.not_follows_empty
  | append_singleton cs call ih =>
    intro hfollows
    rw [calls_append] at hfollows
    obtain ⟨hends, hold | rfl⟩ :=
      (follows_act ((sound_empty capacity).calls cs) call c job).mp hfollows
    · -- the period goes on for one call more
      obtain ⟨before, during, rfl, hlasts⟩ := ih hold
      refine ⟨before, during ++ [call], by simp, ?_⟩
      rw [calls_append] at hends
      have hperiod : Lasts c job ((empty capacity).calls before)
          ((.visit (.join c job) :: during) ++ [call]) :=
        lasts_append.mpr ⟨hlasts, hends, trivial⟩
      exact hperiod
    · exact ⟨cs, [], rfl, hends, trivial⟩

/-- The events of a job that some calls offer to a connection that follows it: those that they
publish, and the latest one whenever it joins again. -/
def offered (c : ConnectionId) (job : JobId) : Hub → List HubCall → List Event :=
  collect HubCall.act fun h call => (call.offer? h c job).toList

/-- A follower accepts what it is offered. -/
theorem accepted_of_offer (hs : h.Sound) (hfollows : h.subscriptions.Follows c job)
    (hends : ¬call.Ends h c job) :
    accepted h (call.act h) c job = (call.offer? h c job).toList := by
  by_cases hjoin : call = .visit (.join c job)
  · subst hjoin
    rw [HubCall.offer?_join]
    exact accepted_join hs hends
  · rw [HubCall.offer?_of_ne hjoin]
    exact accepted_of_follows hs hfollows hends hjoin

/-- A follower receives all that it is offered. -/
theorem received_of_lasts (hs : h.Sound) (hfollows : h.subscriptions.Follows c job)
    (hlasts : Lasts c job h cs) : received HubCall.act id c job h cs = offered c job h cs := by
  induction cs generalizing h with
  | nil => rfl
  | cons call cs ih =>
    have hnext := (follows_act hs call c job).mpr ⟨hlasts.1, .inl hfollows⟩
    have hnow := accepted_of_offer hs hfollows hlasts.1
    have hrest := ih (hs.act call) hnext hlasts.2
    exact congrArg₂ (· ++ ·) hnow hrest

/-- Where nothing is there to be replayed whenever a connection joins again, it is offered what is
published. -/
theorem offered_of_quiet (quiet : ∀ first last, cs = first ++ .visit (.join c job) :: last →
      (h.calls first).latest? job = none) : offered c job h cs = published job cs := by
  induction cs generalizing h with
  | nil => rfl
  | cons call cs ih =>
    have hrest := ih (h := call.act h) fun first last hcs =>
      quiet (call :: first) last (congrArg (call :: ·) hcs)
    have hcall : call.offer? h c job = call.published? job := by
      by_cases hjoin : call = .visit (.join c job)
      · subst hjoin
        rw [HubCall.offer?_join]
        exact quiet [] cs rfl
      · exact HubCall.offer?_of_ne hjoin
    show (call.offer? h c job).toList ++ offered c job (call.act h) cs = _
    rw [hrest, hcall, published, published, List.filterMap_cons]
    cases call.published? job <;> rfl

/-- A follower that does not join again receives what is published. -/
theorem received_of_follows (hs : h.Sound) (hfollows : h.subscriptions.Follows c job)
    (hlasts : Lasts c job h cs) (hjoin : .visit (.join c job) ∉ cs) :
    received HubCall.act id c job h cs = published job cs := by
  rw [received_of_lasts hs hfollows hlasts]
  refine offered_of_quiet fun first last hcs => absurd ?_ hjoin
  rw [hcs]
  exact List.mem_append_right first List.mem_cons_self

/-- A connection that follows nothing has to join before it follows a job. -/
theorem not_follows_of_no_join (hs : h.Sound) (hfollows : ¬h.subscriptions.Follows c job)
    (hjoin : .visit (.join c job) ∉ cs) : ¬(h.calls cs).subscriptions.Follows c job := by
  induction cs generalizing h with
  | nil => exact hfollows
  | cons call cs ih =>
    obtain ⟨hcall, hjoin⟩ := not_or.mp (List.mem_cons.not.mp hjoin)
    refine ih (hs.act call) (fun hnext => ?_) hjoin
    rcases ((follows_act hs call c job).mp hnext).2 with hold | hnew
    · exact hfollows hold
    · exact hcall hnew.symm

/-! ## Streams -/

/-- What a connection receives of a job in the course of some calls. -/
structure Streams (capacity : Nat) (cs : List HubCall) (c : ConnectionId) (job : JobId) : Prop where
  /-- It follows the job in its periods, and at no other time. -/
  follows : ∀ before rest, cs = before ++ rest →
    (((empty capacity).calls before).subscriptions.Follows c job ↔ InPeriod capacity before c job)
  /-- In a period it receives the latest event at its beginning and what is published later on. -/
  stream : ∀ before during rest, cs = before ++ .visit (.join c job) :: (during ++ rest) →
    Lasts c job ((empty capacity).calls before) (.visit (.join c job) :: during) →
    received HubCall.act id c job ((empty capacity).calls before)
        (.visit (.join c job) :: during) =
      (((empty capacity).calls before).latest? job).toList ++ published job during
  /-- Whenever it receives an event, it is in a period. -/
  silent : ∀ before call rest, cs = before ++ call :: rest →
    accepted ((empty capacity).calls before) ((empty capacity).calls (before ++ [call])) c job
      ≠ [] →
    InPeriod capacity (before ++ [call]) c job
  /-- Once evicted, it is closed, and it follows nothing until it joins a job again. -/
  evicted : ∀ before call during rest, cs = before ++ call :: (during ++ rest) →
    call.Evicts ((empty capacity).calls before) c →
    (((empty capacity).calls (before ++ [call])).connection c).closed = true ∧
      ∀ job', .visit (.join c job') ∉ during →
        ¬((empty capacity).calls (before ++ call :: during)).subscriptions.Follows c job'

/-- A connection that joins a job only while it does not follow it receives, from then until it is
unsubscribed or evicted, the event that was the latest and all that are published, each once and in
their order. -/
theorem streams_calls (capacity : Nat) (cs : List HubCall) (c : ConnectionId) (job : JobId)
    (once : ∀ before rest, cs = before ++ .visit (.join c job) :: rest →
      ¬((empty capacity).calls before).subscriptions.Follows c job) :
    Streams capacity cs c job where
  follows before rest _ := follows_calls capacity before c job
  stream before during rest hcs hlasts := by
    have hs := (sound_empty capacity).calls before
    obtain ⟨hends, hduring⟩ := hlasts
    have hfollows := (follows_act hs _ c job).mpr ⟨hends, .inr rfl⟩
    have hjoin : .visit (.join c job) ∉ during := by
      -- the connection would join while it follows the job
      intro hmem
      obtain ⟨first, last, rfl⟩ := List.append_of_mem hmem
      exact once (before ++ .visit (.join c job) :: first) (last ++ rest) (by simp [hcs])
        (follows_of_inPeriod ⟨before, first, rfl, hends, (lasts_append.mp hduring).1⟩)
    exact congrArg₂ (· ++ ·) (accepted_join hs hends)
      (received_of_follows (hs.act _) hfollows hduring hjoin)
  silent before call rest _ haccepted := by
    rw [calls_append] at haccepted
    rw [← follows_calls, calls_append]
    exact follows_of_accepted ((sound_empty capacity).calls before) haccepted
  evicted before call during rest _ hevicts := by
    have hs := (sound_empty capacity).calls before
    obtain ⟨hclosed, hnothing⟩ := Hub.evicted hs hevicts
    rw [calls_append, calls_append]
    exact ⟨hclosed, fun job' hjoin =>
      not_follows_of_no_join (h := call.act _) (hs.act call) (hnothing job') hjoin⟩

/-- A connection with room for two events joins a job that has been queued, and the job is done. -/
def crampedCalls : List HubCall :=
  [.visit (.openConnection 2), .publish (.ofStatus .nil .pending none none),
    .visit (.join 0 .nil), .publish (.ofStatus .nil .processing none none),
    .publish (.ofStatus .nil .completed none none)]

/-- The replayed event and the next one fill the buffer, and the last event evicts. -/
theorem received_of_crampedCalls :
    received HubCall.act id 0 .nil ((empty 1).calls (crampedCalls.take 2))
        ((crampedCalls.drop 2).take 2) =
      [.ofStatus .nil .pending none none, .ofStatus .nil .processing none none] ∧
    (((empty 1).calls crampedCalls).connection 0).closed = true ∧
    ¬((empty 1).calls crampedCalls).subscriptions.Follows 0 .nil := by
  have streams := streams_calls 1 crampedCalls 0 .nil (by
    -- there is one call to join in the run
    intro before rest hcs
    rcases before with _ | ⟨_, _ | ⟨_, _ | ⟨_, _ | ⟨_, _ | ⟨_, _⟩⟩⟩⟩⟩ <;>
      simp [crampedCalls] at hcs
    obtain ⟨rfl, rfl, -⟩ := hcs
    decide)
  have hstream := streams.stream (crampedCalls.take 2)
    [.publish (.ofStatus .nil .processing none none)]
    [.publish (.ofStatus .nil .completed none none)] rfl (by decide)
  have hevicted := streams.evicted (crampedCalls.take 4)
    (.publish (.ofStatus .nil .completed none none)) [] [] rfl ⟨rfl, by decide⟩
  exact ⟨hstream, hevicted.1, hevicted.2 .nil (by simp)⟩

end Hub

end JobRunner
