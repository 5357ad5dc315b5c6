import JobRunner.Proofs.Streams
import Mathlib.Data.List.Perm.Subperm

/-!
# Joining again

A connection may join a job that it follows already. Its subscriptions stay as they are, but the
latest event is delivered to it once more.

- `Hub.Repeats`: what a connection receives of a job when it joins again and again.
- `Hub.repeats_calls`: that is so in every run; a connection receives nothing twice where each
  repetition comes before anything has been published.
- `Hub.not_single_of_join_again`: after a publication it receives the same event twice, or is
  evicted.
-/

namespace JobRunner

namespace Hub

variable {h : Hub} {c : ConnectionId} {job : JobId}

/-- To join again is to be delivered the latest event. -/
theorem seat_join_again (hs : h.Sound) (hfollows : h.subscriptions.Follows c job) :
    (h.join c job).2.seat c = (h.seat c).offer? (h.latest? job) := by
  have hfollow : (h.seat c).follow job = h.seat c := by
    refine Seat.ext rfl (funext fun j => propext ?_)
    show j = job ∨ h.subscriptions.Follows c j ↔ h.subscriptions.Follows c j
    exact or_iff_right_of_imp fun hj => hj ▸ hfollows
  rw [seat_join hs.subscriptions, if_pos rfl, if_pos rfl, Seat.turn, Option.elim_some, hfollow]

/-- What a connection receives of a job that it joins, and joins again. -/
structure Repeats (capacity : Nat) (cs : List HubCall) (c : ConnectionId) (job : JobId) : Prop where
  /-- In a period it receives the latest event at its beginning, what is published later on, and
  the latest event again whenever it joins again. -/
  stream : ∀ before during rest, cs = before ++ .visit (.join c job) :: (during ++ rest) →
    Lasts c job ((empty capacity).calls before) (.visit (.join c job) :: during) →
    received HubCall.act id c job ((empty capacity).calls before)
        (.visit (.join c job) :: during) =
      (((empty capacity).calls before).latest? job).toList ++
        offered c job ((empty capacity).calls (before ++ [.visit (.join c job)])) during
  /-- If there is no latest event whenever it joins again, it receives every event once. -/
  single : ∀ before during rest, cs = before ++ .visit (.join c job) :: (during ++ rest) →
    Lasts c job ((empty capacity).calls before) (.visit (.join c job) :: during) →
    (∀ first last, during = first ++ .visit (.join c job) :: last →
      ((empty capacity).calls (before ++ .visit (.join c job) :: first)).latest? job = none) →
    received HubCall.act id c job ((empty capacity).calls before)
        (.visit (.join c job) :: during) =
      (((empty capacity).calls before).latest? job).toList ++ published job during
  /-- To join again is to be delivered the latest event, and nothing else. -/
  again : ∀ before rest, cs = before ++ .visit (.join c job) :: rest →
    ((empty capacity).calls before).subscriptions.Follows c job →
    ((empty capacity).calls (before ++ [.visit (.join c job)])).seat c =
      (((empty capacity).calls before).seat c).offer? (((empty capacity).calls before).latest? job)

/-- However often a connection joins a job, it receives what has been published of it, and the
latest event once more for every repetition. -/
theorem repeats_calls (capacity : Nat) (cs : List HubCall) (c : ConnectionId) (job : JobId) :
    Repeats capacity cs c job := by
  have hstream : ∀ before during,
      Lasts c job ((empty capacity).calls before) (.visit (.join c job) :: during) →
      received HubCall.act id c job ((empty capacity).calls before)
          (.visit (.join c job) :: during) =
        (((empty capacity).calls before).latest? job).toList ++
          offered c job ((empty capacity).calls (before ++ [.visit (.join c job)])) during := by
    intro before during hlasts
    have hs := (sound_empty capacity).calls before
    obtain ⟨hends, hduring⟩ := hlasts
    have hfollows := (follows_act hs _ c job).mpr ⟨hends, .inr rfl⟩
    rw [calls_append]
    exact congrArg₂ (· ++ ·) (accepted_join hs hends)
      (received_of_lasts (hs.act _) hfollows hduring)
  refine ⟨fun before during rest _ => hstream before during, ?_, ?_⟩
  · intro before during rest _ hlasts hquiet
    rw [hstream before during hlasts, offered_of_quiet]
    intro first last hduring
    have hnone := hquiet first last hduring
    rw [← calls_append, List.append_assoc]
    exact hnone
  · intro before rest _ hfollows
    rw [calls_append]
    exact seat_join_again ((sound_empty capacity).calls before) hfollows

/-- A connection joins a job, the job is done, and the connection joins it again. -/
def eagerCalls (room : Nat) : List HubCall :=
  [.visit (.openConnection room), .visit (.join 0 .nil),
    .publish (.ofStatus .nil .completed none none), .visit (.join 0 .nil)]

/-- Not every connection receives an event at most as often as it has been published, and one that
joins again may find its buffer changed, and its subscriptions. -/
theorem not_single_of_join_again :
    (¬∀ (capacity : Nat) (before during : List HubCall) (c : ConnectionId) (job : JobId),
      Lasts c job ((empty capacity).calls before) (.visit (.join c job) :: during) →
      (received HubCall.act id c job ((empty capacity).calls before)
        (.visit (.join c job) :: during)).Subperm (published job (before ++ during))) ∧
    (¬∀ (capacity : Nat) (before : List HubCall) (c : ConnectionId) (job : JobId),
      ((empty capacity).calls before).subscriptions.Follows c job →
      (((empty capacity).calls (before ++ [.visit (.join c job)])).connection c).buffer =
        (((empty capacity).calls before).connection c).buffer) ∧
    ¬∀ (capacity : Nat) (before : List HubCall) (c : ConnectionId) (job : JobId),
      ((empty capacity).calls before).subscriptions.Follows c job →
      ((empty capacity).calls (before ++ [.visit (.join c job)])).subscriptions.Follows c job := by
  refine ⟨fun once => ?_, fun kept => ?_, fun stays => ?_⟩
  · have hlasts : Lasts 0 .nil ((empty 1).calls ((eagerCalls 2).take 1))
        ((eagerCalls 2).drop 1) := by
      decide +kernel
    have htwice := (once 1 _ _ 0 .nil hlasts).length_le
    revert htwice
    decide +kernel
  · have hsame := congrArg List.length (kept 1 ((eagerCalls 2).take 3) 0 .nil (by decide +kernel))
    revert hsame
    decide +kernel
  · have hfollows := stays 1 ((eagerCalls 1).take 3) 0 .nil (by decide +kernel)
    revert hfollows
    decide +kernel

end Hub

end JobRunner
