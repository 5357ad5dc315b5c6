import JobRunner.Proofs.Store
import JobRunner.Proofs.Subscriptions
import Mathlib.Data.Finset.Card
import Mathlib.Data.Finset.Prod

/-!
# Subscriptions as a finite set

- `SubscriptionCall`: the calls that change the subscriptions.
- `SubscriptionCall.onPairs`, `SubscriptionCall.Answers`: the same calls on a finite set of pairs of
  a connection and a job, and what they answer there.
- `Subscriptions.Describes`: the indexes, their lists and their counts are those of a set of pairs.
- `Subscriptions.describes_calls`: after any calls the subscriptions describe the set that the same
  calls leave, the next call answers as on that set, and the counts are zero once all have left.
-/

namespace JobRunner

namespace Subscriptions

/-! ## Counting the pairs of a map to sets -/

section

variable {α β : Type} [Ord α] [Std.TransOrd α] [Std.LawfulEqOrd α] [Ord β] [Std.TransOrd β]
  [Std.LawfulEqOrd β] {t : Std.TreeMap α (Std.TreeSet β)} {R : Finset (α × β)}

/-- The pairs of a map to sets, entry by entry. -/
private def pairsOf (t : Std.TreeMap α (Std.TreeSet β)) : List (α × β) :=
  t.toList.flatMap fun entry => entry.2.toList.map (entry.1, ·)

private theorem mem_pairsOf {a : α} {b : β} : (a, b) ∈ pairsOf t ↔ b ∈ t.getD a ∅ := by
  have hentry : (a, b) ∈ pairsOf t ↔ ∃ bs, t[a]? = some bs ∧ b ∈ bs := by
    simp [pairsOf, Std.TreeMap.mem_toList_iff_getElem?_eq_some]
  rw [hentry, Std.TreeMap.getD_eq_getD_getElem?]
  cases t[a]? <;> simp

omit [Std.LawfulEqOrd β] in
private theorem nodup_pairsOf (t : Std.TreeMap α (Std.TreeSet β)) : (pairsOf t).Nodup := by
  refine List.nodup_flatMap.mpr ⟨fun entry _ => ?_, ?_⟩
  · exact (nodup_toList entry.2).map fun b b' h => (Prod.mk.inj h).2
  · -- two entries have different keys
    refine Std.TreeMap.distinct_keys_toList.imp fun {entry entry'} hne => ?_
    rintro ⟨a, b⟩ hmem hmem'
    obtain ⟨_, _, h⟩ := List.mem_map.mp hmem
    obtain ⟨_, _, h'⟩ := List.mem_map.mp hmem'
    refine hne (Std.LawfulEqCmp.compare_eq_iff_eq.mpr ?_)
    exact (Prod.mk.inj h).1.trans (Prod.mk.inj h').1.symm

omit [Std.LawfulEqOrd α] [Std.LawfulEqOrd β] [Std.TransOrd α] in
private theorem length_pairsOf (t : Std.TreeMap α (Std.TreeSet β)) :
    (pairsOf t).length = t.values.foldl (fun n bs => n + bs.size) 0 := by
  have hsum : t.values.foldl (fun n bs => n + bs.size) 0 = (t.values.map (·.size)).sum := by
    rw [List.sum_eq_foldl_nat, List.foldl_map]
  rw [hsum, values_eq_map_toList, pairsOf, List.length_flatMap, List.map_map]
  refine congrArg List.sum (List.map_congr_left fun entry _ => ?_)
  rw [List.length_map, Std.TreeSet.length_toList]
  rfl

/-- The sizes of the sets add up to the number of pairs. -/
private theorem sum_sizes_eq_card (hR : ∀ a b, b ∈ t.getD a ∅ ↔ (a, b) ∈ R) :
    t.values.foldl (fun n bs => n + bs.size) 0 = R.card := by
  classical
  have hpairs : (pairsOf t).toFinset = R := by
    ext ⟨a, b⟩
    rw [List.mem_toFinset, mem_pairsOf, hR]
  rw [← length_pairsOf, ← List.toFinset_card_of_nodup (nodup_pairsOf t), hpairs]

omit [Std.TransOrd β] [Std.LawfulEqOrd β] in
/-- A map without empty sets has an entry for each first component of a pair. -/
private theorem size_eq_card [DecidableEq α] (hR : ∀ a b, b ∈ t.getD a ∅ ↔ (a, b) ∈ R)
    (hnone : NoneEmpty t) : t.size = (R.image Prod.fst).card := by
  have hkeys : t.keys.toFinset = R.image Prod.fst := by
    ext a
    have hentry : a ∈ t ↔ ∃ b, b ∈ t.getD a ∅ := by
      rw [Std.TreeMap.mem_iff_isSome_getElem?, Std.TreeMap.getD_eq_getD_getElem?]
      cases ha : t[a]? with
      | none => simp
      | some bs => simpa using hnone a bs ha
    rw [List.mem_toFinset, Std.TreeMap.mem_keys, hentry]
    simp [hR]
  rw [← Std.TreeMap.length_keys, ← List.toFinset_card_of_nodup (nodup_keys t), hkeys]

end

end Subscriptions

/-! ## Calls -/

/-- A call that changes the subscriptions. -/
inductive SubscriptionCall where
  | subscribe (c : ConnectionId) (job : JobId)
  | unsubscribe (c : ConnectionId) (job : JobId)
  | unsubscribeAll (c : ConnectionId)

namespace SubscriptionCall

/-- What a call leaves behind. -/
def act (s : Subscriptions) : SubscriptionCall → Subscriptions
  | subscribe c job => (s.subscribe c job).2
  | unsubscribe c job => (s.unsubscribe c job).2
  | unsubscribeAll c => (s.unsubscribeAll c).2

/-- A call on a set of pairs: one pair is added or removed, or all pairs of a connection are. -/
def onPairs (R : Finset (ConnectionId × JobId)) : SubscriptionCall → Finset (ConnectionId × JobId)
  | subscribe c job => insert (c, job) R
  | unsubscribe c job => R.erase (c, job)
  | unsubscribeAll c => R.filter (·.1 ≠ c)

/-- A call answers as it does on a set of pairs: whether the pair is new, whether it was there, or
each job of the connection once. -/
def Answers (R : Finset (ConnectionId × JobId)) (s : Subscriptions) : SubscriptionCall → Prop
  | subscribe c job => (s.subscribe c job).1 = true ↔ (c, job) ∉ R
  | unsubscribe c job => (s.unsubscribe c job).1 = true ↔ (c, job) ∈ R
  | unsubscribeAll c =>
    (s.unsubscribeAll c).1.Nodup ∧ ∀ job, job ∈ (s.unsubscribeAll c).1 ↔ (c, job) ∈ R

end SubscriptionCall

namespace Subscriptions

/-- The subscriptions after some calls. -/
def calls (s : Subscriptions) (calls : List SubscriptionCall) : Subscriptions :=
  calls.foldl SubscriptionCall.act s

/-- The pairs that some calls leave. -/
def pairs (calls : List SubscriptionCall) : Finset (ConnectionId × JobId) :=
  calls.foldl SubscriptionCall.onPairs ∅

/-- The indexes, their lists and their counts are those of a set of pairs. -/
structure Describes (s : Subscriptions) (R : Finset (ConnectionId × JobId)) : Prop where
  byJob : ∀ job c, c ∈ s.byJob.getD job ∅ ↔ (c, job) ∈ R
  byConnection : ∀ c job, job ∈ s.byConnection.getD c ∅ ↔ (c, job) ∈ R
  compact : s.Compact
  connectionsFor : ∀ job, (s.connectionsFor job).Nodup ∧
    ∀ c, c ∈ s.connectionsFor job ↔ (c, job) ∈ R
  jobsFor : ∀ c, (s.jobsFor c).Nodup ∧ ∀ job, job ∈ s.jobsFor c ↔ (c, job) ∈ R
  connectionCount : s.connectionCount = (R.image Prod.fst).card
  jobCount : s.jobCount = (R.image Prod.snd).card
  subscriptionCount : s.subscriptionCount = R.card

/-- What the calls keep: the indexes agree, have no empty entries, and hold the pairs of a set. -/
private structure Holds (s : Subscriptions) (R : Finset (ConnectionId × JobId)) : Prop where
  sound : s.Sound
  compact : s.Compact
  follows : ∀ c job, s.Follows c job ↔ (c, job) ∈ R

variable {s : Subscriptions} {R : Finset (ConnectionId × JobId)}

private theorem Holds.act (h : s.Holds R) (call : SubscriptionCall) :
    (call.act s).Holds (call.onPairs R) := by
  cases call with
  | subscribe c job =>
    refine ⟨h.sound.subscribe c job, h.compact.subscribe c job, fun c' job' => ?_⟩
    refine follows_subscribe.trans ?_
    rw [h.follows, SubscriptionCall.onPairs, Finset.mem_insert, Prod.mk.injEq]
  | unsubscribe c job =>
    refine ⟨h.sound.unsubscribe c job, h.compact.unsubscribe c job, fun c' job' => ?_⟩
    refine follows_unsubscribe.trans ?_
    rw [h.follows, SubscriptionCall.onPairs, Finset.mem_erase, ne_eq, Prod.mk.injEq, and_comm]
  | unsubscribeAll c =>
    refine ⟨h.sound.unsubscribeAll c, h.compact.unsubscribeAll c, fun c' job' => ?_⟩
    refine (follows_unsubscribeAll h.sound).trans ?_
    rw [h.follows, SubscriptionCall.onPairs, Finset.mem_filter]

private theorem Holds.calls (h : s.Holds R) (cs : List SubscriptionCall) :
    (s.calls cs).Holds (cs.foldl SubscriptionCall.onPairs R) := by
  induction cs generalizing s R with
  | nil => exact h
  | cons call cs ih => exact ih (h.act call)

private theorem holds_calls (cs : List SubscriptionCall) : (empty.calls cs).Holds (pairs cs) := by
  refine Holds.calls ⟨sound_empty, compact_empty, fun c job => ?_⟩ cs
  exact iff_of_false not_follows_empty (Finset.notMem_empty _)

private theorem Holds.describes (h : s.Holds R) : s.Describes R := by
  have hconnections : ∀ job c, c ∈ s.byJob.getD job ∅ ↔ (c, job) ∈ R :=
    fun job c => follows_iff.symm.trans (h.follows c job)
  have hjobs : ∀ c job, job ∈ s.byConnection.getD c ∅ ↔ (c, job) ∈ R :=
    fun c job => mem_jobsFor_iff.symm.trans ((h.sound c job).trans (h.follows c job))
  -- the index by job holds the pairs the other way round
  have hswapped : ∀ job c, c ∈ s.byJob.getD job ∅ ↔ (job, c) ∈ R.image Prod.swap := by
    intro job c
    rw [hconnections]
    simp
  have hsnd : (R.image Prod.swap).image Prod.fst = R.image Prod.snd := Finset.image_image
  exact {
    byJob := hconnections
    byConnection := hjobs
    compact := h.compact
    connectionsFor := fun job => ⟨s.nodup_connectionsFor job, fun c => h.follows c job⟩
    jobsFor := fun c => ⟨s.nodup_jobsFor c, fun job => (h.sound c job).trans (h.follows c job)⟩
    connectionCount := size_eq_card hjobs h.compact.byConnection
    jobCount := (size_eq_card hswapped h.compact.byJob).trans (congrArg Finset.card hsnd)
    subscriptionCount := sum_sizes_eq_card hjobs }

private theorem Holds.answers (h : s.Holds R) (call : SubscriptionCall) : call.Answers R s := by
  have hcontains : ∀ c job, (s.byJob.getD job ∅).contains c = true ↔ (c, job) ∈ R := by
    intro c job
    rw [← Std.TreeSet.mem_iff_contains, ← follows_iff, h.follows]
  cases call with
  | subscribe c job =>
    show (!(s.byJob.getD job ∅).contains c) = true ↔ _
    rw [Bool.not_eq_true', ← Bool.not_eq_true, hcontains]
  | unsubscribe c job => exact hcontains c job
  | unsubscribeAll c =>
    exact ⟨s.nodup_jobsFor c, fun job => (h.sound c job).trans (h.follows c job)⟩

/-- Connections that leave one after the other take all their pairs with them. -/
theorem pairs_append_unsubscribeAll (cs : List SubscriptionCall) (gone : List ConnectionId) :
    pairs (cs ++ gone.map .unsubscribeAll) = (pairs cs).filter (·.1 ∉ gone) := by
  induction gone using List.reverseRecOn with
  | nil => simp
  | append_singleton gone c ih =>
    rw [pairs, List.map_append, ← List.append_assoc, List.foldl_append, ← pairs, ih]
    show Finset.filter _ (Finset.filter _ _) = _
    rw [Finset.filter_filter]
    refine Finset.filter_congr fun p _ => ?_
    simp [not_or]

/-- After any calls the subscriptions describe the pairs that the calls leave, whichever call comes
next answers as it does on these pairs, and all counts are zero once every connection has left. -/
theorem describes_calls (cs : List SubscriptionCall) :
    (empty.calls cs).Describes (pairs cs) ∧
      (∀ call : SubscriptionCall, call.Answers (pairs cs) (empty.calls cs)) ∧
      ∀ gone : List ConnectionId, (∀ p ∈ pairs cs, p.1 ∈ gone) →
        let left := empty.calls (cs ++ gone.map .unsubscribeAll)
        left.connectionCount = 0 ∧ left.jobCount = 0 ∧ left.subscriptionCount = 0 := by
  refine ⟨(holds_calls cs).describes, (holds_calls cs).answers, fun gone hgone => ?_⟩
  have hnone : pairs (cs ++ gone.map .unsubscribeAll) = ∅ := by
    rw [pairs_append_unsubscribeAll, Finset.filter_eq_empty_iff]
    exact fun p hp hnot => hnot (hgone p hp)
  have hleft := (holds_calls (cs ++ gone.map .unsubscribeAll)).describes
  rw [hnone] at hleft
  exact ⟨hleft.connectionCount, hleft.jobCount, hleft.subscriptionCount⟩

end Subscriptions

end JobRunner
