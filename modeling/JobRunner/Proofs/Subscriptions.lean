import JobRunner.Hub.Subscriptions
import Mathlib.Tactic.Common

/-!
# Subscriptions as pairs

What the operations do to the pairs of a connection and a job, whichever index they are read from.

- `Subscriptions.Follows`: whether a pair is there.
- `Subscriptions.Sound`: both indexes hold the same pairs.
- `Subscriptions.follows_unsubscribeAll`: a connection is taken out of the entries of all its jobs,
  which are found in the other index.
- `Subscriptions.Compact`: neither index holds an empty entry.
-/

namespace JobRunner.Subscriptions

/-! ## Maps to sets -/

section

variable {α β : Type} [Ord α] [Std.TransOrd α] [Std.LawfulEqOrd α] [Ord β] [Std.TransOrd β]
  [Std.LawfulEqOrd β] {t : Std.TreeMap α (Std.TreeSet β)} {a a' : α} {b b' : β}

/-- A map to sets without a pair, and without the entry that is left empty by that. -/
private def without (t : Std.TreeMap α (Std.TreeSet β)) (a : α) (b : β) :
    Std.TreeMap α (Std.TreeSet β) :=
  match t[a]? with
  | some bs =>
    let left := bs.erase b
    if left.isEmpty then t.erase a else t.insert a left
  | none => t

/-- What is added to an index is found there. -/
private theorem mem_getD_insert :
    b' ∈ (t.insert a ((t.getD a ∅).insert b)).getD a' ∅ ↔
      (a' = a ∧ b' = b) ∨ b' ∈ t.getD a' ∅ := by
  rw [Std.TreeMap.getD_insert]
  split
  · next h =>
    obtain rfl := Std.LawfulEqCmp.compare_eq_iff_eq.mp h
    rw [Std.TreeSet.mem_insert, Std.LawfulEqCmp.compare_eq_iff_eq, eq_comm]
    simp
  · next h =>
    rw [Std.LawfulEqCmp.compare_eq_iff_eq] at h
    simp [Ne.symm h]

omit [Std.TransOrd β] [Std.LawfulEqOrd β] in
private theorem mem_getD_erase : b' ∈ (t.erase a).getD a' ∅ ↔ b' ∈ t.getD a' ∅ ∧ a' ≠ a := by
  rw [Std.TreeMap.getD_erase]
  split
  · next h => simp [Std.LawfulEqCmp.compare_eq_iff_eq.mp h]
  · next h =>
    rw [Std.LawfulEqCmp.compare_eq_iff_eq] at h
    simp [Ne.symm h]

/-- What is taken out of an index is not. -/
private theorem mem_getD_without :
    b' ∈ (without t a b).getD a' ∅ ↔ b' ∈ t.getD a' ∅ ∧ ¬(a' = a ∧ b' = b) := by
  unfold without
  cases ha : t[a]? with
  | none =>
    -- there is no entry to take the pair out of
    have hempty : t.getD a ∅ = ∅ := by rw [Std.TreeMap.getD_eq_getD_getElem?, ha]; rfl
    refine (and_iff_left_of_imp fun hb ⟨h, _⟩ => ?_).symm
    rw [h, hempty] at hb
    exact Std.TreeSet.not_mem_emptyc hb
  | some bs =>
    have hbs : t.getD a ∅ = bs := by rw [Std.TreeMap.getD_eq_getD_getElem?, ha]; rfl
    have herase : ∀ x, x ∈ bs.erase b ↔ x ∈ bs ∧ x ≠ b := by
      intro x
      rw [Std.TreeSet.mem_erase, ne_eq, Std.LawfulEqCmp.compare_eq_iff_eq, and_comm, eq_comm]
    dsimp only
    split
    · next hleft =>
      rw [Std.TreeSet.isEmpty_iff_forall_not_mem] at hleft
      rw [mem_getD_erase]
      refine and_congr_right fun hb => not_congr ⟨fun h => ⟨h, ?_⟩, And.left⟩
      subst h
      rw [hbs] at hb
      by_contra hne
      exact hleft b' ((herase b').mpr ⟨hb, hne⟩)
    · rw [Std.TreeMap.getD_insert]
      split
      · next h =>
        obtain rfl := Std.LawfulEqCmp.compare_eq_iff_eq.mp h
        rw [hbs, herase]
        simp
      · next h =>
        rw [Std.LawfulEqCmp.compare_eq_iff_eq] at h
        simp [Ne.symm h]

omit [Std.LawfulEqOrd β] in
/-- The members of a set are listed once. -/
theorem nodup_toList (bs : Std.TreeSet β) : bs.toList.Nodup := by
  refine List.Pairwise.imp (fun {a b} hne h => hne ?_) Std.TreeSet.distinct_toList
  rw [h]
  exact Std.ReflCmp.compare_self

/-- No set of a map is empty. -/
def NoneEmpty (t : Std.TreeMap α (Std.TreeSet β)) : Prop :=
  ∀ (a : α) (bs : Std.TreeSet β), t[a]? = some bs → ∃ b, b ∈ bs

omit [Std.LawfulEqOrd α] [Std.TransOrd β] [Std.LawfulEqOrd β] in
/-- What has a member is put into an index. -/
private theorem NoneEmpty.insert (h : NoneEmpty t) (a : α) {bs : Std.TreeSet β} (hb : b ∈ bs) :
    NoneEmpty (t.insert a bs) := by
  intro a' bs' hbs'
  rw [Std.TreeMap.getElem?_insert] at hbs'
  split at hbs'
  · cases hbs'
    exact ⟨b, hb⟩
  · exact h a' bs' hbs'

omit [Std.LawfulEqOrd α] [Std.TransOrd β] [Std.LawfulEqOrd β] in
private theorem NoneEmpty.erase (h : NoneEmpty t) (a : α) : NoneEmpty (t.erase a) := by
  intro a' bs' hbs'
  rw [Std.TreeMap.getElem?_erase] at hbs'
  split at hbs'
  · cases hbs'
  · exact h a' bs' hbs'

omit [Std.LawfulEqOrd α] [Std.LawfulEqOrd β] in
/-- A set that loses its last member is taken out of its index. -/
private theorem NoneEmpty.without (h : NoneEmpty t) (a : α) (b : β) :
    NoneEmpty (without t a b) := by
  unfold Subscriptions.without
  split
  · dsimp only
    split
    · exact h.erase a
    · next hleft =>
      rw [Std.TreeSet.isEmpty_iff_forall_not_mem, not_forall_not] at hleft
      exact h.insert a hleft.choose_spec
  · exact h

omit [Std.LawfulEqOrd α] in
/-- Maps without empty sets that hold the same pairs have the same entries. -/
theorem NoneEmpty.map_toList_eq {t' : Std.TreeMap α (Std.TreeSet β)} (h : NoneEmpty t)
    (h' : NoneEmpty t') (same : ∀ a b, b ∈ t.getD a ∅ ↔ b ∈ t'.getD a ∅) (a : α) :
    t[a]?.map (·.toList) = t'[a]?.map (·.toList) := by
  have hsame := same a
  rw [Std.TreeMap.getD_eq_getD_getElem?, Std.TreeMap.getD_eq_getD_getElem?] at hsame
  cases hbs : t[a]? with
  | none =>
    cases hbs' : t'[a]? with
    | none => rfl
    | some bs' =>
      -- a set that is not empty has a pair that the other map lacks
      obtain ⟨b, hb⟩ := h' a bs' hbs'
      rw [hbs, hbs'] at hsame
      exact absurd ((hsame b).mpr hb) Std.TreeSet.not_mem_emptyc
  | some bs =>
    cases hbs' : t'[a]? with
    | none =>
      obtain ⟨b, hb⟩ := h a bs hbs
      rw [hbs, hbs'] at hsame
      exact absurd ((hsame b).mp hb) Std.TreeSet.not_mem_emptyc
    | some bs' =>
      rw [hbs, hbs'] at hsame
      have hequiv : bs.Equiv bs' := .of_forall_mem_iff hsame
      exact congrArg some hequiv.toList_eq

private theorem dropConnection_eq_without (job : JobId) (c : ConnectionId)
    (byJob : Std.TreeMap JobId (Std.TreeSet ConnectionId)) :
    dropConnection byJob job c = without byJob job c := by
  unfold dropConnection without
  cases byJob[job]? <;> rfl

private theorem dropJob_eq_without (c : ConnectionId) (job : JobId)
    (byConnection : Std.TreeMap ConnectionId (Std.TreeSet JobId)) :
    dropJob byConnection c job = without byConnection c job := by
  unfold dropJob without
  cases byConnection[c]? <;> rfl

end

/-! ## Pairs -/

/-- A connection follows a job. -/
def Follows (s : Subscriptions) (c : ConnectionId) (job : JobId) : Prop := c ∈ s.connectionsFor job

instance (s : Subscriptions) (c : ConnectionId) (job : JobId) : Decidable (s.Follows c job) :=
  inferInstanceAs (Decidable (c ∈ s.connectionsFor job))

/-- Both indexes hold the same pairs. -/
def Sound (s : Subscriptions) : Prop := ∀ c job, job ∈ s.jobsFor c ↔ s.Follows c job

variable {s : Subscriptions} {c c' : ConnectionId} {job job' : JobId}

theorem follows_iff : s.Follows c job ↔ c ∈ s.byJob.getD job ∅ := Std.TreeSet.mem_toList

theorem mem_jobsFor_iff : job ∈ s.jobsFor c ↔ job ∈ s.byConnection.getD c ∅ :=
  Std.TreeSet.mem_toList

/-- No connection is listed twice for a job. -/
theorem nodup_connectionsFor (s : Subscriptions) (job : JobId) : (s.connectionsFor job).Nodup :=
  nodup_toList _

/-- At first nobody follows anything. -/
theorem not_follows_empty : ¬empty.Follows c job := by
  rw [follows_iff]
  exact Std.TreeSet.not_mem_emptyc

theorem sound_empty : empty.Sound := by
  intro c job
  refine iff_of_false (fun hjob => ?_) not_follows_empty
  rw [mem_jobsFor_iff] at hjob
  exact Std.TreeSet.not_mem_emptyc hjob

/-- No job is listed twice for a connection. -/
theorem nodup_jobsFor (s : Subscriptions) (c : ConnectionId) : (s.jobsFor c).Nodup :=
  nodup_toList _

/-! ## Operations -/

@[simp] theorem follows_subscribe :
    (s.subscribe c job).2.Follows c' job' ↔ (c' = c ∧ job' = job) ∨ s.Follows c' job' := by
  rw [follows_iff, follows_iff, and_comm]
  exact mem_getD_insert

/-- The two indexes agree after a subscription. -/
theorem Sound.subscribe (h : s.Sound) (c : ConnectionId) (job : JobId) :
    (s.subscribe c job).2.Sound := by
  intro c' job'
  rw [follows_subscribe, ← h c' job', mem_jobsFor_iff, mem_jobsFor_iff]
  exact mem_getD_insert

@[simp] theorem follows_unsubscribe :
    (s.unsubscribe c job).2.Follows c' job' ↔ s.Follows c' job' ∧ ¬(c' = c ∧ job' = job) := by
  rw [follows_iff, follows_iff, and_comm (a := c' = c), unsubscribe, dropConnection_eq_without]
  exact mem_getD_without

/-- They agree when it is ended. -/
theorem Sound.unsubscribe (h : s.Sound) (c : ConnectionId) (job : JobId) :
    (s.unsubscribe c job).2.Sound := by
  intro c' job'
  rw [follows_unsubscribe, ← h c' job', mem_jobsFor_iff, mem_jobsFor_iff]
  show job' ∈ (dropJob s.byConnection c job).getD c' ∅ ↔ _
  rw [dropJob_eq_without]
  exact mem_getD_without

/-- A connection is taken out of the entries of some jobs. -/
private theorem mem_getD_foldl_dropConnection (jobs : List JobId)
    (byJob : Std.TreeMap JobId (Std.TreeSet ConnectionId)) :
    c' ∈ (jobs.foldl (fun byJob job => dropConnection byJob job c) byJob).getD job' ∅ ↔
      c' ∈ byJob.getD job' ∅ ∧ ¬(job' ∈ jobs ∧ c' = c) := by
  induction jobs generalizing byJob with
  | nil => simp
  | cons job jobs ih =>
    rw [List.foldl_cons, ih, dropConnection_eq_without, mem_getD_without, List.mem_cons]
    tauto

/-- Who leaves all jobs follows none; the others follow what they did. -/
theorem follows_unsubscribeAll (h : s.Sound) :
    (s.unsubscribeAll c).2.Follows c' job' ↔ s.Follows c' job' ∧ c' ≠ c := by
  rw [follows_iff, follows_iff]
  refine (mem_getD_foldl_dropConnection _ _).trans (and_congr_right fun hfollows => ?_)
  -- all jobs of the connection are found in the other index
  refine not_congr (and_iff_right_of_imp fun hc => ?_)
  rw [h c job', ← hc, follows_iff]
  exact hfollows

/-- They agree when a connection leaves all its jobs. -/
theorem Sound.unsubscribeAll (h : s.Sound) (c : ConnectionId) : (s.unsubscribeAll c).2.Sound := by
  intro c' job'
  rw [follows_unsubscribeAll h, ← h c' job', mem_jobsFor_iff, mem_jobsFor_iff]
  exact mem_getD_erase

/-! ## Entries -/

/-- Neither index holds an empty entry. -/
structure Compact (s : Subscriptions) : Prop where
  byJob : NoneEmpty s.byJob
  byConnection : NoneEmpty s.byConnection

theorem compact_empty : empty.Compact := by
  have hnone : ∀ {α β : Type} [Ord α] [Std.TransOrd α] [Ord β],
      NoneEmpty (∅ : Std.TreeMap α (Std.TreeSet β)) := by
    intro α β _ _ _ a bs hbs
    rw [Std.TreeMap.getElem?_emptyc] at hbs
    cases hbs
  exact ⟨hnone, hnone⟩

namespace Compact

theorem subscribe (h : s.Compact) (c : ConnectionId) (job : JobId) :
    (s.subscribe c job).2.Compact :=
  ⟨h.byJob.insert job Std.TreeSet.mem_insert_self,
    h.byConnection.insert c Std.TreeSet.mem_insert_self⟩

theorem unsubscribe (h : s.Compact) (c : ConnectionId) (job : JobId) :
    (s.unsubscribe c job).2.Compact := by
  refine ⟨?_, ?_⟩
  · show NoneEmpty (dropConnection s.byJob job c)
    rw [dropConnection_eq_without]
    exact h.byJob.without job c
  · show NoneEmpty (dropJob s.byConnection c job)
    rw [dropJob_eq_without]
    exact h.byConnection.without c job

theorem unsubscribeAll (h : s.Compact) (c : ConnectionId) : (s.unsubscribeAll c).2.Compact := by
  have hfold : ∀ (jobs : List JobId) (byJob : Std.TreeMap JobId (Std.TreeSet ConnectionId)),
      NoneEmpty byJob →
      NoneEmpty (jobs.foldl (fun byJob job => dropConnection byJob job c) byJob) := by
    intro jobs
    induction jobs with
    | nil => exact fun _ hnone => hnone
    | cons job jobs ih =>
      intro byJob hnone
      rw [List.foldl_cons, dropConnection_eq_without]
      exact ih _ (hnone.without job c)
  exact ⟨hfold _ _ h.byJob, h.byConnection.erase c⟩

end Compact

end JobRunner.Subscriptions
