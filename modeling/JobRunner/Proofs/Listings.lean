import JobRunner.Proofs.Store
import Mathlib.Data.List.Sort

/-!
# The order of listings

- `Job.Older`: the order in which jobs are listed, by time of creation and then by id.
- `Job.sorted_mergeSort`: sorting brings jobs into this order, whichever order they come in.
- `Store.sorted_listByType`: a store lists jobs in this order.
-/

namespace JobRunner

instance : Std.TransOrd Instant :=
  inferInstanceAs (Std.TransCmp (compareLex (compareOn Instant.second) (compareOn Instant.nano)))

instance : Std.LawfulEqOrd Instant where
  eq_of_compare {a b} h := by
    obtain ⟨hsecond, hnano⟩ : compare a.second b.second = .eq ∧ compare a.nano b.nano = .eq := by
      have hthen : (compare a.second b.second).then (compare a.nano b.nano) = .eq := h
      exact Ordering.then_eq_eq.mp hthen
    obtain ⟨s, n⟩ := a
    obtain ⟨s', n'⟩ := b
    obtain rfl : s = s' := Std.LawfulEqCmp.eq_of_compare hsecond
    obtain rfl : n = n' := Std.LawfulEqCmp.eq_of_compare hnano
    rfl

private theorem compare_self_ne_lt {α : Type} [Ord α] [Std.ReflOrd α] (a : α) :
    compare a a ≠ .lt := by
  have hself : compare a a = .eq := Std.ReflCmp.compare_self
  rw [hself]
  exact Ordering.noConfusion

namespace Job

variable {a b : Job}

/-- `a` was created before `b`, or at the same time and has the smaller id. -/
def Older (a b : Job) : Prop :=
  compare a.createdAt b.createdAt = .lt ∨ a.createdAt = b.createdAt ∧ compare a.id b.id = .lt

theorem not_older_self (a : Job) : ¬a.Older a := by
  rintro (hlt | ⟨-, hlt⟩)
  · exact compare_self_ne_lt _ hlt
  · exact compare_self_ne_lt _ hlt

theorem Older.not_older (h : a.Older b) : ¬b.Older a := by
  rintro (hlt | ⟨heq, hlt⟩)
  · rcases h with hlt' | ⟨heq', -⟩
    · exact Std.OrientedCmp.not_lt_of_lt hlt hlt'
    · exact compare_self_ne_lt _ (heq' ▸ hlt)
  · rcases h with hlt' | ⟨-, hlt'⟩
    · exact compare_self_ne_lt _ (heq ▸ hlt')
    · exact Std.OrientedCmp.not_lt_of_lt hlt hlt'

instance : Std.Irrefl Older := ⟨not_older_self⟩

instance : Std.Antisymm Older := ⟨fun _ _ h h' => absurd h' h.not_older⟩

/-- Of two jobs in the order of listings the first is the older one, unless they have the same id.
-/
theorem older_of_olderOrSame (h : olderOrSame a b = true) (hne : a.id ≠ b.id) : a.Older b := by
  have hthen : ((compare a.createdAt b.createdAt).then (compare a.id b.id)).isLE = true := h
  rw [Ordering.isLE_then_iff_or] at hthen
  rcases hthen with hlt | ⟨heq, hle⟩
  · exact .inl hlt
  · refine .inr ⟨Std.LawfulEqCmp.eq_of_compare heq, ?_⟩
    rcases Ordering.isLE_iff_eq_lt_or_eq_eq.mp hle with hlt | hsame
    · exact hlt
    · exact absurd (Std.LawfulEqCmp.eq_of_compare hsame) hne

/-- Jobs of which no two have the same id are sorted by age. -/
theorem sorted_mergeSort {jobs : List Job} (nodup : (jobs.map Job.id).Nodup) :
    (jobs.mergeSort olderOrSame).Pairwise Older := by
  have hsorted : (jobs.mergeSort olderOrSame).Pairwise fun a b => olderOrSame a b = true := by
    refine List.pairwise_mergeSort (fun a b c => Std.TransCmp.isLE_trans) (fun a b => ?_) _
    rw [Bool.or_eq_true]
    by_cases hle : olderOrSame a b = true
    · exact .inl hle
    · exact .inr (Std.OrientedCmp.isLE_of_isGE (Ordering.isGE_of_eq_gt
        (by simpa [olderOrSame] using hle)))
  have hdistinct : ((jobs.mergeSort olderOrSame).map Job.id).Nodup :=
    ((List.mergeSort_perm _ _).map Job.id).nodup_iff.mpr nodup
  exact (hsorted.and (List.pairwise_map.mp hdistinct)).imp fun h => older_of_olderOrSame h.1 h.2

end Job

namespace Store

variable {s : Store}

theorem map_id_values (hk : s.Keyed) : s.jobs.values.map Job.id = s.jobs.keys := by
  rw [values_eq_map_toList, List.map_map, ← Std.TreeMap.map_fst_toList_eq_keys]
  refine List.map_congr_left fun entry hentry => ?_
  exact hk entry.1 entry.2 (Std.TreeMap.mem_toList_iff_getElem?_eq_some.mp hentry)

/-- No two of the stored jobs that pass a test have the same id. -/
theorem nodup_filter (hk : s.Keyed) (test : Job → Bool) :
    ((s.jobs.values.filter test).map Job.id).Nodup := by
  have hvalues : (s.jobs.values.map Job.id).Nodup := map_id_values hk ▸ nodup_keys s.jobs
  exact hvalues.sublist ((List.filter_sublist (l := s.jobs.values) (p := test)).map Job.id)

theorem nodup_listByType (hk : s.Keyed) (t : String) (status : Option Status) :
    ((s.listByType t status).map Job.id).Nodup :=
  ((List.mergeSort_perm _ _).map Job.id).nodup_iff.mpr (nodup_filter hk _)

/-- Jobs are listed by age. -/
theorem sorted_listByType (hk : s.Keyed) (t : String) (status : Option Status) :
    (s.listByType t status).Pairwise Job.Older :=
  Job.sorted_mergeSort (nodup_filter hk _)

end Store

end JobRunner
