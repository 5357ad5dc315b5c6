import JobRunner.Queue.Consumer
import Mathlib.Data.List.Nodup
import Mathlib.Tactic.Common

/-!
# Lanes, seen through the ids that wait in them

- `Lane.Sound`: the list of a lane and its set hold the same ids, none twice.
- `Queue.Waits`: an id waits in the lane of a type.

Every operation on a queue keeps its lanes sound, and says here which ids wait afterwards. Bells do
not matter for either.
-/

namespace JobRunner

/-! ## One lane -/

namespace Lane

/-- The list and the set of a lane hold the same ids, none twice. -/
structure Sound (l : Lane) : Prop where
  nodup : l.ids.Nodup
  mem_queued : ∀ id, l.queued.contains id = true ↔ id ∈ l.ids

/-- An empty lane is sound. -/
theorem sound_empty : empty.Sound where
  nodup := List.nodup_nil
  mem_queued id := by simp [empty]

theorem Sound.withBell {l : Lane} (h : l.Sound) (b : Bell) : ({ l with bell := b } : Lane).Sound :=
  ⟨h.nodup, h.mem_queued⟩

/-- A push to the back keeps a lane sound: an id that waits already is not added again. -/
theorem Sound.pushBack {l : Lane} (h : l.Sound) (id : JobId) : (l.pushBack id).2.Sound := by
  unfold Lane.pushBack
  split
  · exact h
  · next hnew =>
    have hid : id ∉ l.ids := fun hc => hnew ((h.mem_queued id).mpr hc)
    refine ⟨?_, fun x => ?_⟩
    · show (l.ids ++ [id]).Nodup
      rw [List.nodup_append]
      refine ⟨h.nodup, List.nodup_singleton id, fun x hx y hy => ?_⟩
      rw [List.mem_singleton] at hy
      exact fun hxy => hid (hy ▸ hxy ▸ hx)
    · show (l.queued.insert id).contains x = true ↔ x ∈ l.ids ++ [id]
      rw [Std.TreeSet.contains_insert, Bool.or_eq_true, h.mem_queued x, beq_iff_eq,
        Std.LawfulEqOrd.compare_eq_iff_eq, List.mem_append, List.mem_singleton]
      exact ⟨fun hx => hx.symm.imp_right Eq.symm, fun hx => hx.symm.imp_left Eq.symm⟩

/-- So does a push to the front. -/
theorem Sound.pushFront {l : Lane} (h : l.Sound) (id : JobId) : (l.pushFront id).Sound := by
  unfold Lane.pushFront
  split
  · exact h
  · next hnew =>
    have hid : id ∉ l.ids := fun hc => hnew ((h.mem_queued id).mpr hc)
    refine ⟨List.nodup_cons.mpr ⟨hid, h.nodup⟩, fun x => ?_⟩
    show (l.queued.insert id).contains x = true ↔ x ∈ id :: l.ids
    rw [Std.TreeSet.contains_insert, Bool.or_eq_true, h.mem_queued x, beq_iff_eq,
      Std.LawfulEqOrd.compare_eq_iff_eq, List.mem_cons]
    exact or_congr_left eq_comm

/-- So does a pop. -/
theorem Sound.pop? {l l' : Lane} {id : JobId} (h : l.Sound) (hp : l.pop? = some (id, l')) :
    l'.Sound := by
  unfold Lane.pop? at hp
  split at hp
  · next x rest hids =>
    cases hp
    -- the id taken stands nowhere else in the list, so the set may forget it
    have hnodup := h.nodup
    rw [hids, List.nodup_cons] at hnodup
    refine ⟨hnodup.2, fun y => ?_⟩
    show (l.queued.erase id).contains y = true ↔ y ∈ rest
    rw [Std.TreeSet.contains_erase, Bool.and_eq_true, h.mem_queued y, hids, List.mem_cons]
    rw [bne_iff_ne, ne_eq, Std.LawfulEqOrd.compare_eq_iff_eq]
    constructor
    · rintro ⟨hne, rfl | hy⟩
      · exact absurd rfl hne
      · exact hy
    · exact fun hy => ⟨fun hc => hnodup.1 (hc ▸ hy), .inr hy⟩
  · cases hp

/-- After a push to the back the id is in the lane, and so is who was there. -/
theorem mem_pushBack {l : Lane} (h : l.Sound) (id x : JobId) :
    x ∈ (l.pushBack id).2.ids ↔ x ∈ l.ids ∨ x = id := by
  unfold Lane.pushBack
  split
  · next hold =>
    have hid : id ∈ l.ids := (h.mem_queued id).mp hold
    exact ⟨.inl, fun hx => hx.elim (fun h => h) fun hxid => hxid ▸ hid⟩
  · simp

/-- It is after a push to the front. -/
theorem mem_pushFront {l : Lane} (h : l.Sound) (id x : JobId) :
    x ∈ (l.pushFront id).ids ↔ x ∈ l.ids ∨ x = id := by
  unfold Lane.pushFront
  split
  · next hold =>
    have hid : id ∈ l.ids := (h.mem_queued id).mp hold
    exact ⟨.inl, fun hx => hx.elim (fun h => h) fun hxid => hxid ▸ hid⟩
  · simp [or_comm]

/-- A pop takes its id out of the lane and no other. -/
theorem mem_pop? {l l' : Lane} {id : JobId} (h : l.Sound) (hp : l.pop? = some (id, l')) :
    id ∈ l.ids ∧ ∀ x, x ∈ l'.ids ↔ x ∈ l.ids ∧ x ≠ id := by
  unfold Lane.pop? at hp
  split at hp
  · next y rest hids =>
    cases hp
    have hnodup := h.nodup
    rw [hids, List.nodup_cons] at hnodup
    rw [hids]
    refine ⟨List.mem_cons_self, fun x => ?_⟩
    rw [List.mem_cons]
    constructor
    · exact fun hx => ⟨.inr hx, fun hc => hnodup.1 (hc ▸ hx)⟩
    · exact fun ⟨hx, hne⟩ => hx.resolve_left hne
  · cases hp

end Lane

/-! ## The lanes of a queue -/

namespace Queue

/-- An id waits in the lane of a type. -/
def Waits (q : Queue) (t : String) (id : JobId) : Prop := id ∈ (q.lane t).ids

/-- Every lane is sound. -/
def Sound (q : Queue) : Prop := ∀ t, (q.lane t).Sound

variable {q : Queue}

/-- Lanes do not share anything. -/
theorem lane_setLane (q : Queue) (t t' : String) (l : Lane) :
    (q.setLane t l).lane t' = if t = t' then l else q.lane t' := by
  unfold setLane lane
  rw [Std.TreeMap.getD_insert]
  simp only [Std.LawfulEqOrd.compare_eq_iff_eq]

/-- What is known of a lane by its place in the table. -/
theorem lane_eq_of_getElem? {q' : Queue} {t : String} (h : q'.lanes[t]? = q.lanes[t]?) :
    q'.lane t = q.lane t := by
  unfold lane
  rw [Std.TreeMap.getD_eq_getD_getElem?, Std.TreeMap.getD_eq_getD_getElem?, h]

theorem lane_eq_of_getElem?_eq_some {t : String} {l : Lane} (h : q.lanes[t]? = some l) :
    q.lane t = l := by
  unfold lane
  rw [Std.TreeMap.getD_eq_getD_getElem?, h]
  rfl

theorem lane_ofBackend (settings : QueueSettings) (b : Backend) (t : String) :
    (ofBackend settings b).lane t = .empty := by
  simp [ofBackend, lane]

/-- A queue is sound at first. -/
theorem sound_ofBackend (settings : QueueSettings) (b : Backend) :
    (ofBackend settings b).Sound := by
  intro t
  rw [lane_ofBackend]
  exact Lane.sound_empty

/-- Nobody waits in a new queue. -/
theorem not_waits_ofBackend (settings : QueueSettings) (b : Backend) (t : String) (id : JobId) :
    ¬(ofBackend settings b).Waits t id := by
  unfold Waits
  rw [lane_ofBackend]
  exact List.not_mem_nil

/-- A queue is sound as long as each of its lanes is. -/
theorem Sound.setLane (h : q.Sound) {l : Lane} (hl : l.Sound) (t : String) :
    (q.setLane t l).Sound := by
  intro t'
  rw [lane_setLane]
  split
  · exact hl
  · exact h t'

/-- A lane replaced by one with the same ids changes nothing about who waits. -/
theorem waits_setLane_of_ids_eq {l : Lane} {t : String} (hl : l.ids = (q.lane t).ids)
    (t' : String) (id : JobId) : (q.setLane t l).Waits t' id ↔ q.Waits t' id := by
  unfold Waits
  rw [lane_setLane]
  split
  · next ht => rw [hl, ht]
  · rfl

theorem Sound.withBell (h : q.Sound) (t : String) (act : Bell → Bell) :
    (Consumer.withBell q t act).Sound :=
  h.setLane ((h t).withBell (act (q.lane t).bell)) t

@[simp] theorem waits_withBell (q : Queue) (t : String) (act : Bell → Bell) (t' : String)
    (id : JobId) : (Consumer.withBell q t act).Waits t' id ↔ q.Waits t' id :=
  waits_setLane_of_ids_eq (l := { q.lane t with bell := act (q.lane t).bell }) rfl t' id

/-- To look for a lane may create it, which harms nobody. -/
theorem Sound.openLane (h : q.Sound) (t : String) : (q.openLane t).Sound := h.setLane (h t) t

@[simp] theorem waits_openLane (q : Queue) (t t' : String) (id : JobId) :
    (q.openLane t).Waits t' id ↔ q.Waits t' id :=
  waits_setLane_of_ids_eq rfl t' id

theorem Sound.ring (h : q.Sound) (t : String) : (q.ring t).Sound :=
  h.setLane ((h t).withBell (q.lane t).bell.ring) t

@[simp] theorem waits_ring (q : Queue) (t t' : String) (id : JobId) :
    (q.ring t).Waits t' id ↔ q.Waits t' id :=
  waits_setLane_of_ids_eq (l := (q.lane t).ring) rfl t' id

theorem Sound.backend (h : q.Sound) (b : Backend) : ({ q with backend := b } : Queue).Sound := h

/-- A push keeps a queue sound. -/
theorem Sound.push (h : q.Sound) (t : String) (id : JobId) : (q.push t id).2.Sound :=
  h.setLane ((h t).pushBack id) t

/-- After a push the id waits in the lane, besides those that waited before. -/
theorem waits_push (h : q.Sound) (t : String) (id : JobId) (t' : String) (x : JobId) :
    (q.push t id).2.Waits t' x ↔ q.Waits t' x ∨ (t' = t ∧ x = id) := by
  show x ∈ ((q.setLane t ((q.lane t).pushBack id).2).lane t').ids ↔ _
  rw [lane_setLane]
  split
  · next ht =>
    rw [Lane.mem_pushBack (h t), ← ht]
    simp [Waits]
  · next ht => simp [Waits, Ne.symm ht]

/-- What a push leaves behind, whether or not the lane took the id. -/
theorem of_push (h : q.Sound) {q' : Queue} {t : String} {id : JobId} {added : Bool}
    (hp : q.push t id = (added, q')) :
    q'.Sound ∧ q'.backend = q.backend ∧
      ∀ t' x, q'.Waits t' x ↔ q.Waits t' x ∨ (t' = t ∧ x = id) := by
  obtain rfl : (q.push t id).2 = q' := congrArg Prod.snd hp
  exact ⟨h.push t id, rfl, waits_push h t id⟩

/-- A push adds an id only if it does not wait there. -/
theorem push_added_iff (h : q.Sound) (t : String) (id : JobId) :
    (q.push t id).1 = true ↔ ¬q.Waits t id := by
  show ((q.lane t).pushBack id).1 = true ↔ _
  unfold Lane.pushBack Waits
  rw [← (h t).mem_queued id]
  split
  · next hold => simp [hold]
  · next hnew => simp [hnew]

/-- To put an id back keeps a queue sound. -/
theorem Sound.pushFront (h : q.Sound) (t : String) (id : JobId) :
    (q.setLane t ((q.lane t).pushFront id)).Sound :=
  h.setLane ((h t).pushFront id) t

/-- After an id is put back, it waits in its lane, and whoever waited still does. -/
theorem waits_pushFront (h : q.Sound) (t : String) (id : JobId) (t' : String) (x : JobId) :
    (q.setLane t ((q.lane t).pushFront id)).Waits t' x ↔ q.Waits t' x ∨ (t' = t ∧ x = id) := by
  show x ∈ ((q.setLane t ((q.lane t).pushFront id)).lane t').ids ↔ _
  rw [lane_setLane]
  split
  · next ht =>
    rw [Lane.mem_pushFront (h t), ← ht]
    simp [Waits]
  · next ht => simp [Waits, Ne.symm ht]

/-- So does a pop. -/
theorem Sound.pop? (h : q.Sound) {t : String} {id : JobId} {l : Lane}
    (hp : (q.lane t).pop? = some (id, l)) : (q.setLane t l).Sound :=
  h.setLane ((h t).pop? hp) t

/-- The id taken from a lane waited there, and waits there no more. -/
theorem waits_pop? (h : q.Sound) {t : String} {id : JobId} {l : Lane}
    (hp : (q.lane t).pop? = some (id, l)) :
    q.Waits t id ∧ ∀ t' x, (q.setLane t l).Waits t' x ↔ q.Waits t' x ∧ ¬(t' = t ∧ x = id) := by
  obtain ⟨hmem, hleft⟩ := Lane.mem_pop? (h t) hp
  refine ⟨hmem, fun t' x => ?_⟩
  show x ∈ ((q.setLane t l).lane t').ids ↔ _
  rw [lane_setLane]
  split
  · next ht =>
    rw [hleft x, ← ht]
    simp [Waits]
  · next ht => simp [Waits, Ne.symm ht]

end Queue

end JobRunner
