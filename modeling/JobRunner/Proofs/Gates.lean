import JobRunner.Handler.Call
import Mathlib.Data.List.Perm.Basic

/-!
# Gates

A gate lets calls in one by one, in the order of their arrival, as long as there is room.

- `Gate.Fair`: nobody waits while there is room, and of those who arrived the first have been let in
  and the others wait; of those let in, some have left and the others are inside.
- `Gate.Fair.arrive`, `Gate.Fair.leave`: whoever comes and goes, a gate stays fair.
-/

namespace JobRunner

private theorem perm_append_middle {α : Type} (xs ys : List α) (x : α) :
    (xs ++ ys ++ [x]).Perm (xs ++ [x] ++ ys) := by
  rw [List.append_assoc, List.append_assoc]
  exact List.perm_append_comm.append_left xs

namespace Gate

variable {g : Gate} {limit : Nat} {arrived left : List CallId} {id first : CallId}

theorem hasRoom_eq (h : g.limit = some limit) : g.hasRoom = decide (g.inside.length < limit) := by
  unfold hasRoom
  rw [h]

/-- A gate at which nobody waits stays as it is. -/
theorem fill_of_nobody (h : g.waiting = []) : g.fill = g := by
  unfold fill
  rw [h]

/-- Otherwise the first in the line goes in if there is room. -/
theorem fill_of_somebody {waiting : List CallId} (hlimit : g.limit = some limit)
    (h : g.waiting = first :: waiting) :
    g.fill = if g.inside.length < limit then { g with inside := g.inside ++ [first], waiting }
      else g := by
  unfold fill
  rw [h]
  simp only [hasRoom_eq hlimit, decide_eq_true_eq]

/-- Who is inside stays there when others go in. -/
theorem mem_inside_fill (h : id ∈ g.inside) : id ∈ g.fill.inside := by
  unfold fill
  split
  · split
    · exact List.mem_append_left _ h
    · exact h
  · exact h

theorem mem_inside_arrive (h : id ∈ g.inside) (id' : CallId) : id ∈ (g.arrive id').inside :=
  mem_inside_fill (g := { g with waiting := g.waiting ++ [id'] }) h

theorem mem_inside_leave {id' : CallId} (h : id ∈ g.inside) (hne : id ≠ id') :
    id ∈ (g.leave id').inside :=
  mem_inside_fill (g := { g with inside := g.inside.erase id' }) ((List.mem_erase_of_ne hne).mpr h)

/-- A gate that lets in at most `limit` calls at once, at which the calls in `arrived` have arrived
one after the other and from which those in `left` have gone. -/
structure Fair (g : Gate) (limit : Nat) (arrived left : List CallId) : Prop where
  limit_eq : g.limit = some limit
  room : g.inside.length ≤ limit
  /-- While a call waits, there is no room. -/
  full : g.waiting ≠ [] → g.inside.length = limit
  nodup : arrived.Nodup
  /-- The first of those who arrived have been let in, one after the other, and each of them is
  inside or has left. -/
  admitted : ∃ admitted, arrived = admitted ++ g.waiting ∧ g.inside.Sublist admitted ∧
    admitted.Perm (g.inside ++ left)

namespace Fair

/-- A gate is fair at first, with the room that its handler allows. -/
theorem ofHandler {h : Handler} {n : Nat} (hn : h.maxConcurrency = some n) :
    (ofHandler h).Fair (max n 1) [] [] where
  limit_eq := by
    show h.maxConcurrency.map (max · 1) = _
    rw [hn]
    rfl
  room := Nat.zero_le _
  full hwaiting := absurd rfl hwaiting
  nodup := .nil
  admitted := ⟨[], rfl, .slnil, .nil⟩

/-- Whoever has arrived is inside, has left, or waits. -/
theorem perm (h : g.Fair limit arrived left) : arrived.Perm (g.inside ++ left ++ g.waiting) := by
  obtain ⟨admitted, harrived, -, hperm⟩ := h.admitted
  rw [harrived]
  exact hperm.append_right g.waiting

theorem mem_iff (h : g.Fair limit arrived left) :
    id ∈ arrived ↔ id ∈ g.inside ∨ id ∈ left ∨ id ∈ g.waiting := by
  rw [h.perm.mem_iff, List.mem_append, List.mem_append, or_assoc]

/-- Whoever is inside came in the order of arrival. -/
theorem inside_sublist (h : g.Fair limit arrived left) : g.inside.Sublist arrived := by
  obtain ⟨admitted, harrived, hsub, -⟩ := h.admitted
  rw [harrived]
  exact hsub.trans (List.sublist_append_left admitted g.waiting)

/-- Whoever is inside and arrived before another call comes before it inside. -/
theorem mem_takeWhile_inside (h : g.Fair limit arrived left) {earlier later : List CallId}
    {id' : CallId} (harrived : arrived = earlier ++ id' :: later) (hid : id ∈ earlier)
    (hinside : id ∈ g.inside) : id ∈ g.inside.takeWhile (· != id') := by
  have hsub : g.inside.Sublist (earlier ++ id' :: later) := harrived ▸ h.inside_sublist
  -- inside, too, those who arrived before the other call stand in front of it
  obtain ⟨front, back, hsplit, hfront, hback⟩ := List.sublist_append_iff.mp hsub
  obtain ⟨-, -, hapart⟩ := List.nodup_append.mp (harrived ▸ h.nodup)
  have hmem : id ∈ front := by
    rcases List.mem_append.mp (hsplit ▸ hinside) with hfront | hback'
    · exact hfront
    · exact absurd rfl (hapart id hid id (hback.subset hback'))
  have hother : ∀ x ∈ front, (x != id') = true := fun x hx =>
    bne_iff_ne.mpr (hapart x (hfront.subset hx) id' List.mem_cons_self)
  rw [hsplit, List.takeWhile_append_of_pos hother]
  exact List.mem_append_left _ hmem

/-- Nobody is in two places. -/
theorem nodup_places (h : g.Fair limit arrived left) :
    (g.inside ++ left ++ g.waiting).Nodup := h.perm.nodup_iff.mp h.nodup

/-- Nobody is let in twice. -/
theorem nodup_admitted (h : g.Fair limit arrived left) : (g.inside ++ left).Nodup :=
  (List.nodup_append.mp h.nodup_places).1

theorem nodup_inside (h : g.Fair limit arrived left) : g.inside.Nodup :=
  (List.nodup_append.mp h.nodup_admitted).1

/-- Who is inside has not left. -/
theorem not_left_of_inside (h : g.Fair limit arrived left) (hid : id ∈ g.inside) : id ∉ left :=
  fun hleft => (List.nodup_append.mp h.nodup_admitted).2.2 id hid id hleft rfl

/-- Who waits is not inside. -/
theorem not_inside_of_waiting (h : g.Fair limit arrived left) (hid : id ∈ g.waiting) :
    id ∉ g.inside := fun hinside =>
  (List.nodup_append.mp h.nodup_places).2.2 id (List.mem_append_left _ hinside) id hid rfl

/-- Nor has it left. -/
theorem not_left_of_waiting (h : g.Fair limit arrived left) (hid : id ∈ g.waiting) :
    id ∉ left := fun hleft =>
  (List.nodup_append.mp h.nodup_places).2.2 id (List.mem_append_right _ hleft) id hid rfl

/-- Whoever arrived before a call that does not wait does not wait either. -/
theorem not_waiting_of_before (h : g.Fair limit arrived left) {earlier later : List CallId}
    {id' : CallId} (harrived : arrived = earlier ++ id' :: later) (hid : id ∈ earlier)
    (hadmitted : id' ∉ g.waiting) : id ∉ g.waiting := by
  obtain ⟨admitted, hsplit, -, hperm⟩ := h.admitted
  rcases List.append_eq_append_iff.mp (harrived.symm.trans hsplit) with
    ⟨more, hmore, -⟩ | ⟨first, -, hfirst⟩
  · have hmem : id ∈ admitted := hmore ▸ List.mem_append_left more hid
    intro hwaiting
    rcases List.mem_append.mp (hperm.mem_iff.mp hmem) with hinside | hleft
    · exact h.not_inside_of_waiting hwaiting hinside
    · exact h.not_left_of_waiting hwaiting hleft
  · exact absurd (hfirst ▸ List.mem_append_right first List.mem_cons_self) hadmitted

/-- While there is room for another call, nobody waits. -/
theorem waiting_eq_nil (h : g.Fair limit arrived left) (hroom : g.inside.length < limit) :
    g.waiting = [] := by
  by_contra hwaiting
  have hfull := h.full hwaiting
  omega

/-- Who finds room goes in. -/
theorem arrive_of_room (h : g.Fair limit arrived left) (hroom : g.inside.length < limit)
    (id : CallId) : g.arrive id = { g with inside := g.inside ++ [id] } := by
  have hnobody := h.waiting_eq_nil hroom
  have hfirst : g.waiting ++ [id] = [id] := by rw [hnobody, List.nil_append]
  have hfill := fill_of_somebody (g := { g with waiting := g.waiting ++ [id] }) h.limit_eq hfirst
  rw [if_pos hroom] at hfill
  unfold arrive
  rw [hfill, hnobody]

/-- Who finds none waits. -/
theorem arrive_of_full (h : g.Fair limit arrived left) (hfull : ¬g.inside.length < limit)
    (id : CallId) : g.arrive id = { g with waiting := g.waiting ++ [id] } := by
  unfold arrive
  cases hwaiting : g.waiting with
  | nil =>
    rw [fill_of_somebody (g := { g with waiting := [] ++ [id] }) h.limit_eq rfl, if_neg hfull]
  | cons first rest =>
    rw [fill_of_somebody (g := { g with waiting := first :: rest ++ [id] }) h.limit_eq rfl,
      if_neg hfull]

/-- An arrival lets in nobody else. -/
theorem of_mem_inside_arrive (h : g.Fair limit arrived left) {id' : CallId}
    (hid : id ∈ (g.arrive id').inside) : id ∈ g.inside ∨ id = id' := by
  by_cases hroom : g.inside.length < limit
  · rw [h.arrive_of_room hroom] at hid
    exact (List.mem_append.mp hid).imp_right List.mem_singleton.mp
  · rw [h.arrive_of_full hroom] at hid
    exact .inl hid

/-- A place that nobody waits for stays free. -/
theorem leave_of_nobody (hwaiting : g.waiting = []) (id : CallId) :
    g.leave id = { g with inside := g.inside.erase id } := fill_of_nobody hwaiting

/-- Who waits first is let in as soon as a call leaves. -/
theorem leave_of_somebody (h : g.Fair limit arrived left) (hid : id ∈ g.inside)
    {waiting : List CallId} (hwaiting : g.waiting = first :: waiting) :
    g.leave id = { g with inside := g.inside.erase id ++ [first], waiting } := by
  have hlength : (g.inside.erase id).length = g.inside.length - 1 := List.length_erase_of_mem hid
  have hpos : 0 < g.inside.length := List.length_pos_of_mem hid
  have hroom : (g.inside.erase id).length < limit := by
    have hle := h.room
    omega
  unfold leave
  rw [fill_of_somebody (g := { g with inside := g.inside.erase id }) h.limit_eq hwaiting,
    if_pos hroom]

/-- A call arrives. -/
theorem arrive (h : g.Fair limit arrived left) (hnew : id ∉ arrived) :
    (g.arrive id).Fair limit (arrived ++ [id]) left := by
  obtain ⟨admitted, harrived, hsub, hperm⟩ := h.admitted
  have hnodup : (arrived ++ [id]).Nodup :=
    List.nodup_append.mpr ⟨h.nodup, List.pairwise_singleton _ id, fun a ha b hb heq =>
      hnew (List.mem_singleton.mp hb ▸ heq ▸ ha)⟩
  -- with room nobody waits, so the newcomer is let in before all who come later
  by_cases hroom : g.inside.length < limit
  · have hnobody := h.waiting_eq_nil hroom
    rw [h.arrive_of_room hroom]
    refine ⟨h.limit_eq, ?_, fun hwaiting => absurd hnobody hwaiting, hnodup, admitted ++ [id], ?_,
      hsub.append_right [id], ?_⟩
    · rw [List.length_append]
      exact hroom
    · rw [harrived, hnobody, List.append_nil, List.append_nil]
    · exact (hperm.append_right [id]).trans (perm_append_middle g.inside left id)
  · have hfull : g.inside.length = limit := Nat.le_antisymm h.room (Nat.not_lt.mp hroom)
    rw [h.arrive_of_full hroom]
    refine ⟨h.limit_eq, h.room, fun _ => hfull, hnodup, admitted, ?_, hsub, hperm⟩
    rw [harrived, List.append_assoc]

/-- A call leaves, and the first of those who wait is let in. -/
theorem leave (h : g.Fair limit arrived left) (hid : id ∈ g.inside) :
    (g.leave id).Fair limit arrived (left ++ [id]) := by
  obtain ⟨admitted, harrived, hsub, hperm⟩ := h.admitted
  have hlength : (g.inside.erase id).length = g.inside.length - 1 := List.length_erase_of_mem hid
  have hpos : 0 < g.inside.length := List.length_pos_of_mem hid
  have hle := h.room
  have herased : (g.inside ++ left).Perm (g.inside.erase id ++ (left ++ [id])) :=
    calc (g.inside ++ left).Perm (id :: (g.inside.erase id ++ left)) :=
          (List.perm_cons_erase hid).append_right left
      List.Perm _ (g.inside.erase id ++ left ++ [id]) := (List.perm_append_singleton id _).symm
      _ = g.inside.erase id ++ (left ++ [id]) := List.append_assoc ..
  have hstay : (g.inside.erase id).Sublist admitted := List.erase_sublist.trans hsub
  -- the permit goes to the first of those who wait, if there is one
  cases hwaiting : g.waiting with
  | nil =>
    rw [leave_of_nobody hwaiting]
    refine ⟨h.limit_eq, ?_, fun hw => absurd hwaiting hw, h.nodup, admitted, harrived, hstay,
      hperm.trans herased⟩
    show (g.inside.erase id).length ≤ limit
    omega
  | cons first waiting =>
    have hfull : g.inside.length = limit := h.full (hwaiting ▸ List.cons_ne_nil _ _)
    have hsize : (g.inside.erase id ++ [first]).length = limit := by
      rw [List.length_append, List.length_singleton]
      omega
    rw [h.leave_of_somebody hid hwaiting]
    refine ⟨h.limit_eq, Nat.le_of_eq hsize, fun _ => hsize, h.nodup, admitted ++ [first], ?_,
      hstay.append_right [first], ?_⟩
    · rw [harrived, hwaiting, List.append_assoc]
      rfl
    · have hbefore := (hperm.trans herased).append_right [first]
      exact hbefore.trans (perm_append_middle (g.inside.erase id) (left ++ [id]) first)

end Fair

end Gate

end JobRunner
