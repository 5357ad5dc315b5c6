import JobRunner.Handler.Builtin
import Mathlib.Data.List.GetD
import Mathlib.Data.String.Basic
import Mathlib.Tactic.Common

/-!
# Random texts

A random text has as many words as it was asked for, as long as some draw of its source picks a
word.

- `Text.splitOn_singleton`: a text is split at a character like the list of its characters.
- `Draws.Picks`: some draw of a source picks a word.
- `Builtin.randomText?_of_picks`: then drawing ends, and gives a text of the right length.
-/

namespace JobRunner

/-! ## Splitting -/

namespace Text

open String

/-- The parts of a text behind `part`, which has been passed since the last mark. -/
theorem splitOnAux_ofList (mark : Char) (before part rest : List Char) (done : List String) :
    splitOnAux (ofList (before ++ part ++ rest)) (ofList [mark]) ⟨utf8Len before⟩
        ⟨utf8Len (before ++ part)⟩ 0 done =
      done.reverse ++ (rest.splitOnPPrepend (· == mark) part.reverse).map ofList := by
  induction rest generalizing before part done with
  | nil =>
    have hend : Pos.Raw.atEnd (ofList (before ++ part ++ [])) ⟨utf8Len (before ++ part)⟩ = true :=
      (atEnd_of_valid _ _).mpr rfl
    have hpart := extract_of_valid before part []
    rw [← utf8Len_append] at hpart
    unfold splitOnAux
    rw [if_pos hend, hpart]
    simp
  | cons c rest ih =>
    have hmore : ¬Pos.Raw.atEnd (ofList (before ++ part ++ c :: rest))
        ⟨utf8Len (before ++ part)⟩ = true :=
      (atEnd_of_valid _ _).not.mpr (List.cons_ne_nil c rest)
    have hpart := extract_of_valid before part (c :: rest)
    have hnext := next_of_valid (before ++ part) c rest
    have hmark : Pos.Raw.get (ofList [mark]) 0 = mark := get_of_valid [] [mark]
    have hlast : Pos.Raw.next (ofList [mark]) 0 = ⟨utf8Len [mark]⟩ := next_of_valid [] mark []
    have hend : Pos.Raw.atEnd (ofList [mark]) ⟨utf8Len [mark]⟩ = true :=
      (atEnd_of_valid [mark] []).mpr rfl
    have hback : Pos.Raw.unoffsetBy ⟨utf8Len (before ++ part)⟩ 0 = ⟨utf8Len (before ++ part)⟩ := rfl
    rw [← utf8Len_append] at hpart
    unfold splitOnAux
    rw [if_neg hmore, get_of_valid, List.headD_cons, hmark, hlast, hback, hnext]
    by_cases hc : c = mark
    · subst hc
      have hstart : Pos.Raw.unoffsetBy ⟨utf8Len (before ++ part) + c.utf8Size⟩ ⟨utf8Len [c]⟩ =
          ⟨utf8Len (before ++ part)⟩ := by
        simp [Pos.Raw.unoffsetBy]
      -- the mark ends the part, and a new one begins behind it
      have h := ih (before ++ part ++ [c]) [] (ofList part :: done)
      rw [List.splitOnPPrepend_cons_pos (p := (· == c)) (beq_self_eq_true c)]
      simp only [beq_self_eq_true, if_true, hend, hstart, hpart]
      simpa [Nat.add_assoc] using h
    · -- the part grows by one character
      have h := ih before (part ++ [c]) done
      rw [List.splitOnPPrepend_cons_neg (p := (· == mark)) (beq_eq_false_iff_ne.mpr hc)]
      simpa [hc, Nat.add_assoc] using h

/-- A text is split at a character like the list of its characters. -/
theorem splitOn_singleton (s : String) (mark : Char) :
    s.splitOn (String.singleton mark) = (s.toList.splitOn mark).map ofList := by
  have hmark : String.singleton mark ≠ "" := by simp
  have h := splitOnAux_ofList mark [] [] s.toList []
  rw [List.nil_append, List.nil_append, ofList_toList] at h
  unfold String.splitOn
  rw [beq_false_of_ne hmark, List.splitOn_eq_splitOnP, String.singleton_eq_ofList]
  exact h

/-- Parts without a mark are the parts of what they are put together to, with marks between them. -/
theorem splitOn_intercalate {parts : List String} {mark : Char} (hne : parts ≠ [])
    (hparts : ∀ part ∈ parts, mark ∉ part.toList) :
    ((String.singleton mark).intercalate parts).splitOn (String.singleton mark) = parts := by
  have hlists : ∀ cs ∈ parts.map String.toList, mark ∉ cs := by simpa using hparts
  rw [splitOn_singleton, String.toList_intercalate, String.toList_singleton,
    List.splitOn_intercalate mark hlists (List.map_eq_nil_iff.not.mpr hne), List.map_map]
  exact (List.map_congr_left fun _ _ => ofList_toList).trans (List.map_id parts)

/-- The parts of a text, with marks between them, are put together to the text. -/
theorem intercalate_splitOn (s : String) (mark : Char) :
    (String.singleton mark).intercalate (s.splitOn (String.singleton mark)) = s := by
  have hlists : (s.toList.splitOn mark).map (toList ∘ ofList) = s.toList.splitOn mark :=
    (List.map_congr_left fun _ _ => toList_ofList).trans (List.map_id _)
  rw [splitOn_singleton, ← String.toList_inj, String.toList_intercalate, String.toList_singleton,
    List.map_map, hlists, List.intercalate_splitOn]

theorem splitOn_append (s t : String) (mark : Char) :
    (s ++ String.singleton mark ++ t).splitOn (String.singleton mark) =
      s.splitOn (String.singleton mark) ++ t.splitOn (String.singleton mark) := by
  simp only [splitOn_singleton, String.toList_append, String.toList_singleton, List.append_assoc,
    List.singleton_append, List.splitOn_eq_splitOnP]
  rw [List.splitOnP_append_cons (p := (· == mark)) _ _ (beq_self_eq_true mark), List.map_append]

end Text

/-! ## Sources -/

namespace Draws

variable {d : Draws} {draw : UInt64} {i : Nat}

/-- The draw behind `i` others that are still to come. -/
def ahead (d : Draws) (i : Nat) : UInt64 := d.cycle.getD ((d.taken + i) % d.cycle.length) 0

/-- Some draw of the cycle picks a word. -/
def Picks (d : Draws) : Prop := ∃ draw ∈ d.cycle, Builtin.pick? draw ≠ none

instance (d : Draws) : Decidable d.Picks := inferInstanceAs (Decidable (∃ draw ∈ d.cycle, _))

theorem ahead_next (d : Draws) (i : Nat) : d.next.2.ahead i = d.ahead (i + 1) := by
  unfold ahead next
  rw [Nat.add_assoc, Nat.add_comm 1 i]

/-- Every draw of the cycle comes within one round. -/
theorem exists_ahead_eq (h : draw ∈ d.cycle) : ∃ i < d.cycle.length, d.ahead i = draw := by
  obtain ⟨j, hj, rfl⟩ := List.mem_iff_getElem.mp h
  generalize hn : d.cycle.length = n
  rw [hn] at hj
  have hturn : d.taken % n < n := Nat.mod_lt _ (Nat.zero_lt_of_lt hj)
  -- the distance from the place that comes next, around the end of the cycle if need be
  have hindex : (d.taken + (j + (n - d.taken % n)) % n) % n = j := by
    have hsum : d.taken + (j + (n - d.taken % n)) = j + n * (d.taken / n + 1) := by
      have hdivision := Nat.div_add_mod d.taken n
      rw [Nat.mul_add, Nat.mul_one]
      omega
    rw [Nat.add_mod_mod, hsum, Nat.add_mul_mod_self_left, Nat.mod_eq_of_lt hj]
  refine ⟨(j + (n - d.taken % n)) % n, Nat.mod_lt _ (Nat.zero_lt_of_lt hj), ?_⟩
  unfold ahead
  simp only [hn, hindex]
  exact List.getD_eq_getElem _ _ _

end Draws

/-! ## Drawing -/

namespace Builtin

open Draws

variable {d d' : Draws} {draw : UInt64} {word : String} {tries : Nat}

theorem mem_words_of_pick? (h : pick? draw = some word) : word ∈ words := by
  unfold pick? at h
  dsimp only at h
  split at h
  · exact List.mem_of_getElem? h
  · cases h

/-- Either one of the coming draws picks a word, or none does and no word is drawn. -/
theorem drawWord?_cases (d : Draws) (tries : Nat) :
    (∃ i < tries, ∃ word d', pick? (d.ahead i) = some word ∧ d'.cycle = d.cycle ∧
        drawWord? d tries = some (word, d')) ∨
      (∀ i < tries, pick? (d.ahead i) = none) ∧ drawWord? d tries = none := by
  induction tries generalizing d with
  | zero => exact .inr ⟨nofun, rfl⟩
  | succ tries ih =>
    cases hpick : pick? d.next.1 with
    | some word =>
      refine .inl ⟨0, Nat.succ_pos tries, word, d.next.2, hpick, rfl, ?_⟩
      simp only [drawWord?, hpick]
    | none =>
      have hstep : drawWord? d (tries + 1) = drawWord? d.next.2 tries := by
        simp only [drawWord?, hpick]
      rw [hstep]
      rcases ih d.next.2 with ⟨i, hi, word, d', hword, hcycle, hdraw⟩ | ⟨hnone, hdraw⟩
      · rw [ahead_next] at hword
        exact .inl ⟨i + 1, Nat.succ_lt_succ hi, word, d', hword, hcycle, hdraw⟩
      · refine .inr ⟨fun i hi => ?_, hdraw⟩
        cases i with
        | zero => exact hpick
        | succ i =>
          rw [← ahead_next]
          exact hnone i (Nat.lt_of_succ_lt_succ hi)

/-- If some draw of the cycle picks a word, one is drawn within one round. -/
theorem drawWord?_of_picks (h : d.Picks) : ∃ word d', word ∈ words ∧ d'.cycle = d.cycle ∧
    drawWord? d d.cycle.length = some (word, d') := by
  obtain ⟨draw, hmem, hpick⟩ := h
  rcases drawWord?_cases d d.cycle.length with ⟨_, _, word, d', hword, hcycle, hdraw⟩ | ⟨hnone, _⟩
  · exact ⟨word, d', mem_words_of_pick? hword, hcycle, hdraw⟩
  · obtain ⟨i, hi, rfl⟩ := exists_ahead_eq hmem
    exact absurd (hnone i hi) hpick

/-- Behind the words seen, as many words are drawn as there are to be. -/
theorem drawWords?_of_picks (h : d.Picks) (seen : List String) (count : Nat) :
    ∃ drawn d', drawn.length = count ∧ (∀ word ∈ drawn, word ∈ words) ∧
      drawWords? seen d count = some (seen.reverse ++ drawn, d') := by
  induction count generalizing seen d with
  | zero => exact ⟨[], d, rfl, nofun, by rw [List.append_nil]; rfl⟩
  | succ count ih =>
    obtain ⟨word, d', hword, hcycle, hdraw⟩ := drawWord?_of_picks h
    have hpicks : d'.Picks := by
      unfold Picks
      rw [hcycle]
      exact h
    obtain ⟨drawn, d'', hlength, hdrawn, hrest⟩ := ih hpicks (word :: seen)
    refine ⟨word :: drawn, d'', congrArg (· + 1) hlength, List.forall_mem_cons.mpr ⟨hword, hdrawn⟩,
      ?_⟩
    simp only [drawWords?, hdraw, hrest, List.reverse_cons, List.append_assoc,
      List.singleton_append]

/-- No word of the list has a space in it. -/
theorem space_not_mem_of_mem_words (h : word ∈ words) : ' ' ∉ word.toList := by
  have hall : ∀ word ∈ words, ' ' ∉ word.toList := by decide +kernel
  exact hall word h

/-- A text of `n` words of the list, with single spaces between them. -/
structure IsRandomText (n : Nat) (text : String) : Prop where
  length : (text.splitOn " ").length = n
  listed : ∀ word ∈ text.splitOn " ", word ∈ words

/-- If some draw of the cycle picks a word, drawing ends with a text of the right length. -/
theorem randomText?_of_picks {n : Nat} (hn : n ≠ 0) (h : d.Picks) :
    ∃ text d', IsRandomText n text ∧ randomText? n d = some (text, d') := by
  obtain ⟨drawn, d', hlength, hdrawn, hdraw⟩ := drawWords?_of_picks h [] n
  have hne : drawn ≠ [] := fun hnil => hn (by rw [← hlength, hnil]; rfl)
  have hsplit : (" ".intercalate drawn).splitOn " " = drawn :=
    Text.splitOn_intercalate hne fun word hword => space_not_mem_of_mem_words (hdrawn word hword)
  refine ⟨" ".intercalate drawn, d', ⟨?_, ?_⟩, ?_⟩
  · rw [hsplit, hlength]
  · rw [hsplit]
    exact hdrawn
  · unfold randomText?
    rw [hdraw]
    rfl

end Builtin

end JobRunner
