import JobRunner.Text.Integer
import Mathlib.Tactic.Common

/-!
# Integers that texts spell

A text is read as an integer of a range exactly if it spells one.

- `Text.Spells`: a text spells an integer of a range.
- `Text.readDigits_eq_ok_iff`: further digits are read as long as the number stays in the range.
- `Text.parseInteger_eq_ok_iff`: what is read is what is spelled.
-/

namespace JobRunner.Text

/-- The range contains an integer. -/
def IntegerRange.Contains (range : IntegerRange) (n : Int) : Prop := range.low ≤ n ∧ n ≤ range.high

instance (range : IntegerRange) (n : Int) : Decidable (range.Contains n) :=
  inferInstanceAs (Decidable (_ ∧ _))

/-- A number with the sign that was read. -/
def signed (negative : Bool) (n : Nat) : Int := if negative then -n else n

/-- What may stand before the digits: nothing or a sign, a minus sign only where the range has
negative numbers. -/
inductive Sign (range : IntegerRange) : List Char → Bool → Prop
  | absent : Sign range [] false
  | plus : Sign range ['+'] false
  | minus (below : range.low < 0) : Sign range ['-'] true

/-- A text spells an integer of a range: a sign, if any, and at least one decimal digit. -/
structure Spells (range : IntegerRange) (s : String) (n : Int) : Prop where
  contained : range.Contains n
  spelled : ∃ sign negative digits, Sign range sign negative ∧ digits ≠ [] ∧
    (∀ c ∈ digits, c.isDigit = true) ∧ s.toList = sign ++ digits ∧
    n = signed negative (Nat.ofDigitChars 10 digits 0)

variable {range : IntegerRange} {negative : Bool} {c : Char} {cs : List Char} {s : String}
  {m : Int} {n n' : Nat}

/-! ## Digits -/

/-- The value of a digit. -/
theorem toNat_sub_zero (hc : c.isDigit = true) :
    (c.toNat : Int) - '0'.toNat = (c.toNat - '0'.toNat : Nat) := by
  have hle : '0'.toNat ≤ c.toNat := (Char.isDigit_iff_toNat.mp hc).1
  omega

theorem le_ofDigitChars (cs : List Char) (n : Nat) : n ≤ Nat.ofDigitChars 10 cs n := by
  induction cs generalizing n with
  | nil => exact Nat.le_of_eq Nat.ofDigitChars_nil.symm
  | cons c cs ih =>
    rw [Nat.ofDigitChars_cons]
    have hnext := ih (10 * n + (c.toNat - '0'.toNat))
    omega

/-- Only one end of a range that contains zero can be missed. -/
theorem contains_signed_iff (hzero : range.Contains 0) : range.Contains (signed negative n) ↔
    if negative then range.low ≤ -n else n ≤ range.high := by
  obtain ⟨hlow, hhigh⟩ := hzero
  unfold IntegerRange.Contains signed
  cases negative
  · simp
    omega
  · simp
    omega

theorem contains_of_le (hzero : range.Contains 0) (h : range.Contains (signed negative n'))
    (hle : n ≤ n') : range.Contains (signed negative n) := by
  rw [contains_signed_iff hzero] at h ⊢
  cases negative with
  | false => exact Int.le_trans (Int.ofNat_le.mpr hle) h
  | true => exact Int.le_trans h (Int.neg_le_neg (Int.ofNat_le.mpr hle))

/-- A digit behind a number is read if the number stays in the range. -/
theorem readDigits_cons (hzero : range.Contains 0) (hc : c.isDigit = true) :
    let next := signed negative (10 * n + (c.toNat - '0'.toNat))
    readDigits range negative (signed negative n) (c :: cs) =
      if range.Contains next then readDigits range negative next cs
      else .error (if negative then .tooSmall else .tooLarge) := by
  intro next
  have hdigit := toNat_sub_zero hc
  have hiff : range.Contains next ↔ _ := contains_signed_iff hzero
  rw [readDigits]
  simp only [hc, Bool.not_true, Bool.false_eq_true, if_false]
  cases negative with
  | false =>
    have hnext : signed false n * 10 + (c.toNat - '0'.toNat) = next := by
      simp only [next, signed, Bool.false_eq_true, if_false]
      omega
    have hmiss : range.high < next ↔ ¬range.Contains next := by
      rw [hiff]
      exact Int.not_le.symm
    simp only [Bool.false_eq_true, if_false, hnext, hmiss, ite_not]
  | true =>
    have hnext : signed true n * 10 - (c.toNat - '0'.toNat) = next := by
      simp only [next, signed, if_true]
      omega
    have hmiss : next < range.low ↔ ¬range.Contains next := by
      rw [hiff]
      exact Int.not_le.symm
    simp only [if_true, hnext, hmiss, ite_not]

/-- Further digits are read exactly if they are digits and the whole number is in the range. -/
theorem readDigits_eq_ok_iff (hzero : range.Contains 0)
    (hn : range.Contains (signed negative n)) :
    readDigits range negative (signed negative n) cs = .ok m ↔
      (∀ c ∈ cs, c.isDigit = true) ∧ m = signed negative (Nat.ofDigitChars 10 cs n) ∧
        range.Contains m := by
  induction cs generalizing n with
  | nil =>
    rw [readDigits, Nat.ofDigitChars_nil, Except.ok.injEq]
    constructor
    · rintro rfl
      exact ⟨nofun, rfl, hn⟩
    · rintro ⟨-, rfl, -⟩
      rfl
  | cons c cs ih =>
    by_cases hc : c.isDigit = true
    · rw [readDigits_cons hzero hc, Nat.ofDigitChars_cons, List.forall_mem_cons]
      split
      · next hnext => rw [ih hnext, and_iff_right hc]
      · next hmiss =>
        refine iff_of_false nofun ?_
        rintro ⟨-, rfl, hm⟩
        -- the whole number lies beyond the one that is missed
        exact hmiss (contains_of_le hzero hm (le_ofDigitChars cs _))
    · rw [readDigits, if_pos (by simp [hc])]
      exact iff_of_false nofun fun h => hc (h.1 c List.mem_cons_self)

/-! ## Whole texts -/

theorem readNumber_eq_ok_iff (hzero : range.Contains 0) :
    readNumber range negative cs = .ok m ↔ cs ≠ [] ∧ (∀ c ∈ cs, c.isDigit = true) ∧
      m = signed negative (Nat.ofDigitChars 10 cs 0) ∧ range.Contains m := by
  have hstart : signed negative 0 = 0 := by cases negative <;> rfl
  unfold readNumber
  split
  · next hempty =>
    exact iff_of_false nofun fun h => h.1 (List.isEmpty_iff.mp hempty)
  · next hsome =>
    have hne : cs ≠ [] := fun h => hsome (List.isEmpty_iff.mpr h)
    have hcontained : range.Contains (signed negative 0) := hstart.symm ▸ hzero
    have hread : readDigits range negative (signed negative 0) cs = .ok m ↔ _ :=
      readDigits_eq_ok_iff hzero hcontained
    rw [hstart] at hread
    rw [hread, and_iff_right hne]

/-- What is read from a text is what the text spells. -/
theorem parseInteger_eq_ok_iff (hzero : range.Contains 0) :
    parseInteger range s = .ok m ↔ Spells range s m := by
  unfold parseInteger
  constructor
  · intro h
    split at h
    · cases h
    · next cs htext =>
      obtain ⟨hne, hdigits, hvalue, hm⟩ := (readNumber_eq_ok_iff hzero).mp h
      exact ⟨hm, _, _, cs, .plus, hne, hdigits, htext, hvalue⟩
    · next cs htext =>
      split at h
      · next hbelow =>
        obtain ⟨hne, hdigits, hvalue, hm⟩ := (readNumber_eq_ok_iff hzero).mp h
        exact ⟨hm, _, _, cs, .minus hbelow, hne, hdigits, htext, hvalue⟩
      · cases h
    · obtain ⟨hne, hdigits, hvalue, hm⟩ := (readNumber_eq_ok_iff hzero).mp h
      exact ⟨hm, _, _, s.toList, .absent, hne, hdigits, rfl, hvalue⟩
  · rintro ⟨hm, sign, negative, digits, hsign, hne, hdigits, htext, hvalue⟩
    have hread := (readNumber_eq_ok_iff hzero).mpr ⟨hne, hdigits, hvalue, hm⟩
    rw [htext]
    cases hsign with
    | absent =>
      -- the first character is a digit and so no sign
      obtain ⟨c, cs, rfl⟩ := List.exists_cons_of_ne_nil hne
      have hc : c.isDigit = true := hdigits c List.mem_cons_self
      rw [List.nil_append]
      split
      · next heq => cases heq
      · next heq =>
        cases heq
        cases hc
      · next heq =>
        cases heq
        cases hc
      · exact hread
    | plus => exact hread
    | minus hbelow =>
      show (if range.low < 0 then _ else _) = _
      rw [if_pos hbelow]
      exact hread

end JobRunner.Text
