import JobRunner.Attempt
import Mathlib.Algebra.Ring.Nat
import Mathlib.Tactic.Common

/-!
# Delays between attempts

The growth of a delay is computed with 64-bit words that stop at the greatest one. Below the cap
that makes no difference to computing with numbers of any size.

- `Backoff.min_mul_doublings`: a product of words, capped, is the product of numbers, capped.
- `Backoff.growth_eq`, `Backoff.growth_mono`: how the delay grows with the attempts.
- `Backoff.Bounded`: what holds of every delay, whatever is drawn.
- `Backoff.bounded_delay`: it does hold.
-/

namespace JobRunner

namespace Span

/-- A span is no shorter than its whole milliseconds. -/
theorem ofMillis_millis_le (s : Span) : (ofMillis s.millis).nanos ≤ s.nanos :=
  Nat.div_mul_le_self s.nanos 1000000

end Span

namespace Backoff

variable {b : Backoff} {attempt attempt' : Int} {draws draws' : Draws} {d : Nat}

/-! ## Words -/

theorem lt_size_iff_le_wordLimit (n : Nat) : n < UInt64.size ↔ n ≤ wordLimit := by
  have hsize : UInt64.size = wordLimit + 1 := rfl
  omega

theorem word_of_lt {s : Span} (h : s.millis < UInt64.size) : word s = s.millis := Nat.mod_eq_of_lt h

/-- Milliseconds that do not fit are cut off. -/
theorem word_le_millis (s : Span) : word s ≤ s.millis := Nat.mod_le _ _

/-- Doublings are powers of two as long as they fit. -/
theorem doublings_of_lt {n : Nat} (h : n < 64) : doublings n = 2 ^ n := if_pos h

theorem doublings_of_le {n : Nat} (h : 64 ≤ n) : doublings n = wordLimit :=
  if_neg (Nat.not_lt.mpr h)

/-- From the 64th doubling on a power of two is no word any more. -/
theorem wordLimit_lt_two_pow {n : Nat} (h : 64 ≤ n) : wordLimit < 2 ^ n :=
  calc wordLimit < 2 ^ 64 := by decide
    _ ≤ 2 ^ n := Nat.pow_le_pow_right (by decide) h

/-- More doublings give no less. -/
theorem doublings_mono {n n' : Nat} (h : n ≤ n') : doublings n ≤ doublings n' := by
  by_cases hn' : n' < 64
  · rw [doublings_of_lt (Nat.lt_of_le_of_lt h hn'), doublings_of_lt hn']
    exact Nat.pow_le_pow_right (by decide) h
  · rw [doublings_of_le (Nat.not_lt.mp hn')]
    by_cases hn : n < 64
    · rw [doublings_of_lt hn]
      have hlt : 2 ^ n < 2 ^ 64 := Nat.pow_lt_pow_right (by decide) hn
      exact (lt_size_iff_le_wordLimit _).mp hlt
    · exact Nat.le_of_eq (doublings_of_le (Nat.not_lt.mp hn))

/-- Under a cap that is a word, it makes no difference that products of words stop at the greatest
word, nor that the greatest word stands for all greater powers of two. -/
theorem min_mul_doublings (base n : Nat) {cap : Nat} (hcap : cap ≤ wordLimit) :
    min (min (base * doublings n) wordLimit) cap = min (base * 2 ^ n) cap := by
  rw [Nat.min_assoc, Nat.min_eq_right hcap]
  by_cases hn : n < 64
  · rw [doublings_of_lt hn]
  · have hn' : 64 ≤ n := Nat.not_lt.mp hn
    rw [doublings_of_le hn']
    rcases Nat.eq_zero_or_pos base with rfl | hpos
    · rw [Nat.zero_mul, Nat.zero_mul]
    · -- both products are beyond every word, so only the cap counts
      have hword : cap ≤ base * wordLimit := Nat.le_trans hcap (Nat.le_mul_of_pos_left _ hpos)
      have hexact : cap ≤ base * 2 ^ n :=
        calc cap ≤ 2 ^ n := Nat.le_trans hcap (Nat.le_of_lt (wordLimit_lt_two_pow hn'))
          _ ≤ base * 2 ^ n := Nat.le_mul_of_pos_left _ hpos
      rw [Nat.min_eq_right hword, Nat.min_eq_right hexact]

/-! ## Growth -/

/-- The number of doublings before an attempt; attempts before the first one count as the first. -/
def exponent (attempt : Int) : Nat := (max attempt 1 - 1).toNat

/-- A later attempt has no smaller exponent. -/
theorem exponent_mono (h : attempt ≤ attempt') : exponent attempt ≤ exponent attempt' := by
  unfold exponent
  omega

/-- Base and cap are words of whole milliseconds. -/
structure Fits (b : Backoff) : Prop where
  base : b.base.millis < UInt64.size
  cap : b.cap.millis < UInt64.size

/-- The delay without jitter doubles with each attempt, up to the cap. -/
theorem growth_eq (h : b.Fits) (attempt : Int) :
    b.growth attempt = min (b.base.millis * 2 ^ exponent attempt) b.cap.millis := by
  unfold growth
  rw [word_of_lt h.base, word_of_lt h.cap]
  exact min_mul_doublings _ _ ((lt_size_iff_le_wordLimit _).mp h.cap)

/-- It never decreases. -/
theorem growth_mono (b : Backoff) (h : attempt ≤ attempt') :
    b.growth attempt ≤ b.growth attempt' := by
  have hpow : doublings (max attempt 1 - 1).toNat ≤ doublings (max attempt' 1 - 1).toNat :=
    doublings_mono (exponent_mono h)
  have hproduct := Nat.mul_le_mul_left (word b.base) hpow
  unfold growth
  omega

/-- It is within the cap. -/
theorem growth_le_cap (b : Backoff) (attempt : Int) : b.growth attempt ≤ word b.cap :=
  Nat.min_le_right _ _

theorem growth_of_base_zero (h : b.base.nanos = 0) (attempt : Int) : b.growth attempt = 0 := by
  have hword : word b.base = 0 := by
    unfold word Span.millis
    rw [h]
    rfl
  unfold growth
  rw [hword, Nat.zero_mul, Nat.zero_min, Nat.zero_min]

theorem growth_of_cap_zero (h : b.cap.nanos = 0) (attempt : Int) : b.growth attempt = 0 := by
  have hword : word b.cap = 0 := by
    unfold word Span.millis
    rw [h]
    rfl
  exact Nat.le_zero.mp (hword ▸ growth_le_cap b attempt)

/-! ## Delays -/

/-- Nothing is drawn for a delay of zero or without jitter. -/
theorem delay_of_undrawn (h : b.growth attempt = 0 ∨ b.jitter ≤ 0) :
    b.delay attempt draws = some (b.growth attempt, draws) := if_pos h

/-- Whatever is drawn, a delay does not exceed the whole milliseconds of the cap. -/
theorem delay_le_word (h : b.delay attempt draws = some (d, draws')) : d ≤ word b.cap := by
  by_cases hdrawn : b.growth attempt = 0 ∨ b.jitter ≤ 0
  · rw [delay_of_undrawn hdrawn] at h
    cases h
    exact growth_le_cap b attempt
  · unfold delay at h
    rw [if_neg hdrawn] at h
    obtain ⟨⟨shift, rest⟩, -, heq⟩ := Option.map_eq_some_iff.mp h
    have hd := (congrArg Prod.fst heq).symm
    have hmin : d = min _ (word b.cap) := hd
    rw [hmin]
    exact Nat.min_le_right _ _

/-- So is the delay with jitter. -/
theorem delay_le_cap (h : b.delay attempt draws = some (d, draws')) :
    (Span.ofMillis d).nanos ≤ b.cap.nanos := by
  have hmillis : d ≤ b.cap.millis := Nat.le_trans (delay_le_word h) (word_le_millis b.cap)
  calc (Span.ofMillis d).nanos ≤ (Span.ofMillis b.cap.millis).nanos :=
        Nat.mul_le_mul_right 1000000 hmillis
    _ ≤ b.cap.nanos := b.cap.ofMillis_millis_le

/-- What holds of the delays of a backoff. -/
structure Bounded (b : Backoff) : Prop where
  /-- Without jitter a delay is the base doubled with every attempt, up to the cap, and nothing is
  drawn. -/
  exact : b.Fits → b.jitter ≤ 0 → ∀ attempt draws, b.delay attempt draws =
    some (min (b.base.millis * 2 ^ (max attempt 1 - 1).toNat) b.cap.millis, draws)
  /-- Without jitter a later attempt has no shorter delay. -/
  monotone : b.jitter ≤ 0 → ∀ attempt attempt' draws draws', attempt ≤ attempt' →
    ∃ d d', b.delay attempt draws = some (d, draws) ∧ b.delay attempt' draws' = some (d', draws') ∧
      d ≤ d'
  /-- Whatever is drawn, a delay does not exceed the cap. -/
  capped : ∀ attempt draws d draws', b.delay attempt draws = some (d, draws') →
    (Span.ofMillis d).nanos ≤ b.cap.nanos
  /-- Nothing is drawn for a delay that has to be zero. -/
  zero : b.base.nanos = 0 ∨ b.cap.nanos = 0 → ∀ attempt draws,
    b.delay attempt draws = some (0, draws)

/-- The delays of every backoff are bounded, and exact where there is no jitter. -/
theorem bounded_delay (b : Backoff) : b.Bounded where
  exact hfits hjitter attempt draws := by
    rw [delay_of_undrawn (.inr hjitter), growth_eq hfits]
    rfl
  monotone hjitter attempt attempt' draws draws' hle :=
    ⟨b.growth attempt, b.growth attempt', delay_of_undrawn (.inr hjitter),
      delay_of_undrawn (.inr hjitter), growth_mono b hle⟩
  capped _ _ _ _ h := delay_le_cap h
  zero hzero attempt draws := by
    have hgrowth : b.growth attempt = 0 :=
      hzero.elim (growth_of_base_zero · attempt) (growth_of_cap_zero · attempt)
    rw [delay_of_undrawn (.inl hgrowth), hgrowth]

/-- From a tenth of a second to a second, without jitter. -/
def brisk : Backoff := ⟨.ofMillis 100, .ofMillis 1000, 0⟩

/-- The delays of a backoff without jitter: an attempt before the first, the fourth, and one long
after the last doubling that a word has room for. -/
theorem delays_of_brisk : brisk.Fits ∧ brisk.jitter ≤ 0 ∧
    brisk.delay (-7) (.ofList [9]) = some (100, .ofList [9]) ∧
    brisk.delay 4 (.ofList [9]) = some (800, .ofList [9]) ∧
    brisk.delay 200 (.ofList [9]) = some (1000, .ofList [9]) := by
  have hfits : brisk.Fits := ⟨by decide, by decide⟩
  have hjitter : brisk.jitter ≤ 0 := by decide
  have hexact := (bounded_delay brisk).exact hfits hjitter
  refine ⟨hfits, hjitter, ?_, ?_, ?_⟩
  · rw [hexact, show min (brisk.base.millis * 2 ^ (max (-7) 1 - 1 : Int).toNat) brisk.cap.millis
      = 100 by decide]
  · rw [hexact, show min (brisk.base.millis * 2 ^ (max 4 1 - 1 : Int).toNat) brisk.cap.millis
      = 800 by decide]
  · rw [hexact, show min (brisk.base.millis * 2 ^ (max 200 1 - 1 : Int).toNat) brisk.cap.millis
      = 1000 by decide]

end Backoff

/-! ## Retries -/

/-- A retry timer is due after the delay of its attempt, which is within the cap. -/
theorem Attempt.due_of_handOff {a : Attempt} {s : Service} {now : Nat} {draws : Draws}
    {timer : RetryTimer} (h : (a.handOff s now draws).2.2 = some timer) :
    ∃ d draws', a.backoff.delay a.job.attempts draws = some (d, draws') ∧ 0 < d ∧
      timer.due = now + d ∧ (Span.ofMillis d).nanos ≤ a.backoff.cap.nanos := by
  unfold handOff at h
  cases hdelay : a.backoff.delay a.job.attempts draws with
  | none =>
    simp only [hdelay] at h
    cases h
  | some drawn =>
    obtain ⟨d, draws'⟩ := drawn
    simp only [hdelay] at h
    split at h
    · cases h
    · cases h
    · next hpos heq =>
      cases heq
      cases h
      exact ⟨d, draws', rfl, Nat.pos_of_ne_zero hpos, rfl, Backoff.delay_le_cap hdelay⟩

end JobRunner
