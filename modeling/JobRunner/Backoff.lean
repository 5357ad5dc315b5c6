import JobRunner.Draws
import JobRunner.Failure
import JobRunner.Job.Basic

/-!
# Backoff

How long a job rests between a failed attempt and the next one.

- `Backoff.growth`: the base doubled with every attempt, up to the cap.
- `Backoff.delay`: the growth, moved up or down by a random share of itself, still up to the cap.
- `Job.shouldRetry`: whether there is a next attempt at all.
-/

namespace JobRunner

/-- A length of time in nanoseconds. -/
structure Span where
  nanos : Nat
  deriving DecidableEq, Repr, Inhabited

namespace Span

/-- So many milliseconds. -/
def ofMillis (n : Nat) : Span := ⟨n * 1000000⟩

/-- So many seconds. -/
def ofSeconds (n : Nat) : Span := ⟨n * 1000000000⟩

/-- The whole milliseconds. -/
def millis (s : Span) : Nat := s.nanos / 1000000

end Span

/-- The greatest unsigned 64-bit number. -/
def wordLimit : Nat := UInt64.size - 1

/-- The rule of the delays between attempts. -/
structure Backoff where
  base : Span
  cap : Span
  /-- The share of a delay by which it may become longer or shorter. -/
  jitter : Float
  deriving Inhabited

namespace Backoff

/-- Delays from two seconds to a quarter of an hour, a fifth longer or shorter. -/
def standard : Backoff := ⟨.ofSeconds 2, .ofSeconds 900, 0.2⟩

/-- No delay at all. -/
def immediate : Backoff := ⟨⟨0⟩, ⟨0⟩, 0⟩

/-- The whole milliseconds of a span as a 64-bit word. -/
def word (s : Span) : Nat := s.millis % UInt64.size

/-- Two to the power `n`, or the greatest word if that is none. -/
def doublings (n : Nat) : Nat := if n < 64 then Nat.pow 2 n else wordLimit

/-- The delay after an attempt in milliseconds, before jitter. Attempts are counted from one. -/
def growth (b : Backoff) (attempt : Int) : Nat :=
  min (min (word b.base * doublings (max attempt 1 - 1).toNat) wordLimit) (word b.cap)

/-! ## Jitter -/

/-- The greatest fraction that a draw yields: one less `2 ^ -52`. -/
def topFraction : Float := 1 - 1 / (Nat.pow 2 52).toFloat

/-- The fraction in `[0, 1)` that the upper 52 bits of a word yield. -/
def fraction (word : UInt64) : Float := (word >>> 12).toFloat / (Nat.pow 2 52).toFloat

/-- The first of the doubles with the bits `bits`, `bits - 1`, … by which the greatest fraction can
be scaled from `-radius` without going beyond `radius`. -/
def fitScale (radius : Float) : (bits : Nat) → Float
  | 0 => 0
  | bits + 1 =>
    let scale := Float.ofBits (bits + 1).toUInt64
    if scale * topFraction + -radius > radius then fitScale radius bits else scale

/-- A random number from `-radius` to `radius`; none if these are no bounds of a finite interval. -/
def uniform? (radius : Float) (draws : Draws) : Option (Float × Draws) :=
  if !(-radius ≤ radius) then none
  else
    let scale := (radius - -radius) / topFraction
    if !scale.isFinite then none
    else
      let (word, draws) := draws.next
      some (fraction word * fitScale radius scale.toBits.toNat + -radius, draws)

/-- The delay after an attempt in milliseconds. Nothing is drawn for a delay of zero or without
jitter; none if the jitter spans no finite interval. -/
def delay (b : Backoff) (attempt : Int) (draws : Draws) : Option (Nat × Draws) :=
  let whole := b.growth attempt
  if whole = 0 ∨ b.jitter ≤ 0 then some (whole, draws)
  else
    let center := whole.toUInt64.toFloat
    (uniform? (center * b.jitter) draws).map fun (shift, draws) =>
      let moved := (center + shift).round
      (min (if moved > 0 then moved.toUInt64.toNat else 0) (word b.cap), draws)

end Backoff

/-- A failed job is attempted again only after a transient failure, and while attempts are left. -/
def Job.shouldRetry (job : Job) (f : Failure) : Bool := f.isTransient && job.attemptsLeft

end JobRunner
