/-!
# Random draws

A source of random 64-bit words, as a list that is drawn from over and over again.
-/

namespace JobRunner

/-- A cyclic list of random words, and how many have been drawn. -/
structure Draws where
  cycle : List UInt64
  taken : Nat
  deriving Repr, Inhabited

namespace Draws

/-- A source that nothing has been drawn from. -/
def ofList (cycle : List UInt64) : Draws := ⟨cycle, 0⟩

/-- The next word, and the source after it. -/
def next (d : Draws) : UInt64 × Draws :=
  (d.cycle.getD (d.taken % d.cycle.length) 0, { d with taken := d.taken + 1 })

end Draws

end JobRunner
