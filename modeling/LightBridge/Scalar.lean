/-! The numbers colours are computed with, and the functions of them that a colour needs. Doubles
are one instance; nothing below depends on which. A value that differs from itself is not a number,
and `max`, `min` and the comparisons treat it as every program that mixes configured limits with
measured values has to: `max` and `min` pass over it, comparisons with it fail. -/

namespace LightBridge

class Scalar (α : Type) extends Add α, Sub α, Mul α, Div α, OfScientific α where
  lt : α → α → Bool
  le : α → α → Bool
  /-- Equality of values: both zeros are the same, and nothing is the same as a non-number. -/
  same : α → α → Bool
  ofNat : Nat → α
  sqrt : α → α
  /-- The exponent of the display gamma curve, 2.4. -/
  gammaPower : α → α
  /-- The whole number nearest to a value, halves going up, limited to `[0, bound]`; zero for a
  non-number. -/
  nearest (bound : Nat) : α → Nat

namespace Scalar

variable {α : Type} [Scalar α]

def isNaN (x : α) : Bool := !same x x

/-- The larger of two values, of equal ones the second; a non-number gives way to the other one. -/
def max (x y : α) : α := if isNaN y then x else if lt y x then x else y

/-- The smaller of two values, of equal ones the second; a non-number gives way to the other one. -/
def min (x y : α) : α := if isNaN y then x else if lt x y then x else y

/-- Moves a value to the nearer end of `[low, high]` if it lies outside; a non-number stays. -/
def clamp (low high x : α) : α := if lt x low then low else if lt high x then high else x

/-- `clamp` for limits that come from outside: there is no answer when the limits are crossed or
not numbers. -/
def clamp? (low high x : α) : Option α := if le low high then some (clamp low high x) else none

end Scalar

/-- The nearest whole number, through the part before the point. Beyond `2 ^ 53` a double has no
other part, so the subtraction is exact. -/
def nearestFloat (bound : Nat) (x : Float) : Nat :=
  let whole := x.toUInt64
  let up := if 0.5 ≤ x - whole.toFloat then 1 else 0
  Nat.min bound (whole.toNat + up)

instance : Scalar Float where
  lt x y := x < y
  le x y := x ≤ y
  same x y := x == y
  ofNat n := Float.ofNat n
  sqrt := Float.sqrt
  gammaPower x := Float.pow x 2.4
  nearest := nearestFloat

end LightBridge
