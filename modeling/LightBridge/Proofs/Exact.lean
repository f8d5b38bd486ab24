import LightBridge.Scalar
import Mathlib.Algebra.Order.Floor.Semiring
import Mathlib.Tactic.Linarith
import Mathlib.Tactic.NormNum

/-! Exact arithmetic: the numbers of an ordered field, with nothing rounded but where a whole number
is asked for. Square roots and the power of the gamma curve are left to the field. -/

namespace LightBridge.Scalar

/-- The numbers of any ordered field, with functions that stand for what it need not have. -/
abbrev ofField {α : Type} [Field α] [LinearOrder α] (sqrt gammaPower : α → α)
    (nearest : Nat → α → Nat) : Scalar α where
  toAdd := inferInstance
  toSub := inferInstance
  toMul := inferInstance
  toDiv := inferInstance
  toOfScientific := inferInstance
  lt x y := decide (x < y)
  le x y := decide (x ≤ y)
  same x y := decide (x = y)
  ofNat n := n
  sqrt := sqrt
  gammaPower := gammaPower
  nearest := nearest

section

variable {α : Type} [LinearOrder α] {S : Scalar α}

/-- Where values are compared as those of a linear order are, `max` is the greater of two. -/
theorem max_eq_sup (hlt : ∀ x y, S.lt x y = decide (x < y))
    (hsame : ∀ x y, S.same x y = decide (x = y)) (x y : α) : S.max x y = x ⊔ y := by
  have hnumber : S.isNaN y = false := by simp [isNaN, hsame]
  rw [max, hnumber, hlt, if_neg Bool.false_ne_true]
  rcases lt_or_ge y x with hless | hle
  · rw [if_pos (decide_eq_true hless), sup_eq_left.2 hless.le]
  · rw [if_neg (by simpa using hle), sup_eq_right.2 hle]

theorem min_eq_inf (hlt : ∀ x y, S.lt x y = decide (x < y))
    (hsame : ∀ x y, S.same x y = decide (x = y)) (x y : α) : S.min x y = x ⊓ y := by
  have hnumber : S.isNaN y = false := by simp [isNaN, hsame]
  rw [min, hnumber, hlt, if_neg Bool.false_ne_true]
  rcases lt_or_ge x y with hless | hle
  · rw [if_pos (decide_eq_true hless), inf_eq_left.2 hless.le]
  · rw [if_neg (by simpa using hle), inf_eq_right.2 hle]

end

variable {α : Type} [Field α] [LinearOrder α] [IsStrictOrderedRing α] [FloorSemiring α]
  (sqrt gammaPower : α → α)

/-- The numbers of a field, with functions that stand for the square root and the gamma power. -/
abbrev exact : Scalar α where
  toAdd := inferInstance
  toSub := inferInstance
  toMul := inferInstance
  toDiv := inferInstance
  toOfScientific := inferInstance
  lt x y := decide (x < y)
  le x y := decide (x ≤ y)
  same x y := decide (x = y)
  ofNat n := n
  sqrt := sqrt
  gammaPower := gammaPower
  nearest bound x := Nat.min bound ⌊x + 1 / 2⌋₊

omit [IsStrictOrderedRing α] in
theorem exact_clamp_of_mem {low high x : α} (hlow : low ≤ x) (hhigh : x ≤ high) :
    (exact sqrt gammaPower).clamp low high x = x := by
  show (if decide (x < low) then low else if decide (high < x) then high else x) = x
  rw [if_neg (by simpa using hlow), if_neg (by simpa using hhigh)]

theorem exact_nearest_natCast {bound n : Nat} (h : n ≤ bound) :
    (exact sqrt gammaPower).nearest bound (n : α) = n := by
  have hfloor : ⌊(n : α) + 1 / 2⌋₊ = n := by
    rw [Nat.floor_eq_iff (by positivity)]
    constructor <;> linarith
  show Nat.min bound ⌊(n : α) + 1 / 2⌋₊ = n
  rw [hfloor]
  exact Nat.min_eq_right h

end LightBridge.Scalar
