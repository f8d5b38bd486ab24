import LightBridge.Decimal.Binary

/-! The shortest decimal that reads back as a given double. The decimals that do so are those in the
interval of reals that round to the double; its ends belong to it when the mantissa is even. Of the
grids of one, two, … seventeen digits the first one with a point in the interval is taken, and on it
the point nearest to the double. -/

namespace LightBridge.Decimal

/-- `digits * 10 ^ exponent`. -/
structure Scaled where
  digits : Nat
  exponent : Int
deriving DecidableEq, Repr

/-- Whether `d` units of `10 ^ p` round to the double. Four units of the interval's ends are whole
multiples of the double's last bit. -/
def Binary.holds (b : Binary) (p : Int) (d : Nat) : Bool :=
  let low := Ratio.ofPowers (4 * b.mantissa - if b.narrowBelow then 1 else 2) b.exponent p
  let high := Ratio.ofPowers (4 * b.mantissa + 2) b.exponent p
  if b.mantissa % 2 = 0 then low.num ≤ 4 * d * low.den && 4 * d * high.den ≤ high.num
  else low.num < 4 * d * low.den && 4 * d * high.den < high.num

/-- The best point of the grid of multiples of `10 ^ p`, if one reads back as the double. -/
def Binary.onGrid? (tie : Tie) (b : Binary) (p : Int) : Option Nat :=
  let r := Ratio.ofPowers b.mantissa b.exponent p
  let below := r.num / r.den
  match b.holds p below, b.holds p (below + 1) with
  | true, true => some (r.round tie)
  | true, false => some below
  | false, true => some (below + 1)
  | false, false => none

/-- Tries the grids of `count` more digits, `p` being the power of the last digit. -/
def Binary.search (tie : Tie) (b : Binary) (p : Int) : Nat → Scaled
  | 0 => ⟨(Ratio.ofPowers b.mantissa b.exponent p).round tie, p⟩
  | count + 1 =>
    match b.onGrid? tie p with
    | some d => ⟨d, p⟩
    | none => b.search tie (p - 1) count

/-- Moves trailing zeros into the exponent. -/
def Scaled.strip (s : Scaled) : Scaled :=
  if h : s.digits % 10 = 0 ∧ 0 < s.digits then strip ⟨s.digits / 10, s.exponent + 1⟩ else s
termination_by s.digits
decreasing_by omega

/-- Seventeen digits always suffice, so the search ends before its last resort. -/
def Binary.shortest (tie : Tie) (b : Binary) : Scaled :=
  (b.search tie (leadingPower b.mantissa b.exponent) 17).strip

end LightBridge.Decimal
