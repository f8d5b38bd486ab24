/-! A finite double as a whole number of powers of two: `mantissa * 2 ^ exponent`, and a sign. -/

namespace LightBridge.Decimal

structure Binary where
  negative : Bool
  mantissa : Nat
  exponent : Int
  /-- The next smaller double is only half as far away as the next larger one. -/
  narrowBelow : Bool
deriving DecidableEq, Repr

/-- The parts of a double, from its bits; there are none for infinities and non-numbers. -/
def Binary.ofFloat? (x : Float) : Option Binary :=
  let bits := x.toBits.toNat
  let negative : Bool := bits >>> 63 == 1
  let biased : Nat := (bits >>> 52) % 2048
  let fraction : Nat := bits % (1 <<< 52)
  if biased == 2047 then none
  else if biased == 0 then some ⟨negative, fraction, -1074, false⟩
  else some ⟨negative, (1 <<< 52) + fraction, (biased : Int) - 1075, fraction == 0 && 1 < biased⟩

/-- A positive fraction of two whole numbers. -/
structure Ratio where
  num : Nat
  den : Nat

/-- `n * 2 ^ e` in units of `10 ^ p`. -/
def Ratio.ofPowers (n : Nat) (e p : Int) : Ratio :=
  ⟨n * Nat.pow 2 e.toNat * Nat.pow 10 (-p).toNat, Nat.pow 2 (-e).toNat * Nat.pow 10 p.toNat⟩

def digitCount (n : Nat) : Nat := (Nat.toDigits 10 n).length

/-- The power of ten of the first digit of `n * 2 ^ e`. -/
def leadingPower (n : Nat) (e : Int) : Int :=
  let r := Ratio.ofPowers n e 0
  if r.den ≤ r.num then (digitCount (r.num / r.den) : Int) - 1
  else -(digitCount ((r.den - 1) / r.num) : Int)

/-- Where a number that is exactly half-way between two neighbours goes. -/
inductive Tie
  | up
  | toEven
deriving DecidableEq, Repr

/-- The whole number nearest to a fraction. -/
def Ratio.round (tie : Tie) (r : Ratio) : Nat :=
  let q := r.num / r.den
  let rest := 2 * (r.num % r.den)
  if rest < r.den then q
  else if r.den < rest then q + 1
  else match tie with
    | .up => q + 1
    | .toEven => q + q % 2

end LightBridge.Decimal
