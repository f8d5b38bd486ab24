import LightBridge.Document

/-! The value of a number as it is written. Digits are gathered in a 64-bit significand; those that
do not fit are dropped, in front of the point with the exponent made larger instead. The double is
the significand times or divided by one power of ten, in double arithmetic; a number too large for a
double has no value. -/

namespace LightBridge

/-- The parts of a written number: the digits before the point, those after it if there is a point,
and the exponent if there is one. -/
structure Lexeme where
  negative : Bool
  whole : List Nat
  fraction : Option (List Nat)
  exponent : Option Int

namespace Lexeme

def limit : Nat := UInt64.size

/-- Appends digits to a significand while they fit; also how many were taken. -/
def gather (significand taken : Nat) : List Nat → Nat × Nat
  | [] => (significand, taken)
  | d :: ds =>
    if 10 * significand + d < limit then gather (10 * significand + d) (taken + 1) ds
    else (significand, taken)

/-- Divides by `10 ^ e`, by no more than `10 ^ 308` at a time. -/
def shrink (f : Float) (e : Nat) : Float :=
  if h : e ≤ 308 then f / Float.ofScientific 1 false e
  else if f == 0 then f
  else shrink (f / 1e308) (e - 308)
termination_by e
decreasing_by omega

/-- `f * 10 ^ e`, unless that is too large. -/
def scaled? (f : Float) (e : Int) : Option Float :=
  if e < 0 then some (shrink f e.natAbs)
  else if 308 < e then if f == 0 then some f else none
  else
    let g := f * Float.ofScientific 1 false e.natAbs
    if g.isInf then none else some g

def double? (n : Lexeme) : Option Float :=
  let front := gather 0 0 n.whole
  let back := gather front.1 0 (n.fraction.getD [])
  let e := (n.whole.length - front.2 : Int) - back.2 + n.exponent.getD 0
  (scaled? (UInt64.ofNat back.1).toFloat e).map fun f => if n.negative then -f else f

/-- A whole number in 64 bits, signed or not; minus zero is none. -/
def integer? (n : Lexeme) : Option Int :=
  if n.fraction.isSome || n.exponent.isSome then none
  else
    let v : Nat := n.whole.foldl (fun acc d => 10 * acc + d) 0
    if n.negative then if 0 < v ∧ v ≤ limit / 2 then some (-(v : Int)) else none
    else if v < limit then some v else none

def value? (n : Lexeme) : Option Number :=
  match n.integer? with
  | some v => some (.integer v)
  | none => n.double?.map .real

end Lexeme

end LightBridge
