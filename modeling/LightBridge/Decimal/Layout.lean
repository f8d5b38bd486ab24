import LightBridge.Decimal.Shortest

/-! How a double is written out: which sizes are written with a point in place and which with an
exponent, the sign of that, which way ties go, and the texts of what is no finite number. A whole
number keeps one zero after its point. -/

namespace LightBridge.Decimal

structure Layout where
  /-- The least power of the first digit that is written without an exponent. -/
  least : Int
  /-- The greatest such power. -/
  greatest : Int
  tie : Tie
  /-- What stands before a positive exponent. -/
  sign : String

def zeros (n : Nat) : String := String.ofList (List.replicate n '0')

/-- Puts a point in front of the last `places` digits. -/
def withPoint (digits places : Nat) : String :=
  let ds := Nat.toDigits 10 digits
  let ds := List.replicate (places + 1 - ds.length) '0' ++ ds
  let front := ds.length - places
  String.ofList (ds.take front) ++ "." ++ String.ofList (ds.drop front)

/-- The digits with a point after the first one, and none if there is only one. -/
def withLeadingPoint (digits : Nat) : String :=
  if digits < 10 then toString digits else withPoint digits (digitCount digits - 1)

/-- A positive decimal. -/
def Layout.write (layout : Layout) (s : Scaled) : String :=
  let power := (digitCount s.digits : Int) - 1 + s.exponent
  if layout.least ≤ power ∧ power ≤ layout.greatest then
    if 0 ≤ s.exponent then toString s.digits ++ zeros s.exponent.toNat ++ ".0"
    else withPoint s.digits (-s.exponent).toNat
  else
    withLeadingPoint s.digits ++ "e" ++ (if 0 < power then layout.sign else "") ++ toString power

def Layout.finite (layout : Layout) (b : Binary) : String :=
  (if b.negative then "-" else "") ++
    if b.mantissa = 0 then "0.0" else layout.write (b.shortest layout.tie)

/-- A double with the texts of the special values. -/
def Layout.show (layout : Layout) (x : Float) : String :=
  match Binary.ofFloat? x with
  | some b => layout.finite b
  | none => if x.isNaN then "NaN" else if x < 0 then "-inf" else "inf"

/-- A double rounded to a fixed number of decimal places, ties going to the even digit. -/
def places (count : Nat) (x : Float) : String :=
  match Binary.ofFloat? x with
  | some b =>
    (if b.negative then "-" else "") ++
      withPoint ((Ratio.ofPowers b.mantissa b.exponent (-(count : Int))).round .toEven) count
  | none => if x.isNaN then "NaN" else if x < 0 then "-inf" else "inf"

end LightBridge.Decimal
