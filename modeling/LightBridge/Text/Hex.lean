/-! Bytes as pairs of hexadecimal digits. Reading takes either case and refuses everything that is
not a sequence of whole pairs; writing uses lower case. -/

namespace LightBridge.Text.Hex

def digit? (c : Char) : Option Nat :=
  if '0' ≤ c ∧ c ≤ '9' then some (c.toNat - '0'.toNat)
  else if 'a' ≤ c ∧ c ≤ 'f' then some (c.toNat - 'a'.toNat + 10)
  else if 'A' ≤ c ∧ c ≤ 'F' then some (c.toNat - 'A'.toNat + 10)
  else none

def digitOf (n : Nat) : Char :=
  if n < 10 then Char.ofNat ('0'.toNat + n) else Char.ofNat ('a'.toNat + (n - 10))

def encodeByte (b : UInt8) : List Char := [digitOf (b.toNat / 16), digitOf (b.toNat % 16)]

def encode (bytes : List UInt8) : String := String.ofList (bytes.flatMap encodeByte)

def decodeChars : List Char → Option (List UInt8)
  | [] => some []
  | high :: low :: rest => do
    let h ← digit? high
    let l ← digit? low
    let bytes ← decodeChars rest
    return UInt8.ofNat (16 * h + l) :: bytes
  | [_] => none

def decode (s : String) : Option (List UInt8) := decodeChars s.toList

/-- The digits of a number, highest first, without leading zeros. -/
def digits (n : Nat) : String := String.ofList (Nat.toDigits 16 n)

/-- A word of the given number of digits. -/
def word (width n : Nat) : String :=
  let ds := Nat.toDigits 16 n
  String.ofList (List.replicate (width - ds.length) '0' ++ ds)

end LightBridge.Text.Hex
