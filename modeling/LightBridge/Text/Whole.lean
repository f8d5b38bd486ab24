/-! Whole numbers in decimal, up to a limit: an optional plus sign and at least one ASCII digit.
A text that is no such number has one `Defect`, found from the left: a digit that takes the value
past the limit is reported before anything behind it is looked at. -/

namespace LightBridge.Text

/-- What is wrong with a text that should be a whole number. -/
inductive Defect
  | empty
  | invalidDigit
  | tooLarge
deriving DecidableEq, Repr

def Defect.message : Defect → String
  | .empty => "cannot parse integer from empty string"
  | .invalidDigit => "invalid digit found in string"
  | .tooLarge => "number too large to fit in target type"

def digit? (c : Char) : Option Nat := if c.isDigit then some (c.toNat - '0'.toNat) else none

namespace Whole

/-- Appends the digits of a text to `value`. -/
def accumulate (limit value : Nat) : List Char → Except Defect Nat
  | [] => .ok value
  | c :: rest =>
    match digit? c with
    | none => .error .invalidDigit
    | some d =>
      if limit < 10 * value + d then .error .tooLarge else accumulate limit (10 * value + d) rest

def parseChars (limit : Nat) : List Char → Except Defect Nat
  | [] => .error .empty
  | ['+'] => .error .invalidDigit
  | '+' :: c :: rest => accumulate limit 0 (c :: rest)
  | c :: rest => accumulate limit 0 (c :: rest)

def parse (limit : Nat) (s : String) : Except Defect Nat := parseChars limit s.toList

def parse? (limit : Nat) (s : String) : Option Nat := (parse limit s).toOption

end Whole

end LightBridge.Text
