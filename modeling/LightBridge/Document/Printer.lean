import LightBridge.Decimal.Layout
import LightBridge.Document
import LightBridge.Text.Hex

/-! The compact text of a document: no blanks, members in the order in which they stand, the
shortest digits of a double. -/

namespace LightBridge.Document

/-- Doubles have an exponent below `10 ^ -5` and from `10 ^ 16` on, with a sign in either case; ties
go to the even digit. -/
def numbers : Decimal.Layout := ⟨-5, 15, .toEven, "+"⟩

def escapeChar (c : Char) : List Char :=
  match c with
  | '"' => ['\\', '"']
  | '\\' => ['\\', '\\']
  | '\x08' => ['\\', 'b']
  | '\x0c' => ['\\', 'f']
  | '\n' => ['\\', 'n']
  | '\r' => ['\\', 'r']
  | '\t' => ['\\', 't']
  | _ => if c.toNat < 0x20 then ['\\', 'u'] ++ (Text.Hex.word 4 c.toNat).toList else [c]

def printText (s : String) : String := "\"" ++ String.ofList (s.toList.flatMap escapeChar) ++ "\""

def printNumber : Number → String
  | .integer n => toString n
  | .real x => numbers.show x

mutual

def print : Document → String
  | .null => "null"
  | .bool b => if b then "true" else "false"
  | .number n => printNumber n
  | .text s => printText s
  | .array items => "[" ++ ",".intercalate (printItems items) ++ "]"
  | .object members => "\x7b" ++ ",".intercalate (printMembers members) ++ "\x7d"

def printItems : List Document → List String
  | [] => []
  | d :: ds => print d :: printItems ds

def printMembers : List (String × Document) → List String
  | [] => []
  | (name, d) :: ds => (printText name ++ ":" ++ print d) :: printMembers ds

end

end LightBridge.Document
