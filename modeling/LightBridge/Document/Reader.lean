import LightBridge.Document.Draft
import LightBridge.Document.Lexeme
import LightBridge.Text.Hex

/-! Reading JSON text. The grammar is the strict one: no text but blanks around the document, no
control characters in texts, no leading zeros. `Draft.read` looks at the grammar only; a `Document`
also has to settle. -/

namespace LightBridge

namespace Reader

def isBlank (c : Char) : Bool := c = ' ' || c = '\t' || c = '\n' || c = '\r'

def skipBlanks (cs : List Char) : List Char := cs.dropWhile isBlank

/-- What follows the given word. -/
def expect (word : List Char) (cs : List Char) : Option (List Char) :=
  if word.isPrefixOf cs then some (cs.drop word.length) else none

def digitValue (c : Char) : Nat := c.toNat - '0'.toNat

/-- The digits at the front. -/
def digits (cs : List Char) : List Nat × List Char :=
  ((cs.takeWhile Char.isDigit).map digitValue, cs.dropWhile Char.isDigit)

/-- The digits before the point: a zero alone, or digits that do not start with one. -/
def whole (cs : List Char) : Option (List Nat × List Char) :=
  match digits cs with
  | ([], _) => none
  | (0 :: _ :: _, _) => none
  | found => some found

/-- The digits after a point, if there is a point. -/
def fraction (cs : List Char) : Option (Option (List Nat) × List Char) :=
  match cs with
  | '.' :: rest =>
    match digits rest with
    | ([], _) => none
    | (ds, rest) => some (some ds, rest)
  | _ => some (none, cs)

def exponentDigits (sign : Int) (cs : List Char) : Option (Option Int × List Char) :=
  match digits cs with
  | ([], _) => none
  | (ds, rest) =>
    let size : Nat := ds.foldl (fun acc d => 10 * acc + d) 0
    some (some (sign * size), rest)

def exponent (cs : List Char) : Option (Option Int × List Char) :=
  match cs with
  | c :: rest =>
    if c = 'e' || c = 'E' then
      match rest with
      | '+' :: rest => exponentDigits 1 rest
      | '-' :: rest => exponentDigits (-1) rest
      | rest => exponentDigits 1 rest
    else some (none, cs)
  | [] => some (none, [])

def number (negative : Bool) (cs : List Char) : Option (Draft × List Char) := do
  let (front, cs) ← whole cs
  let (back, cs) ← fraction cs
  let (power, cs) ← exponent cs
  return (.number (Lexeme.value? ⟨negative, front, back, power⟩), cs)

/-- The number that four hexadecimal digits stand for. -/
def codeUnit : List Char → Option (Nat × List Char)
  | a :: b :: c :: d :: rest => do
    let a ← Text.Hex.digit? a
    let b ← Text.Hex.digit? b
    let c ← Text.Hex.digit? c
    let d ← Text.Hex.digit? d
    return (((a * 16 + b) * 16 + c) * 16 + d, rest)
  | _ => none

/-- One unit of a text: a character, or half of a surrogate pair. -/
inductive Piece
  | char (c : Char)
  | half (unit : Nat)

def simpleEscape? : Char → Option Char
  | '"' => some '"'
  | '\\' => some '\\'
  | '/' => some '/'
  | 'b' => some '\x08'
  | 'f' => some '\x0c'
  | 'n' => some '\n'
  | 'r' => some '\r'
  | 't' => some '\t'
  | _ => none

def pieceOf (unit : Nat) : Piece :=
  if 0xD800 ≤ unit ∧ unit < 0xE000 then .half unit else .char (Char.ofNat unit)

/-- The pieces up to the closing quote. Every step takes a character off the text, so its length is
fuel enough. -/
def pieces : Nat → List Char → Option (List Piece × List Char)
  | 0, _ => none
  | fuel + 1, cs =>
    match cs with
    | [] => none
    | '"' :: rest => some ([], rest)
    | '\\' :: 'u' :: rest => do
      let (unit, rest) ← codeUnit rest
      let (ps, rest) ← pieces fuel rest
      return (pieceOf unit :: ps, rest)
    | '\\' :: c :: rest => do
      let e ← simpleEscape? c
      let (ps, rest) ← pieces fuel rest
      return (.char e :: ps, rest)
    | c :: rest =>
      if c.toNat < 0x20 || c = '\\' then none
      else do
        let (ps, rest) ← pieces fuel rest
        return (.char c :: ps, rest)

/-- Joins surrogate pairs; there is no text when a half stands alone. -/
def join : List Piece → Option (List Char)
  | [] => some []
  | .char c :: rest => (join rest).map (c :: ·)
  | .half u :: .half v :: rest =>
    if u < 0xDC00 ∧ 0xDC00 ≤ v then
      (join rest).map (Char.ofNat (0x10000 + (u - 0xD800) * 0x400 + (v - 0xDC00)) :: ·)
    else none
  | .half _ :: _ => none

def textBody (cs : List Char) : Option (Option String × List Char) :=
  (pieces (cs.length + 1) cs).map fun r => ((join r.1).map String.ofList, r.2)

mutual

def value : Nat → List Char → Option (Draft × List Char)
  | 0, _ => none
  | fuel + 1, cs =>
    match skipBlanks cs with
    | '"' :: rest => (textBody rest).map fun r => (.text r.1, r.2)
    | '[' :: rest =>
      match skipBlanks rest with
      | ']' :: rest => some (.array [], rest)
      | rest => (items fuel rest).map fun r => (.array r.1, r.2)
    | '\x7b' :: rest =>
      match skipBlanks rest with
      | '\x7d' :: rest => some (.object [], rest)
      | rest => (members fuel rest).map fun r => (.object r.1, r.2)
    | '-' :: rest => number true rest
    | 'n' :: rest => (expect ['u', 'l', 'l'] rest).map (.null, ·)
    | 't' :: rest => (expect ['r', 'u', 'e'] rest).map (.bool true, ·)
    | 'f' :: rest => (expect ['a', 'l', 's', 'e'] rest).map (.bool false, ·)
    | rest => number false rest

/-- At least one item, up to the closing bracket. -/
def items : Nat → List Char → Option (List Draft × List Char)
  | 0, _ => none
  | fuel + 1, cs => do
    let (d, cs) ← value fuel cs
    match skipBlanks cs with
    | ']' :: rest => return ([d], rest)
    | ',' :: rest =>
      let (ds, rest) ← items fuel rest
      return (d :: ds, rest)
    | _ => none

/-- At least one member, up to the closing brace. -/
def members : Nat → List Char → Option (List (Option String × Draft) × List Char)
  | 0, _ => none
  | fuel + 1, cs =>
    match skipBlanks cs with
    | '"' :: rest => do
      let (name, cs) ← textBody rest
      let cs ← expect [':'] (skipBlanks cs)
      let (d, cs) ← value fuel cs
      match skipBlanks cs with
      | '\x7d' :: rest => return ([(name, d)], rest)
      | ',' :: rest =>
        let (ds, rest) ← members fuel rest
        return ((name, d) :: ds, rest)
      | _ => none
    | _ => none

end

end Reader

/-- Reads a whole text. -/
def Draft.read (s : String) : Option Draft :=
  let cs := s.toList
  match Reader.value (2 * cs.length + 2) cs with
  | some (d, rest) => if (Reader.skipBlanks rest).isEmpty then some d else none
  | none => none

def Document.read (s : String) : Option Document :=
  (Draft.read s).bind (Draft.settle Draft.maxDepth)

end LightBridge
