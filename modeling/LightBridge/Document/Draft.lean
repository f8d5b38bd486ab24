import LightBridge.Document

/-! A document as it was read, before it is asked to make sense: members may repeat, a number may be
too large to have a value, and a text may hold half of a surrogate pair. A part nobody asks for may
be like that; `settle` asks for everything. -/

namespace LightBridge

inductive Draft
  | null
  | bool (b : Bool)
  | number (n : Option Number)
  | text (s : Option String)
  | array (items : List Draft)
  | object (members : List (Option String × Draft))
deriving Inhabited

namespace Draft

/-- How deep arrays and objects may be nested in a document. -/
def maxDepth : Nat := 127

mutual

/-- The document, if every part of it has a value and no more than `room` arrays and objects are
nested in it. -/
def settle (room : Nat) : Draft → Option Document
  | .null => some .null
  | .bool b => some (.bool b)
  | .number n => n.map .number
  | .text s => s.map .text
  | .array items => if room = 0 then none else (settleItems (room - 1) items).map .array
  | .object members =>
    if room = 0 then none else (settleMembers (room - 1) members).map Document.ofMembers

def settleItems (room : Nat) : List Draft → Option (List Document)
  | [] => some []
  | d :: ds => do return (← settle room d) :: (← settleItems room ds)

def settleMembers (room : Nat) :
    List (Option String × Draft) → Option (List (String × Document))
  | [] => some []
  | (name, d) :: ds => do return (← name, ← settle room d) :: (← settleMembers room ds)

end

mutual

/-- A document as the draft that settles to it. -/
def ofDocument : Document → Draft
  | .null => .null
  | .bool b => .bool b
  | .number n => .number (some n)
  | .text s => .text (some s)
  | .array items => .array (ofItems items)
  | .object members => .object (ofMembers members)

def ofItems : List Document → List Draft
  | [] => []
  | d :: ds => ofDocument d :: ofItems ds

def ofMembers : List (String × Document) → List (Option String × Draft)
  | [] => []
  | (name, d) :: ds => (some name, ofDocument d) :: ofMembers ds

end

end Draft

end LightBridge
