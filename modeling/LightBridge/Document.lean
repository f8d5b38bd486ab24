/-! JSON documents. A number is a whole number when it is written as one and fits into 64 bits, and
a double otherwise. The members of an object that was read have distinct names and stand in the
order of their names. -/

namespace LightBridge

inductive Number
  | integer (n : Int)
  | real (x : Float)
deriving BEq

def Number.toFloat : Number → Float
  | .integer n => if n < 0 then -(Float.ofNat n.natAbs) else Float.ofNat n.natAbs
  | .real x => x

inductive Document
  | null
  | bool (b : Bool)
  | number (n : Number)
  | text (s : String)
  | array (items : List Document)
  | object (members : List (String × Document))
deriving BEq, Inhabited

namespace Document

def integer (n : Int) : Document := .number (.integer n)

def nat (n : Nat) : Document := .integer n

/-- A double; documents have no infinities and non-numbers, and null stands for them. -/
def real (x : Float) : Document := if x.isFinite then .number (.real x) else .null

/-- Sets a member, keeping the members in the order of their names. -/
def insert (name : String) (value : Document) :
    List (String × Document) → List (String × Document)
  | [] => [(name, value)]
  | m :: rest =>
    if name < m.1 then (name, value) :: m :: rest
    else if name = m.1 then (name, value) :: rest
    else m :: insert name value rest

/-- The object with the given members; of two with one name the later one stands. -/
def ofMembers (members : List (String × Document)) : Document :=
  .object (members.foldl (fun acc m => insert m.1 m.2 acc) [])

/-- The member of an object. -/
def get? (name : String) : Document → Option Document
  | .object members => members.lookup name
  | _ => none

end Document

end LightBridge
