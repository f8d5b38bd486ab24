import LightBridge.Document.Draft

/-! Reading values of known shape from a draft. A record is an object, of which unknown members are
passed over, or the array of its fields in order, of which the last ones may be left out. A field
that is not there takes its default; without one it may only be missing from an object, and only if
it is optional. A known member that stands twice spoils the record. -/

namespace LightBridge

namespace Draft

def bool? : Draft → Option Bool
  | .bool b => some b
  | _ => none

def text? : Draft → Option String
  | .text s => s
  | _ => none

def float? : Draft → Option Float
  | .number n => n.map Number.toFloat
  | _ => none

/-- A whole number in `[0, limit]`. -/
def nat? (limit : Nat) : Draft → Option Nat
  | .number (some (.integer n)) => if 0 ≤ n ∧ n ≤ limit then some n.toNat else none
  | _ => none

def uint8? (d : Draft) : Option UInt8 := (d.nat? 255).map UInt8.ofNat

def uint16? (d : Draft) : Option UInt16 := (d.nat? 65535).map UInt16.ofNat

def uint32? (d : Draft) : Option UInt32 := (d.nat? (UInt32.size - 1)).map UInt32.ofNat

def uint64? (d : Draft) : Option UInt64 := (d.nat? (UInt64.size - 1)).map UInt64.ofNat

/-- A value or null. -/
def orNull? {β : Type} (read : Draft → Option β) : Draft → Option (Option β)
  | .null => some none
  | d => (read d).map some

def list? {β : Type} (read : Draft → Option β) : Draft → Option (List β)
  | .array items => items.mapM read
  | _ => none

def pair? {β : Type} (read : Draft → Option β) : Draft → Option (β × β)
  | .array [a, b] => do return (← read a, ← read b)
  | _ => none

/-- One of several names, alone or as the only member of an object, with null. -/
def oneOf? {β : Type} (named : String → Option β) : Draft → Option β
  | .text (some s) => named s
  | .object [(some s, .null)] => named s
  | _ => none

end Draft

/-- The fields found in a draft, by name. -/
structure Record where
  /-- Written as an array. -/
  listed : Bool
  fields : List (String × Draft)

namespace Record

/-- The members, if all names are texts. -/
def named? (members : List (Option String × Draft)) : Option (List (String × Draft)) :=
  members.mapM fun m => m.1.map (·, m.2)

def distinct (names : List String) : Bool :=
  match names with
  | [] => true
  | n :: ns => !ns.contains n && distinct ns

/-- The known members of an object. -/
def ofMembers? (names : List String) (members : List (String × Draft)) : Option Record :=
  let known := members.filter fun m => names.contains m.1
  if distinct (known.map (·.1)) then some ⟨false, known⟩ else none

def ofObject? (names : List String) : Draft → Option Record
  | .object members => (named? members).bind (ofMembers? names)
  | _ => none

def of? (names : List String) : Draft → Option Record
  | .array items => if items.length ≤ names.length then some ⟨true, names.zip items⟩ else none
  | d => ofObject? names d

variable {β : Type}

/-- A field that has to be there. -/
def required (r : Record) (name : String) (read : Draft → Option β) : Option β :=
  (r.fields.lookup name).bind read

/-- A field with a default. -/
def orElse (r : Record) (name : String) (read : Draft → Option β) (default : β) : Option β :=
  match r.fields.lookup name with
  | some d => read d
  | none => some default

/-- An optional field without a default: it may be missing from an object. -/
def optional (r : Record) (name : String) (read : Draft → Option β) : Option (Option β) :=
  match r.fields.lookup name with
  | some d => d.orNull? read
  | none => if r.listed then none else some none

end Record

end LightBridge
