import LightBridge.Document.Record

/-! Whether a lamp shines. -/

namespace LightBridge

inductive Power
  | on
  | off
deriving DecidableEq, Repr

namespace Power

def ofBool (on : Bool) : Power := if on then .on else .off

def isOn : Power → Bool
  | on => true
  | off => false

def name : Power → String
  | on => "On"
  | off => "Off"

def named? : String → Option Power
  | "On" => some .on
  | "Off" => some .off
  | _ => none

def ofDraft? (d : Draft) : Option Power := d.oneOf? named?

def toDocument (p : Power) : Document := .text p.name

@[simp] theorem isOn_ofBool (b : Bool) : (ofBool b).isOn = b := by cases b <;> rfl

end Power

end LightBridge
