import LightBridge.Inventory

/-! The commands a light takes, and what each does to a lamp. -/

namespace LightBridge

/-- The state a light was in when it was taken over. Nothing but being off is kept of a light that
was off. -/
inductive FoundState (α : Type)
  | dark
  | lit (x y : α) (bri : UInt8)

inductive LightCommand (α : Type)
  | power (on : Bool)
  /-- In tenths of a second. -/
  | transition (time : UInt16)
  | color (x y : α) (bri : UInt8)
  | restore (state : FoundState α)

namespace FoundState

def toDocument : FoundState Float → Document
  | dark => .object [("on", .bool false)]
  | lit x y bri => .object [("bri", .nat bri.toNat), ("on", .bool true),
      ("xy", .array [.real x, .real y])]

end FoundState

namespace LightCommand

/-- The body of a command. -/
def toDocument : LightCommand Float → Document
  | power on => .object [("on", .bool on)]
  | transition time => .object [("transitiontime", .nat time.toNat)]
  | color x y bri => .object [("bri", .nat bri.toNat), ("xy", .array [.real x, .real y])]
  | restore state => state.toDocument

variable {α : Type}

/-- A lamp takes over the parts of its state that a command names. -/
def apply (lamp : LightReport α) : LightCommand α → LightReport α
  | power on => { lamp with on := some on }
  | transition time => { lamp with transitionTime := some time }
  | color x y bri => { lamp with xy := some (x, y), bri := some bri }
  | restore .dark => { lamp with on := some false }
  | restore (.lit x y bri) => { lamp with on := some true, xy := some (x, y), bri := some bri }

/-- The state a lamp is in after commands carried out in order. -/
def replay (lamp : LightReport α) (commands : List (LightCommand α)) : LightReport α :=
  commands.foldl apply lamp

end LightCommand

end LightBridge
