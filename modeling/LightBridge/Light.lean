import LightBridge.Gamut
import LightBridge.Light.Command
import LightBridge.Light.Power

/-! A light taken over from a bridge. It remembers the state it was found in, to give it back, and
what was last asked of it, so that nothing is sent twice. Over the control channel every change is a
command; in streaming mode a colour is only kept, for the next frame. -/

namespace LightBridge

/-- How brightness is changed on the way to a lamp. -/
structure Dimming (α : Type) where
  factor : α
  least : α
  greatest : α

namespace Dimming

variable {α : Type} [Scalar α]

/-- The greatest brightness of a stream, within `[0, 1]`. -/
def ceiling (d : Dimming α) : α := Scalar.min (Scalar.max d.greatest 0.0) 1.0

/-- The least brightness of a stream, no greater than the greatest. -/
def floor (d : Dimming α) : α := Scalar.min (Scalar.max d.least 0.0) d.ceiling

/-- The brightness a stream shows: limited from both sides, multiplied, and limited again. -/
def streamed? (d : Dimming α) (brightness : α) : Option α :=
  (Scalar.clamp? d.floor d.ceiling brightness).bind fun b =>
    Scalar.clamp? 0.0 d.ceiling (d.factor * b)

/-- The brightness in a command. A bridge takes 1 to 254. -/
def commanded (d : Dimming α) (brightness : α) : UInt8 :=
  UInt8.ofNat (Scalar.nearest 255
    (Scalar.min (d.factor * Scalar.max (brightness * 254.0) 1.0) 254.0))

end Dimming

structure Light (α : Type) where
  id : UInt16
  model : String
  name : String
  gamut : Gamut
  power : Power
  color : Point α
  /-- The colour last asked for, before any dimming. -/
  requested : Point α
  transitionTime : UInt16
  found : FoundState α

namespace Light

variable {α : Type}

def route (id : UInt16) : String := s!"lights/{id.toNat}/state"

def triangle [Scalar α] (l : Light α) : Triangle α := l.gamut.triangle

section

variable [Scalar α]

/-- Takes a light over in the state its entry reports. One that does not say whether it is on is
taken to be off, and of one that is off nothing else counts. -/
def ofEntry (id : UInt16) (entry : LightEntry α) : Light α :=
  let on := entry.state.on.getD false
  let xy := entry.state.xy.getD (0.0, 0.0)
  let bri := entry.state.bri.getD 0
  let color := if on then ⟨xy.1, xy.2, Scalar.ofNat bri.toNat / 255.0⟩ else Point.origin
  { id
    model := entry.model
    name := entry.name
    gamut := Gamut.ofModel entry.model
    power := .ofBool on
    color
    requested := color
    transitionTime := if on then entry.state.transitionTime.getD 0 else 0
    found := if on then .lit xy.1 xy.2 bri else .dark }

/-- Switches the lamp. -/
def setOn (on : Bool) (l : Light α) : Light α × List (LightCommand α) :=
  ({ l with power := .ofBool on }, if l.power = .ofBool on then [] else [.power on])

def setTransitionTime (time : UInt16) (l : Light α) : Light α × List (LightCommand α) :=
  ({ l with transitionTime := time }, if l.transitionTime = time then [] else [.transition time])

/-- Sends a colour, unless it was the last one asked for. -/
def sendColor (p : Point α) (d : Dimming α) (l : Light α) : Light α × List (LightCommand α) :=
  if l.requested.same p then (l, [])
  else ({ l with requested := p, color := p }, [.color p.x p.y (d.commanded p.brightness)])

/-- Keeps a colour for the stream, unless it was the last one asked for. -/
def keepColor (p : Point α) (d : Dimming α) (l : Light α) : Light α :=
  if l.requested.same p then l
  else match d.streamed? p.brightness with
    | some b => { l with requested := p, color := p.withBrightness b }
    | none => l

def setColor (p : Point α) (d : Dimming α) (streaming : Bool) (l : Light α) :
    Light α × List (LightCommand α) :=
  if streaming then (l.keepColor p d, []) else l.sendColor p d

/-- The command that gives the light back. -/
def restoring (l : Light α) : LightCommand α := .restore l.found

end

end Light

end LightBridge
