import LightBridge.Scalar

/-! A chromaticity in the CIE xy plane with a brightness beside it. Two points are the same when all
three components are; the plane geometry (`sub`, `dot`, `cross`) looks at x and y alone. -/

namespace LightBridge

structure Point (α : Type) where
  x : α
  y : α
  brightness : α

namespace Point

variable {α : Type} [Scalar α]

/-- A point without brightness, as the corners of a gamut are. -/
def xy (x y : α) : Point α := ⟨x, y, 0.0⟩

/-- No colour at all: what black maps to. -/
def origin : Point α := xy 0.0 0.0

def same (p q : Point α) : Bool :=
  Scalar.same p.x q.x && Scalar.same p.y q.y && Scalar.same p.brightness q.brightness

def withBrightness (p : Point α) (brightness : α) : Point α := { p with brightness }

def sub (p q : Point α) : Point α := xy (p.x - q.x) (p.y - q.y)

def dot (p q : Point α) : α := p.x * q.x + p.y * q.y

def cross (p q : Point α) : α := p.x * q.y - p.y * q.x

/-- Distance in the xy plane. -/
def distance (p q : Point α) : α :=
  let d := p.sub q
  Scalar.sqrt (d.dot d)

end Point

end LightBridge
