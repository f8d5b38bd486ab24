import LightBridge.Point

/-! The triangle of chromaticities a lamp can show, and the clipping of a point to it: a point
inside stays, one outside moves to the nearest of its three closest border points. -/

namespace LightBridge

structure Triangle (α : Type) where
  red : Point α
  green : Point α
  blue : Point α

/-- The point of the segment from `a` to `b` that is closest to `p`. -/
def Point.onSegment {α : Type} [Scalar α] (p a b : Point α) : Point α :=
  let ap := p.sub a
  let ab := b.sub a
  let t := Scalar.clamp 0.0 1.0 (ap.dot ab / ab.dot ab)
  Point.xy (a.x + ab.x * t) (a.y + ab.y * t)

namespace Triangle

variable {α : Type} [Scalar α]

/-- Whether both barycentric coordinates of `p` and their complement are non-negative; the border
belongs to the triangle. -/
def contains (t : Triangle α) (p : Point α) : Bool :=
  let v := t.green.sub t.red
  let w := t.blue.sub t.red
  let q := p.sub t.red
  let area := v.cross w
  let s := q.cross w / area
  let u := v.cross q / area
  Scalar.le 0.0 s && Scalar.le 0.0 u && Scalar.le (s + u) 1.0

/-- Whichever of the two is nearer to `p`; the first one when they are equally near. -/
def nearer (p first second : Point α) : Point α :=
  if Scalar.lt (p.distance second) (p.distance first) then second else first

/-- The border point nearest to `p`. Of equally near ones the edge from red to green wins, then the
one from blue to red. -/
def nearestOnBorder (t : Triangle α) (p : Point α) : Point α :=
  nearer p (nearer p (p.onSegment t.red t.green) (p.onSegment t.blue t.red))
    (p.onSegment t.green t.blue)

/-- Moves a point outside the triangle to the nearest border point and keeps its brightness. -/
def clip (t : Triangle α) (p : Point α) : Point α :=
  if t.contains p then p else (t.nearestOnBorder p).withBrightness p.brightness

end Triangle

end LightBridge
