import LightBridge.Color
import LightBridge.Document.Record

/-! Points, triangles and colours as documents. -/

namespace LightBridge

namespace Point

def ofDraft? (d : Draft) : Option (Point Float) := do
  let r ← Record.of? ["x", "y", "bri"] d
  return ⟨← r.required "x" Draft.float?, ← r.required "y" Draft.float?,
    ← r.required "bri" Draft.float?⟩

def toDocument (p : Point Float) : Document :=
  .object [("bri", .real p.brightness), ("x", .real p.x), ("y", .real p.y)]

end Point

namespace Triangle

def ofDraft? (d : Draft) : Option (Triangle Float) := do
  let r ← Record.of? ["red", "green", "blue"] d
  return ⟨← r.required "red" Point.ofDraft?, ← r.required "green" Point.ofDraft?,
    ← r.required "blue" Point.ofDraft?⟩

def toDocument (t : Triangle Float) : Document :=
  .object [("blue", t.blue.toDocument), ("green", t.green.toDocument), ("red", t.red.toDocument)]

end Triangle

namespace Color

def ofDraft? (d : Draft) : Option Color := do
  let r ← Record.of? ["red", "green", "blue"] d
  return ⟨← r.required "red" Draft.uint8?, ← r.required "green" Draft.uint8?,
    ← r.required "blue" Draft.uint8?⟩

def toDocument (c : Color) : Document :=
  .object [("blue", .nat c.blue.toNat), ("green", .nat c.green.toNat), ("red", .nat c.red.toNat)]

end Color

end LightBridge
