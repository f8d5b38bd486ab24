import LightBridge.Color

/-! The hue wheel: full colours in the order of the rainbow, once round for a phase from 0 to 1. -/

namespace LightBridge.Color

/-- What is left of a double when its part before the point is taken off; it keeps the sign. -/
def fraction (x : Float) : Float := x - if x < 0 then x.ceil else x.floor

/-- The colour at a phase. The wheel has six sides, on each of which one channel moves. -/
def wheel (phase : Float) : Color :=
  let along := fraction phase * 6
  let f := (fraction along * 255).toUInt8
  match along.toUInt8.toNat with
  | 0 => ⟨255, f, 0⟩
  | 1 => ⟨255 - f, 255, 0⟩
  | 2 => ⟨0, 255, f⟩
  | 3 => ⟨0, 255 - f, 255⟩
  | 4 => ⟨f, 0, 255⟩
  | _ => ⟨255, 0, 255 - f⟩

end LightBridge.Color
