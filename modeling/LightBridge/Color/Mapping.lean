import LightBridge.Gamut.Triangle

/-! From red, green and blue in `[0, 1]` to a point of a gamut. The brightness is the largest
channel after the gamma curve; black has no chromaticity and goes to the origin, whatever the gamut;
every other colour is clipped to the gamut. -/

namespace LightBridge.Color

variable {α : Type} [Scalar α]

/-- The gamma curve of one channel: a power above the threshold and a line below it. -/
def gamma (channel : α) : α :=
  if Scalar.lt 0.04045 channel then Scalar.gammaPower ((channel + 0.055) / 1.055)
  else channel / 12.92

def orZero (v : α) : α := if Scalar.isNaN v then 0.0 else v

/-- Maps three channels into `gamut`, over the wide-gamut primaries. -/
def mapInto (gamut : Triangle α) (red green blue : α) : Point α :=
  let r := gamma red
  let g := gamma green
  let b := gamma blue
  let x := r * 0.664511 + g * 0.154324 + b * 0.162028
  let y := r * 0.283881 + g * 0.668433 + b * 0.047685
  let z := r * 0.000088 + g * 0.072310 + b * 0.986039
  let sum := x + y + z
  if Scalar.same sum 0.0 then Point.origin
  else gamut.clip ⟨orZero (x / sum), orZero (y / sum), Scalar.max (Scalar.max r g) b⟩

end LightBridge.Color
