import LightBridge.Decimal.Layout
import LightBridge.Light
import LightBridge.Text.Quoted

/-! The one-line text of a light, for a reader of logs. -/

namespace LightBridge.Light

/-- Doubles have an exponent below `10 ^ -4` and from `10 ^ 16` on, and ties go up. -/
def numbers : Decimal.Layout := ⟨-4, 15, .up, ""⟩

def describePoint (p : Point Float) : String :=
  "Point \x7b x: " ++ numbers.show p.x ++ ", y: " ++ numbers.show p.y ++ ", brightness: " ++
    numbers.show p.brightness ++ " \x7d"

def describe (l : Light Float) : String :=
  "Light \x7b id: " ++ toString l.id.toNat ++ ", model_id: " ++ Text.quote l.model ++ ", name: " ++
    Text.quote l.name ++ ", gamut: " ++ l.gamut.name ++ ", power: " ++ l.power.name ++
    ", color: " ++ describePoint l.color ++ ", transition_time: " ++
    toString l.transitionTime.toNat ++ " \x7d"

end LightBridge.Light
