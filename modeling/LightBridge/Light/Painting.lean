import LightBridge.Color
import LightBridge.Light
import LightBridge.Settings

/-! What a colour of a device does to one of its lights, under the settings of the device. -/

namespace LightBridge

def DeviceSettings.dimming (s : DeviceSettings) : Dimming Float :=
  ⟨s.brightnessFactor, s.brightnessMin, s.brightnessMax⟩

namespace Light

/-- Shows a colour on a light: over the stream it is only kept; over the control channel the lamp is
switched, its transition time set and the colour sent, in that order. -/
def paint (s : DeviceSettings) (c : Color) (l : Light Float) :
    Light Float × List (LightCommand Float) :=
  let p : Point Float := c.toPoint l.triangle
  if s.streaming then l.setColor p s.dimming true
  else
    let (l, switching) := l.setOn (!(s.switchOffOnBlack && Scalar.same p.brightness 0.0))
    let (l, timing) := l.setTransitionTime s.transitionTime
    let (l, coloring) := l.setColor p s.dimming false
    (l, switching ++ timing ++ coloring)

end Light

end LightBridge
