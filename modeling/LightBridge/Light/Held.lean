import LightBridge.Light

/-! Lights that somebody holds. Each one taken has a number of its own, so that lights can be told
apart even when they drive the same lamp. -/

namespace LightBridge

structure Held (α : Type) where
  number : Nat
  light : Light α

/-- A command on its way from a light to the lamp with an id. -/
structure Sent (α : Type) where
  number : Nat
  id : UInt16
  command : LightCommand α

namespace Held

variable {α : Type}

/-- Lights with numbers from `first` on. -/
def numbered (first : Nat) (lights : List (Light α)) : List (Held α) :=
  lights.mapIdx fun i light => ⟨first + i, light⟩

theorem numbers_numbered (first : Nat) (lights : List (Light α)) :
    (numbered first lights).map (·.number) = List.range' first lights.length := by
  refine List.ext_getElem (by simp [numbered]) fun i _ _ => ?_
  simp [numbered]

/-- A change of the light, with the commands it sends. -/
def change (f : Light α → Light α × List (LightCommand α)) (h : Held α) : Held α × List (Sent α) :=
  let (light, commands) := f h.light
  ({ h with light }, commands.map fun c => ⟨h.number, light.id, c⟩)

/-- The command that gives the light back. -/
def restoring (h : Held α) : Sent α := ⟨h.number, h.light.id, h.light.restoring⟩

/-- The ids and colours of lights, in order. -/
def snapshot (lights : List (Held α)) : List (UInt16 × Point α) :=
  lights.map fun h => (h.light.id, h.light.color)

/-- Changes one of several lights, if there is one at the index. -/
def changeAt (index : Nat) (f : Light α → Light α × List (LightCommand α))
    (lights : List (Held α)) : List (Held α) × List (Sent α) :=
  match lights[index]? with
  | none => (lights, [])
  | some h =>
    let (h, sent) := h.change f
    (lights.set index h, sent)

end Held

end LightBridge
