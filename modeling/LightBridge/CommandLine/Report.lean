import LightBridge.Color
import LightBridge.Decimal.Layout
import LightBridge.Gamut
import LightBridge.Inventory

/-! The texts that the program prints. Columns are padded by the number of characters; what is
longer than its column moves the rest of the line. -/

namespace LightBridge.CommandLine

def spaces (n : Nat) : String := String.ofList (List.replicate n ' ')

def padLeft (width : Nat) (s : String) : String := spaces (width - s.length) ++ s

def padRight (width : Nat) (s : String) : String := s ++ spaces (width - s.length)

def showIds (ids : List UInt16) : String :=
  "[" ++ ", ".intercalate (ids.map fun id => toString id.toNat) ++ "]"

def showRgb (c : Color) : String :=
  s!"RGB({c.red.toNat}, {c.green.toNat}, {c.blue.toNat})"

/-- Where a colour lies in the gamut of a model. -/
def mapLines (c : Color) (model : String) : List String :=
  let gamut := Gamut.ofModel model
  let p : Point Float := c.toPoint gamut.triangle
  [s!"Model {model} uses gamut {gamut.name}",
    "  x: " ++ Decimal.places 4 p.x ++ "  y: " ++ Decimal.places 4 p.y ++ "  brightness: " ++
      Decimal.places 4 p.brightness]

def groupLine (id : UInt16) (g : GroupEntry) : String :=
  "  " ++ padLeft 3 (toString id.toNat) ++ "  " ++ padRight 20 g.name ++ " " ++
    padRight 14 g.kind ++ " lights " ++ showIds g.lightIds

def lightLine (id : UInt16) (l : LightEntry Float) : String :=
  "  " ++ padLeft 3 (toString id.toNat) ++ "  " ++ padRight 20 l.name ++ " " ++
    padRight 8 l.model ++ " gamut " ++ (Gamut.ofModel l.model).name

def inventoryLines (i : Inventory) : List String :=
  "Groups:" :: i.groups.map (fun e => groupLine e.1 e.2) ++
    "Lights:" :: i.lights.map fun e => lightLine e.1 e.2

end LightBridge.CommandLine
