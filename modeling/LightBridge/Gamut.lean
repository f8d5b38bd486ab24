import LightBridge.Gamut.Triangle
import LightBridge.Text.Blank

/-! The gamut families of lamps and the model ids that belong to each. A model id no family lists is
taken to show the whole unit triangle. -/

namespace LightBridge

inductive Gamut
  | a
  | b
  | c
  | full
deriving DecidableEq, Repr

namespace Gamut

def all : List Gamut := [a, b, c, full]

def name : Gamut → String
  | a => "A"
  | b => "B"
  | c => "C"
  | full => "Full"

def models : Gamut → List String
  | a => ["LLC001", "LLC005", "LLC006", "LLC007", "LLC010", "LLC011", "LLC012", "LLC013", "LLC014",
      "LST001"]
  | b => ["LCT001", "LCT002", "LCT003", "LCT007", "LLM001"]
  | c => ["LLC020", "LST002", "LCT011", "LCT012", "LCT010", "LCT014", "LCT015", "LCT016", "LCT024"]
  | full => []

/-- A model id as it is compared: no blanks at the ends, then no double quotes at the ends. -/
def bareModel (model : String) : String :=
  String.ofList (Text.strip (· == '"') (Text.strip Text.isBlank model.toList))

/-- The family that lists a model id. -/
def classify? (model : String) : Option Gamut :=
  all.find? fun gamut => gamut.models.contains (bareModel model)

def ofModel (model : String) : Gamut := (classify? model).getD full

def triangle {α : Type} [Scalar α] : Gamut → Triangle α
  | a => ⟨.xy 0.704 0.296, .xy 0.2151 0.7106, .xy 0.138 0.08⟩
  | b => ⟨.xy 0.675 0.322, .xy 0.409 0.518, .xy 0.167 0.04⟩
  | c => ⟨.xy 0.6915 0.3083, .xy 0.17 0.7, .xy 0.1532 0.0475⟩
  | full => ⟨.xy 1.0 0.0, .xy 0.0 1.0, .xy 0.0 0.0⟩

end Gamut

end LightBridge
