import LightBridge.Color.Mapping
import LightBridge.Text.Blank
import LightBridge.Text.Quoted
import LightBridge.Text.Whole

/-! Eight-bit colours and their text, three numbers between commas. Reading allows blanks around
each number; the first part that is no channel is reported even if the number of parts is wrong
too. -/

namespace LightBridge

structure Color where
  red : UInt8
  green : UInt8
  blue : UInt8
deriving DecidableEq, Repr

namespace Color

def black : Color := ⟨0, 0, 0⟩

/-- The point of a gamut that shows this colour. -/
def toPoint {α : Type} [Scalar α] (c : Color) (gamut : Triangle α) : Point α :=
  mapInto gamut (Scalar.ofNat c.red.toNat / 255.0) (Scalar.ofNat c.green.toNat / 255.0)
    (Scalar.ofNat c.blue.toNat / 255.0)

/-- Why a text is no colour. -/
inductive Malformed
  | channel (text : String) (defect : Text.Defect)
  | count
deriving DecidableEq, Repr

def Malformed.message : Malformed → String
  | .channel text defect => s!"invalid channel in {Text.quote text}: {defect.message}"
  | .count => "Expected format: r,g,b"

/-- The parts of a text between its commas. -/
def parts : List Char → List (List Char)
  | [] => [[]]
  | c :: rest =>
    match c, parts rest with
    | ',', ps => [] :: ps
    | c, p :: ps => (c :: p) :: ps
    | c, [] => [[c]]

def channel (part : List Char) : Except Text.Defect UInt8 :=
  (Text.Whole.parseChars 255 (Text.strip Text.isBlank part)).map UInt8.ofNat

def parse (s : String) : Except Malformed Color :=
  match (parts s.toList).mapM channel with
  | .error defect => .error (.channel s defect)
  | .ok [r, g, b] => .ok ⟨r, g, b⟩
  | .ok _ => .error .count

end Color

end LightBridge
