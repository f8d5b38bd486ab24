import LightBridge.Fault
import LightBridge.Point

/-! The binary frame that carries one colour per light to an entertainment group: a header of 16
bytes and a record of 9 bytes for each light.

```text
"HueStream" 01 00 seq 00 00 mode 00
00 00 id x x y y brightness brightness     (repeated, words with the high byte first)
```
-/

namespace LightBridge

/-- What the three words of a record mean. -/
inductive ColorMode
  | rgb
  | xyBrightness
deriving DecidableEq, Repr

/-- One light in a frame. A record has room for the low byte of the light's id only. -/
structure LightRecord where
  id : UInt8
  x : UInt16
  y : UInt16
  brightness : UInt16
deriving DecidableEq, Repr

structure Frame where
  seq : UInt8
  mode : ColorMode
  lights : List LightRecord
deriving DecidableEq, Repr

namespace Frame

/-- "HueStream" in ASCII. -/
def magic : List UInt8 := [72, 117, 101, 83, 116, 114, 101, 97, 109]

def headerLength : Nat := 16

def recordLength : Nat := 9

/-- A value limited to `[0, 1]`, as a word. -/
def scale {α : Type} [Scalar α] (v : α) : UInt16 :=
  UInt16.ofNat (Scalar.nearest 65535 (Scalar.clamp 0.0 1.0 v * 65535.0))

def wordBytes (w : UInt16) : List UInt8 := [(w >>> 8).toUInt8, w.toUInt8]

def header (seq : UInt8) : List UInt8 := magic ++ [1, 0, seq, 0, 0, 1, 0]

def recordBytes {α : Type} [Scalar α] (id : UInt16) (p : Point α) : List UInt8 :=
  [0, 0, id.toUInt8] ++ wordBytes (scale p.x) ++ wordBytes (scale p.y) ++
    wordBytes (scale p.brightness)

/-- The frame that shows the given colours, in their order. -/
def encode {α : Type} [Scalar α] (seq : UInt8) (colors : List (UInt16 × Point α)) : List UInt8 :=
  header seq ++ colors.flatMap fun c => recordBytes c.1 c.2

def word (high low : UInt8) : UInt16 := (high.toUInt16 <<< 8) ||| low.toUInt16

/-- The whole records in a list of bytes; what is left over at the end is ignored. -/
def records : List UInt8 → List LightRecord
  | _ :: _ :: id :: x₁ :: x₀ :: y₁ :: y₀ :: b₁ :: b₀ :: rest =>
    ⟨id, word x₁ x₀, word y₁ y₀, word b₁ b₀⟩ :: records rest
  | _ => []

def modeOf (b : UInt8) : Except Fault ColorMode :=
  if b = 0 then .ok .rgb
  else if b = 1 then .ok .xyBrightness
  else .error (.stream "decode" s!"unknown color mode 0x{Text.Hex.word 2 b.toNat}")

def decode (bytes : List UInt8) : Except Fault Frame :=
  let rest := bytes.length - headerLength
  if bytes.length < headerLength ∨ bytes.take magic.length ≠ magic then
    .error (.stream "decode" "missing HueStream header")
  else if rest % recordLength ≠ 0 then
    .error (.stream "decode" s!"{rest % recordLength} trailing bytes")
  else
    (modeOf (bytes.getD 14 0)).map fun mode =>
      ⟨bytes.getD 11 0, mode, records (bytes.drop headerLength)⟩

end Frame

end LightBridge
