import Mathlib.Analysis.SpecialFunctions.Pow.Real
import LightBridge.Light
import LightBridge.Proofs.Exact

/-! The brightness that a command names, in exact arithmetic. It never exceeds 254 and grows with
the brightness of the colour and with the factor. The lower limit is applied before the factor, so a
small factor takes it away again: what comes out is at least 1 exactly if the product is at least a
half. -/

namespace LightBridge

open Scalar

section

variable {α : Type} [Field α] [LinearOrder α] [IsStrictOrderedRing α] [FloorSemiring α]
  (sqrt gammaPower : α → α)

namespace Dimming

variable {d d' : Dimming α} {b b' : α}

/-- The number that is rounded to the one in a command. -/
def product (d : Dimming α) (brightness : α) : α := d.factor * (brightness * 254 ⊔ 1) ⊓ 254

omit [FloorSemiring α] in
theorem product_mono (hfactor : 0 ≤ d.factor) (hless : d.factor ≤ d'.factor) (hb : b ≤ b') :
    d.product b ≤ d'.product b' := by
  have hbrightness : b * 254 ⊔ 1 ≤ b' * 254 ⊔ 1 :=
    sup_le_sup_right (mul_le_mul_of_nonneg_right hb (by norm_num)) 1
  have hpositive : 0 ≤ b * 254 ⊔ 1 := zero_le_one.trans le_sup_right
  exact inf_le_inf_right 254 (mul_le_mul hless hbrightness hpositive (hfactor.trans hless))

theorem commanded_eq (d : Dimming α) (b : α) :
    letI := exact sqrt gammaPower
    (d.commanded b).toNat = ⌊d.product b + 1 / 2⌋₊ := by
  let := exact sqrt gammaPower
  have hlimit : (254.0 : α) = 254 := by norm_num
  have hleast : (1.0 : α) = 1 := by norm_num
  have hproduct : Scalar.min (d.factor * Scalar.max (b * 254.0) 1.0) 254.0 = d.product b := by
    rw [max_eq_sup (fun _ _ => rfl) fun _ _ => rfl, min_eq_inf (fun _ _ => rfl) fun _ _ => rfl,
      hlimit, hleast, product]
  have hmost : ⌊d.product b + 1 / 2⌋₊ < 255 := by
    have hle : d.product b ≤ 254 := inf_le_right
    rw [Nat.floor_lt' (by norm_num)]
    push_cast
    linarith
  have hmin : Nat.min 255 ⌊d.product b + 1 / 2⌋₊ = ⌊d.product b + 1 / 2⌋₊ :=
    Nat.min_eq_right hmost.le
  rw [commanded, hproduct]
  show (UInt8.ofNat (Nat.min 255 ⌊d.product b + 1 / 2⌋₊)).toNat = _
  rw [hmin, UInt8.toNat_ofNat', Nat.mod_eq_of_lt (by omega)]

theorem commanded_le (d : Dimming α) (b : α) :
    letI := exact sqrt gammaPower
    (d.commanded b).toNat ≤ 254 := by
  have hle : d.product b ≤ 254 := inf_le_right
  rw [commanded_eq, ← Nat.lt_succ_iff, Nat.floor_lt' (by norm_num)]
  push_cast
  linarith

theorem one_le_commanded_iff (d : Dimming α) (b : α) :
    letI := exact sqrt gammaPower
    1 ≤ (d.commanded b).toNat ↔ 1 / 2 ≤ d.factor * (b * 254 ⊔ 1) := by
  rw [commanded_eq, Nat.one_le_floor_iff, product]
  constructor
  · intro h
    have hinf : 1 / 2 ≤ d.factor * (b * 254 ⊔ 1) ⊓ 254 := by linarith
    exact hinf.trans inf_le_left
  · intro h
    have hinf : 1 / 2 ≤ d.factor * (b * 254 ⊔ 1) ⊓ 254 := le_inf h (by norm_num)
    linarith

theorem commanded_mono (hfactor : 0 ≤ d.factor) (hless : d.factor ≤ d'.factor) (hb : b ≤ b') :
    letI := exact sqrt gammaPower
    (d.commanded b).toNat ≤ (d'.commanded b').toNat := by
  rw [commanded_eq, commanded_eq]
  exact Nat.floor_le_floor (add_le_add_left (product_mono hfactor hless hb) _)

end Dimming

namespace Light

/-- Over the control channel a new colour is sent with its chromaticity as it is and a brightness of
at most 254, which grows with the brightness of the colour and with the factor. It is at least 1
exactly if the factor leaves at least a half of what the lower limit made of the brightness. -/
theorem setColor_commands {l : Light α} {p : Point α} {d : Dimming α} (hfactor : 0 < d.factor)
    (hother : letI := exact sqrt gammaPower; l.requested.same p = false) :
    letI := exact sqrt gammaPower
    ∃ bri : UInt8,
      l.setColor p d false = ({ l with requested := p, color := p }, [.color p.x p.y bri]) ∧
      bri.toNat ≤ 254 ∧
      (1 ≤ bri.toNat ↔ 1 / 2 ≤ d.factor * (p.brightness * 254 ⊔ 1)) ∧
      ∀ (l' : Light α) (q : Point α) (d' : Dimming α), l'.requested.same q = false →
        p.brightness ≤ q.brightness → d.factor ≤ d'.factor →
        ∃ bri' : UInt8,
          l'.setColor q d' false = ({ l' with requested := q, color := q }, [.color q.x q.y bri']) ∧
          bri.toNat ≤ bri'.toNat := by
  let := exact sqrt gammaPower
  have hsent : ∀ (l : Light α) (p : Point α) (d : Dimming α), l.requested.same p = false →
      l.setColor p d false =
        ({ l with requested := p, color := p }, [.color p.x p.y (d.commanded p.brightness)]) := by
    intro l p d hother
    rw [setColor, if_neg Bool.false_ne_true, sendColor, if_neg (ne_true_of_eq_false hother)]
  refine ⟨d.commanded p.brightness, hsent l p d hother,
    Dimming.commanded_le sqrt gammaPower d p.brightness,
    Dimming.one_le_commanded_iff sqrt gammaPower d p.brightness, ?grows⟩
  case grows =>
    intro l' q d' hother' hbrightness hless
    exact ⟨d'.commanded q.brightness, hsent l' q d' hother',
      Dimming.commanded_mono sqrt gammaPower hfactor.le hless hbrightness⟩

end Light

end

namespace Light

/-- A colour, and a brighter one, at a factor that takes both beyond the range. -/
theorem setColor_commands_doubled :
    letI := exact Real.sqrt fun x => x ^ (2.4 : ℝ)
    let l : Light ℝ := .ofEntry 5 { model := "LCT015" }
    let p : Point ℝ := ⟨1 / 4, 1 / 2, 3 / 4⟩
    let q : Point ℝ := ⟨1 / 2, 1 / 4, 1⟩
    let d : Dimming ℝ := ⟨2, 0, 1⟩
    (0 < d.factor ∧ l.requested.same p = false) ∧ ∃ bri bri' : UInt8,
      l.setColor p d false = ({ l with requested := p, color := p }, [.color p.x p.y bri]) ∧
      l.setColor q d false = ({ l with requested := q, color := q }, [.color q.x q.y bri']) ∧
      1 ≤ bri.toNat ∧ bri.toNat ≤ bri'.toNat := by
  let := exact Real.sqrt fun x => x ^ (2.4 : ℝ)
  intro l p q d
  have hfactor : 0 < d.factor := by norm_num [d]
  have hother : l.requested.same p = false := by
    show (decide ((0.0 : ℝ) = 1 / 4) && _ && _) = false
    norm_num
  have hother' : l.requested.same q = false := by
    show (decide ((0.0 : ℝ) = 1 / 2) && _ && _) = false
    norm_num
  have hhalf : 1 / 2 ≤ d.factor * (p.brightness * 254 ⊔ 1) := by norm_num [d, p]
  have hbrighter : p.brightness ≤ q.brightness := by norm_num [p, q]
  obtain ⟨bri, hsent, -, hleast, hgrows⟩ :=
    setColor_commands Real.sqrt (fun x => x ^ (2.4 : ℝ)) hfactor hother
  obtain ⟨bri', hsent', hle⟩ := hgrows l q d hother' hbrighter le_rfl
  exact ⟨⟨hfactor, hother⟩, bri, bri', hsent, hsent', hleast.2 hhalf, hle⟩

/-- A quarter of the least brightness is no brightness: the lower limit does not hold for what is
sent. -/
theorem dark_below_range :
    letI := exact Real.sqrt fun x => x ^ (2.4 : ℝ)
    let l : Light ℝ := .ofEntry 5 { model := "LCT015" }
    let p : Point ℝ := ⟨1 / 4, 1 / 2, 0⟩
    let d : Dimming ℝ := ⟨1 / 4, 0, 1⟩
    (0 < d.factor ∧ 0 ≤ p.brightness ∧ p.brightness ≤ 1 ∧ l.requested.same p = false) ∧
    (l.setColor p d false).2 = [.color (1 / 4) (1 / 2) 0] := by
  let := exact Real.sqrt fun x => x ^ (2.4 : ℝ)
  intro l p d
  have hother : l.requested.same p = false := by
    show (decide ((0.0 : ℝ) = 1 / 4) && _ && _) = false
    norm_num
  have hnone : d.commanded p.brightness = 0 := by
    have hfloor : ⌊d.product p.brightness + 1 / 2⌋₊ = 0 := by
      rw [Nat.floor_eq_zero]
      norm_num [Dimming.product, d, p]
    exact UInt8.toNat_inj.1
      ((Dimming.commanded_eq Real.sqrt (fun x => x ^ (2.4 : ℝ)) d p.brightness).trans hfloor)
  refine ⟨⟨by norm_num [d], le_rfl, zero_le_one, hother⟩, ?_⟩
  rw [setColor, if_neg Bool.false_ne_true, sendColor, if_neg (ne_true_of_eq_false hother), hnone]

/-- In doubles nothing is left of it either. -/
example : (⟨0.25, 0.0, 1.0⟩ : Dimming Float).commanded 0.0 = 0 := by decide +kernel

end Light

end LightBridge
