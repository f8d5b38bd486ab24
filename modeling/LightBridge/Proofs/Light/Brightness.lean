import LightBridge.Proofs.Light.Streaming
import LightBridge.Proofs.Rounding

/-! The brightness that a stream shows, for limits that may be anything. The limits are confined to
`[0, 1]` before they are used, so a brightness can always be limited to them; the product with a
finite factor is a number again and keeps the order of what it is made of. -/

namespace LightBridge

namespace Scalar

open Dimming (max_zero min_number)

variable {a b c low high x y : Float}

/-- A value confined to `[low, high]`; what is not a number counts as `low`. -/
def confine (low high x : Float) : Float := if isNaN x then low else clamp low high x

theorem nonneg_of_le (ha : le 0.0 a = true) (h : le a b = true) : le 0.0 b = true := by
  have hzero : (0.0 : Float).toModel.unpack = .zero .positive := rfl
  have hu := unpacked_of_nonneg ha
  rw [le_iff] at h ⊢
  rw [hzero]
  generalize a.toModel.unpack = u at hu h
  cases hu with
  | zero s => rwa [compare_zero s .positive] at h
  | finite | infinity =>
    cases hv : b.toModel.unpack with
    | notANumber | zero => rw [hv] at h; cases h
    | infinity t | finite t =>
      cases t with
      | positive => rfl
      | negative => rw [hv] at h; cases h

/-- What is not above a finite double is finite. -/
theorem isFinite_of_le (ha : le 0.0 a = true) (h : le a b = true) (hb : b.isFinite = true) :
    a.isFinite = true := by
  have hu := unpacked_of_nonneg ha
  replace hb : b.toModel.unpack.isFinite = true := hb
  rw [le_iff] at h
  show a.toModel.unpack.isFinite = true
  generalize a.toModel.unpack = u at hu h
  cases hu with
  | zero | finite => rfl
  | infinity =>
    cases hv : b.toModel.unpack with
    | notANumber | infinity => rw [hv] at hb; cases hb
    | zero | finite => rw [hv] at h; cases h

theorem clamp_mem (h : le low high = true) (hx : x.toModel.unpack ≠ .notANumber) :
    le low (clamp low high x) = true ∧ le (clamp low high x) high = true := by
  have hlow := number_left_of_le h
  have hhigh := number_of_le h
  unfold clamp
  split
  · exact ⟨le_self hlow, h⟩
  · next hbelow =>
    have hle : le low x = true := le_of_not_lt hlow hx (eq_false_of_ne_true hbelow)
    split
    · exact ⟨h, le_self hhigh⟩
    · next habove => exact ⟨hle, le_of_not_lt hx hhigh (eq_false_of_ne_true habove)⟩

theorem le_trans_of_nonneg (ha : le 0.0 a = true) (h : le a b = true) (h' : le b c = true) :
    le a c = true := by
  have hb := nonneg_of_le ha h
  have hc := nonneg_of_le hb h'
  rw [le_iff_rank ha hb] at h
  rw [le_iff_rank hb hc] at h'
  rw [le_iff_rank ha hc]
  exact h.trans h'

theorem clamp_mono (hlow : le 0.0 low = true) (h : le low high = true) (hxy : le x y = true) :
    le (clamp low high x) (clamp low high y) = true := by
  have hx := number_left_of_le hxy
  have hy := clamp_mem h (number_of_le hxy)
  by_cases hbelow : lt x low = true
  · rw [clamp, if_pos hbelow]
    exact hy.1
  · -- From here on nothing is negative.
    have hlowx : le low x = true :=
      le_of_not_lt (number_left_of_le h) hx (eq_false_of_ne_true hbelow)
    have hx0 := nonneg_of_le hlow hlowx
    have hlowy := le_trans_of_nonneg hlow hlowx hxy
    by_cases habove : lt high x = true
    · have hy' : le high y = true := le_trans_of_nonneg (nonneg_of_le hlow h) (le_of_lt habove) hxy
      have hhigh : le high (clamp low high y) = true := by
        rw [clamp, if_neg (ne_true_of_eq_false (lt_asymm hlowy))]
        split
        · exact le_self (number_of_le h)
        · exact hy'
      rwa [clamp, if_neg hbelow, if_pos habove]
    · have hxhigh : le x high = true :=
        le_of_not_lt hx (number_of_le h) (eq_false_of_ne_true habove)
      rw [clamp, if_neg hbelow, if_neg habove, clamp,
        if_neg (ne_true_of_eq_false (lt_asymm hlowy))]
      split
      · exact hxhigh
      · exact hxy

theorem zero_number : (0.0 : Float).toModel.unpack ≠ .notANumber := fun h => by cases h

theorem min_zero_alike (hhigh : le 0.0 high = true) : Alike (min 0.0 high) 0.0 := by
  rw [min_number (number_of_le hhigh)]
  split
  · exact .refl _
  · next hnot =>
    exact alike_of_same (same_of_not_lt (number_of_le hhigh) zero_number (lt_asymm hhigh)
      (eq_false_of_ne_true hnot))

/-- Cutting off at zero and then at a limit confines a value, whatever the value is. -/
theorem min_max_alike (hhigh : le 0.0 high = true) (x : Float) :
    Alike (min (max x 0.0) high) (confine 0.0 high x) := by
  have hnumber := number_of_le hhigh
  rw [max_zero]
  by_cases hpositive : lt 0.0 x = true
  case pos =>
    have hx := number_of_le (le_of_lt hpositive)
    have hbelow : lt x 0.0 = false := lt_asymm (le_of_lt hpositive)
    rw [confine, not_nan hx, if_neg Bool.false_ne_true, if_pos hpositive, min_number hnumber,
      clamp, if_neg (ne_true_of_eq_false hbelow)]
    by_cases hxhigh : lt x high = true
    · have hnot : lt high x = false := lt_asymm (le_of_lt hxhigh)
      rw [if_pos hxhigh, if_neg (ne_true_of_eq_false hnot)]
      exact .refl x
    · rw [if_neg hxhigh]
      split
      · exact .refl high
      · next habove =>
        exact alike_of_same (same_of_not_lt hnumber hx (eq_false_of_ne_true habove)
          (eq_false_of_ne_true hxhigh))
  case neg =>
    rw [if_neg hpositive]
    refine (min_zero_alike hhigh).trans ?_
    rw [confine]
    split
    · exact .refl _
    · next hx =>
      have hx := number_of_not_nan (eq_false_of_ne_true hx)
      by_cases hbelow : lt x 0.0 = true
      · rw [clamp, if_pos hbelow]
        exact .refl _
      · -- What is left are the two zeros, and both stay as they are.
        have hzero : Alike x 0.0 := alike_of_same (same_of_not_lt hx zero_number
          (eq_false_of_ne_true hbelow) (eq_false_of_ne_true hpositive))
        have hhere : lt high x = false := by
          rw [hzero.lt_right]
          exact lt_asymm hhigh
        rw [clamp, if_neg hbelow, if_neg (ne_true_of_eq_false hhere)]
        exact hzero.symm

theorem confine_mem (h : le low high = true) (x : Float) :
    le low (confine low high x) = true ∧ le (confine low high x) high = true := by
  unfold confine
  split
  · exact ⟨le_self (number_left_of_le h), h⟩
  · next hx => exact clamp_mem h (number_of_not_nan (eq_false_of_ne_true hx))

theorem Alike.confine (h : Alike a b) (low x : Float) :
    Alike (Scalar.confine low a x) (Scalar.confine low b x) := by
  unfold Scalar.confine
  split
  · exact .refl low
  · exact Alike.clamp_limits (.refl low) h x

end Scalar

namespace Dimming

open Scalar

variable (d : Dimming Float)

/-- The upper limit that a stream goes by: the greatest brightness of the settings, made legal. -/
def upper : Float := confine 0.0 1.0 d.greatest

/-- The lower limit, made legal with regard to the upper one. -/
def lower : Float := confine 0.0 d.upper d.least

theorem ceiling_alike : Alike d.ceiling d.upper := min_max_alike rfl d.greatest

theorem floor_alike : Alike d.floor d.lower :=
  (min_max_alike d.ceiling_nonneg d.least).trans (d.ceiling_alike.confine 0.0 d.least)

theorem ceiling_le_one : le d.ceiling 1.0 = true := by
  rw [d.ceiling_alike.le_left]
  exact (confine_mem rfl d.greatest).2

theorem floor_nonneg : le 0.0 d.floor = true := by
  rw [floor, (min_max_alike d.ceiling_nonneg d.least).le_right]
  exact (confine_mem d.ceiling_nonneg d.least).1

variable {d} {a b : Float}

/-- What the limits leave of a brightness lies between them, and is finite. -/
theorem limited_mem (ha : isNaN a = false) :
    le 0.0 (clamp d.floor d.ceiling a) = true ∧ (clamp d.floor d.ceiling a).isFinite = true := by
  have hmem := clamp_mem d.floor_le (number_of_not_nan ha)
  have hnonneg := nonneg_of_le d.floor_nonneg hmem.1
  have hceiling : d.ceiling.isFinite = true := isFinite_of_le d.ceiling_nonneg d.ceiling_le_one rfl
  exact ⟨hnonneg, isFinite_of_le hnonneg hmem.2 hceiling⟩

theorem streamed_mem (hfactor : d.factor.isFinite = true) (ha : isNaN a = false) :
    le 0.0 (d.streamed a) = true ∧ le (d.streamed a) d.ceiling = true :=
  clamp_mem d.ceiling_nonneg (mul_number hfactor (limited_mem ha).2)

/-- A stream shows no less of a colour that is brighter. -/
theorem streamed_mono (hfactor : d.factor.isFinite = true) (hnonneg : le 0.0 d.factor = true)
    (hab : le a b = true) : le (d.streamed a) (d.streamed b) = true := by
  obtain ⟨ha, hafinite⟩ := limited_mem (d := d) (not_nan (number_left_of_le hab))
  obtain ⟨hb, hbfinite⟩ := limited_mem (d := d) (not_nan (number_of_le hab))
  have hlimited := clamp_mono d.floor_nonneg d.floor_le hab
  exact clamp_mono rfl d.ceiling_nonneg
    (mul_mono hnonneg hfactor ha hafinite hb hbfinite hlimited)

/-- The brightness that a stream shows is the one that the legal limits give. -/
theorem streamed_alike_limits (d : Dimming Float) (a : Float) :
    Alike (d.streamed a) (clamp 0.0 d.upper (d.factor * clamp d.lower d.upper a)) :=
  (((d.floor_alike.clamp_limits d.ceiling_alike a).mul d.factor).clamp 0.0 d.ceiling).trans
    ((Alike.refl 0.0).clamp_limits d.ceiling_alike _)

end Dimming

namespace Light

open Scalar

variable {d : Dimming Float} {p : Point Float} {l : Light Float}

/-- A light of a stream takes any brightness that is a number, whatever the limits of its settings
are: none of them makes limiting fail, nothing is sent, and what the light shows is legal. -/
theorem setColor_stream_legal (hfactor : d.factor.isFinite = true)
    (hnumber : isNaN p.brightness = false) (hother : l.requested.same p = false) :
    ∃ b, d.streamed? p.brightness = some b ∧
      l.setColor p d true = ({ l with requested := p, color := ⟨p.x, p.y, b⟩ }, []) ∧
      le 0.0 b = true ∧ le b d.upper = true ∧
      same b (clamp 0.0 d.upper (d.factor * clamp d.lower d.upper p.brightness)) = true ∧
      (le 0.0 d.factor = true → ∀ q, le p.brightness q = true →
        ∃ c, d.streamed? q = some c ∧ le b c = true) := by
  have hmem := Dimming.streamed_mem hfactor hnumber
  have hlimits := d.streamed_alike_limits p.brightness
  refine ⟨d.streamed p.brightness, d.streamed?_eq _, ?_, hmem.1, ?_, ?_, ?_⟩
  · rw [setColor, if_pos rfl, keepColor_eq, if_neg (ne_true_of_eq_false hother),
      if_neg (ne_true_of_eq_false hother)]
    rfl
  · rw [← d.ceiling_alike.le_right]
    exact hmem.2
  · have hnonneg := hmem.1
    rw [hlimits.le_right] at hnonneg
    exact hlimits.same_of_number (number_of_le hnonneg)
  · exact fun hnonneg q hq => ⟨_, d.streamed?_eq q, Dimming.streamed_mono hfactor hnonneg hq⟩

/-- The least brightness of the settings may be no number, and the colour brighter than any
light. -/
theorem setColor_stream_legal_without_least :
    let d : Dimming Float := ⟨1.5, 0.0 / 0.0, 0.75⟩
    let p : Point Float := ⟨0.25, 0.5, 1.0 / 0.0⟩
    let l : Light Float := .ofEntry 1 { state := { on := some true } }
    (d.factor.isFinite = true ∧ isNaN p.brightness = false ∧ l.requested.same p = false) ∧
    ∃ b, d.streamed? p.brightness = some b ∧
      l.setColor p d true = ({ l with requested := p, color := ⟨p.x, p.y, b⟩ }, []) ∧
      le 0.0 b = true ∧ le b d.upper = true ∧
      same b (clamp 0.0 d.upper (d.factor * clamp d.lower d.upper p.brightness)) = true ∧
      (le 0.0 d.factor = true → ∀ q, le p.brightness q = true →
        ∃ c, d.streamed? q = some c ∧ le b c = true) := by
  intro d p l
  have h : d.factor.isFinite = true ∧ isNaN p.brightness = false ∧ l.requested.same p = false := by
    decide +kernel
  exact ⟨h, setColor_stream_legal h.1 h.2.1 h.2.2⟩

end Light

end LightBridge
