import Mathlib.Analysis.SpecialFunctions.Pow.Real
import LightBridge.Color
import LightBridge.Gamut
import LightBridge.Proofs.Gamut.Clipping

/-! Mapping red, green and blue to a point, in exact arithmetic. Of the power in the gamma curve
only its range is used. The weights of a channel are positive, so the sum that the weighted channels
are divided by is zero for black alone, and without clipping the chromaticity is already one of the
unit triangle. -/

namespace LightBridge

open Scalar

/-! ### The parts of the mapping -/

section

variable {α : Type}

namespace Color

section

variable [Scalar α]

def stimulusX (red green blue : α) : α :=
  gamma red * 0.664511 + gamma green * 0.154324 + gamma blue * 0.162028

def stimulusY (red green blue : α) : α :=
  gamma red * 0.283881 + gamma green * 0.668433 + gamma blue * 0.047685

def stimulusZ (red green blue : α) : α :=
  gamma red * 0.000088 + gamma green * 0.072310 + gamma blue * 0.986039

def stimulusSum (red green blue : α) : α :=
  stimulusX red green blue + stimulusY red green blue + stimulusZ red green blue

/-- The point that is clipped. -/
def unclipped (red green blue : α) : Point α where
  x := orZero (stimulusX red green blue / stimulusSum red green blue)
  y := orZero (stimulusY red green blue / stimulusSum red green blue)
  brightness := Scalar.max (Scalar.max (gamma red) (gamma green)) (gamma blue)

theorem mapInto_eq (t : Triangle α) (red green blue : α) :
    mapInto t red green blue = if Scalar.same (stimulusSum red green blue) 0.0 then Point.origin
      else t.clip (unclipped red green blue) := rfl

end

end Color

/-! ### Divisors -/

/-- The same arithmetic but for the division. -/
abbrev Scalar.withDivision (S : Scalar α) (div : α → α → α) : Scalar α := { S with toDiv := ⟨div⟩ }

variable [S : Scalar α] {div : α → α → α}

/-- All that clipping divides by: twice the area, and the squares of the edges. -/
def Triangle.divisors (t : Triangle α) : List α :=
  [(t.green.sub t.red).cross (t.blue.sub t.red), (t.green.sub t.red).dot (t.green.sub t.red),
    (t.red.sub t.blue).dot (t.red.sub t.blue), (t.blue.sub t.green).dot (t.blue.sub t.green)]

/-- All that mapping divides by. -/
def Color.divisors (t : Triangle α) (red green blue : α) : List α :=
  1.055 :: 12.92 :: if Scalar.same (stimulusSum red green blue) 0.0 then []
    else stimulusSum red green blue :: t.divisors

theorem Point.onSegment_withDivision {a b : Point α}
    (h : ∀ x, div x ((b.sub a).dot (b.sub a)) = x / (b.sub a).dot (b.sub a)) (p : Point α) :
    @onSegment α (S.withDivision div) p a b = p.onSegment a b :=
  congrArg (fun part => xy (a.x + (b.sub a).x * clamp 0.0 1.0 part)
    (a.y + (b.sub a).y * clamp 0.0 1.0 part)) (h _)

theorem Triangle.clip_withDivision {t : Triangle α}
    (h : ∀ y ∈ t.divisors, ∀ x, div x y = x / y) (p : Point α) :
    @clip α (S.withDivision div) t p = t.clip p := by
  simp only [divisors, List.forall_mem_cons, List.not_mem_nil, false_implies, implies_true,
    and_true] at h
  obtain ⟨harea, hredGreen, hblueRed, hgreenBlue⟩ := h
  have hcontains : @contains α (S.withDivision div) t p = t.contains p :=
    congrArg₂ (fun s u => Scalar.le 0.0 s && Scalar.le 0.0 u && Scalar.le (s + u) 1.0)
      (harea _) (harea _)
  have hborder : @nearestOnBorder α (S.withDivision div) t p = t.nearestOnBorder p := by
    show nearer p (nearer p (@Point.onSegment α (S.withDivision div) p t.red t.green)
      (@Point.onSegment α (S.withDivision div) p t.blue t.red))
      (@Point.onSegment α (S.withDivision div) p t.green t.blue) = _
    rw [Point.onSegment_withDivision hredGreen, Point.onSegment_withDivision hblueRed,
      Point.onSegment_withDivision hgreenBlue, nearestOnBorder]
  show (if @contains α (S.withDivision div) t p then p
    else (@nearestOnBorder α (S.withDivision div) t p).withBrightness p.brightness) = _
  rw [hcontains, hborder, clip]

namespace Color

/-- Another division would map to the same point if it were the same at the divisors. -/
theorem mapInto_withDivision {t : Triangle α} {red green blue : α}
    (h : ∀ y ∈ divisors t red green blue, ∀ x, div x y = x / y) :
    @mapInto α (S.withDivision div) t red green blue = mapInto t red green blue := by
  rw [divisors, List.forall_mem_cons, List.forall_mem_cons] at h
  obtain ⟨hpower, hline, hrest⟩ := h
  have hgamma : @gamma α (S.withDivision div) = gamma := by
    funext channel
    show (if Scalar.lt 0.04045 channel then Scalar.gammaPower (div (channel + 0.055) 1.055)
      else div channel 12.92) = _
    rw [hpower, hline, gamma]
  have hsum : @stimulusSum α (S.withDivision div) red green blue = stimulusSum red green blue := by
    simp only [stimulusSum, stimulusX, stimulusY, stimulusZ, hgamma]
  have hmapped : @mapInto α (S.withDivision div) t red green blue =
      if Scalar.same (@stimulusSum α (S.withDivision div) red green blue) 0.0 then Point.origin
      else @Triangle.clip α (S.withDivision div) t
        (@unclipped α (S.withDivision div) red green blue) := rfl
  rw [hmapped, hsum, mapInto_eq]
  split
  · rfl
  · next hlit =>
    rw [if_neg hlit, List.forall_mem_cons] at hrest
    obtain ⟨hshare, hclip⟩ := hrest
    have hunclipped : @unclipped α (S.withDivision div) red green blue =
        unclipped red green blue := by
      simp only [unclipped, stimulusX, stimulusY, hgamma, hsum]
      exact congrArg₂ (fun x y => Point.mk (orZero x) (orZero y) _) (hshare _) (hshare _)
    rw [Triangle.clip_withDivision hclip, hunclipped]

end Color

end

section

variable {α : Type} [Field α] [LinearOrder α] [IsStrictOrderedRing α] (sqrt gammaPower : α → α)
  (nearest : Nat → α → Nat)

theorem same_zero_iff (x : α) :
    letI := ofField sqrt gammaPower nearest
    Scalar.same x 0.0 = true ↔ x = 0 := by
  have hzero : (0.0 : α) = 0 := by norm_num
  rw [hzero]
  exact decide_eq_true_iff

theorem Point.dot_sub_eq_zero_iff (a b : Point α) :
    letI := ofField sqrt gammaPower nearest
    (a.sub b).dot (a.sub b) = 0 ↔ a.x = b.x ∧ a.y = b.y := by
  show (a.x - b.x) * (a.x - b.x) + (a.y - b.y) * (a.y - b.y) = 0 ↔ _
  rw [mul_self_add_mul_self_eq_zero, sub_eq_zero, sub_eq_zero]

/-- Corners that do not lie on one line are three points. -/
theorem Triangle.divisors_ne_zero {t : Triangle α} (harea : t.doubledArea ≠ 0) :
    letI := ofField sqrt gammaPower nearest
    ∀ y ∈ t.divisors, y ≠ 0 := by
  let := ofField sqrt gammaPower nearest
  simp only [divisors, List.forall_mem_cons, List.not_mem_nil, false_implies, implies_true,
    and_true, ne_eq, Point.dot_sub_eq_zero_iff sqrt gammaPower nearest]
  refine ⟨harea, ?_, ?_, ?_⟩
  all_goals
    rintro ⟨hx, hy⟩
    apply harea
    rw [doubledArea, hx, hy]
    ring

/-! ### The widest gamut -/

theorem Gamut.full_triangle :
    letI := ofField sqrt gammaPower nearest
    (full.triangle : Triangle α) = ⟨⟨1, 0, 0⟩, ⟨0, 1, 0⟩, ⟨0, 0, 0⟩⟩ := by
  show (⟨⟨1.0, 0.0, 0.0⟩, ⟨0.0, 1.0, 0.0⟩, ⟨0.0, 0.0, 0.0⟩⟩ : Triangle α) = _
  norm_num

/-- The full gamut contains the unit triangle and nothing else. -/
theorem Gamut.full_contains_iff (p : Point α) :
    letI := ofField sqrt gammaPower nearest
    full.triangle.contains p = true ↔ 0 ≤ p.x ∧ 0 ≤ p.y ∧ p.x + p.y ≤ 1 := by
  let := ofField sqrt gammaPower nearest
  have harea : (full.triangle : Triangle α).doubledArea ≠ 0 := by
    rw [full_triangle, Triangle.doubledArea]
    norm_num
  rw [Triangle.contains_iff_covers sqrt gammaPower nearest harea, full_triangle]
  constructor
  · rintro ⟨u, v, w, hu, hv, hw, hsum, hx, hy⟩
    obtain rfl : p.x = u := by simpa using hx
    obtain rfl : p.y = v := by simpa using hy
    exact ⟨hu, hv, by linarith⟩
  · rintro ⟨hx, hy, hsum⟩
    exact ⟨p.x, p.y, 1 - p.x - p.y, hx, hy, by linarith, by ring, by ring, by ring⟩

namespace Color

theorem divisors_ne_zero {t : Triangle α} (harea : t.doubledArea ≠ 0) (red green blue : α) :
    letI := ofField sqrt gammaPower nearest
    ∀ y ∈ divisors t red green blue, y ≠ 0 := by
  let := ofField sqrt gammaPower nearest
  rw [divisors, List.forall_mem_cons, List.forall_mem_cons]
  refine ⟨by norm_num, by norm_num, ?_⟩
  split
  · simp
  · next hsum =>
    rw [same_zero_iff] at hsum
    exact List.forall_mem_cons.2 ⟨hsum, Triangle.divisors_ne_zero sqrt gammaPower nearest harea⟩

omit [IsStrictOrderedRing α] in
theorem unclipped_eq (red green blue : α) :
    letI := ofField sqrt gammaPower nearest
    unclipped red green blue = ⟨stimulusX red green blue / stimulusSum red green blue,
      stimulusY red green blue / stimulusSum red green blue,
      gamma red ⊔ gamma green ⊔ gamma blue⟩ := by
  let := ofField sqrt gammaPower nearest
  have hnumber : ∀ v : α, orZero v = v := by
    intro v
    show (if !decide (v = v) then _ else v) = v
    simp
  have hmax : ∀ x y : α, Scalar.max x y = x ⊔ y := max_eq_sup (fun _ _ => rfl) fun _ _ => rfl
  rw [unclipped, hnumber, hnumber, hmax, hmax]

/-! ### The gamma curve -/

theorem gamma_zero :
    letI := ofField sqrt gammaPower nearest
    gamma (0 : α) = 0 := by
  let := ofField sqrt gammaPower nearest
  show (if decide ((0.04045 : α) < 0) then gammaPower ((0 + 0.055) / 1.055) else 0 / 12.92) = 0
  rw [if_neg (by norm_num), zero_div]

variable (hpower : ∀ x, 0 < x → x ≤ 1 → 0 < gammaPower x ∧ gammaPower x ≤ 1)
include hpower

theorem gamma_mem {channel : α} (h0 : 0 < channel) (h1 : channel ≤ 1) :
    letI := ofField sqrt gammaPower nearest
    0 < gamma channel ∧ gamma channel ≤ 1 := by
  let := ofField sqrt gammaPower nearest
  have hgamma : gamma channel = if (0.04045 : α) < channel
      then gammaPower ((channel + 0.055) / 1.055) else channel / 12.92 := by
    show (if decide _ then _ else _) = _
    simp only [decide_eq_true_eq]
    rfl
  rw [hgamma]
  split
  · apply hpower
    · apply div_pos
      · linarith
      · norm_num
    · rw [div_le_one (by norm_num)]
      linarith
  · constructor
    · apply div_pos h0
      norm_num
    · rw [div_le_one (by norm_num)]
      linarith

theorem gamma_unit {channel : α} (h : 0 ≤ channel ∧ channel ≤ 1) :
    letI := ofField sqrt gammaPower nearest
    0 ≤ gamma channel ∧ gamma channel ≤ 1 ∧ (gamma channel = 0 ↔ channel = 0) := by
  let := ofField sqrt gammaPower nearest
  have hzero := gamma_zero sqrt gammaPower nearest
  rcases h.1.eq_or_lt with rfl | hpositive
  · rw [hzero]
    exact ⟨le_rfl, zero_le_one, Iff.rfl⟩
  · obtain ⟨h0, h1⟩ := gamma_mem sqrt gammaPower nearest hpower hpositive h.2
    exact ⟨h0.le, h1, iff_of_false h0.ne' hpositive.ne'⟩

/-! ### Stimuli -/

variable {red green blue : α} (hred : 0 ≤ red ∧ red ≤ 1) (hgreen : 0 ≤ green ∧ green ≤ 1)
  (hblue : 0 ≤ blue ∧ blue ≤ 1)
include hred hgreen hblue

theorem stimuli_nonneg :
    letI := ofField sqrt gammaPower nearest
    0 ≤ stimulusX red green blue ∧ 0 ≤ stimulusY red green blue ∧
      0 ≤ stimulusZ red green blue := by
  let := ofField sqrt gammaPower nearest
  have hr : 0 ≤ gamma red := (gamma_unit sqrt gammaPower nearest hpower hred).1
  have hg : 0 ≤ gamma green := (gamma_unit sqrt gammaPower nearest hpower hgreen).1
  have hb : 0 ≤ gamma blue := (gamma_unit sqrt gammaPower nearest hpower hblue).1
  unfold stimulusX stimulusY stimulusZ
  refine ⟨?_, ?_, ?_⟩ <;> positivity

theorem stimulus_eq_zero_iff :
    letI := ofField sqrt gammaPower nearest
    stimulusSum red green blue = 0 ↔ red = 0 ∧ green = 0 ∧ blue = 0 := by
  let := ofField sqrt gammaPower nearest
  obtain ⟨hr, -, hr0⟩ := gamma_unit sqrt gammaPower nearest hpower hred
  obtain ⟨hg, -, hg0⟩ := gamma_unit sqrt gammaPower nearest hpower hgreen
  obtain ⟨hb, -, hb0⟩ := gamma_unit sqrt gammaPower nearest hpower hblue
  have hsum : stimulusSum red green blue =
      gamma red * 0.94848 + gamma green * 0.895067 + gamma blue * 1.195752 := by
    simp only [stimulusSum, stimulusX, stimulusY, stimulusZ]
    ring
  rw [← hr0, ← hg0, ← hb0, hsum]
  constructor
  · intro hzero
    refine ⟨?_, ?_, ?_⟩ <;> linarith
  · rintro ⟨hr, hg, hb⟩
    rw [hr, hg, hb]
    ring

theorem unclipped_mem (hlit : ¬(red = 0 ∧ green = 0 ∧ blue = 0)) :
    letI := ofField sqrt gammaPower nearest
    let p := unclipped red green blue
    0 ≤ p.x ∧ 0 ≤ p.y ∧ p.x + p.y ≤ 1 := by
  let := ofField sqrt gammaPower nearest
  intro p
  obtain ⟨hr, hg, hb⟩ := stimuli_nonneg sqrt gammaPower nearest hpower hred hgreen hblue
  have hne : stimulusSum red green blue ≠ 0 :=
    mt (stimulus_eq_zero_iff sqrt gammaPower nearest hpower hred hgreen hblue).1 hlit
  have hsum : 0 < stimulusSum red green blue :=
    (add_nonneg (add_nonneg hr hg) hb).lt_of_ne hne.symm
  have hp : p = ⟨_, _, _⟩ := unclipped_eq sqrt gammaPower nearest red green blue
  rw [hp]
  refine ⟨div_nonneg hr hsum.le, div_nonneg hg hsum.le, ?_⟩
  rw [← add_div, div_le_one hsum]
  exact le_add_of_nonneg_right hb

theorem brightest_unit :
    letI := ofField sqrt gammaPower nearest
    let brightest := gamma red ⊔ gamma green ⊔ gamma blue
    0 ≤ brightest ∧ brightest ≤ 1 ∧ (brightest = 0 ↔ red = 0 ∧ green = 0 ∧ blue = 0) := by
  let := ofField sqrt gammaPower nearest
  intro brightest
  obtain ⟨hr, hr1, hr0⟩ := gamma_unit sqrt gammaPower nearest hpower hred
  obtain ⟨hg, hg1, hg0⟩ := gamma_unit sqrt gammaPower nearest hpower hgreen
  obtain ⟨hb, hb1, hb0⟩ := gamma_unit sqrt gammaPower nearest hpower hblue
  refine ⟨hb.trans le_sup_right, sup_le (sup_le hr1 hg1) hb1, ?_⟩
  rw [← hr0, ← hg0, ← hb0]
  constructor
  · intro hzero
    have hle : gamma red ⊔ gamma green ⊔ gamma blue ≤ 0 := hzero.le
    rw [sup_le_iff, sup_le_iff] at hle
    exact ⟨hle.1.1.antisymm hr, hle.1.2.antisymm hg, hle.2.antisymm hb⟩
  · rintro ⟨hr, hg, hb⟩
    show gamma red ⊔ gamma green ⊔ gamma blue = 0
    rw [hr, hg, hb, sup_idem, sup_idem]

/-! ### The mapping -/

theorem mapInto_eq_ite (t : Triangle α) :
    letI := ofField sqrt gammaPower nearest
    mapInto t red green blue = if red = 0 ∧ green = 0 ∧ blue = 0 then ⟨0, 0, 0⟩
      else t.clip (unclipped red green blue) := by
  let := ofField sqrt gammaPower nearest
  have horigin : (Point.origin : Point α) = ⟨0, 0, 0⟩ := by
    show Point.mk (0.0 : α) 0.0 0.0 = ⟨0, 0, 0⟩
    norm_num
  rw [mapInto_eq, horigin]
  exact ite_congr (propext ((same_zero_iff sqrt gammaPower nearest _).trans
    (stimulus_eq_zero_iff sqrt gammaPower nearest hpower hred hgreen hblue)))
    (fun _ => rfl) fun _ => rfl

theorem mapInto_brightness (t : Triangle α) :
    letI := ofField sqrt gammaPower nearest
    (mapInto t red green blue).brightness = gamma red ⊔ gamma green ⊔ gamma blue := by
  let := ofField sqrt gammaPower nearest
  rw [mapInto_eq_ite sqrt gammaPower nearest hpower hred hgreen hblue]
  split
  · next hblack =>
    obtain ⟨-, -, hzero⟩ := brightest_unit sqrt gammaPower nearest hpower hred hgreen hblue
    exact (hzero.2 hblack).symm
  · rw [Triangle.clip_brightness, unclipped_eq]

theorem mapInto_dark_iff (t : Triangle α) :
    letI := ofField sqrt gammaPower nearest
    Scalar.same (mapInto t red green blue).brightness 0.0 = true ↔
      red = 0 ∧ green = 0 ∧ blue = 0 := by
  let := ofField sqrt gammaPower nearest
  rw [same_zero_iff, mapInto_brightness sqrt gammaPower nearest hpower hred hgreen hblue]
  exact (brightest_unit sqrt gammaPower nearest hpower hred hgreen hblue).2.2

omit hred hgreen hblue in
/-- Of the eight-bit colours only black has no brightness. -/
theorem toPoint_dark_iff (c : Color) (t : Triangle α) :
    letI := ofField sqrt gammaPower nearest
    Scalar.same (c.toPoint t).brightness 0.0 = true ↔ c = black := by
  let := ofField sqrt gammaPower nearest
  have hchannel : ∀ v : UInt8, (0 ≤ (v.toNat : α) / 255.0 ∧ (v.toNat : α) / 255.0 ≤ 1) ∧
      ((v.toNat : α) / 255.0 = 0 ↔ v = 0) := by
    intro v
    have hmost : (v.toNat : α) ≤ 255 := by exact_mod_cast Nat.le_of_lt_succ v.toNat_lt
    refine ⟨⟨by positivity, ?_⟩, ?_⟩
    · rw [div_le_one (by norm_num)]
      linarith
    · rw [div_eq_zero_iff, or_iff_left (by norm_num), Nat.cast_eq_zero, ← UInt8.toNat_inj]
      rfl
  obtain ⟨hr, hr0⟩ := hchannel c.red
  obtain ⟨hg, hg0⟩ := hchannel c.green
  obtain ⟨hb, hb0⟩ := hchannel c.blue
  rw [toPoint]
  refine (mapInto_dark_iff sqrt gammaPower nearest hpower hr hg hb t).trans ?_
  rw [hr0, hg0, hb0, black, Color.mk.injEq]

/-- Mapping divides by nothing but numbers that are not zero, and another division that agrees at
them would give the same point. Black maps to the origin. Every other colour maps to a point that
the gamut contains, as bright as the largest channel after the gamma curve; the full gamut leaves
its chromaticity as it is. So only black has no brightness. -/
theorem mapInto_mem_gamut {t : Triangle α} (harea : t.doubledArea ≠ 0) :
    letI S := ofField sqrt gammaPower nearest
    let p := mapInto t red green blue
    let u := unclipped red green blue
    ((∀ y ∈ divisors t red green blue, y ≠ 0) ∧
      ∀ div : α → α → α, (∀ y ∈ divisors t red green blue, ∀ x, div x y = x / y) →
        @mapInto α (S.withDivision div) t red green blue = p) ∧
    (red = 0 ∧ green = 0 ∧ blue = 0 → p = ⟨0, 0, 0⟩) ∧
    (¬(red = 0 ∧ green = 0 ∧ blue = 0) →
      t.contains p = true ∧ p.brightness = gamma red ⊔ gamma green ⊔ gamma blue ∧
      0 < p.brightness ∧ p.brightness ≤ 1 ∧
      0 ≤ u.x ∧ 0 ≤ u.y ∧ u.x + u.y ≤ 1 ∧ mapInto Gamut.full.triangle red green blue = u) ∧
    (Scalar.same p.brightness 0.0 = true ↔ red = 0 ∧ green = 0 ∧ blue = 0) ∧
    ∀ c : Color, Scalar.same (c.toPoint t).brightness 0.0 = true ↔ c = black := by
  let S := ofField sqrt gammaPower nearest
  intro p u
  have hp : p = if red = 0 ∧ green = 0 ∧ blue = 0 then ⟨0, 0, 0⟩ else t.clip u :=
    mapInto_eq_ite sqrt gammaPower nearest hpower hred hgreen hblue t
  have hbrightness : p.brightness = gamma red ⊔ gamma green ⊔ gamma blue :=
    mapInto_brightness sqrt gammaPower nearest hpower hred hgreen hblue t
  refine ⟨⟨divisors_ne_zero sqrt gammaPower nearest harea red green blue,
    fun div => mapInto_withDivision⟩, ?black, ?lit,
    mapInto_dark_iff sqrt gammaPower nearest hpower hred hgreen hblue t,
    fun c => toPoint_dark_iff sqrt gammaPower nearest hpower c t⟩
  case black =>
    intro hblack
    rw [hp, if_pos hblack]
  case lit =>
    intro hlit
    obtain ⟨h0, h1, hzero⟩ := brightest_unit sqrt gammaPower nearest hpower hred hgreen hblue
    have hu := unclipped_mem sqrt gammaPower nearest hpower hred hgreen hblue hlit
    rw [← hbrightness] at h0 h1 hzero
    refine ⟨?inside, hbrightness, h0.lt_of_ne (mt (fun h => hzero.1 h.symm) hlit), h1, hu.1, hu.2.1,
      hu.2.2, ?full⟩
    case inside =>
      rw [hp, if_neg hlit]
      exact Triangle.contains_clip sqrt gammaPower nearest harea u
    case full =>
      rw [mapInto_eq_ite sqrt gammaPower nearest hpower hred hgreen hblue, if_neg hlit,
        Triangle.clip, if_pos ((Gamut.full_contains_iff sqrt gammaPower nearest u).2 hu)]

end Color

end

/-- Pure red on a lamp of the second family. -/
theorem Color.mapInto_mem_gamut_of_red :
    letI := ofField Real.sqrt (fun x => x ^ (2.4 : ℝ)) fun bound x => Nat.min bound ⌊x + 1 / 2⌋₊
    let t : Triangle ℝ := Gamut.b.triangle
    let p : Point ℝ := mapInto t 1 0 0
    ((∀ x : ℝ, 0 < x → x ≤ 1 → 0 < x ^ (2.4 : ℝ) ∧ x ^ (2.4 : ℝ) ≤ 1) ∧ t.doubledArea ≠ 0) ∧
    (∀ y ∈ divisors t 1 0 0, y ≠ 0) ∧ t.contains p = true ∧ 0 < p.brightness ∧
    mapInto Gamut.full.triangle 1 0 0 = (unclipped 1 0 0 : Point ℝ) := by
  let S := ofField Real.sqrt (fun x => x ^ (2.4 : ℝ)) fun bound x => Nat.min bound ⌊x + 1 / 2⌋₊
  intro t p
  have hpower : ∀ x : ℝ, 0 < x → x ≤ 1 → 0 < x ^ (2.4 : ℝ) ∧ x ^ (2.4 : ℝ) ≤ 1 :=
    fun x h0 h1 => ⟨Real.rpow_pos_of_pos h0 _, Real.rpow_le_one h0.le h1 (by norm_num)⟩
  have harea : t.doubledArea ≠ 0 := by
    show ((0.409 : ℝ) - 0.675) * (0.04 - 0.322) - (0.518 - 0.322) * (0.167 - 0.675) ≠ 0
    norm_num
  obtain ⟨⟨hdivisors, -⟩, -, hlit, -⟩ := mapInto_mem_gamut Real.sqrt (fun x => x ^ (2.4 : ℝ))
    (fun bound x => Nat.min bound ⌊x + 1 / 2⌋₊) hpower ⟨zero_le_one, le_rfl⟩
    ⟨le_rfl, zero_le_one⟩ ⟨le_rfl, zero_le_one⟩ harea
  obtain ⟨hinside, -, hpositive, -, -, -, -, hfull⟩ := hlit fun h => one_ne_zero h.1
  exact ⟨⟨hpower, harea⟩, hdivisors, hinside, hpositive, hfull⟩

end LightBridge
