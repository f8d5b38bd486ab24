import LightBridge.Gamut.Triangle
import Mathlib.Algebra.Order.Field.Basic
import Mathlib.Tactic.FieldSimp
import Mathlib.Tactic.LinearCombination
import Mathlib.Tactic.Linarith
import Mathlib.Tactic.Positivity
import Mathlib.Tactic.Ring
import Mathlib.Data.List.Permutation

/-! The plane of chromaticities over an ordered field: segments, and triangles as what their corners
span. A point outside a triangle is at least as near to the border as to any point within, since the
way to that point crosses the border; and of the points that a triangle covers only one is
nearest. -/

namespace LightBridge

attribute [ext] Point

variable {α : Type} [Field α] [LinearOrder α] [IsStrictOrderedRing α]

namespace Point

/-- The square of the distance in the plane. -/
def gap (p q : Point α) : α := (p.x - q.x) ^ 2 + (p.y - q.y) ^ 2

/-- The points of the segment from `a` to `b`. -/
def Between (a b q : Point α) : Prop :=
  ∃ s, 0 ≤ s ∧ s ≤ 1 ∧ q.x = a.x + (b.x - a.x) * s ∧ q.y = a.y + (b.y - a.y) * s

theorem gap_nonneg (p q : Point α) : 0 ≤ p.gap q := by
  unfold gap
  positivity

/-- Going only a part of the way to a point leaves no more of the way. -/
theorem gap_le_of_toward {p q b : Point α} {l : α} (hl : 0 ≤ l) (hl' : l ≤ 1)
    (hx : b.x = (1 - l) * q.x + l * p.x) (hy : b.y = (1 - l) * q.y + l * p.y) :
    p.gap b ≤ p.gap q := by
  have hgap : p.gap b = (1 - l) ^ 2 * p.gap q := by
    rw [gap, gap, hx, hy]
    ring
  have hless : (1 - l) ^ 2 ≤ 1 := pow_le_one₀ (sub_nonneg.2 hl') (sub_le_self 1 hl)
  rw [hgap]
  exact mul_le_of_le_one_left (gap_nonneg p q) hless

/-- A point halfway between two others is nearer than one of them, unless the two are one. -/
theorem eq_of_gap_le_half {p a b m : Point α} (hx : m.x = (a.x + b.x) / 2)
    (hy : m.y = (a.y + b.y) / 2) (hab : p.gap a ≤ p.gap m) (hba : p.gap b ≤ p.gap m) :
    a.x = b.x ∧ a.y = b.y := by
  have hgap : p.gap a + p.gap b = 2 * p.gap m + ((a.x - b.x) ^ 2 + (a.y - b.y) ^ 2) / 2 := by
    simp only [gap, hx, hy]
    ring
  have hsum : (a.x - b.x) ^ 2 + (a.y - b.y) ^ 2 ≤ 0 := by linarith
  have hsquares : (a.x - b.x) ^ 2 = 0 ∧ (a.y - b.y) ^ 2 = 0 := by
    constructor <;> nlinarith [sq_nonneg (a.x - b.x), sq_nonneg (a.y - b.y)]
  exact ⟨sub_eq_zero.1 (pow_eq_zero_iff two_ne_zero |>.1 hsquares.1),
    sub_eq_zero.1 (pow_eq_zero_iff two_ne_zero |>.1 hsquares.2)⟩

end Point

namespace Triangle

variable {t t' : Triangle α} {p q : Point α}

/-- Twice the area, negative if the corners are named clockwise. It is zero when they lie on one
line. -/
def doubledArea (t : Triangle α) : α :=
  (t.green.x - t.red.x) * (t.blue.y - t.red.y) - (t.green.y - t.red.y) * (t.blue.x - t.red.x)

/-- A point with these weights at the corners. -/
def Weighs (t : Triangle α) (u v w : α) (q : Point α) : Prop :=
  u + v + w = 1 ∧ q.x = u * t.red.x + v * t.green.x + w * t.blue.x ∧
    q.y = u * t.red.y + v * t.green.y + w * t.blue.y

/-- The points of a triangle are the convex combinations of its corners. -/
def Covers (t : Triangle α) (q : Point α) : Prop :=
  ∃ u v w, 0 ≤ u ∧ 0 ≤ v ∧ 0 ≤ w ∧ t.Weighs u v w q

def OnBorder (t : Triangle α) (q : Point α) : Prop :=
  t.red.Between t.green q ∨ t.blue.Between t.red q ∨ t.green.Between t.blue q

theorem covers_of_onBorder (h : t.OnBorder q) : t.Covers q := by
  rcases h with ⟨s, h0, h1, hx, hy⟩ | ⟨s, h0, h1, hx, hy⟩ | ⟨s, h0, h1, hx, hy⟩
  · refine ⟨1 - s, s, 0, by linarith, h0, le_rfl, by ring, ?_, ?_⟩
    · rw [hx]; ring
    · rw [hy]; ring
  · refine ⟨s, 0, 1 - s, h0, le_rfl, by linarith, by ring, ?_, ?_⟩
    · rw [hx]; ring
    · rw [hy]; ring
  · refine ⟨0, 1 - s, s, le_rfl, by linarith, h0, by ring, ?_, ?_⟩
    · rw [hx]; ring
    · rw [hy]; ring

/-- A point with no weight at one corner lies on the edge between the others. -/
theorem onBorder_of_weighs {u v w : α} (hu : 0 ≤ u) (hv : 0 ≤ v) (hw : 0 ≤ w)
    (hzero : u = 0 ∨ v = 0 ∨ w = 0) (h : t.Weighs u v w q) : t.OnBorder q := by
  obtain ⟨hsum, hx, hy⟩ := h
  rcases hzero with rfl | rfl | rfl
  · obtain rfl : v = 1 - w := by linarith
    refine Or.inr (Or.inr ⟨w, hw, by linarith, ?_, ?_⟩)
    · rw [hx]; ring
    · rw [hy]; ring
  · obtain rfl : w = 1 - u := by linarith
    refine Or.inr (Or.inl ⟨u, hu, by linarith, ?_, ?_⟩)
    · rw [hx]; ring
    · rw [hy]; ring
  · obtain rfl : u = 1 - v := by linarith
    refine Or.inl ⟨v, hv, by linarith, ?_, ?_⟩
    · rw [hx]; ring
    · rw [hy]; ring

/-- The weight that a point needs at the green corner. -/
def greenWeight (t : Triangle α) (q : Point α) : α :=
  ((q.x - t.red.x) * (t.blue.y - t.red.y) - (q.y - t.red.y) * (t.blue.x - t.red.x)) / t.doubledArea

/-- The weight that a point needs at the blue corner. -/
def blueWeight (t : Triangle α) (q : Point α) : α :=
  ((t.green.x - t.red.x) * (q.y - t.red.y) - (t.green.y - t.red.y) * (q.x - t.red.x)) /
    t.doubledArea

theorem weighs_weights (h : t.doubledArea ≠ 0) (q : Point α) :
    t.Weighs (1 - t.greenWeight q - t.blueWeight q) (t.greenWeight q) (t.blueWeight q) q := by
  have hgreen : t.greenWeight q * t.doubledArea = _ := div_mul_cancel₀ _ h
  have hblue : t.blueWeight q * t.doubledArea = _ := div_mul_cancel₀ _ h
  generalize t.greenWeight q = v at hgreen ⊢
  generalize t.blueWeight q = w at hblue ⊢
  refine ⟨by ring, mul_right_cancel₀ h ?_, mul_right_cancel₀ h ?_⟩
  · unfold doubledArea at *
    linear_combination -(t.green.x - t.red.x) * hgreen - (t.blue.x - t.red.x) * hblue
  · unfold doubledArea at *
    linear_combination -(t.green.y - t.red.y) * hgreen - (t.blue.y - t.red.y) * hblue

/-- No other weights would do. -/
theorem weights_of_weighs {u v w : α} (h : t.doubledArea ≠ 0) (hq : t.Weighs u v w q) :
    t.greenWeight q = v ∧ t.blueWeight q = w := by
  obtain ⟨hsum, hx, hy⟩ := hq
  obtain rfl : u = 1 - v - w := by linear_combination hsum
  constructor
  · rw [greenWeight, div_eq_iff h, hx, hy, doubledArea]
    ring
  · rw [blueWeight, div_eq_iff h, hx, hy, doubledArea]
    ring

theorem covers_iff (h : t.doubledArea ≠ 0) :
    t.Covers q ↔
      0 ≤ t.greenWeight q ∧ 0 ≤ t.blueWeight q ∧ t.greenWeight q + t.blueWeight q ≤ 1 := by
  constructor
  · rintro ⟨u, v, w, hu, hv, hw, hq⟩
    obtain ⟨hgreen, hblue⟩ := weights_of_weighs h hq
    have hsum : u + v + w = 1 := hq.1
    rw [hgreen, hblue]
    exact ⟨hv, hw, by linarith⟩
  · rintro ⟨hgreen, hblue, hboth⟩
    exact ⟨_, _, _, by linarith, hgreen, hblue, weighs_weights h q⟩

/-- On the way from numbers that are not negative to others, as far as none of them is: either that
is all the way, or one of them is zero there. -/
theorem exists_last_nonneg (ways : List (α × α)) (h : ∀ w ∈ ways, 0 ≤ w.1) :
    ∃ l, 0 ≤ l ∧ l ≤ 1 ∧ (∀ w ∈ ways, 0 ≤ (1 - l) * w.1 + l * w.2) ∧
      (l = 1 ∨ ∃ w ∈ ways, (1 - l) * w.1 + l * w.2 = 0) := by
  induction ways with
  | nil => exact ⟨1, zero_le_one, le_rfl, by simp, Or.inl rfl⟩
  | cons w ways ih =>
    obtain ⟨hw, hrest⟩ := List.forall_mem_cons.1 h
    obtain ⟨l, h0, h1, hnonneg, hlast⟩ := ih hrest
    by_cases hfar : 0 ≤ (1 - l) * w.1 + l * w.2
    · exact ⟨l, h0, h1, List.forall_mem_cons.2 ⟨hfar, hnonneg⟩,
        hlast.imp_right fun ⟨x, hx, hzero⟩ => ⟨x, List.mem_cons_of_mem _ hx, hzero⟩⟩
    · -- The first number is zero earlier on the way, where the others are not negative either.
      have hfall : 0 < w.1 - w.2 := by
        by_contra hrise
        refine hfar ?_
        have hless : 0 ≤ l * (w.2 - w.1) := mul_nonneg h0 (by linarith)
        linarith
      have hzero : (1 - w.1 / (w.1 - w.2)) * w.1 + w.1 / (w.1 - w.2) * w.2 = 0 := by
        field_simp
        ring
      have hm0 : 0 ≤ w.1 / (w.1 - w.2) := div_nonneg hw hfall.le
      have hml : w.1 / (w.1 - w.2) ≤ l := by
        rw [div_le_iff₀ hfall]
        linarith
      generalize w.1 / (w.1 - w.2) = m at hzero hm0 hml
      refine ⟨m, hm0, hml.trans h1, List.forall_mem_cons.2 ⟨hzero.ge, fun x hx => ?_⟩,
        Or.inr ⟨w, List.mem_cons_self, hzero⟩⟩
      have hx0 := hrest x hx
      have hxl := hnonneg x hx
      by_cases hstay : x.1 ≤ x.2
      · have hmore : 0 ≤ m * (x.2 - x.1) := mul_nonneg hm0 (by linarith)
        linarith
      · have hmore : 0 ≤ (l - m) * (x.1 - x.2) := mul_nonneg (by linarith) (by linarith)
        linarith

/-- The way from a point within to one outside crosses the border. -/
theorem exists_nearer_border (h : t.doubledArea ≠ 0) (hp : ¬t.Covers p) (hq : t.Covers q) :
    ∃ b, t.OnBorder b ∧ p.gap b ≤ p.gap q := by
  obtain ⟨u, v, w, hu, hv, hw, hsum, hqx, hqy⟩ := hq
  obtain ⟨u', v', w', hsum', hpx, hpy⟩ : ∃ u v w, t.Weighs u v w p :=
    ⟨_, _, _, weighs_weights h p⟩
  obtain ⟨l, h0, h1, hnonneg, hlast⟩ :=
    exists_last_nonneg [(u, u'), (v, v'), (w, w')] (by simp [hu, hv, hw])
  simp only [List.forall_mem_cons] at hnonneg
  simp only [List.mem_cons, List.not_mem_nil, or_false, exists_eq_or_imp, exists_eq_left] at hlast
  obtain ⟨hu', hv', hw', -⟩ := hnonneg
  let b : Point α := ⟨(1 - l) * q.x + l * p.x, (1 - l) * q.y + l * p.y, 0⟩
  have hb : t.Weighs ((1 - l) * u + l * u') ((1 - l) * v + l * v') ((1 - l) * w + l * w') b := by
    refine ⟨?_, ?_, ?_⟩
    · linear_combination (1 - l) * hsum + l * hsum'
    · simp only [b, hqx, hpx]
      ring
    · simp only [b, hqy, hpy]
      ring
  refine ⟨b, ?_, Point.gap_le_of_toward h0 h1 rfl rfl⟩
  rcases hlast with rfl | hzero
  · -- All the way would mean that the other point is covered.
    refine absurd ⟨u', v', w', ?_, ?_, ?_, hsum', hpx, hpy⟩ hp
    · simpa using hu'
    · simpa using hv'
    · simpa using hw'
  · exact onBorder_of_weighs hu' hv' hw' hzero hb

/-- Only one point of a triangle is nearest. -/
theorem nearest_unique {a b : Point α} (ha : t.Covers a) (hb : t.Covers b)
    (hnearest : ∀ q, t.Covers q → p.gap a ≤ p.gap q) (hequal : p.gap b ≤ p.gap a) :
    a.x = b.x ∧ a.y = b.y := by
  obtain ⟨u, v, w, hu, hv, hw, hsum, hax, hay⟩ := ha
  obtain ⟨u', v', w', hu', hv', hw', hsum', hbx, hby⟩ := hb
  let m : Point α := ⟨(a.x + b.x) / 2, (a.y + b.y) / 2, 0⟩
  have hm : t.Covers m := by
    refine ⟨(u + u') / 2, (v + v') / 2, (w + w') / 2, by positivity, by positivity, by positivity,
      ?_, ?_, ?_⟩
    · linear_combination (hsum + hsum') / 2
    · simp only [m, hax, hbx]
      ring
    · simp only [m, hay, hby]
      ring
  have ham := hnearest m hm
  exact Point.eq_of_gap_le_half (m := m) rfl rfl ham (hequal.trans ham)

/-! ### Corners in another order -/

def corners (t : Triangle α) : List (Point α) := [t.red, t.green, t.blue]

omit [Field α] [LinearOrder α] [IsStrictOrderedRing α] in
/-- A property of triangles that does not see the corners turned or the first two swapped does not
see their order. -/
theorem of_perm {P : Triangle α → Prop} (hturn : ∀ r g b, P ⟨r, g, b⟩ → P ⟨g, b, r⟩)
    (hswap : ∀ r g b, P ⟨r, g, b⟩ → P ⟨g, r, b⟩) (h : t.corners.Perm t'.corners) (ht : P t) :
    P t' := by
  obtain ⟨r, g, b⟩ := t
  obtain ⟨r', g', b'⟩ := t'
  have horder : [r', g', b'] ∈ [r, g, b].permutations := List.mem_permutations.2 h.symm
  have hsix : [r, g, b].permutations =
      [[r, g, b], [g, r, b], [b, g, r], [g, b, r], [b, r, g], [r, b, g]] := by
    simp [List.permutations, List.permutationsAux, List.permutationsAux.rec, List.permutationsAux2]
  rw [hsix] at horder
  simp only [List.mem_cons, List.cons.injEq, and_true, List.not_mem_nil, or_false] at horder
  rcases horder with ⟨rfl, rfl, rfl⟩ | ⟨rfl, rfl, rfl⟩ | ⟨rfl, rfl, rfl⟩ | ⟨rfl, rfl, rfl⟩ |
    ⟨rfl, rfl, rfl⟩ | ⟨rfl, rfl, rfl⟩
  · exact ht
  · exact hswap _ _ _ ht
  · exact hswap _ _ _ (hturn _ _ _ ht)
  · exact hturn _ _ _ ht
  · exact hturn _ _ _ (hturn _ _ _ ht)
  · exact hturn _ _ _ (hswap _ _ _ ht)

theorem Covers.perm (h : t.corners.Perm t'.corners) (hq : t.Covers q) : t'.Covers q := by
  refine of_perm (P := fun t => t.Covers q) ?_ ?_ h hq
  · rintro r g b ⟨u, v, w, hu, hv, hw, hsum, hx, hy⟩
    exact ⟨v, w, u, hv, hw, hu, by linarith, by simp only [hx]; ring, by simp only [hy]; ring⟩
  · rintro r g b ⟨u, v, w, hu, hv, hw, hsum, hx, hy⟩
    exact ⟨v, u, w, hv, hu, hw, by linarith, by simp only [hx]; ring, by simp only [hy]; ring⟩

theorem doubledArea_perm (h : t.corners.Perm t'.corners) (ht : t.doubledArea ≠ 0) :
    t'.doubledArea ≠ 0 := by
  refine of_perm (P := fun t => t.doubledArea ≠ 0) ?_ ?_ h ht
  · intro r g b hne hzero
    refine hne ?_
    unfold doubledArea at *
    linear_combination hzero
  · intro r g b hne hzero
    refine hne ?_
    unfold doubledArea at *
    linear_combination -hzero

end Triangle

end LightBridge
