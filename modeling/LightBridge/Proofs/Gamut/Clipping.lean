import LightBridge.Proofs.Exact
import LightBridge.Proofs.Gamut.Plane
import Mathlib.Analysis.SpecialFunctions.Pow.Real

/-! Clipping in exact arithmetic. Each edge gives its nearest point, the best of the three is as
near as any point of the border, and so as near as any point that the triangle covers. Of the square
root in a distance only its monotonicity is used. -/

namespace LightBridge

open Scalar

section

variable {α : Type} [Field α] [LinearOrder α] [IsStrictOrderedRing α] (sqrt gammaPower : α → α)
  (nearest : Nat → α → Nat)

/-! ### Segments -/

theorem clamp_unit (x : α) : (ofField sqrt gammaPower nearest).clamp 0.0 1.0 x =
    if x < 0 then 0 else if 1 < x then 1 else x := by
  have hzero : (0.0 : α) = 0 := by norm_num
  have hone : (1.0 : α) = 1 := by norm_num
  rw [hzero, hone]
  show (if decide (x < 0) then 0 else if decide (1 < x) then 1 else x) = _
  simp only [decide_eq_true_eq]

theorem clamp_unit_mem (x : α) : 0 ≤ (ofField sqrt gammaPower nearest).clamp 0.0 1.0 x ∧
    (ofField sqrt gammaPower nearest).clamp 0.0 1.0 x ≤ 1 := by
  rw [clamp_unit]
  split
  · exact ⟨le_rfl, zero_le_one⟩
  · split
    · exact ⟨zero_le_one, le_rfl⟩
    · exact ⟨not_lt.1 ‹_›, not_lt.1 ‹_›⟩

/-- The part `m / n` of a way is best, and limited to `[0, 1]` it is the best one within. -/
theorem clamp_best {m n r : α} (hn : 0 ≤ n) (hm : n = 0 → m = 0) (h0 : 0 ≤ r) (h1 : r ≤ 1) :
    let s := (ofField sqrt gammaPower nearest).clamp 0.0 1.0 (m / n)
    0 ≤ (r - s) * (n * s - m) := by
  intro s
  have hs : s = if m / n < 0 then 0 else if 1 < m / n then 1 else m / n := clamp_unit _ _ _ _
  have hback : m / n * n = m := div_mul_cancel_of_imp hm
  rw [hs]
  split
  · next hlow =>
    have hneg : m ≤ 0 := by
      rw [← hback]
      exact mul_nonpos_of_nonpos_of_nonneg hlow.le hn
    exact mul_nonneg (by linarith) (by linarith)
  · split
    · next hhigh =>
      have hmore : n ≤ m := by
        rw [← hback]
        exact le_mul_of_one_le_left hn hhigh.le
      exact mul_nonneg_of_nonpos_of_nonpos (by linarith) (by linarith)
    · rw [mul_comm n, hback, sub_self, mul_zero]

theorem between_onSegment (p a b : Point α) :
    letI := ofField sqrt gammaPower nearest
    a.Between b (p.onSegment a b) := by
  obtain ⟨h0, h1⟩ := clamp_unit_mem sqrt gammaPower nearest
    (((p.x - a.x) * (b.x - a.x) + (p.y - a.y) * (b.y - a.y)) /
      ((b.x - a.x) * (b.x - a.x) + (b.y - a.y) * (b.y - a.y)))
  exact ⟨_, h0, h1, rfl, rfl⟩

/-- No point of a segment is nearer than the one that is chosen. -/
theorem gap_onSegment_le {p a b q : Point α} (hq : a.Between b q) :
    letI := ofField sqrt gammaPower nearest
    p.gap (p.onSegment a b) ≤ p.gap q := by
  let := ofField sqrt gammaPower nearest
  obtain ⟨r, h0, h1, hx, hy⟩ := hq
  set m := (p.x - a.x) * (b.x - a.x) + (p.y - a.y) * (b.y - a.y) with hm
  set n := (b.x - a.x) * (b.x - a.x) + (b.y - a.y) * (b.y - a.y) with hn
  have hn0 : 0 ≤ n := add_nonneg (mul_self_nonneg _) (mul_self_nonneg _)
  have hm0 : n = 0 → m = 0 := by
    intro hzero
    obtain ⟨hdx, hdy⟩ := (add_eq_zero_iff_of_nonneg (mul_self_nonneg _) (mul_self_nonneg _)).1 hzero
    rw [hm, mul_self_eq_zero.1 hdx, mul_self_eq_zero.1 hdy, mul_zero, mul_zero, add_zero]
  have hbest := clamp_best sqrt gammaPower nearest hn0 hm0 h0 h1
  set s := (ofField sqrt gammaPower nearest).clamp 0.0 1.0 (m / n)
  -- What `r` is worse than `s` by: a square, and twice the product that `clamp_best` is about.
  have hgap : p.gap q = p.gap (p.onSegment a b) +
      (n * (r - s) ^ 2 + 2 * ((r - s) * (n * s - m))) := by
    have hsx : (p.onSegment a b).x = a.x + (b.x - a.x) * s := rfl
    have hsy : (p.onSegment a b).y = a.y + (b.y - a.y) * s := rfl
    simp only [Point.gap, hx, hy, hsx, hsy, hm, hn]
    ring
  have hsquare : 0 ≤ n * (r - s) ^ 2 := mul_nonneg hn0 (sq_nonneg _)
  linarith

/-! ### The border -/

namespace Triangle

/-- Whatever distances are compared, one of two points is chosen. -/
theorem nearer_eq_or {β : Type} [Scalar β] (p a b : Point β) :
    nearer p a b = a ∨ nearer p a b = b := by
  unfold nearer
  split
  · exact Or.inr rfl
  · exact Or.inl rfl

theorem onBorder_nearestOnBorder (t : Triangle α) (p : Point α) :
    letI := ofField sqrt gammaPower nearest
    t.OnBorder (t.nearestOnBorder p) := by
  let := ofField sqrt gammaPower nearest
  have hredGreen := between_onSegment sqrt gammaPower nearest p t.red t.green
  have hblueRed := between_onSegment sqrt gammaPower nearest p t.blue t.red
  have hgreenBlue := between_onSegment sqrt gammaPower nearest p t.green t.blue
  rcases nearer_eq_or p (nearer p (p.onSegment t.red t.green) (p.onSegment t.blue t.red))
    (p.onSegment t.green t.blue) with h | h
  · rw [nearestOnBorder, h]
    rcases nearer_eq_or p (p.onSegment t.red t.green) (p.onSegment t.blue t.red) with h' | h'
    · rw [h']
      exact Or.inl hredGreen
    · rw [h']
      exact Or.inr (Or.inl hblueRed)
  · rw [nearestOnBorder, h]
    exact Or.inr (Or.inr hgreenBlue)

end Triangle

/-! ### Distances -/

omit [IsStrictOrderedRing α] in
theorem distance_eq (p q : Point α) :
    letI := ofField sqrt gammaPower nearest
    p.distance q = sqrt (p.gap q) := by
  show sqrt ((p.x - q.x) * (p.x - q.x) + (p.y - q.y) * (p.y - q.y)) = sqrt (p.gap q)
  rw [Point.gap, sq, sq]

variable (hsqrt : StrictMonoOn sqrt (Set.Ici 0))
include hsqrt

theorem distance_le_iff {p a b : Point α} :
    letI := ofField sqrt gammaPower nearest
    p.distance a ≤ p.distance b ↔ p.gap a ≤ p.gap b := by
  rw [distance_eq, distance_eq]
  exact hsqrt.le_iff_le (p.gap_nonneg a) (p.gap_nonneg b)

/-- Of two points the nearer one is chosen. -/
theorem gap_nearer_le (p a b : Point α) :
    letI := ofField sqrt gammaPower nearest
    p.gap (Triangle.nearer p a b) ≤ p.gap a ∧ p.gap (Triangle.nearer p a b) ≤ p.gap b := by
  let := ofField sqrt gammaPower nearest
  have hc : Triangle.nearer p a b = if p.distance b < p.distance a then b else a := by
    show (if decide (_ < _) then b else a) = _
    simp only [decide_eq_true_eq]
  rw [hc]
  split
  · next hlt => exact ⟨(distance_le_iff sqrt gammaPower nearest hsqrt).1 hlt.le, le_rfl⟩
  · next hge =>
    exact ⟨le_rfl, (distance_le_iff sqrt gammaPower nearest hsqrt).1 (not_lt.1 hge)⟩

theorem nearestOnBorder_nearest (t : Triangle α) (p : Point α) :
    letI := ofField sqrt gammaPower nearest
    ∀ b, t.OnBorder b → p.gap (t.nearestOnBorder p) ≤ p.gap b := by
  let := ofField sqrt gammaPower nearest
  let e₁ := p.onSegment t.red t.green
  let e₂ := p.onSegment t.blue t.red
  let e₃ := p.onSegment t.green t.blue
  obtain ⟨h₁, h₂⟩ := gap_nearer_le sqrt gammaPower nearest hsqrt p e₁ e₂
  obtain ⟨h₁₂, h₃⟩ := gap_nearer_le sqrt gammaPower nearest hsqrt p (Triangle.nearer p e₁ e₂) e₃
  rintro b (hb | hb | hb)
  · exact (h₁₂.trans h₁).trans (gap_onSegment_le sqrt gammaPower nearest hb)
  · exact (h₁₂.trans h₂).trans (gap_onSegment_le sqrt gammaPower nearest hb)
  · exact h₃.trans (gap_onSegment_le sqrt gammaPower nearest hb)

/-! ### The triangle -/

namespace Triangle

omit hsqrt in
/-- The triangle contains what it covers. -/
theorem contains_iff_covers {t : Triangle α} (harea : t.doubledArea ≠ 0) {q : Point α} :
    letI := ofField sqrt gammaPower nearest
    t.contains q = true ↔ t.Covers q := by
  let := ofField sqrt gammaPower nearest
  have hzero : (0.0 : α) = 0 := by norm_num
  have hone : (1.0 : α) = 1 := by norm_num
  have hcontains : t.contains q = (decide ((0.0 : α) ≤ t.greenWeight q) &&
      decide ((0.0 : α) ≤ t.blueWeight q) &&
      decide (t.greenWeight q + t.blueWeight q ≤ (1.0 : α))) := rfl
  rw [covers_iff harea, hcontains, hzero, hone, Bool.and_eq_true, Bool.and_eq_true,
    decide_eq_true_eq, decide_eq_true_eq, decide_eq_true_eq, and_assoc]

omit hsqrt in
theorem contains_clip {t : Triangle α} (harea : t.doubledArea ≠ 0) (p : Point α) :
    letI := ofField sqrt gammaPower nearest
    t.contains (t.clip p) = true := by
  let := ofField sqrt gammaPower nearest
  by_cases hp : t.contains p = true
  · rwa [clip, if_pos hp]
  · rw [clip, if_neg hp, contains_iff_covers sqrt gammaPower nearest harea]
    exact covers_of_onBorder (onBorder_nearestOnBorder sqrt gammaPower nearest t p)

omit hsqrt [IsStrictOrderedRing α] in
theorem clip_brightness (t : Triangle α) (p : Point α) :
    letI := ofField sqrt gammaPower nearest
    (t.clip p).brightness = p.brightness := by
  simp only [clip]
  split <;> rfl

/-- What a point is clipped to is covered, and no covered point is nearer. -/
theorem clip_nearest {t : Triangle α} (harea : t.doubledArea ≠ 0) (p : Point α) :
    letI := ofField sqrt gammaPower nearest
    t.Covers (t.clip p) ∧ ∀ q, t.Covers q → p.gap (t.clip p) ≤ p.gap q := by
  let := ofField sqrt gammaPower nearest
  by_cases hp : t.Covers p
  · have hclip : t.clip p = p :=
      if_pos ((contains_iff_covers sqrt gammaPower nearest harea).2 hp)
    have hgap : p.gap p = 0 := by simp [Point.gap]
    rw [hclip, hgap]
    exact ⟨hp, fun q _ => p.gap_nonneg q⟩
  · have hclip : t.clip p = (t.nearestOnBorder p).withBrightness p.brightness :=
      if_neg fun h => hp ((contains_iff_covers sqrt gammaPower nearest harea).1 h)
    rw [hclip]
    refine ⟨covers_of_onBorder (onBorder_nearestOnBorder sqrt gammaPower nearest t p),
      fun q hq => ?_⟩
    obtain ⟨b, hb, hbq⟩ := exists_nearer_border harea hp hq
    exact (nearestOnBorder_nearest sqrt gammaPower nearest hsqrt t p b hb).trans hbq

/-- Clipping is the projection onto a triangle whose corners do not lie on one line: it keeps the
brightness, and moves a point only if the triangle does not contain it, to the nearest of all points
that are convex combinations of the corners. So clipping again changes nothing, and neither does
naming the corners in another order. -/
theorem clip_projects {t : Triangle α} (harea : t.doubledArea ≠ 0) (p : Point α) :
    letI := ofField sqrt gammaPower nearest
    (t.clip p).brightness = p.brightness ∧
    t.contains (t.clip p) = true ∧
    (t.contains p = true → t.clip p = p) ∧
    (∀ q, t.contains q = true ↔ t.Covers q) ∧
    (∀ q, t.Covers q → p.distance (t.clip p) ≤ p.distance q) ∧
    t.clip (t.clip p) = t.clip p ∧
    ∀ t' : Triangle α, t.corners.Perm t'.corners → t'.clip p = t.clip p := by
  let := ofField sqrt gammaPower nearest
  have hcontains : ∀ q, t.contains q = true ↔ t.Covers q :=
    fun q => contains_iff_covers sqrt gammaPower nearest harea
  obtain ⟨hcovered, hnearest⟩ := clip_nearest sqrt gammaPower nearest hsqrt harea p
  have hstays : ∀ q, t.contains q = true → t.clip q = q := fun q hq => if_pos hq
  have hinside : t.contains (t.clip p) = true := (hcontains _).2 hcovered
  refine ⟨clip_brightness sqrt gammaPower nearest t p, hinside, hstays p, hcontains, ?nearest,
    hstays _ hinside, ?order⟩
  case nearest =>
    exact fun q hq => (distance_le_iff sqrt gammaPower nearest hsqrt).2 (hnearest q hq)
  case order =>
    intro t' hperm
    obtain ⟨hcovered', hnearest'⟩ :=
      clip_nearest sqrt gammaPower nearest hsqrt (doubledArea_perm hperm harea) p
    -- Both are nearest in the same triangle, of which there is one.
    obtain ⟨hx, hy⟩ := nearest_unique hcovered' (hcovered.perm hperm) hnearest'
      (hnearest _ (hcovered'.perm hperm.symm))
    have hbrightness := (clip_brightness sqrt gammaPower nearest t' p).trans
      (clip_brightness sqrt gammaPower nearest t p).symm
    exact Point.ext hx hy hbrightness

end Triangle

end

/-- A point beyond the longest edge of a triangle that is named clockwise. It moves to the middle of
that edge. -/
theorem Triangle.clip_projects_of_clockwise :
    letI := ofField Real.sqrt (fun x => x ^ (2.4 : ℝ)) fun bound x => Nat.min bound ⌊x + 1 / 2⌋₊
    let t : Triangle ℝ := ⟨⟨0, 0, 0⟩, ⟨0, 2, 0⟩, ⟨2, 0, 0⟩⟩
    let p : Point ℝ := ⟨2, 2, 1⟩
    StrictMonoOn Real.sqrt (Set.Ici 0) ∧ t.doubledArea = -4 ∧ t.clip p = ⟨1, 1, 1⟩ ∧
      t.contains (t.clip p) = true ∧ ∀ q, t.Covers q → p.distance (t.clip p) ≤ p.distance q := by
  intro t p
  have hsqrt : StrictMonoOn Real.sqrt (Set.Ici 0) := fun a ha b _ hab => Real.sqrt_lt_sqrt ha hab
  have harea : t.doubledArea = -4 := by norm_num [t, doubledArea]
  obtain ⟨hbrightness, hinside, -, hcovers, hnearest, -, -⟩ := clip_projects Real.sqrt
    (fun x => x ^ (2.4 : ℝ)) (fun bound x => Nat.min bound ⌊x + 1 / 2⌋₊) hsqrt
    (harea.trans_ne (by norm_num)) p
  refine ⟨hsqrt, harea, ?_, hinside, hnearest⟩
  obtain ⟨u, v, w, hu, hv, hw, hsum, hx, hy⟩ := (hcovers _).1 hinside
  have hmiddle : t.Covers ⟨1, 1, 0⟩ :=
    ⟨0, 1 / 2, 1 / 2, le_rfl, by norm_num, by norm_num, by norm_num, by norm_num [t],
      by norm_num [t]⟩
  have hless := (distance_le_iff _ _ _ hsqrt).1 (hnearest _ hmiddle)
  simp only [Point.gap, hx, hy] at hless
  norm_num [t, p] at hless
  -- As near as the middle are no other weights.
  have hsquares : (w - 1 / 2) ^ 2 + (v - 1 / 2) ^ 2 ≤ 0 := by linarith
  have hw' : w = 1 / 2 := by nlinarith [sq_nonneg (w - 1 / 2), sq_nonneg (v - 1 / 2)]
  have hv' : v = 1 / 2 := by nlinarith [sq_nonneg (w - 1 / 2), sq_nonneg (v - 1 / 2)]
  refine Point.ext (hx.trans ?_) (hy.trans ?_) hbrightness
  · simp [t, hw']
  · simp [t, hv']

end LightBridge
