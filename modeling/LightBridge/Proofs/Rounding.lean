import LightBridge.Proofs.Doubles
import Mathlib

/-! Products of doubles. A double that is not negative is told apart from others by its rank, the
number of doubles from zero up to it, and doubles are ordered like their ranks. A product is rounded
to the nearest double, halves to the even one. The rank of the result never falls when the exact
product grows, so products with a factor that is not negative keep the order. -/

namespace LightBridge.Rounding

open Float.Model
open UnpackedFloat (Sign Accuracy ExtendedMantissa packComponents)

/-! ### Mantissas -/

/-- A mantissa without its last `k` bits, rounded to the nearest number, halves to the even one. -/
def rounded (m k : Nat) : Nat :=
  m / 2 ^ k + if 2 * (m % 2 ^ k) < 2 ^ k then 0
    else if 2 * (m % 2 ^ k) = 2 ^ k then m / 2 ^ k % 2 else 1

/-- What is left of a mantissa when its last `k` bits were shifted out, with how the rest compares
to one half. -/
structure Shifted (m k : Nat) (em : ExtendedMantissa) : Prop where
  mantissa_eq : em.mantissa = m / 2 ^ k
  round_iff : em.roundBit = true ↔ 2 ^ k ≤ 2 * (m % 2 ^ k)
  sticky_iff : em.stickyBit = true ↔ m % 2 ^ k ≠ 0 ∧ 2 * (m % 2 ^ k) ≠ 2 ^ k

theorem shifted_zero (m : Nat) : Shifted m 0 (.ofMantissaAndAccuracy m .exact) where
  mantissa_eq := by simp [ExtendedMantissa.ofMantissaAndAccuracy]
  round_iff := by simp [ExtendedMantissa.ofMantissaAndAccuracy, Nat.mod_one]
  sticky_iff := by simp [ExtendedMantissa.ofMantissaAndAccuracy, Nat.mod_one]

theorem Shifted.succ {m k : Nat} {em : ExtendedMantissa} (h : Shifted m k em) :
    Shifted m (k + 1) em.shiftRightOne := by
  have hpos : 0 < 2 ^ k := Nat.two_pow_pos k
  have hrest : m % 2 ^ k < 2 ^ k := Nat.mod_lt _ hpos
  have hmod : m % 2 ^ (k + 1) = m % 2 ^ k + 2 ^ k * (m / 2 ^ k % 2) := Nat.mod_pow_succ
  have hpow : 2 ^ (k + 1) = 2 * 2 ^ k := Nat.pow_succ'
  have hbit : m / 2 ^ k % 2 = 0 ∨ m / 2 ^ k % 2 = 1 := Nat.mod_two_eq_zero_or_one _
  constructor
  case mantissa_eq =>
    rw [Nat.pow_succ, ← Nat.div_div_eq_div_mul, ← h.mantissa_eq]
    rfl
  case round_iff =>
    rw [hmod, hpow, ExtendedMantissa.shiftRightOne, bne_iff_ne, h.mantissa_eq]
    rcases hbit with hbit | hbit <;> rw [hbit] <;> omega
  case sticky_iff =>
    rw [hmod, hpow, ExtendedMantissa.shiftRightOne, Bool.or_eq_true, h.round_iff, h.sticky_iff]
    rcases hbit with hbit | hbit <;> rw [hbit] <;> omega

theorem shifted (m k : Nat) :
    Shifted m k (ExtendedMantissa.ofMantissaAndAccuracy m .exact >>> k) := by
  change Shifted m k (k.repeat ExtendedMantissa.shiftRightOne _)
  induction k with
  | zero => exact shifted_zero m
  | succ k ih => exact ih.succ

theorem Shifted.roundedMantissa_eq {m k : Nat} {em : ExtendedMantissa} (h : Shifted m k em) :
    em.roundedMantissa = rounded m k := by
  obtain ⟨q, round, sticky⟩ := em
  obtain ⟨hq, hround, hsticky⟩ := h
  dsimp only at hq hround hsticky
  rw [rounded, ← hq]
  have hpos : 0 < 2 ^ k := Nat.two_pow_pos k
  cases round <;> cases sticky <;>
    simp only [ExtendedMantissa.roundedMantissa, ExtendedMantissa.accuracy,
      Accuracy.roundToNearestEven, Bool.false_eq_true, true_iff, false_iff] at hround hsticky ⊢ <;>
    split <;> try split
  all_goals omega

theorem rounded_mono {m n : Nat} (h : m ≤ n) (k : Nat) : rounded m k ≤ rounded n k := by
  have hquotient : m / 2 ^ k ≤ n / 2 ^ k := Nat.div_le_div_right h
  have hm : 2 ^ k * (m / 2 ^ k) + m % 2 ^ k = m := Nat.div_add_mod m (2 ^ k)
  have hn : 2 ^ k * (n / 2 ^ k) + n % 2 ^ k = n := Nat.div_add_mod n (2 ^ k)
  unfold rounded
  rcases Nat.lt_or_eq_of_le hquotient with hlt | heq
  · split <;> try split
    all_goals omega
  · rw [heq] at hm ⊢
    have hrest : m % 2 ^ k ≤ n % 2 ^ k := by omega
    split <;> split <;> try split
    all_goals try split
    all_goals omega

theorem rounded_scale (m k d : Nat) : rounded (m * 2 ^ d) (k + d) = rounded m k := by
  have hpos : 0 < 2 ^ d := Nat.two_pow_pos d
  have hquotient : m * 2 ^ d / 2 ^ (k + d) = m / 2 ^ k := by
    rw [Nat.pow_add, Nat.mul_div_mul_right _ _ hpos]
  have hrest : m * 2 ^ d % 2 ^ (k + d) = m % 2 ^ k * 2 ^ d := by
    rw [Nat.pow_add, Nat.mul_mod_mul_right]
  have hlt : 2 * (m % 2 ^ k * 2 ^ d) < 2 ^ (k + d) ↔ 2 * (m % 2 ^ k) < 2 ^ k := by
    rw [Nat.pow_add, ← Nat.mul_assoc, Nat.mul_lt_mul_right hpos]
  have heq : 2 * (m % 2 ^ k * 2 ^ d) = 2 ^ (k + d) ↔ 2 * (m % 2 ^ k) = 2 ^ k := by
    rw [Nat.pow_add, ← Nat.mul_assoc, Nat.mul_left_inj (Nat.ne_of_gt hpos)]
  simp only [rounded, hquotient, hrest, hlt, heq]

theorem le_rounded (m k : Nat) : m / 2 ^ k ≤ rounded m k := Nat.le_add_right _ _

theorem rounded_le (m k : Nat) : rounded m k ≤ m / 2 ^ k + 1 := by
  unfold rounded
  split <;> try split
  all_goals omega

/-! ### Ranks -/

/-- The mantissa and exponent of a double, in the one form that it is unpacked to. -/
structure Canonical (m : Nat) (e : Int) : Prop where
  lt : m < 2 ^ 53
  least : -1074 ≤ e
  full : 2 ^ 52 ≤ m ∨ e = -1074

/-- The number of doubles from zero up to one that is not negative. -/
def rank : UnpackedFloat → Nat
  | .zero _ => 0
  | .finite _ m e _ => (e + 1074).toNat * 2 ^ 52 + m
  | .infinity _ => 2047 * 2 ^ 52
  | .notANumber => 0

/-- What a double that is not negative is unpacked to. -/
inductive Unpacked : UnpackedFloat → Prop
  | zero (s : Sign) : Unpacked (.zero s)
  | finite {m : Nat} {e : Int} (hm : 0 < m) (h : Canonical m e) (hmost : e ≤ 971) :
    Unpacked (.finite .positive m e hm)
  | infinity : Unpacked (.infinity .positive)

theorem compare_finite {m n : Nat} {d e : Int} (hm : 0 < m) (hn : 0 < n) (h : Canonical m d)
    (h' : Canonical n e) :
    (UnpackedFloat.compare (.finite .positive m d hm) (.finite .positive n e hn)).any (·.isLE) =
        true ↔
      rank (.finite .positive m d hm) ≤ rank (.finite .positive n e hn) := by
  obtain ⟨hlt, hleast, hfull⟩ := h
  obtain ⟨hlt', hleast', hfull'⟩ := h'
  have hcompare : (UnpackedFloat.compare (.finite .positive m d hm) (.finite .positive n e hn)) =
      some ((compare d e).then (compare m n)) := rfl
  rw [hcompare, Option.any_some, Ordering.isLE_then_iff_or, Std.isLE_compare, Int.compare_eq_lt,
    Int.compare_eq_eq]
  simp only [rank]
  omega

theorem compare_iff {u v : UnpackedFloat} (hu : Unpacked u) (hv : Unpacked v) :
    (u.compare v).any (·.isLE) = true ↔ rank u ≤ rank v := by
  cases hu with
  | zero s =>
    refine iff_of_true ?_ (Nat.zero_le _)
    cases hv <;> rfl
  | finite hm h hmost =>
    have hlt := h.lt
    have hleast := h.least
    cases hv with
    | zero s => exact iff_of_false Bool.false_ne_true (by simp only [rank]; omega)
    | finite hn h' => exact compare_finite hm hn h h'
    | infinity => exact iff_of_true rfl (by simp only [rank]; omega)
  | infinity =>
    cases hv with
    | zero s => exact iff_of_false Bool.false_ne_true (by simp only [rank]; omega)
    | finite hn h' hmost =>
      have hlt := h'.lt
      have hleast := h'.least
      exact iff_of_false Bool.false_ne_true (by simp only [rank]; omega)
    | infinity => exact iff_of_true rfl (Nat.le_refl _)

theorem toNat_implicit (f : BitVec 52) : (1#1 ++ f).toNat = 2 ^ 52 + f.toNat := by
  rw [BitVec.toNat_append, ← Nat.shiftLeft_add_eq_or_of_lt f.isLt]
  rfl

theorem exponentBias_eq : (Format.binary64.exponentBias : Int) = 1023 := by decide

theorem canonical_unpack (b : BitVec 64) {s : Sign} {m : Nat} {e : Int} {hm : 0 < m}
    (h : UnpackedFloat.unpack .binary64 b = .finite s m e hm) : Canonical m e ∧ e ≤ 971 := by
  generalize hf : @UnpackedFloat.unpackMantissa .binary64 b = f
  generalize hx : @UnpackedFloat.unpackExponent .binary64 b = x
  have hfraction : f.toNat < 2 ^ 52 := f.isLt
  have hexponent : x.toNat < 2 ^ 11 := x.isLt
  simp only [UnpackedFloat.unpack, hf, hx, exponentBias_eq] at h
  split at h
  · split at h <;> cases h
  · next hinfinite =>
    have hmost : x.toNat ≠ 2047 := fun h => hinfinite (BitVec.eq_of_toNat_eq h)
    split at h
    · next hleast =>
      split at h
      · cases h
      · cases h
        rw [hleast]
        exact ⟨⟨by omega, by decide, Or.inr rfl⟩, by decide⟩
    · next hleast =>
      have hleast : x.toNat ≠ 0 := fun h => hleast (BitVec.eq_of_toNat_eq h)
      cases h
      rw [toNat_implicit]
      exact ⟨⟨by omega, by dsimp; omega, Or.inl (by omega)⟩, by dsimp; omega⟩

theorem unpack_normal (s : Sign) {x : BitVec 11} (f : BitVec 52) (hleast : x ≠ 0#11)
    (hmost : x ≠ -1#11) :
    UnpackedFloat.unpack .binary64 (packComponents .binary64 s x f) =
      .finite s (2 ^ 52 + f.toNat) (x.toNat - 1075) (by omega) := by
  simp only [UnpackedFloat.unpack, UnpackedFloat.unpackExponent_packComponents,
    UnpackedFloat.unpackMantissa_packComponents, UnpackedFloat.unpackSign_packComponents,
    Sign.ofBitVec_toBitVec, exponentBias_eq, if_neg hmost, if_neg hleast, toNat_implicit]
  rfl

theorem unpack_subnormal (s : Sign) (f : BitVec 52) (hf : 0 < f.toNat) :
    UnpackedFloat.unpack .binary64 (packComponents .binary64 s 0#11 f) =
      .finite s f.toNat (-1074) hf := by
  have hne : f ≠ 0#52 := by
    rintro rfl
    exact absurd hf (by decide)
  have hmost : (0#11 : BitVec 11) ≠ -1#11 := by decide
  simp only [UnpackedFloat.unpack, UnpackedFloat.unpackExponent_packComponents,
    UnpackedFloat.unpackMantissa_packComponents, UnpackedFloat.unpackSign_packComponents,
    Sign.ofBitVec_toBitVec, if_neg hmost, if_true, dif_neg hne]
  rfl

theorem unpack_infinity (s : Sign) :
    UnpackedFloat.unpack .binary64 (UnpackedFloat.packedInfinity .binary64 s) = .infinity s := by
  cases s <;> rfl

/-- How a double is packed. -/
theorem pack_eq {m : Nat} {e : Int} (s : Sign) (hm : 0 < m) :
    UnpackedFloat.pack .binary64 (.finite s m e hm) =
      if 2 ^ 11 ≤ (e + 1075).toNat + 1 then UnpackedFloat.packedInfinity .binary64 s
      else if m.log2 + 1 = 53 then
        packComponents .binary64 s (BitVec.ofNat 11 (e + 1075).toNat) (BitVec.ofNat 52 m)
      else packComponents .binary64 s 0#11 (BitVec.ofNat 52 m) := by
  have hbiased : e + (Format.binary64.exponentBias : Int) +
      (Format.binary64.mantissaBitsWithoutImplicit : Int) = e + 1075 := by
    rw [exponentBias_eq]
    show e + 1023 + 52 = e + 1075
    omega
  simp only [UnpackedFloat.pack, hbiased]
  rfl

theorem unpack_pack {m : Nat} {e : Int} (s : Sign) (hm : 0 < m) (h : Canonical m e)
    (hmost : e ≤ 971) :
    UnpackedFloat.unpack .binary64 (UnpackedFloat.pack .binary64 (.finite s m e hm)) =
      .finite s m e hm := by
  obtain ⟨hlt, hleast, hfull⟩ := h
  have hfraction : (BitVec.ofNat 52 m).toNat = m % 2 ^ 52 := BitVec.toNat_ofNat m 52
  have hlog : m.log2 + 1 = 53 ↔ 2 ^ 52 ≤ m := by
    have hle := Nat.le_log2 (k := 52) (Nat.ne_of_gt hm)
    have hlt' := (Nat.log2_lt (k := 53) (Nat.ne_of_gt hm)).2 hlt
    omega
  rw [pack_eq, if_neg (by omega)]
  simp only [hlog]
  by_cases hnormal : 2 ^ 52 ≤ m
  · have hexponent : (BitVec.ofNat 11 (e + 1075).toNat).toNat = (e + 1075).toNat := by
      rw [BitVec.toNat_ofNat]
      omega
    have hbounds : ∀ x : BitVec 11, x.toNat = 0 ∨ x.toNat = 2047 →
        BitVec.ofNat 11 (e + 1075).toNat ≠ x := by
      rintro x hx rfl
      omega
    rw [if_pos hnormal, unpack_normal s _ (hbounds _ (Or.inl rfl)) (hbounds _ (Or.inr rfl))]
    congr 1
    · omega
    · omega
  · obtain rfl : e = -1074 := hfull.resolve_left hnormal
    rw [if_neg hnormal, unpack_subnormal s _ (by omega)]
    congr 1
    omega

theorem unpack_pack_above {m : Nat} {e : Int} (s : Sign) (hm : 0 < m) (h : 971 < e) :
    UnpackedFloat.unpack .binary64 (UnpackedFloat.pack .binary64 (.finite s m e hm)) =
      .infinity s := by
  rw [pack_eq, if_pos (by omega), unpack_infinity]

/-! ### Rounding -/

/-- The exponent of the double that a mantissa with an exponent is rounded to. -/
def target (m : Nat) (e : Int) : Int := max (m.log2 + e - 52) (-1074)

theorem targetExponent_eq (m : Nat) (e : Int) :
    Format.binary64.targetExponent (totalExponent m e) = target m e := by
  have hmin : Format.binary64.minExponent = -1074 := by decide
  simp only [Format.targetExponent, totalExponent, hmin, Format.mantissaBits, target]
  omega

theorem shift_eq (m : Nat) (e : Int) :
    UnpackedFloat.shiftToTargetExponent .binary64 m e .exact =
      (ExtendedMantissa.ofMantissaAndAccuracy m .exact >>> (target m e - e).toNat,
        e + (target m e - e).toNat) := by
  rw [UnpackedFloat.shiftToTargetExponent, targetExponent_eq]
  rfl

/-- The mantissa that is left when a mantissa with an exponent is rounded. -/
def significand (m : Nat) (e : Int) : Nat := rounded m (target m e - e).toNat

/-- The rank of the double that a mantissa with an exponent is rounded to, if there is one. -/
def position (m : Nat) (e : Int) : Nat := (target m e + 1074).toNat * 2 ^ 52 + significand m e

/-- The result of rounding. -/
inductive Rounded (s : Sign) : UnpackedFloat → Prop
  | zero : Rounded s (.zero s)
  | finite {m : Nat} {e : Int} (hm : 0 < m) (h : Canonical m e) : Rounded s (.finite s m e hm)

variable {m n : Nat} {e : Int}

theorem significand_le (hm : 0 < m) (he : e ≤ target m e) : significand m e ≤ 2 ^ 53 := by
  have hshift : m.log2 < 53 + (target m e - e).toNat := by
    unfold target at he ⊢
    omega
  have hlt : m < 2 ^ 53 * 2 ^ (target m e - e).toNat := by
    rw [← Nat.pow_add]
    exact (Nat.log2_lt (Nat.ne_of_gt hm)).1 hshift
  have hquotient := (Nat.div_lt_iff_lt_mul (Nat.two_pow_pos _)).2 hlt
  exact Nat.le_trans (rounded_le _ _) hquotient

theorem le_significand (hm : 0 < m) (he : e ≤ target m e) (hfull : target m e ≠ -1074) :
    2 ^ 52 ≤ significand m e := by
  have hshift : 52 + (target m e - e).toNat ≤ m.log2 := by
    unfold target at he hfull ⊢
    omega
  have hle : 2 ^ 52 * 2 ^ (target m e - e).toNat ≤ m := by
    rw [← Nat.pow_add]
    exact (Nat.le_log2 (Nat.ne_of_gt hm)).1 hshift
  have hquotient := (Nat.le_div_iff_mul_le (Nat.two_pow_pos _)).2 hle
  exact Nat.le_trans hquotient (le_rounded _ _)

/-- A significand below `2 ^ 53` stays as it is. -/
theorem shift_significand {q : Nat} {t : Int} (hq : q < 2 ^ 53) (ht : -1074 ≤ t) :
    (UnpackedFloat.shiftToTargetExponent .binary64 q t .exact).1.mantissa = q ∧
      (UnpackedFloat.shiftToTargetExponent .binary64 q t .exact).2 = t := by
  have hlog : q.log2 ≤ 52 := by
    rcases Nat.eq_zero_or_pos q with rfl | hpos
    · decide
    · exact Nat.le_of_lt_succ ((Nat.log2_lt (Nat.ne_of_gt hpos)).2 hq)
  have hshift : (target q t - t).toNat = 0 := by
    unfold target
    omega
  rw [shift_eq, hshift]
  exact ⟨rfl, Int.add_zero t⟩

theorem round_eq (s : Sign) (he : e ≤ target m e) :
    UnpackedFloat.roundWithAccuracy .binary64 s m e .exact =
      let shifted :=
        UnpackedFloat.shiftToTargetExponent .binary64 (significand m e) (target m e) .exact
      if h : shifted.1.mantissa = 0 then .zero s
      else .finite s shifted.1.mantissa shifted.2 (Nat.pos_of_ne_zero h) := by
  have hexponent : e + (target m e - e).toNat = target m e := by omega
  simp only [UnpackedFloat.roundWithAccuracy, shift_eq m e, (shifted m _).roundedMantissa_eq,
    hexponent]
  rfl

theorem rounded_round (s : Sign) (hm : 0 < m) (he : e ≤ target m e) :
    Rounded s (UnpackedFloat.roundWithAccuracy .binary64 s m e .exact) ∧
      rank (UnpackedFloat.roundWithAccuracy .binary64 s m e .exact) = position m e := by
  have hleast : -1074 ≤ target m e := Int.le_max_right _ _
  have hle := significand_le hm he
  have hfull : target m e = -1074 ∨ 2 ^ 52 ≤ significand m e :=
    Classical.or_iff_not_imp_left.2 (le_significand hm he)
  rw [round_eq s he, position]
  generalize significand m e = q at hle hfull
  generalize target m e = t at hleast hfull
  rcases Nat.lt_or_eq_of_le hle with hlt | rfl
  · obtain ⟨hq, ht⟩ := shift_significand hlt hleast
    simp only [hq, ht]
    split
    · next hzero =>
      obtain rfl : t = -1074 := hfull.resolve_right (by omega)
      exact ⟨.zero, by simp [rank, hzero]⟩
    · next hpos => exact ⟨.finite _ ⟨hlt, hleast, hfull.symm⟩, rfl⟩
  · -- The last bit carries over into one more, which is shifted out again.
    have hshift : UnpackedFloat.shiftToTargetExponent .binary64 (2 ^ 53) t .exact =
        (ExtendedMantissa.ofMantissaAndAccuracy (2 ^ 53) .exact >>> 1, t + 1) := by
      have htarget : target (2 ^ 53) t = t + 1 := by
        rw [target, Nat.log2_two_pow]
        omega
      rw [shift_eq, htarget]
      have hone : (t + 1 - t).toNat = 1 := by omega
      rw [hone]
      rfl
    have hq := (shifted (2 ^ 53) 1).mantissa_eq
    simp only [hshift, hq]
    rw [dif_neg (by decide)]
    refine ⟨.finite _ ⟨by decide, by omega, Or.inl (by decide)⟩, ?_⟩
    simp only [rank]
    omega

/-! ### Order -/

theorem position_mono (h : m ≤ n) (hm : 0 < m) (he : e ≤ target m e) :
    position m e ≤ position n e := by
  have hlog : m.log2 ≤ n.log2 :=
    (Nat.le_log2 (by omega)).2 (Nat.le_trans (Nat.log2_self_le (Nat.ne_of_gt hm)) h)
  have htarget : target m e ≤ target n e := by
    unfold target
    omega
  have hleast : -1074 ≤ target m e := Int.le_max_right _ _
  unfold position
  rcases Int.lt_or_eq_of_le htarget with hlt | heq
  · have hle := significand_le hm he
    have hfull := le_significand (m := n) (e := e) (by omega) (by omega) (by omega)
    omega
  · have hle : significand m e ≤ significand n e := by
      rw [significand, significand, heq]
      exact rounded_mono h _
    rw [heq]
    omega

theorem log2_scale (d : Nat) (hm : 0 < m) : (m * 2 ^ d).log2 = m.log2 + d := by
  have hpos : 0 < 2 ^ d := Nat.two_pow_pos d
  obtain ⟨hle, hlt⟩ := (Nat.log2_eq_iff (Nat.ne_of_gt hm)).1 rfl
  refine (Nat.log2_eq_iff (Nat.ne_of_gt (Nat.mul_pos hm hpos))).2 ⟨?_, ?_⟩
  · rw [Nat.pow_add]
    exact Nat.mul_le_mul_right _ hle
  · rw [Nat.add_right_comm, Nat.pow_add]
    exact Nat.mul_lt_mul_of_pos_right hlt hpos

theorem position_scale (d : Nat) (hm : 0 < m) (he : e + d ≤ target m (e + d)) :
    position (m * 2 ^ d) e = position m (e + d) := by
  have hlog : (m * 2 ^ d).log2 = m.log2 + d := log2_scale d hm
  have htarget : target (m * 2 ^ d) e = target m (e + d) := by
    unfold target
    omega
  have hshift : (target m (e + d) - e).toNat = (target m (e + d) - (e + d)).toNat + d := by omega
  rw [position, position, significand, significand, htarget, hshift, rounded_scale]

theorem le_target {d : Int} (hm : 0 < m) (hn : 0 < n) (h : Canonical m d) (h' : Canonical n e) :
    d + e ≤ target (m * n) (d + e) := by
  have hleast : -1074 ≤ target (m * n) (d + e) := Int.le_max_right _ _
  have hmore : 2 ^ 52 ≤ m * n → 52 ≤ (m * n).log2 :=
    (Nat.le_log2 (Nat.ne_of_gt (Nat.mul_pos hm hn))).2
  have hleft : m ≤ m * n := Nat.le_mul_of_pos_right m hn
  have hright : n ≤ m * n := Nat.le_mul_of_pos_left n hm
  have hfull := h.full
  have hfull' := h'.full
  unfold target at hleast ⊢
  omega

/-- Of two doubles the one of the higher rank has the greater mantissa, as soon as that is shifted
to the exponent of the other. -/
theorem le_of_rank_le {d : Int} {hm : 0 < m} {hn : 0 < n} (h : Canonical m d) (h' : Canonical n e)
    (hrank : rank (.finite .positive m d hm) ≤ rank (.finite .positive n e hn)) :
    d ≤ e ∧ m ≤ n * 2 ^ (e - d).toNat := by
  obtain ⟨hlt, hleast, hfull⟩ := h
  obtain ⟨hlt', hleast', hfull'⟩ := h'
  simp only [rank] at hrank
  have hle : d ≤ e := by omega
  refine ⟨hle, ?_⟩
  rcases Int.lt_or_eq_of_le hle with hlt | rfl
  · obtain ⟨k, hk⟩ : ∃ k, (e - d).toNat = k + 1 := ⟨(e - d).toNat - 1, by omega⟩
    have hpos : 0 < 2 ^ k := Nat.two_pow_pos k
    have hdouble : 2 * n ≤ n * 2 ^ (k + 1) := by
      rw [Nat.pow_succ', ← Nat.mul_assoc, Nat.mul_comm 2 n]
      exact Nat.le_mul_of_pos_right _ hpos
    rw [hk]
    omega
  · have hzero : (d - d).toNat = 0 := by omega
    rw [hzero, Nat.pow_zero, Nat.mul_one]
    omega

/-! ### Products -/

/-- A double as it is after it was packed. -/
def repacked (u : UnpackedFloat) : UnpackedFloat :=
  UnpackedFloat.unpack .binary64 (UnpackedFloat.pack .binary64 u)

theorem repacked_zero (s : Sign) : repacked (.zero s) = .zero s := Scalar.unpack_pack_zero s

theorem repacked_finite (s : Sign) (hm : 0 < m) (h : Canonical m e) :
    repacked (.finite s m e hm) = if e ≤ 971 then .finite s m e hm else .infinity s := by
  split
  · next hmost => exact unpack_pack s hm h hmost
  · next hmost => exact unpack_pack_above s hm (by omega)

theorem Rounded.number {s : Sign} {u : UnpackedFloat} (h : Rounded s u) :
    repacked u ≠ .notANumber := by
  cases h with
  | zero => rw [repacked_zero]; exact fun h => by cases h
  | finite hm h =>
    rw [repacked_finite s hm h]
    split <;> exact fun h => by cases h

theorem Rounded.repacked {u : UnpackedFloat} (h : Rounded .positive u) :
    Unpacked (repacked u) ∧ rank (repacked u) = min (rank u) (2047 * 2 ^ 52) := by
  cases h with
  | zero =>
    rw [repacked_zero]
    exact ⟨.zero _, rfl⟩
  | finite hm h =>
    have hlt := h.lt
    have hleast := h.least
    have hfull := h.full
    rw [repacked_finite _ hm h]
    split
    · next hmost => exact ⟨.finite hm h hmost, by simp only [rank]; omega⟩
    · next hmost => exact ⟨.infinity, by simp only [rank]; omega⟩

/-- The product of two positive doubles. -/
theorem repacked_mul {d : Int} (hm : 0 < m) (hn : 0 < n) (h : Canonical m d) (h' : Canonical n e) :
    let product := repacked (.mul .binary64 (.finite .positive m d hm) (.finite .positive n e hn))
    Unpacked product ∧ rank product = min (position (m * n) (d + e)) (2047 * 2 ^ 52) := by
  obtain ⟨hrounded, hrank⟩ :=
    rounded_round .positive (Nat.mul_pos hm hn) (le_target hm hn h h')
  have hproduct := hrounded.repacked
  rwa [hrank] at hproduct

theorem position_mul_mono {k : Nat} {c d : Int} (hk : 0 < k) (hm : 0 < m) (hn : 0 < n)
    (hfactor : Canonical k c) (h : Canonical m d) (h' : Canonical n e)
    (hrank : rank (.finite .positive m d hm) ≤ rank (.finite .positive n e hn)) :
    position (k * m) (c + d) ≤ position (k * n) (c + e) := by
  obtain ⟨hle, hmantissa⟩ := le_of_rank_le h h' hrank
  have hexponent : c + d + (e - d).toNat = c + e := by omega
  have htarget := le_target hk hn hfactor h'
  have hscale := position_scale (m := k * n) (e := c + d) (e - d).toNat (Nat.mul_pos hk hn)
    (by rwa [hexponent])
  rw [hexponent] at hscale
  rw [← hscale, Nat.mul_assoc]
  exact position_mono (Nat.mul_le_mul_left k hmantissa) (Nat.mul_pos hk hm)
    (le_target hk hm hfactor h)

/-- What a finite double that is not negative is unpacked to. -/
inductive Finite : UnpackedFloat → Prop
  | zero (s : Sign) : Finite (.zero s)
  | positive {m : Nat} {e : Int} (hm : 0 < m) (h : Canonical m e) :
    Finite (.finite .positive m e hm)

theorem unpacked_mul {u v : UnpackedFloat} (hu : Finite u) (hv : Finite v) :
    Unpacked (repacked (.mul .binary64 u v)) := by
  have hzero : ∀ s, Unpacked (repacked (.zero s)) := fun s => by
    rw [repacked_zero]
    exact .zero s
  cases hu with
  | zero s => cases hv <;> exact hzero _
  | positive hm h =>
    cases hv with
    | zero t => exact hzero _
    | positive hn h' => exact (repacked_mul hm hn h h').1

theorem rank_zero_mul {v : UnpackedFloat} (s : Sign) (hv : Finite v) :
    rank (repacked (.mul .binary64 (.zero s) v)) = 0 := by
  cases hv <;> exact congrArg rank (repacked_zero _)

theorem rank_mul_zero {u : UnpackedFloat} (hu : Finite u) (s : Sign) :
    rank (repacked (.mul .binary64 u (.zero s))) = 0 := by
  cases hu <;> exact congrArg rank (repacked_zero _)

/-- The rank of a product does not fall when the rank of a factor grows. -/
theorem rank_mul_mono {u v w : UnpackedFloat} (hu : Finite u) (hv : Finite v) (hw : Finite w)
    (h : rank v ≤ rank w) :
    rank (repacked (.mul .binary64 u v)) ≤ rank (repacked (.mul .binary64 u w)) := by
  cases hu with
  | zero s => rw [rank_zero_mul s hv]; exact Nat.zero_le _
  | positive hk hfactor =>
    cases hv with
    | zero t => rw [rank_mul_zero (.positive hk hfactor) t]; exact Nat.zero_le _
    | positive hm hv =>
      cases hw with
      | zero t => simp only [rank] at h; omega
      | positive hn hw =>
        have hle := position_mul_mono hk hm hn hfactor hv hw h
        rw [(repacked_mul hk hm hfactor hv).2, (repacked_mul hk hn hfactor hw).2]
        omega

end LightBridge.Rounding

namespace LightBridge.Scalar

open Float.Model Rounding

variable {a b c : Float}

theorem mul_eq_repacked (a b : Float) :
    (a * b).toModel.unpack = repacked (.mul .binary64 a.toModel.unpack b.toModel.unpack) := rfl

theorem unpacked_of_nonneg (h : le 0.0 a = true) : Unpacked a.toModel.unpack := by
  have hzero : (0.0 : Float).toModel.unpack = .zero .positive := rfl
  rw [le_iff, hzero] at h
  cases hu : a.toModel.unpack with
  | notANumber => rw [hu] at h; cases h
  | zero s => exact .zero s
  | infinity s =>
    cases s with
    | positive => exact .infinity
    | negative => rw [hu] at h; cases h
  | finite s m e hm =>
    cases s with
    | positive =>
      obtain ⟨hcanonical, hmost⟩ := canonical_unpack _ hu
      exact .finite hm hcanonical hmost
    | negative => rw [hu] at h; cases h

theorem finite_of_nonneg (h : le 0.0 a = true) (hfinite : a.isFinite = true) :
    Finite a.toModel.unpack := by
  replace hfinite : a.toModel.unpack.isFinite = true := hfinite
  have hu := unpacked_of_nonneg h
  cases hu' : a.toModel.unpack with
  | notANumber | infinity => rw [hu'] at hfinite; cases hfinite
  | zero s => exact .zero s
  | finite s m e hm =>
    rw [hu'] at hu
    cases hu with
    | finite _ h => exact .positive hm h

/-- Doubles that are not negative are ordered like their ranks. -/
theorem le_iff_rank (ha : le 0.0 a = true) (hb : le 0.0 b = true) :
    le a b = true ↔ rank a.toModel.unpack ≤ rank b.toModel.unpack :=
  le_iff.trans (compare_iff (unpacked_of_nonneg ha) (unpacked_of_nonneg hb))

/-- A product of finite doubles is a number. -/
theorem mul_number (ha : a.isFinite = true) (hb : b.isFinite = true) :
    (a * b).toModel.unpack ≠ .notANumber := by
  rw [mul_eq_repacked]
  replace ha : a.toModel.unpack.isFinite = true := ha
  replace hb : b.toModel.unpack.isFinite = true := hb
  have hzero : ∀ s, repacked (.zero s) ≠ .notANumber := fun s => (Rounded.zero (s := s)).number
  cases hu : a.toModel.unpack with
  | notANumber | infinity => rw [hu] at ha; cases ha
  | zero s =>
    cases hv : b.toModel.unpack with
    | notANumber | infinity => rw [hv] at hb; cases hb
    | zero t | finite t => exact hzero _
  | finite s m d hm =>
    cases hv : b.toModel.unpack with
    | notANumber | infinity => rw [hv] at hb; cases hb
    | zero t => exact hzero _
    | finite t n e hn =>
      have htarget := le_target hm hn (canonical_unpack _ hu).1 (canonical_unpack _ hv).1
      exact (rounded_round (s * t) (Nat.mul_pos hm hn) htarget).1.number

/-- A finite factor that is not negative keeps the order of doubles that are not negative. -/
theorem mul_mono (ha : le 0.0 a = true) (hfinite : a.isFinite = true) (hb : le 0.0 b = true)
    (hb' : b.isFinite = true) (hc : le 0.0 c = true) (hc' : c.isFinite = true)
    (h : le b c = true) : le (a * b) (a * c) = true := by
  have hfactor := finite_of_nonneg ha hfinite
  have hleft := finite_of_nonneg hb hb'
  have hright := finite_of_nonneg hc hc'
  refine le_iff.2 ((compare_iff (unpacked_mul hfactor hleft) (unpacked_mul hfactor hright)).2 ?_)
  exact rank_mul_mono hfactor hleft hright ((le_iff_rank hb hc).1 h)

end LightBridge.Scalar
