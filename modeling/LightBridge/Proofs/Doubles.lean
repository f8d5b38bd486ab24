import LightBridge.Frame

/-! What the comparisons of doubles have to do with each other, and what cannot be told of a double
that differs from another one in the sign of a zero only. Doubles are looked at through their sign,
mantissa and exponent. -/

namespace LightBridge

open Float.Model

theorem finite_eq_of_compare {m n : Nat} {d e : Int} (sign : UnpackedFloat.Sign) (hm : 0 < m)
    (hn : 0 < n) (h : (compare d e).then (compare m n) = .eq) :
    UnpackedFloat.finite sign m d hm = .finite sign n e hn := by
  obtain ⟨hexponent, hmantissa⟩ := Ordering.then_eq_eq.1 h
  obtain rfl := Std.LawfulEqCmp.eq_of_compare hexponent
  obtain rfl := Std.LawfulEqCmp.eq_of_compare hmantissa
  rfl

theorem eq_or_zero_of_compare {u v : UnpackedFloat} (h : u.compare v = some .eq) :
    u = v ∨ ∃ s t, u = .zero s ∧ v = .zero t := by
  cases u with
  | notANumber => cases h
  | infinity s =>
    cases v with
    | infinity t => cases s <;> cases t <;> first | exact Or.inl rfl | cases h
    | _ => cases s <;> cases h
  | zero s =>
    cases v with
    | zero t => exact Or.inr ⟨s, t, rfl, rfl⟩
    | notANumber => cases h
    | _ t => cases t <;> cases h
  | finite s m d hm =>
    cases v with
    | finite t n e hn =>
      cases s <;> cases t
      case negative.negative =>
        have hswap := congrArg Ordering.swap (Option.some_inj.1 h)
        rw [Ordering.swap_swap] at hswap
        exact Or.inl (finite_eq_of_compare .negative hm hn hswap)
      case positive.positive =>
        exact Or.inl (finite_eq_of_compare .positive hm hn (Option.some_inj.1 h))
      all_goals cases h
    | infinity t => cases s <;> cases t <;> cases h
    | _ => cases s <;> cases h

theorem mul_eq_pack (a b : Float) :
    a * b = .ofModel (.pack (.mul .binary64 a.toModel.unpack b.toModel.unpack)) := rfl

/-! ### The order of doubles -/

theorem compare_swap (u v : UnpackedFloat) : v.compare u = (u.compare v).map Ordering.swap := by
  cases u with
  | notANumber => cases v <;> rfl
  | infinity s =>
    cases v with
    | infinity t => cases s <;> cases t <;> rfl
    | _ => cases s <;> rfl
  | zero s =>
    cases v with
    | infinity t | finite t => cases t <;> rfl
    | _ => rfl
  | finite s m d hm =>
    cases v with
    | infinity t => cases t <;> rfl
    | zero | notANumber => cases s <;> rfl
    | finite t n e hn =>
      have hswap : (compare e d).then (compare n m) = ((compare d e).then (compare m n)).swap := by
        rw [Ordering.swap_then, ← Std.OrientedCmp.eq_swap, ← Std.OrientedCmp.eq_swap]
      cases s <;> cases t
      case negative.negative => exact congrArg (some ∘ Ordering.swap) hswap
      case positive.positive => exact congrArg some hswap
      all_goals rfl

theorem compare_self {u : UnpackedFloat} (h : u ≠ .notANumber) : u.compare u = some .eq := by
  cases u with
  | notANumber => exact absurd rfl h
  | infinity s => cases s <;> rfl
  | zero s => rfl
  | finite s m d hm =>
    have hsame : (compare d d).then (compare m m) = .eq := by
      rw [Std.ReflOrd.compare_self, Std.ReflOrd.compare_self]
      rfl
    cases s
    · exact congrArg (some ∘ Ordering.swap) hsame
    · exact congrArg some hsame

namespace Scalar

variable {a b x : Float}

theorem lt_iff : lt a b = true ↔ a.toModel.unpack.compare b.toModel.unpack = some .lt :=
  decide_eq_true_iff.trans (decide_eq_true_iff.trans beq_iff_eq)

theorem same_eq (a b : Float) :
    same a b = (a.toModel.unpack.compare b.toModel.unpack == some .eq) := rfl

theorem le_iff : le a b = true ↔ (a.toModel.unpack.compare b.toModel.unpack).any (·.isLE) = true :=
  decide_eq_true_iff.trans decide_eq_true_iff

theorem le_of_lt (h : lt a b = true) : le a b = true := by
  rw [le_iff, lt_iff.1 h]
  rfl

theorem lt_self (a : Float) : lt a a = false := by
  refine eq_false_of_ne_true fun h => ?_
  have hgt := compare_swap a.toModel.unpack a.toModel.unpack
  rw [lt_iff.1 h] at hgt
  cases hgt

theorem lt_asymm (h : le a b = true) : lt b a = false := by
  refine eq_false_of_ne_true fun hlt => ?_
  have hgt := compare_swap b.toModel.unpack a.toModel.unpack
  rw [lt_iff.1 hlt] at hgt
  rw [le_iff, hgt] at h
  cases h

/-- What another double can be compared with is a number. -/
theorem number_of_le (h : le a b = true) : b.toModel.unpack ≠ .notANumber := by
  intro hnan
  rw [le_iff, hnan] at h
  cases hu : a.toModel.unpack <;> rw [hu] at h <;> cases h

theorem number_left_of_le (h : le a b = true) : a.toModel.unpack ≠ .notANumber := by
  intro hnan
  rw [le_iff, hnan] at h
  cases h

theorem le_self (h : b.toModel.unpack ≠ .notANumber) : le b b = true := by
  rw [le_iff, compare_self h]
  rfl

theorem not_nan (h : b.toModel.unpack ≠ .notANumber) : isNaN b = false := by
  have hsame : same b b = true := by
    rw [same_eq, compare_self h]
    rfl
  rw [isNaN, hsame]
  rfl

theorem number_of_not_nan (h : isNaN a = false) : a.toModel.unpack ≠ .notANumber := by
  intro hnan
  rw [isNaN, same_eq, hnan] at h
  cases h

theorem compare_isSome {u v : UnpackedFloat} (hu : u ≠ .notANumber) (hv : v ≠ .notANumber) :
    (u.compare v).isSome = true := by
  cases u with
  | notANumber => exact absurd rfl hu
  | infinity s =>
    cases v with
    | notANumber => exact absurd rfl hv
    | _ => cases s <;> rfl
  | zero s =>
    cases v with
    | notANumber => exact absurd rfl hv
    | zero t => rfl
    | infinity t | finite t => cases t <;> rfl
  | finite s m d hm =>
    cases v with
    | notANumber => exact absurd rfl hv
    | zero t => cases s <;> rfl
    | infinity t => cases t <;> rfl
    | finite t => cases s <;> cases t <;> rfl

/-- Numbers can be compared. -/
theorem le_of_not_lt (ha : a.toModel.unpack ≠ .notANumber) (hb : b.toModel.unpack ≠ .notANumber)
    (h : lt b a = false) : le a b = true := by
  obtain ⟨o, ho⟩ := Option.isSome_iff_exists.1 (compare_isSome ha hb)
  have hnot : ¬b.toModel.unpack.compare a.toModel.unpack = some .lt := by
    rw [← lt_iff, h]
    exact Bool.false_ne_true
  rw [compare_swap, ho] at hnot
  rw [le_iff, ho]
  cases o with
  | gt => exact absurd rfl hnot
  | lt | eq => rfl

theorem same_of_not_lt (ha : a.toModel.unpack ≠ .notANumber) (hb : b.toModel.unpack ≠ .notANumber)
    (h : lt a b = false) (h' : lt b a = false) : same a b = true := by
  obtain ⟨o, ho⟩ := Option.isSome_iff_exists.1 (compare_isSome ha hb)
  have hle := le_of_not_lt ha hb h'
  have hnot : ¬a.toModel.unpack.compare b.toModel.unpack = some .lt := by
    rw [← lt_iff, h]
    exact Bool.false_ne_true
  rw [le_iff, ho] at hle
  rw [ho] at hnot
  rw [same_eq, ho]
  cases o with
  | gt => cases hle
  | lt => exact absurd rfl hnot
  | eq => rfl

theorem clamp_not_above (h : le a b = true) (x : Float) : lt b (clamp a b x) = false := by
  unfold clamp
  split
  · exact lt_asymm h
  · split
    · exact lt_self b
    · next habove => exact eq_false_of_ne_true habove

/-! ### Zeros -/

/-- The doubles are the same one, or both are zero. -/
def Alike (a b : Float) : Prop :=
  a.toModel.unpack = b.toModel.unpack ∨
    ∃ s t, a.toModel.unpack = .zero s ∧ b.toModel.unpack = .zero t

theorem Alike.refl (a : Float) : Alike a a := Or.inl rfl

theorem Alike.symm (h : Alike a b) : Alike b a :=
  h.imp Eq.symm fun ⟨s, t, ha, hb⟩ => ⟨t, s, hb, ha⟩

theorem Alike.trans {c : Float} (h : Alike a b) (h' : Alike b c) : Alike a c := by
  rcases h with h | ⟨s, t, ha, hb⟩
  · rwa [Alike, h]
  · rcases h' with h' | ⟨u, v, -, hc⟩
    · exact Or.inr ⟨s, t, ha, h' ▸ hb⟩
    · exact Or.inr ⟨s, v, ha, hc⟩

theorem alike_of_same (h : same a b = true) : Alike a b := eq_or_zero_of_compare (eq_of_beq h)

theorem compare_zero (s t : UnpackedFloat.Sign) (u : UnpackedFloat) :
    UnpackedFloat.compare (.zero s) u = UnpackedFloat.compare (.zero t) u := by
  cases u with
  | infinity t | finite t => cases t <;> rfl
  | _ => rfl

theorem Alike.compare_eq (h : Alike a b) (u : UnpackedFloat) :
    a.toModel.unpack.compare u = b.toModel.unpack.compare u := by
  rcases h with h | ⟨s, t, ha, hb⟩
  · rw [h]
  · rw [ha, hb]
    exact compare_zero s t u

theorem Alike.same_of_number (h : Alike a b) (hb : b.toModel.unpack ≠ .notANumber) :
    same a b = true := by
  rw [same_eq, h.compare_eq, compare_self hb]
  rfl

theorem Alike.le_left (h : Alike a b) (x : Float) : le a x = le b x := by
  rw [Bool.eq_iff_iff, le_iff, le_iff, h.compare_eq]

theorem Alike.le_right (h : Alike a b) (x : Float) : le x a = le x b := by
  rw [Bool.eq_iff_iff, le_iff, le_iff, compare_swap a.toModel.unpack, h.compare_eq,
    ← compare_swap b.toModel.unpack]

theorem Alike.lt_left (h : Alike a b) (x : Float) : lt a x = lt b x := by
  rw [Bool.eq_iff_iff, lt_iff, lt_iff, h.compare_eq]

theorem Alike.lt_right (h : Alike a b) (x : Float) : lt x a = lt x b := by
  rw [Bool.eq_iff_iff, lt_iff, lt_iff, compare_swap a.toModel.unpack, h.compare_eq,
    ← compare_swap b.toModel.unpack]

theorem Alike.clamp (h : Alike a b) (low high : Float) :
    Alike (Scalar.clamp low high a) (Scalar.clamp low high b) := by
  unfold Scalar.clamp
  rw [h.lt_left, h.lt_right]
  split
  · exact .refl low
  · split
    · exact .refl high
    · exact h

theorem Alike.clamp_limits {low low' high high' : Float} (hlow : Alike low low')
    (hhigh : Alike high high') (x : Float) :
    Alike (Scalar.clamp low high x) (Scalar.clamp low' high' x) := by
  unfold Scalar.clamp
  rw [hlow.lt_right, hhigh.lt_left]
  split
  · exact hlow
  · split
    · exact hhigh
    · exact .refl x

theorem unpack_pack_zero (s : UnpackedFloat.Sign) :
    (Float.ofModel (.pack (.zero s))).toModel.unpack = .zero s := by
  cases s <;> rfl

theorem Alike.mul (h : Alike a b) (x : Float) : Alike (x * a) (x * b) := by
  rw [mul_eq_pack, mul_eq_pack]
  rcases h with h | ⟨s, t, ha, hb⟩
  · rw [h]
    exact .refl _
  · rw [ha, hb]
    cases x.toModel.unpack with
    | infinity | notANumber => exact .refl _
    | zero u | finite u =>
      exact Or.inr ⟨u * s, u * t, unpack_pack_zero _, unpack_pack_zero _⟩

/-- What a frame shows of a double does not depend on the sign of a zero. -/
theorem Alike.scale_eq (h : Alike a b) : Frame.scale a = Frame.scale b := by
  have hscaled : ∀ c : Float, c * 65535.0 =
      .ofModel (.pack (.mul .binary64 c.toModel.unpack (65535.0 : Float).toModel.unpack)) :=
    fun c => mul_eq_pack c 65535.0
  unfold Frame.scale
  rcases h.clamp 0.0 1.0 with h | ⟨s, t, ha, hb⟩
  · rw [hscaled, hscaled, h]
  · rw [hscaled, hscaled, ha, hb]
    cases s <;> cases t <;> rfl

end Scalar

end LightBridge
