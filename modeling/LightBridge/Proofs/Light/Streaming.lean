import LightBridge.Proofs.Frame
import LightBridge.Proofs.Light.Painting

/-! What a light of a stream shows. A colour is dimmed when it is kept, and kept only if it is another
one than was asked for last; a light that was just taken over counts the colour that its entry
reported as asked for, but shows it undimmed. -/

namespace LightBridge

/-! ### Brightness -/

namespace Dimming

open Scalar

variable (d : Dimming Float)

/-- The brightness a stream shows. -/
def streamed (brightness : Float) : Float :=
  clamp 0.0 d.ceiling (d.factor * clamp d.floor d.ceiling brightness)

theorem max_zero (a : Float) : Scalar.max a 0.0 = if lt 0.0 a then a else 0.0 := by
  have hnumber : isNaN (0.0 : Float) = false := rfl
  rw [Scalar.max, hnumber, if_neg Bool.false_ne_true]

theorem min_number {b : Float} (h : b.toModel.unpack ≠ .notANumber) (a : Float) :
    Scalar.min a b = if lt a b then a else b := by
  rw [Scalar.min, not_nan h, if_neg Bool.false_ne_true]

theorem ceiling_nonneg : le 0.0 d.ceiling = true := by
  have hone : (1.0 : Float).toModel.unpack ≠ .notANumber :=
    fun h => by cases h
  rw [ceiling, max_zero, min_number hone]
  by_cases hpositive : lt 0.0 d.greatest = true
  · rw [if_pos hpositive]
    split
    · exact le_of_lt hpositive
    · rfl
  · rw [if_neg hpositive]
    rfl

theorem floor_le : le d.floor d.ceiling = true := by
  have hnumber := number_of_le d.ceiling_nonneg
  rw [floor, min_number hnumber]
  split
  · next hbelow => exact le_of_lt hbelow
  · exact le_self hnumber

theorem streamed?_eq (brightness : Float) :
    d.streamed? brightness = some (d.streamed brightness) := by
  rw [streamed?, clamp?, if_pos d.floor_le, Option.bind_some, clamp?, if_pos d.ceiling_nonneg,
    streamed]

/-- No brightness that a stream shows is above the greatest one. -/
theorem not_above (brightness : Float) : lt d.ceiling (d.streamed brightness) = false :=
  clamp_not_above d.ceiling_nonneg _

theorem streamed_alike {a b : Float} (h : Alike a b) : Alike (d.streamed a) (d.streamed b) :=
  ((h.clamp d.floor d.ceiling).mul d.factor).clamp 0.0 d.ceiling

end Dimming

namespace Frame

/-- The record of a light in a frame. -/
def recordOf (id : UInt16) (p : Point Float) : LightRecord :=
  ⟨id.toUInt8, scale p.x, scale p.y, scale p.brightness⟩

end Frame

namespace Light

variable {s : DeviceSettings}

/-- What a stream is to show of a colour. -/
def aimed (s : DeviceSettings) (c : Color) (l : Light Float) : Point Float :=
  let p : Point Float := c.toPoint l.triangle
  p.withBrightness (s.dimming.streamed p.brightness)

theorem keepColor_eq (p : Point Float) (d : Dimming Float) (l : Light Float) :
    l.keepColor p d = { l with
      requested := if l.requested.same p then l.requested else p
      color := if l.requested.same p then l.color else
        p.withBrightness (d.streamed p.brightness) } := by
  unfold keepColor
  rw [d.streamed?_eq]
  split <;> rfl

end Light

/-- Points that count as the same one are shown alike. -/
theorem recordOf_of_same {p q : Point Float} (h : q.same p = true) (id : UInt16)
    (d : Dimming Float) :
    Frame.recordOf id (q.withBrightness (d.streamed q.brightness)) =
      Frame.recordOf id (p.withBrightness (d.streamed p.brightness)) := by
  obtain ⟨hxy, hbrightness⟩ := Bool.and_eq_true_iff.1 h
  obtain ⟨hx, hy⟩ := Bool.and_eq_true_iff.1 hxy
  have hx := (Scalar.alike_of_same hx).scale_eq
  have hy := (Scalar.alike_of_same hy).scale_eq
  have hbrightness := (d.streamed_alike (Scalar.alike_of_same hbrightness)).scale_eq
  simp only [Frame.recordOf, Point.withBrightness, hx, hy, hbrightness]

/-- What a light of a stream is like after colours were shown, since it was taken over. -/
structure Streamed (s : DeviceSettings) (first : Light Float) (cs : List Color) (l : Light Float) :
    Prop where
  id_eq : l.id = first.id
  gamut_eq : l.gamut = first.gamut
  color_kept : ¬Recolored first cs → l.requested = first.requested ∧ l.color = first.color
  color_dimmed : Recolored first cs →
    l.color = l.requested.withBrightness (s.dimming.streamed l.requested.brightness)
  /-- The light believes that the last colour is shown. -/
  latest : ∀ c, cs.getLast? = some c →
    l.requested = c.toPoint first.triangle ∨ l.requested.same (c.toPoint first.triangle)

section

variable {s : DeviceSettings} {first l : Light Float} {cs : List Color}

theorem streamed_nil : Streamed s first [] first where
  id_eq := rfl
  gamut_eq := rfl
  color_kept _ := ⟨rfl, rfl⟩
  color_dimmed h := by simp [Recolored] at h
  latest c h := by simp at h

theorem Streamed.paint (hstreaming : s.streaming = true) (hk : Streamed s first cs l) (c : Color) :
    Streamed s first (cs ++ [c]) (l.paint s c).1 := by
  have htriangle : l.triangle = first.triangle := congrArg Gamut.triangle hk.gamut_eq
  rw [Light.paint_streaming hstreaming, Light.keepColor_eq, htriangle]
  generalize hp : (c.toPoint first.triangle : Point Float) = p
  have hconcat : Recolored first (cs ++ [c]) ↔
      Recolored first cs ∨ first.requested.same p = false := by rw [recolored_concat, hp]
  constructor
  case id_eq => exact hk.id_eq
  case gamut_eq => exact hk.gamut_eq
  case color_kept =>
    intro hnot
    obtain ⟨hbefore, hsame⟩ := not_or.1 fun h => hnot (hconcat.2 h)
    obtain ⟨hrequested, hcolor⟩ := hk.color_kept hbefore
    have hsame : l.requested.same p = true := by
      rw [hrequested]
      exact eq_true_of_ne_false hsame
    dsimp only
    rw [if_pos hsame, if_pos hsame]
    exact ⟨hrequested, hcolor⟩
  case color_dimmed =>
    intro hrecolored
    dsimp only
    by_cases hsame : l.requested.same p = true
    · -- Nothing is kept, so the colour was dimmed before.
      have hbefore : Recolored first cs := by
        refine Classical.byContradiction fun hnot => ?_
        rw [(hk.color_kept hnot).1] at hsame
        exact (hconcat.1 hrecolored).elim hnot fun hne => by rw [hne] at hsame; cases hsame
      rw [if_pos hsame, if_pos hsame]
      exact hk.color_dimmed hbefore
    · rw [if_neg hsame, if_neg hsame]
  case latest =>
    intro x hx
    rw [List.getLast?_concat, Option.some_inj] at hx
    subst hx
    rw [hp]
    dsimp only
    split
    · next hsame => exact Or.inr hsame
    · exact Or.inl rfl

/-- After a colour was shown the stream shows what it is to, exactly if some colour was another than
the light was taken over with, or that one needs no dimming. -/
theorem Streamed.shows_iff {c : Color} (hk : Streamed s first cs l) (hlast : cs.getLast? = some c)
    (id : UInt16) :
    Frame.recordOf id l.color = Frame.recordOf id (first.aimed s c) ↔
      Recolored first cs ∨ Frame.recordOf id first.color = Frame.recordOf id (first.aimed s c) := by
  by_cases h : Recolored first cs
  · refine iff_of_true ?_ (Or.inl h)
    rw [hk.color_dimmed h, Light.aimed]
    rcases hk.latest c hlast with heq | hsame
    · rw [heq]
    · exact recordOf_of_same hsame id s.dimming
  · simp [(hk.color_kept h).2, h]

theorem Streamed.not_above (hk : Streamed s first cs l) (h : Recolored first cs) :
    Scalar.lt s.dimming.ceiling l.color.brightness = false := by
  rw [hk.color_dimmed h]
  exact s.dimming.not_above _

end

end LightBridge
