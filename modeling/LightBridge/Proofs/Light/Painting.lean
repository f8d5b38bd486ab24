import LightBridge.Light.Painting
import LightBridge.Proofs.Doubles

/-! What becomes of a lamp when colours are shown on its light over the control channel. A light
sends nothing that it believes to be so already. It learned that from its entry and goes on from
there by its own commands, so a lamp is in the state that its light believes from the first command
on that changes that part of it. -/

namespace LightBridge

open Float.Model

/-- A zero of either sign is commanded as the least brightness. -/
theorem max_of_zero {a : Float} {sign : UnpackedFloat.Sign}
    (h : a.toModel.unpack = .zero sign) : Scalar.max (a * 254.0) 1.0 = (1.0 : Float) := by
  rw [mul_eq_pack, h]
  cases sign <;> rfl

theorem commanded_of_same (d : Dimming Float) {a b : Float} (h : Scalar.same a b = true) :
    d.commanded a = d.commanded b := by
  have hmax : Scalar.max (a * 254.0) 1.0 = Scalar.max (b * 254.0) 1.0 := by
    rcases eq_or_zero_of_compare (eq_of_beq h) with h | ⟨s, t, ha, hb⟩
    · rw [mul_eq_pack, mul_eq_pack, h]
    · rw [max_of_zero ha, max_of_zero hb]
  rw [Dimming.commanded, Dimming.commanded, hmax]

namespace Light

/-! ### One colour -/

variable {s : DeviceSettings} {c : Color} {l : Light Float}

/-- Whether a colour is one to shine in, under the settings. -/
def shines (s : DeviceSettings) (c : Color) (l : Light Float) : Bool :=
  !(s.switchOffOnBlack && Scalar.same (c.toPoint l.triangle : Point Float).brightness 0.0)

theorem sendColor_eq (p : Point Float) (d : Dimming Float) (l : Light Float) :
    l.sendColor p d = ({ l with
        requested := if l.requested.same p then l.requested else p
        color := if l.requested.same p then l.color else p },
      if l.requested.same p then [] else [.color p.x p.y (d.commanded p.brightness)]) := by
  unfold sendColor
  split <;> rfl

/-- What showing a colour over the control channel comes to. -/
theorem paint_eq (h : s.streaming = false) :
    let p : Point Float := c.toPoint l.triangle
    l.paint s c = ({ l with
        power := .ofBool (l.shines s c)
        transitionTime := s.transitionTime
        requested := if l.requested.same p then l.requested else p
        color := if l.requested.same p then l.color else p },
      (if l.power = .ofBool (l.shines s c) then [] else [.power (l.shines s c)]) ++
        (if l.transitionTime = s.transitionTime then [] else [.transition s.transitionTime]) ++
        (if l.requested.same p then [] else
          [.color p.x p.y (s.dimming.commanded p.brightness)])) := by
  unfold paint
  rw [h]
  simp only [setOn, setTransitionTime, setColor, sendColor_eq, shines]
  rfl

theorem paint_streaming (h : s.streaming = true) :
    l.paint s c = (l.keepColor (c.toPoint l.triangle) s.dimming, []) := by
  unfold paint
  rw [h]
  rfl

theorem keepColor_id (p : Point Float) (d : Dimming Float) : (l.keepColor p d).id = l.id := by
  unfold keepColor
  split
  · rfl
  · split <;> rfl

theorem keepColor_found (p : Point Float) (d : Dimming Float) :
    (l.keepColor p d).found = l.found := by
  unfold keepColor
  split
  · rfl
  · split <;> rfl

theorem paint_id (s : DeviceSettings) (c : Color) (l : Light Float) :
    (l.paint s c).1.id = l.id := by
  cases h : s.streaming with
  | true => rw [paint_streaming h, keepColor_id]
  | false => rw [paint_eq h]

theorem paint_found (s : DeviceSettings) (c : Color) (l : Light Float) :
    (l.paint s c).1.found = l.found := by
  cases h : s.streaming with
  | true => rw [paint_streaming h, keepColor_found]
  | false => rw [paint_eq h]

end Light

/-! ### A lamp -/

open LightCommand (replay)

theorem LightCommand.replay_append (lamp : LightReport Float) (first rest : List (LightCommand Float)) :
    replay lamp (first ++ rest) = replay (replay lamp first) rest := List.foldl_append

section

variable {s : DeviceSettings} (c : Color) (l : Light Float) (lamp : LightReport Float)

theorem replay_paint_on (h : s.streaming = false) :
    (replay lamp (l.paint s c).2).on =
      if l.power.isOn = l.shines s c then lamp.on else some (l.shines s c) := by
  have hpower : l.power = .ofBool (l.shines s c) ↔ l.power.isOn = l.shines s c := by
    cases l.power <;> cases l.shines s c <;> simp [Power.ofBool, Power.isOn]
  rw [Light.paint_eq h]
  simp only [LightCommand.replay_append, hpower]
  split <;> split <;> split <;> rfl

theorem replay_paint_color (h : s.streaming = false) :
    let p : Point Float := c.toPoint l.triangle
    let q := replay lamp (l.paint s c).2
    (q.xy, q.bri) = if l.requested.same p then (lamp.xy, lamp.bri)
      else (some (p.x, p.y), some (s.dimming.commanded p.brightness)) := by
  rw [Light.paint_eq h]
  simp only [LightCommand.replay_append]
  split <;> split <;> split <;> rfl

end

/-- A lamp holds a point, with the brightness that a command for it has. The chromaticity may be one
that counts as the same. -/
def Holds (d : Dimming Float) (p : Point Float) (lamp : LightReport Float) : Prop :=
  ∃ q : Point Float, (q = p ∨ q.same p) ∧ lamp.xy = some (q.x, q.y) ∧
    lamp.bri = some (d.commanded p.brightness)

/-- A lamp does what a colour asks of it: it is off, or it is on and holds the point of the colour. -/
def Shows (s : DeviceSettings) (l : Light Float) (c : Color) (lamp : LightReport Float) : Prop :=
  lamp.on = some (l.shines s c) ∧
    (l.shines s c = true → Holds s.dimming (c.toPoint l.triangle) lamp)

/-- Some colour wanted other power than the light was taken over with. -/
def Switched (s : DeviceSettings) (first : Light Float) (cs : List Color) : Prop :=
  ∃ c ∈ cs, first.shines s c ≠ first.power.isOn

/-- Some colour was another than the light was taken over with. -/
def Recolored (first : Light Float) (cs : List Color) : Prop :=
  ∃ c ∈ cs, first.requested.same (c.toPoint first.triangle) = false

/-- What a light and its lamp are like after colours were shown, since the light was taken over and
its lamp was in the state `start`. -/
structure Painted (s : DeviceSettings) (first : Light Float) (start : LightReport Float)
    (cs : List Color) (l : Light Float) (lamp : LightReport Float) : Prop where
  id_eq : l.id = first.id
  gamut_eq : l.gamut = first.gamut
  power_kept : ¬Switched s first cs → l.power = first.power ∧ lamp.on = start.on
  power_sent : Switched s first cs → lamp.on = some l.power.isOn
  color_kept : ¬Recolored first cs →
    l.requested = first.requested ∧ lamp.xy = start.xy ∧ lamp.bri = start.bri
  color_sent : Recolored first cs → lamp.xy = some (l.requested.x, l.requested.y) ∧
    lamp.bri = some (s.dimming.commanded l.requested.brightness)
  /-- The light believes that the last colour is shown. -/
  latest : ∀ c, cs.getLast? = some c → l.power.isOn = first.shines s c ∧
    (l.requested = c.toPoint first.triangle ∨ l.requested.same (c.toPoint first.triangle))

section

variable {s : DeviceSettings} {first l : Light Float} {start lamp : LightReport Float}
  {cs : List Color}

theorem painted_nil : Painted s first start [] first start where
  id_eq := rfl
  gamut_eq := rfl
  power_kept _ := ⟨rfl, rfl⟩
  power_sent h := by simp [Switched] at h
  color_kept _ := ⟨rfl, rfl, rfl⟩
  color_sent h := by simp [Recolored] at h
  latest c h := by simp at h

theorem switched_concat {c : Color} : Switched s first (cs ++ [c]) ↔
    Switched s first cs ∨ first.shines s c ≠ first.power.isOn := by
  simp [Switched, or_and_right, exists_or]

theorem recolored_concat {c : Color} : Recolored first (cs ++ [c]) ↔
    Recolored first cs ∨ first.requested.same (c.toPoint first.triangle) = false := by
  simp [Recolored, or_and_right, exists_or]

theorem paint_fields (h : s.streaming = false) (hgamut : l.gamut = first.gamut) (c : Color) :
    (l.paint s c).1.gamut = first.gamut ∧
      (l.paint s c).1.power = .ofBool (first.shines s c) ∧
      (l.paint s c).1.requested = if l.requested.same (c.toPoint first.triangle) then l.requested
        else c.toPoint first.triangle := by
  have htriangle : l.triangle = first.triangle := congrArg Gamut.triangle hgamut
  rw [Light.paint_eq h, Light.shines, Light.shines, htriangle]
  exact ⟨hgamut, rfl, rfl⟩

theorem Painted.paint_power (h : s.streaming = false) (hp : Painted s first start cs l lamp)
    (c : Color) :
    (Switched s first (cs ++ [c]) →
      (replay lamp (l.paint s c).2).on = some (first.shines s c)) ∧
    (¬Switched s first (cs ++ [c]) →
      Power.ofBool (first.shines s c) = first.power ∧
        (replay lamp (l.paint s c).2).on = start.on) := by
  have hshines : l.shines s c = first.shines s c := by
    rw [Light.shines, Light.shines, Light.triangle, Light.triangle, hp.gamut_eq]
  rw [replay_paint_on c l lamp h, hshines, switched_concat]
  constructor
  · intro hswitched
    split
    · next hsame =>
      -- Nothing is sent, so it was sent before.
      have hbefore : Switched s first cs := by
        refine Classical.byContradiction fun hnot => ?_
        rw [(hp.power_kept hnot).1] at hsame
        exact hswitched.elim hnot fun hne => hne hsame.symm
      rw [hp.power_sent hbefore, hsame]
    · rfl
  · intro hnot
    obtain ⟨hbefore, hsame⟩ := not_or.1 hnot
    have hsame := Decidable.not_not.1 hsame
    obtain ⟨hpower, hon⟩ := hp.power_kept hbefore
    rw [hpower, if_pos hsame.symm, hsame]
    exact ⟨by cases first.power <;> rfl, hon⟩

theorem Painted.paint_color (h : s.streaming = false) (hp : Painted s first start cs l lamp)
    (c : Color) :
    let p : Point Float := c.toPoint first.triangle
    let q := if l.requested.same p then l.requested else p
    let after := replay lamp (l.paint s c).2
    (Recolored first (cs ++ [c]) →
      after.xy = some (q.x, q.y) ∧ after.bri = some (s.dimming.commanded q.brightness)) ∧
    (¬Recolored first (cs ++ [c]) →
      q = first.requested ∧ after.xy = start.xy ∧ after.bri = start.bri) := by
  intro p q after
  have hafter : (after.xy, after.bri) = if l.requested.same p then (lamp.xy, lamp.bri)
      else (some (p.x, p.y), some (s.dimming.commanded p.brightness)) := by
    have htriangle : l.triangle = first.triangle := congrArg Gamut.triangle hp.gamut_eq
    have hcolor := replay_paint_color c l lamp h
    rwa [htriangle] at hcolor
  rw [recolored_concat]
  constructor
  · intro hrecolored
    by_cases hsame : l.requested.same p = true
    · have hbefore : Recolored first cs := by
        refine Classical.byContradiction fun hnot => ?_
        rw [(hp.color_kept hnot).1] at hsame
        exact hrecolored.elim hnot fun hne => by rw [hne] at hsame; cases hsame
      obtain ⟨hxy, hbri⟩ := hp.color_sent hbefore
      rw [if_pos hsame, Prod.mk.injEq] at hafter
      rw [hafter.1, hafter.2, show q = l.requested from if_pos hsame]
      exact ⟨hxy, hbri⟩
    · rw [if_neg hsame, Prod.mk.injEq] at hafter
      rw [hafter.1, hafter.2, show q = p from if_neg hsame]
      exact ⟨rfl, rfl⟩
  · intro hnot
    obtain ⟨hbefore, hsame⟩ := not_or.1 hnot
    obtain ⟨hrequested, hxy, hbri⟩ := hp.color_kept hbefore
    have hsame : l.requested.same p = true := by
      rw [hrequested]
      exact eq_true_of_ne_false hsame
    rw [if_pos hsame, Prod.mk.injEq] at hafter
    rw [hafter.1, hafter.2, show q = l.requested from if_pos hsame]
    exact ⟨hrequested, hxy, hbri⟩

theorem Painted.paint (h : s.streaming = false) (hp : Painted s first start cs l lamp) (c : Color) :
    Painted s first start (cs ++ [c]) (l.paint s c).1 (replay lamp (l.paint s c).2) := by
  obtain ⟨hgamut, hpower, hrequested⟩ := paint_fields h hp.gamut_eq c
  obtain ⟨hsent, hkept⟩ := hp.paint_power h c
  obtain ⟨hcolored, hcolor⟩ := hp.paint_color h c
  constructor
  case id_eq => rw [Light.paint_id, hp.id_eq]
  case gamut_eq => exact hgamut
  case power_kept => rwa [hpower]
  case power_sent => rwa [hpower, Power.isOn_ofBool]
  case color_kept => rwa [hrequested]
  case color_sent => rwa [hrequested]
  case latest =>
    intro x hx
    rw [List.getLast?_concat, Option.some_inj] at hx
    subst hx
    rw [hpower, hrequested, Power.isOn_ofBool]
    refine ⟨rfl, ?_⟩
    split
    · next hsame => exact Or.inr hsame
    · exact Or.inl rfl

/-- After a colour was shown the lamp does what it asks, exactly if the lamp did from the start or a
command was sent since, for its power and for its colour. -/
theorem Painted.shows_iff {c : Color} (hp : Painted s first start cs l lamp)
    (hlast : cs.getLast? = some c) :
    Shows s first c lamp ↔
      (start.on = some (first.shines s c) ∨ Switched s first cs) ∧
        (first.shines s c = true →
          Holds s.dimming (c.toPoint first.triangle) start ∨ Recolored first cs) := by
  obtain ⟨hpower, hrequested⟩ := hp.latest c hlast
  have hon : lamp.on = some (first.shines s c) ↔
      start.on = some (first.shines s c) ∨ Switched s first cs := by
    by_cases h : Switched s first cs
    · simp [hp.power_sent h, hpower, h]
    · simp [(hp.power_kept h).2, h]
  have hcolor : Holds s.dimming (c.toPoint first.triangle) lamp ↔
      Holds s.dimming (c.toPoint first.triangle) start ∨ Recolored first cs := by
    by_cases h : Recolored first cs
    · refine iff_of_true ⟨l.requested, hrequested, (hp.color_sent h).1, ?_⟩ (Or.inr h)
      rw [(hp.color_sent h).2]
      rcases hrequested with heq | hsame
      · rw [heq]
      · have hsame := (Bool.and_eq_true_iff.1 hsame).2
        rw [commanded_of_same s.dimming hsame]
    · obtain ⟨-, hxy, hbri⟩ := hp.color_kept h
      simp [Holds, hxy, hbri, h]
  rw [Shows, hon, hcolor]

end

end LightBridge
