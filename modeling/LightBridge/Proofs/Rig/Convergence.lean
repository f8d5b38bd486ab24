import LightBridge.Proofs.Rig.Writing

/-! Whether lamps show what was last written to them over the control channel, if all commands are
carried out. A light learns from its entry what its lamp is like, and that need not be so: an entry
of a lamp that is off counts as black, and the lights that are replaced are given back only after
their entries were read. So a lamp shows what it was asked to if it did so after it was taken over,
or if its light had a reason to send a command since. -/

namespace LightBridge.Rig

open LightCommand (replay)

variable {known : Listing (LightEntry Float) → Prop}

/-- A light that was taken over is held, and it and its lamp are as the colours shown since have made
them. -/
def Follows (s : DeviceSettings) (index : Nat) (taken : Light Float) (start : LightReport Float)
    (shown : List (Nat × Color)) (notes : List Note) (r : Rig) : Prop :=
  ∃ h, r.lights[index]? = some h ∧ (r.lights.map (·.light.id)).Nodup ∧
    Painted s taken start (colorsAt index shown) h.light (replay start (commandsTo taken.id notes))

theorem id_ne_of_distinct {lights : List (Held Float)} {i j : Nat} {h x : Held Float}
    (hdistinct : (lights.map (·.light.id)).Nodup) (hh : lights[i]? = some h)
    (hx : lights[j]? = some x) (hne : i ≠ j) : h.light.id ≠ x.light.id := by
  intro heq
  have hlt : i < (lights.map (·.light.id)).length := by
    simpa using (List.getElem?_eq_some_iff.1 hh).1
  refine hne ((List.getElem?_inj hlt hdistinct).1 ?_)
  rw [List.getElem?_map, List.getElem?_map, hh, hx, Option.map_some, Option.map_some, heq]

section

variable {s : DeviceSettings} {index : Nat} {taken : Light Float} {start : LightReport Float}
  {r : Rig} {p : Progress} {shown new : List (Nat × Color)} {notes : List Note}

theorem Follows.paint {i : Nat} {c : Color} {y : Held Float} (hcontrol : s.streaming = false)
    (hr : Follows s index taken start shown notes r) (hsome : r.lights[i]? = some y)
    (hlights : p.1.lights = r.lights.set i { y with light := (y.light.paint s c).1 })
    (hnotes : p.2 = ((y.light.paint s c).2.map (Sent.mk y.number y.light.id)).map .commanded) :
    Follows s index taken start (shown ++ [(i, c)]) (notes ++ p.2) p.1 := by
  obtain ⟨x, hx, hdistinct, hpainted⟩ := hr
  have hids : (p.1.lights.map (·.light.id)).Nodup := by
    rwa [hlights, ids_set hsome (Light.paint_id _ _ _)]
  have hcommands : commandsTo taken.id (notes ++ p.2) = commandsTo taken.id notes ++
      if y.light.id = taken.id then (y.light.paint s c).2 else [] := by
    rw [commandsTo_append, hnotes, commandsTo_sent]
  rw [Follows, hcommands, colorsAt_append, colorsAt_one]
  by_cases hi : i = index
  · subst hi
    obtain rfl : x = y := Option.some_inj.1 (hx.symm.trans hsome)
    have hlt : i < r.lights.length := (List.getElem?_eq_some_iff.1 hx).1
    refine ⟨_, by rw [hlights, List.getElem?_set_self hlt], hids, ?_⟩
    rw [if_pos rfl, if_pos hpainted.id_eq, LightCommand.replay_append]
    exact hpainted.paint hcontrol c
  · refine ⟨x, by rwa [hlights, List.getElem?_set_ne hi], hids, ?_⟩
    have hne : y.light.id ≠ taken.id := by
      rw [← hpainted.id_eq]
      exact id_ne_of_distinct hdistinct hsome hx hi
    rwa [if_neg hi, if_neg hne, List.append_nil, List.append_nil]

theorem Follows.act (hcontrol : s.streaming = false) (hsettings : r.settings = s)
    (hr : Follows s index taken start shown notes r) (h : LightAct known r new p) :
    (∃ h, .tookOver h ∈ p.2) ∨ p.1.lights = [] ∨
      Follows s index taken start (shown ++ new) (notes ++ p.2) p.1 := by
  cases h with
  | apart hlights hnotes =>
    refine Or.inr (Or.inr ?_)
    rwa [Follows, hlights, List.append_nil, commandsTo_append, commandsTo_of_quiet hnotes,
      List.append_nil]
  | missed i c hnone hlights hnotes =>
    have hne : i ≠ index := by
      rintro rfl
      obtain ⟨x, hx, -⟩ := hr
      rw [hx] at hnone
      cases hnone
    refine Or.inr (Or.inr ?_)
    rwa [Follows, hlights, hnotes, List.append_nil, colorsAt_append, colorsAt_one, if_neg hne,
      List.append_nil]
  | painted i c hsome hlights hnotes =>
    rw [hsettings] at hlights hnotes
    exact Or.inr (Or.inr (hr.paint hcontrol hsome hlights hnotes))
  | exchanged hknown hnotes => exact (took_or_nil hnotes).imp_right Or.inl

end

/-- From where it was taken over to the end of a run, a light that is still held follows the colours
shown on it. -/
theorem painted_of_run {s : DeviceSettings} (hcontrol : s.streaming = false) {r : Rig}
    {moves : List Move} {p : Progress} {index : Nat} {h : Held Float}
    (hsettings : r.settings = s) (hsome : r.lights[index]? = some h) (hdistinct : r.lightIds.Nodup)
    (hrun : r.run moves = some p) (hlast : ∀ h, .tookOver h ∉ p.2) (hheld : p.1.lights ≠ [])
    (start : LightReport Float) :
    ∃ l, Painted s h.light start (colorsAt index (r.shown moves)) l
      (replay start (commandsTo h.light.id p.2)) := by
  have hbegin : Follows s index h.light start [] [] r := ⟨h, hsome, hdistinct, painted_nil⟩
  obtain ⟨x, -, -, hpainted⟩ := tracked_run
    (fun hact hsettings hr => hr.act hcontrol hsettings hact.lightAct) hsettings hbegin hrun hlast
    hheld
  exact ⟨x.light, hpainted⟩

/-- When a write has returned without an error, the lamp of a light shows its colour exactly if, for
its power and for its colour, the lamp did so when the light had been taken over for the last time,
or a colour since then differs from what the entry of the light reported. -/
theorem write_shows_iff {fresh r : Rig} {moves showing : List Move} {notes : List Note}
    {colors : List Color} {p : Progress} (hfresh : Fresh fresh)
    (hcontrol : fresh.settings.streaming = false) (hrun : fresh.run moves = some (r, notes))
    (hdistinct : r.lightIds.Nodup) (hshowing : ∀ m ∈ showing, m.isOwners = false)
    (hwrite : r.run (.call (.write colors) :: showing) = some p)
    (hreturned : .returned (.ok ()) ∈ p.2) :
    ∃ t : Taking fresh moves (r, notes), t.rig.lightIds = r.lightIds ∧
      ∀ index h, t.rig.lights[index]? = some h →
        (∃ inventory entry, Move.call (.handle (.inventoryReady inventory)) ∈ t.before ∧
          inventory.lights.lookup h.light.id = some entry ∧
          h.light = Light.ofEntry h.light.id entry) ∧
        ∃ c, colors[index]? = some c ∧ ∀ lamp : LightReport Float,
          let start := replay lamp (commandsTo h.light.id t.earlier)
          let cs := colorsAt index (t.rig.shown t.since) ++ [c]
          Shows fresh.settings h.light c (replay lamp (commandsTo h.light.id (notes ++ p.2))) ↔
            (start.on = some (h.light.shines fresh.settings c) ∨ Switched fresh.settings h.light cs) ∧
              (h.light.shines fresh.settings c = true →
                Holds fresh.settings.dimming (c.toPoint h.light.triangle) start ∨
                  Recolored h.light cs) := by
  have hheld : r.lights ≠ [] := (write_run hshowing hwrite hreturned).1
  obtain ⟨t⟩ := taking_of_held (by rw [hfresh.eq]) hrun hheld
  have hwritten := t.written hshowing hwrite hreturned
  have hids := hwritten.lightIds_eq
  refine ⟨t, hids, fun index h hsome => ⟨?_, ?_⟩⟩
  · exact t.described (by rw [hfresh.eq]) hsome
  obtain ⟨c, hc, hcolors⟩ := hwritten.colorsAt_eq hsome
  refine ⟨c, hc, fun lamp => ?_⟩
  have hsettings : t.rig.settings = fresh.settings := (run_does_anything t.run_before).settings_eq
  obtain ⟨l, hpainted⟩ := painted_of_run (p := (p.1, t.later ++ p.2)) hcontrol hsettings hsome
    (by rwa [hids]) hwritten.run_since hwritten.last hwritten.held
    (replay lamp (commandsTo h.light.id t.earlier))
  have hnotes : notes ++ p.2 = t.earlier ++ (t.later ++ p.2) :=
    (congrArg (· ++ p.2) t.notes_eq).trans (List.append_assoc _ _ _)
  rw [hnotes, commandsTo_append, LightCommand.replay_append]
  rw [hcolors] at hpainted
  exact hpainted.shows_iff (by simp)

def plainBridge : Bridge := { endpoint := { host := "bridge", username := "user" } }

/-- The lights of an inventory are taken over. -/
def taking (on : Bool) : List Move :=
  [.call (.handle (.inventoryReady { lights := [(1, lampEntry on)] }))]

/-- Black is written to a lamp that shines; a command is delivered meanwhile. -/
theorem write_shows_iff_of_shining :
    let settings : DeviceSettings := { lightIds := [1] }
    let showing : List Move := [.proceed, .bridge (.deliver 0 (.answered 200 "")), .proceed]
    ∃ fresh r notes p, Fresh fresh ∧
      fresh.run (taking true) = some (r, notes) ∧ r.lightIds = [1] ∧
      (∀ m ∈ showing, m.isOwners = false) ∧
      r.run (.call (.write [.black]) :: showing) = some p ∧ .returned (.ok ()) ∈ p.2 ∧
      ∃ t : Taking fresh (taking true) (r, notes), t.rig.lightIds = [1] ∧
        ∀ (index : Nat) (h : Held Float), t.rig.lights[index]? = some h →
          ∃ c, [Color.black][index]? = some c ∧ ∀ lamp : LightReport Float,
            let start := replay lamp (commandsTo h.light.id t.earlier)
            let cs := colorsAt index (t.rig.shown t.since) ++ [c]
            Shows settings h.light c (replay lamp (commandsTo h.light.id (notes ++ p.2))) ↔
              (start.on = some (h.light.shines settings c) ∨ Switched settings h.light cs) ∧
                (h.light.shines settings c = true →
                  Holds settings.dimming (c.toPoint h.light.triangle) start ∨
                    Recolored h.light cs) := by
  intro settings showing
  let fresh : Rig := { bridge := plainBridge, settings, canStream := true }
  have hfresh : Fresh fresh := .withTransport plainBridge settings
  have hshowing : ∀ m ∈ showing, m.isOwners = false := by simp [showing, Move.isOwners]
  have hwrite : ((fresh.run (taking true)).any fun q => q.1.lightIds = [1] &&
      (q.1.run (.call (.write [.black]) :: showing)).any fun p => p.2.any Note.isSuccess) = true := by
    decide +kernel
  obtain ⟨⟨r, notes⟩, hrun, hwrite⟩ := (Option.any_eq_true _ _).1 hwrite
  obtain ⟨hids, hwrite⟩ := Bool.and_eq_true_iff.1 hwrite
  obtain ⟨p, hwrite, hreturned⟩ := (Option.any_eq_true _ _).1 hwrite
  have hids : r.lightIds = [1] := of_decide_eq_true hids
  have hreturned : .returned (.ok ()) ∈ p.2 := returned_of_any hreturned
  obtain ⟨t, hsame, hall⟩ := write_shows_iff hfresh rfl hrun (by rw [hids]; decide) hshowing hwrite
    hreturned
  exact ⟨fresh, r, notes, p, hfresh, hrun, hids, hshowing, hwrite, hreturned, t, hsame.trans hids,
    fun index h hsome => (hall index h hsome).2⟩

/-- A lamp that is off keeps a colour. When black is to be shown and lamps are not switched off for
it, it is switched on in that colour: its light was taken over as if black had been asked for
already. -/
theorem black_shines_in_old_color :
    let settings : DeviceSettings := { lightIds := [1], switchOffOnBlack := false }
    ∃ fresh p, forBridge plainBridge settings = .ok fresh ∧
      fresh.run (taking false ++ [.call (.write [.black]), .proceed, .proceed]) = some p ∧
      .returned (.ok ()) ∈ p.2 ∧
      ¬Shows settings (.ofEntry 1 (lampEntry false)) .black
        (replay (lampEntry false).state (commandsTo 1 p.2)) := by
  intro settings
  let fresh : Rig := { bridge := plainBridge, settings, canStream := false }
  let light : Light Float := .ofEntry 1 (lampEntry false)
  have hfresh : forBridge plainBridge settings = .ok fresh := rfl
  have hrun : ((fresh.run (taking false ++ [.call (.write [.black]), .proceed, .proceed])).any
      fun p => p.2.any Note.isSuccess &&
        (replay (lampEntry false).state (commandsTo 1 p.2)).bri = some 200) = true := by
    decide +kernel
  obtain ⟨p, hrun, hp⟩ := (Option.any_eq_true _ _).1 hrun
  obtain ⟨hreturned, hbri⟩ := Bool.and_eq_true_iff.1 hp
  refine ⟨fresh, p, hfresh, hrun, returned_of_any hreturned, fun hshows => ?_⟩
  have hshines : light.shines settings .black = true := by decide +kernel
  have hleast : settings.dimming.commanded
      (Color.black.toPoint light.triangle : Point Float).brightness = 1 := by decide +kernel
  obtain ⟨q, -, -, hheld⟩ := hshows.2 hshines
  rw [hleast, of_decide_eq_true hbri] at hheld
  cases hheld

end LightBridge.Rig
