import LightBridge.Light.Held

/-! What a lamp is left with when its light is given back. Nothing that is asked of a light in
between touches the state it remembers, so the last command puts back every part that the entry
reported. It names the parts that the entry did not report too, once the light was on. -/

namespace LightBridge

variable {α : Type}

/-! ### Commands and lamps -/

namespace LightCommand

/-- Whether a command gives a light back. -/
def isRestore : LightCommand α → Bool
  | .restore _ => true
  | _ => false

/-- The parts of a lamp's state that a command names. -/
def named (c : LightCommand α) : LightReport α := c.apply {}

/-- A lamp keeps what a command does not name. -/
theorem apply_eq (lamp : LightReport α) (c : LightCommand α) :
    c.apply lamp =
      { on := c.named.on.or lamp.on
        xy := c.named.xy.or lamp.xy
        bri := c.named.bri.or lamp.bri
        transitionTime := c.named.transitionTime.or lamp.transitionTime } := by
  cases c with
  | restore state => cases state <;> rfl
  | _ => rfl

/-- The body of a command is the report of what it names. -/
theorem toDocument_named (c : LightCommand Float) : c.toDocument = c.named.toDocument := by
  cases c with
  | restore state => cases state <;> rfl
  | _ => rfl

/-- A command names a chromaticity or a brightness that was not reported. -/
def Invents (reported : LightReport α) (c : LightCommand α) : Prop :=
  c.named.xy.isSome ∧ reported.xy = none ∨ c.named.bri.isSome ∧ reported.bri = none

end LightCommand

theorem Held.filter_restoring (lights : List (Held α)) :
    (lights.map Held.restoring).filter (·.command.isRestore) = lights.map Held.restoring :=
  List.filter_eq_self.2 (List.forall_mem_map.2 fun _ _ => rfl)

/-! ### What is asked of a light -/

/-- What is asked of a light over the control channel. -/
inductive LightCall (α : Type)
  | setOn (on : Bool)
  | setTransitionTime (time : UInt16)
  | setColor (p : Point α) (d : Dimming α)

namespace Light

variable [Scalar α] {entry : LightEntry α} {on : Bool}

/-- What a light does about a call, with the commands it sends. -/
def answer (l : Light α) : LightCall α → Light α × List (LightCommand α)
  | .setOn on => l.setOn on
  | .setTransitionTime time => l.setTransitionTime time
  | .setColor p d => l.setColor p d false

/-- Calls one after the other, with all commands that they make the light send. -/
def answers (l : Light α) : List (LightCall α) → Light α × List (LightCommand α)
  | [] => (l, [])
  | call :: calls =>
    let (next, sent) := l.answer call
    let (last, rest) := next.answers calls
    (last, sent ++ rest)

/-- No call changes which lamp a light drives and what the light remembers of it. -/
theorem answer_kept (l : Light α) (call : LightCall α) :
    (l.answer call).1.id = l.id ∧ (l.answer call).1.found = l.found := by
  cases call with
  | setOn | setTransitionTime => exact ⟨rfl, rfl⟩
  | setColor p d =>
    rw [answer, setColor, if_neg Bool.false_ne_true, sendColor]
    split <;> exact ⟨rfl, rfl⟩

theorem answers_kept (l : Light α) (calls : List (LightCall α)) :
    (l.answers calls).1.id = l.id ∧ (l.answers calls).1.found = l.found := by
  induction calls generalizing l with
  | nil => exact ⟨rfl, rfl⟩
  | cons call calls ih =>
    obtain ⟨hid, hfound⟩ := ih (l.answer call).1
    obtain ⟨hid', hfound'⟩ := l.answer_kept call
    exact ⟨hid.trans hid', hfound.trans hfound'⟩

/-- The command that gives a light back names these parts of its lamp's state, whatever was asked of
the light. -/
theorem restoring_named (id : UInt16) (hreported : entry.state.on = some on)
    (calls : List (LightCall α)) :
    ((ofEntry id entry).answers calls).1.restoring.named =
      if on then
        { on := some true, xy := some (entry.state.xy.getD (0.0, 0.0))
          bri := some (entry.state.bri.getD 0) }
      else { on := some false } := by
  rw [restoring, ((ofEntry id entry).answers_kept calls).2, ofEntry, hreported]
  cases on <;> rfl

open LightCommand (replay Invents)

/-- After its light was given back, whatever was asked of the light before, a lamp is on or off as
it was reported, and one that was on has the colour and brightness that it was reported with. Those
that were not reported are given back as zero; exactly then the last command says more than the
entry. -/
theorem lamp_given_back (id : UInt16) (hreported : entry.state.on = some on)
    (calls : List (LightCall α)) :
    let after := (ofEntry id entry).answers calls
    let last := after.1.restoring
    let lamp := replay entry.state (after.2 ++ [last])
    lamp.on = entry.state.on ∧
      (on = true → ∀ xy, entry.state.xy = some xy → lamp.xy = some xy) ∧
      (on = true → ∀ bri, entry.state.bri = some bri → lamp.bri = some bri) ∧
      (on = true → entry.state.xy = none → lamp.xy = some (0.0, 0.0)) ∧
      (on = true → entry.state.bri = none → lamp.bri = some 0) ∧
      (last.Invents entry.state ↔
        on = true ∧ (entry.state.xy = none ∨ entry.state.bri = none)) := by
  intro after last lamp
  have hnamed := restoring_named id hreported calls
  have hlamp : lamp = last.apply (replay entry.state after.2) := List.foldl_append
  rw [LightCommand.apply_eq, hnamed] at hlamp
  rw [hlamp, LightCommand.Invents, hnamed, hreported]
  cases on with
  | false => simp
  | true => simp +contextual

/-- A lamp that was switched off and shown another colour is given back as it was reported. -/
theorem lamp_given_back_after_calls :
    let entry : LightEntry Float :=
      { state := { on := some true, xy := some (0.3, 0.4), bri := some 127 } }
    let calls : List (LightCall Float) :=
      [.setColor ⟨0.25, 0.5, 0.5⟩ ⟨1.0, 0.0, 1.0⟩, .setTransitionTime 4, .setOn false]
    let after := (ofEntry 7 entry).answers calls
    entry.state.on = some true ∧
      (replay entry.state after.2).on = some false ∧
      (replay entry.state (after.2 ++ [after.1.restoring])).on = some true ∧
      (replay entry.state (after.2 ++ [after.1.restoring])).xy = some (0.3, 0.4) ∧
      ¬after.1.restoring.Invents entry.state := by
  intro entry calls after
  have hreported : entry.state.on = some true := rfl
  have hoff : (replay entry.state after.2).on = some false := by
    simp only [after, calls, entry]
    decide +kernel
  obtain ⟨hon, hxy, -, -, -, hinvents⟩ := lamp_given_back 7 hreported calls
  exact ⟨hreported, hoff, hon, hxy rfl _ rfl, fun h => by simpa [entry] using (hinvents.1 h).2⟩

/-- A lamp without colours, of which none was reported, is given back with one. -/
theorem lamp_given_back_colored :
    let entry : LightEntry Float := { state := { on := some true, bri := some 200 } }
    let last := ((ofEntry 1 entry).answers []).1.restoring
    entry.state.on = some true ∧ last.Invents entry.state ∧
      last.toDocument =
        .object [("bri", .nat 200), ("on", .bool true), ("xy", .array [.real 0.0, .real 0.0])] :=
  ⟨rfl, Or.inl ⟨rfl, rfl⟩, rfl⟩

end Light

end LightBridge
