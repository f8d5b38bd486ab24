import LightBridge.Proofs.Light.Streaming
import LightBridge.Proofs.Rig.Performing
import LightBridge.Proofs.Rig.Writing

/-! A write as what it does to each light by itself. A write that is refused does nothing. One that
is not shows one colour on each light, in order, whatever else goes on meanwhile; what becomes of a
light depends on that light and its colour alone, and asking for the same once more comes to
nothing. -/

namespace LightBridge

/-! ### One light -/

/-- Whether a component of a point is not a number. -/
def Point.isNaN (p : Point Float) : Bool :=
  Scalar.isNaN p.x || Scalar.isNaN p.y || Scalar.isNaN p.brightness

theorem Point.same_self {p : Point Float} (h : p.isNaN = false) : p.same p = true := by
  simpa [Point.isNaN, Point.same, Scalar.isNaN, and_assoc] using h

/-- At most one command for the power, then at most one for the transition time, then at most one
for the colour. -/
def LightCommand.InOrder (commands : List (LightCommand Float)) : Prop :=
  ∃ (on : Option Bool) (time : Option UInt16) (color : Option (Float × Float × UInt8)),
    commands = (on.map .power).toList ++ (time.map .transition).toList ++
      (color.map fun c => .color c.1 c.2.1 c.2.2).toList

namespace Light

variable {s : DeviceSettings} {c : Color} {l : Light Float}

theorem paint_inOrder (s : DeviceSettings) (c : Color) (l : Light Float) :
    LightCommand.InOrder (l.paint s c).2 := by
  cases h : s.streaming with
  | true =>
    rw [paint_streaming h]
    exact ⟨none, none, none, rfl⟩
  | false =>
    rw [paint_eq h]
    let p : Point Float := c.toPoint l.triangle
    refine ⟨if l.power = .ofBool (l.shines s c) then none else some (l.shines s c),
      if l.transitionTime = s.transitionTime then none else some s.transitionTime,
      if l.requested.same p then none else some (p.x, p.y, s.dimming.commanded p.brightness), ?_⟩
    split <;> split <;> split <;> rfl

theorem paint_triangle (s : DeviceSettings) (c : Color) (l : Light Float) :
    (l.paint s c).1.triangle = l.triangle := by
  cases h : s.streaming with
  | true => rw [paint_streaming h, keepColor_eq]; rfl
  | false => rw [paint_eq h]; rfl

/-- A light believes the colour that was shown on it last. -/
theorem requested_paint (s : DeviceSettings)
    (hnumber : (c.toPoint l.triangle : Point Float).isNaN = false) :
    (l.paint s c).1.requested.same (c.toPoint l.triangle) := by
  cases h : s.streaming with
  | true =>
    rw [paint_streaming h, keepColor_eq]
    dsimp only
    split
    · assumption
    · exact Point.same_self hnumber
  | false =>
    rw [paint_eq h]
    dsimp only
    split
    · assumption
    · exact Point.same_self hnumber

/-- A light that believes all of what it is to show does nothing. -/
theorem paint_settled (hrequested : l.requested.same (c.toPoint l.triangle))
    (hcontrol : s.streaming = false →
      l.power = .ofBool (l.shines s c) ∧ l.transitionTime = s.transitionTime) :
    l.paint s c = (l, []) := by
  cases h : s.streaming with
  | true => rw [paint_streaming h, keepColor, if_pos hrequested]
  | false =>
    obtain ⟨hpower, htime⟩ := hcontrol h
    rw [paint_eq h]
    simp only [if_pos hrequested, ← hpower, ← htime, if_true, List.append_nil]

/-- A colour that was shown once need not be shown again. -/
theorem paint_again (s : DeviceSettings)
    (hnumber : (c.toPoint l.triangle : Point Float).isNaN = false) :
    (l.paint s c).1.paint s c = ((l.paint s c).1, []) := by
  have htriangle := paint_triangle s c l
  refine paint_settled ?_ fun hcontrol => ?_
  · rw [htriangle]
    exact requested_paint s hnumber
  · have hshines : (l.paint s c).1.shines s c = l.shines s c := by rw [shines, shines, htriangle]
    rw [hshines, paint_eq hcontrol]
    exact ⟨rfl, rfl⟩

end Light

namespace Rig

variable {r : Rig} {p : Progress}

/-! ### Painting -/

/-- What showing colours does to lights, each by itself: the light afterwards, and what it sends. -/
def paintEach (s : DeviceSettings) (lights : List (Held Float)) (colors : List Color) :
    List (Light Float × List (LightCommand Float)) :=
  List.zipWith (fun h c => h.light.paint s c) lights colors

/-- The lights as they are afterwards. -/
def lightsAfter (lights : List (Held Float))
    (done : List (Light Float × List (LightCommand Float))) : List (Held Float) :=
  List.zipWith (fun h x => { h with light := x.1 }) lights done

/-- The commands they send, one light after the other. -/
def sentBy (lights : List (Held Float))
    (done : List (Light Float × List (LightCommand Float))) : List (Sent Float) :=
  (List.zipWith (fun h x => x.2.map (Sent.mk h.number h.light.id)) lights done).flatten

/-- A device that shows colours goes on by itself. -/
theorem painting_goes_on {j : Nat} {cs : List Color} {moves : List Move} (t : Resuming r moves p)
    (hmove : t.move = .proceed ∨ ∃ reply, t.move = .replied reply)
    (htask : r.task = .painting j cs) : t.moment.1.step .proceed = some t.next :=
  t.proceeds hmove fun s hnow reply => by simp [step, replied, hnow, htask]

/-- A colour is shown on the light whose turn it is. -/
theorem painting_proceed {j : Nat} {c : Color} {rest : List Color} {before left : List (Held Float)}
    {h : Held Float} (htask : r.task = .painting j (c :: rest))
    (hlights : r.lights = before ++ h :: left) (hbefore : before.length = j)
    (hstep : r.step .proceed = some p) :
    p.1.task = .painting (j + 1) rest ∧ p.1.present = r.present ∧ p.1.settings = r.settings ∧
      p.1.lights = before ++ [{ h with light := (h.light.paint r.settings c).1 }] ++ left ∧
      p.2 = ((h.light.paint r.settings c).2.map (Sent.mk h.number h.light.id)).map .commanded := by
  obtain rfl : { r with task := .painting (j + 1) rest }.paint j c = p := by
    simpa [step, proceed, htask] using hstep
  have hsome : { r with task := .painting (j + 1) rest }.lights[j]? = some h := by
    simp [hlights, ← hbefore]
  obtain ⟨hpainted, hsent⟩ := paint_some c hsome
  refine ⟨rfl, rfl, rfl, hpainted.trans ?_, hsent⟩
  simp [hlights, ← hbefore]

/-- What is left to be shown is shown on the lights that are left. -/
theorem painting_shows {j : Nat} {cs : List Color} {moves : List Move}
    {result : Except Fault Unit} {before left : List (Held Float)}
    (htask : r.task = .painting j cs) (hpresent : r.present = true)
    (hmoves : ∀ m ∈ moves, m.isOwners = false) (hrun : r.run moves = some p)
    (hreturned : .returned result ∈ p.2) (hlights : r.lights = before ++ left)
    (hbefore : before.length = j) (hleft : left.length = cs.length) :
    result = .ok () ∧ p.1.settings = r.settings ∧
      p.1.lights = before ++ lightsAfter left (paintEach r.settings left cs) ∧
      commands p.2 = sentBy left (paintEach r.settings left cs) := by
  induction cs generalizing r p j before left moves with
  | nil =>
    obtain ⟨t, hmove, hafter, hlate⟩ := resuming_of_returned hpresent hmoves hrun hreturned
    have hfinish : t.moment.1.finish (.ok ()) = t.next := by
      have hnow := t.beside.task_eq.trans htask
      simpa [step, proceed, hnow] using painting_goes_on t hmove htask
    obtain rfl := List.length_eq_zero_iff.1 hleft
    have hrun' := t.run_after
    rw [← hfinish] at hrun' hlate
    obtain ⟨hresult, hlater⟩ :=
      finished_run (t.beside.present_eq.trans hpresent) hafter hrun' hlate
    refine ⟨hresult, hlater.settings_eq.trans t.beside.settings_eq, ?_, ?_⟩
    · rw [hlater.lights_eq]
      exact t.beside.lights_eq.trans hlights
    · rw [t.notes_eq, ← hfinish, commands_append, commands_of_quiet t.beside.quiet, commands_append,
        commands_of_quiet hlater.quiet]
      rfl
  | cons c rest ih =>
    obtain ⟨t, hmove, hafter, hlate⟩ := resuming_of_returned hpresent hmoves hrun hreturned
    cases left with
    | nil => cases hleft
    | cons h left =>
      obtain ⟨hqtask, hqpresent, hqsettings, hqlights, hqnotes⟩ :=
        painting_proceed (t.beside.task_eq.trans htask) (t.beside.lights_eq.trans hlights) hbefore
          (painting_goes_on t hmove htask)
      have hmore : .returned result ∈ t.later := by
        rw [hqnotes] at hlate
        exact (List.mem_append.1 hlate).resolve_left (by simp)
      have hsettings := hqsettings.trans t.beside.settings_eq
      obtain ⟨hresult, hsame, hlast, hsent⟩ :=
        ih (p := (p.1, t.later)) hqtask (hqpresent.trans (t.beside.present_eq.trans hpresent))
          hafter t.run_after hmore hqlights (by rw [List.length_append, hbefore]; rfl)
          (Nat.succ.inj hleft)
      rw [hsettings] at hsame hlast hsent
      rw [t.beside.settings_eq] at hqnotes hlast
      refine ⟨hresult, hsame, ?_, ?_⟩
      · rw [hlast, List.append_assoc]
        rfl
      · rw [t.notes_eq, hqnotes, commands_append, commands_of_quiet t.beside.quiet, commands_append,
          commands_commanded, hsent]
        rfl

/-! ### A write -/

/-- No light was changed, and no command sent. -/
def Unchanged (r : Rig) (p : Progress) : Prop := p.1.lights = r.lights ∧ commands p.2 = []

/-- Each light was changed and sent commands by itself, the lights in order. -/
def Divided (r : Rig) (done : List (Light Float × List (LightCommand Float))) (p : Progress) :
    Prop :=
  p.1.lights = lightsAfter r.lights done ∧ commands p.2 = sentBy r.lights done

section

variable {colors : List Color} {result : Except Fault Unit}

/-- A write that ended at once did nothing. -/
theorem refused_run {res : Except Fault Unit} {moves : List Move} {notes : List Note}
    (hpresent : r.present = true) (hmoves : ∀ m ∈ moves, m.isOwners = false)
    (hrun : (r.finish res).1.run moves = some (p.1, notes))
    (hnotes : p.2 = (r.finish res).2 ++ notes) (hreturned : .returned result ∈ p.2) :
    result = res ∧ Unchanged r p := by
  rw [hnotes] at hreturned
  obtain ⟨hresult, hlater⟩ := finished_run hpresent hmoves hrun hreturned
  refine ⟨hresult, hlater.lights_eq, ?_⟩
  rw [hnotes, commands_append, commands_of_quiet hlater.quiet]
  rfl

/-- The colours that are left over do not matter. -/
theorem paintEach_take (s : DeviceSettings) (lights : List (Held Float)) (colors : List Color) :
    paintEach s lights (colors.take lights.length) = paintEach s lights colors := by
  have htake : (paintEach s lights colors).take lights.length =
      paintEach s (lights.take lights.length) (colors.take lights.length) := List.take_zipWith
  rw [List.take_length, List.take_of_length_le (by simp [paintEach])] at htake
  exact htake.symm

/-- What can come of a write. -/
inductive WriteCase (r : Rig) (colors : List Color) : Except Fault Unit → Progress → Prop
  | notReady {p : Progress} (hready : r.isReady = false) (h : Unchanged r p) :
    WriteCase r colors (.error .notReady) p
  | tooFew {p : Progress} (hready : r.isReady = true) (hfew : colors.length < r.lights.length)
    (h : Unchanged r p) :
    WriteCase r colors (.error (.tooFewColors r.lights.length colors.length)) p
  | accepted {p : Progress} (hready : r.isReady = true) (henough : r.lights.length ≤ colors.length)
    (hsettings : p.1.settings = r.settings)
    (h : Divided r (paintEach r.settings r.lights colors) p) : WriteCase r colors (.ok ()) p

theorem writeCase_of_performed (h : Performed r (.write colors) result p) :
    WriteCase r colors result p := by
  obtain ⟨during, hduring, hrun, hreturned⟩ := h
  obtain ⟨q, more, hstep, hmore, hnotes⟩ := run_cons.1 hrun
  obtain ⟨-, hpresent, rfl⟩ := step_call hstep
  simp only [call, write] at hmore hnotes
  cases hready : r.isReady with
  | false =>
    simp only [hready, Bool.not_false, if_true] at hmore hnotes
    obtain ⟨rfl, hsame⟩ := refused_run hpresent hduring hmore hnotes hreturned
    exact .notReady hready hsame
  | true =>
    simp only [hready, Bool.not_true, Bool.false_eq_true, if_false] at hmore hnotes
    by_cases hfew : colors.length < r.lights.length
    · rw [if_pos hfew] at hmore hnotes
      obtain ⟨rfl, hsame⟩ := refused_run hpresent hduring hmore hnotes hreturned
      exact .tooFew hready hfew hsame
    · rw [if_neg hfew] at hmore hnotes
      have henough := Nat.le_of_not_lt hfew
      rw [List.nil_append] at hnotes
      rw [hnotes] at hreturned
      obtain ⟨rfl, hsettings, hlights, hsent⟩ :=
        painting_shows (r := { r with task := .painting 0 (colors.take r.lights.length) })
          (p := (p.1, more)) rfl hpresent hduring hmore hreturned
          (show r.lights = [] ++ r.lights from rfl) rfl (by simp [henough])
      rw [paintEach_take] at hlights hsent
      exact .accepted hready henough hsettings ⟨hlights, by rw [hnotes]; exact hsent⟩

/-- Lights that were shown a colour each have nothing to do for the same colours. -/
theorem paintEach_again {s : DeviceSettings} {lights : List (Held Float)} {more : List Color}
    (henough : lights.length ≤ colors.length)
    (hsame : more.take lights.length = colors.take lights.length)
    (hnumber : ∀ x ∈ lights.zip colors,
      (x.2.toPoint x.1.light.triangle : Point Float).isNaN = false) :
    paintEach s (lightsAfter lights (paintEach s lights colors)) more =
      (lightsAfter lights (paintEach s lights colors)).map fun h => (h.light, []) := by
  induction lights generalizing colors more with
  | nil => rfl
  | cons h lights ih =>
    cases colors with
    | nil => cases henough
    | cons c colors =>
      cases more with
      | nil => cases hsame
      | cons d more =>
        obtain ⟨rfl, hrest⟩ := List.cons.inj hsame
        obtain ⟨hfirst, hnumber⟩ := List.forall_mem_cons.1 hnumber
        have hlater := ih (Nat.le_of_succ_le_succ henough) hrest hnumber
        simp only [paintEach, lightsAfter, List.zipWith_cons_cons, List.map_cons] at hlater ⊢
        rw [hlater, Light.paint_again s hfirst]

theorem divided_nothing {lights : List (Held Float)} :
    lightsAfter lights (lights.map fun h => (h.light, [])) = lights ∧
      sentBy lights (lights.map fun h => (h.light, [])) = [] := by
  induction lights with
  | nil => exact ⟨rfl, rfl⟩
  | cons h lights ih =>
    obtain ⟨hlights, hsent⟩ := ih
    simp only [lightsAfter, sentBy, List.map_cons, List.zipWith_cons_cons, List.flatten_cons,
      List.map_nil, List.nil_append] at hlights hsent ⊢
    exact ⟨by rw [hlights], hsent⟩

/-- Colours that were just written change nothing when they are written once more. -/
theorem write_again {more : List Color} {result' : Except Fault Unit} {q : Progress}
    (h : Performed r (.write colors) (.ok ()) p)
    (hsame : more.take r.lights.length = colors.take r.lights.length)
    (hnumber : ∀ x ∈ r.lights.zip colors,
      (x.2.toPoint x.1.light.triangle : Point Float).isNaN = false)
    (h' : Performed p.1 (.write more) result' q) : Unchanged p.1 q := by
  cases writeCase_of_performed h with
  | accepted hready henough hsettings h =>
    cases writeCase_of_performed h' with
    | notReady hready h' => exact h'
    | tooFew hready hfew h' => exact h'
    | accepted hready' henough' hsettings' h' =>
      obtain ⟨hlights, hsent⟩ := h'
      rw [hsettings, h.1, paintEach_again henough hsame hnumber] at hlights hsent
      rw [divided_nothing.1] at hlights
      rw [divided_nothing.2] at hsent
      exact ⟨hlights.trans h.1.symm, hsent⟩

/-- Whatever is written, the write can return. -/
theorem write_returns (colors : List Color) (hidle : r.task = .idle) (hpresent : r.present = true) :
    ∃ result p, Performed r (.write colors) result p := by
  refine performed_of_ends hidle hpresent ?_
  simp only [call, write]
  split
  · exact ends_finish _ _
  · split
    · exact ends_finish _ _
    · exact Or.inr (painting_finishes rfl)

/-- What becomes of one light among those that were shown colours. -/
theorem divided_at {s : DeviceSettings} {i : Nat} {h : Held Float} {c : Color}
    (hd : Divided r (paintEach s r.lights colors) p) (hlight : r.lights[i]? = some h)
    (hcolor : colors[i]? = some c) :
    (paintEach s r.lights colors)[i]? = some (h.light.paint s c) ∧
      p.1.lights[i]? = some { h with light := (h.light.paint s c).1 } := by
  have hpainted : (paintEach s r.lights colors)[i]? = some (h.light.paint s c) := by
    simp [paintEach, List.getElem?_zipWith, hlight, hcolor]
  refine ⟨hpainted, ?_⟩
  rw [hd.1, lightsAfter, List.getElem?_zipWith, hlight, hpainted]

theorem paintEach_inOrder {s : DeviceSettings} {lights : List (Held Float)} :
    ∀ x ∈ paintEach s lights colors, LightCommand.InOrder x.2 := by
  intro x hx
  obtain ⟨i, hi⟩ := List.mem_iff_getElem?.1 hx
  obtain ⟨h, c, -, -, rfl⟩ := List.getElem?_zipWith_eq_some.1 hi
  exact Light.paint_inOrder s c h.light

theorem sentBy_streaming {s : DeviceSettings} (hstreaming : s.streaming = true)
    (lights : List (Held Float)) : sentBy lights (paintEach s lights colors) = [] := by
  refine List.flatten_eq_nil_iff.2 fun sent hsent => ?_
  obtain ⟨i, hi⟩ := List.mem_iff_getElem?.1 hsent
  obtain ⟨h, x, -, hx, rfl⟩ := List.getElem?_zipWith_eq_some.1 hi
  obtain ⟨h', c, -, -, rfl⟩ := List.getElem?_zipWith_eq_some.1 hx
  rw [Light.paint_streaming hstreaming]
  rfl

/-- What a write comes to. -/
structure WriteLocal (r : Rig) (colors : List Color) (result : Except Fault Unit) (p : Progress) :
    Prop where
  notReady_iff : result = .error .notReady ↔ r.isReady = false
  tooFew_iff : result = .error (.tooFewColors r.lights.length colors.length) ↔
    r.isReady = true ∧ colors.length < r.lights.length
  ok_iff : result = .ok () ↔ r.isReady = true ∧ r.lights.length ≤ colors.length
  unchanged : result ≠ .ok () → Unchanged r p
  silent : r.settings.streaming = true → commands p.2 = []
  /-- The commands come in the order of the lights. -/
  divided : result = .ok () → Divided r (paintEach r.settings r.lights colors) p
  inOrder : ∀ x ∈ paintEach r.settings r.lights colors, LightCommand.InOrder x.2
  /-- Two writes do the same to a light if they agree on it, on its colour and on the settings. -/
  alone : result = .ok () → ∀ (r' : Rig) (colors' : List Color) (p' : Progress),
    Performed r' (.write colors') (.ok ()) p' → r'.settings = r.settings →
    ∀ (i : Nat) (h h' : Held Float), r.lights[i]? = some h → r'.lights[i]? = some h' →
      h.light = h'.light → colors[i]? = colors'[i]? →
      ∃ x : Light Float × List (LightCommand Float),
        (paintEach r.settings r.lights colors)[i]? = some x ∧
        (paintEach r'.settings r'.lights colors')[i]? = some x ∧
        p.1.lights[i]? = some { h with light := x.1 } ∧
        p'.1.lights[i]? = some { h' with light := x.1 }
  /-- Writing the same colours once more does nothing, unless one is mapped to what is no number. -/
  again : result = .ok () →
    (∀ x ∈ r.lights.zip colors, (x.2.toPoint x.1.light.triangle : Point Float).isNaN = false) →
    ∀ more result' q, more.take r.lights.length = colors.take r.lights.length →
      Performed p.1 (.write more) result' q → Unchanged p.1 q

/-- A write that is refused does nothing, one that is not works on each light by itself, and its
repetition has nothing to do. -/
theorem write_local (r : Rig) (colors : List Color) :
    (r.task = .idle → r.present = true → ∃ result p, Performed r (.write colors) result p) ∧
      ∀ result p, Performed r (.write colors) result p → WriteLocal r colors result p := by
  refine ⟨fun hidle hpresent => write_returns colors hidle hpresent, fun result p h => ?_⟩
  have hcases := writeCase_of_performed h
  constructor
  case notReady_iff => cases hcases <;> simp [*]
  case tooFew_iff =>
    cases hcases with
    | notReady hready => simp [hready]
    | tooFew hready hfew => simp [hready, hfew]
    | accepted hready henough => simp [Nat.not_lt.2 henough]
  case ok_iff =>
    cases hcases with
    | notReady hready => simp [hready]
    | tooFew hready hfew => simp [Nat.not_le.2 hfew]
    | accepted hready henough => simp [hready, henough]
  case unchanged =>
    intro hrefused
    cases hcases with
    | notReady _ hsame | tooFew _ _ hsame => exact hsame
    | accepted => exact absurd rfl hrefused
  case silent =>
    intro hstreaming
    cases hcases with
    | notReady _ hsame | tooFew _ _ hsame => exact hsame.2
    | accepted _ _ _ hd => exact hd.2.trans (sentBy_streaming hstreaming r.lights)
  case divided =>
    rintro rfl
    cases hcases with
    | accepted _ _ _ hd => exact hd
  case inOrder => exact paintEach_inOrder
  case alone =>
    rintro rfl r' colors' p' h' hsettings i x x' hx hx' hlight hcolor
    cases hcases with
    | accepted _ henough _ hd =>
      cases writeCase_of_performed h' with
      | accepted _ _ _ hd' =>
        have hlt : i < colors.length := (List.getElem?_eq_some_iff.1 hx).1.trans_le henough
        have hc : colors[i]? = some colors[i] := List.getElem?_eq_getElem hlt
        obtain ⟨hpainted, hafter⟩ := divided_at hd hx hc
        obtain ⟨hpainted', hafter'⟩ := divided_at hd' hx' (hcolor.symm.trans hc)
        rw [hsettings, ← hlight] at hpainted' hafter'
        rw [hsettings]
        exact ⟨_, hpainted, hpainted', hafter, hafter'⟩
  case again =>
    rintro rfl hnumber more result' q hsame h'
    exact write_again h hsame hnumber h'

/-- Black is written twice to a lamp that shines and one that is off. -/
theorem write_local_black :
    let r : Rig :=
      { bridge := { endpoint := { host := "bridge", username := "user" } }
        settings := {}
        canStream := false
        lights := Held.numbered 0 [.ofEntry 1 (lampEntry true), .ofEntry 2 (lampEntry false)]
        ready := true }
    (r.task = .idle ∧ r.present = true) ∧
      ∃ p, Performed r (.write [.black, .black]) (.ok ()) p ∧
        (commands p.2).map (·.id) = [1, 1, 1, 2] ∧
        ∀ result q, Performed p.1 (.write [.black, .black]) result q → Unchanged p.1 q := by
  intro r
  obtain ⟨hreturns, hlocal⟩ := write_local r [.black, .black]
  obtain ⟨result, p, h⟩ := hreturns rfl rfl
  have hp := hlocal result p h
  have hok : result = .ok () := hp.ok_iff.2 ⟨rfl, by decide⟩
  have hnumber : ∀ x ∈ r.lights.zip [Color.black, .black],
      (x.2.toPoint x.1.light.triangle : Point Float).isNaN = false := by
    decide +kernel
  have hsent : (sentBy r.lights (paintEach r.settings r.lights [.black, .black])).map (·.id) =
      [1, 1, 1, 2] := by
    decide +kernel
  subst hok
  refine ⟨⟨rfl, rfl⟩, p, h, ?_, fun result q => hp.again rfl hnumber _ result q rfl⟩
  rw [(hp.divided rfl).2, hsent]

end

end Rig

end LightBridge
