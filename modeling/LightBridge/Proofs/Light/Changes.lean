import LightBridge.Proofs.Doubles
import LightBridge.Proofs.Light.GivingBack
import Mathlib.Data.List.ReduceOption

/-! A light sends what changes and nothing else. Each call is compared with the last one of its kind,
or with the state that the light was created in before there is any; for a colour it does not matter
that the light remembers the last one that was different, since what is the same as one of two doubles
that are the same is the same as the other. Calls of different kinds do not see each other. -/

namespace LightBridge

/-- What a command or a call is about. -/
inductive LightCommand.Kind
  | power
  | transition
  | color
deriving DecidableEq

variable {α : Type}

/-- Giving a light back is of no kind. -/
def LightCommand.kind? : LightCommand α → Option Kind
  | power _ => some .power
  | transition _ => some .transition
  | color _ _ _ => some .color
  | restore _ => none

namespace LightCall

def kind : LightCall α → LightCommand.Kind
  | setOn _ => .power
  | setTransitionTime _ => .transition
  | setColor _ _ => .color

def on? : LightCall α → Option Bool
  | setOn on => some on
  | _ => none

def time? : LightCall α → Option UInt16
  | setTransitionTime time => some time
  | _ => none

def point? : LightCall α → Option (Point α)
  | setColor p _ => some p
  | _ => none

end LightCall

theorem Scalar.Alike.same_left {a b : Float} (h : Alike a b) (x : Float) : same a x = same b x := by
  rw [same_eq, same_eq, h.compare_eq]

/-- Two points that are the same are the same as the same points. -/
theorem Point.same_congr {p q : Point Float} (h : p.same q = true) (r : Point Float) :
    p.same r = q.same r := by
  simp only [same, Bool.and_eq_true] at h
  obtain ⟨⟨hx, hy⟩, hbrightness⟩ := h
  rw [same, same, (Scalar.alike_of_same hx).same_left, (Scalar.alike_of_same hy).same_left,
    (Scalar.alike_of_same hbrightness).same_left]

/-- What the last entry that matters says. -/
theorem getLastD_filterMap_concat {β γ : Type} (f : β → Option γ) (l : List β) (x : β) (d : γ) :
    ((l ++ [x]).filterMap f).getLastD d = (f x).getD ((l.filterMap f).getLastD d) := by
  rw [List.filterMap_append]
  cases hx : f x with
  | none => simp [hx]
  | some y => simp [hx]

namespace Light

/-! ### Each call and the last one of its kind -/

/-- What was asked for last, or else what the light was created with. -/
def lastOn (found : Light α) (calls : List (LightCall α)) : Bool :=
  (calls.filterMap LightCall.on?).getLastD found.power.isOn

def lastTime (found : Light α) (calls : List (LightCall α)) : UInt16 :=
  (calls.filterMap LightCall.time?).getLastD found.transitionTime

def lastPoint (found : Light α) (calls : List (LightCall α)) : Point α :=
  (calls.filterMap LightCall.point?).getLastD found.color

section

variable (found : Light α) (calls : List (LightCall α)) (call : LightCall α)

theorem lastOn_concat : found.lastOn (calls ++ [call]) = call.on?.getD (found.lastOn calls) :=
  getLastD_filterMap_concat _ _ _ _

theorem lastTime_concat :
    found.lastTime (calls ++ [call]) = call.time?.getD (found.lastTime calls) :=
  getLastD_filterMap_concat _ _ _ _

theorem lastPoint_concat :
    found.lastPoint (calls ++ [call]) = call.point?.getD (found.lastPoint calls) :=
  getLastD_filterMap_concat _ _ _ _

end

/-- The command that a call is worth after others, if it asks for something else than the last one of
its kind. -/
def due [Scalar α] (found : Light α) (earlier : List (LightCall α)) :
    LightCall α → Option (LightCommand α)
  | .setOn on => if found.lastOn earlier = on then none else some (.power on)
  | .setTransitionTime time =>
    if found.lastTime earlier = time then none else some (.transition time)
  | .setColor p d =>
    if (found.lastPoint earlier).same p then none
    else some (.color p.x p.y (d.commanded p.brightness))

/-- A light remembers what was asked for last, the colour up to the signs of its zeros. -/
structure Asked (found : Light Float) (calls : List (LightCall Float)) (l : Light Float) : Prop where
  power : l.power = .ofBool (found.lastOn calls)
  time : l.transitionTime = found.lastTime calls
  point : ∀ p, l.requested.same p = (found.lastPoint calls).same p

variable {found l : Light Float} {calls earlier : List (LightCall Float)}

theorem asked_ofEntry (id : UInt16) (entry : LightEntry Float) :
    Asked (ofEntry id entry) [] (ofEntry id entry) := by
  refine ⟨?_, rfl, fun _ => rfl⟩
  show Power.ofBool _ = .ofBool (Power.ofBool _).isOn
  rw [Power.isOn_ofBool]

theorem ofBool_eq_iff {a b : Bool} : Power.ofBool a = .ofBool b ↔ a = b := by
  cases a <;> cases b <;> decide

theorem Asked.answer (h : Asked found calls l) (call : LightCall Float) :
    Asked found (calls ++ [call]) (l.answer call).1 ∧
      (l.answer call).2 = (found.due calls call).toList := by
  have hon := found.lastOn_concat calls call
  have htime := found.lastTime_concat calls call
  have hpoint := found.lastPoint_concat calls call
  cases call with
  | setOn on =>
    refine ⟨⟨congrArg Power.ofBool hon.symm, h.time.trans htime.symm, hpoint ▸ h.point⟩, ?_⟩
    simp only [Light.answer, setOn, due, h.power, ofBool_eq_iff]
    split <;> rfl
  | setTransitionTime time =>
    refine ⟨⟨h.power.trans (congrArg Power.ofBool hon.symm), htime.symm, hpoint ▸ h.point⟩, ?_⟩
    simp only [Light.answer, setTransitionTime, due, h.time]
    split <;> rfl
  | setColor p d =>
    rw [Light.answer, setColor, if_neg Bool.false_ne_true, sendColor, due, ← h.point p]
    split
    · next hsame =>
      have hnow : ∀ q, l.requested.same q = (found.lastPoint (calls ++ [.setColor p d])).same q :=
        fun q => hpoint ▸ Point.same_congr hsame q
      exact ⟨⟨h.power.trans (congrArg Power.ofBool hon.symm), h.time.trans htime.symm, hnow⟩, rfl⟩
    · exact ⟨⟨h.power.trans (congrArg Power.ofBool hon.symm), h.time.trans htime.symm,
        fun q => hpoint ▸ rfl⟩, rfl⟩

theorem Asked.answers (h : Asked found earlier l) (calls : List (LightCall Float)) :
    Asked found (earlier ++ calls) (l.answers calls).1 ∧
      (l.answers calls).2 =
        (calls.mapIdx fun i call => found.due (earlier ++ calls.take i) call).reduceOption := by
  induction calls generalizing l earlier with
  | nil => exact ⟨by rwa [List.append_nil], rfl⟩
  | cons call calls ih =>
    obtain ⟨hnext, hsent⟩ := h.answer call
    obtain ⟨hlast, hrest⟩ := ih hnext
    rw [List.append_assoc] at hlast
    refine ⟨hlast, ?_⟩
    have hcons : (l.answers (call :: calls)).2 =
        (l.answer call).2 ++ ((l.answer call).1.answers calls).2 := rfl
    rw [hcons, hsent, hrest, List.mapIdx_cons]
    simp only [List.take_zero, List.append_nil, List.take_succ_cons, List.append_assoc,
      List.singleton_append]
    cases found.due earlier call <;> simp

/-! ### Kinds of calls -/

section

variable [Scalar α] {l l' : Light α} {kind : LightCommand.Kind}

/-- Two lights remember the same of one kind of calls. -/
def Agree (l l' : Light α) : LightCommand.Kind → Prop
  | .power => l.power = l'.power
  | .transition => l.transitionTime = l'.transitionTime
  | .color => l.requested = l'.requested

theorem answer_kind (l : Light α) (call : LightCall α) :
    ∀ c ∈ (l.answer call).2, c.kind? = some call.kind := by
  intro c hc
  cases call with
  | setOn | setTransitionTime =>
    simp only [answer, setOn, setTransitionTime] at hc
    split at hc
    · cases hc
    · rw [List.mem_singleton.1 hc]
      rfl
  | setColor p d =>
    rw [answer, setColor, if_neg Bool.false_ne_true, sendColor] at hc
    split at hc
    · cases hc
    · rw [List.mem_singleton.1 hc]
      rfl

/-- What a call comes to depends on what the light remembers of its kind. -/
theorem Agree.answer {call : LightCall α} (h : Agree l l' call.kind) :
    Agree (l.answer call).1 (l'.answer call).1 call.kind ∧
      (l.answer call).2 = (l'.answer call).2 := by
  cases call with
  | setOn on =>
    replace h : l.power = l'.power := h
    exact ⟨rfl, by simp only [Light.answer, setOn, h]⟩
  | setTransitionTime time =>
    replace h : l.transitionTime = l'.transitionTime := h
    exact ⟨rfl, by simp only [Light.answer, setTransitionTime, h]⟩
  | setColor p d =>
    replace h : l.requested = l'.requested := h
    simp only [Light.answer, setColor, if_neg Bool.false_ne_true, sendColor, h]
    split
    · exact ⟨h, rfl⟩
    · exact ⟨rfl, rfl⟩

/-- And it leaves alone what the light remembers of the other kinds. -/
theorem agree_answer {call : LightCall α} (hkind : call.kind ≠ kind) :
    Agree (l.answer call).1 l kind := by
  cases call with
  | setOn | setTransitionTime =>
    cases kind <;> first | rfl | exact absurd rfl hkind
  | setColor p d =>
    rw [answer, setColor, if_neg Bool.false_ne_true, sendColor]
    split
    · cases kind <;> rfl
    · cases kind <;> first | rfl | exact absurd rfl hkind

omit [Scalar α] in
theorem Agree.trans {l'' : Light α} (h : Agree l l' kind) (h' : Agree l' l'' kind) :
    Agree l l'' kind := by
  cases kind <;> exact Eq.trans h h'

/-- The commands of a kind are those that the calls of this kind alone are worth. -/
theorem Agree.answers (h : Agree l l' kind) (calls : List (LightCall α)) :
    (l.answers calls).2.filter (fun c => c.kind? = some kind) =
      (l'.answers (calls.filter fun call => call.kind = kind)).2 := by
  induction calls generalizing l l' with
  | nil => rfl
  | cons call calls ih =>
    have hcons : (l.answers (call :: calls)).2 =
        (l.answer call).2 ++ ((l.answer call).1.answers calls).2 := rfl
    rw [hcons, List.filter_append]
    by_cases hkind : call.kind = kind
    · subst hkind
      obtain ⟨hnext, hsent⟩ := h.answer
      have hall : (l.answer call).2.filter (fun c => c.kind? = some call.kind) =
          (l.answer call).2 :=
        List.filter_eq_self.2 fun c hc => decide_eq_true (answer_kind l call c hc)
      rw [hall, ih hnext, List.filter_cons_of_pos (by simp), hsent]
      rfl
    · have hnone : (l.answer call).2.filter (fun c => c.kind? = some kind) = [] := by
        refine List.filter_eq_nil_iff.2 fun c hc hsame => hkind ?_
        have hother := answer_kind l call c hc
        rw [of_decide_eq_true hsame] at hother
        exact (Option.some_inj.1 hother).symm
      rw [hnone, List.nil_append, List.filter_cons_of_neg (by simpa using hkind)]
      exact ih ((agree_answer hkind).trans h)

end

/-- Before it is given back a light sends one command for each call that asks for something else than
the last call of the same kind, or than the state the light was created in, in the order of the calls;
calls of other kinds make no difference. It shows the power and the transition time that were asked
for last. -/
theorem sends_changes_only (id : UInt16) (entry : LightEntry Float)
    (calls : List (LightCall Float)) :
    let found := ofEntry id entry
    let after := found.answers calls
    after.2 = (calls.mapIdx fun i call => found.due (calls.take i) call).reduceOption ∧
      (∀ kind, after.2.filter (fun c => c.kind? = some kind) =
        (found.answers (calls.filter fun call => call.kind = kind)).2) ∧
      after.1.power = .ofBool (found.lastOn calls) ∧
      after.1.transitionTime = found.lastTime calls := by
  intro found after
  obtain ⟨hasked, hsent⟩ := (asked_ofEntry id entry).answers calls
  simp only [List.nil_append] at hasked hsent
  have hself : ∀ kind, Agree found found kind := fun kind => by cases kind <;> rfl
  exact ⟨hsent, fun kind => (hself kind).answers calls, hasked.power, hasked.time⟩

/-- A lamp that is off is switched on once, however often it is asked for. -/
example :
    ((ofEntry 1 ({} : LightEntry Float)).answers
      [.setOn true, .setTransitionTime 4, .setOn true, .setTransitionTime 0]).2 =
        [.power true, .transition 4, .transition 0] := rfl

end Light

end LightBridge
