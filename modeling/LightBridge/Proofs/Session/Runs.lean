import LightBridge.Proofs.Session.Quitting
import LightBridge.Proofs.Splits

/-! Runs of a session, told from their beginning. What each move keeps, a run keeps, with the moves
and the events so far in view; and a run can be cut at any move. -/

namespace LightBridge.Session

variable {s s' : Session} {colors : List (UInt16 × Point Float)} {t : Turn} {p : Progress}
  {moves : List Move} {events : List SessionEvent}

/-- A run goes through the state that the first of its moves lead to. -/
theorem run_split {before after : List Move} (h : s.run (before ++ after) = some (s', events)) :
    ∃ r past more, s.run before = some (r, past) ∧ r.run after = some (s', more) ∧
      events = past ++ more := by
  induction before generalizing s events with
  | nil => exact ⟨s, [], events, rfl, h, rfl⟩
  | cons m before ih =>
    obtain ⟨p, more, hm, hrun, rfl⟩ := run_cons.1 h
    obtain ⟨r, past, later, hbefore, hafter, rfl⟩ := ih hrun
    exact ⟨r, p.2 ++ past, later, run_cons.2 ⟨p, past, hm, hbefore, rfl⟩, hafter,
      (List.append_assoc ..).symm⟩

theorem run_concat {m : Move} (h : s.run moves = some (s', events)) (hm : s'.step m = some p) :
    s.run (moves ++ [m]) = some (p.1, events ++ p.2) :=
  run_append h (run_cons.2 ⟨p, [], hm, rfl, (List.append_nil _).symm⟩)

/-- What holds before the first move and is kept by each one, after the moves and the events so far,
holds after all of them. -/
theorem run_induction {P : List Move → List SessionEvent → Session → Prop} (hfirst : P [] [] s)
    (hstop : ∀ before past r, s.run before = some (r, past) → P before past r →
      P (before ++ [.stop]) past r.stop)
    (hturn : ∀ before past r colors t p, s.run before = some (r, past) → P before past r →
      r.turn colors t = some p → P (before ++ [.turn colors t]) (past ++ p.2) p.1)
    (h : s.run moves = some (s', events)) : P moves events s' := by
  suffices hall : ∀ before past r, s.run before = some (r, past) → P before past r →
      r.run moves = some (s', events) → P (before ++ moves) (past ++ events) s' by
    simpa using hall [] [] s rfl hfirst h
  clear h
  induction moves generalizing events with
  | nil =>
    intro before past r _ hr h
    obtain ⟨rfl, rfl⟩ : r = s' ∧ [] = events := by simpa [run] using h
    simpa using hr
  | cons m moves ih =>
    intro before past r hbefore hr h
    obtain ⟨p, more, hm, hrun, rfl⟩ := run_cons.1 h
    have hnext : P (before ++ [m]) (past ++ p.2) p.1 := by
      cases m with
      | stop =>
        obtain rfl : (r.stop, []) = p := by simpa [step] using hm
        simpa using hstop before past r hbefore hr
      | turn colors t => exact hturn before past r colors t p hbefore hr hm
    have hrest := ih (before ++ [m]) (past ++ p.2) p.1 (run_concat hbefore hm) hnext hrun
    simpa using hrest

/-- What a session was made with stays as it is. -/
theorem fixed_turn (h : s.turn colors t = some p) :
    p.1.settings = s.settings ∧ p.1.address = s.address := by
  cases turn_cases h with
  | connected | rested => simp only [enter, tryHandshake]; split <;> exact ⟨rfl, rfl⟩
  | shaken | paused => simp only [enter, sendFrame]; split <;> exact ⟨rfl, rfl⟩
  | _ => exact ⟨rfl, rfl⟩

theorem fixed_run (h : s.run moves = some (s', events)) :
    s'.settings = s.settings ∧ s'.address = s.address := by
  refine run_induction (P := fun _ _ r => r.settings = s.settings ∧ r.address = s.address)
    ⟨rfl, rfl⟩ ?_ ?_ h
  · exact fun before past r _ hr => hr
  · intro before past r colors t p _ hr hm
    obtain ⟨hsettings, haddress⟩ := fixed_turn hm
    exact ⟨hsettings.trans hr.1, haddress.trans hr.2⟩

/-- A session is stopped if it was told to. -/
theorem stopped_run {host : String} {settings : StreamSettings}
    (h : (toHost host settings).run moves = some (s, events)) :
    s.stopped = true ↔ .stop ∈ moves := by
  refine run_induction (P := fun moves _ s => s.stopped = true ↔ .stop ∈ moves) (by simp [toHost])
    ?_ ?_ h
  · intro before past r _ _
    simp [Session.stop]
  · intro before past r colors t p _ hr hm
    rw [stopped_turn hm, hr]
    simp

/-- The frames that are sent, in order. -/
def frames (events : List SessionEvent) : List (List UInt8) :=
  events.filterMap fun e => match e with
    | .called (.send frame) => some frame
    | _ => none

theorem frames_append (a b : List SessionEvent) : frames (a ++ b) = frames a ++ frames b :=
  List.filterMap_append

/-- Whether a frame is begun when this ends: the session streams from then on, or has rested since
the frame before, and was not told to stop. -/
def Begins (s : Session) (t : Turn) : Prop :=
  s.stopped = false ∧
    ((∃ attempt, s.phase = .handshaking attempt) ∧ t = .shaken (.ok ()) ∨
      (∃ left, s.phase = .pausing left) ∧ t = .rested)

theorem frames_sendFrame (left : Nat) (hstopped : s.stopped = false) :
    frames (s.sendFrame colors left).2 = [Frame.encode s.seq colors] ∧
      (s.sendFrame colors left).1.seq = s.seq + 1 := by
  simp [sendFrame, hstopped, await, frames]

theorem frames_sendFrame_stopped (left : Nat) (hstopped : s.stopped = true) :
    frames (s.sendFrame colors left).2 = [] ∧ (s.sendFrame colors left).1.seq = s.seq := by
  simp [sendFrame, hstopped, close, enter, await, frames]

/-- A turn sends one frame or none. -/
theorem frames_turn (h : s.turn colors t = some p) :
    s.Begins t ∧ frames p.2 = [Frame.encode s.seq colors] ∧ p.1.seq = s.seq + 1 ∨
      ¬s.Begins t ∧ frames p.2 = [] ∧ p.1.seq = s.seq := by
  cases turn_cases h with
  | shaken attempt hphase =>
    cases hstopped : s.stopped with
    | false =>
      exact Or.inl ⟨⟨hstopped, Or.inl ⟨⟨attempt, hphase⟩, rfl⟩⟩,
        frames_sendFrame (s := { s with state := .streaming }) _ hstopped⟩
    | true =>
      exact Or.inr ⟨by simp [Begins, hstopped],
        frames_sendFrame_stopped (s := { s with state := .streaming }) _ hstopped⟩
  | paused left hphase =>
    cases hstopped : s.stopped with
    | false =>
      exact Or.inl ⟨⟨hstopped, Or.inr ⟨⟨left, hphase⟩, rfl⟩⟩, frames_sendFrame left hstopped⟩
    | true => exact Or.inr ⟨by simp [Begins, hstopped], frames_sendFrame_stopped left hstopped⟩
  | connected | rested =>
    refine Or.inr ⟨by simp [Begins, *], ?_⟩
    simp only [enter, tryHandshake]
    split <;> simp [enter, finish, await, frames]
  | died reason hcalling =>
    refine Or.inr ⟨by simp [Begins], ?_, rfl⟩
    simp only [abort]
    split <;> split <;> rfl
  | _ => exact Or.inr ⟨by simp [Begins, *], rfl, rfl⟩

end LightBridge.Session
