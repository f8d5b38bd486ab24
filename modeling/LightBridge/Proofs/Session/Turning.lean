import LightBridge.Session

/-! The turns of a session, one case for each, so that what a turn does can be looked up by name.
The first fact about them is that the label of a session tells its phase, unless its transport broke
down: that is the one end that is not shown. -/

namespace LightBridge

/-- Whether a session broke down. -/
def Outcome.isAborted : Outcome → Bool
  | aborted _ => true
  | _ => false

namespace Session

/-- What a session does at a turn that it waits for. -/
inductive Turning (colors : List (UInt16 × Point Float)) (s : Session) : Turn → Progress → Prop
  | begin (h : s.phase = .idle) :
    Turning colors s .begin (s.enter .connecting fun s => s.await .connecting (.connect s.address))
  | connected (h : s.phase = .connecting) :
    Turning colors s (.connected (.ok ())) (s.enter .handshaking (tryHandshake 1))
  | unconnected (e : Fault) (h : s.phase = .connecting) :
    Turning colors s (.connected (.error e)) (s.finish (.connectFailed e.message))
  | shaken (attempt : Nat) (h : s.phase = .handshaking attempt) :
    Turning colors s (.shaken (.ok ()))
      (s.enter .streaming (sendFrame colors s.settings.writeRetries.toNat))
  | retried (attempt : Nat) (e : Fault) (h : s.phase = .handshaking attempt)
    (hleft : attempt < s.attempts) :
    Turning colors s (.shaken (.error e))
      (s.await (.resting attempt) (.pause s.settings.handshakeRetryDelay))
  | unshaken (attempt : Nat) (e : Fault) (h : s.phase = .handshaking attempt)
    (hleft : s.attempts ≤ attempt) :
    Turning colors s (.shaken (.error e))
      ((s.finish (.handshakeFailed s.attempts)).1,
        .droppedSocket :: (s.finish (.handshakeFailed s.attempts)).2)
  | rested (attempt : Nat) (h : s.phase = .resting attempt) :
    Turning colors s .rested (s.tryHandshake (attempt + 1))
  | accepted (retries : Nat) (h : s.phase = .sending retries) :
    Turning colors s (.sent .accepted) (s.pauseTick retries)
  | late (retries : Nat) (h : s.phase = .sending (retries + 1)) :
    Turning colors s (.sent .late) (s.pauseTick retries)
  | tooLate (h : s.phase = .sending 0) :
    Turning colors s (.sent .late) (s.close (.writeFailed "timed out"))
  | closedByPeer (retries : Nat) (h : s.phase = .sending retries) :
    Turning colors s (.sent .closedByPeer) (s.close .peerClosed)
  | broken (retries : Nat) (reason : String) (h : s.phase = .sending retries) :
    Turning colors s (.sent (.broken reason)) (s.close (.writeFailed reason))
  | paused (retries : Nat) (h : s.phase = .pausing retries) :
    Turning colors s .rested (s.sendFrame colors retries)
  | notified (outcome : Outcome) (h : s.phase = .closing outcome) :
    Turning colors s .notified ((s.finish outcome).1,
      .droppedChannel :: .droppedSocket :: (s.finish outcome).2)
  | died (reason : String) (h : s.phase.isCalling) : Turning colors s (.died reason) (s.abort reason)

theorem turn_cases {colors : List (UInt16 × Point Float)} {s : Session} {t : Turn} {p : Progress}
    (h : s.turn colors t = some p) : Turning colors s t p := by
  unfold turn at h
  split at h
  case h_5 attempt e hphase =>
    split at h
    · next hleft => cases h; exact .retried attempt e hphase hleft
    · next hleft => cases h; exact .unshaken attempt e hphase (Nat.le_of_not_lt hleft)
  case h_14 reason =>
    split at h
    · next hcalling => cases h; exact .died reason hcalling
    · cases h
  case h_15 => cases h
  all_goals cases h
  · exact .begin ‹_›
  · exact .connected ‹_›
  · exact .unconnected _ ‹_›
  · exact .shaken _ ‹_›
  · exact .rested _ ‹_›
  · exact .accepted _ ‹_›
  · exact .tooLate ‹_›
  · exact .late _ ‹_›
  · exact .closedByPeer _ ‹_›
  · exact .broken _ _ ‹_›
  · exact .paused _ ‹_›
  · exact .notified _ ‹_›

/-- Every one of these turns is taken. -/
theorem Turning.turn_eq {colors : List (UInt16 × Point Float)} {s : Session} {t : Turn}
    {p : Progress} (h : Turning colors s t p) : s.turn colors t = some p := by
  cases h with
  | retried attempt e h hleft => simp [turn, h, hleft]
  | unshaken attempt e h hleft => simp [turn, h, Nat.not_lt.2 hleft]
  | died reason h =>
    unfold turn
    split <;> simp_all [Phase.isCalling]
  | _ => simp [turn, *]

theorem run_cons {s s' : Session} {m : Move} {moves : List Move} {events : List SessionEvent} :
    s.run (m :: moves) = some (s', events) ↔
      ∃ p more, s.step m = some p ∧ p.1.run moves = some (s', more) ∧ events = p.2 ++ more := by
  simp only [run, Option.bind_eq_bind, Option.bind_eq_some_iff, Option.pure_def, Option.some.injEq,
    Prod.mk.injEq]
  constructor
  · rintro ⟨p, hp, q, hq, rfl, rfl⟩
    exact ⟨p, q.2, hp, hq, rfl⟩
  · rintro ⟨p, more, hp, hq, rfl⟩
    exact ⟨p, hp, (s', more), hq, rfl, rfl⟩

theorem run_append {s s' : Session} {before after : List Move} {past : List SessionEvent}
    {p : Progress} (hbefore : s.run before = some (s', past)) (hafter : s'.run after = some p) :
    s.run (before ++ after) = some (p.1, past ++ p.2) := by
  induction before generalizing s past with
  | nil =>
    cases hbefore
    exact hafter
  | cons m before ih =>
    obtain ⟨q, more, hstep, hrun, rfl⟩ := run_cons.1 hbefore
    exact run_cons.2 ⟨q, more ++ p.2, hstep, ih hrun, List.append_assoc ..⟩

/-- The label of a session tells its phase. One that broke down still shows the phase in which it
did. -/
def Labelled (s : Session) : Prop :=
  match s.phase with
  | .idle => s.state = .idle
  | .connecting => s.state = .connecting
  | .handshaking _ | .resting _ => s.state = .handshaking
  | .sending _ | .pausing _ => s.state = .streaming
  | .closing outcome => s.state = .closing ∧ outcome.isAborted = false
  | .ended outcome =>
    if outcome.isAborted then s.state ∈ [.connecting, .handshaking, .streaming, .closing]
    else s.state = outcome.terminal

theorem labelled_toHost (host : String) (settings : StreamSettings) :
    Labelled (toHost host settings) := rfl

theorem labelled_stop {s : Session} (h : Labelled s) : Labelled s.stop := h

theorem labelled_tryHandshake (attempt : Nat) {s : Session} (h : s.state = .handshaking) :
    Labelled (s.tryHandshake attempt).1 := by
  unfold tryHandshake
  split
  · rfl
  · exact h

theorem labelled_close {outcome : Outcome} (s : Session) (h : outcome.isAborted = false) :
    Labelled (s.close outcome).1 := ⟨rfl, h⟩

theorem labelled_sendFrame (colors : List (UInt16 × Point Float)) (retries : Nat) {s : Session}
    (h : s.state = .streaming) : Labelled (s.sendFrame colors retries).1 := by
  unfold sendFrame
  split
  · exact labelled_close s rfl
  · exact h

theorem labelled_finish {outcome : Outcome} (s : Session) (h : outcome.isAborted = false) :
    Labelled (s.finish outcome).1 := by
  simp [Labelled, finish, enter, h]

theorem labelled_turn {colors : List (UInt16 × Point Float)} {s : Session} {t : Turn} {p : Progress}
    (hs : Labelled s) (h : s.turn colors t = some p) : Labelled p.1 := by
  cases turn_cases h with
  | begin => rfl
  | connected => exact labelled_tryHandshake 1 rfl
  | unconnected => exact labelled_finish s rfl
  | shaken => exact labelled_sendFrame colors _ rfl
  | retried attempt e hphase => simpa [Labelled, hphase, await] using hs
  | unshaken => exact labelled_finish s rfl
  | rested attempt hphase => exact labelled_tryHandshake _ (by simpa [Labelled, hphase] using hs)
  | accepted retries hphase => simpa [Labelled, hphase, pauseTick, await] using hs
  | late retries hphase => simpa [Labelled, hphase, pauseTick, await] using hs
  | tooLate => exact labelled_close s rfl
  | closedByPeer => exact labelled_close s rfl
  | broken => exact labelled_close s rfl
  | paused retries hphase =>
    exact labelled_sendFrame colors _ (by simpa [Labelled, hphase] using hs)
  | notified outcome hphase =>
    simp only [Labelled, hphase] at hs
    exact labelled_finish s hs.2
  | died reason hcalling =>
    unfold Labelled at hs
    split at hs <;> simp_all [Labelled, abort, Outcome.isAborted, Phase.isCalling]

/-- The label tells whether a session has ended, unless it broke down. -/
theorem isTerminal_eq {s : Session} (hs : Labelled s) :
    s.state.isTerminal = s.phase.outcome?.any fun outcome => !outcome.isAborted := by
  unfold Labelled at hs
  cases hphase : s.phase with
  | ended outcome =>
    rw [hphase] at hs
    dsimp only at hs
    split at hs
    · next haborted =>
      simp only [List.mem_cons, List.not_mem_nil, or_false] at hs
      rcases hs with h | h | h | h <;> simp [h, Phase.outcome?, haborted, SessionState.isTerminal]
    · next haborted =>
      rw [hs]
      cases outcome <;> simp_all [Outcome.terminal, Outcome.isFailure, SessionState.isTerminal,
        Outcome.isAborted, Phase.outcome?]
  | closing outcome =>
    rw [hphase] at hs
    rw [hs.1]
    rfl
  | _ =>
    rw [hphase] at hs
    rw [hs]
    rfl

end Session

end LightBridge
