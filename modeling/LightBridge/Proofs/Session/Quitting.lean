import LightBridge.Proofs.Session.Turning

/-! What a session does with one turn, and how many are left to it. A session that has ended takes no
turn; one that was told to stop takes three at most, whatever its transport replies, and never starts
another frame. -/

namespace LightBridge

/-- How the thing that a session in this phase waits for may end. -/
def Phase.Awaits : Phase → Turn → Prop
  | .idle, .begin => True
  | .connecting, .connected _ => True
  | .handshaking _, .shaken _ => True
  | .resting _, .rested => True
  | .sending _, .sent _ => True
  | .pausing _, .rested => True
  | .closing _, .notified => True
  | _, _ => False

namespace Session

variable {colors : List (UInt16 × Point Float)} {s : Session} {t : Turn} {p : Progress}

theorem hasEnded_eq_false_iff : s.hasEnded = false ↔ ∀ outcome, s.phase ≠ .ended outcome := by
  cases h : s.phase <;> simp [hasEnded, h, Phase.outcome?]

/-- What a session waits for always happens in some way, and whichever way it is, the session goes
on. -/
theorem turn_of_awaits (h : s.phase.Awaits t) : (s.turn colors t).isSome := by
  unfold Phase.Awaits at h
  split at h
  case h_8 => exact h.elim
  case h_2 result hphase => cases result <;> simp [turn, hphase]
  case h_3 result hphase =>
    cases result with
    | ok => simp [turn, hphase]
    | error e =>
      simp only [turn, hphase]
      split <;> rfl
  case h_5 delivery hphase =>
    cases delivery with
    | late => cases ‹Nat› <;> simp [turn, hphase]
    | _ => simp [turn, hphase]
  all_goals simp [turn, *]

theorem exists_awaited (h : s.hasEnded = false) : ∃ t, s.phase.Awaits t := by
  cases hphase : s.phase with
  | idle => exact ⟨.begin, trivial⟩
  | connecting => exact ⟨.connected (.ok ()), trivial⟩
  | handshaking attempt => exact ⟨.shaken (.ok ()), trivial⟩
  | resting attempt => exact ⟨.rested, trivial⟩
  | sending retries => exact ⟨.sent .accepted, trivial⟩
  | pausing retries => exact ⟨.rested, trivial⟩
  | closing outcome => exact ⟨.notified, trivial⟩
  | ended outcome => exact absurd hphase (hasEnded_eq_false_iff.1 h outcome)

/-- A session that has ended takes no turn. -/
theorem going_of_turn (h : s.turn colors t = some p) : s.hasEnded = false := by
  refine hasEnded_eq_false_iff.2 fun outcome hended => ?_
  cases turn_cases h with
  | died reason hcalling => simp [hended, Phase.isCalling] at hcalling
  | _ => simp_all

/-- All that can still happen to a session that has ended is that it is told to stop. -/
theorem run_of_ended {moves : List Move} (hended : s.hasEnded = true) (h : s.run moves = some p) :
    p.2 = [] ∧ (p.1 = s ∨ p.1 = s.stop) := by
  induction moves generalizing s p with
  | nil =>
    cases h
    exact ⟨rfl, Or.inl rfl⟩
  | cons m moves ih =>
    obtain ⟨q, more, hstep, hrun, hevents⟩ := run_cons.1 h
    cases m with
    | stop =>
      obtain rfl : (s.stop, []) = q := by simpa [step] using hstep
      obtain ⟨hmore, hlast⟩ := ih (s := s.stop) hended hrun
      exact ⟨hevents.trans hmore, Or.inr (hlast.elim id id)⟩
    | turn colors t =>
      have hgoing := going_of_turn hstep
      rw [hended] at hgoing
      cases hgoing

/-! ### What is called -/

/-- When a call is due: a socket is opened by the first turn only, and a frame shows the colours of
the moment. A session that was told to stop starts no frame, and one that starts a frame goes on. -/
def Due (colors : List (UInt16 × Point Float)) (s next : Session) : Call → Prop
  | .connect _ => s.phase = .idle
  | .send frame =>
    frame = Frame.encode s.seq colors ∧ s.stopped = false ∧ next.hasEnded = false
  | _ => True

theorem due_tryHandshake (attempt : Nat) (s first : Session) {c : Call}
    (h : .called c ∈ (s.tryHandshake attempt).2) :
    Due colors first (s.tryHandshake attempt).1 c := by
  unfold tryHandshake at h
  split at h
  · simp [enter, finish] at h
  · obtain rfl : c = .handshake s.window := by simpa [await] using h
    trivial

theorem due_close {outcome : Outcome} (s first : Session) {c : Call}
    (h : .called c ∈ (s.close outcome).2) : Due colors first (s.close outcome).1 c := by
  obtain rfl : c = .closeNotify := by simpa [close, enter, await] using h
  trivial

theorem due_sendFrame (retries : Nat) (state : SessionState) {c : Call}
    (h : .called c ∈ ({ s with state }.sendFrame colors retries).2) :
    Due colors s ({ s with state }.sendFrame colors retries).1 c := by
  simp only [sendFrame] at h ⊢
  split at h
  · next hstopped =>
    rw [if_pos hstopped]
    exact due_close _ s h
  · next hstopped =>
    obtain rfl : c = .send (Frame.encode s.seq colors) := by simpa [await] using h
    rw [if_neg hstopped]
    exact ⟨rfl, by simpa using hstopped, by simp [await, hasEnded, Phase.outcome?]⟩

theorem due_of_turn (h : s.turn colors t = some p) {c : Call} (hcall : .called c ∈ p.2) :
    Due colors s p.1 c := by
  cases turn_cases h with
  | begin hphase =>
    obtain rfl : c = .connect s.address := by simpa [enter, await] using hcall
    exact hphase
  | connected =>
    exact due_tryHandshake 1 { s with state := .handshaking } s (by simpa [enter] using hcall)
  | rested attempt => exact due_tryHandshake (attempt + 1) s s hcall
  | shaken => exact due_sendFrame _ .streaming (by simpa [enter] using hcall)
  | paused retries => exact due_sendFrame retries s.state hcall
  | tooLate | closedByPeer | broken => exact due_close s s hcall
  | unconnected | unshaken | notified => simp [finish, enter] at hcall
  | retried =>
    obtain rfl : c = .pause s.settings.handshakeRetryDelay := by simpa [await] using hcall
    trivial
  | accepted | late =>
    obtain rfl : c = .pause s.settings.tick := by simpa [pauseTick, await] using hcall
    trivial
  | died =>
    simp only [abort, List.mem_append] at hcall
    rcases hcall with h | h <;> split at h <;> simp at h

/-! ### A session that was told to stop -/

/-- The turns that a session may still take when it has been told to stop. -/
def turnsLeft (s : Session) : Nat :=
  match s.phase with
  | .sending _ => 3
  | .idle | .handshaking _ | .pausing _ => 2
  | .connecting | .resting _ | .closing _ => 1
  | .ended _ => 0

theorem turnsLeft_le (s : Session) : s.turnsLeft ≤ 3 := by
  unfold turnsLeft
  split <;> omega

theorem stopped_turn (h : s.turn colors t = some p) : p.1.stopped = s.stopped := by
  cases turn_cases h with
  | connected => simp only [enter, tryHandshake]; split <;> rfl
  | rested => simp only [tryHandshake]; split <;> rfl
  | shaken => simp only [enter, sendFrame]; split <;> rfl
  | paused => simp only [sendFrame]; split <;> rfl
  | _ => rfl

theorem turnsLeft_turn (hstopped : s.stopped = true) (h : s.turn colors t = some p) :
    p.1.turnsLeft < s.turnsLeft := by
  cases turn_cases h with
  | connected hphase => simp [turnsLeft, hphase, enter, tryHandshake, hstopped, finish]
  | rested attempt hphase => simp [turnsLeft, hphase, enter, tryHandshake, hstopped, finish]
  | shaken attempt hphase =>
    simp [turnsLeft, hphase, enter, sendFrame, hstopped, close, await]
  | paused retries hphase =>
    simp [turnsLeft, hphase, enter, sendFrame, hstopped, close, await]
  | died reason hcalling =>
    cases hphase : s.phase <;> simp_all [Phase.isCalling, turnsLeft, abort]
  | _ => simp_all [turnsLeft, enter, finish, close, await, pauseTick]

end Session

end LightBridge
