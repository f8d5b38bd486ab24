import LightBridge.Proofs.Session.Runs
import LightBridge.Proofs.Session.Stopping

/-! The attempts of a session to shake hands. What it has done up to its first frame, or up to its
end without one, is told by the number of handshakes that failed: each attempt was made on the one
socket, and there was a pause after it unless it was the last. -/

namespace LightBridge.Session

namespace Move

end Move

def isHandshake : SessionEvent → Bool
  | .called (.handshake _) => true
  | _ => false

/-- What a session does up to its first attempt. -/
def opening (s : Session) : List SessionEvent :=
  [.entered .connecting, .called (.connect s.address), .entered .handshaking]

def attempt (s : Session) : SessionEvent := .called (.handshake s.window)

/-- So many attempts, and the pause after each. -/
def retries (s : Session) (count : Nat) : List SessionEvent :=
  (List.replicate count [s.attempt, .called (.pause s.settings.handshakeRetryDelay)]).flatten

/-- Whether an attempt is due when this ends. -/
def Tries (s : Session) (t : Turn) : Prop :=
  s.phase = .connecting ∧ t = .connected (.ok ()) ∨ (∃ made, s.phase = .resting made) ∧ t = .rested

/-- An attempt was due when a session had been told to stop. -/
def FoundStopped (s : Session) (moves : List Move) : Prop :=
  ∃ before colors t after r past, moves = before ++ .turn colors t :: after ∧
    s.run before = some (r, past) ∧ r.Tries t ∧ .stop ∈ before

/-- How a session ends that has not shaken hands, after so many attempts that failed: without a
socket, after its last attempt, because it was told to stop, or by breaking down. -/
inductive Unshaken (s : Session) (moves : List Move) (failed : Nat) :
    Outcome → List SessionEvent → Prop
  | unconnected (reason : String) (h : failed = 0) :
    Unshaken s moves failed (.connectFailed reason)
      [.entered .connecting, .called (.connect s.address), .entered .failed]
  | exhausted (h : failed = s.attempts) :
    Unshaken s moves failed (.handshakeFailed s.attempts)
      (s.opening ++ s.retries (s.attempts - 1) ++ [s.attempt, .droppedSocket, .entered .failed])
  | stopped (h : failed < s.attempts) (hfound : s.FoundStopped moves) :
    Unshaken s moves failed .stopped
      (s.opening ++ s.retries failed ++ [.entered .closing, .droppedSocket, .entered .closed])
  | unopened (reason : String) (h : failed = 0) :
    Unshaken s moves failed (.aborted reason)
      [.entered .connecting, .called (.connect s.address)]
  | aborted (reason : String) (h : failed < s.attempts) :
    Unshaken s moves failed (.aborted reason)
      (s.opening ++ s.retries failed ++ [s.attempt, .droppedSocket])

/-- No attempt is among these events, and no socket is opened. -/
def Quiet (events : List SessionEvent) : Prop :=
  ∀ e ∈ events, isHandshake e = false ∧ isConnect e = false

/-- What a session has done that has shaken hands: after so many attempts that failed came one more,
and none after that. -/
def Shook (s : Session) (failed : Nat) (events : List SessionEvent) : Prop :=
  failed < s.attempts ∧ ∃ later, Quiet later ∧
    events = s.opening ++ s.retries failed ++ [s.attempt, .entered .streaming] ++ later

/-- What a session in a phase has done, after so many attempts that failed and perhaps one that did
not. -/
def Tried (s : Session) (moves : List Move) (failed : Nat) (shaken : Bool)
    (events : List SessionEvent) : Phase → Prop
  | .idle => failed = 0 ∧ shaken = false ∧ events = []
  | .connecting => failed = 0 ∧ shaken = false ∧
      events = [.entered .connecting, .called (.connect s.address)]
  | .handshaking attempt => attempt = failed + 1 ∧ failed < s.attempts ∧ shaken = false ∧
      events = s.opening ++ s.retries failed ++ [s.attempt]
  | .resting attempt => attempt = failed ∧ failed < s.attempts ∧ shaken = false ∧
      events = s.opening ++ s.retries failed
  | .sending _ | .pausing _ => shaken = true ∧ Shook s failed events
  | .closing outcome => shaken = true ∧ Shook s failed events ∧
      ∀ attempts, outcome ≠ .handshakeFailed attempts
  | .ended outcome =>
      shaken = true ∧ Shook s failed events ∧ (∀ attempts, outcome ≠ .handshakeFailed attempts) ∨
        shaken = false ∧ Unshaken s moves failed outcome events

variable {first s : Session} {colors : List (UInt16 × Point Float)} {t : Turn} {p : Progress}
  {moves : List Move} {events : List SessionEvent} {failed : Nat} {outcome : Outcome}

theorem FoundStopped.concat {m : Move} (h : first.FoundStopped moves) :
    first.FoundStopped (moves ++ [m]) := by
  obtain ⟨before, colors, t, after, r, past, rfl, hrest⟩ := h
  exact ⟨before, colors, t, after ++ [m], r, past, by simp, hrest⟩

theorem Quiet.append {a b : List SessionEvent} (ha : Quiet a) (hb : Quiet b) : Quiet (a ++ b) :=
  List.forall_mem_append.2 ⟨ha, hb⟩

theorem Quiet.no_handshake (h : Quiet events) : events.countP isHandshake = 0 :=
  List.countP_eq_zero.2 fun e he => by simp [(h e he).1]

theorem Shook.more {new : List SessionEvent} (h : Shook first failed events) (hnew : Quiet new) :
    Shook first failed (events ++ new) := by
  obtain ⟨hless, later, hlater, rfl⟩ := h
  exact ⟨hless, later ++ new, hlater.append hnew, by simp⟩

variable {host : String} {settings : StreamSettings} {before after : List Move}

theorem Unshaken.concat {m : Move} (h : Unshaken first moves failed outcome events) :
    Unshaken first (moves ++ [m]) failed outcome events := by
  cases h with
  | unconnected reason hnone => exact .unconnected reason hnone
  | exhausted hall => exact .exhausted hall
  | stopped hless hfound => exact .stopped hless hfound.concat
  | unopened reason hnone => exact .unopened reason hnone
  | aborted reason hless => exact .aborted reason hless

theorem Tried.concat {shaken : Bool} {phase : Phase} {m : Move}
    (h : Tried first moves failed shaken events phase) :
    Tried first (moves ++ [m]) failed shaken events phase := by
  cases phase with
  | ended outcome => exact h.imp_right fun ⟨hshakes, hended⟩ => ⟨hshakes, hended.concat⟩
  | _ => exact h

/-- The attempts in events stand together, right after the socket was opened, and are not too
many. -/
def Attempted (s : Session) (events : List SessionEvent) : Prop :=
  ∃ tries later, events = s.opening ++ tries ++ later ∧
    (∀ e ∈ tries, e = s.attempt ∨ e = .called (.pause s.settings.handshakeRetryDelay)) ∧
    tries.countP isHandshake ≤ s.attempts ∧ Quiet later

theorem Attempted.few (h : Attempted s events) : events.countP isHandshake ≤ s.attempts := by
  obtain ⟨tries, later, rfl, -, hfew, hlater⟩ := h
  have hopening : s.opening.countP isHandshake = 0 := rfl
  rw [List.countP_append, List.countP_append, hopening, hlater.no_handshake]
  omega

end LightBridge.Session
