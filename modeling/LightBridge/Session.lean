import LightBridge.Frame
import LightBridge.Session.State
import LightBridge.Settings

/-! A streaming session, one step at a time. A session waits for one thing at a time: a call to its
transport or a stretch of time. Each `Turn` says how that ended; `Session.turn` gives what the
session does then, up to the next thing it waits for, and the events in which that can be seen.
Between two turns the world may change: the lights that the next frame shows are handed to each
turn, and the stop signal may be raised at any moment. -/

namespace LightBridge

/-- The time limits of one handshake, in milliseconds. -/
structure HandshakeWindow where
  min : UInt64
  max : UInt64
deriving DecidableEq, Repr

/-- How the sending of a frame ended. -/
inductive Delivery
  | accepted
  /-- Not in time; the channel may still be usable. -/
  | late
  | closedByPeer
  | broken (reason : String)
deriving DecidableEq, Repr

/-- What a session waits for. -/
inductive Call
  | connect (address : String)
  | handshake (window : HandshakeWindow)
  | send (frame : List UInt8)
  | closeNotify
  | pause (milliseconds : UInt64)
deriving DecidableEq, Repr

/-- How the thing a session waits for ended. -/
inductive Turn
  /-- The session gets to run for the first time. -/
  | begin
  | connected (result : Except Fault Unit)
  | shaken (result : Except Fault Unit)
  | sent (delivery : Delivery)
  /-- The pause is over. -/
  | rested
  | notified
  /-- The transport broke down in the middle of a call. -/
  | died (reason : String)

inductive SessionEvent
  | entered (state : SessionState)
  | called (call : Call)
  | droppedChannel
  | droppedSocket
deriving DecidableEq, Repr

/-- Where a session is. From the first handshake on it holds a socket, and from the first frame on a
channel. -/
inductive Phase
  | idle
  | connecting
  /-- The handshake with this number is under way. -/
  | handshaking (attempt : Nat)
  /-- Between the failed handshake with this number and the next one. -/
  | resting (attempt : Nat)
  /-- A frame is on its way; so many may still be late. -/
  | sending (retries : Nat)
  /-- Until the next frame. -/
  | pausing (retries : Nat)
  | closing (outcome : Outcome)
  | ended (outcome : Outcome)
deriving DecidableEq, Repr

namespace Phase

def outcome? : Phase → Option Outcome
  | ended outcome => some outcome
  | _ => none

def holdsSocket : Phase → Bool
  | handshaking _ | resting _ | sending _ | pausing _ | closing _ => true
  | _ => false

def holdsChannel : Phase → Bool
  | sending _ | pausing _ | closing _ => true
  | _ => false

/-- Whether a call to the transport that may break down is under way. -/
def isCalling : Phase → Bool
  | connecting | handshaking _ | sending _ | closing _ => true
  | _ => false

end Phase

structure Session where
  settings : StreamSettings
  address : String
  phase : Phase := .idle
  /-- The phase as others see it. -/
  state : SessionState := .idle
  stopped : Bool := false
  /-- The number of the next frame. -/
  seq : UInt8 := 0

namespace Session

/-- A session that will stream to a host, as the settings say. -/
def toHost (host : String) (settings : StreamSettings) : Session :=
  { settings, address := s!"{host}:{settings.udpPort.toNat}" }

def stop (s : Session) : Session := { s with stopped := true }

def hasEnded (s : Session) : Bool := s.phase.outcome?.isSome

/-- A session makes at least one attempt. -/
def attempts (s : Session) : Nat := max 1 s.settings.handshakeAttempts.toNat

def window (s : Session) : HandshakeWindow :=
  ⟨s.settings.handshakeTimeoutMin, s.settings.handshakeTimeoutMax⟩

abbrev Progress := Session × List SessionEvent

/-- Shows a phase and does something after that. -/
def enter (state : SessionState) (s : Session) (next : Session → Progress) : Progress :=
  let (s, events) := next { s with state }
  (s, .entered state :: events)

/-- Waits for a call. -/
def await (phase : Phase) (call : Call) (s : Session) : Progress :=
  ({ s with phase }, [.called call])

def finish (outcome : Outcome) (s : Session) : Progress :=
  s.enter outcome.terminal fun s => ({ s with phase := .ended outcome }, [])

/-- Starts a handshake, unless the session is to stop. -/
def tryHandshake (attempt : Nat) (s : Session) : Progress :=
  if s.stopped then
    s.enter .closing fun s =>
      let (s, events) := s.finish .stopped
      (s, .droppedSocket :: events)
  else s.await (.handshaking attempt) (.handshake s.window)

/-- Says goodbye to the peer, with an outcome that is already decided. -/
def close (outcome : Outcome) (s : Session) : Progress :=
  s.enter .closing fun s => s.await (.closing outcome) .closeNotify

/-- Sends a frame with the given colours, unless the session is to stop. -/
def sendFrame (colors : List (UInt16 × Point Float)) (retries : Nat) (s : Session) : Progress :=
  if s.stopped then s.close .stopped
  else await (.sending retries) (.send (Frame.encode s.seq colors)) { s with seq := s.seq + 1 }

/-- Waits for the time of the next frame. -/
def pauseTick (retries : Nat) (s : Session) : Progress :=
  s.await (.pausing retries) (.pause s.settings.tick)

/-- Lets go of what the session holds, without a word to the peer and without showing it. -/
def abort (reason : String) (s : Session) : Progress :=
  ({ s with phase := .ended (.aborted reason) },
    (if s.phase.holdsChannel then [.droppedChannel] else []) ++
      if s.phase.holdsSocket then [.droppedSocket] else [])

/-- What the session does when the thing it waits for has ended; `colors` is what a frame begun now
shows. There is no answer to a turn that the session does not wait for. -/
def turn (colors : List (UInt16 × Point Float)) (s : Session) (t : Turn) : Option Progress :=
  match s.phase, t with
  | .idle, .begin => some (s.enter .connecting fun s => s.await .connecting (.connect s.address))
  | .connecting, .connected (.ok _) => some (s.enter .handshaking (tryHandshake 1))
  | .connecting, .connected (.error e) => some (s.finish (.connectFailed e.message))
  | .handshaking _, .shaken (.ok _) =>
    some (s.enter .streaming (sendFrame colors s.settings.writeRetries.toNat))
  | .handshaking attempt, .shaken (.error _) =>
    if attempt < s.attempts then
      some (s.await (.resting attempt) (.pause s.settings.handshakeRetryDelay))
    else
      let (s, events) := s.finish (.handshakeFailed s.attempts)
      some (s, .droppedSocket :: events)
  | .resting attempt, .rested => some (s.tryHandshake (attempt + 1))
  | .sending retries, .sent .accepted => some (s.pauseTick retries)
  | .sending 0, .sent .late => some (s.close (.writeFailed "timed out"))
  | .sending (retries + 1), .sent .late => some (s.pauseTick retries)
  | .sending _, .sent .closedByPeer => some (s.close .peerClosed)
  | .sending _, .sent (.broken reason) => some (s.close (.writeFailed reason))
  | .pausing retries, .rested => some (s.sendFrame colors retries)
  | .closing outcome, .notified =>
    let (s, events) := s.finish outcome
    some (s, .droppedChannel :: .droppedSocket :: events)
  | phase, .died reason => if phase.isCalling then some (s.abort reason) else none
  | _, _ => none

/-- What can happen to a session. -/
inductive Move
  /-- The stop signal is raised. -/
  | stop
  /-- The thing it waits for has ended; a frame begun now shows these colours. -/
  | turn (colors : List (UInt16 × Point Float)) (turn : Turn)

def step (s : Session) : Move → Option Progress
  | .stop => some (s.stop, [])
  | .turn colors t => s.turn colors t

/-- The session after moves made in order, with its events. -/
def run (s : Session) : List Move → Option Progress
  | [] => some (s, [])
  | m :: rest => do
    let (s, events) ← s.step m
    let (s, more) ← s.run rest
    return (s, events ++ more)

end Session

end LightBridge
