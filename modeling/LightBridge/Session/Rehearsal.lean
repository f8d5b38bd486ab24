import LightBridge.Light.Sets
import LightBridge.Session

/-! A session over a transport that follows a script. Each call of the script may carry out actions
before it returns: raise the stop signal, or change the lights that the session streams. Pauses take
no time but are counted. -/

namespace LightBridge.Rehearsal

/-- What is done in the middle of a call. -/
inductive Action
  | stop
  | lights (step : LightSets.Step Float)

/-- How one call goes. A call that breaks down has no result. -/
structure Cue (β : Type) where
  actions : List Action := []
  result : Option β

structure SessionScript where
  connect : Cue (Except Fault Unit) := { result := some (.ok ()) }
  /-- The handshakes, in order; later ones succeed. -/
  handshakes : List (Cue (Except Fault Unit)) := []
  /-- The frames sent, in order; the one after the last is accepted and the session stopped. -/
  writes : List (Cue Delivery) := []

/-- An event, with the phase in which it can be seen and the time since the start. -/
structure Logged where
  event : SessionEvent
  state : SessionState
  time : Nat

structure Stage where
  session : Session
  sets : LightSets Float
  script : SessionScript
  clock : Nat := 0
  log : List Logged := []
  sent : List (Sent Float) := []

namespace Stage

/-- The colours a frame shows now. -/
def colors (g : Stage) : List (UInt16 × Point Float) := Held.snapshot (g.sets.contents 0)

def act (g : Stage) : Action → Stage
  | .stop => { g with session := g.session.stop }
  | .lights step =>
    let (sets, sent) := g.sets.step step
    { g with sets, sent := g.sent ++ sent }

/-- Logs events, each with the phase that was last entered before it. -/
def logEvents (clock : Nat) (state : SessionState) : List SessionEvent → List Logged
  | [] => []
  | e :: rest =>
    let now := match e with | .entered s => s | _ => state
    ⟨e, now, clock⟩ :: logEvents clock now rest

def turn (g : Stage) (t : Turn) : Stage :=
  match g.session.turn g.colors t with
  | none => g
  | some (session, events) =>
    { g with session, log := g.log ++ logEvents g.clock g.session.state events }

/-- Carries out a call: its actions, and then its result. -/
def perform {β : Type} (g : Stage) (cue : Cue β) (toTurn : β → Turn) : Stage :=
  let g := cue.actions.foldl act g
  match cue.result with
  | some r => g.turn (toTurn r)
  | none => g.turn (.died "the transport broke down")

/-- The end of a script: whatever is called now succeeds, and a frame is the last one. -/
def lastWrite : Cue Delivery := { actions := [.stop], result := some .accepted }

/-- One more step of the session. -/
def advance (g : Stage) : Stage :=
  match g.session.phase with
  | .idle => g.turn .begin
  | .connecting => g.perform g.script.connect .connected
  | .handshaking _ =>
    { g with script := { g.script with handshakes := g.script.handshakes.tail } }.perform
      (g.script.handshakes.headD { result := some (.ok ()) }) .shaken
  | .resting _ =>
    { g with clock := g.clock + g.session.settings.handshakeRetryDelay.toNat }.turn .rested
  | .sending _ =>
    { g with script := { g.script with writes := g.script.writes.tail } }.perform
      (g.script.writes.headD lastWrite) .sent
  | .pausing _ => g.turn .rested
  | .closing _ => g.turn .notified
  | .ended _ => g

/-- The steps a session can still take: two for a handshake and two for a frame of the script, and a
few for the beginning and the end. -/
def stepsLeft (g : Stage) : Nat := 2 * g.script.handshakes.length + 2 * g.script.writes.length + 12

def run : Nat → Stage → Stage
  | 0, g => g
  | fuel + 1, g => if g.session.hasEnded then g else run fuel g.advance

/-- The whole session. -/
def play (g : Stage) : Stage := g.run g.stepsLeft

end Stage

end LightBridge.Rehearsal
