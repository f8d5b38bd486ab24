/-! What can be seen of a streaming session: the phase it is in, and how it ended. -/

namespace LightBridge

inductive SessionState
  | idle
  | connecting
  | handshaking
  | streaming
  | closing
  | closed
  | failed
deriving DecidableEq, Repr

namespace SessionState

def all : List SessionState := [idle, connecting, handshaking, streaming, closing, closed, failed]

def name : SessionState → String
  | idle => "Idle"
  | connecting => "Connecting"
  | handshaking => "Handshaking"
  | streaming => "Streaming"
  | closing => "Closing"
  | closed => "Closed"
  | failed => "Failed"

def named? (s : String) : Option SessionState := all.find? fun state => state.name == s

def isTerminal : SessionState → Bool
  | closed | failed => true
  | _ => false

end SessionState

inductive Outcome
  /-- Stopped on request. -/
  | stopped
  /-- The bridge closed the stream. -/
  | peerClosed
  | connectFailed (reason : String)
  /-- No handshake succeeded in the given number of attempts. -/
  | handshakeFailed (attempts : Nat)
  | writeFailed (reason : String)
  /-- The session itself broke down. -/
  | aborted (reason : String)
deriving DecidableEq, Repr

namespace Outcome

def isFailure : Outcome → Bool
  | stopped | peerClosed => false
  | _ => true

def message : Outcome → String
  | stopped => "stopped"
  | peerClosed => "closed by peer"
  | connectFailed reason => s!"connect failed: {reason}"
  | handshakeFailed attempts => s!"handshake failed after {attempts} attempt(s)"
  | writeFailed reason => s!"write failed: {reason}"
  | aborted reason => s!"aborted: {reason}"

/-- The phase a session is in after it ended this way. -/
def terminal (o : Outcome) : SessionState := if o.isFailure then .failed else .closed

end Outcome

end LightBridge
