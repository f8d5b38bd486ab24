import LightBridge.Session

/-! The handle of a running session, and the signals that are taken from it. All of them share one
flag with the session, which tells it to stop: it is raised through the handle, through any of the
signals, or by letting go of the handle, and nobody ever lowers it. -/

namespace LightBridge

/-- A running session, and what there is to stop it with. -/
structure StreamHandle where
  session : Session
  /-- Whether somebody still has the handle. -/
  held : Bool := true
  /-- The number of signals that were taken from the handle or copied from another one. -/
  signals : Nat := 0

namespace StreamHandle

/-- A session is started that will stream to a host. -/
def start (host : String) (settings : StreamSettings) : StreamHandle :=
  { session := .toHost host settings }

/-- Raises the flag. -/
def raise (h : StreamHandle) : StreamHandle := { h with session := h.session.stop }

/-- What those who hold the handle or its signals do, and what the session does meanwhile. -/
inductive Deed
  /-- The session is asked to stop through its handle. -/
  | stop
  | takeSignal
  | copySignal (number : Nat)
  /-- A signal is raised. -/
  | signal (number : Nat)
  /-- The handle is let go of. Whoever waits for the end of the session does so when it has come. -/
  | drop
  | turn (colors : List (UInt16 × Point Float)) (turn : Turn)

/-- What a deed does; nobody can use a handle that is gone, or a signal that was never given out. -/
def step (h : StreamHandle) : Deed → Option (StreamHandle × List SessionEvent)
  | .stop => if h.held then some (h.raise, []) else none
  | .takeSignal => if h.held then some ({ h with signals := h.signals + 1 }, []) else none
  | .copySignal k => if k < h.signals then some ({ h with signals := h.signals + 1 }, []) else none
  | .signal k => if k < h.signals then some (h.raise, []) else none
  | .drop => if h.held then some ({ h.raise with held := false }, []) else none
  | .turn colors t => (h.session.turn colors t).map fun p => ({ h with session := p.1 }, p.2)

/-- The handle after deeds done in order, with the events of the session. -/
def run (h : StreamHandle) : List Deed → Option (StreamHandle × List SessionEvent)
  | [] => some (h, [])
  | d :: rest => do
    let (h, events) ← h.step d
    let (h, more) ← h.run rest
    return (h, events ++ more)

end StreamHandle

end LightBridge
