import LightBridge.Rig

/-! What can happen to a rig, one move at a time. The owner of the device asks one thing after the
other; everything else may happen at any moment, in any order. -/

namespace LightBridge.Rig

/-- What can be asked of a device. -/
inductive Operation
  | handle (event : BridgeEvent)
  | write (colors : List Color)
  | startStreaming
  | switchOff
  | enable
  | disable

def call (operation : Operation) (r : Rig) : Progress :=
  match operation with
  | .handle event => r.handleEvent event
  | .write colors => r.write colors
  | .startStreaming => r.startStreaming
  | .switchOff => r.stopThen (.handBack false)
  | .enable => r.enable
  | .disable => r.disable

/-- Goes on with what waits for nothing but a session's end. -/
def proceed (r : Rig) : Option Progress :=
  match r.task with
  | .painting _ [] => some (r.finish (.ok ()))
  | .painting index (c :: rest) =>
    some ({ r with task := .painting (index + 1) rest }.paint index c)
  | .stopping k next =>
    match r.streams[k]? with
    | some s => if s.reported then some (r.afterStop next) else none
    | none => none
  | _ => none

/-- Goes on with a reply to `askStreaming`. Whether the reset of the streaming succeeded does not
matter, and neither does whether its end did. -/
def replied (reply : Reply) (r : Rig) : Option Progress :=
  match r.task with
  | .resetting applying =>
    some (andThen (r.recordStreaming false reply) (askStreaming true (.claiming applying)))
  | .claiming applying =>
    some (andThen (r.recordStreaming true reply) fun r =>
      match reply.accepted with
      | .ok _ => r.launch.finishStart applying (.ok ())
      | .error e => r.finishStart applying (.error e))
  | .releasing disabling => some (andThen (r.recordStreaming false reply) (released disabling))
  | _ => none

/-- A session goes on. If it was the last to hold the lights, it lets go of them when it ends. -/
def sessionTurn (k : Nat) (t : Turn) (r : Rig) : Option Progress := do
  let s ← r.streams[k]?
  let (session, events) ← s.session.turn r.colors t
  let r := { r with streams := r.streams.set k { s with session } }
  let p : Progress := (r, events.map (.session k))
  return if session.hasEnded && !r.present && !r.isHeldBySession then andThen p letGo else p

/-- Publishes that a session has ended. -/
def report (k : Nat) (r : Rig) : Option Progress := do
  let s ← r.streams[k]?
  let outcome ← s.session.phase.outcome?
  if s.reported then none
  else return ({ r with streams := r.streams.set k { s with reported := true } },
    [.bridge (.published none (.streamStopped outcome))])

/-- The device goes away. Its session is stopped, and holds the lights until it has ended. -/
def leave (r : Rig) : Progress :=
  let r := { r with present := false }
  let r := match r.stream with
    | some k => r.stopSession k
    | none => r
  if r.isHeldBySession then (r, []) else r.letGo

/-- What can happen to a rig. -/
inductive Move
  /-- The owner asks something of the device. -/
  | call (operation : Operation)
  /-- The device goes on. -/
  | proceed
  /-- The request of the device is answered. -/
  | replied (reply : Reply)
  | session (number : Nat) (turn : Turn)
  /-- The end of a session is published. -/
  | report (number : Nat)
  /-- The connection takes a step of its own, or somebody else uses it. -/
  | bridge (move : Bridge.Move)
  /-- The owner lets the device go. -/
  | leave

/-- The connection alone takes a step. -/
def ofBridge (r : Rig) (step : Bridge × List BridgeNote) : Progress :=
  ({ r with bridge := step.1 }, step.2.map .bridge)

/-- What a move does; there is no answer to one that cannot be made now. -/
def step (r : Rig) : Move → Option Progress
  | .call operation =>
    match r.task, r.present with
    | .idle, true => some (r.call operation)
    | _, _ => none
  | .proceed => r.proceed
  | .replied reply => r.replied reply
  | .session k t => r.sessionTurn k t
  | .report k => r.report k
  | .bridge m => (r.bridge.step m).map r.ofBridge
  | .leave =>
    match r.task, r.present with
    | .idle, true => some r.leave
    | _, _ => none

/-- The rig after moves made in order, with the notes of all of them. -/
def run (r : Rig) : List Move → Option Progress
  | [] => some (r, [])
  | m :: rest => do
    let (r, notes) ← r.step m
    let (r, more) ← r.run rest
    return (r, notes ++ more)

end LightBridge.Rig
