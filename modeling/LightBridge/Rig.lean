import LightBridge.Rig.Task

/-! A device with all it has set going: the connection to its bridge, the lights it has taken over
and the streaming sessions it has started. The lights are shared with the sessions; whoever lets go
of them last gives them back. An operation of the device may have to wait, for a reply or for the
end of a session, and the rest of the rig goes on meanwhile; `Task` says what it waits for. -/

namespace LightBridge

structure Rig where
  bridge : Bridge
  settings : DeviceSettings
  /-- Whether there is a transport to stream over. -/
  canStream : Bool
  lights : List (Held Float) := []
  /-- The number of lights ever taken over. -/
  taken : Nat := 0
  /-- All sessions ever started. -/
  streams : List Rig.Stream := []
  /-- The session that the device holds on to. -/
  stream : Option Nat := none
  task : Rig.Task := .idle
  enabled : Bool := true
  ready : Bool := false
  /-- Whether the device is still there. -/
  present : Bool := true

namespace Rig

/-- A device that streams when its settings say so; then it needs a valid client key. -/
def forBridge (bridge : Bridge) (settings : DeviceSettings) : Except Fault Rig :=
  if settings.streaming then
    bridge.endpoint.presharedKey.map fun _ => { bridge, settings, canStream := true }
  else .ok { bridge, settings, canStream := false }

def lightIds (r : Rig) : List UInt16 := r.lights.map (·.light.id)

/-- The colours that a frame of a session shows now. -/
def colors (r : Rig) : List (UInt16 × Point Float) := Held.snapshot r.lights

/-- The phase of the session that the device holds on to. -/
def streamState? (r : Rig) : Option SessionState :=
  (r.stream.bind fun k => r.streams[k]?).map (·.session.state)

def isStreaming (r : Rig) : Bool := r.streamState?.any (!·.isTerminal)

/-- Whether colours are accepted. -/
def isReady (r : Rig) : Bool :=
  r.ready && !r.lights.isEmpty && (!r.settings.streaming || r.isStreaming)

/-- Whether a session still holds the lights. -/
def isHeldBySession (r : Rig) : Bool := r.streams.any (!·.session.hasEnded)

abbrev Progress := Rig × List Note

/-- Does something else after what has been done. -/
def andThen (p : Progress) (next : Rig → Progress) : Progress :=
  let (r, notes) := next p.1
  (r, p.2 ++ notes)

/-- Ends the operation that is under way. -/
def finish (result : Except Fault Unit) (r : Rig) : Progress :=
  ({ r with task := .idle }, [.returned result])

/-- Ends an operation that was to make the device ready. A device that could not apply an inventory
is not ready. -/
def finishStart (applying : Bool) (result : Except Fault Unit) (r : Rig) : Progress :=
  match result with
  | .ok _ => { r with ready := true }.finish result
  | .error _ => { r with ready := r.ready && !applying }.finish result

/-- Sends commands of lights, in order. -/
def send (commands : List (Sent Float)) (r : Rig) : Progress :=
  let post (b : Bridge) (c : Sent Float) : Bridge := b.post (Light.route c.id) c.command.toDocument
  ({ r with bridge := commands.foldl post r.bridge }, commands.map .commanded)

/-- Gives lights back, in order. -/
def restore (lights : List (Held Float)) (r : Rig) : Progress := r.send (lights.map Held.restoring)

/-- Asks the bridge to switch the streaming of the group. -/
def askStreaming (active : Bool) (task : Task) (r : Rig) : Progress :=
  ({ r with task }, [.bridge (.requested none (.streaming r.bridge.endpoint.group active))])

/-- Records the reply to `askStreaming`. -/
def recordStreaming (active : Bool) (reply : Reply) (r : Rig) : Progress :=
  let route := Request.groupRoute r.bridge.endpoint.group
  let (bridge, notes) := r.bridge.finishCommand route (Request.streamingBody active) reply
  ({ r with bridge }, notes.map .bridge)

/-- Raises the stop signal of a session. -/
def stopSession (k : Nat) (r : Rig) : Rig :=
  { r with streams := r.streams.modify k fun s => { s with session := s.session.stop } }

/-- Starts a session over the lights. -/
def launch (r : Rig) : Rig :=
  { r with
    streams := r.streams ++ [{ session := Session.toHost r.bridge.endpoint.host r.settings.stream }]
    stream := some r.streams.length }

/-- Lights for the ids that an inventory has. -/
def lightsFor (ids : List UInt16) (entries : Listing (LightEntry Float)) : List (Light Float) :=
  ids.filterMap fun id => (entries.lookup id).map (Light.ofEntry id)

/-- Takes lights over in place of the old ones, which are given back. -/
def takeOver (ids : List UInt16) (entries : Listing (LightEntry Float)) (r : Rig) : Progress :=
  let lights := Held.numbered r.taken (lightsFor ids entries)
  andThen ({ r with lights, taken := r.taken + lights.length }, lights.map .tookOver)
    (restore r.lights)

/-- Lets go of all lights. -/
def letGo (r : Rig) : Progress := { r with lights := [] }.restore r.lights

/-- Ends `handBack`. -/
def released (disabling : Bool) (r : Rig) : Progress :=
  if disabling then andThen { r with ready := false }.letGo (finish (.ok ())) else r.finish (.ok ())

/-- What a start without a transport gives. -/
def noTransport : Fault := .stream "start" "streaming is not configured"

/-- Goes on when no session is held any more. -/
def afterStop (next : AfterStop) (r : Rig) : Progress :=
  match next with
  | .takeOver ids entries =>
    andThen (r.takeOver ids entries) fun r =>
      if r.lights.isEmpty then r.finishStart true (.error .notReady)
      else if !r.settings.streaming then r.finishStart true (.ok ())
      else if !r.canStream then r.finishStart true (.error noTransport)
      else r.askStreaming false (.resetting true)
  | .restart => r.askStreaming false (.resetting false)
  | .handBack disabling =>
    if r.settings.streaming then r.askStreaming false (.releasing disabling)
    else r.released disabling

/-- Stops the session that the device holds on to, and goes on when that has ended. -/
def stopThen (next : AfterStop) (r : Rig) : Progress :=
  match r.stream with
  | none => r.afterStop next
  | some k => ({ r.stopSession k with stream := none, task := .stopping k next }, [])

/-- Starts streaming over the lights. A running session is stopped first. -/
def startStreaming (r : Rig) : Progress :=
  if !r.canStream then r.finish (.error noTransport)
  else if r.lights.isEmpty then r.finish (.error .notReady)
  else r.stopThen .restart

/-- The ids of the lights to take over: the members of the group to stream to, or those in the
settings. -/
def wantedIds (groups : Listing GroupEntry) (r : Rig) : Except Fault (List UInt16) :=
  let group := r.bridge.endpoint.group
  if r.settings.streaming then
    match groups.lookup group with
    | none => .error (.groupNotFound group)
    | some g => if g.isEntertainment then .ok g.lightIds else .error (.notEntertainmentGroup group)
  else .ok r.settings.lightIds

/-- Takes over the lights of an inventory. A disabled device ignores it. -/
def applyInventory (inventory : Inventory) (r : Rig) : Progress :=
  if !r.enabled then r.finish (.ok ())
  else match r.wantedIds inventory.groups with
    | .error e => r.finishStart true (.error e)
    | .ok ids => r.stopThen (.takeOver ids inventory.lights)

/-- A session has ended. While the one the device holds on to goes on, it was an earlier one. -/
def streamStopped (r : Rig) : Progress :=
  if r.isStreaming then r.finish (.ok ())
  else { r with stream := none, ready := false }.finish (.ok ())

def handleEvent (event : BridgeEvent) (r : Rig) : Progress :=
  match event with
  | .inventoryReady inventory => r.applyInventory inventory
  | .transportError _ => { r with ready := false }.finish (.ok ())
  | .streamStopped _ => r.streamStopped

/-- Shows one colour per light, in order; colours left over are ignored. -/
def write (colors : List Color) (r : Rig) : Progress :=
  let count := r.lights.length
  if !r.isReady then r.finish (.error .notReady)
  else if colors.length < count then r.finish (.error (.tooFewColors count colors.length))
  else ({ r with task := .painting 0 (colors.take count) }, [])

/-- Shows one colour. -/
def paint (index : Nat) (color : Color) (r : Rig) : Progress :=
  let (lights, sent) := Held.changeAt index (Light.paint r.settings color) r.lights
  { r with lights }.send sent

def enable (r : Rig) : Progress :=
  let r := { r with enabled := true }
  if r.lights.isEmpty then { r with bridge := r.bridge.connect }.finish (.ok ())
  else if r.settings.streaming then r.startStreaming
  else { r with ready := true }.finish (.ok ())

def disable (r : Rig) : Progress :=
  { r with enabled := false, bridge := r.bridge.cancel }.stopThen (.handBack true)

end Rig

end LightBridge
