import LightBridge.Color.Wheel
import LightBridge.CommandLine.Help
import LightBridge.Fault.Described
import LightBridge.Rig.Timeline

/-! The program: what it does for its arguments when the replies of the bridge are given. A run
whose replies are not all known yet waits at a request; with one more reply it goes further in the
same way. There is no secure transport to stream over, so a stream ends as soon as it begins. -/

namespace LightBridge.CommandLine

/-- A line of the program's output. -/
inductive Line
  | out (text : String)
  | err (text : String)
deriving DecidableEq, Repr

/-- Why a program that could not end well ended. -/
inductive Failure
  | fault (fault : Fault)
  /-- Nothing came from the bridge for 30 seconds. -/
  | silence

def Failure.describe : Failure → String
  | fault f => f.describe
  | silence => "Elapsed(())"

inductive Stop
  | waiting (request : Request)
  | failed (failure : Failure)

/-- A program under way. -/
structure Stage where
  timeline : Timeline
  /-- What was printed, with the times, latest first. -/
  printed : List (Nat × Line) := []

abbrev Act := ExceptT Stop (StateM Stage)

namespace Act

/-- Goes on over the timeline. -/
def along {β : Type} (c : Course β) : Act β := do
  let g ← get
  let (result, timeline) := c.run.run g.timeline
  set { g with timeline }
  match result with
  | .ok v => return v
  | .error request => throw (.waiting request)

def rig : Act Rig := return (← get).timeline.rig

def print (line : Line) : Act Unit :=
  modify fun g => { g with printed := (g.timeline.clock, line) :: g.printed }

def orFail {β : Type} : Except Fault β → Act β
  | .ok v => return v
  | .error f => throw (.failed (.fault f))

/-- Everything goes on, and time passes. -/
def rest (milliseconds : Nat) : Act Unit :=
  along do
    Timeline.settle
    Timeline.pass milliseconds

/-- The milliseconds without a word from the bridge after which a program gives up. -/
def patience : Nat := 30000

/-- The next event, when everything has gone on until there is one. -/
def nextEvent : Nat → Act BridgeEvent
  | 0 => throw (.failed .silence)
  | fuel + 1 => do
    match ← along Timeline.takeEvent with
    | some e => return e
    | none =>
      if ← along Timeline.background then nextEvent fuel
      else
        along (Timeline.pass patience)
        throw (.failed .silence)

def handle (e : BridgeEvent) : Act Unit := do orFail (← along (Timeline.operate (.handle e)))

/-- Handles events until the device is ready. -/
def waitReady : Nat → Act Unit
  | 0 => throw (.failed .silence)
  | fuel + 1 => do
    if (← rig).isReady then return
    let e ← nextEvent (Timeline.stepsLeft (← get).timeline)
    if let .transportError message := e then
      print (.err s!"Bridge unreachable: {message}, retrying...")
    handle e
    waitReady fuel

/-- Connects to the bridge and waits until the device is ready. -/
def connect : Act Unit := do
  along (Timeline.move (.bridge .connect))
  waitReady ((← get).timeline.replies.size + 2)

def write (colors : List Color) : Act Unit := do orFail (← along (Timeline.operate (.write colors)))

/-- The time the last commands are given to leave. -/
def farewell : Nat := 500

/-- Gives the lights back. -/
def disable : Act Unit := do
  orFail (← along (Timeline.operate .disable))
  rest farewell

/-- Handles what has been published. -/
def handleAll : Nat → Act Unit
  | 0 => return
  | fuel + 1 => do
    match ← along Timeline.takeEvent with
    | some e =>
      handle e
      handleAll fuel
    | none => return

/-- The colours of a cycle of five seconds, spread over the lights. -/
def cycle (milliseconds count : Nat) : List Color :=
  let phase := (Float.ofNat milliseconds / 1000.0) / 5.0
  (List.range count).map fun i => Color.wheel (phase + Float.ofNat i / Float.ofNat count)

/-- The milliseconds from one step of a cycle to the next. -/
def stride : Nat := 20

/-- Streams the cycle until a time, or until the stream ends. -/
def streamUntil (start stop count : Nat) : Nat → Act Unit
  | 0 => return
  | fuel + 1 => do
    let now := (← get).timeline.clock
    if now < stop then
      handleAll (← get).timeline.events.length
      if (← rig).isReady then
        write (cycle (now - start) count)
        rest stride
        streamUntil start stop count fuel
      else print (.err "Stream ended early")

/-- Drives the lights that are configured, in place of a device without settings. -/
def useSettings (settings : DeviceSettings) : Act Unit := do
  let r ← orFail (Rig.forBridge (← rig).bridge settings)
  modify fun g => { g with timeline := { g.timeline with rig := r } }

def perform : Command → Act Unit
  | .map color model => (mapLines color model).forM fun s => print (.out s)
  | .inventory => do
    let i ← orFail (← along Timeline.fetch)
    (inventoryLines i).forM fun s => print (.out s)
  | .color c lights seconds => do
    useSettings { lightIds := lights }
    connect
    let ids := (← rig).lightIds
    write (List.replicate ids.length c)
    print (.out s!"Holding {showRgb c} on lights {showIds ids}")
    rest (1000 * seconds)
    disable
  | .stream _ _ seconds => do
    useSettings { streaming := true }
    connect
    let ids := (← rig).lightIds
    print (.out s!"Streaming to lights {showIds ids} for {seconds}s")
    let start := (← get).timeline.clock
    streamUntil start (start + 1000 * seconds) ids.length (1000 * seconds)
    disable
    print (.out "Done")

end Act

/-- The bridge that the arguments name. -/
def Arguments.endpoint (a : Arguments) : Endpoint :=
  match a.command with
  | .stream clientKey group _ =>
    { host := a.host, username := a.username, clientKey := some clientKey, group }
  | _ => { host := a.host, username := a.username }

/-- A program that has just been started. -/
def Stage.start (endpoint : Endpoint) (replies : Replies) : Stage :=
  { timeline := {
      rig := { bridge := { endpoint }, settings := {}, canStream := false }
      replies
      transport := { connects := [.error (.stream "connect" "no secure transport")] } } }

/-- How far a run got. -/
inductive Ending
  | exited (code : Nat)
  | waiting (request : Request)

structure Performance where
  printed : List (Nat × Line) := []
  /-- The time it took so far, in milliseconds. -/
  clock : Nat := 0
  /-- What was seen of the rig, with the times. -/
  seen : List (Nat × Seen) := []
  ending : Ending

def Performance.ofStage (g : Stage) (ending : Ending) : Performance :=
  { printed := g.printed.reverse
    clock := g.timeline.clock
    seen := g.timeline.seen.reverse
    ending }

/-- The program with arguments that were understood. -/
def Arguments.run (a : Arguments) (replies : Replies) : Performance :=
  match (Act.perform a.command).run.run (Stage.start a.endpoint replies) with
  | (.ok _, g) => .ofStage g (.exited 0)
  | (.error (.waiting request), g) => .ofStage g (.waiting request)
  | (.error (.failed failure), g) =>
    let line : Line := .err s!"Error: {failure.describe}"
    .ofStage { g with printed := (g.timeline.clock, line) :: g.printed } (.exited 1)

/-- The program with words that it does not carry out. -/
def Performance.ofRefusal : Refusal → Performance
  | .help command? =>
    { printed := (helpOf command?).map fun s => (0, .out s), ending := .exited 0 }
  | .wrong => { ending := .exited 2 }

/-- The program with the words behind its name. -/
def run (words : List String) (replies : Replies) : Performance :=
  match Arguments.parse words with
  | .ok a => a.run replies
  | .error refusal => .ofRefusal refusal

end LightBridge.CommandLine
