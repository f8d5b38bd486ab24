import LightBridge.Document.Record

/-! The settings of a device and of its streams. In a document the settings of the stream stand
beside those of the device, in one object; every setting has a default. -/

namespace LightBridge

/-- Times are in milliseconds. -/
structure StreamSettings where
  udpPort : UInt16 := 2100
  handshakeAttempts : UInt32 := 5
  handshakeTimeoutMin : UInt64 := 400
  handshakeTimeoutMax : UInt64 := 1000
  handshakeRetryDelay : UInt64 := 200
  /-- How many writes may time out before the stream is given up. -/
  writeRetries : UInt32 := 5
  writeTimeout : UInt64 := 1000
  /-- The time from one frame to the next. -/
  tick : UInt64 := 40
deriving DecidableEq, Repr

namespace StreamSettings

def names : List String :=
  ["sslport", "hs_attempts", "hs_timeout_min", "hs_timeout_max", "hs_retry_delay", "retry_left",
    "write_timeout", "latchTime"]

def ofRecord? (r : Record) : Option StreamSettings := do
  let standard : StreamSettings := {}
  return {
    udpPort := ← r.orElse "sslport" Draft.uint16? standard.udpPort
    handshakeAttempts := ← r.orElse "hs_attempts" Draft.uint32? standard.handshakeAttempts
    handshakeTimeoutMin := ← r.orElse "hs_timeout_min" Draft.uint64? standard.handshakeTimeoutMin
    handshakeTimeoutMax := ← r.orElse "hs_timeout_max" Draft.uint64? standard.handshakeTimeoutMax
    handshakeRetryDelay := ← r.orElse "hs_retry_delay" Draft.uint64? standard.handshakeRetryDelay
    writeRetries := ← r.orElse "retry_left" Draft.uint32? standard.writeRetries
    writeTimeout := ← r.orElse "write_timeout" Draft.uint64? standard.writeTimeout
    tick := ← r.orElse "latchTime" Draft.uint64? standard.tick }

def ofDraft? (d : Draft) : Option StreamSettings := (Record.of? names d).bind ofRecord?

def members (s : StreamSettings) : List (String × Document) :=
  [("sslport", .nat s.udpPort.toNat), ("hs_attempts", .nat s.handshakeAttempts.toNat),
    ("hs_timeout_min", .nat s.handshakeTimeoutMin.toNat),
    ("hs_timeout_max", .nat s.handshakeTimeoutMax.toNat),
    ("hs_retry_delay", .nat s.handshakeRetryDelay.toNat), ("retry_left", .nat s.writeRetries.toNat),
    ("write_timeout", .nat s.writeTimeout.toNat), ("latchTime", .nat s.tick.toNat)]

def toDocument (s : StreamSettings) : Document := .object s.members

end StreamSettings

structure DeviceSettings where
  /-- The lights driven over the control channel, in the order of the colours. -/
  lightIds : List UInt16 := []
  switchOffOnBlack : Bool := true
  /-- In tenths of a second. -/
  transitionTime : UInt16 := 1
  brightnessFactor : Float := 1.0
  brightnessMin : Float := 0.0
  brightnessMax : Float := 1.0
  /-- Stream to the entertainment group instead of sending a command per light. -/
  streaming : Bool := false
  stream : StreamSettings := {}

namespace DeviceSettings

def names : List String :=
  ["lightIds", "switchOffOnBlack", "transitiontime", "brightnessFactor", "brightnessMin",
    "brightnessMax", "streaming"]

def ofRecord? (r : Record) : Option DeviceSettings := do
  let standard : DeviceSettings := {}
  return {
    lightIds := ← r.orElse "lightIds" (Draft.list? Draft.uint16?) standard.lightIds
    switchOffOnBlack := ← r.orElse "switchOffOnBlack" Draft.bool? standard.switchOffOnBlack
    transitionTime := ← r.orElse "transitiontime" Draft.uint16? standard.transitionTime
    brightnessFactor := ← r.orElse "brightnessFactor" Draft.float? standard.brightnessFactor
    brightnessMin := ← r.orElse "brightnessMin" Draft.float? standard.brightnessMin
    brightnessMax := ← r.orElse "brightnessMax" Draft.float? standard.brightnessMax
    streaming := ← r.orElse "streaming" Draft.bool? standard.streaming
    stream := ← StreamSettings.ofRecord? r }

/-- Members with unknown names are passed over, but they have to settle, with no more than `room`
arrays and objects nested in them. -/
def ofDraftWithin? (room : Nat) (d : Draft) : Option DeviceSettings :=
  match d with
  | .object members => do
    let members ← Record.named? members
    let r ← Record.ofMembers? (names ++ StreamSettings.names) members
    let others := members.filter fun m => !names.contains m.1
    let _ ← others.mapM fun m => m.2.settle room
    ofRecord? r
  | _ => none

def ofDraft? (d : Draft) : Option DeviceSettings := ofDraftWithin? (Draft.maxDepth - 1) d

def members (s : DeviceSettings) : List (String × Document) :=
  [("lightIds", .array (s.lightIds.map fun id => .nat id.toNat)),
    ("switchOffOnBlack", .bool s.switchOffOnBlack), ("transitiontime", .nat s.transitionTime.toNat),
    ("brightnessFactor", .real s.brightnessFactor), ("brightnessMin", .real s.brightnessMin),
    ("brightnessMax", .real s.brightnessMax), ("streaming", .bool s.streaming)] ++ s.stream.members

def toDocument (s : DeviceSettings) : Document := .object s.members

/-- Whether two settings are the same, doubles being compared by value. -/
def same (s t : DeviceSettings) : Bool :=
  s.lightIds == t.lightIds && s.switchOffOnBlack == t.switchOffOnBlack &&
    s.transitionTime == t.transitionTime && s.brightnessFactor == t.brightnessFactor &&
    s.brightnessMin == t.brightnessMin && s.brightnessMax == t.brightnessMax &&
    s.streaming == t.streaming && s.stream == t.stream

end DeviceSettings

end LightBridge
