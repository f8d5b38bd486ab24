import LightBridge.Bridge
import LightBridge.Light.Held
import LightBridge.Light.Painting
import LightBridge.Session

/-! What a rig is made of: the lights that a device holds, the sessions that it has started, what it
is in the middle of, and the notes in which its doings can be seen. -/

namespace LightBridge.Rig

/-- A session that a device has started. -/
structure Stream where
  session : Session
  /-- Whether its end has been published. -/
  reported : Bool := false

/-- What a device does when its session has ended. -/
inductive AfterStop
  /-- Take over the listed lights that the inventory has. -/
  | takeOver (ids : List UInt16) (lights : Listing (LightEntry Float))
  /-- Start a new session. -/
  | restart
  /-- Hand the group back to the bridge; a device that is being disabled also lets go of its
  lights. -/
  | handBack (disabling : Bool)

/-- What a device is in the middle of. A start that is part of taking lights over is marked as
`applying`. -/
inductive Task
  | idle
  /-- Showing colours, the first one of them on the light at the index. -/
  | painting (index : Nat) (colors : List Color)
  /-- Waiting until the end of a session has been published. -/
  | stopping (session : Nat) (next : AfterStop)
  /-- Waiting for the reply to the reset of the group's streaming. -/
  | resetting (applying : Bool)
  /-- Waiting for the reply to the claim of the group's streaming. -/
  | claiming (applying : Bool)
  /-- Waiting for the reply to the end of the group's streaming. -/
  | releasing (disabling : Bool)

inductive Note
  | bridge (note : BridgeNote)
  | tookOver (light : Held Float)
  /-- A light sent a command. -/
  | commanded (command : Sent Float)
  | session (number : Nat) (event : SessionEvent)
  /-- An operation of the device ended. -/
  | returned (result : Except Fault Unit)

end LightBridge.Rig
