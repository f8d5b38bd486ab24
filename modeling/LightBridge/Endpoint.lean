import LightBridge.Document.Record
import LightBridge.Fault
import LightBridge.Text.Blank
import LightBridge.Text.Hex

/-! Where a bridge is and how to be let in: the host may be followed by the path below which the
bridge answers, the username is also the identity of a stream, and the client key holds the bytes of
its pre-shared key in hexadecimal. -/

namespace LightBridge

structure Endpoint where
  host : String
  username : String
  clientKey : Option String := none
  /-- The entertainment group to stream to. -/
  group : UInt16 := 0
deriving DecidableEq, Repr

namespace Endpoint

def hasCredentials (e : Endpoint) : Bool :=
  !(Text.trim e.host).isEmpty && !(Text.trim e.username).isEmpty

/-- The host without a path behind it. -/
def authority (e : Endpoint) : String := String.ofList (e.host.toList.takeWhile (· != '/'))

/-- The path behind the host, from its first slash on. -/
def basePath (e : Endpoint) : String := String.ofList (e.host.toList.dropWhile (· != '/'))

def presharedKey (e : Endpoint) : Except Fault (List UInt8) :=
  let key := Text.trim (e.clientKey.getD "")
  if key.isEmpty then .error .missingCredentials
  else match Text.Hex.decode key with
    | some bytes => .ok bytes
    | none => .error (.invalidClientKey key)

def identity (e : Endpoint) : List UInt8 := e.username.toUTF8.toList

def ofDraft? (d : Draft) : Option Endpoint := do
  let r ← Record.of? ["output", "username", "clientkey", "groupId"] d
  return {
    host := ← r.required "output" Draft.text?
    username := ← r.required "username" Draft.text?
    clientKey := ← r.orElse "clientkey" (Draft.orNull? Draft.text?) none
    group := ← r.orElse "groupId" Draft.uint16? 0 }

def toDocument (e : Endpoint) : Document :=
  .object [("clientkey", (e.clientKey.map Document.text).getD .null),
    ("groupId", .nat e.group.toNat), ("output", .text e.host), ("username", .text e.username)]

end Endpoint

end LightBridge
