import LightBridge.Document.Printer
import LightBridge.Endpoint
import LightBridge.Fault.Status
import LightBridge.History
import LightBridge.Inventory

/-! What is asked of a bridge, how it replies, and what a reply means. Every request goes below the
username; only the status of a command's reply is looked at. -/

namespace LightBridge

inductive Request
  | inventory
  | command (route : String) (body : Document)
deriving BEq

/-- How a request ended. A failure comes with what is known of it: what the network says if the exchange
broke off, or what a reader of documents has to complain of if the body is none. -/
inductive Reply
  /-- The connection was closed without an answer. -/
  | lost (cause : Option String := none)
  /-- The answer broke off in its body. -/
  | cut (status : Nat) (cause : Option String := none)
  | answered (status : Nat) (body : String) (complaint : Option String := none)
deriving DecidableEq, Repr

namespace Request

def groupRoute (group : UInt16) : String := s!"groups/{group.toNat}"

def streamingBody (active : Bool) : Document :=
  .object [("stream", .object [("active", .bool active)])]

/-- Switches the streaming of a group. -/
def streaming (group : UInt16) (active : Bool) : Request :=
  .command (groupRoute group) (streamingBody active)

def verb : Request → String
  | inventory => "GET"
  | command _ _ => "PUT"

def path (e : Endpoint) : Request → String
  | inventory => s!"{e.basePath}/api/{e.username}"
  | command route _ => s!"{e.basePath}/api/{e.username}/{route}"

def contentType? : Request → Option String
  | inventory => none
  | command _ _ => some "application/json"

def body : Request → String
  | inventory => ""
  | command _ body => body.print

end Request

namespace Reply

def inventory : Reply → Except Fault Inventory
  | lost _ => .error (.unreachable "get")
  | cut status _ => .error (if Status.isSuccess status then .unreachable "read" else .refused status)
  | answered status body _ =>
    if Status.isSuccess status then Inventory.parse body else .error (.refused status)

/-- Whether a command was accepted. -/
def accepted : Reply → Except Fault Unit
  | lost _ => .error (.unreachable "put")
  | cut status _ | answered status _ _ =>
    if Status.isSuccess status then .ok () else .error (.refused status)

/-- What others say of the failure, if the exchange is one. -/
def cause : Reply → Option String
  | lost cause | cut _ cause | answered _ _ cause => cause

end Reply

namespace Exchange

def errorText {β : Type} (cause : Option String) : Except Fault β → Option String
  | .ok _ => none
  | .error e => some (e.message cause)

/-- The entry of a finished request for the inventory: how much came back, or why nothing did. -/
def ofInventory (reply : Reply) : Exchange :=
  { kind := .inventory
    route := ""
    body := match reply.inventory with
      | .ok i => .object [("groups", .nat i.groups.length), ("lights", .nat i.lights.length)]
      | .error _ => .null
    error := errorText reply.cause reply.inventory }

def ofCommand (route : String) (body : Document) (reply : Reply) : Exchange :=
  { kind := .command, route, body, error := errorText reply.cause reply.accepted }

end Exchange

end LightBridge
