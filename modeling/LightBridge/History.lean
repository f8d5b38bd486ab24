import LightBridge.Document.Record
import LightBridge.Fault

/-! A bounded log of exchanges with a bridge: the most recent ones, oldest first. The last body sent
to each route, the number of failures and the last error are kept for good, whatever is dropped. -/

namespace LightBridge

/-- What an exchange was for. -/
inductive ExchangeKind
  /-- Asking for the inventory; the body counts what came back. -/
  | inventory
  /-- A command; the body is what was sent. -/
  | command
deriving DecidableEq, Repr

namespace ExchangeKind

def name : ExchangeKind → String
  | inventory => "Inventory"
  | command => "Command"

def named? : String → Option ExchangeKind
  | "Inventory" => some .inventory
  | "Command" => some .command
  | _ => none

def ofDraft? (d : Draft) : Option ExchangeKind := d.oneOf? named?

def toDocument (k : ExchangeKind) : Document := .text k.name

end ExchangeKind

/-- One finished exchange. -/
structure Exchange where
  kind : ExchangeKind
  /-- The route below the username, empty for the inventory. -/
  route : String
  body : Document
  error : Option String := none
  /-- Seconds since the log was begun. -/
  elapsed : Float := 0.0

namespace Exchange

def isSuccess (e : Exchange) : Bool := e.error.isNone

/-- Reads an entry with no more than `room` arrays and objects nested in its body. -/
def ofDraftWithin? (room : Nat) (d : Draft) : Option Exchange := do
  let r ← Record.of? ["kind", "route", "body", "error", "elapsed"] d
  return {
    kind := ← r.required "kind" ExchangeKind.ofDraft?
    route := ← r.required "route" Draft.text?
    body := ← r.required "body" (Draft.settle room)
    error := ← r.optional "error" Draft.text?
    elapsed := ← r.required "elapsed" Draft.float? }

def ofDraft? (d : Draft) : Option Exchange := ofDraftWithin? (Draft.maxDepth - 1) d

def toDocument (e : Exchange) : Document :=
  .object [("body", e.body), ("elapsed", .real e.elapsed),
    ("error", (e.error.map Document.text).getD .null), ("kind", e.kind.toDocument),
    ("route", .text e.route)]

end Exchange

structure HistorySummary where
  inventories : UInt64
  commands : UInt64
  failures : UInt64
  lastError : Option String
deriving DecidableEq, Repr

namespace HistorySummary

def ofDraft? (d : Draft) : Option HistorySummary := do
  let r ← Record.of? ["inventory_count", "command_count", "failure_count", "last_error"] d
  return {
    inventories := ← r.required "inventory_count" Draft.uint64?
    commands := ← r.required "command_count" Draft.uint64?
    failures := ← r.required "failure_count" Draft.uint64?
    lastError := ← r.optional "last_error" Draft.text? }

def toDocument (s : HistorySummary) : Document :=
  .object [("command_count", .nat s.commands.toNat), ("failure_count", .nat s.failures.toNat),
    ("inventory_count", .nat s.inventories.toNat),
    ("last_error", (s.lastError.map Document.text).getD .null)]

end HistorySummary

structure History where
  capacity : Nat := 100
  /-- Oldest first. -/
  entries : List Exchange := []
  /-- The last body sent to each route. -/
  commands : List (String × Document) := []
  failures : Nat := 0
  lastError : Option String := none

namespace History

/-- Replaces the body for a route. -/
def setCommand (route : String) (body : Document) :
    List (String × Document) → List (String × Document)
  | [] => [(route, body)]
  | c :: rest => if c.1 = route then (route, body) :: rest else c :: setCommand route body rest

/-- Adds an entry at the end, and drops the oldest one if there is no room. -/
def push (capacity : Nat) (entries : List Exchange) (e : Exchange) : List Exchange :=
  if capacity = 0 then []
  else if entries.length = capacity then entries.drop 1 ++ [e]
  else entries ++ [e]

def record (h : History) (e : Exchange) : History :=
  { h with
    entries := push h.capacity h.entries e
    commands := if e.kind = .command then setCommand e.route e.body h.commands else h.commands
    failures := if e.isSuccess then h.failures else h.failures + 1
    lastError := if e.isSuccess then h.lastError else e.error }

/-- The body of the last command sent to a route, whether it succeeded or not. -/
def lastCommand? (h : History) (route : String) : Option Document := h.commands.lookup route

/-- The bodies of the retained commands sent to a route, oldest first. -/
def commandsTo (h : History) (route : String) : List Document :=
  (h.entries.filter fun e => e.kind == .command && e.route == route).map (·.body)

def count (h : History) (kind : ExchangeKind) : Nat := (h.entries.filter (·.kind == kind)).length

/-- Counts over the retained entries, and the failures of all time. -/
def summary (h : History) : HistorySummary :=
  { inventories := UInt64.ofNat (h.count .inventory)
    commands := UInt64.ofNat (h.count .command)
    failures := UInt64.ofNat h.failures
    lastError := h.lastError }

end History

end LightBridge
