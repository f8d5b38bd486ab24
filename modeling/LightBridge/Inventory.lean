import LightBridge.Document.Reader
import LightBridge.Document.Record
import LightBridge.Fault
import LightBridge.Text.Blank
import LightBridge.Text.Whole

/-! What a bridge lists: groups and lights under their ids. An entry that makes no sense is left out
without spoiling the others, and of several keys for one id the last good one in the order of the
keys counts. -/

namespace LightBridge

/-- The state of a light as the bridge reports it. Every part may be missing. -/
structure LightReport (α : Type) where
  on : Option Bool := none
  xy : Option (α × α) := none
  bri : Option UInt8 := none
  transitionTime : Option UInt16 := none
deriving BEq

structure LightEntry (α : Type) where
  state : LightReport α := {}
  model : String := ""
  name : String := ""
deriving BEq

structure GroupEntry where
  name : String := ""
  kind : String := ""
  /-- The ids of the lights in the group, as the bridge writes them. -/
  lights : List String := []
deriving DecidableEq, Repr

namespace LightReport

def ofDraft? (d : Draft) : Option (LightReport Float) := do
  let r ← Record.of? ["on", "xy", "bri", "transitiontime"] d
  return {
    on := ← r.optional "on" Draft.bool?
    xy := ← r.optional "xy" (Draft.pair? Draft.float?)
    bri := ← r.optional "bri" Draft.uint8?
    transitionTime := ← r.optional "transitiontime" Draft.uint16? }

/-- The parts that are there, as members in the order of their names. -/
def toDocument (s : LightReport Float) : Document :=
  .object (
    (s.bri.map fun b => ("bri", Document.nat b.toNat)).toList ++
    (s.on.map fun b => ("on", Document.bool b)).toList ++
    (s.transitionTime.map fun t => ("transitiontime", Document.nat t.toNat)).toList ++
    (s.xy.map fun p => ("xy", Document.array [.real p.1, .real p.2])).toList)

end LightReport

namespace LightEntry

def ofDraft? (d : Draft) : Option (LightEntry Float) := do
  let r ← Record.of? ["state", "modelid", "name"] d
  return {
    state := ← r.orElse "state" LightReport.ofDraft? {}
    model := ← r.orElse "modelid" Draft.text? ""
    name := ← r.orElse "name" Draft.text? "" }

def toDocument (e : LightEntry Float) : Document :=
  .object [("modelid", .text e.model), ("name", .text e.name), ("state", e.state.toDocument)]

end LightEntry

namespace GroupEntry

/-- The kind of the groups that can be streamed to. -/
def entertainment : String := "Entertainment"

def isEntertainment (g : GroupEntry) : Bool := g.kind == entertainment

def lightId? (s : String) : Option UInt16 :=
  (Text.Whole.parse? 65535 (Text.trim s)).map UInt16.ofNat

/-- The ids that are numbers, in ascending order. -/
def lightIds (g : GroupEntry) : List UInt16 :=
  (g.lights.filterMap lightId?).mergeSort (fun a b => a ≤ b)

def ofDraft? (d : Draft) : Option GroupEntry := do
  let r ← Record.of? ["name", "type", "lights"] d
  return {
    name := ← r.orElse "name" Draft.text? ""
    kind := ← r.orElse "type" Draft.text? ""
    lights := ← r.orElse "lights" (Draft.list? Draft.text?) [] }

def toDocument (g : GroupEntry) : Document :=
  .object [("lights", .array (g.lights.map .text)), ("name", .text g.name), ("type", .text g.kind)]

end GroupEntry

/-- Entries under distinct ids, in ascending order. -/
abbrev Listing (β : Type) := List (UInt16 × β)

namespace Listing

variable {β : Type}

def insert (id : UInt16) (entry : β) : Listing β → Listing β
  | [] => [(id, entry)]
  | e :: rest =>
    if id < e.1 then (id, entry) :: e :: rest
    else if id = e.1 then (id, entry) :: rest
    else e :: insert id entry rest

def ids (l : Listing β) : List UInt16 := l.map (·.1)

/-- The entry that one member of a category stands for, if it is a good one. -/
def read? (read : Draft → Option β) (m : String × Document) : Option (UInt16 × β) := do
  let id ← Text.Whole.parse? 65535 m.1
  let entry ← read (.ofDocument m.2)
  return (UInt16.ofNat id, entry)

def ofMembers (read : Draft → Option β) (members : List (String × Document)) : Listing β :=
  (members.filterMap (read? read)).foldl (fun l e => insert e.1 e.2 l) []

/-- The entries of a category of the inventory; one that is no object is empty. -/
def ofCategory (read : Draft → Option β) (name : String) (d : Document) : Listing β :=
  match d.get? name with
  | some (.object members) => ofMembers read members
  | _ => []

end Listing

structure Inventory where
  groups : Listing GroupEntry := []
  lights : Listing (LightEntry Float) := []

namespace Inventory

def ofDocument : Document → Except Fault Inventory
  /- An unknown username is answered with an array of errors. -/
  | .array _ => .error .unauthorized
  | d => .ok {
      groups := Listing.ofCategory GroupEntry.ofDraft? "groups" d
      lights := Listing.ofCategory LightEntry.ofDraft? "lights" d }

/-- Reads the body of an inventory reply. -/
def parse (body : String) : Except Fault Inventory :=
  match Document.read body with
  | none => .error .unreadable
  | some d => ofDocument d

def isEmpty (i : Inventory) : Bool := i.groups.isEmpty && i.lights.isEmpty

end Inventory

end LightBridge
