import LightBridge.Bridge.Request
import LightBridge.Session.State

/-! The connection to a bridge. Requests leave one at a time and are recorded when they are
answered. A poll asks for the inventory again and again until a reply arrives, with a delay in
between, and publishes what came of it; starting one ends the one before. Commands that nobody waits
for are in flight until they are delivered, in any order. Each step gives the notes in which it can
be seen. -/

namespace LightBridge

/-- What a connection tells its owner. -/
inductive BridgeEvent
  /-- An inventory that is not empty. -/
  | inventoryReady (inventory : Inventory)
  /-- An inventory request found nobody, or got a status that is no success. -/
  | transportError (message : String)
  | streamStopped (outcome : Outcome)

inductive BridgeNote
  /-- A request left; one for a poll carries its number. -/
  | requested (poll : Option Nat) (request : Request)
  | recorded (exchange : Exchange)
  | published (poll : Option Nat) (event : BridgeEvent)
  /-- A poll waits before it asks again; without a time it waits for good. -/
  | delayed (poll : Nat) (milliseconds : Option Nat)

/-- Where a poll is. -/
inductive PollPhase
  | starting
  | asking
  | delaying
  | over
deriving DecidableEq, Repr

/-- What a poll waited for. -/
inductive PollTurn
  /-- It gets to run for the first time. -/
  | begin
  | answered (reply : Reply)
  /-- The delay is over. -/
  | rested

structure Poll where
  phase : PollPhase := .starting
  cancelled : Bool := false
deriving DecidableEq, Repr

/-- The milliseconds a poll waits if nothing else is asked for. -/
def Bridge.standardDelay : Nat := 5000

structure Bridge where
  endpoint : Endpoint
  /-- The milliseconds a poll waits; it never asks again if there are none. -/
  delay : Option Nat := some Bridge.standardDelay
  history : History := {}
  /-- All polls ever started. -/
  polls : List Poll := []
  /-- The poll that a new one or a cancellation ends. -/
  current : Option Nat := none
  /-- The commands in flight, oldest first. -/
  posts : List (String × Document) := []

namespace Bridge

def record (e : Exchange) (b : Bridge) : Bridge := { b with history := b.history.record e }

/-- Records the reply to a request for the inventory that somebody waits for. -/
def finishFetch (reply : Reply) (b : Bridge) : Bridge × List BridgeNote :=
  let e := Exchange.ofInventory reply
  (b.record e, [.recorded e])

/-- Records the reply to a command that somebody waits for. -/
def finishCommand (route : String) (body : Document) (reply : Reply) (b : Bridge) :
    Bridge × List BridgeNote :=
  let e := Exchange.ofCommand route body reply
  (b.record e, [.recorded e])

/-- Sends a command that nobody waits for. -/
def post (route : String) (body : Document) (b : Bridge) : Bridge :=
  { b with posts := b.posts ++ [(route, body)] }

/-- A command in flight reaches the bridge and is answered. -/
def deliver (position : Nat) (reply : Reply) (b : Bridge) : Option (Bridge × List BridgeNote) :=
  b.posts[position]?.map fun p =>
    let (b, notes) := { b with posts := b.posts.eraseIdx position }.finishCommand p.1 p.2 reply
    (b, .requested none (.command p.1 p.2) :: notes)

/-- Ends the current poll, if there is one. -/
def cancel (b : Bridge) : Bridge :=
  match b.current with
  | none => b
  | some k => { b with current := none, polls := b.polls.modify k ({ · with cancelled := true }) }

/-- Starts a poll in place of the current one. Nothing is done without credentials. -/
def connect (b : Bridge) : Bridge :=
  if b.endpoint.hasCredentials then
    let b := b.cancel
    { b with polls := b.polls ++ [{}], current := some b.polls.length }
  else b

/-- What a poll publishes when it is answered. -/
def eventOf? (reply : Reply) : Option BridgeEvent :=
  match reply.inventory with
  | .ok i => if i.isEmpty then none else some (.inventoryReady i)
  | .error e => if e.isTransient then some (.transportError (e.message reply.cause)) else none

/-- Whether a poll has to ask again. -/
def isUnanswered (reply : Reply) : Bool :=
  match reply.inventory with
  | .ok _ => false
  | .error e => e.isTransient

/-- The phase a poll goes to, and the notes of that, when what it waited for has happened. -/
def pollStep (delay : Option Nat) (k : Nat) : PollPhase → PollTurn →
    Option (PollPhase × List BridgeNote)
  | .starting, .begin => some (.asking, [.requested (some k) .inventory])
  | .asking, .answered reply =>
    let seen := .recorded (Exchange.ofInventory reply) ::
      (eventOf? reply).toList.map (BridgeNote.published (some k))
    if isUnanswered reply then some (.delaying, seen ++ [.delayed k delay]) else some (.over, seen)
  | .delaying, .rested => delay.map fun _ => (.asking, [.requested (some k) .inventory])
  | _, _ => none

/-- A poll goes on. One that was cancelled does not. -/
def pollTurn (k : Nat) (t : PollTurn) (b : Bridge) : Option (Bridge × List BridgeNote) := do
  let p ← b.polls[k]?
  if p.cancelled then none
  else do
    let (phase, notes) ← pollStep b.delay k p.phase t
    let b := { b with polls := b.polls.set k { p with phase } }
    match t with
    | .answered reply => return (b.record (.ofInventory reply), notes)
    | _ => return (b, notes)

/-- What can happen to a connection. Polls, and commands that nobody waits for, are tasks of their own:
where there is nothing to run tasks on, connecting and sending come to nothing. -/
inductive Move
  | connect
  | connectOutside
  | cancel
  | post (route : String) (body : Document)
  | postOutside (route : String) (body : Document)
  | deliver (position : Nat) (reply : Reply)
  | poll (number : Nat) (turn : PollTurn)
  /-- Somebody asks for the inventory and waits for the reply. -/
  | fetch (reply : Reply)
  /-- Somebody sends a command and waits for the reply. -/
  | put (route : String) (body : Document) (reply : Reply)
  /-- Somebody else reports the end of a stream. -/
  | announce (outcome : Outcome)

/-- What a move does; there is no answer to one that cannot be made now. -/
def step (b : Bridge) : Move → Option (Bridge × List BridgeNote)
  | .connect => some (b.connect, [])
  | .connectOutside | .postOutside _ _ => some (b, [])
  | .cancel => some (b.cancel, [])
  | .post route body => some (b.post route body, [])
  | .deliver position reply => b.deliver position reply
  | .poll k t => b.pollTurn k t
  | .fetch reply =>
    let (b, notes) := b.finishFetch reply
    some (b, .requested none .inventory :: notes)
  | .put route body reply =>
    let (b, notes) := b.finishCommand route body reply
    some (b, .requested none (.command route body) :: notes)
  | .announce outcome => some (b, [.published none (.streamStopped outcome)])

/-- The connection after moves made in order, with the notes of all of them. -/
def run (b : Bridge) : List Move → Option (Bridge × List BridgeNote)
  | [] => some (b, [])
  | m :: rest => do
    let (b, notes) ← b.step m
    let (b, more) ← b.run rest
    return (b, notes ++ more)

end Bridge

end LightBridge
