import LightBridge.Rig.Move

/-! A rig in time. The replies of the bridge and the behaviour of the transport are given; what is
left open by the moves of a rig is decided here: a request takes a millisecond, the device gets its
reply before the commands in flight get theirs, and those arrive in the order in which they were
sent. The sending of a frame lasts until it is let through. -/

namespace LightBridge

/-- What a bridge replies. -/
inductive Replies
  /-- To requests for the inventory, in order, and to the commands of each route, in order, the last
  reply counting for all later ones. All other requests succeed. -/
  | scripted (inventory : List Reply) (commands : List (String × List Reply))
  /-- To all requests, in order. Later ones have no reply yet. -/
  | known (replies : List Reply)

namespace Replies

/-- Uses up the reply to a command. -/
def takeCommand (route : String) :
    List (String × List Reply) → Option (Reply × List (String × List Reply))
  | [] => none
  | (name, replies) :: rest =>
    if name = route then
      match replies with
      | [] => none
      | [reply] => some (reply, (name, replies) :: rest)
      | reply :: replies => some (reply, (name, replies) :: rest)
    else (takeCommand route rest).map fun (reply, rest) => (reply, (name, replies) :: rest)

/-- The reply to a request, and the replies to later ones. -/
def take? (request : Request) : Replies → Option (Reply × Replies)
  | scripted [] commands =>
    match request with
    | .inventory => some (.answered 200 "\x7b\x7d", .scripted [] commands)
    | .command route _ => some (ofCommand route [] commands)
  | scripted (reply :: rest) commands =>
    match request with
    | .inventory => some (reply, .scripted rest commands)
    | .command route _ => some (ofCommand route (reply :: rest) commands)
  | known [] => none
  | known (reply :: rest) => some (reply, .known rest)
where
  ofCommand (route : String) (inventory : List Reply) (commands : List (String × List Reply)) :
      Reply × Replies :=
    match takeCommand route commands with
    | some (reply, commands) => (reply, .scripted inventory commands)
    | none => (.answered 200 "", .scripted inventory commands)

/-- The number of replies that are used up at most once. -/
def size : Replies → Nat
  | scripted inventory _ => inventory.length
  | known replies => replies.length

end Replies

/-- What a transport does: the results of its first calls, in order. Later calls succeed. -/
structure TransportScript where
  connects : List (Except Fault Unit) := []
  handshakes : List (Except Fault Unit) := []

/-- A frame on its way, and how its sending will have ended once it is let through. -/
structure Sending where
  session : Nat
  frame : List UInt8
  delivery : Option Delivery := none

/-- What was seen at a time. -/
inductive Seen
  | note (note : Rig.Note)
  /-- A frame was let through. -/
  | sent (frame : List UInt8) (delivery : Delivery)

structure Timeline where
  rig : Rig
  replies : Replies
  transport : TransportScript := {}
  /-- Milliseconds since the start. -/
  clock : Nat := 0
  sending : Option Sending := none
  /-- What has been published and nobody has taken yet, oldest first. -/
  events : List BridgeEvent := []
  /-- What was seen, with the times, latest first. -/
  seen : List (Nat × Seen) := []

/-- Something that is done over a timeline. It comes to a halt at a request that has no reply. -/
abbrev Course := ExceptT Request (StateM Timeline)

namespace Timeline

/-- The events among notes. -/
def published (notes : List Rig.Note) : List BridgeEvent :=
  notes.filterMap fun n => match n with
    | .bridge (.published _ event) => some event
    | _ => none

/-- The frame that is on its way after notes. -/
def sendingAfter (before : Option Sending) (notes : List Rig.Note) : Option Sending :=
  notes.foldl (fun s n => match n with
    | .session k (.called (.send frame)) => some ⟨k, frame, none⟩
    | _ => s) before

/-- Makes a move; nothing happens if it cannot be made. -/
def move (m : Rig.Move) : Course Unit :=
  modify fun t => match t.rig.step m with
    | none => t
    | some (rig, notes) =>
      { t with
        rig
        sending := sendingAfter t.sending notes
        events := t.events ++ published notes
        seen := (notes.map fun n => (t.clock, Seen.note n)).reverse ++ t.seen }

/-- Lets time pass. -/
def pass (milliseconds : Nat) : Course Unit :=
  modify fun t => { t with clock := t.clock + milliseconds }

/-- The reply to a request. -/
def ask (request : Request) : Course Reply := do
  match (← get).replies.take? request with
  | none => throw request
  | some (reply, replies) =>
    modify fun t => { t with replies }
    pass 1
    return reply

/-- All commands in flight arrive, oldest first. -/
def deliverPosts : Course Unit := do
  for p in (← get).rig.bridge.posts do
    let reply ← ask (.command p.1 p.2)
    move (.bridge (.deliver 0 reply))

/-- The next call of a script. -/
def nextResult (results : List (Except Fault Unit)) : Except Fault Unit := results.headD (.ok ())

/-- A session goes on, unless it waits for a frame to be let through; whether it did. -/
def advanceSession (k : Nat) : Course Bool := do
  let t ← get
  match t.rig.streams[k]? with
  | none => return false
  | some s =>
    match s.session.phase with
    | .idle => move (.session k .begin)
    | .connecting =>
      set { t with transport := { t.transport with connects := t.transport.connects.tail } }
      move (.session k (.connected (nextResult t.transport.connects)))
    | .handshaking _ =>
      set { t with transport := { t.transport with handshakes := t.transport.handshakes.tail } }
      move (.session k (.shaken (nextResult t.transport.handshakes)))
    | .resting _ =>
      pass s.session.settings.handshakeRetryDelay.toNat
      move (.session k .rested)
    | .sending _ =>
      match t.sending.bind (·.delivery) with
      | none => return false
      | some delivery =>
        set { t with sending := none }
        move (.session k (.sent delivery))
    | .pausing _ =>
      pass s.session.settings.tick.toNat
      move (.session k .rested)
    | .closing _ => move (.session k .notified)
    | .ended _ =>
      if s.reported then return false
      move (.report k)
    return true

/-- A poll goes on, unless it is over or waits for good; whether it did. -/
def advancePoll (k : Nat) : Course Bool := do
  let b := (← get).rig.bridge
  match b.polls[k]? with
  | none => return false
  | some p =>
    if p.cancelled then return false
    match p.phase, b.delay with
    | .starting, _ => move (.bridge (.poll k .begin))
    | .asking, _ =>
      let reply ← ask .inventory
      move (.bridge (.poll k (.answered reply)))
    | .delaying, some delay =>
      pass delay
      move (.bridge (.poll k .rested))
    | .delaying, none | .over, _ => return false
    return true

/-- Goes through numbers until something is done for one of them. -/
def firstOf (f : Nat → Course Bool) : List Nat → Course Bool
  | [] => return false
  | k :: rest => do if ← f k then return true else firstOf f rest

/-- One step of what goes on without the device; whether there was one. -/
def background : Course Bool := do
  deliverPosts
  let r := (← get).rig
  if ← firstOf advancePoll (List.range r.bridge.polls.length) then return true
  else firstOf advanceSession (List.range r.streams.length)

/-- Enough steps for all that can go on: a poll takes two for each reply, and a session two for each
handshake of the script. -/
def stepsLeft (t : Timeline) : Nat :=
  2 * t.replies.size + 2 * t.transport.handshakes.length + 4 * t.rig.bridge.polls.length +
    8 * t.rig.streams.length + 8

def repeatWhile (step : Course Bool) : Nat → Course Unit
  | 0 => return
  | fuel + 1 => do if ← step then repeatWhile step fuel

/-- Everything goes on until all is over or waits. -/
def settle : Course Unit := do
  deliverPosts
  repeatWhile background (stepsLeft (← get))

/-- One step of the operation that the device is in the middle of; whether there was one. -/
def advanceTask : Course Bool := do
  let t ← get
  match t.rig.task with
  | .idle => return false
  | .painting _ _ => move .proceed
  | .stopping k _ =>
    if (t.rig.streams[k]?).any (·.reported) then move .proceed
    else
      let _ ← advanceSession k
  | .resetting _ | .releasing _ => answer false
  | .claiming _ => answer true
  return true
where
  /-- The reply to the request that the device waits for. -/
  answer (active : Bool) : Course Unit := do
    let group := (← get).rig.bridge.endpoint.group
    let reply ← ask (.streaming group active)
    move (.replied reply)
    deliverPosts

/-- The result of the last operation. -/
def lastResult (t : Timeline) : Except Fault Unit :=
  (t.seen.findSome? fun s => match s.2 with
    | .note (.returned result) => some result
    | _ => none).getD (.ok ())

/-- Carries an operation of the device out to its end. -/
def operate (operation : Rig.Operation) : Course (Except Fault Unit) := do
  move (.call operation)
  let t ← get
  repeatWhile advanceTask (t.rig.lights.length + 16)
  return lastResult (← get)

/-- Lets a frame through that is on its way and was not let through yet; whether there was one. -/
def letThrough (delivery : Delivery) : Course Bool := do
  let t ← get
  match t.sending with
  | some { session, frame, delivery := none } =>
    set { t with
      sending := some { session, frame, delivery := some delivery }
      seen := (t.clock, .sent frame delivery) :: t.seen }
    return true
  | _ => return false

/-- Takes the oldest event that nobody has taken. -/
def takeEvent : Course (Option BridgeEvent) := do
  let t ← get
  match t.events with
  | [] => return none
  | e :: rest =>
    set { t with events := rest }
    return some e

/-- Somebody asks for the inventory and waits for it. -/
def fetch : Course (Except Fault Inventory) := do
  let reply ← ask .inventory
  move (.bridge (.fetch reply))
  return reply.inventory

/-- Somebody sends a command and waits for the reply. -/
def put (route : String) (body : Document) : Course (Except Fault Unit) := do
  let reply ← ask (.command route body)
  move (.bridge (.put route body reply))
  return reply.accepted

end Timeline

end LightBridge
