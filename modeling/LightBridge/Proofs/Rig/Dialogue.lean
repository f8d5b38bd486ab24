import LightBridge.Proofs.Rig.Order

/-! What a device itself says to its bridge at each move and what it hears, and which sessions go on
then. It asks for the streaming of its group only while no session goes on. -/

namespace LightBridge

namespace Reply

variable {reply : Reply}

/-- The status that a reply came with. There is none if nobody answered. -/
def status? : Reply → Option Nat
  | .lost _ => none
  | .cut status _ | .answered status _ _ => some status

/-- Whether a reply came with a status that is a success. -/
def succeeds (reply : Reply) : Bool := reply.status?.any Status.isSuccess

end Reply

namespace Rig

variable {r : Rig} {p : Progress}

/-! ### What the device says and hears -/

/-- What goes to and fro between a device and its bridge. -/
inductive Word
  | asked (request : Request)
  | heard (reply : Reply)

/-- The device asks for the streaming of a group. -/
def asks (group : UInt16) (active : Bool) : Word := .asked (.streaming group active)

def Note.request? : Note → Option Word
  | .bridge (.requested _ request) => some (.asked request)
  | _ => none

def Move.reply? : Move → Option Word
  | .replied reply => some (.heard reply)
  | _ => none

/-- What the device itself hears and says at a move: the moves of the connection alone are those of
others. -/
def said (m : Move) (notes : List Note) : List Word :=
  if m.isBridge then [] else m.reply?.toList ++ notes.filterMap Note.request?

/-- What the device says and hears at moves made in order. -/
def dialogue (r : Rig) : List Move → List Word
  | [] => []
  | m :: rest => ((r.step m).map fun p => said m p.2 ++ dialogue p.1 rest).getD []

theorem dialogue_cons {m : Move} {moves : List Move} (h : r.step m = some p) :
    r.dialogue (m :: moves) = said m p.2 ++ p.1.dialogue moves := by
  rw [dialogue, h, Option.map_some, Option.getD_some]

theorem dialogue_append {before after : List Move} (h : r.run before = some p) :
    r.dialogue (before ++ after) = r.dialogue before ++ p.1.dialogue after := by
  induction before generalizing r p with
  | nil =>
    cases h
    rfl
  | cons m before ih =>
    obtain ⟨q, more, hstep, hrun, -⟩ := run_cons.1 h
    have hrest := ih (p := (p.1, more)) hrun
    rw [List.cons_append, dialogue_cons hstep, dialogue_cons hstep, hrest, List.append_assoc]

theorem dialogue_one {m : Move} (h : r.step m = some p) : r.dialogue [m] = said m p.2 := by
  rw [dialogue_cons h, dialogue, List.append_nil]

/-- The session with this number goes on. -/
def Live (r : Rig) (k : Nat) : Prop := ∃ s, r.streams[k]? = some s ∧ s.session.hasEnded = false

/-- Whether the device is about to start a session. -/
def Task.isStarting : Task → Bool
  | .resetting _ | .claiming _ => true
  | _ => false

/-- What is said at a move, and what comes of it. The bridge is asked only while no session goes on. -/
inductive Says (r : Rig) : List Word → Rig → Prop
  | nothing {q : Rig} (hlive : ∀ k, q.Live k → r.Live k)
    (hlength : q.streams.length = r.streams.length)
    (htask : q.task = r.task ∨ q.task.isStarting = false) : Says r [] q
  | reset {q : Rig} (applying : Bool) (hnone : r.isHeldBySession = false)
    (hstreams : q.streams = r.streams) (htask : q.task = .resetting applying) :
    Says r [asks r.bridge.endpoint.group false] q
  | claim {q : Rig} (applying : Bool) (reply : Reply) (htask : r.task = .resetting applying)
    (hstreams : q.streams = r.streams) (hnext : q.task = .claiming applying) :
    Says r [.heard reply, asks r.bridge.endpoint.group true] q
  | start {q : Rig} (applying : Bool) (reply : Reply) (htask : r.task = .claiming applying)
    (hgranted : reply.succeeds = true) (hstreams : q.streams = r.launch.streams)
    (hnext : q.task = .idle) : Says r [.heard reply] q
  | other {q : Rig} {words : List Word} (hnone : q.isHeldBySession = false)
    (htask : q.task.isStarting = false) : Says r words q

theorem Says.silent {m : Move} (hsaid : said m p.2 = []) (hlive : ∀ k, p.1.Live k → r.Live k)
    (hlength : p.1.streams.length = r.streams.length)
    (htask : p.1.task = r.task ∨ p.1.task.isStarting = false) : Says r (said m p.2) p.1 := by
  rw [hsaid]
  exact .nothing hlive hlength htask

end Rig

end LightBridge
