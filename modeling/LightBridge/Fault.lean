import LightBridge.Fault.Status
import LightBridge.Text.Quoted

/-! What can go wrong when a bridge and its lights are driven, and the message for each cause. -/

namespace LightBridge

inductive Fault
  /-- A reply is not a JSON document. -/
  | unreadable
  /-- An exchange broke off before there was a reply; `action` is what was being done. -/
  | unreachable (action : String)
  /-- The bridge answered with a status that is not a success. -/
  | refused (status : Nat)
  /-- The bridge does not know the username. -/
  | unauthorized
  | missingCredentials
  | invalidClientKey (key : String)
  | notReady
  | tooFewColors (lights colors : Nat)
  | groupNotFound (group : UInt16)
  | notEntertainmentGroup (group : UInt16)
  /-- The streaming transport failed. -/
  | stream (action reason : String)
deriving DecidableEq, Repr

namespace Fault

/-- A message, and behind it what others say of the failure, if they say anything. -/
def withCause (message : String) : Option String → String
  | none => message
  | some cause => s!"{message}: {cause}"

/-- What is told of a fault. The network has a text of its own for an exchange that broke off, and a
reader of documents for what it cannot read: `cause` is that text. -/
def message (fault : Fault) (cause : Option String := none) : String :=
  match fault with
  | unreadable => withCause "failed to load json" cause
  | unreachable action => withCause s!"http {action} error" cause
  | refused status => s!"bridge returned http status {Status.describe status}"
  | unauthorized => "authorization failed, username invalid"
  | missingCredentials => "bridge host, username or client key is empty"
  | invalidClientKey key => s!"client key {Text.quote key} is not a hex string"
  | notReady => "device not ready; no lights available"
  | tooFewColors lights colors => s!"{lights} lights configured but only {colors} colors supplied"
  | groupNotFound group => s!"group {group.toNat} isn't used on this bridge"
  | notEntertainmentGroup group => s!"group {group.toNat} is not an entertainment group"
  | stream action reason => s!"stream {action} error: {reason}"

/-- Whether an exchange failed in a way that a later one may not: nobody answered, or with a status
that is no success. -/
def isTransient : Fault → Bool
  | unreachable _ | refused _ => true
  | _ => false

end Fault

end LightBridge
