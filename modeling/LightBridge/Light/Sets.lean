import LightBridge.Light.Held

/-! Sets of lights that several holders share. A set lives as long as a slot refers to it; when the
last one lets go, its lights are given back in the order in which they stand. Lights taken out of a
set are kept aside until they are given back too. -/

namespace LightBridge

structure LightSets (α : Type) where
  /-- For each holder, the number of the set it refers to. -/
  slots : List (Option Nat) := []
  sets : List (List (Held α)) := []
  /-- Lights that were taken out of their set. -/
  aside : List (Held α) := []
  /-- The number of lights ever put in. -/
  taken : Nat := 0

namespace LightSets

variable {α : Type}

/-- What holders can do. The first number is the holder's. -/
inductive Step (α : Type)
  /-- Refer to a new empty set. -/
  | fresh (slot : Nat)
  /-- Refer to the set that another holder refers to. -/
  | share (slot source : Nat)
  | swap (slot other : Nat)
  | release (slot : Nat)
  /-- Put other lights in, and keep the old ones aside or give them back. -/
  | replace (slot : Nat) (lights : List (Light α)) (keep : Bool)
  | giveBack
  | push (slot : Nat) (light : Light α)
  | pop (slot : Nat)
  | reverse (slot : Nat)
  | setOn (slot index : Nat) (on : Bool)
  | setTransitionTime (slot index : Nat) (time : UInt16)
  | setColor (slot index : Nat) (p : Point α) (d : Dimming α) (streaming : Bool)

/-- The set a holder refers to. -/
def set? (s : LightSets α) (slot : Nat) : Option Nat := (s.slots[slot]?).join

def contents (s : LightSets α) (slot : Nat) : List (Held α) :=
  ((s.set? slot).bind fun k => s.sets[k]?).getD []

/-- Gives numbers to lights that are put in. -/
def take (lights : List (Light α)) (s : LightSets α) : LightSets α × List (Held α) :=
  ({ s with taken := s.taken + lights.length }, Held.numbered s.taken lights)

def restores (lights : List (Held α)) : List (Sent α) := lights.map Held.restoring

/-- Makes a holder refer to a set or to none, and gives back the lights of the set it referred to
if no holder is left. -/
def refer (slot : Nat) (target : Option Nat) (s : LightSets α) : LightSets α × List (Sent α) :=
  let slots := s.slots.set slot target
  match s.set? slot with
  | none => ({ s with slots }, [])
  | some k =>
    if slots.contains (some k) then ({ s with slots }, [])
    else ({ s with slots, sets := s.sets.set k [] }, restores (s.sets.getD k []))

/-- Changes the lights of the set a holder refers to. -/
def update (slot : Nat) (f : List (Held α) → List (Held α) × List (Sent α)) (s : LightSets α) :
    LightSets α × List (Sent α) :=
  match s.set? slot with
  | none => (s, [])
  | some k =>
    let (lights, sent) := f (s.sets.getD k [])
    ({ s with sets := s.sets.set k lights }, sent)

variable [Scalar α]

def step (s : LightSets α) : Step α → LightSets α × List (Sent α)
  | .fresh slot => refer slot (some s.sets.length) { s with sets := s.sets ++ [[]] }
  | .share slot source => refer slot (s.set? source) s
  | .swap slot other =>
    ({ s with slots := (s.slots.set slot (s.set? other)).set other (s.set? slot) }, [])
  | .release slot => refer slot none s
  | .replace slot lights keep =>
    let old := s.contents slot
    let (s, lights) := s.take lights
    let (s, _) := update slot (fun _ => (lights, [])) s
    if keep then ({ s with aside := s.aside ++ old }, []) else (s, restores old)
  | .giveBack => ({ s with aside := [] }, restores s.aside)
  | .push slot light =>
    let (s, lights) := s.take [light]
    update slot (fun ls => (ls ++ lights, [])) s
  | .pop slot => update slot (fun ls => (ls.dropLast, restores (ls.getLast?.toList))) s
  | .reverse slot => update slot (fun ls => (ls.reverse, [])) s
  | .setOn slot index on => update slot (Held.changeAt index (Light.setOn on)) s
  | .setTransitionTime slot index time =>
    update slot (Held.changeAt index (Light.setTransitionTime time)) s
  | .setColor slot index p d streaming =>
    update slot (Held.changeAt index (Light.setColor p d streaming)) s

/-- Two holders, of which the first one has a set of the given lights. -/
def start (lights : List (Light α)) : LightSets α :=
  { slots := [some 0, none], sets := [Held.numbered 0 lights], taken := lights.length }

end LightSets

end LightBridge
