import LightBridge.Color
import LightBridge.CommandLine.Options

/-! What the program can be asked to do, and the words for it. -/

namespace LightBridge.CommandLine

inductive Command
  /-- Show where a colour lies in the gamut of a model. -/
  | map (color : Color) (model : String)
  /-- List what a bridge knows. -/
  | inventory
  /-- Show one colour on lights for some seconds. -/
  | color (color : Color) (lights : List UInt16) (seconds : Nat)
  /-- Stream a cycle of colours to an entertainment group for some seconds. -/
  | stream (clientKey : String) (group : UInt16) (seconds : Nat)
deriving DecidableEq, Repr

structure Arguments where
  host : String
  username : String
  command : Command
deriving DecidableEq, Repr

/-- A number from zero up to a limit. Zero may have a minus sign. -/
def number? (limit : Nat) (s : String) : Option Nat :=
  match s.toList with
  | '-' :: c :: rest => if (c :: rest).all (· == '0') then some 0 else none
  | _ => Text.Whole.parse? limit s

/-- A number of seconds, without a minus sign. -/
def seconds? (s : String) : Option Nat := Text.Whole.parse? (UInt64.size - 1) s

def isWord (s : String) : Bool := (number? 65535 s).isSome

def hostFlag : Flag :=
  { name := "host"
    short := 'H'
    about := "Host name or IP address of the bridge"
    default? := some "" }

def usernameFlag : Flag :=
  { name := "username"
    short := 'u'
    about := "Whitelisted API username"
    default? := some "" }

def modelFlag : Flag :=
  { name := "model"
    short := 'm'
    about := "Model id, e.g. LCT015"
    default? := some "LCT015" }

def lightsFlag : Flag :=
  { name := "lights"
    short := 'l'
    about := "Light ids to drive"
    accepts := isWord
    many := true }

def clientKeyFlag : Flag :=
  { name := "client-key"
    short := 'c'
    about := "Hex encoded client key" }

def groupFlag : Flag :=
  { name := "group"
    short := 'g'
    about := "Entertainment group id"
    accepts := isWord }

def secondsFlag (about default : String) : Flag :=
  { name := "seconds"
    short := 's'
    about
    accepts := fun s => (seconds? s).isSome
    default? := some default }

/-- How long a colour is held. -/
def holdFlag : Flag := secondsFlag "Seconds to hold the colour before the lights are restored" "5"

/-- How long a cycle is streamed. -/
def cycleFlag : Flag := secondsFlag "Duration of the cycle in seconds" "10"

def channels : List Positional :=
  ["<RED>", "<GREEN>", "<BLUE>"].map fun shown =>
    { shown, accepts := fun s => (number? 255 s).isSome }

/-- The grammar of the words behind a command. -/
def grammarOf (name : String) : Grammar :=
  match name with
  | "map" =>
    { command? := some name
      about := "Map an RGB colour into a model's gamut (no bridge needed)"
      flags := [hostFlag, modelFlag, usernameFlag]
      positionals := channels }
  | "inventory" =>
    { command? := some name
      about := "List the groups and lights known to the bridge"
      flags := [hostFlag, usernameFlag] }
  | "color" =>
    { command? := some name
      about := "Set the same RGB colour on some lights over the HTTP API"
      flags := [hostFlag, lightsFlag, holdFlag, usernameFlag]
      positionals := channels }
  | "stream" =>
    { command? := some name
      about := "Stream a colour cycle to an entertainment group"
      flags := [clientKeyFlag, hostFlag, groupFlag, usernameFlag, cycleFlag] }
  | _ =>
    { command? := some name
      about := "Print this message or the help of the given subcommand(s)"
      positionals := [{
        shown := "[COMMAND]..."
        about := "Print help for the subcommand(s)"
        accepts := fun _ => false }] }

def commandNames : List String := ["map", "inventory", "color", "stream", "help"]

/-- The grammar of all words; options that are common to all commands may stand before one. -/
def grammar : Grammar :=
  { about := "Drive Philips Hue lights from the command line"
    flags := [hostFlag, usernameFlag]
    commands := commandNames.map fun name => (name, (grammarOf name).about) }

def colorOf (s : Scan) : Option Color := do
  match s.positionals.mapM (number? 255) with
  | some [r, g, b] => some ⟨UInt8.ofNat r, UInt8.ofNat g, UInt8.ofNat b⟩
  | _ => none

/-- The command with the words behind it; there is none if a word is missing. -/
def commandOf (name : String) (s : Scan) : Option Command :=
  match name with
  | "map" => do return .map (← colorOf s) (← s.value? modelFlag)
  | "inventory" => some .inventory
  | "color" => do
    let lights ← (s.values lightsFlag).mapM (number? 65535)
    let seconds ← (s.value? holdFlag).bind seconds?
    if lights.isEmpty then none
    else return .color (← colorOf s) (lights.map UInt16.ofNat) seconds
  | "stream" => do
    let group ← (s.value? groupFlag).bind (number? 65535)
    let seconds ← (s.value? cycleFlag).bind seconds?
    return .stream (← s.value? clientKeyFlag) (UInt16.ofNat group) seconds
  | _ => none

/-- What stands behind `help`: one command, which may be `help` itself, or nothing. -/
def helpOn : List String → Refusal
  | [] => .help none
  | [name] => if commandNames.contains name then .help (some name) else .wrong
  | _ => .wrong

def Arguments.parse (words : List String) : Except Refusal Arguments := do
  let (before, rest) ← Scan.words grammar {} words
  match rest with
  | [] => throw .wrong
  | "help" :: names => throw (helpOn names)
  | name :: rest =>
    let (behind, _) ← Scan.words (grammarOf name) {} rest
    let before ← before.close
    let option (flag : Flag) : String := ((behind.given? flag).or (before.value? flag)).getD ""
    match commandOf name behind with
    | none => throw .wrong
    | some command =>
      return { host := option hostFlag, username := option usernameFlag, command }

end LightBridge.CommandLine
