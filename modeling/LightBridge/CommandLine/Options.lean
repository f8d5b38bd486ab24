/-! Words of a command line as options and positional arguments. An option is written
`--name value`, `--name=value`, `-n value`, `-nvalue` or `-n=value`; a value that stands by itself
does not begin with a dash, unless it is the dash alone. After `--` every word is positional. A word
is judged before the next option is looked at, so that a request for help counts only if nothing
before it was wrong. -/

namespace LightBridge.CommandLine

/-- An option with a value. -/
structure Flag where
  name : String
  short : Char
  about : String
  accepts : String → Bool := fun _ => true
  /-- The value of an option that is not given; without one it has to be. -/
  default? : Option String := none
  /-- Takes all values up to the next option, and may be given several times. -/
  many : Bool := false

/-- An argument that is known by its place. -/
structure Positional where
  /-- How it is written in the help. -/
  shown : String
  about : String := ""
  accepts : String → Bool

/-- What words may be. The options stand in the order in which the help lists them. -/
structure Grammar where
  /-- The command behind which the words stand. -/
  command? : Option String := none
  about : String
  flags : List Flag := []
  positionals : List Positional := []
  /-- The words with which other words begin that are read by another grammar, with what they are
  for. -/
  commands : List (String × String) := []

/-- Why words are not carried out. -/
inductive Refusal
  /-- Help is asked for, on a command or on all. -/
  | help (command? : Option String)
  | wrong
deriving DecidableEq, Repr

structure Scan where
  /-- The values of the options by their names, in order. -/
  options : List (String × String) := []
  positionals : List String := []
  /-- The last option, if its values stand by themselves, with those that were read. -/
  last : Option (Flag × List String) := none
  /-- Whether all words are positional from here on. -/
  literal : Bool := false

namespace Scan

/-- Gives an option its values. -/
def give (flag : Flag) (values : List String) (s : Scan) : Except Refusal Scan :=
  if values.all flag.accepts && (flag.many || (s.options.lookup flag.name).isNone) then
    .ok { s with options := s.options ++ values.map (flag.name, ·) }
  else .error .wrong

/-- No more values for the last option; now they are judged. -/
def close (s : Scan) : Except Refusal Scan :=
  match s.last with
  | none => .ok s
  | some (_, []) => .error .wrong
  | some (flag, values) => { s with last := none }.give flag values

/-- Whether the next word that is no option is a value of the last one. -/
def isTaking (s : Scan) : Bool := s.last.any fun (flag, values) => flag.many || values.isEmpty

def positional (g : Grammar) (word : String) (s : Scan) : Except Refusal Scan :=
  match g.positionals[s.positionals.length]? with
  | some p =>
    if p.accepts word then .ok { s with positionals := s.positionals ++ [word] } else .error .wrong
  | none => .error .wrong

/-- An option, with the value that is attached to it, if there is one. -/
def option (flag? : Option Flag) (value? : Option (List Char)) (s : Scan) : Except Refusal Scan :=
  match flag?, value? with
  | none, _ => .error .wrong
  | some flag, none => .ok { s with last := some (flag, []) }
  | some flag, some value => s.give flag [String.ofList value]

/-- The value behind an equals sign. -/
def afterEquals : List Char → Option (List Char)
  | [] => none
  | '=' :: value => some value
  | _ :: rest => afterEquals rest

def long (g : Grammar) (text : List Char) (s : Scan) : Except Refusal Scan :=
  let name := String.ofList (text.takeWhile (· != '='))
  let value? := afterEquals text
  if name == "help" && value?.isNone then .error (.help g.command?)
  else s.option (g.flags.find? (·.name == name)) value?

def short (g : Grammar) (letter : Char) (rest : List Char) (s : Scan) : Except Refusal Scan :=
  if letter == 'h' then .error (.help g.command?)
  else
    s.option (g.flags.find? (·.short == letter)) (match rest with
      | [] => none
      | '=' :: value => some value
      | value => some value)

/-- A word that is no option. -/
def plain (g : Grammar) (word : String) (s : Scan) : Except Refusal Scan :=
  match s.last with
  | some (flag, values) =>
    if s.isTaking then .ok { s with last := some (flag, values ++ [word]) }
    else s.close.bind (positional g word)
  | none => s.positional g word

def word (g : Grammar) (word : String) (s : Scan) : Except Refusal Scan :=
  if s.literal then s.positional g word
  else match word.toList with
    | ['-', '-'] => s.close.map ({ · with literal := true })
    | '-' :: '-' :: text => s.close.bind (long g text)
    | '-' :: letter :: rest => s.close.bind (short g letter rest)
    | _ => s.plain g word

/-- Reads words up to the end, or up to a command; the command and what is behind it are left, and
the last option before it is left to be judged when all else has been. -/
def words (g : Grammar) (s : Scan) : List String → Except Refusal (Scan × List String)
  | [] => s.close.map (·, [])
  | w :: rest =>
    if !s.literal && !s.isTaking && g.commands.any (·.1 == w) then .ok (s, w :: rest)
    else (s.word g w).bind fun s => words g s rest

/-- The value that an option was given. -/
def given? (flag : Flag) (s : Scan) : Option String := s.options.lookup flag.name

def value? (flag : Flag) (s : Scan) : Option String := (s.given? flag).or flag.default?

def values (flag : Flag) (s : Scan) : List String :=
  (s.options.filter (·.1 == flag.name)).map (·.2)

end Scan

end LightBridge.CommandLine
