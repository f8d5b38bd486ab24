import LightBridge.CommandLine.Arguments
import LightBridge.CommandLine.Report

/-! The help on the program and on each of its commands, written from the grammar by which their
words are read. In each table the first column is as wide as its longest entry. -/

namespace LightBridge.CommandLine

def programName : String := "hue-stream"

namespace Flag

/-- The name of the value, as `<NAME>`. -/
def placeholder (f : Flag) : String :=
  let letter (c : Char) : Char := if c = '-' then '_' else c.toUpper
  "<" ++ String.ofList (f.name.toList.map letter) ++ ">" ++ if f.many then "..." else ""

def long (f : Flag) : String := "--" ++ f.name ++ " " ++ f.placeholder

/-- What the option is for and what it is when it is not given. -/
def explained (f : Flag) : String :=
  match f.default? with
  | none => f.about
  | some value =>
    f.about ++ " [default: " ++ (if value.isEmpty then Text.quote value else value) ++ "]"

end Flag

/-- The rows of a table, below its heading; there is no table without rows. -/
def table (heading : String) (rows : List (String × String)) : List String :=
  if rows.isEmpty then []
  else
    let width := (rows.map (·.1.length)).foldl max 0
    "" :: heading :: rows.map fun r => "  " ++ padRight width r.1 ++ "  " ++ r.2

namespace Grammar

/-- How the words follow each other. Options that have to be given are named. -/
def usage (g : Grammar) : String :=
  " ".intercalate (["Usage:", programName] ++ g.command?.toList ++
    (if g.flags.isEmpty then [] else ["[OPTIONS]"]) ++
    (g.flags.filter (·.default?.isNone)).map Flag.long ++ g.positionals.map (·.shown) ++
    if g.commands.isEmpty then [] else ["<COMMAND>"])

def optionRows (g : Grammar) : List (String × String) :=
  if g.flags.isEmpty then []
  else
    g.flags.map (fun f => ("-" ++ String.singleton f.short ++ ", " ++ f.long, f.explained)) ++
      [("-h, --help", "Print help")]

def helpLines (g : Grammar) : List String :=
  [g.about, "", g.usage] ++ table "Commands:" g.commands ++
    table "Arguments:" (g.positionals.map fun p => (p.shown, p.about)) ++
    table "Options:" g.optionRows

end Grammar

/-- The help on a command, or on the program. -/
def helpOf (command? : Option String) : List String :=
  ((command?.map grammarOf).getD grammar).helpLines

end LightBridge.CommandLine
