import RuleEngine.Text.Classes

/-!
# Command-line descriptions

A program's options and commands as data, from which help pages and usage lines are written, the
texts of a section aligned two spaces after its widest item.
-/

set_option autoImplicit false

namespace RuleEngine

namespace CommandLine

/-- What an option does when it is given. -/
inductive OptionAction where
  | setFlag
  | setValue
  | appendValue
  | showHelp
  | showVersion
deriving DecidableEq, Repr

structure OptionSpec where
  long : String
  short : Option Char := none
  valueName : Option String := none
  action : OptionAction
  help : String
  choices : List String := []
  default : Option String := none
deriving Repr

namespace OptionSpec

def takesValue (o : OptionSpec) : Bool := o.action == .setValue || o.action == .appendValue

def display (o : OptionSpec) : String :=
  "--" ++ o.long ++ match o.valueName with
    | some v => " <" ++ v ++ ">"
    | none => ""

/-- The option as listed in help; a missing short name is four blanks. -/
def spec (o : OptionSpec) : String :=
  (match o.short with
    | some c => "-" ++ String.singleton c ++ ", "
    | none => "    ") ++ o.display

def helpText (o : OptionSpec) : String :=
  let default := match o.default with
    | some d => [" [default: " ++ d ++ "]"]
    | none => []
  let choices := if o.choices.isEmpty then [] else [" [possible values: " ++ ", ".intercalate o.choices ++ "]"]
  o.help ++ String.join (default ++ choices)

end OptionSpec

structure PositionalSpec where
  name : String
  help : String
deriving Repr

structure CommandSpec where
  name : String
  about : String
  positional : Option PositionalSpec := none
  options : List OptionSpec := []
deriving Repr

structure ProgramSpec where
  name : String
  version : String
  about : String
  globals : List OptionSpec
  commands : List CommandSpec
deriving Repr

def helpOption : OptionSpec :=
  { long := "help", short := some 'h', action := .showHelp, help := "Print help" }

def versionOption : OptionSpec :=
  { long := "version", short := some 'V', action := .showVersion, help := "Print version" }

def helpCommand : CommandSpec :=
  { name := "help", about := "Print this message or the help of the given subcommand(s)" }

def padTo (width : Nat) (s : String) : String := s ++ String.ofList (List.replicate (width - s.length) ' ')

def columns (rows : List (String × String)) : String :=
  let width := rows.foldl (fun w (item, _) => max w item.length) 2
  String.join (rows.map fun (item, text) => "  " ++ padTo width item ++ "  " ++ text ++ "\n")

namespace ProgramSpec

def topOptions (p : ProgramSpec) : List OptionSpec := p.globals ++ [helpOption, versionOption]

/-- The options of a command: its own, the global ones, then help; the help command has none. -/
def commandOptions (p : ProgramSpec) (c : CommandSpec) : List OptionSpec :=
  if c.name == helpCommand.name then [] else c.options ++ p.globals ++ [helpOption]

def allCommands (p : ProgramSpec) : List CommandSpec := p.commands ++ [helpCommand]

def command? (p : ProgramSpec) (name : String) : Option CommandSpec :=
  p.allCommands.find? (·.name == name)

def commandName (p : ProgramSpec) (c : CommandSpec) : String := p.name ++ " " ++ c.name

/-- The argument of a command as shown in usage: the help command takes any number of names. -/
def argumentShown (c : CommandSpec) : Option String :=
  if c.name == helpCommand.name then some "[COMMAND]..."
  else c.positional.map fun a => "<" ++ a.name ++ ">"

def topUsage (p : ProgramSpec) : String := p.name ++ " [OPTIONS] <COMMAND>"

def commandUsage (p : ProgramSpec) (c : CommandSpec) : String :=
  p.commandName c ++ (if (p.commandOptions c).isEmpty then "" else " [OPTIONS]") ++
    match argumentShown c with
    | some a => " " ++ a
    | none => ""

def optionsSection (os : List OptionSpec) : String :=
  "Options:\n" ++ columns (os.map fun o => (o.spec, o.helpText))

def topHelp (p : ProgramSpec) : String :=
  p.about ++ "\n\nUsage: " ++ p.topUsage ++ "\n\nCommands:\n" ++
    columns (p.allCommands.map fun c => (c.name, c.about)) ++ "\n" ++ optionsSection p.topOptions

def commandHelp (p : ProgramSpec) (c : CommandSpec) : String :=
  let options := p.commandOptions c
  let argument := match argumentShown c, c.positional with
    | some shown, some a => ["Arguments:\n" ++ columns [(shown, a.help)]]
    | some shown, none => ["Arguments:\n" ++ columns [(shown, "Print help for the subcommand(s)")]]
    | none, _ => []
  let sections := argument ++ (if options.isEmpty then [] else [optionsSection options])
  c.about ++ "\n\nUsage: " ++ p.commandUsage c ++ "\n\n" ++ "\n".intercalate sections

end ProgramSpec

end CommandLine

end RuleEngine
