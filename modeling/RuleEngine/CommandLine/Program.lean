import RuleEngine.CommandLine.Parse

/-!
# The engine's command line

`eval` loads a rule set and runs one pass, `check` lists a compiled rule set's nodes, `expr`
evaluates one expression; global options choose the format, `--quiet` and the log filter.
-/

set_option autoImplicit false

namespace RuleEngine

namespace CommandLine

inductive OutputFormat where
  | text
  | json
deriving DecidableEq, Repr

inductive Task where
  | eval (ruleset : String) (models : List String) (trace : Bool)
  | check (ruleset : String)
  | expr (expression : String) (facts : List String)
deriving Repr

structure Invocation where
  format : OutputFormat := .text
  quiet : Bool := false
  logFilter : Option String := none
  task : Task
deriving Repr

def rulesetArgument : PositionalSpec := ⟨"RULESET", "Path to the rule-set JSON file"⟩

def program : ProgramSpec where
  name := "evident"
  version := "0.1.0"
  about := "Evident forward-chaining rule engine"
  globals := [
    { long := "output", valueName := some "OUTPUT", action := .setValue
      help := "Output format (text or json)", choices := ["text", "json"], default := some "text" },
    { long := "quiet", action := .setFlag, help := "Suppress non-essential output" },
    { long := "log-level", valueName := some "FILTER", action := .setValue
      help := "Log filter (overrides RUST_LOG), e.g. `debug` or `evident_eval=trace`" }]
  commands := [
    { name := "eval", about := "Load a rule set and run one evaluation pass"
      positional := some rulesetArgument
      options := [
        { long := "model", valueName := some "ID=PATH", action := .appendValue
          help := "Bind a JSON model document (repeatable)" },
        { long := "trace", action := .setFlag, help := "Include the evaluation trace in the output" }] },
    { name := "check", about := "Compile a rule set and list its evidence", positional := some rulesetArgument },
    { name := "expr", about := "Compile and evaluate a single expression"
      positional := some ⟨"EXPRESSION", "The expression source"⟩
      options := [
        { long := "fact", valueName := some "ID=VALUE", action := .appendValue
          help := "Bind a literal fact; VALUE is JSON, or plain text (repeatable)" }] }]

def valuesOf (options : List (OptionSpec × List String)) (long : String) : List String :=
  ((options.find? (·.1.long == long)).map (·.2)).getD []

def Invocation.ofCommand (command argument : String) (options : List (OptionSpec × List String)) :
    Invocation :=
  let format := if (valuesOf options "output").getLast? == some "json" then OutputFormat.json else .text
  let quiet := options.any (·.1.long == "quiet")
  let logFilter := (valuesOf options "log-level").getLast?
  let task := match command with
    | "eval" => Task.eval argument (valuesOf options "model") (options.any (·.1.long == "trace"))
    | "check" => .check argument
    | _ => .expr argument (valuesOf options "fact")
  { format := format, quiet := quiet, logFilter := logFilter, task := task }

/-- What a command line comes to: text to print and an exit status, or work to do. -/
inductive Request where
  | done (status : Nat) (stdout stderr : String)
  | work (inv : Invocation)

def Request.ofArgs (args : List String) : Request :=
  match program.parse args with
  | .help text => .done 0 text ""
  | .failed text => .done 2 "" text
  | .run command argument options => .work (Invocation.ofCommand command argument options)

end CommandLine

end RuleEngine
