import RuleEngine.CommandLine.Program
import RuleEngine.CommandLine.LogFilter
import RuleEngine.RuleSet.Decode
import RuleEngine.Engine.Pass
import RuleEngine.Json.Print
import RuleEngine.Expression.Machine

/-!
# Running the engine's commands

A command reads files through a lookup and answers with an exit status and the texts of standard
output and error. Every failure exits with status 1 and one line, as text or `{"error": ...}`.
-/

set_option autoImplicit false

namespace RuleEngine

namespace CommandLine

structure Outcome where
  status : Nat
  stdout : String := ""
  stderr : String := ""
deriving Repr

/-- Splits `ID=VALUE` at the first `=`; the id is trimmed and may not be empty. -/
def splitBinding (arg : String) : Option (String × String) :=
  let cs := arg.toList
  match cs.idxOf? '=' with
  | some i =>
    let id := Text.trim (String.ofList (cs.take i))
    if id.isEmpty then none else some (id, String.ofList (cs.drop (i + 1)))
  | none => none

/-- A fact's value from the command line: a JSON scalar keeps its type, anything else is text. -/
def literalValue (raw : String) : Value :=
  match Json.parse raw with
  | .ok j => (Value.ofJson? j).getD (.text raw)
  | .error _ => .text raw

namespace Invocation

def report (inv : Invocation) (msg : String) : String :=
  if inv.quiet then ""
  else match inv.format with
    | .text => msg ++ "\n"
    | .json => (Json.mkObject [("error", .string msg)]).compact ++ "\n"

def fail (inv : Invocation) (msg : String) : Outcome := { status := 1, stderr := inv.report msg }

def answer (inv : Invocation) (text : String) : Outcome :=
  { status := 0, stdout := if inv.quiet then "" else text }

def loadRegistry (inv : Invocation) (files : String → Option String) (path : String) :
    Except Outcome Registry :=
  match files path with
  | none => .error (inv.fail ("error: rule set not found: " ++ path))
  | some text =>
    match RuleSet.ofText text >>= RuleSet.compile with
    | .ok r => .ok r
    | .error e => .error (inv.fail ("error: " ++ path ++ ": " ++ e.message))

def binding (inv : Invocation) (flag arg : String) : Except Outcome (String × String) :=
  match splitBinding arg with
  | some b => .ok b
  | none => .error (inv.fail ("error: invalid " ++ flag ++ " '" ++ arg ++ "': expected ID=VALUE"))

def addModels (inv : Invocation) (files : String → Option String) (r : Registry) :
    List String → Except Outcome Registry
  | [] => .ok r
  | arg :: rest => do
    let (id, path) ← inv.binding "--model" arg
    let some text := files path | throw (inv.fail ("error: model file not found: " ++ path))
    let doc ← match Json.parse text with
      | .ok doc => pure doc
      | .error e => throw (inv.fail ("error: invalid JSON in " ++ path ++ ": " ++ e.message))
    let r ← match r.addModel id doc with
      | .ok r => pure r
      | .error e => throw (inv.fail ("error: " ++ e.message))
    addModels inv files r rest

end Invocation

def detailLine (n : Evidence) : Option String :=
  match n.kind, n.source with
  | .fact, .bound b => some ("bound: " ++ b.modelId ++ ":" ++ b.path ++ " as " ++ b.kind.name)
  | .fact, .naked _ => none
  | .assignment target _, _ => some ("writes: " ++ target)
  | .trigger operating, _ => some ("triggers: " ++ operating)
  | .callback name, _ => some ("calls: " ++ name)
  | .rule body, _ =>
    some ("clauses: " ++ ", ".intercalate (body.clauses.map fun c =>
      c.action ++ " when " ++ (if c.truth then "true" else "false")))

def checkText (r : Registry) : String :=
  let node (n : Evidence) : String :=
    "  " ++ n.id ++ " [" ++ n.kindName ++ "] priority " ++ intString n.priority.value ++
      " (rank " ++ intString n.rank ++ ")\n" ++
    (match n.expression? with
      | some e => "    postfix: " ++ renderTokens e.program ++ "\n"
      | none => "") ++
    (if n.dependentEvidence.isEmpty then "" else "    reads: " ++ ", ".intercalate n.dependentEvidence ++ "\n") ++
    (match detailLine n with
      | some line => "    " ++ line ++ "\n"
      | none => "") ++
    (let ds := r.dependentsOf n.id
     if ds.isEmpty then "" else "    schedules: " ++ ", ".intercalate ds ++ "\n")
  digitString r.size ++ " evidence node(s):\n" ++ String.join (r.evidence.values.map node)

def checkJson (path : String) (r : Registry) : Json :=
  let node (n : Evidence) : Json :=
    Json.mkObject <|
      [("id", .string n.id), ("kind", .string n.kindName), ("priority", Json.int n.priority.value),
        ("rank", Json.int n.rank)] ++
      (match n.expression? with
        | some e => [("expression", .string e.source), ("postfix", .string (renderTokens e.program)),
            ("dependencies", Json.strings e.dependencies)]
        | none => []) ++
      (detailLine n).toList.map (fun line => ("detail", .string line)) ++
      [("schedules", Json.strings (r.dependentsOf n.id))]
  Json.mkObject [("ruleset", .string path), ("evidence", .array (r.evidence.values.map node))]

def eventLine : TraceEvent → String
  | .evaluated id => "evaluate " ++ id
  | .changed id (some v) => "change   " ++ id ++ " -> " ++ v.display
  | .changed id none => "change   " ++ id ++ " -> <unset>"
  | .activated source id => "activate " ++ id ++ " (by " ++ source ++ ")"
  | .callback action name => "callback " ++ name ++ " (from " ++ action ++ ")"

def eventJson : TraceEvent → Json
  | .evaluated id => Json.mkObject [("event", .string "evaluated"), ("id", .string id)]
  | .changed id v => Json.mkObject [("event", .string "changed"), ("id", .string id),
      ("value", (v.map Value.toJson).getD .null)]
  | .activated source id => Json.mkObject [("event", .string "activated"), ("by", .string source),
      ("id", .string id)]
  | .callback action name => Json.mkObject [("event", .string "callback"), ("action", .string action),
      ("name", .string name)]

def summaryJson (s : PassSummary) : Json :=
  Json.mkObject [("evaluations", Json.nat s.evaluations), ("changes", Json.nat s.changes),
    ("activations", Json.nat s.activations), ("callbacks", Json.nat s.callbacks)]

def evalText (r : Registry) (summary : PassSummary) (trace : Option (List TraceEvent)) : String :=
  String.join (r.factValues.map fun (id, v) =>
    id ++ " = " ++ (match v with
      | some v => v.display
      | none => "<unset>") ++ "\n") ++
  (match trace with
    | some events => "trace:\n" ++ String.join (events.map fun e => "  " ++ eventLine e ++ "\n")
    | none => "") ++
  digitString summary.evaluations ++ " evaluation(s), " ++ digitString summary.changes ++ " change(s), " ++
    digitString summary.activations ++ " activation(s), " ++ digitString summary.callbacks ++ " callback(s)\n"

def evalJson (r : Registry) (summary : PassSummary) (trace : Option (List TraceEvent)) : Json :=
  Json.mkObject <|
    [("facts", Json.mkObject (r.factValues.map fun (id, v) => (id, (v.map Value.toJson).getD .null))),
      ("models", Json.mkObject r.models.entries), ("summary", summaryJson summary)] ++
    (trace.map fun events => ("trace", .array (events.map eventJson))).toList

namespace Invocation

def check (inv : Invocation) (files : String → Option String) (path : String) : Outcome :=
  match inv.loadRegistry files path with
  | .error o => o
  | .ok r =>
    match inv.format with
    | .text => inv.answer (checkText r)
    | .json => inv.answer ((checkJson path r).pretty ++ "\n")

def eval (inv : Invocation) (files : String → Option String) (path : String) (models : List String)
    (trace : Bool) : Outcome :=
  let run : Except Outcome Outcome := do
    let r ← inv.loadRegistry files path
    let r ← inv.addModels files r models
    let (s, ending) := r.evaluate
    match ending with
    | .failed e => throw (inv.fail ("evaluation error: " ++ e.message))
    | .exhausted => throw (inv.fail "evaluation error: the pass did not settle")
    | .finished =>
      let events := if trace then some s.trace.toList else none
      match inv.format with
      | .text => return inv.answer (evalText s.registry s.summary events)
      | .json => return inv.answer ((evalJson s.registry s.summary events).pretty ++ "\n")
  match run with
  | .ok o => o
  | .error o => o

def expr (inv : Invocation) (source : String) (facts : List String) : Outcome :=
  let run : Except Outcome Outcome := do
    let e ← match Expression.compile source with
      | .ok e => pure e
      | .error err => throw (inv.fail ("compile error: " ++ err.message))
    let env ← facts.foldlM (fun (env : IdMap Value) arg => do
      let (id, raw) ← inv.binding "--fact" arg
      return env.insert id (literalValue raw)) {}
    let v ← match e.evaluate (resolveIn env.entries) id with
      | .ok v => pure v
      | .error err => throw (inv.fail ("evaluation error: " ++ err.message))
    match inv.format with
    | .text =>
      return inv.answer ("infix:   " ++ renderTokens e.tokens ++ "\npostfix: " ++ renderTokens e.program ++
        "\nresult:  " ++ v.display ++ " (" ++ v.typeName ++ ")\n")
    | .json =>
      let answer := Json.mkObject [("expression", .string e.source), ("infix", .string (renderTokens e.tokens)),
        ("postfix", .string (renderTokens e.program)), ("dependencies", Json.strings e.dependencies),
        ("type", .string v.typeName), ("result", v.toJson)]
      return inv.answer (answer.pretty ++ "\n")
  match run with
  | .ok o => o
  | .error o => o

def paths (inv : Invocation) : List String :=
  match inv.task with
  | .eval ruleset models _ => ruleset :: models.filterMap fun m => (splitBinding m).map (·.2)
  | .check ruleset => [ruleset]
  | .expr .. => []

def run (inv : Invocation) (files : String → Option String) : Outcome :=
  let warnings := String.join (((inv.logFilter.map LogFilter.warnings).getD []).map (· ++ "\n"))
  let o := match inv.task with
    | .eval ruleset models trace => inv.eval files ruleset models trace
    | .check ruleset => inv.check files ruleset
    | .expr source facts => inv.expr source facts
  { o with stderr := warnings ++ o.stderr }

end Invocation

def runArgs (args : List String) (files : String → Option String) : Outcome :=
  match Request.ofArgs args with
  | .done status out err => { status := status, stdout := out, stderr := err }
  | .work inv => inv.run files

end CommandLine

end RuleEngine
