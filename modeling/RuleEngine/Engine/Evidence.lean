import RuleEngine.Engine.Source
import RuleEngine.Engine.Priority
import RuleEngine.Expression.Machine

/-!
# Evidence

A node of the registry: a fact, an action or a rule. Its rank is its priority scaled by its class
(facts by 1, actions by 10^3, rules by 10^6, chainable rules by 10^9), so that with priorities
below 1000 every fact comes before every action, every action before every rule.
-/

set_option autoImplicit false

namespace RuleEngine

/-- An action that fires when a rule's condition has the clause's truth. -/
structure Clause where
  truth : Bool
  action : String
deriving DecidableEq, Repr

/-- A rule: its condition, its clauses in order, and whether it re-runs when what it reads changes.
-/
structure RuleBody where
  condition : Expression
  clauses : List Clause
  chainable : Bool
deriving DecidableEq, Repr

inductive EvidenceKind where
  | fact
  | assignment (target : String) (expression : Expression)
  | trigger (operating : String)
  | callback (name : String)
  | rule (body : RuleBody)
deriving DecidableEq, Repr

structure Evidence where
  id : String
  priority : Priority
  evaluatable : Bool := true
  source : ValueSource
  kind : EvidenceKind
deriving DecidableEq, Repr

namespace Evidence

def fact (id : String) (priority : Priority) (source : ValueSource) : Evidence :=
  { id, priority, source, kind := .fact }

def literal (id : String) (priority : Priority) (v : Value) : Evidence :=
  fact id priority (.naked (some v))

def assignment (id : String) (priority : Priority) (target src : String) :
    Except EngineError Evidence := do
  let e ← (Expression.compile src).mapError EngineError.expression
  return { id, priority, source := .naked none, kind := .assignment target e }

def trigger (id : String) (priority : Priority) (operating : String) : Evidence :=
  { id, priority, source := .naked none, kind := .trigger operating }

def callback (id : String) (priority : Priority) (name : String) : Evidence :=
  { id, priority, source := .naked none, kind := .callback name }

/-- A rule: it needs a clause, and a chainable one only clauses for true, checked before compiling.
-/
def rule (id : String) (priority : Priority) (condition : String) (clauses : List Clause)
    (chainable : Bool) : Except EngineError Evidence := do
  if clauses.isEmpty then throw (.invalidRule id "a rule needs at least one clause")
  if chainable && clauses.any (!·.truth) then
    throw (.invalidRule id "chainable rules cannot hold false clauses")
  let c ← (Expression.compile condition).mapError EngineError.expression
  return { id, priority, source := .naked none, kind := .rule ⟨c, clauses, chainable⟩ }

def kindName (n : Evidence) : String :=
  match n.kind with
  | .fact => "fact"
  | .assignment .. => "action-expression"
  | .trigger _ => "action-execute"
  | .callback _ => "action-callback"
  | .rule body => if body.chainable then "chainable-rule" else "rule"

def isFact (n : Evidence) : Bool :=
  match n.kind with
  | .fact => true
  | _ => false

def isChainableRule (n : Evidence) : Bool :=
  match n.kind with
  | .rule body => body.chainable
  | _ => false

def value (n : Evidence) : Option Value := n.source.get

def modelId? (n : Evidence) : Option String := n.source.modelId?

def expression? (n : Evidence) : Option Expression :=
  match n.kind with
  | .assignment _ e => some e
  | .rule body => some body.condition
  | _ => none

def rank (n : Evidence) : Int :=
  let p := n.priority.value
  match n.kind with
  | .fact => p
  | .assignment .. | .trigger _ | .callback _ => p * 1000
  | .rule body => if body.chainable then p * 1000000000 else p * 1000000

/-- The ids a node's expression reads. -/
def dependentEvidence (n : Evidence) : List String :=
  match n.expression? with
  | some e => e.dependencies
  | none => []

/-- The ids a node acts on: an assignment's target, a trigger's node, a rule's clauses of its truth.
-/
def clauseEvidence (n : Evidence) : List String :=
  match n.kind with
  | .fact | .callback _ => []
  | .assignment target _ => [target]
  | .trigger operating => [operating]
  | .rule body =>
    match n.value.bind Value.asBool? with
    | some truth => (body.clauses.filter (·.truth == truth)).map (·.action)
    | none => []

end Evidence

end RuleEngine
