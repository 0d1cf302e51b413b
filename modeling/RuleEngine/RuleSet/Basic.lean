import RuleEngine.Engine.InPlace

/-!
# Rule sets

Facts and rules as an author writes them. Compiling stages one node per fact and, per rule, one
node per action (id `rule-operating-n`) followed by the rule's node.
-/

set_option autoImplicit false

namespace RuleEngine

/-- A fact: literal (`value`), or bound to a `model` document at a `path` and read as `kind`. -/
structure FactDef where
  id : String
  priority : Priority := .default
  value : Option Json := none
  model : Option String := none
  path : Option String := none
  kind : Option ValueKind := none
deriving Repr

inductive ActionWork where
  | evaluate (target expression : String)
  | execute (target : String)
  | callback (name : String)
deriving Repr

/-- An action as written: its work, the truth of the condition it fires on, its priority. -/
structure ActionDef where
  work : ActionWork
  result : Bool := true
  priority : Priority := .default
deriving Repr

structure RuleDef where
  id : String
  condition : String
  priority : Priority := .default
  chainable : Bool := false
  actions : List ActionDef
deriving Repr

structure RuleSet where
  facts : List FactDef := []
  rules : List RuleDef := []
deriving Repr

namespace ActionWork

/-- The id an action works on: the target, or the callback's name. -/
def operating : ActionWork → String
  | .evaluate target _ => target
  | .execute target => target
  | .callback name => name

end ActionWork

namespace FactDef

/-- The node of a fact: a bound fact needs a model and a path and no literal; `null` is no value. -/
def toEvidence (f : FactDef) : Except EngineError Evidence :=
  let invalid (message : String) : EngineError := .invalidRuleset ("fact " ++ f.id ++ ": " ++ message)
  match f.model, f.path with
  | some model, some path =>
    if f.value.isSome then .error (invalid "a bound fact cannot also hold a literal value")
    else .ok (.fact f.id f.priority (.bound { modelId := model, path := path, kind := f.kind.getD .text }))
  | some _, none => .error (invalid "a bound fact needs a path")
  | none, some _ => .error (invalid "a path needs a model")
  | none, none =>
    match f.value with
    | none | some .null => .ok (.fact f.id f.priority (.naked none))
    | some j => match Value.ofJson? j with
      | some v => .ok (.fact f.id f.priority (.naked (some v)))
      | none => .error (invalid "literal values must be scalars")

end FactDef

namespace ActionDef

def toEvidence (a : ActionDef) (id : String) : Except EngineError Evidence :=
  match a.work with
  | .evaluate target expression => Evidence.assignment id a.priority target expression
  | .execute target => .ok (Evidence.trigger id a.priority target)
  | .callback name => .ok (Evidence.callback id a.priority name)

end ActionDef

/-- The id of the `n`-th action of a rule. -/
def actionId (rule : String) (a : ActionDef) (n : Nat) : String :=
  rule ++ "-" ++ a.work.operating ++ "-" ++ digitString n

namespace RuleDef

def toEvidence (r : RuleDef) : Except EngineError (List Evidence) := do
  let numbered := r.actions.zipIdx
  let actions ← numbered.mapM fun (a, n) => a.toEvidence (actionId r.id a n)
  let clauses := numbered.map fun (a, n) => ({ truth := a.result, action := actionId r.id a n } : Clause)
  let rule ← Evidence.rule r.id r.priority r.condition clauses r.chainable
  return actions ++ [rule]

end RuleDef

namespace RuleSet

/-- The staged nodes: the facts, then each rule's actions and rule, in order. -/
def build (rs : RuleSet) : Except EngineError (List Evidence) := do
  let facts ← rs.facts.mapM FactDef.toEvidence
  let rules ← rs.rules.mapM RuleDef.toEvidence
  return facts ++ rules.flatten

/-- The first staged id that is taken, by the registry or by an earlier staged node. -/
def firstTaken (r : Registry) : List String → List String → Option String
  | _, [] => none
  | seen, id :: rest => if r.contains id || seen.contains id then some id else firstTaken r (id :: seen) rest

/-- Loads the rule set into a registry: all of its nodes, or none. -/
def loadInto (rs : RuleSet) (r : Registry) : Except EngineError Registry := do
  let staged ← rs.build
  if let some id := firstTaken r [] (staged.map (·.id)) then throw (.duplicateEvidence id)
  let r ← staged.foldlM Registry.addEvidence r
  return r.linkChainableRules

/-- Loads where the registry stands: checks every staged id first, then adds the nodes one at a
time. -/
def loadInPlace (rs : RuleSet) : EStateM EngineError Registry Unit := do
  let staged ← Registry.lift rs.build
  if let some id := firstTaken (← get) [] (staged.map (·.id)) then throw (.duplicateEvidence id)
  staged.forM Registry.addInPlace
  modify Registry.linkChainableRules

def compile (rs : RuleSet) : Except EngineError Registry := rs.loadInto {}

end RuleSet

end RuleEngine
