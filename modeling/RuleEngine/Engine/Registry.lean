import RuleEngine.Engine.Evidence

/-!
# The registry

Evidence nodes, model documents, the dependents of each id (the chainable rules that read it) and
the host callbacks. Evaluating a node plans an effect from the current state and applies it; an
evaluation that fails changes nothing.
-/

set_option autoImplicit false

namespace RuleEngine

structure Registry where
  evidence : IdMap Evidence := {}
  models : IdMap Json := {}
  dependents : IdMap (List String) := {}
  callbacks : List String := []
deriving DecidableEq, Inhabited

/-- What evaluating one node did: the ids it changed and activated, and the callbacks it called. -/
structure Step where
  changed : List String := []
  activations : List String := []
  callbacks : List String := []
deriving Repr

inductive Effect where
  | refresh
  | assign (target : String) (value : Value)
  | trigger (operating : String)
  | callback (name : String)
  | condition (result : Value)

namespace Registry

def addModel (r : Registry) (id : String) (doc : Json) : Except EngineError Registry :=
  if r.models.contains id then .error (.duplicateModel id)
  else .ok { r with models := r.models.insert id doc }

def model (r : Registry) (id : String) : Except EngineError Json :=
  match r.models.get? id with
  | some doc => .ok doc
  | none => .error (.unknownModel id)

def putModel (r : Registry) (id : String) (doc : Json) : Registry :=
  { r with models := r.models.insert id doc }

def addEvidence (r : Registry) (n : Evidence) : Except EngineError Registry :=
  if r.evidence.contains n.id then .error (.duplicateEvidence n.id)
  else .ok { r with evidence := r.evidence.insert n.id n }

def dependentsOf (r : Registry) (id : String) : List String := (r.dependents.get? id).getD []

def addDependent (r : Registry) (id dependent : String) : Registry :=
  let ds := r.dependentsOf id
  { r with dependents := r.dependents.insert id (if ds.contains dependent then ds else ds ++ [dependent]) }

/-- Makes every chainable rule, in id order, a dependent of each id its condition reads. -/
def linkChainableRules (r : Registry) : Registry :=
  let links := (r.evidence.values.filter Evidence.isChainableRule).flatMap fun rule =>
    rule.dependentEvidence.map fun dep => (dep, rule.id)
  links.foldl (fun r (dep, rule) => r.addDependent dep rule) r

def registerCallback (r : Registry) (name : String) : Except EngineError Registry :=
  if r.callbacks.contains name then .error (.duplicateCallback name)
  else .ok { r with callbacks := (IdMap.insertSorted name () (r.callbacks.map (·, ()))).map (·.1) }

def lookup (r : Registry) (id : String) : Except EngineError Evidence :=
  match r.evidence.get? id with
  | some n => .ok n
  | none => .error (.unknownEvidence id)

def contains (r : Registry) (id : String) : Bool := r.evidence.contains id

def size (r : Registry) : Nat := r.evidence.size

/-- The nodes that start a pass: facts and chainable rules, in id order. -/
def seeds (r : Registry) : List String :=
  (r.evidence.values.filter fun n => n.isFact || n.isChainableRule).map (·.id)

def factsBoundTo (r : Registry) (model : String) : List String :=
  (r.evidence.values.filter fun n => n.isFact && n.modelId? == some model).map (·.id)

def factValues (r : Registry) : List (String × Option Value) :=
  (r.evidence.values.filter Evidence.isFact).map fun n => (n.id, n.value)

def putNode (r : Registry) (n : Evidence) : Registry := { r with evidence := r.evidence.insert n.id n }

def setEvaluatable (r : Registry) (id : String) (on : Bool) : Except EngineError Registry := do
  let n ← r.lookup id
  return r.putNode { n with evaluatable := on }

def value (r : Registry) (id : String) : Except EngineError (Option Value) := do
  let n ← r.lookup id
  if !n.evaluatable then throw (.notEvaluatable id)
  return n.value

/-- Sets the value of a node that is switched on; answers whether it changed. -/
def setValue (r : Registry) (id : String) (v : Value) : Except EngineError (Registry × Bool) := do
  let n ← r.lookup id
  if !n.evaluatable then throw (.notEvaluatable id)
  let (src, models, changed) ← n.source.set v r.models
  return ({ r.putNode { n with source := src } with models := models }, changed)

def reset (r : Registry) (id : String) : Except EngineError Registry := do
  let n ← r.lookup id
  return r.putNode { n with source := n.source.reset }

/-- The value an expression reads for an id: the node's value, or the invalid value when it has
none. -/
def resolve (r : Registry) (id : String) : Except EngineError Value := do
  return (← r.value id).getD .invalid

/-- Plans the effect of evaluating a node; an assignment refuses an invalid value and a non-fact
target. -/
def plan (r : Registry) (n : Evidence) : Except EngineError Effect :=
  match n.kind with
  | .fact => .ok .refresh
  | .assignment target e => do
    let v ← e.evaluate r.resolve EngineError.expression
    if v.isInvalid then throw (.invalidExpression n.id e.source)
    let t ← r.lookup target
    if !t.isFact then throw (.notAFact n.id target)
    return .assign target v
  | .trigger operating => .ok (.trigger operating)
  | .callback name => .ok (.callback name)
  | .rule body => do return .condition (← body.condition.evaluate r.resolve EngineError.expression)

def apply (r : Registry) (id : String) : Effect → Except EngineError (Registry × Step)
  | .refresh => do
    let n ← r.lookup id
    let (src, changed) ← n.source.evaluate r.models
    return (r.putNode { n with source := src }, { changed := if changed then [id] else [] })
  | .assign target v => do
    let (r, changed) ← r.setValue target v
    return (r, { changed := if changed then [target] else [], activations := [target] })
  | .trigger operating => .ok (r, { activations := [operating] })
  | .callback name => .ok (r, { callbacks := [name] })
  | .condition result => do
    let n ← r.lookup id
    let src := n.source.reset
    match result with
    | .boolean truth =>
      let (src, models, changed) ← src.set (.boolean truth) r.models
      let n := { n with source := src }
      let r := { r.putNode n with models := models }
      if changed then return (r, { changed := [id], activations := n.clauseEvidence })
      else return (r, {})
    | _ => return (r.putNode { n with source := src.clear.1 }, {})

def evaluateEvidence (r : Registry) (id : String) : Except EngineError (Registry × Step) := do
  let n ← r.lookup id
  if !n.evaluatable then
    if n.isFact then return (r, {}) else throw (.notEvaluatable id)
  let effect ← r.plan n
  r.apply id effect

end Registry

end RuleEngine
