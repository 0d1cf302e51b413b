import RuleEngine.Engine.Registry

/-!
# Evaluating a node in place

`Registry.evaluateInPlace` follows the engine's evaluation write by write in `EStateM`, whose
failures keep the state they reach. Facts and assignments check everything before they write; a
rule forgets its cached value first, so the forgetting stays when storing the new value fails.
-/

set_option autoImplicit false

namespace RuleEngine

namespace Registry

def lift {α : Type} : Except EngineError α → EStateM EngineError Registry α
  | .ok a => pure a
  | .error e => throw e

@[simp] theorem run_lift_ok {α : Type} (a : α) (r : Registry) :
    (lift (.ok a)).run r = .ok a r := rfl

@[simp] theorem run_lift_error {α : Type} (e : EngineError) (r : Registry) :
    (lift (.error e : Except EngineError α)).run r = .error e r := rfl

@[simp] theorem run_map {α β : Type} (f : α → β) (x : EStateM EngineError Registry α) (r : Registry) :
    (f <$> x).run r = match x.run r with
      | .ok a r' => .ok (f a) r'
      | .error e r' => .error e r' := by
  show EStateM.map f x r = _
  simp only [EStateM.map, EStateM.run]
  cases x r <;> rfl

/-- Adds a node under a new id, writing into the registry. -/
def addInPlace (n : Evidence) : EStateM EngineError Registry Unit := do
  set (← lift ((← get).addEvidence n))

def applyInPlace (id : String) : Effect → EStateM EngineError Registry Step
  | .refresh => do
    let r ← get
    let n ← lift (r.lookup id)
    let (src, changed) ← lift (n.source.evaluate r.models)
    set (r.putNode { n with source := src })
    return { changed := if changed then [id] else [] }
  | .assign target v => do
    let (r, changed) ← lift ((← get).setValue target v)
    set r
    return { changed := if changed then [target] else [], activations := [target] }
  | .trigger operating => return { activations := [operating] }
  | .callback name => return { callbacks := [name] }
  | .condition result => do
    let n ← lift ((← get).lookup id)
    -- the cached value is forgotten first, whatever the result is
    let n := { n with source := n.source.reset }
    modify (·.putNode n)
    match result with
    | .boolean truth =>
      let r ← get
      let (src, models, changed) ← lift (n.source.set (.boolean truth) r.models)
      let n := { n with source := src }
      set { r.putNode n with models := models }
      return if changed then { changed := [id], activations := n.clauseEvidence } else {}
    | _ =>
      modify (·.putNode { n with source := n.source.clear.1 })
      return {}

/-- What the interface answers for a step: its registry and result, or its failure alone. -/
def report {α : Type} : EStateM.Result EngineError Registry α → Except EngineError (Registry × α)
  | .ok a r => .ok (r, a)
  | .error e _ => .error e

def evaluateInPlace (id : String) : EStateM EngineError Registry Step := do
  let r ← get
  let n ← lift (r.lookup id)
  if !n.evaluatable then
    if n.isFact then return {} else throw (.notEvaluatable id)
  let effect ← lift (r.plan n)
  applyInPlace id effect

end Registry

end RuleEngine
