import RuleEngine.Engine.Registry
import RuleEngine.Engine.Worklist

/-!
# A pass

From the seeds, a pass pops the pending node of lowest rank, evaluates it and schedules what it
touched, until nothing is pending; the first error ends it. `Registry.runPass` bounds the number
of evaluations by `fuel`.
-/

set_option autoImplicit false

namespace RuleEngine

inductive TraceEvent where
  | evaluated (id : String)
  | changed (id : String) (value : Option Value)
  | activated (source id : String)
  | callback (action name : String)
deriving Repr

namespace TraceEvent

def evaluations (events : List TraceEvent) : List String :=
  events.filterMap fun
    | .evaluated id => some id
    | _ => none

def changesOf (events : List TraceEvent) (id : String) : Nat :=
  events.countP fun
    | .changed c _ => c == id
    | _ => false

def activationsOf (events : List TraceEvent) (id : String) : Nat :=
  events.countP fun
    | .activated _ t => t == id
    | _ => false

def callbackNames (events : List TraceEvent) : List String :=
  events.filterMap fun
    | .callback _ name => some name
    | _ => none

end TraceEvent

structure PassSummary where
  evaluations : Nat := 0
  changes : Nat := 0
  activations : Nat := 0
  callbacks : Nat := 0
deriving Repr

inductive PassEnd where
  | finished
  | failed (e : EngineError)
  | exhausted
deriving Repr

/-- A pass under way: the registry, the pending nodes, the counts and the events so far. -/
structure Scheduler where
  registry : Registry
  worklist : Worklist := {}
  summary : PassSummary := {}
  trace : Array TraceEvent := #[]

namespace Scheduler

/-- Schedules a node at its rank and switches it on; answers whether it was not pending. -/
def enqueue (s : Scheduler) (id : String) : Except EngineError (Scheduler × Bool) := do
  let n ← s.registry.lookup id
  let n := { n with evaluatable := true }
  let (w, added) := s.worklist.push id n.rank
  return ({ s with registry := s.registry.putNode n, worklist := w }, added)

def enqueueAll (s : Scheduler) : List String → Except (EngineError × Scheduler) Scheduler
  | [] => .ok s
  | id :: rest =>
    match s.enqueue id with
    | .ok (s', _) => enqueueAll s' rest
    | .error e => .error (e, s)

def seed (s : Scheduler) : Except (EngineError × Scheduler) Scheduler :=
  s.enqueueAll s.registry.seeds

def record (s : Scheduler) (e : TraceEvent) : Scheduler := { s with trace := s.trace.push e }

/-- Counts and records each changed id, then schedules the other facts bound to its model. -/
def afterChanges (s : Scheduler) : List String → Except (EngineError × Scheduler) Scheduler
  | [] => .ok s
  | c :: rest =>
    let s := { s with summary := { s.summary with changes := s.summary.changes + 1 } }
    match s.registry.lookup c with
    | .error e => .error (e, s)
    | .ok n =>
      let s := s.record (.changed c n.value)
      let peers := match n.modelId? with
        | some m => if n.isFact then (s.registry.factsBoundTo m).filter (· != c) else []
        | none => []
      match s.enqueueAll peers with
      | .ok s => afterChanges s rest
      | .error e => .error e

def afterActivations (s : Scheduler) (source : String) :
    List String → Except (EngineError × Scheduler) Scheduler
  | [] => .ok s
  | t :: rest =>
    let s := { s with summary := { s.summary with activations := s.summary.activations + 1 } }
    let s := s.record (.activated source t)
    match s.enqueue t with
    | .ok (s, _) => afterActivations s source rest
    | .error e => .error (e, s)

def afterCallbacks (s : Scheduler) (action : String) (names : List String) : Scheduler :=
  names.foldl (fun s name =>
    let s := { s with summary := { s.summary with callbacks := s.summary.callbacks + 1 } }
    s.record (.callback action name)) s

def step (s : Scheduler) (id : String) : Except (EngineError × Scheduler) Scheduler := do
  match s.registry.evaluateEvidence id with
  | .error e => .error (e, s)
  | .ok (r, st) =>
    let s := { s with registry := r, summary := { s.summary with evaluations := s.summary.evaluations + 1 } }
    let s := s.record (.evaluated id)
    let s ← s.afterChanges st.changed
    let s ← s.afterActivations id st.activations
    let s := s.afterCallbacks id st.callbacks
    s.enqueueAll (s.registry.dependentsOf id)

def run : Nat → Scheduler → Scheduler × PassEnd
  | 0, s => if s.worklist.isEmpty then (s, .finished) else (s, .exhausted)
  | fuel + 1, s =>
    match s.worklist.pop with
    | (none, _) => (s, .finished)
    | (some id, w) =>
      match step { s with worklist := w } id with
      | .ok s => run fuel s
      | .error (e, s) => (s, .failed e)

end Scheduler

def Registry.runPass (r : Registry) (fuel : Nat) : Scheduler × PassEnd :=
  match ({ registry := r } : Scheduler).seed with
  | .ok s => s.run fuel
  | .error (e, s) => (s, .failed e)

/-- A bound far beyond any run that could be waited for: the engine's pass has no cap of its own. -/
def passFuel : Nat := 1000000000000

def Registry.evaluate (r : Registry) : Scheduler × PassEnd := r.runPass passFuel

end RuleEngine
