import RuleEngine.Engine.Error

/-!
# Priorities

An integer from 1 to 999, lower first within a class of nodes; the bounds are part of the type.
-/

set_option autoImplicit false

namespace RuleEngine

structure Priority where
  value : Int
  lower : 1 ≤ value := by decide
  upper : value ≤ 999 := by decide
deriving DecidableEq, Repr

namespace Priority

/-- The priority of a node that names none. -/
def default : Priority := ⟨500, by decide, by decide⟩

instance : Inhabited Priority := ⟨default⟩

def ofInt (n : Int) : Except EngineError Priority :=
  if h : 1 ≤ n ∧ n ≤ 999 then .ok ⟨n, h.1, h.2⟩ else .error (.invalidPriority n)

theorem ofInt_value {n : Int} {p : Priority} (h : ofInt n = .ok p) : p.value = n := by
  unfold ofInt at h
  split at h
  · cases h; rfl
  · cases h

end Priority

end RuleEngine
