import RuleEngine.Value.Basic
import RuleEngine.Json.Basic

/-!
# Values as JSON

An integral number below `2^53` in magnitude is a JSON integer, any other finite number a JSON
float, a non-finite number and the invalid value `null`, a node `{"node": handle}`.
-/

set_option autoImplicit false

namespace RuleEngine

attribute [local instance (1100)] instPowNat

namespace Value

def toJson : Value → Json
  | .number x =>
    let parts := Binary64.ofFloat x
    if parts.isIntegral && parts.truncate.natAbs < 2 ^ (53 : Nat) then Json.int parts.truncate
    else if x.isFinite then .number (.float x)
    else .null
  | .boolean b => .bool b
  | .text s => .string s
  | .node h => .object [("node", .string h)]
  | .invalid => .null

/-- The value of a JSON scalar: booleans, numbers (as the nearest float) and strings. -/
def ofJson? : Json → Option Value
  | .bool b => some (.boolean b)
  | .number n => some (.number n.toFloat)
  | .string s => some (.text s)
  | _ => none

end Value

end RuleEngine
