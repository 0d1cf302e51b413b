import RuleEngine.Expression.Error
import RuleEngine.Decimal.Basic

/-!
# Errors of the engine

An expression's own error passes through with its own text.
-/

set_option autoImplicit false

namespace RuleEngine

inductive EngineError where
  | duplicateEvidence (id : String)
  | duplicateModel (id : String)
  | duplicateCallback (name : String)
  | unknownEvidence (id : String)
  | unknownModel (id : String)
  | notEvaluatable (id : String)
  | invalidExpression (id expression : String)
  | invalidPriority (priority : Int)
  | invalidRule (id message : String)
  | notAFact (action target : String)
  | document (modelId message : String)
  | invalidRuleset (message : String)
  | expression (e : ExprError)
deriving DecidableEq, Repr

def intString (n : Int) : String := (if n < 0 then "-" else "") ++ digitString n.natAbs

def EngineError.message : EngineError → String
  | .duplicateEvidence id => "duplicate evidence: " ++ id
  | .duplicateModel id => "duplicate model: " ++ id
  | .duplicateCallback name => "duplicate callback: " ++ name
  | .unknownEvidence id => "unknown evidence: " ++ id
  | .unknownModel id => "unknown model: " ++ id
  | .notEvaluatable id => "evidence not evaluatable: " ++ id
  | .invalidExpression id e => "action " ++ id ++ ": expression `" ++ e ++ "` evaluated to an invalid value"
  | .invalidPriority p => "invalid priority " ++ intString p ++ ": expected a value between 1 and 999"
  | .invalidRule id m => "invalid rule " ++ id ++ ": " ++ m
  | .notAFact a t => "action " ++ a ++ " targets " ++ t ++ ", which is not a fact"
  | .document m msg => "model " ++ m ++ ": " ++ msg
  | .invalidRuleset m => "invalid rule set: " ++ m
  | .expression e => e.message

end RuleEngine
