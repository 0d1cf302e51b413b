/-! # Errors of the expression language -/

set_option autoImplicit false

namespace RuleEngine

/-- Why an expression could not be compiled or run. -/
inductive ExprError where
  | invalidToken (token : String)
  | unbalancedExpression (expression : String)
  | unknownOperator (operator : String)
  | unknownFunction (name : String)
  | malformedProgram (message : String)
  | unboundIdentifier (name : String)
deriving DecidableEq, Repr

def ExprError.message : ExprError → String
  | .invalidToken t => "invalid token: " ++ t
  | .unbalancedExpression e => "unbalanced expression: " ++ e
  | .unknownOperator o => "unknown operator: " ++ o
  | .unknownFunction n => "unknown function: " ++ n
  | .malformedProgram m => "malformed program: " ++ m
  | .unboundIdentifier n => "unbound identifier: " ++ n

end RuleEngine
