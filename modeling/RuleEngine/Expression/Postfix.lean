import RuleEngine.Expression.Lexer

/-!
# Postfix programs

Infix tokens become a postfix program by the shunting-yard method, and the program is checked to
take no more operands than it has and to leave exactly one value (`checkArity`).
-/

set_option autoImplicit false

namespace RuleEngine

namespace Postfix

/-- Moves waiting tokens to the program while the top is no opening parenthesis and binds at least
as tightly as `prec`. -/
def popWhileBinding (prec : Nat) : List Token → List Token → List Token × List Token
  | [], out => ([], out)
  | top :: stack, out =>
    if top.isOpenParen || top.precedence < prec then (top :: stack, out)
    else popWhileBinding prec stack (top :: out)

def popToOpen : List Token → List Token → Option (List Token × List Token)
  | [], _ => none
  | .openParen :: stack, out => some (stack, out)
  | top :: stack, out => popToOpen stack (top :: out)

/-- One token of the shunting-yard. `out` is the program so far, reversed. -/
def step (src : String) (st : List Token × List Token) (t : Token) :
    Except ExprError (List Token × List Token) :=
  let (stack, out) := st
  match t with
  | .literal _ | .identifier _ => .ok (stack, t :: out)
  | .builtin _ | .openParen | .operator .not => .ok (t :: stack, out)
  | .operator _ =>
    let (stack, out) := popWhileBinding t.precedence stack out
    .ok (t :: stack, out)
  | .closeParen =>
    match popToOpen stack out with
    | none => .error (.unbalancedExpression src)
    | some (f :: stack, out) => if f.isBuiltin then .ok (stack, f :: out) else .ok (f :: stack, out)
    | some ([], out) => .ok ([], out)

def drain (src : String) : List Token → List Token → Except ExprError (List Token)
  | [], out => .ok out.reverse
  | .openParen :: _, _ => .error (.unbalancedExpression src)
  | top :: stack, out => drain src stack (top :: out)

end Postfix

def toPostfix (src : String) (tokens : List Token) : Except ExprError (List Token) := do
  let (stack, out) ← tokens.foldlM (Postfix.step src) ([], [])
  Postfix.drain src stack out

namespace Postfix

def malformed (message : String) : ExprError := .malformedProgram message

/-- How many operands a token takes from the stack, or `none` for a parenthesis. -/
def takes : Token → Option Nat
  | .literal _ | .identifier _ => some 0
  | .openParen | .closeParen => none
  | .operator op => some op.arity
  | .builtin f => some f.arity

/-- The stack depth after the tokens; the first token that lacks operands, or a parenthesis, is an
error. -/
def depthAfter : Nat → List Token → Except ExprError Nat
  | depth, [] => .ok depth
  | depth, t :: rest =>
    match takes t with
    | none => .error (malformed "parenthesis in postfix program")
    | some 0 => depthAfter (depth + 1) rest
    | some arity =>
      if depth < arity then
        .error (malformed ("'" ++ t.render ++ "' needs " ++ digitString arity ++
          " operand(s), found " ++ digitString depth))
      else depthAfter (depth - arity + 1) rest

end Postfix

def checkArity (program : List Token) : Except ExprError Unit :=
  if program.isEmpty then .error (Postfix.malformed "empty expression")
  else match Postfix.depthAfter 0 program with
    | .error e => .error e
    | .ok 1 => .ok ()
    | .ok d => .error (Postfix.malformed ("program leaves " ++ digitString d ++ " values on the stack"))

/-- A compiled expression: its text, tokens, postfix program, and the identifiers it reads in order.
-/
structure Expression where
  source : String
  tokens : List Token
  program : List Token
  dependencies : List String
deriving DecidableEq, Repr, Inhabited

def Expression.compile (src : String) : Except ExprError Expression := do
  let tokens ← tokenize src
  let program ← toPostfix src tokens
  checkArity program
  return ⟨src, tokens, program, identifiersOf tokens⟩

end RuleEngine
