import RuleEngine.Expression.Postfix
import RuleEngine.Expression.Operation

/-!
# Running a postfix program

A program runs on a stack of values, the right operand on top, and must end with exactly one
value. The resolver's errors are of its own type `ε`; the program's own faults reach it by `lift`.
-/

set_option autoImplicit false

namespace RuleEngine

namespace Machine

variable {ε : Type}

def pop (lift : ExprError → ε) (t : Token) : List Value → Except ε (Value × List Value)
  | v :: rest => .ok (v, rest)
  | [] => .error (lift (.malformedProgram ("stack underflow at '" ++ t.render ++ "'")))

def step (resolve : String → Except ε Value) (lift : ExprError → ε) (stack : List Value) :
    Token → Except ε (List Value)
  | .literal v => .ok (v :: stack)
  | .identifier n => do return (← resolve n) :: stack
  | t@(.operator op) =>
    if op.arity = 1 then do
      let (v, rest) ← pop lift t stack
      return op.applyUnary v :: rest
    else do
      let (r, rest) ← pop lift t stack
      let (l, rest) ← pop lift t rest
      return op.apply l r :: rest
  | t@(.builtin f) => do
    let (v, rest) ← pop lift t stack
    return f.call v :: rest
  | .openParen | .closeParen => .error (lift (.malformedProgram "parenthesis in postfix program"))

end Machine

def runProgram {ε : Type} (resolve : String → Except ε Value) (lift : ExprError → ε)
    (program : List Token) : Except ε Value := do
  let stack ← program.foldlM (Machine.step resolve lift) []
  match stack with
  | [v] => return v
  | [] => .error (lift (.malformedProgram "program produced no value"))
  | vs => .error (lift (.malformedProgram (digitString vs.length ++ " values left on the stack")))

def Expression.evaluate {ε : Type} (e : Expression) (resolve : String → Except ε Value)
    (lift : ExprError → ε) : Except ε Value :=
  runProgram resolve lift e.program

/-- A resolver from a list of bindings: an identifier without one is unbound. -/
def resolveIn (env : List (String × Value)) (n : String) : Except ExprError Value :=
  match env.find? (·.1 == n) with
  | some (_, v) => .ok v
  | none => .error (.unboundIdentifier n)

end RuleEngine
