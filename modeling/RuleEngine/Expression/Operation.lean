import RuleEngine.Expression.Token
import RuleEngine.Binary64.Basic

/-!
# What the operators do

Every operator is total: operands it does not define give the invalid value. `+` also joins texts,
`%` is the remainder of truncated division, and `OR` counts a non-boolean as false.
-/

set_option autoImplicit false

namespace RuleEngine

namespace Operation

def numeric (f : Float → Float → Option Float) : Value → Value → Value
  | .number a, .number b => match f a b with
    | some x => .number x
    | none => .invalid
  | _, _ => .invalid

def add : Value → Value → Value
  | .invalid, _ => .invalid
  | _, .invalid => .invalid
  | .number a, .number b => .number (a + b)
  | l@(.text _), r => .text (l.display ++ r.display)
  | l, r@(.text _) => .text (l.display ++ r.display)
  | _, _ => .invalid

/-- Equality (`expect = true`) or inequality of two values that are not invalid. -/
def equality (expect : Bool) (l r : Value) : Value :=
  if l.isInvalid || r.isInvalid then .invalid else .boolean ((l == r) == expect)

/-- A comparison by the order of two values; no order gives the invalid value. -/
def ordering (test : Ordering → Bool) (l r : Value) : Value :=
  match l.compare? r with
  | some o => .boolean (test o)
  | none => .invalid

def logical (f : Bool → Bool → Bool) : Value → Value → Value
  | .boolean a, .boolean b => .boolean (f a b)
  | _, _ => .invalid

end Operation

/-- Applies an operator to two operands; `NOT` gives the invalid value here. -/
def Operator.apply : Operator → Value → Value → Value
  | .add => Operation.add
  | .sub => Operation.numeric fun a b => some (a - b)
  | .mul => Operation.numeric fun a b => some (a * b)
  | .div => Operation.numeric fun a b => if b == 0 then none else some (a / b)
  | .rem => Operation.numeric fun a b => if b == 0 then none else some (Binary64.remainder a b)
  | .pow => Operation.numeric fun a b =>
    let r := Float.pow a b
    if r.isFinite then some r else none
  | .eq => Operation.equality true
  | .ne => Operation.equality false
  | .gt => Operation.ordering (· == .gt)
  | .lt => Operation.ordering (· == .lt)
  | .ge => Operation.ordering (· != .lt)
  | .le => Operation.ordering (· != .gt)
  | .and => Operation.logical (· && ·)
  | .xor => Operation.logical (· != ·)
  | .or => fun l r => .boolean ((l.asBool?.getD false) || (r.asBool?.getD false))
  | .not => fun _ _ => .invalid

def Operator.applyUnary : Operator → Value → Value
  | .not, .boolean b => .boolean (!b)
  | _, _ => .invalid

def Builtin.call : Builtin → Value → Value
  | .isNull, v => .boolean v.isInvalid

end RuleEngine
