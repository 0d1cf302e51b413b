import RuleEngine.Binary64.Basic
import RuleEngine.Decimal.Layout

/-!
# Values

A value of the expression language: a binary64 number, a boolean, a text, a node handle or the
invalid value. Numbers compare by float equality, so `0 = -0` and NaN differs from itself.
-/

set_option autoImplicit false

namespace RuleEngine

/-- The kind of a value that is not invalid. -/
inductive ValueKind where
  | number
  | boolean
  | text
  | node
deriving DecidableEq, Repr

inductive Value where
  | number (x : Float)
  | boolean (b : Bool)
  | text (s : String)
  | node (handle : String)
  | invalid
deriving DecidableEq, Repr, Inhabited

namespace ValueKind

def name : ValueKind → String
  | .number => "number"
  | .boolean => "boolean"
  | .text => "text"
  | .node => "node"

/-- The names a kind is read from, the older name first. -/
def names : List String := ["double", "number", "bool", "boolean", "string", "text", "node"]

/-- The kind a name stands for, older names included; names are case-sensitive. -/
def ofName? : String → Option ValueKind
  | "double" | "number" => some .number
  | "bool" | "boolean" => some .boolean
  | "string" | "text" => some .text
  | "node" => some .node
  | _ => none

end ValueKind

namespace Value

def typeName : Value → String
  | .number _ => "Number"
  | .boolean _ => "Boolean"
  | .text _ => "Text"
  | .node _ => "Node"
  | .invalid => "Invalid"

/-- The kind of a value; the invalid value has none. -/
def kind : Value → Option ValueKind
  | .number _ => some .number
  | .boolean _ => some .boolean
  | .text _ => some .text
  | .node _ => some .node
  | .invalid => none

def isInvalid : Value → Bool
  | .invalid => true
  | _ => false

def asBool? : Value → Option Bool
  | .boolean b => some b
  | _ => none

def asNumber? : Value → Option Float
  | .number x => some x
  | _ => none

/-- Equality of values: one kind and equal there, numbers by float equality. -/
def beq : Value → Value → Bool
  | .number a, .number b => a == b
  | .boolean a, .boolean b => a == b
  | .text a, .text b => a == b
  | .node a, .node b => a == b
  | .invalid, .invalid => true
  | _, _ => false

instance : BEq Value := ⟨beq⟩

/-- The order of two floats, none when one is NaN. -/
def compareFloat (a b : Float) : Option Ordering :=
  if a < b then some .lt else if b < a then some .gt else if a == b then some .eq else none

def compare? : Value → Value → Option Ordering
  | .number a, .number b => compareFloat a b
  | .text a, .text b => some (compare a b)
  | .boolean a, .boolean b => some (compare a b)
  | _, _ => none

/-- The text of a value: numbers by `Layout.plain`, `<invalid>` for the invalid value. -/
def display : Value → String
  | .number x => Layout.plain.float x
  | .boolean b => if b then "true" else "false"
  | .text s => s
  | .node h => h
  | .invalid => "<invalid>"

end Value

end RuleEngine
