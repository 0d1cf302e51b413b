import RuleEngine.Value.Basic

/-!
# Tokens

Operators bind by precedence, higher tighter: `^` 48; `* / %` 32; `+ -` 16; `> < >= <=` 8;
`== !=` 4; `NOT` 3; `AND` 2; `OR XOR` 1. Functions bind at 64 and every other token at 0.
-/

set_option autoImplicit false

namespace RuleEngine

inductive Operator where
  | add | sub | mul | div | rem | pow
  | eq | ne | gt | lt | ge | le
  | and | or | xor | not
deriving DecidableEq, Repr

inductive Builtin where
  | isNull
deriving DecidableEq, Repr

inductive Token where
  | openParen
  | closeParen
  | builtin (f : Builtin)
  | operator (op : Operator)
  | literal (v : Value)
  | identifier (name : String)
deriving DecidableEq, Repr, Inhabited

namespace Operator

def all : List Operator :=
  [.add, .sub, .mul, .div, .rem, .pow, .eq, .ne, .gt, .lt, .ge, .le, .and, .or, .xor, .not]

def symbol : Operator → String
  | .add => "+" | .sub => "-" | .mul => "*" | .div => "/" | .rem => "%" | .pow => "^"
  | .eq => "==" | .ne => "!=" | .gt => ">" | .lt => "<" | .ge => ">=" | .le => "<="
  | .and => "AND" | .or => "OR" | .xor => "XOR" | .not => "NOT"

def ofSymbol? (s : String) : Option Operator := all.find? (·.symbol == s)

def precedence : Operator → Nat
  | .pow => 48
  | .mul | .div | .rem => 32
  | .add | .sub => 16
  | .gt | .lt | .ge | .le => 8
  | .eq | .ne => 4
  | .not => 3
  | .and => 2
  | .or | .xor => 1

def arity : Operator → Nat
  | .not => 1
  | _ => 2

end Operator

namespace Builtin

def name : Builtin → String
  | .isNull => "ISNULL"

def ofName? : String → Option Builtin
  | "ISNULL" => some .isNull
  | _ => none

def precedence : Nat := 64

def arity : Builtin → Nat
  | .isNull => 1

end Builtin

namespace Token

/-- How tightly a token binds when it waits on the operator stack. -/
def precedence : Token → Nat
  | .operator op => op.precedence
  | .builtin _ => Builtin.precedence
  | _ => 0

/-- The text of a token: a text literal between double quotes, other literals by their display. -/
def render : Token → String
  | .openParen => "("
  | .closeParen => ")"
  | .builtin f => f.name
  | .operator op => op.symbol
  | .literal (.text s) => "\"" ++ s ++ "\""
  | .literal v => v.display
  | .identifier name => name

def isOpenParen : Token → Bool
  | .openParen => true
  | _ => false

def isBuiltin : Token → Bool
  | .builtin _ => true
  | _ => false

/-- Equality of tokens, literals by value equality. -/
def beq : Token → Token → Bool
  | .openParen, .openParen => true
  | .closeParen, .closeParen => true
  | .builtin f, .builtin g => f == g
  | .operator a, .operator b => a == b
  | .literal a, .literal b => a == b
  | .identifier a, .identifier b => a == b
  | _, _ => false

instance : BEq Token := ⟨beq⟩

end Token

/-- Tokens written with single spaces between them. -/
def renderTokens (ts : List Token) : String := " ".intercalate (ts.map Token.render)

/-- The identifiers of a token sequence, each once, in order of first appearance. -/
def identifiersOf (ts : List Token) : List String :=
  ts.foldl (fun ids t => match t with
    | .identifier n => if ids.contains n then ids else ids ++ [n]
    | _ => ids) []

end RuleEngine
