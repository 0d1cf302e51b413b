import RuleEngine.Binary64.Basic
import RuleEngine.Decimal.Shortest

/-!
# Writing a float

A float is written with its shortest decimal; a `Layout` decides where positional notation ends,
`.0` on integers, how an exponent is marked and how ties are broken.
-/

set_option autoImplicit false

namespace RuleEngine

structure Layout where
  lowest : Option Int
  highest : Option Int
  pointZero : Bool
  plusSign : Bool
  exponentWidth : Nat
  nan : String
  infinity : String
  tie : Tie
deriving Repr

namespace Layout

/-- The text of a number value: always positional, no `.0` on integers, ties toward the larger
magnitude. -/
def plain : Layout :=
  ⟨none, none, false, false, 1, "NaN", "inf", .up⟩

/-- Numbers in JSON text: positional for leading exponents from -5 to 15, `.0` on integers, ties to
even. -/
def json : Layout :=
  ⟨some (-5), some 15, true, true, 1, "null", "null", .even⟩

def isPositional (l : Layout) (x : Int) : Bool :=
  (match l.lowest with | some lo => decide (lo ≤ x) | none => true) &&
  (match l.highest with | some hi => decide (x ≤ hi) | none => true)

def decimal (l : Layout) (d : Decimal) : String :=
  if d.digits = 0 || l.isPositional d.leadingExponent then d.positional l.pointZero
  else d.scientific l.plusSign l.exponentWidth

def float (l : Layout) (x : Float) : String :=
  match Binary64.ofFloat x with
  | .nan => l.nan
  | .infinity negative => (if negative then "-" else "") ++ l.infinity
  | .finite negative m e =>
    let d : Decimal := if m = 0 then ⟨0, 0⟩ else Decimal.shortest l.tie m e
    (if negative then "-" else "") ++ l.decimal d

end Layout

end RuleEngine
