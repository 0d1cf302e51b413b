import RuleEngine.Binary64.Basic
import RuleEngine.Decimal.Basic

/-!
# The shortest decimal that reads back

The decimal with the fewest significant digits inside the rounding interval of a finite positive
binary64 value, nearest to the value among those, found in exact `Nat` arithmetic.
-/

set_option autoImplicit false

namespace RuleEngine

attribute [local instance (1100)] instPowNat

/-- The reals that round to a binary64 value, scaled by `10^shift` to integers, and whether the ends
round to it. -/
structure RoundingInterval where
  shift : Nat
  low : Nat
  value : Nat
  high : Nat
  inclusive : Bool
deriving DecidableEq, Repr

/-- How an exact tie between the two shortest decimals nearest to a value is broken. -/
inductive Tie where
  | even
  | up
deriving DecidableEq, Repr

namespace RoundingInterval

def ofParts (m : Nat) (e : Int) : RoundingInterval :=
  let shift := (2 - e).toNat + 17
  let scale := 2 ^ (e - 2 + shift).toNat * 5 ^ shift
  let below := if Binary64.narrowBelow m e then 4 * m - 1 else 4 * m - 2
  { shift := shift
    low := below * scale
    value := 4 * m * scale
    high := (4 * m + 2) * scale
    inclusive := m % 2 == 0 }

def contains (I : RoundingInterval) (c : Nat) : Bool :=
  if I.inclusive then I.low ≤ c && c ≤ I.high else I.low < c && c < I.high

/-- The multiple `q·g` inside the interval nearest to the value, as `q`; only the two grid points
around it can be. -/
def pick (I : RoundingInterval) (tie : Tie) (g : Nat) : Option Nat :=
  let q := I.value / g
  if I.value % g = 0 then some q
  else
    let below := q * g
    let above := (q + 1) * g
    match I.contains below, I.contains above with
    | true, true =>
      if I.value - below < above - I.value then some q
      else if above - I.value < I.value - below then some (q + 1)
      else match tie with
        | .even => if q % 2 = 0 then some q else some (q + 1)
        | .up => some (q + 1)
    | true, false => some q
    | false, true => some (q + 1)
    | false, false => none

def search (I : RoundingInterval) (tie : Tie) (top : Nat) : Nat → Nat → Option (Nat × Nat)
  | 0, _ => none
  | fuel + 1, n =>
    let p := top + 1 - n
    match I.pick tie (10 ^ p) with
    | some q => some (q, p)
    | none => search I tie top fuel (n + 1)

end RoundingInterval

namespace Decimal

/-- The shortest decimal inside the rounding interval of `m·2^e`; seventeen significant digits
always suffice. -/
def shortest (tie : Tie) (m : Nat) (e : Int) : Decimal :=
  let I := RoundingInterval.ofParts m e
  let top := digitCount I.value - 1
  match I.search tie top 17 1 with
  | some (q, p) => normalize ⟨q, (p : Int) - I.shift⟩
  | none => normalize ⟨I.value, -(I.shift : Int)⟩

end Decimal

end RuleEngine
