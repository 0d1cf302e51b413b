/-!
# Binary64 values by their parts

A float is NaN, an infinity, or `±m·2^e`. Decimal printing, the exact remainder and the checks on
integral values work on the parts, in exact arithmetic, never on rounded float operations.
-/

set_option autoImplicit false

namespace RuleEngine

-- `^` is the core library's power of naturals, whatever other instances are in scope.
attribute [local instance (1100)] instPowNat

inductive Binary64 where
  | nan
  | infinity (negative : Bool)
  | finite (negative : Bool) (significand : Nat) (exponent : Int)
deriving DecidableEq, Repr

namespace Binary64

/-- The exponent shared by the subnormals and the smallest normal binade. -/
def minExponent : Int := -1074

/-- Splits the sign bit, the eleven exponent bits and the 52 fraction bits; subnormals share the
smallest normal exponent. -/
def ofBits (bits : UInt64) : Binary64 :=
  let n : Nat := bits.toNat
  let negative : Bool := decide (2 ^ (63 : Nat) ≤ n)
  let biased : Nat := n / 2 ^ (52 : Nat) % 2 ^ (11 : Nat)
  let fraction : Nat := n % 2 ^ (52 : Nat)
  if biased = 2047 then
    if fraction = 0 then .infinity negative else .nan
  else if biased = 0 then .finite negative fraction minExponent
  else .finite negative (fraction + 2 ^ (52 : Nat)) ((biased : Int) - 1075)

def ofFloat (x : Float) : Binary64 := ofBits x.toBits

/-- The float nearest to a value given by its parts, ties to even; a negative zero keeps its sign.
-/
def toFloat : Binary64 → Float
  | .nan => 0.0 / 0.0
  | .infinity negative => if negative then -(1.0 / 0.0) else 1.0 / 0.0
  | .finite negative m e =>
    let magnitude :=
      if 0 ≤ e then Float.ofNat (m * 2 ^ e.toNat)
      else Float.ofScientific (m * 5 ^ e.natAbs) true e.natAbs
    if negative then -magnitude else magnitude

/-- Whether the gap below the value is half the gap above it: the smallest significand of a binade
with one below. -/
def narrowBelow (m : Nat) (e : Int) : Bool :=
  m = 2 ^ (52 : Nat) && minExponent < e

def isIntegral : Binary64 → Bool
  | .finite _ m e => decide (0 ≤ e) || m % 2 ^ e.natAbs == 0
  | _ => false

def truncate : Binary64 → Int
  | .finite negative m e =>
    let magnitude : Nat := if 0 ≤ e then m * 2 ^ e.toNat else m / 2 ^ e.natAbs
    if negative then -(magnitude : Int) else magnitude
  | _ => 0

/-- The largest exponent of a finite value: the largest one is `(2^53 - 1)·2^971`. -/
def maxExponent : Int := 971

def scaled (a b : Nat) (e : Int) : Nat × Nat :=
  if e < 0 then (a * 2 ^ e.natAbs, b) else (a, b * 2 ^ e.toNat)

/-- The `k` with `2^k ≤ a / b < 2^(k+1)`, from the difference of the bit lengths. -/
def floorLog2 (a b : Nat) : Int :=
  let k : Int := (a.log2 : Int) - b.log2
  let (n, d) := scaled a b k
  if d ≤ n then k else k - 1

/-- The integer nearest to `a / (b·2^e)`, ties to even. -/
def roundAt (a b : Nat) (e : Int) : Nat :=
  let (n, d) := scaled a b e
  let q := n / d
  let r := n % d
  if d < 2 * r || (2 * r = d && q % 2 = 1) then q + 1 else q

/-- The non-negative value nearest to `a / b`, ties to even, and an infinity past the largest finite
value. -/
def nearest (a b : Nat) : Binary64 :=
  if a = 0 then .finite false 0 minExponent
  else
    let e := max minExponent (floorLog2 a b - 52)
    let q := roundAt a b e
    -- rounding up to `2^53` moves the value to the next binade
    let (m, e) := if q = 2 ^ (53 : Nat) then (2 ^ (52 : Nat), e + 1) else (q, e)
    if maxExponent < e then .infinity false else .finite false m e

/-- The bit pattern of a value; NaN is the quiet NaN with the sign bit clear. -/
def bits : Binary64 → Nat
  | .nan => 0x7FF8000000000000
  | .infinity negative => (if negative then 2 ^ (63 : Nat) else 0) + 2047 * 2 ^ (52 : Nat)
  | .finite negative m e =>
    (if negative then 2 ^ (63 : Nat) else 0) +
      (if m < 2 ^ (52 : Nat) then m else (e + 1075).toNat * 2 ^ (52 : Nat) + (m - 2 ^ (52 : Nat)))

def toFloatBits (b : Binary64) : Float := Float.ofBits (UInt64.ofNat b.bits)

theorem ofBits_zero : ofBits 0 = .finite false 0 minExponent := by decide +kernel

end Binary64

/-- The remainder `x - n·y` of the division truncated toward zero, computed exactly; it keeps the
sign of `x`. -/
def Binary64.remainder (x y : Float) : Float :=
  match Binary64.ofFloat x, Binary64.ofFloat y with
  | .finite negative mx ex, .finite _ my ey =>
    if my = 0 then Binary64.nan.toFloat
    else
      let e := min ex ey
      let a := mx * 2 ^ (ex - e).toNat
      let b := my * 2 ^ (ey - e).toNat
      (Binary64.finite negative (a % b) e).toFloat
  | .finite .., .infinity _ => x
  | _, _ => Binary64.nan.toFloat

end RuleEngine
