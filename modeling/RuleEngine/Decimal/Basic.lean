/-!
# Decimals

A decimal `digits · 10^exponent`; `normalize` moves trailing zeros into the exponent, which leaves
one written form per value.
-/

set_option autoImplicit false

namespace RuleEngine

structure Decimal where
  digits : Nat
  exponent : Int
deriving DecidableEq, Repr

/-- The number of decimal digits of `n`; zero has one digit. -/
def digitCount (n : Nat) : Nat := (Nat.toDigits 10 n).length

def digitString (n : Nat) : String := String.ofList (Nat.toDigits 10 n)

namespace Decimal

def normalize (d : Decimal) : Decimal :=
  if h : d.digits ≠ 0 ∧ d.digits % 10 = 0 then
    normalize ⟨d.digits / 10, d.exponent + 1⟩
  else d
termination_by d.digits
decreasing_by exact Nat.div_lt_self (Nat.pos_of_ne_zero h.1) (by decide)

/-- The exponent of the leading digit: the value lies in `[10^x, 10^(x+1))` for nonzero digits. -/
def leadingExponent (d : Decimal) : Int := d.exponent + digitCount d.digits - 1

def zeros (n : Nat) : String := String.ofList (List.replicate n '0')

/-- Positional notation: a point only where the exponent puts one, and `.0` on an integral value
when `pointZero`. -/
def positional (d : Decimal) (pointZero : Bool) : String :=
  let ds := digitString d.digits
  let n := ds.length
  if 0 ≤ d.exponent then
    ds ++ zeros d.exponent.toNat ++ (if pointZero then ".0" else "")
  else
    let k := d.exponent.natAbs
    if k < n then
      String.ofList (ds.toList.take (n - k)) ++ "." ++ String.ofList (ds.toList.drop (n - k))
    else "0." ++ zeros (k - n) ++ ds

/-- Exponent notation: `d.ddd`, `e`, the exponent's sign (`+` only when `plusSign`), at least
`width` digits. -/
def scientific (d : Decimal) (plusSign : Bool) (width : Nat) : String :=
  let ds := (digitString d.digits).toList
  let x := d.leadingExponent
  let mantissa := match ds with
    | [] => "0"
    | [c] => String.singleton c
    | c :: rest => String.singleton c ++ "." ++ String.ofList rest
  let xs := digitString x.natAbs
  let sign := if x < 0 then "-" else if plusSign then "+" else ""
  mantissa ++ "e" ++ sign ++ zeros (width - xs.length) ++ xs

end Decimal

end RuleEngine
