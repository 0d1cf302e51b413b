import RuleEngine.Binary64.Basic
import RuleEngine.Decimal.Basic

/-!
# Reading a float from decimal text

An optional sign, then `inf`, `infinity` or `nan` in any case, or digits with an optional point
and exponent; the value is the float nearest to the decimal, ties to even.
-/

set_option autoImplicit false

namespace RuleEngine

attribute [local instance (1100)] instPowNat

namespace Decimal

def digitsValue (ds : List Char) : Nat :=
  ds.foldl (fun acc c => acc * 10 + (c.toNat - '0'.toNat)) 0

def spanDigits (cs : List Char) : List Char × List Char :=
  (cs.takeWhile Char.isDigit, cs.dropWhile Char.isDigit)

def readSign : List Char → Bool × List Char
  | '+' :: rest => (false, rest)
  | '-' :: rest => (true, rest)
  | cs => (false, cs)

def readExponent : List Char → Option Int
  | [] => some 0
  | c :: rest =>
    if c = 'e' ∨ c = 'E' then
      let (negative, rest) := readSign rest
      let (ds, tail) := spanDigits rest
      if ds.isEmpty || !tail.isEmpty then none
      else
        let n : Int := digitsValue ds
        some (if negative then -n else n)
    else none

def readUnsigned (cs : List Char) : Option Decimal :=
  let (whole, rest) := spanDigits cs
  let (fraction, rest) := match rest with
    | '.' :: more => spanDigits more
    | _ => ([], rest)
  if whole.isEmpty && fraction.isEmpty then none
  else
    match readExponent rest with
    | some x => some ⟨digitsValue (whole ++ fraction), x - fraction.length⟩
    | none => none

/-- The float nearest to a non-negative decimal; far outside the range it is an infinity or zero at
once. -/
def toFloat (d : Decimal) : Float :=
  if d.digits = 0 then 0.0
  else
    let top := (digitCount d.digits : Int) + d.exponent
    if 310 ≤ top then 1.0 / 0.0
    else if top ≤ -324 then 0.0
    else if 0 ≤ d.exponent then (Binary64.nearest (d.digits * 10 ^ d.exponent.toNat) 1).toFloatBits
    else (Binary64.nearest d.digits (10 ^ d.exponent.natAbs)).toFloatBits

def asciiLower (cs : List Char) : List Char := cs.map Char.toLower

/-- Reads a float from the whole text, or `none` when the text is not in the grammar. -/
def readFloat? (s : String) : Option Float :=
  let (negative, rest) := readSign s.toList
  let signed (x : Float) : Float := if negative then -x else x
  let word := asciiLower rest
  if word = "inf".toList ∨ word = "infinity".toList then some (signed (1.0 / 0.0))
  else if word = "nan".toList then some (signed (0.0 / 0.0))
  else (readUnsigned rest).map fun d => signed d.toFloat

end Decimal

end RuleEngine
