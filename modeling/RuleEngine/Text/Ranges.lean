/-!
# Character classes as range tables

Sorted, disjoint, inclusive code-point ranges, searched by bisection.
-/

set_option autoImplicit false

namespace RuleEngine

structure CharRanges where
  ranges : Array (Nat × Nat)

namespace CharRanges

/-- Whether `n` lies in one of the ranges with index in `[lo, hi)`. -/
def containsIn (t : CharRanges) (n : Nat) (lo hi : Nat) : Bool :=
  if _h : lo < hi then
    let mid := (lo + hi) / 2
    match t.ranges[mid]? with
    | some (a, b) =>
      if n < a then t.containsIn n lo mid
      else if b < n then t.containsIn n (mid + 1) hi
      else true
    | none => false
  else false
termination_by hi - lo

def contains (t : CharRanges) (c : Char) : Bool := t.containsIn c.toNat 0 t.ranges.size

end CharRanges

end RuleEngine
