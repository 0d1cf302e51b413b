/-!
# Similarity of names

The Jaro similarity of two texts, in binary floating point with each quotient and sum rounded as
it is formed. A name is suggested above the float nearest to `0.7`, so a similarity of exactly
seven tenths (`utpmx` and `output`) counts as similar.
-/

set_option autoImplicit false

namespace RuleEngine

namespace Text

/-- Marks the first unmarked place of `b` in `[lo, hi)` that holds `c`, if there is one. -/
def markFirst (b : Array Char) (marks : Array Bool) (c : Char) (lo hi : Nat) : Option (Array Bool) :=
  let candidates := (List.range (hi - lo)).map (· + lo)
  match candidates.find? fun j => b[j]? == some c && marks[j]? == some false with
  | some j => some (marks.set! j true)
  | none => none

def matchMarks (a b : Array Char) : Array Bool × Array Bool :=
  let range := max a.size b.size / 2 - 1
  (List.range a.size).foldl (fun (am, bm) i =>
    let lo := i - range
    let hi := min b.size (i + range + 1)
    match a[i]? with
    | some c =>
      match markFirst b bm c lo hi with
      | some bm' => (am.set! i true, bm')
      | none => (am, bm)
    | none => (am, bm)) (Array.replicate a.size false, Array.replicate b.size false)

/-- The number of matches and of transpositions between two texts. -/
def matchCounts (s t : String) : Nat × Nat :=
  let a := s.toList.toArray
  let b := t.toList.toArray
  let (am, bm) := matchMarks a b
  let pick (cs : Array Char) (ms : Array Bool) : List Char :=
    (cs.toList.zip ms.toList).filterMap fun (c, m) => if m then some c else none
  let ma := pick a am
  let mb := pick b bm
  (ma.length, ((ma.zip mb).countP fun (x, y) => x != y) / 2)

def jaro (s t : String) : Float :=
  let la := s.length
  let lb := t.length
  if la = 0 ∧ lb = 0 then 1
  else if la = 0 ∨ lb = 0 then 0
  else
    let (m, tr) := matchCounts s t
    if m = 0 then 0
    else
      let mf := Float.ofNat m
      (mf / Float.ofNat la + mf / Float.ofNat lb + Float.ofNat (m - tr) / mf) / 3

def similarityBar : Float := 0.7

/-- The names similar enough to `v`, least similar first, ties in list order. -/
def similarNames (v : String) (names : List String) : List String :=
  let scored := (names.map fun n => (jaro v n, n)).filter fun (r, _) => r > similarityBar
  (scored.mergeSort fun x y => x.1 ≤ y.1).map (·.2)

end Text

end RuleEngine
