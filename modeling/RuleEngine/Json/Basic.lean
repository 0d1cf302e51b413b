import RuleEngine.Decimal.Layout

/-!
# JSON values

Numbers remember how they were written (a non-negative integer, a negative integer or a float), so
a value written and read again keeps its kind. Object members are sorted by key, each key once.
-/

set_option autoImplicit false

namespace RuleEngine

/-- A JSON number as written: a non-negative integer below `2^64`, a negative one of at least
`-2^63`, or a float. -/
inductive JsonNumber where
  | nat (n : Nat)
  | neg (n : Int)
  | float (x : Float)
deriving DecidableEq, Repr

inductive Json where
  | null
  | bool (b : Bool)
  | number (n : JsonNumber)
  | string (s : String)
  | array (items : List Json)
  | object (members : List (String × Json))
deriving Repr, Inhabited

namespace JsonNumber

def toFloat : JsonNumber → Float
  | .nat n => Float.ofNat n
  | .neg n => Float.ofInt n
  | .float x => x

/-- The text of the number: integers in decimal, floats by `Layout.json`. -/
def render : JsonNumber → String
  | .nat n => digitString n
  | .neg n => "-" ++ digitString n.natAbs
  | .float x => Layout.json.float x

/-- The number for an integer: the non-negative kind for `n ≥ 0`. -/
def ofInt (n : Int) : JsonNumber := if 0 ≤ n then .nat n.toNat else .neg n

end JsonNumber

namespace Json

mutual
def beq : Json → Json → Bool
  | .null, .null => true
  | .bool a, .bool b => a == b
  | .number a, .number b => a == b
  | .string a, .string b => a == b
  | .array xs, .array ys => beqItems xs ys
  | .object ms, .object ns => beqMembers ms ns
  | _, _ => false
def beqItems : List Json → List Json → Bool
  | [], [] => true
  | x :: xs, y :: ys => beq x y && beqItems xs ys
  | _, _ => false
def beqMembers : List (String × Json) → List (String × Json) → Bool
  | [], [] => true
  | (k, x) :: ms, (l, y) :: ns => k == l && beq x y && beqMembers ms ns
  | _, _ => false
end

theorem beq_iff (a b : Json) : beq a b = true ↔ a = b := by
  -- one motive for values, one for members, one for items, as the three functions recur
  refine beq.induct (fun a b => beq a b = true ↔ a = b) (fun ms ns => beqMembers ms ns = true ↔ ms = ns)
    (fun xs ys => beqItems xs ys = true ↔ xs = ys) ?_ ?_ ?_ ?_ ?_ ?_ ?_ ?_ ?_ ?_ ?_ ?_ ?_ a b
  · simp [beq]
  · simp [beq]
  · simp [beq]
  · simp [beq]
  · intro xs ys items
    simp [beq, items]
  · intro ms ns members
    simp [beq, members]
  · intro a b notNull notBool notNumber notString notArray notObject
    cases a <;> cases b <;> simp_all [beq]
  · simp [beqItems]
  · intro x xs y ys item items
    simp [beqItems, item, items]
  · intro xs ys notNil notCons
    match xs, ys with
    | [], [] => exact (notNil rfl rfl).elim
    | _ :: _, _ :: _ => exact (notCons _ _ _ _ rfl rfl).elim
    | [], _ :: _ | _ :: _, [] => simp [beqItems]
  · simp [beqMembers]
  · intro k x ms l y ns member members
    simp [beqMembers, member, members, and_assoc]
  · intro ms ns notNil notCons
    match ms, ns with
    | [], [] => exact (notNil rfl rfl).elim
    | _ :: _, _ :: _ => exact (notCons _ _ _ _ _ _ rfl rfl).elim
    | [], _ :: _ | _ :: _, [] => simp [beqMembers]

instance : DecidableEq Json := fun a b => decidable_of_iff _ (beq_iff a b)

/-- Inserts a member into members sorted by key, replacing the value of an equal key. -/
def insertMember (k : String) (v : Json) : List (String × Json) → List (String × Json)
  | [] => [(k, v)]
  | (k', v') :: rest =>
    if k < k' then (k, v) :: (k', v') :: rest
    else if k = k' then (k, v) :: rest
    else (k', v') :: insertMember k v rest

/-- The members of an object built from pairs in order; a later key replaces an earlier one. -/
def membersOf (pairs : List (String × Json)) : List (String × Json) :=
  pairs.foldl (fun acc (k, v) => insertMember k v acc) []

def mkObject (pairs : List (String × Json)) : Json := .object (membersOf pairs)

def lookupMember (k : String) : List (String × Json) → Option Json
  | [] => none
  | (k', v) :: rest => if k = k' then some v else lookupMember k rest

def int (n : Int) : Json := .number (JsonNumber.ofInt n)

def nat (n : Nat) : Json := .number (.nat n)

def strings (xs : List String) : Json := .array (xs.map Json.string)

end Json

end RuleEngine
