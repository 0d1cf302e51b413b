import RuleEngine.Json.Read

/-!
# Reading typed data from JSON text

An error raised by the meaning of a value has no place of its own: it gets the place where
reading stands when it leaves the innermost value being read. Arrays and objects are closed even
when reading their contents failed, so such an error is placed after them.
-/

set_option autoImplicit false

namespace RuleEngine

attribute [local instance (1100)] instPowNat

namespace Reader

/-- The error for a value of another kind at the next character: scalars are read to their end. -/
def foundInstead {α : Type} (expected : String) : Reader α := fixPosition do
  match ← peek with
  | some 'n' => eat; expectWord "ull".toList; problem (.invalidType .null expected)
  | some 't' => eat; expectWord "rue".toList; problem (.invalidType (.bool true) expected)
  | some 'f' => eat; expectWord "alse".toList; problem (.invalidType (.bool false) expected)
  | some '-' => eat; let n ← numberBody true; problem (.invalidType (.ofNumber n) expected)
  | some '"' => eat; let s ← stringBody; problem (.invalidType (.str s) expected)
  | some '[' => problem (.invalidType .sequence expected)
  | some '{' => problem (.invalidType .map expected)
  | some ch =>
    if ch.isDigit then do let n ← numberBody false; problem (.invalidType (.ofNumber n) expected)
    else failPeek .expectedSomeValue
  | none => failPeek .expectedSomeValue

/-- Combines a body's outcome with the closing step run after it: the body's error first. -/
def closing {α : Type} (body : Except JsonError α) (close : Except JsonError Unit) : Reader α :=
  match body, close with
  | .error e, _ => rethrow e
  | .ok _, .error e => rethrow e
  | .ok a, .ok () => pure a

def stringWith {α : Type} (expected : String) (visit : String → Reader α) : Reader α :=
  fixPosition do
    match ← skipBlanks with
    | none => failPeek .eofWhileParsingValue
    | some '"' => eat; visit (← stringBody)
    | some _ => foundInstead expected

def string : Reader String := stringWith "a string" pure

def boolean : Reader Bool := fixPosition do
  match ← skipBlanks with
  | none => failPeek .eofWhileParsingValue
  | some 't' => eat; expectWord "rue".toList; return true
  | some 'f' => eat; expectWord "alse".toList; return false
  | some _ => foundInstead "a boolean"

def maxSigned : Nat := 2 ^ (63 : Nat) - 1

/-- A number as a signed 64-bit integer: a float is of the wrong type, an integer out of range a
wrong value. -/
def signedOfNumber : JsonNumber → Except JsonProblem Int
  | .nat n => if n ≤ maxSigned then .ok n else .error (.invalidValue (.unsigned n) "i64")
  | .neg n => .ok n
  | .float x => .error (.invalidType (.float x) "i64")

def signed : Reader Int := fixPosition do
  match ← skipBlanks with
  | none => failPeek .eofWhileParsingValue
  | some ch =>
    let n ← if ch = '-' then do eat; numberBody true
      else if ch.isDigit then numberBody false
      else foundInstead "i64"
    match signedOfNumber n with
    | .ok i => return i
    | .error p => problem p

/-- Reads an array, its items by `items`, which reads from after the `[` to before the `]`. -/
def sequence {α : Type} (expected : String) (items : Reader α) : Reader α := fixPosition do
  match ← skipBlanks with
  | none => failPeek .eofWhileParsingValue
  | some '[' =>
    enter; eat
    let r ← attempt items
    leave
    closing r (← attempt closeArray)
  | some _ => foundInstead expected

/-- A record: an object read by `members`, or an array of its fields in order read by `items`. -/
def record {α : Type} (expected : String) (members : Reader α) (items : Reader α) : Reader α :=
  fixPosition do
    match ← skipBlanks with
    | none => failPeek .eofWhileParsingValue
    | some '[' =>
      enter; eat
      let r ← attempt items
      leave
      closing r (← attempt closeArray)
    | some '{' =>
      enter; eat
      let r ← attempt members
      leave
      closing r (← attempt closeObject)
    | some _ => foundInstead expected

def optional {α : Type} (inner : Reader α) : Reader (Option α) := do
  match ← skipBlanks with
  | some 'n' => eat; expectWord "ull".toList; return none
  | _ => some <$> inner

def any : Reader Json := fixPosition do value ((← remaining) + 1)

def nextKey (first : Bool) : Reader (Option String) := do
  if ← memberStart first then
    eat
    return some (← stringBody)
  else return none

def nextItem (first : Bool) : Reader Bool := itemStart first

def items {α : Type} (first : Bool) (item : Reader α) : Reader (List α) := do
  let rec go : Nat → Bool → List α → Reader (List α)
    | 0, _, acc => return acc.reverse
    | n + 1, first, acc => do
      if ← nextItem first then go n false ((← item) :: acc)
      else return acc.reverse
  go (← remaining) first []

/-- The members of an object: for each key, `member` reads the colon and the value, or refuses the
key. -/
def members {σ : Type} (init : σ) (member : String → σ → Reader σ) : Reader σ := do
  let rec go : Nat → Bool → σ → Reader σ
    | 0, _, st => return st
    | n + 1, first, st => do
      match ← nextKey first with
      | some k => go n false (← member k st)
      | none => return st
  go (← remaining) true init

def fieldValue {α : Type} (inner : Reader α) : Reader α := do
  colon
  inner

def nextField {α : Type} (first : Bool) (inner : Reader α) : Reader (Option α) := do
  if ← nextItem first then return some (← inner) else return none

def name {α : Type} (expected : String) (known : String → Option α)
    (unknown : String → JsonProblem) : Reader α :=
  stringWith expected fun s => match known s with
    | some a => pure a
    | none => problem (unknown s)

def unit : Reader Unit := fixPosition do
  match ← skipBlanks with
  | none => failPeek .eofWhileParsingValue
  | some 'n' => eat; expectWord "ull".toList
  | some _ => foundInstead "unit"

/-- A variant without data: its name, or the one key of an object whose value is `null`. -/
def unitVariant {α : Type} (names : List String) (known : String → Option α) : Reader α := do
  match ← skipBlanks with
  | some '"' => name "variant identifier" known (fun s => .unknownVariant s names)
  | some '{' =>
    enter; eat
    let n ← name "variant identifier" known (fun s => .unknownVariant s names)
    colon
    unit
    leave
    match ← skipBlanks with
    | some '}' => eat; return n
    | some _ => fail .expectedSomeValue
    | none => fail .eofWhileParsingObject
  | some _ => failPeek .expectedSomeValue
  | none => failPeek .eofWhileParsingValue

end Reader

namespace Unexpected

/-- What a JSON value is, when it is found instead of something else. -/
def ofJson : Json → Unexpected
  | .null => .null
  | .bool b => .bool b
  | .number n => .ofNumber n
  | .string s => .str s
  | .array _ => .sequence
  | .object _ => .map

end Unexpected

namespace Json

def readString : Json → Except JsonProblem String
  | .string s => .ok s
  | j => .error (.invalidType (.ofJson j) "a string")

def readBool : Json → Except JsonProblem Bool
  | .bool b => .ok b
  | j => .error (.invalidType (.ofJson j) "a boolean")

def readSigned : Json → Except JsonProblem Int
  | .number n => Reader.signedOfNumber n
  | j => .error (.invalidType (.ofJson j) "i64")

end Json

end RuleEngine
