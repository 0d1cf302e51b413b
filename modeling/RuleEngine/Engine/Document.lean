import RuleEngine.Json.Basic
import RuleEngine.Value.Json

/-!
# Model documents

Facts are bound to places of a model document by JSON pointers (`~1` for `/`, `~0` for `~`).
Writing replaces the value at a pointer, or adds a member to the object its last `/` names as
parent; `Json.writeInPlace` does so where the document stands, in `EStateM`.
-/

set_option autoImplicit false

namespace RuleEngine

attribute [local instance (1100)] instPowNat

/-- Why a document could not be read or written at a pointer. -/
inductive DocumentError where
  | missing (path : String)
  | unwritable (path reason : String)
deriving DecidableEq, Repr

def DocumentError.message : DocumentError → String
  | .missing path => "no value at " ++ path
  | .unwritable path reason => "cannot write " ++ path ++ ": " ++ reason

namespace Pointer

def replacePair (a b c : Char) : List Char → List Char
  | x :: y :: rest => if x = a ∧ y = b then c :: replacePair a b c rest else x :: replacePair a b c (y :: rest)
  | cs => cs

/-- A reference token with its escapes undone: first `~1` becomes `/`, then `~0` becomes `~`. -/
def unescape (t : String) : String := String.ofList (replacePair '~' '0' '~' (replacePair '~' '1' '/' t.toList))

/-- The reference tokens of a pointer, or `none` when it neither is empty nor starts with `/`. -/
def tokens (p : String) : Option (List String) :=
  match p.toList with
  | [] => some []
  | '/' :: rest => some ((rest.splitOn '/').map fun cs => unescape (String.ofList cs))
  | _ => none

/-- An array index: decimal digits, no sign, no leading zero, below `2^64`. -/
def index? (t : String) : Option Nat :=
  let cs := t.toList
  if cs.isEmpty || !cs.all Char.isDigit then none
  else if cs.head? = some '0' && cs.length ≠ 1 then none
  else
    let n := cs.foldl (fun acc c => acc * 10 + (c.toNat - '0'.toNat)) 0
    if n < 2 ^ (64 : Nat) then some n else none

def child? (j : Json) (t : String) : Option Json :=
  match j with
  | .object ms => Json.lookupMember t ms
  | .array xs => (index? t).bind fun i => xs[i]?
  | _ => none

def resolve? : Json → List String → Option Json
  | j, [] => some j
  | j, t :: rest => (child? j t).bind fun c => resolve? c rest

/-- Replaces the value at a sequence of tokens; `none` when there is no value there. -/
def replace? (v : Json) : Json → List String → Option Json
  | _, [] => some v
  | .object ms, t :: rest =>
    match Json.lookupMember t ms with
    | some c => (replace? v c rest).map fun c' => .object (Json.insertMember t c' ms)
    | none => none
  | .array xs, t :: rest =>
    match index? t with
    | some i =>
      match xs[i]? with
      | some c => (replace? v c rest).map fun c' => .array (xs.set i c')
      | none => none
    | none => none
  | _, _ :: _ => none

end Pointer

def splitAtLastSlash (s : String) : Option (String × String) :=
  let cs := s.toList
  match (List.range cs.length).reverse.find? (fun i => cs[i]? = some '/') with
  | some i => some (String.ofList (cs.take i), String.ofList (cs.drop (i + 1)))
  | none => none

namespace Json

def pointer? (root : Json) (path : String) : Option Json :=
  (Pointer.tokens path).bind (Pointer.resolve? root)

/-- The document value at a pointer: nothing for a missing place or `null`, a node for an object or
array. -/
def readValue (root : Json) (path : String) : Option Value :=
  match root.pointer? path with
  | none | some .null => none
  | some (.object _) | some (.array _) => some (.node path)
  | some scalar => Value.ofJson? scalar

def writeJson (root : Json) (path : String) (v : Json) : Except DocumentError Json :=
  match (Pointer.tokens path).bind (Pointer.replace? v root) with
  | some root' => .ok root'
  | none =>
    match splitAtLastSlash path with
    | none => .error (.unwritable path "not a JSON pointer")
    | some (parent, key) =>
      match root.pointer? parent with
      | some (.object ms) =>
        let updated := Json.object (Json.insertMember (Pointer.unescape key) v ms)
        match (Pointer.tokens parent).bind (Pointer.replace? updated root) with
        | some root' => .ok root'
        | none => .error (.unwritable path "parent does not exist")
      | some _ => .error (.unwritable path "parent is not an object")
      | none => .error (.unwritable path "parent does not exist")

def writeValue (root : Json) (path : String) (v : Value) : Except DocumentError Json :=
  root.writeJson path v.toJson

/-- Writes a value where the document stands, only once every check has passed. -/
def writeInPlace (path : String) (v : Value) : EStateM DocumentError Json Unit := do
  let json := v.toJson
  let root ← get
  match (Pointer.tokens path).bind (Pointer.replace? json root) with
  | some written => set written
  | none =>
    let some (parent, key) := splitAtLastSlash path | throw (.unwritable path "not a JSON pointer")
    match root.pointer? parent with
    | some (.object ms) =>
      let updated := Json.object (Json.insertMember (Pointer.unescape key) json ms)
      match (Pointer.tokens parent).bind (Pointer.replace? updated root) with
      | some written => set written
      | none => throw (.unwritable path "parent does not exist")
    | some _ => throw (.unwritable path "parent is not an object")
    | none => throw (.unwritable path "parent does not exist")

end Json

end RuleEngine
