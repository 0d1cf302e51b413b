import RuleEngine.Json.Error

/-!
# Reading JSON text: the cursor

A `Reader` steps through the characters of a `Cursor`, which also holds the place they start at
and the nesting still allowed (128 levels). A fault in the next character is reported one byte
into it (`peekPosition`).
-/

set_option autoImplicit false

namespace RuleEngine

structure Cursor where
  rest : List Char
  line : Nat := 1
  column : Nat := 0
  depth : Nat := 128
deriving Repr

namespace Cursor

def ofString (s : String) : Cursor := { rest := s.toList }

def position (c : Cursor) : Position := ⟨c.line, c.column⟩

def peekPosition (c : Cursor) : Position :=
  match c.rest with
  | [] => c.position
  | '\n' :: _ => ⟨c.line + 1, 0⟩
  | _ :: _ => ⟨c.line, c.column + 1⟩

/-- The place `n` bytes ahead; a count ending inside a character stands that many bytes into it. -/
def positionAhead (c : Cursor) (n : Nat) : Position :=
  go c.rest n c.line c.column
where
  go : List Char → Nat → Nat → Nat → Position
    | [], _, line, column => ⟨line, column⟩
    | _, 0, line, column => ⟨line, column⟩
    | ch :: rest, k + 1, line, column =>
      if ch = '\n' then go rest k (line + 1) 0
      else if ch.utf8Size ≤ k + 1 then go rest (k + 1 - ch.utf8Size) line (column + ch.utf8Size)
      else ⟨line, column + k + 1⟩

def advance (c : Cursor) : Cursor :=
  match c.rest with
  | [] => c
  | ch :: rest =>
    if ch = '\n' then { c with rest := rest, line := c.line + 1, column := 0 }
    else { c with rest := rest, column := c.column + ch.utf8Size }

end Cursor

abbrev Reader := EStateM JsonError Cursor

namespace Reader

def peek : Reader (Option Char) := do return (← get).rest.head?

def eat : Reader Unit := modify Cursor.advance

/-- Fails at the place of the next character. -/
def fail {α : Type} (p : JsonProblem) : Reader α := do
  throw { problem := p, position := some (← get).position }

/-- Fails one byte past the start of the next character. -/
def failPeek {α : Type} (p : JsonProblem) : Reader α := do
  throw { problem := p, position := some (← get).peekPosition }

/-- Takes the next character if `accept` holds; a refused one is reported one byte into it. -/
def takeIf (accept : Char → Bool) (atEnd refused : JsonProblem) : Reader Char := do
  match ← peek with
  | none => fail atEnd
  | some ch => if accept ch then do eat; return ch else failPeek refused

/-- Runs a step and gives its outcome as a value, keeping the cursor where the step left it. -/
def attempt {α : Type} (r : Reader α) : Reader (Except JsonError α) :=
  tryCatch (Except.ok <$> r) (fun e => pure (Except.error e))

/-- An error without a place gets the place where reading stands when it passes here. -/
def fixPosition {α : Type} (r : Reader α) : Reader α :=
  tryCatch r fun e => do
    match e.position with
    | some _ => throw e
    | none => throw { e with position := some (← get).position }

def rethrow {α : Type} (e : JsonError) : Reader α := throw e

def problem {α : Type} (p : JsonProblem) : Reader α := throw { problem := p }

/-- How many characters are left; a bound on every loop that consumes characters. -/
def remaining : Reader Nat := do return (← get).rest.length + 1

def skipBlanks : Reader (Option Char) := do
  let c ← get
  let isBlank (ch : Char) : Bool := ch = ' ' || ch = '\n' || ch = '\t' || ch = '\r'
  let rec go : Nat → Cursor → Cursor
    | 0, c => c
    | n + 1, c => match c.rest with
      | ch :: _ => if isBlank ch then go n c.advance else c
      | [] => c
  set (go c.rest.length c)
  peek

def expectWord (word : List Char) : Reader Unit := do
  for expected in word do
    discard <| takeIf (· == expected) .eofWhileParsingValue .expectedSomeIdent

/-- Enters an array or object; the nesting limit is checked before the bracket is consumed. -/
def enter : Reader Unit := do
  let c ← get
  if c.depth ≤ 1 then failPeek .recursionLimitExceeded
  set { c with depth := c.depth - 1 }

def leave : Reader Unit := modify fun c => { c with depth := c.depth + 1 }

end Reader

end RuleEngine
