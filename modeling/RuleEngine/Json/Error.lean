import RuleEngine.Json.Basic
import RuleEngine.Text.Escaped

/-!
# Errors of reading JSON

A problem of the text, or of its meaning for the type being read, with the place where reading
stopped: `"<problem> at line L column C"`.
-/

set_option autoImplicit false

namespace RuleEngine

/-- A place in a text: the line from 1, and the column in UTF-8 bytes from the line's start. -/
structure Position where
  line : Nat
  column : Nat
deriving DecidableEq, Repr

/-- What a reader found where it expected something else. -/
inductive Unexpected where
  | bool (b : Bool)
  | unsigned (n : Nat)
  | signed (n : Int)
  | float (x : Float)
  | str (s : String)
  | null
  | sequence
  | map
deriving Repr

namespace Unexpected

def describe : Unexpected → String
  | .bool b => "boolean `" ++ (if b then "true" else "false") ++ "`"
  | .unsigned n => "integer `" ++ digitString n ++ "`"
  | .signed n => "integer `" ++ (if n < 0 then "-" else "") ++ digitString n.natAbs ++ "`"
  | .float x => "floating point `" ++ Layout.json.float x ++ "`"
  | .str s => "string " ++ Text.escaped s
  | .null => "null"
  | .sequence => "sequence"
  | .map => "map"

def ofNumber : JsonNumber → Unexpected
  | .nat n => .unsigned n
  | .neg n => .signed n
  | .float x => .float x

end Unexpected

/-- Why JSON text could not be read as what was asked for. -/
inductive JsonProblem where
  | eofWhileParsingList
  | eofWhileParsingObject
  | eofWhileParsingString
  | eofWhileParsingValue
  | expectedColon
  | expectedListCommaOrEnd
  | expectedObjectCommaOrEnd
  | expectedSomeIdent
  | expectedSomeValue
  | invalidEscape
  | invalidNumber
  | numberOutOfRange
  | invalidUnicodeCodePoint
  | controlCharacterWhileParsingString
  | keyMustBeAString
  | loneLeadingSurrogateInHexEscape
  | trailingComma
  | trailingCharacters
  | unexpectedEndOfHexEscape
  | recursionLimitExceeded
  | invalidType (found : Unexpected) (expected : String)
  | invalidValue (found : Unexpected) (expected : String)
  | unknownField (name : String) (expected : List String)
  | unknownVariant (name : String) (expected : List String)
  | missingField (name : String)
  | duplicateField (name : String)
  | invalidLength (length : Nat) (expected : String)
  | custom (text : String)
deriving Repr

/-- Names between backticks: one, two joined by "or", or "one of" a list. -/
def oneOf (names : List String) : String :=
  let tick (s : String) : String := "`" ++ s ++ "`"
  match names with
  | [a] => tick a
  | [a, b] => tick a ++ " or " ++ tick b
  | _ => "one of " ++ ", ".intercalate (names.map tick)

namespace JsonProblem

def describe : JsonProblem → String
  | .eofWhileParsingList => "EOF while parsing a list"
  | .eofWhileParsingObject => "EOF while parsing an object"
  | .eofWhileParsingString => "EOF while parsing a string"
  | .eofWhileParsingValue => "EOF while parsing a value"
  | .expectedColon => "expected `:`"
  | .expectedListCommaOrEnd => "expected `,` or `]`"
  | .expectedObjectCommaOrEnd => "expected `,` or `\x7d`"
  | .expectedSomeIdent => "expected ident"
  | .expectedSomeValue => "expected value"
  | .invalidEscape => "invalid escape"
  | .invalidNumber => "invalid number"
  | .numberOutOfRange => "number out of range"
  | .invalidUnicodeCodePoint => "invalid unicode code point"
  | .controlCharacterWhileParsingString =>
    "control character (\\u0000-\\u001F) found while parsing a string"
  | .keyMustBeAString => "key must be a string"
  | .loneLeadingSurrogateInHexEscape => "lone leading surrogate in hex escape"
  | .trailingComma => "trailing comma"
  | .trailingCharacters => "trailing characters"
  | .unexpectedEndOfHexEscape => "unexpected end of hex escape"
  | .recursionLimitExceeded => "recursion limit exceeded"
  | .invalidType found expected => "invalid type: " ++ found.describe ++ ", expected " ++ expected
  | .invalidValue found expected => "invalid value: " ++ found.describe ++ ", expected " ++ expected
  | .unknownField name [] => "unknown field `" ++ name ++ "`, there are no fields"
  | .unknownField name expected => "unknown field `" ++ name ++ "`, expected " ++ oneOf expected
  | .unknownVariant name [] => "unknown variant `" ++ name ++ "`, there are no variants"
  | .unknownVariant name expected =>
    "unknown variant `" ++ name ++ "`, expected " ++ oneOf expected
  | .missingField name => "missing field `" ++ name ++ "`"
  | .duplicateField name => "duplicate field `" ++ name ++ "`"
  | .invalidLength length expected =>
    "invalid length " ++ digitString length ++ ", expected " ++ expected
  | .custom text => text

end JsonProblem

structure JsonError where
  problem : JsonProblem
  position : Option Position := none
deriving Repr

def JsonError.message (e : JsonError) : String :=
  match e.position with
  | some p =>
    e.problem.describe ++ " at line " ++ digitString p.line ++ " column " ++ digitString p.column
  | none => e.problem.describe

end RuleEngine
