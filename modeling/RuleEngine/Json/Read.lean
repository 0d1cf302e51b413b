import RuleEngine.Json.Reader

/-!
# Reading JSON text

Digits alone are an integer while they fit in 64 bits; any other number is a float, computed from
its first significant digits and the float nearest to a power of ten. `Json.parse` reads one value
and requires the text to end.
-/

set_option autoImplicit false

namespace RuleEngine

attribute [local instance (1100)] instPowNat

namespace Reader

def hexValue (c : Char) : Option Nat :=
  if '0' ≤ c ∧ c ≤ '9' then some (c.toNat - '0'.toNat)
  else if 'a' ≤ c ∧ c ≤ 'f' then some (c.toNat - 'a'.toNat + 10)
  else if 'A' ≤ c ∧ c ≤ 'F' then some (c.toNat - 'A'.toNat + 10)
  else none

/-- The four digits of a `\u` escape; four that are not all hexadecimal are an invalid escape,
reported after them. -/
def hexQuad : Reader Nat := do
  let c ← get
  match c.rest with
  | a :: b :: d :: e :: _ =>
    if a.toNat < 128 && b.toNat < 128 && d.toNat < 128 && e.toNat < 128 then
      eat; eat; eat; eat
      match hexValue a, hexValue b, hexValue d, hexValue e with
      | some x, some y, some z, some w => return ((x * 16 + y) * 16 + z) * 16 + w
      | _, _, _, _ => fail .invalidEscape
    else
      throw { problem := .invalidEscape, position := some (c.positionAhead 4) }
  | rest =>
    if (String.ofList rest).utf8ByteSize ≥ 4 then
      throw { problem := .invalidEscape, position := some (c.positionAhead 4) }
    else
      modify fun c => { c with rest := [], column := c.column + (String.ofList rest).utf8ByteSize }
      fail .eofWhileParsingString

/-- A `\u` escape: a character of the basic plane, or a surrogate pair written as two escapes. -/
def unicodeEscape : Reader Char := do
  let n ← hexQuad
  if 0xDC00 ≤ n ∧ n ≤ 0xDFFF then fail .loneLeadingSurrogateInHexEscape
  else if n < 0xD800 ∨ 0xDBFF < n then return Char.ofNat n
  else
    discard <| takeIf (· == '\\') .eofWhileParsingString .unexpectedEndOfHexEscape
    discard <| takeIf (· == 'u') .eofWhileParsingString .unexpectedEndOfHexEscape
    let n2 ← hexQuad
    if n2 < 0xDC00 ∨ 0xDFFF < n2 then fail .loneLeadingSurrogateInHexEscape
    else return Char.ofNat ((n - 0xD800) * 0x400 + (n2 - 0xDC00) + 0x10000)

def escape : Reader Char := do
  match ← takeIf (fun c => "\"\\/bfnrtu".contains c) .eofWhileParsingString .invalidEscape with
  | 'b' => return Char.ofNat 8
  | 'f' => return Char.ofNat 12
  | 'n' => return '\n'
  | 'r' => return '\r'
  | 't' => return '\t'
  | 'u' => unicodeEscape
  | ch => return ch

/-- A string's characters up to its closing quote; a control character below U+0020 is refused. -/
def stringBody : Reader String := do
  let rec go : Nat → List Char → Reader String
    | 0, _ => fail .eofWhileParsingString
    | fuel + 1, acc => do
      match ← peek with
      | none => fail .eofWhileParsingString
      | some '"' => eat; return String.ofList acc.reverse
      | some '\\' => eat; let ch ← escape; go fuel (ch :: acc)
      | some ch =>
        eat
        if ch.toNat < 32 then fail .controlCharacterWhileParsingString
        else go fuel (ch :: acc)
  go (← remaining) []

def maxUnsigned : Nat := 2 ^ (64 : Nat) - 1

/-- The largest signed 32-bit integer, the bound of an exponent. -/
def maxExponent : Int := 2 ^ (31 : Nat) - 1

def clampExponent (x : Int) : Int := max (-(2 ^ (31 : Nat))) (min maxExponent x)

/-- The float nearest to `10^k`, for `k ≤ 308`. -/
def powerOfTen (k : Nat) : Float := Float.ofScientific 1 false k

/-- The float of `significand · 10^exponent`, by one multiplication or division by a power of ten
(several below `1e-308`). -/
def fromParts (negative : Bool) (significand : Nat) (exponent : Int) : Reader Float := do
  let rec go : Nat → Float → Int → Reader Float
    | 0, f, _ => return f
    | fuel + 1, f, x =>
      if x.natAbs ≤ 308 then
        if 0 ≤ x then
          let g := f * powerOfTen x.toNat
          if g.isInf then fail .numberOutOfRange else return g
        else return f / powerOfTen x.natAbs
      else if f == 0 then return f
      else if 0 ≤ x then fail .numberOutOfRange
      else go fuel (f / powerOfTen 308) (x + 308)
  let f ← go 8 (Float.ofNat significand) exponent
  return if negative then -f else f

def digitOf (c : Option Char) : Option Nat :=
  match c with
  | some ch => if ch.isDigit then some (ch.toNat - '0'.toNat) else none
  | none => none

def skipDigits : Reader Unit := do
  let rec go : Nat → Reader Unit
    | 0 => return
    | fuel + 1 => do
      match digitOf (← peek) with
      | some _ => eat; go fuel
      | none => return
  go (← remaining)

/-- After an exponent overflow: a nonzero significand with a positive exponent is out of range, else
a zero. -/
def exponentOverflow (negative zero positiveExponent : Bool) : Reader Float := do
  if !zero && positiveExponent then fail .numberOutOfRange
  skipDigits
  return if negative then -0.0 else 0.0

def exponentPart (negative : Bool) (significand : Nat) (start : Int) : Reader Float := do
  eat
  let positive ← match ← peek with
    | some '+' => do eat; pure true
    | some '-' => do eat; pure false
    | _ => pure true
  let first := (← takeIf Char.isDigit .eofWhileParsingValue .invalidNumber).toNat - '0'.toNat
  let rec go : Nat → Nat → Reader (Option Nat)
    | 0, x => return some x
    | fuel + 1, x => do
      match digitOf (← peek) with
      | some d =>
        eat
        if maxExponent < x * 10 + d then return none else go fuel (x * 10 + d)
      | none => return some x
  match ← go (← remaining) first with
  | none => exponentOverflow negative (significand = 0) positive
  | some x =>
    let final := clampExponent (if positive then start + x else start - x)
    fromParts negative significand final

def decimalOverflow (negative : Bool) (significand : Nat) (exponent : Int) : Reader Float := do
  skipDigits
  match ← peek with
  | some 'e' | some 'E' => exponentPart negative significand exponent
  | _ => fromParts negative significand exponent

def fractionPart (negative : Bool) (significand : Nat) (before : Int) : Reader Float := do
  eat
  let rec go : Nat → Nat → Int → Reader (Nat × Int × Bool)
    | 0, s, x => return (s, x, false)
    | fuel + 1, s, x => do
      match digitOf (← peek) with
      | some d =>
        if maxUnsigned < s * 10 + d then return (s, x, true)
        else do eat; go fuel (s * 10 + d) (x - 1)
      | none => return (s, x, false)
  let (s, after, overflowed) ← go (← remaining) significand 0
  if overflowed then decimalOverflow negative s (before + after)
  else
    if after = 0 then
      match ← peek with
      | some _ => failPeek .invalidNumber
      | none => failPeek .eofWhileParsingValue
    match ← peek with
    | some 'e' | some 'E' => exponentPart negative s (before + after)
    | _ => fromParts negative s (before + after)

/-- Digits beyond 64 bits before any point: each one raises the exponent. -/
def longInteger (negative : Bool) (significand : Nat) : Reader Float := do
  let rec go : Nat → Int → Reader Float
    | 0, x => fromParts negative significand x
    | fuel + 1, x => do
      match ← peek with
      | some '.' => fractionPart negative significand x
      | some 'e' | some 'E' => exponentPart negative significand x
      | c => match digitOf c with
        | some _ => eat; go fuel (x + 1)
        | none => fromParts negative significand x
  go (← remaining) 0

def numberTail (negative : Bool) (significand : Nat) : Reader JsonNumber := do
  match ← peek with
  | some '.' => return .float (← fractionPart negative significand 0)
  | some 'e' | some 'E' => return .float (← exponentPart negative significand 0)
  | _ =>
    if !negative then return .nat significand
    else if significand = 0 ∨ 2 ^ (63 : Nat) < significand then
      return .float (-(Float.ofNat significand))
    else return .neg (-(significand : Int))

def numberBody (negative : Bool) : Reader JsonNumber := do
  match ← takeIf Char.isDigit .eofWhileParsingValue .invalidNumber with
  | '0' =>
    match digitOf (← peek) with
    | some _ => failPeek .invalidNumber
    | none => numberTail negative 0
  | ch =>
    let rec go : Nat → Nat → Reader JsonNumber
      | 0, s => numberTail negative s
      | fuel + 1, s => do
        match digitOf (← peek) with
        | some d =>
          if maxUnsigned < s * 10 + d then return .float (← longInteger negative s)
          else do eat; go fuel (s * 10 + d)
        | none => numberTail negative s
    go (← remaining) (ch.toNat - '0'.toNat)

def number : Reader JsonNumber := do
  match ← peek with
  | some '-' => eat; numberBody true
  | _ => numberBody false

/-- Before an object's next member: `}` ends it, a comma goes on; whether a key follows. -/
def memberStart (first : Bool) : Reader Bool := do
  let c ← match ← skipBlanks with
    | some '}' => return false
    | some ',' => if first then pure (some ',') else do eat; skipBlanks
    | some ch => if first then pure (some ch) else failPeek .expectedObjectCommaOrEnd
    | none => failPeek .eofWhileParsingObject
  match c with
  | some '"' => return true
  | some '}' => failPeek .trailingComma
  | some _ => failPeek .keyMustBeAString
  | none => failPeek .eofWhileParsingValue

def colon : Reader Unit := do
  match ← skipBlanks with
  | some ':' => eat
  | some _ => failPeek .expectedColon
  | none => failPeek .eofWhileParsingObject

def itemStart (first : Bool) : Reader Bool := do
  let c ← match ← skipBlanks with
    | some ']' => return false
    | some ',' => if first then pure (some ',') else do eat; skipBlanks
    | some ch => if first then pure (some ch) else failPeek .expectedListCommaOrEnd
    | none => failPeek .eofWhileParsingList
  match c with
  | some ']' => failPeek .trailingComma
  | some _ => return true
  | none => failPeek .eofWhileParsingValue

def closeArray : Reader Unit := do
  match ← skipBlanks with
  | some ']' => eat
  | some ',' =>
    eat
    match ← skipBlanks with
    | some ']' => failPeek .trailingComma
    | _ => failPeek .trailingCharacters
  | some _ => failPeek .trailingCharacters
  | none => failPeek .eofWhileParsingList

def closeObject : Reader Unit := do
  match ← skipBlanks with
  | some '}' => eat
  | some ',' => failPeek .trailingComma
  | some _ => failPeek .trailingCharacters
  | none => failPeek .eofWhileParsingObject

/-- Any JSON value; `fuel` bounds the nesting of calls and never binds for a shorter text. -/
def value : Nat → Reader Json
  | 0 => fail .recursionLimitExceeded
  | fuel + 1 => do
    match ← skipBlanks with
    | none => failPeek .eofWhileParsingValue
    | some 'n' => eat; expectWord "ull".toList; return .null
    | some 't' => eat; expectWord "rue".toList; return .bool true
    | some 'f' => eat; expectWord "alse".toList; return .bool false
    | some '"' => eat; return .string (← stringBody)
    | some '[' =>
      enter; eat
      let rec items : Nat → Bool → List Json → Reader (List Json)
        | 0, _, acc => return acc.reverse
        | n + 1, first, acc => do
          if ← itemStart first then items n false ((← value fuel) :: acc)
          else return acc.reverse
      let xs ← items (← remaining) true []
      closeArray; leave
      return .array xs
    | some '{' =>
      enter; eat
      let rec members : Nat → Bool → List (String × Json) → Reader (List (String × Json))
        | 0, _, acc => return acc
        | n + 1, first, acc => do
          if ← memberStart first then
            eat
            let k ← stringBody
            colon
            let v ← value fuel
            members n false (Json.insertMember k v acc)
          else return acc
      let ms ← members (← remaining) true []
      closeObject; leave
      return .object ms
    | some ch =>
      if ch = '-' ∨ ch.isDigit then return .number (← number)
      else failPeek .expectedSomeValue

def finish : Reader Unit := do
  match ← skipBlanks with
  | some _ => failPeek .trailingCharacters
  | none => return

def run {α : Type} (r : Reader α) (s : String) : Except JsonError α :=
  match EStateM.run (do let a ← r; finish; return a) (Cursor.ofString s) with
  | EStateM.Result.ok a _ => .ok a
  | EStateM.Result.error e _ => .error e

end Reader

def Json.parse (s : String) : Except JsonError Json :=
  Reader.run (do Reader.value ((← Reader.remaining) + 1)) s

end RuleEngine
