import RuleEngine.Text.Classes
import RuleEngine.Pattern.Check

/-!
# Log filters

A comma-separated list of directives (a target, a span with fields, a level), each read character
by character after trimming. A directive that breaks the rules is ignored with a warning: a field
whose pattern cannot be compiled gets the field message, a level that cannot be read the level
message, any other fault the plain one.
-/

set_option autoImplicit false

namespace RuleEngine

namespace LogFilter

/-- Whether decimal digits with an optional leading `+` read as a number from 0 to 5. -/
def isLevelNumber (s : String) : Bool :=
  let digits := match s.toList with
    | '+' :: rest => rest
    | cs => cs
  !digits.isEmpty && digits.all Char.isDigit &&
    (digits.dropWhile (· == '0')).length ≤ 1 &&
    (digits.dropWhile (· == '0')).all (fun c => c.toNat ≤ '5'.toNat)

def isLevel (s : String) : Bool :=
  let lower := String.ofList (s.toList.map Char.toLower)
  s.isEmpty || isLevelNumber s || ["error", "warn", "info", "debug", "trace", "off"].contains lower

def isTargetStart (c : Char) : Bool := Text.isAlphanumeric c || c == '_' || c == ':' || c == '-'

/-- Whether a text reads as a float: a sign, then `inf`, `infinity` or `nan`, or digits with at most
one point and an exponent. -/
def isNumberText (s : String) : Bool :=
  let cs := match s.toList with
    | '+' :: r | '-' :: r => r
    | r => r
  let lower := String.ofList (cs.map Char.toLower)
  if lower == "inf" || lower == "infinity" || lower == "nan" then true
  else
    let whole := cs.takeWhile Char.isDigit
    let (fraction, tail) : List Char × List Char := match cs.drop whole.length with
      | '.' :: r => (r.takeWhile Char.isDigit, r.dropWhile Char.isDigit)
      | r => ([], r)
    if whole.isEmpty && fraction.isEmpty then false
    else match tail with
      | [] => true
      | e :: r =>
        let ds := match r with
          | '+' :: d | '-' :: d => d
          | d => d
        (e == 'e' || e == 'E') && !ds.isEmpty && ds.all Char.isDigit

/-- The fault of a field `name=value`: a value that is not a number must be a pattern that compiles.
-/
def fieldFault (field : String) : Option Pattern.Fault :=
  match field.splitOn "=" with
  | _ :: value :: _ => if isNumberText value then none else Pattern.compileFault value
  | _ => none

inductive Fault where
  | malformed
  | badLevel
  | badField (reason : Pattern.Fault)
deriving DecidableEq, Repr

/-- Why a field's pattern cannot be compiled, as the warning says it. -/
def fieldReason : Pattern.Fault → String
  | .unicodeWordBoundary => "unsupported regex feature for DFAs: cannot build DFAs for regexes with Unicode word boundaries; switch to ASCII word boundaries, or heuristically enable Unicode word boundaries or use a different regex engine"
  | _ => "error building NFA"

def Fault.message (d : String) : Fault → String
  | .malformed => "ignoring `" ++ d ++ "`: invalid filter directive"
  | .badLevel => "ignoring `" ++ d ++ "`: error parsing level filter: expected one of \"off\", \"error\", \"warn\", \"info\", \"debug\", \"trace\", or a number 0-5"
  | .badField r => "ignoring `" ++ d ++ "`: invalid field filter: " ++ fieldReason r

inductive Place where
  | start
  | levelOrTarget (begin : Nat)
  | span
  | field (begin : Nat)
  | fields
  | target
  | level (begin : Nat)
deriving Repr

/-- The text of a directive from byte offset `a` up to byte offset `b`. -/
def cut (d : String) (a b : Nat) : String := String.Pos.Raw.extract d ⟨a⟩ ⟨b⟩

/-- One step of reading: the place after a character at byte offset `i`. -/
def step (d : String) : Place → Char → Nat → Except Fault Place
  | .start, '[', _ => .ok .span
  | .start, c, i => if isTargetStart c then .ok (.levelOrTarget i) else .error .malformed
  | .levelOrTarget _, '=', i => .ok (.level (i + 1))
  | .levelOrTarget _, '[', _ => .ok .span
  | .levelOrTarget b, _, _ => .ok (.levelOrTarget b)
  | .target, '=', i => .ok (.level (i + 1))
  | .span, ']', _ => .ok .target
  | .span, '{', i => .ok (.field (i + 1))
  | .span, _, _ => .ok .span
  | .field b, '}', i =>
    let text := cut d b i
    if text.isEmpty then .error .malformed
    else match fieldFault text with
      | some f => .error (.badField f)
      | none => .ok .fields
  | .field b, _, _ => .ok (.field b)
  | .fields, ']', _ => .ok .target
  | .level b, _, _ => .ok (.level b)
  | _, _, _ => .error .malformed

def walk (d : String) : Place → List Char → Nat → Except Fault Place
  | p, [], _ => .ok p
  | p, c :: cs, i => do
    let p ← step d p c i
    walk d p cs (i + c.utf8Size)

def check (d : String) : Option Fault :=
  match walk d .start (Text.trim d).toList 0 with
  | .error f => some f
  | .ok (.level b) => if isLevel (cut d b d.utf8ByteSize) then none else some .badLevel
  | .ok .start | .ok .span | .ok (.field _) | .ok .fields => some .malformed
  | .ok _ => none

def warnings (filter : String) : List String :=
  ((filter.splitOn ",").filter (· ≠ "")).filterMap fun d => (check d).map (Fault.message d)

end LogFilter

end RuleEngine
