import RuleEngine.Pattern.Parse

/-!
# Patterns: what can be compiled

The compiler carries no Unicode data. Where the flag `u` is on, a class of one letter, a Unicode
class, a case-folded literal or class, and a word boundary not repeated at most zero times are
refused. Where `u` is off the pattern works on bytes, and a part that can match one byte beyond
ASCII is refused, as is a Unicode class.
-/

set_option autoImplicit false

namespace RuleEngine

namespace Pattern

/-- Why a pattern cannot be compiled. -/
inductive Fault where
  | unreadable (e : SyntaxError)
  | needsUnicodeData
  | unicodeNotAllowed
  | invalidUtf8
  | unicodeWordBoundary
deriving DecidableEq, Repr

/-- The flags that decide what compiles: `u` (Unicode) and `i` (case folding). -/
structure Mode where
  unicode : Bool := true
  caseless : Bool := false
deriving DecidableEq, Repr

def Mode.apply (m : Mode) (items : List FlagItem) : Mode :=
  { unicode := (flagState items .unicode).getD m.unicode
    caseless := (flagState items .caseInsensitive).getD m.caseless }

/-- Outside a class: no case folding where `u` is on, an ASCII byte escape where it is off. -/
def Literal.check (m : Mode) (l : Literal) : Except Fault Unit :=
  if m.unicode then
    if m.caseless then .error .needsUnicodeData else .ok ()
  else if l.hexByte && 0x80 ≤ l.char.toNat then .error .invalidUtf8
  else .ok ()

/-- Inside a class: no case folding where `u` is on, an ASCII byte where it is off. -/
def Literal.checkInClass (m : Mode) (l : Literal) : Except Fault Unit :=
  if m.unicode then
    if m.caseless then .error .needsUnicodeData else .ok ()
  else if l.char.toNat < 0x80 then .ok ()
  else if l.hexByte then .error .invalidUtf8
  else .error .unicodeNotAllowed

/-- Checks a Unicode class: there is no data for one, and it is refused where `u` is off. -/
def checkUnicodeClass (m : Mode) : Except Fault Unit :=
  if m.unicode then .error .needsUnicodeData else .error .unicodeNotAllowed

/-- A class of one letter needs Unicode data where `u` is on; negated, it matches bytes beyond ASCII
where it is off. -/
def checkPerlClass (m : Mode) (negated : Bool) : Except Fault Unit :=
  if m.unicode then .error .needsUnicodeData
  else if negated then .error .invalidUtf8
  else .ok ()

/-- Checks a negation: where `u` is off it adds every byte beyond ASCII. -/
def checkNegation (m : Mode) (negated : Bool) : Except Fault Unit :=
  if !m.unicode && negated then .error .invalidUtf8 else .ok ()

mutual

def ClassItem.check (m : Mode) : ClassItem → Except Fault Unit
  | .empty => .ok ()
  | .literal l => l.checkInClass m
  | .range lo hi => do lo.checkInClass m; hi.checkInClass m
  | .ascii _ negated =>
    if m.unicode && m.caseless then .error .needsUnicodeData else checkNegation m negated
  | .unicode _ _ => checkUnicodeClass m
  | .perl _ negated => checkPerlClass m negated
  | .bracketed negated s => do s.check m; checkNegation m negated
  | .union items => ClassItem.checkList m items

def ClassItem.checkList (m : Mode) : List ClassItem → Except Fault Unit
  | [] => .ok ()
  | i :: rest => do i.check m; ClassItem.checkList m rest

def ClassSet.check (m : Mode) : ClassSet → Except Fault Unit
  | .item i => i.check m
  | .op _ l r => do l.check m; r.check m

end

mutual

/-- Checks a pattern under the given flags; the answer is the flags after it. -/
def Tree.check (m : Mode) : Tree → Except Fault Mode
  | .empty => .ok m
  | .flags items => .ok (m.apply items)
  | .literal l => do l.check m; return m
  | .dot => if m.unicode then .ok m else .error .invalidUtf8
  | .assertion _ => .ok m
  | .unicode _ _ => do checkUnicodeClass m; return m
  | .perl _ negated => do checkPerlClass m negated; return m
  | .bracketed negated s => do
    s.check m
    checkNegation m negated
    return m
  | .repetition _ _ sub => do
    discard (sub.check m)
    return m
  | .group items sub => do
    discard (sub.check (m.apply items))
    return m
  | .alternation bs => Tree.checkList m bs
  | .concat items => Tree.checkList m items

def Tree.checkList (m : Mode) : List Tree → Except Fault Mode
  | [] => .ok m
  | t :: rest => do Tree.checkList (← t.check m) rest

end

mutual

/-- Whether a pattern tests for a Unicode word boundary, and the flags after it; a repetition at
most zero times drops out. -/
def Tree.unicodeWordTest (m : Mode) : Tree → Bool × Mode
  | .flags items => (false, m.apply items)
  | .assertion a => (m.unicode && a.isWordTest, m)
  | .repetition _ max sub =>
    if max == some 0 then (false, m) else ((sub.unicodeWordTest m).1, m)
  | .group items sub => ((sub.unicodeWordTest (m.apply items)).1, m)
  | .alternation bs => Tree.unicodeWordTestList m bs
  | .concat items => Tree.unicodeWordTestList m items
  | _ => (false, m)

def Tree.unicodeWordTestList (m : Mode) : List Tree → Bool × Mode
  | [] => (false, m)
  | t :: rest =>
    let (here, after) := t.unicodeWordTest m
    let (later, final) := Tree.unicodeWordTestList after rest
    (here || later, final)

end

/-- The first fault in reading a pattern, else the first part that cannot be compiled, else a
Unicode word boundary. -/
def compileFault (text : String) : Option Fault :=
  match parse text with
  | .error e => some (.unreadable e)
  | .ok tree =>
    match tree.check {} with
    | .error f => some f
    | .ok _ => if (tree.unicodeWordTest {}).1 then some .unicodeWordBoundary else none

end Pattern

end RuleEngine
