/-!
# Patterns: the syntax tree

The regular expressions that log filters match field values with, kept with what decides whether
one compiles: how literals were written, the classes, assertions, bounds and flags.
-/

set_option autoImplicit false

namespace RuleEngine

namespace Pattern

/-- A flag of a group or of a flag change: `i`, `m`, `s`, `U`, `u`, `R` or `x`. -/
inductive Flag where
  | caseInsensitive
  | multiLine
  | dotMatchesNewLine
  | swapGreed
  | unicode
  | crlf
  | ignoreWhitespace
deriving DecidableEq, Repr

/-- One item of a list of flags: a flag, or the `-` after which flags are turned off. -/
inductive FlagItem where
  | negation
  | flag (f : Flag)
deriving DecidableEq, Repr

/-- Whether flag items turn a flag on (`some true`), off (`some false`) or leave it (`none`). -/
def flagState (items : List FlagItem) (f : Flag) : Option Bool :=
  let rec go : List FlagItem → Bool → Option Bool
    | [], _ => none
    | .negation :: rest, _ => go rest false
    | .flag g :: rest, on => if g = f then some on else go rest on
  go items true

/-- A literal character, and whether it was written `\xHH`, the one form that names a byte. -/
structure Literal where
  char : Char
  hexByte : Bool := false
deriving DecidableEq, Repr

inductive Assertion where
  | startLine
  | endLine
  | startText
  | endText
  | wordBoundary
  | notWordBoundary
  | wordStart
  | wordEnd
  | wordStartHalf
  | wordEndHalf
deriving DecidableEq, Repr

def Assertion.isWordTest : Assertion → Bool
  | .startLine | .endLine | .startText | .endText => false
  | _ => true

/-- The classes of one letter: `\d`, `\s` and `\w`. -/
inductive PerlClass where
  | digit
  | space
  | word
deriving DecidableEq, Repr

inductive AsciiClass where
  | alnum | alpha | ascii | blank | cntrl | digit | graph | lower | print | punct | space
  | upper | word | xdigit
deriving DecidableEq, Repr

def AsciiClass.ofName : String → Option AsciiClass
  | "alnum" => some .alnum
  | "alpha" => some .alpha
  | "ascii" => some .ascii
  | "blank" => some .blank
  | "cntrl" => some .cntrl
  | "digit" => some .digit
  | "graph" => some .graph
  | "lower" => some .lower
  | "print" => some .print
  | "punct" => some .punct
  | "space" => some .space
  | "upper" => some .upper
  | "word" => some .word
  | "xdigit" => some .xdigit
  | _ => none

/-- A Unicode class: a letter (`\pL`), a name (`\p{Greek}`), or a property and value
(`\p{sc=Greek}`). -/
inductive PropertyQuery where
  | letter (c : Char)
  | named (name : String)
  | byValue (name value : String)
deriving DecidableEq, Repr

/-- An operation between two class sets: `&&`, `--` or `~~`. -/
inductive ClassOp where
  | intersection
  | difference
  | symmetricDifference
deriving DecidableEq, Repr

mutual

inductive ClassItem where
  | empty
  | literal (l : Literal)
  | range (lo hi : Literal)
  | ascii (kind : AsciiClass) (negated : Bool)
  | unicode (query : PropertyQuery) (negated : Bool)
  | perl (kind : PerlClass) (negated : Bool)
  | bracketed (negated : Bool) (set : ClassSet)
  | union (items : List ClassItem)
deriving Repr

/-- The set a bracketed class denotes: an item, or an operation on two sets. -/
inductive ClassSet where
  | item (i : ClassItem)
  | op (kind : ClassOp) (lhs rhs : ClassSet)
deriving Repr

end

inductive Tree where
  | empty
  | flags (items : List FlagItem)
  | literal (l : Literal)
  | dot
  | assertion (a : Assertion)
  | unicode (query : PropertyQuery) (negated : Bool)
  | perl (kind : PerlClass) (negated : Bool)
  | bracketed (negated : Bool) (set : ClassSet)
  | repetition (min : Nat) (max : Option Nat) (sub : Tree)
  | group (items : List FlagItem) (sub : Tree)
  | alternation (branches : List Tree)
  | concat (items : List Tree)
deriving Repr

/-- The deepest nesting a pattern may have. -/
def nestLimit : Nat := 250

mutual

def ClassItem.depth : ClassItem → Nat
  | .bracketed _ s => s.depth + 1
  | .union items => ClassItem.depthList items + 1
  | _ => 0

def ClassItem.depthList : List ClassItem → Nat
  | [] => 0
  | i :: rest => max i.depth (ClassItem.depthList rest)

def ClassSet.depth : ClassSet → Nat
  | .item i => i.depth
  | .op _ l r => max l.depth r.depth + 1

end

mutual

/-- The nesting of a pattern: its longest chain of groups, repetitions, classes and operations. -/
def Tree.depth : Tree → Nat
  | .bracketed _ s => s.depth + 1
  | .repetition _ _ sub => sub.depth + 1
  | .group _ sub => sub.depth + 1
  | .alternation bs => Tree.depthList bs + 1
  | .concat items => Tree.depthList items + 1
  | _ => 0

def Tree.depthList : List Tree → Nat
  | [] => 0
  | t :: rest => max t.depth (Tree.depthList rest)

end

end Pattern

end RuleEngine
