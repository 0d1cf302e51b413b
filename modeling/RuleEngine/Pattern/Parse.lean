import RuleEngine.Pattern.Syntax
import RuleEngine.Text.Classes

/-!
# Patterns: reading the text

A pattern is read left to right. Flags such as `(?i)` hold to the end of the enclosing group, and
with `x` blanks and `#` comments do not count. Lookarounds, back-references and trees nested
deeper than `nestLimit` are refused.
-/

set_option autoImplicit false

namespace RuleEngine

attribute [local instance (1100)] instPowNat

namespace Pattern

/-- Why a text is not a pattern. -/
inductive SyntaxError where
  | unclosedGroup
  | unopenedGroup
  | unclosedClass
  | classRange
  | classRangeEnd
  | classEscape
  | escapeEnd
  | unknownEscape
  | hexDigit
  | hexValue
  | hexEmpty
  | backreference
  | lookAround
  | repetitionMissing
  | repetitionUnclosed
  | repetitionCount
  | repetitionOrder
  | flagUnknown
  | flagTwice
  | flagNegationTwice
  | flagDanglingNegation
  | flagEnd
  | groupNameEnd
  | groupNameChar
  | groupNameEmpty
  | groupNameTwice
  | unicodeClassEscape
  | wordBoundaryEnd
  | wordBoundaryUnclosed
  | wordBoundaryUnknown
  | nestTooDeep
deriving DecidableEq, Repr

/-- Where reading stands: the text left, whether blanks are skipped, and the group names so far. -/
structure Scan where
  rest : List Char
  blanks : Bool := false
  names : List String := []

abbrev Scanner := StateT Scan (Except SyntaxError)

/-- The characters with a meaning of their own, which stand for themselves after a backslash. -/
def isMeta (c : Char) : Bool := "\\.+*?()|[]{}^$#&-~".toList.contains c

/-- A meta character, or ASCII other than a letter, a digit, `<` and `>`, stands for itself after a
backslash. -/
def isEscapable (c : Char) : Bool :=
  isMeta c || (c.toNat < 128 && !c.isAlphanum && c != '<' && c != '>')

def isHexDigit (c : Char) : Bool :=
  c.isDigit || ('a' ≤ c ∧ c ≤ 'f') || ('A' ≤ c ∧ c ≤ 'F')

def hexValue (ds : List Char) : Nat :=
  ds.foldl (fun acc c =>
    acc * 16 + (if c.isDigit then c.toNat - '0'.toNat
      else if 'a' ≤ c ∧ c ≤ 'f' then c.toNat - 'a'.toNat + 10
      else c.toNat - 'A'.toNat + 10)) 0

/-- The character of a code point, if it is one: not a surrogate and at most `0x10FFFF`. -/
def scalar? (n : Nat) : Option Char :=
  if n < 0xD800 ∨ (0xDFFF < n ∧ n ≤ 0x10FFFF) then some (Char.ofNat n) else none

/-- Drops blanks and `#` comments; a comment runs to the end of its line. -/
def dropBlanks : Bool → List Char → List Char
  | _, [] => []
  | true, c :: rest => if c == '\n' then dropBlanks false rest else dropBlanks true rest
  | false, c :: rest =>
    if Text.isWhiteSpace c then dropBlanks false rest
    else if c == '#' then dropBlanks true rest
    else c :: rest

/-- The first character after the next that is neither a skipped blank nor a comment. -/
def peekPast (blanks : Bool) : List Char → Option Char
  | [] => none
  | _ :: after =>
    if !blanks then after.head?
    else
      let rec solid : Bool → List Char → Option Char
        | _, [] => none
        | inComment, c :: rest =>
          if Text.isWhiteSpace c then solid inComment rest
          else if !inComment && c == '#' then solid true rest
          else some c
      match solid false after with
      | some c => some c
      | none => after.head?

namespace Scanner

def peek : Scanner (Option Char) := do return (← get).rest.head?

def atEnd : Scanner Bool := do return (← get).rest.isEmpty

def bump : Scanner Unit := modify fun s => { s with rest := s.rest.drop 1 }

def bumpMore : Scanner Bool := do bump; return !(← atEnd)

def skipBlanks : Scanner Unit :=
  modify fun s => if s.blanks then { s with rest := dropBlanks false s.rest } else s

def bumpSkip : Scanner Bool := do bump; skipBlanks; return !(← atEnd)

def fail {α : Type} (e : SyntaxError) : Scanner α := throw e

def bumpIf (w : String) : Scanner Bool := do
  let s ← get
  if w.toList.isPrefixOf s.rest then
    set { s with rest := s.rest.drop w.length }
    return true
  else return false

def current (atTheEnd : SyntaxError) : Scanner Char := do
  match ← peek with
  | some c => return c
  | none => fail atTheEnd

def hexFixed (width : Nat) : Scanner (List Char) := do
  let rec go : Nat → Bool → List Char → Scanner (List Char)
    | 0, _, acc => return acc.reverse
    | n + 1, first, acc => do
      if !first then
        if !(← bumpSkip) then fail .escapeEnd
      let c ← current .escapeEnd
      if !isHexDigit c then fail .hexDigit
      go n false (c :: acc)
  let ds ← go width true []
  discard bumpSkip
  return ds

def hexBraced : Scanner (List Char) := do
  let rec go : Nat → List Char → Scanner (List Char)
    | 0, acc => return acc.reverse
    | n + 1, acc => do
      if !(← bumpSkip) then return acc.reverse
      let c ← current .escapeEnd
      if c == '}' then return acc.reverse
      if !isHexDigit c then fail .hexDigit
      go n (c :: acc)
  let ds ← go ((← get).rest.length + 1) []
  if ← atEnd then fail .escapeEnd
  discard bumpSkip
  if ds.isEmpty then fail .hexEmpty
  return ds

/-- A hexadecimal escape: `x` with two digits, `u` with four, `U` with eight, or digits between
braces. -/
def hexEscape (letter : Char) : Scanner Literal := do
  let width := if letter == 'x' then 2 else if letter == 'u' then 4 else 8
  if !(← bumpSkip) then fail .escapeEnd
  let braced := (← peek) == some '{'
  let ds ← if braced then hexBraced else hexFixed width
  match scalar? (hexValue ds) with
  | some c => return { char := c, hexByte := letter == 'x' && !braced }
  | none => fail .hexValue

/-- A Unicode class at its `p` or `P`: a letter, or a name in braces with an optional `!=`, `:` or
`=` value. -/
def unicodeClass (upper : Bool) : Scanner Tree := do
  if !(← bumpSkip) then fail .escapeEnd
  if (← peek) == some '{' then
    let rec go : Nat → List Char → Scanner (List Char)
      | 0, acc => return acc.reverse
      | n + 1, acc => do
        if !(← bumpSkip) then return acc.reverse
        let c ← current .escapeEnd
        if c == '}' then return acc.reverse
        go n (c :: acc)
    let name ← go ((← get).rest.length + 1) []
    if ← atEnd then fail .escapeEnd
    bump
    let text := String.ofList name
    match text.splitOn "!=" with
    | before :: after :: more =>
      return .unicode (.byValue before ("!=".intercalate (after :: more))) (!upper)
    | _ =>
      match name.idxOf? ':', name.idxOf? '=' with
      | some i, _ | none, some i =>
        return .unicode (.byValue (String.ofList (name.take i)) (String.ofList (name.drop (i + 1)))) upper
      | none, none => return .unicode (.named text) upper
  else
    let c ← current .escapeEnd
    if c == '\\' then fail .unicodeClassEscape
    discard bumpSkip
    return .unicode (.letter c) upper

/-- The braces after `\b` that name a special word boundary; braces that are a repetition are left
alone. -/
def specialWordBoundary : Scanner (Option Assertion) := do
  let saved ← get
  let isNameChar (c : Char) : Bool := ('a' ≤ c ∧ c ≤ 'z') || ('A' ≤ c ∧ c ≤ 'Z') || c == '-'
  if !(← bumpSkip) then fail .wordBoundaryEnd
  let first ← current .wordBoundaryEnd
  if !isNameChar first then
    set saved
    return none
  let rec go : Nat → List Char → Scanner (List Char)
    | 0, acc => return acc.reverse
    | n + 1, acc => do
      match ← peek with
      | some c =>
        if isNameChar c then
          discard bumpSkip
          go n (c :: acc)
        else return acc.reverse
      | none => return acc.reverse
  let name ← go ((← get).rest.length + 1) []
  if (← peek) != some '}' then fail .wordBoundaryUnclosed
  bump
  match String.ofList name with
  | "start" => return some .wordStart
  | "end" => return some .wordEnd
  | "start-half" => return some .wordStartHalf
  | "end-half" => return some .wordEndHalf
  | _ => fail .wordBoundaryUnknown

def perlClassOf : Char → Option (PerlClass × Bool)
  | 'd' => some (.digit, false)
  | 'D' => some (.digit, true)
  | 's' => some (.space, false)
  | 'S' => some (.space, true)
  | 'w' => some (.word, false)
  | 'W' => some (.word, true)
  | _ => none

def escape : Scanner Tree := do
  bump
  let c ← current .escapeEnd
  if c.isDigit then fail .backreference
  if c == 'x' || c == 'u' || c == 'U' then return .literal (← hexEscape c)
  if c == 'p' || c == 'P' then return ← unicodeClass (c == 'P')
  match perlClassOf c with
  | some (k, negated) =>
    bump
    return .perl k negated
  | none =>
    bump
    if isEscapable c then return .literal { char := c }
    match c with
    | 'a' => return .literal { char := Char.ofNat 7 }
    | 'f' => return .literal { char := Char.ofNat 12 }
    | 't' => return .literal { char := '\t' }
    | 'n' => return .literal { char := '\n' }
    | 'r' => return .literal { char := '\r' }
    | 'v' => return .literal { char := Char.ofNat 11 }
    | 'A' => return .assertion .startText
    | 'z' => return .assertion .endText
    | 'b' =>
      if (← peek) == some '{' then
        match ← specialWordBoundary with
        | some a => return .assertion a
        | none => return .assertion .wordBoundary
      else return .assertion .wordBoundary
    | 'B' => return .assertion .notWordBoundary
    | '<' => return .assertion .wordStart
    | '>' => return .assertion .wordEnd
    | _ => fail .unknownEscape

def classPiece : Scanner Tree := do
  let c ← current .unclosedClass
  if c == '\\' then escape
  else
    bump
    return .literal { char := c }

def asClassItem : Tree → Scanner ClassItem
  | .literal l => return .literal l
  | .perl k negated => return .perl k negated
  | .unicode q negated => return .unicode q negated
  | _ => fail .classEscape

def asRangeEnd : Tree → Scanner Literal
  | .literal l => return l
  | _ => fail .classRangeEnd

/-- A class item or a range; a `-` before `]` or before another `-` makes no range. -/
def rangeItem : Scanner ClassItem := do
  let first ← classPiece
  skipBlanks
  let s ← get
  if s.rest.isEmpty then fail .unclosedClass
  let after := peekPast s.blanks s.rest
  if s.rest.head? != some '-' || after == some ']' || after == some '-' then asClassItem first
  else
    if !(← bumpSkip) then fail .unclosedClass
    let second ← classPiece
    let lo ← asRangeEnd first
    let hi ← asRangeEnd second
    if hi.char < lo.char then fail .classRange
    return .range lo hi

def asciiClass? : Scanner (Option ClassItem) := do
  match (← get).rest with
  | '[' :: ':' :: rest@(_ :: _) =>
    let (negated, body) := match rest with
      | '^' :: body => (true, body)
      | body => (false, body)
    if negated && body.isEmpty then return none
    let name := body.takeWhile (· != ':')
    match body.drop name.length with
    | ':' :: ']' :: after =>
      match AsciiClass.ofName (String.ofList name) with
      | some kind =>
        modify fun s => { s with rest := after }
        return some (.ascii kind negated)
      | none => return none
    | _ => return none
  | _ => return none

/-- The opening of a class: a `^` that negates it, a leading `-` or `]` standing for itself. -/
def classOpen : Scanner (Bool × List ClassItem) := do
  if !(← bumpSkip) then fail .unclosedClass
  let negated ← if (← peek) == some '^' then do
      if !(← bumpSkip) then fail .unclosedClass
      pure true
    else pure false
  let rec dashes : Nat → List ClassItem → Scanner (List ClassItem)
    | 0, acc => return acc
    | n + 1, acc => do
      if (← peek) == some '-' then
        if !(← bumpSkip) then fail .unclosedClass
        dashes n (.literal { char := '-' } :: acc)
      else return acc
  let items ← dashes ((← get).rest.length + 1) []
  if items.isEmpty && (← peek) == some ']' then
    if !(← bumpSkip) then fail .unclosedClass
    return (negated, [.literal { char := ']' }])
  return (negated, items)

def unionOf : List ClassItem → ClassItem
  | [] => .empty
  | [i] => i
  | items => .union items

/-- The set of the items read since the last operation, joined to the operation's left side. -/
def closeSet (items : List ClassItem) (pending : Option (ClassOp × ClassSet)) : ClassSet :=
  match pending with
  | none => .item (unionOf items.reverse)
  | some (k, lhs) => .op k lhs (.item (unionOf items.reverse))

def classBody : Nat → List ClassItem → Option (ClassOp × ClassSet) → Scanner ClassSet
  | 0, _, _ => fail .nestTooDeep
  | fuel + 1, items, pending => do
    skipBlanks
    match (← get).rest with
    | [] => fail .unclosedClass
    | '[' :: _ =>
      match ← asciiClass? with
      | some item => classBody fuel (item :: items) pending
      | none =>
        let (negated, first) ← classOpen
        let set ← classBody fuel first none
        classBody fuel (.bracketed negated set :: items) pending
    | ']' :: _ =>
      bump
      return closeSet items pending
    | '&' :: '&' :: _ =>
      bump; bump
      classBody fuel [] (some (.intersection, closeSet items pending))
    | '-' :: '-' :: _ =>
      bump; bump
      classBody fuel [] (some (.difference, closeSet items pending))
    | '~' :: '~' :: _ =>
      bump; bump
      classBody fuel [] (some (.symmetricDifference, closeSet items pending))
    | _ =>
      let item ← rangeItem
      classBody fuel (item :: items) pending

def bracketed : Scanner Tree := do
  let (negated, first) ← classOpen
  let set ← classBody ((← get).rest.length + 1) first none
  return .bracketed negated set

/-- A decimal bound, kept as an outcome: a missing bound is a fault only where one is required. -/
def decimal : Scanner (Except SyntaxError Nat) := do
  modify fun s => { s with rest := s.rest.dropWhile Text.isWhiteSpace }
  let rec digits : Nat → List Char → Scanner (List Char)
    | 0, acc => return acc.reverse
    | n + 1, acc => do
      match ← peek with
      | some c =>
        if c.isDigit then
          discard bumpSkip
          digits n (c :: acc)
        else return acc.reverse
      | none => return acc.reverse
  let ds ← digits ((← get).rest.length + 1) []
  let rec blanks : Nat → Scanner Unit
    | 0 => return
    | n + 1 => do
      match ← peek with
      | some c => if Text.isWhiteSpace c then do discard bumpSkip; blanks n else return
      | none => return
  blanks ((← get).rest.length + 1)
  if ds.isEmpty then return .error .repetitionCount
  let n := ds.foldl (fun acc c => acc * 10 + (c.toNat - '0'.toNat)) 0
  if 2 ^ (32 : Nat) ≤ n then return .error .repetitionCount
  return .ok n

def required (bound : Except SyntaxError Nat) : Scanner Nat :=
  match bound with
  | .ok n => return n
  | .error e => fail e

/-- Reads the bounds of a counted repetition at its `{`: `{n}`, `{n,}` or `{m,n}`. -/
def counted : Scanner (Nat × Option Nat) := do
  if !(← bumpSkip) then fail .repetitionUnclosed
  let lower ← decimal
  if ← atEnd then fail .repetitionUnclosed
  let bounds ← if (← peek) == some ',' then do
      if !(← bumpSkip) then fail .repetitionUnclosed
      if (← peek) != some '}' then do
        let m ← required lower
        let n ← required (← decimal)
        pure (m, some n)
      else pure (← required lower, none)
    else do
      let m ← required lower
      pure (m, some m)
  if (← peek) != some '}' then fail .repetitionUnclosed
  if ← bumpSkip then
    if (← peek) == some '?' then bump
  match bounds with
  | (m, some n) => if n < m then fail .repetitionOrder else return bounds
  | _ => return bounds

/-- A group name: a letter or `_`, then letters, digits, `_`, `.`, `[` and `]`; no name twice. -/
def groupName : Scanner Unit := do
  let s ← get
  if s.rest.isEmpty then fail .groupNameEnd
  let name := s.rest.takeWhile (· != '>')
  let fits (i : Nat) (c : Char) : Bool :=
    if i = 0 then c == '_' || Text.isAlphabetic c
    else c == '_' || c == '.' || c == '[' || c == ']' || Text.isAlphanumeric c
  if !(name.zipIdx.all fun (c, i) => fits i c) then fail .groupNameChar
  if s.rest.length ≤ name.length then fail .groupNameEnd
  if name.isEmpty then fail .groupNameEmpty
  let text := String.ofList name
  if s.names.contains text then fail .groupNameTwice
  set { s with rest := s.rest.drop (name.length + 1), names := s.names ++ [text] }

def flagOf : Char → Option Flag
  | 'i' => some .caseInsensitive
  | 'm' => some .multiLine
  | 's' => some .dotMatchesNewLine
  | 'U' => some .swapGreed
  | 'u' => some .unicode
  | 'R' => some .crlf
  | 'x' => some .ignoreWhitespace
  | _ => none

/-- Reads flags up to a `:` or `)`: each flag once, at most one `-`, and no `-` last. -/
def flagList : Scanner (List FlagItem) := do
  let rec go : Nat → List FlagItem → Bool → Scanner (List FlagItem)
    | 0, items, _ => return items
    | n + 1, items, lastNegation => do
      let c ← current .flagEnd
      if c == ':' || c == ')' then
        if lastNegation then fail .flagDanglingNegation
        return items
      let item ← if c == '-' then do
          if items.contains .negation then fail .flagNegationTwice
          pure FlagItem.negation
        else match flagOf c with
          | some f => do
            if items.contains (.flag f) then fail .flagTwice
            pure (FlagItem.flag f)
          | none => fail .flagUnknown
      if !(← bumpMore) then fail .flagEnd
      go n (items ++ [item]) (c == '-')
  go ((← get).rest.length + 1) [] false

/-- The head of a group: a change of flags (left) or an opening with its flags (right); no
lookarounds. -/
def groupHead : Scanner (List FlagItem ⊕ List FlagItem) := do
  bump
  skipBlanks
  let rest := (← get).rest
  if ["?=", "?!", "?<=", "?<!"].any (fun w => w.toList.isPrefixOf rest) then fail .lookAround
  if ← bumpIf "?P<" then
    groupName
    return .inr []
  if ← bumpIf "?<" then
    groupName
    return .inr []
  if ← bumpIf "?" then
    if ← atEnd then fail .unclosedGroup
    let items ← flagList
    let close ← peek
    bump
    if close == some ')' then
      if items.isEmpty then fail .repetitionMissing
      return .inl items
    return .inr items
  return .inr []

def primitive : Scanner Tree := do
  let c ← current .escapeEnd
  if c == '\\' then escape
  else
    bump
    match c with
    | '.' => return .dot
    | '^' => return .assertion .startLine
    | '$' => return .assertion .endLine
    | _ => return .literal { char := c }

def concatOf (items : List Tree) : Tree :=
  match items.reverse with
  | [] => .empty
  | [t] => t
  | ts => .concat ts

def branchesOf (done : List Tree) (items : List Tree) : Tree :=
  if done.isEmpty then concatOf items else .alternation (done ++ [concatOf items])

/-- Repeats the last part read. A repetition of nothing or of a change of flags is refused. -/
def repeatLast (items : List Tree) (min : Nat) (max : Option Nat) : Scanner (List Tree) :=
  match items with
  | [] | .empty :: _ | .flags _ :: _ => fail .repetitionMissing
  | last :: others => return .repetition min max last :: others

/-- Branches up to a `)`, left unread, or the end of the text; whether a `)` ended them. -/
def sequence : Nat → List Tree → List Tree → Scanner (Tree × Bool)
  | 0, _, _ => fail .nestTooDeep
  | fuel + 1, done, items => do
    skipBlanks
    match (← get).rest with
    | [] => return (branchesOf done items, false)
    | ')' :: _ => return (branchesOf done items, true)
    | '(' :: _ =>
      match ← groupHead with
      | .inl flags =>
        match flagState flags .ignoreWhitespace with
        | some b => modify fun s => { s with blanks := b }
        | none => pure ()
        sequence fuel done (.flags flags :: items)
      | .inr flags =>
        let outer := (← get).blanks
        match flagState flags .ignoreWhitespace with
        | some b => modify fun s => { s with blanks := b }
        | none => pure ()
        let (inner, closed) ← sequence fuel [] []
        if !closed then fail .unclosedGroup
        bump
        modify fun s => { s with blanks := outer }
        sequence fuel done (.group flags inner :: items)
    | '|' :: _ =>
      bump
      sequence fuel (done ++ [concatOf items]) []
    | '[' :: _ => sequence fuel done ((← bracketed) :: items)
    | c :: _ =>
      if c == '?' || c == '*' || c == '+' then
        let (min, max) : Nat × Option Nat :=
          if c == '?' then (0, some 1) else if c == '*' then (0, none) else (1, none)
        let items ← repeatLast items min max
        if ← bumpMore then
          if (← peek) == some '?' then bump
        sequence fuel done items
      else if c == '{' then
        match items with
        | [] | .empty :: _ | .flags _ :: _ => fail .repetitionMissing
        | _ =>
          let (min, max) ← counted
          sequence fuel done (← repeatLast items min max)
      else sequence fuel done ((← primitive) :: items)

end Scanner

def parse (text : String) : Except SyntaxError Tree := do
  let cs := text.toList
  let ((tree, closed), _) ← (Scanner.sequence (cs.length + 2) [] []).run { rest := cs }
  if closed then throw .unopenedGroup
  if nestLimit < tree.depth then throw .nestTooDeep
  return tree

end Pattern

end RuleEngine
