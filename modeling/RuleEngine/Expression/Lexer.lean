import RuleEngine.Expression.Error
import RuleEngine.Expression.Token
import RuleEngine.Decimal.Reading
import RuleEngine.Text.Classes

/-!
# Reading tokens from an expression

The text is cut into pieces: quoted texts, parentheses, operator symbols and the words `AND`,
`OR`, `NOT`, `XOR`, `ISNULL`; any other text joins the pending piece, trimmed when a piece of
another sort starts. Each piece is then classified, and an identifier written directly before an
opening parenthesis is an unknown function.
-/

set_option autoImplicit false

namespace RuleEngine

namespace Lexer

/-- The characters that make up operators, and some that make up none. -/
def isSymbol (c : Char) : Bool :=
  c = '+' || c = '-' || c = '*' || c = '/' || c = '%' || c = '^' || c = '=' || c = '!' ||
  c = '<' || c = '>' || c = '&' || c = '|'

def isWordChar (c : Char) : Bool := Text.isAlphanumeric c || c = '_' || c = '.'

def keywords : List String := ["AND", "OR", "NOT", "XOR", "ISNULL"]

def isOperator (s : String) : Bool := (Operator.ofSymbol? s).isSome

/-- Ends the pending text: it becomes a piece, trimmed, unless nothing is left of it. -/
def flush (pending : List Char) (pieces : List String) : List String :=
  let t := Text.trimList pending
  if t.isEmpty then pieces else String.ofList t :: pieces

theorem length_dropWhile_le {p : Char → Bool} (cs : List Char) :
    (cs.dropWhile p).length ≤ cs.length := by
  induction cs with
  | nil => simp
  | cons c rest ih =>
    simp only [List.dropWhile_cons]
    split
    · simp only [List.length_cons]; omega
    · simp

/-- Cuts characters into pieces, collected in reverse order; `pending` is the text not yet a piece,
reversed. -/
def cut (pending : List Char) (pieces : List String) : List Char → Except ExprError (List String)
  | [] => .ok (flush pending.reverse pieces).reverse
  | c :: rest =>
    if c = '"' then
      let inside := rest.takeWhile (· ≠ '"')
      match h : rest.dropWhile (· ≠ '"') with
      | [] => .error (.invalidToken (String.ofList (c :: inside)))
      | _ :: after =>
        have : after.length < rest.length + 1 := by
          have := length_dropWhile_le (p := (· ≠ '"')) rest
          rw [h] at this; simp at this; omega
        cut [] (String.ofList ('"' :: inside ++ ['"']) :: flush pending.reverse pieces) after
    else if c = '(' ∨ c = ')' then
      cut [] (String.singleton c :: flush pending.reverse pieces) rest
    else if isSymbol c then
      let pieces := flush pending.reverse pieces
      match rest with
      | d :: more =>
        if isOperator (String.ofList [c, d]) then cut [] (String.ofList [c, d] :: pieces) more
        else if isOperator (String.singleton c) then cut [] (String.singleton c :: pieces) (d :: more)
        else .error (.unknownOperator (String.ofList (c :: (d :: more).takeWhile isSymbol)))
      | [] =>
        if isOperator (String.singleton c) then cut [] (String.singleton c :: pieces) []
        else .error (.unknownOperator (String.singleton c))
    else if isWordChar c then
      let word := c :: rest.takeWhile isWordChar
      have : (rest.dropWhile isWordChar).length < rest.length + 1 := by
        have := length_dropWhile_le (p := isWordChar) rest; omega
      if keywords.contains (String.ofList word) then
        cut [] (String.ofList word :: flush pending.reverse pieces) (rest.dropWhile isWordChar)
      else cut (word.reverse ++ pending) pieces (rest.dropWhile isWordChar)
    else cut (c :: pending) pieces rest
termination_by cs => cs.length

def pieces (src : String) : Except ExprError (List String) := cut [] [] src.toList

def isIdentifier (s : String) : Bool :=
  match s.toList with
  | c :: rest => Text.isAlphabetic c && rest.all Text.isAlphanumeric
  | [] => false

def isNumber (s : String) : Bool :=
  match s.toList with
  | c :: rest =>
    c.isDigit && rest.all (fun d => d.isDigit || d = '.') &&
      (c :: rest).countP (· = '.') ≤ 1
  | [] => false

/-- Classifies one piece: parentheses, `ISNULL`, operators, booleans in any case, identifiers,
numbers, quoted texts. -/
def classify (s : String) : Except ExprError Token :=
  if s = "(" then .ok .openParen
  else if s = ")" then .ok .closeParen
  else match Builtin.ofName? s with
  | some f => .ok (.builtin f)
  | none => match Operator.ofSymbol? s with
    | some op => .ok (.operator op)
    | none =>
      if Text.equalsIgnoringAsciiCase s "true" then .ok (.literal (.boolean true))
      else if Text.equalsIgnoringAsciiCase s "false" then .ok (.literal (.boolean false))
      else if isIdentifier s then .ok (.identifier s)
      else match (if isNumber s then Decimal.readFloat? s else none) with
        | some x => .ok (.literal (.number x))
        | none =>
          let cs := s.toList
          if 2 ≤ cs.length && cs.head? = some '"' && cs.getLast? = some '"' then
            .ok (.literal (.text (String.ofList ((cs.drop 1).dropLast))))
          else .error (.invalidToken s)

def calledIdentifier : List Token → Option String
  | .identifier n :: .openParen :: _ => some n
  | _ :: rest => calledIdentifier rest
  | [] => none

end Lexer

def tokenize (src : String) : Except ExprError (List Token) := do
  let ps ← Lexer.pieces src
  let ts ← ps.mapM Lexer.classify
  match Lexer.calledIdentifier ts with
  | some n => .error (.unknownFunction n)
  | none => .ok ts

end RuleEngine
