import RuleEngine.Expression.Machine

/-! # Expression trees and their written forms

`ExprTree.Written p t ts` says that the infix tokens `ts` write `t` where binding strength `p` is
needed, with any redundant parentheses; operators associate to the left. The `Plain` trees are
those whose written form reads back as themselves. -/
set_option autoImplicit false
namespace RuleEngine

section Except
variable {ε α β : Type}

@[simp] theorem ok_bind (a : α) (f : α → Except ε β) : (Except.ok a >>= f : Except ε β) = f a := rfl

@[simp] theorem map_ok (f : α → β) (a : α) : (f <$> Except.ok a : Except ε β) = .ok (f a) := rfl

@[simp] theorem map_error (f : α → β) (e : ε) : (f <$> Except.error e : Except ε β) = .error e := rfl

@[simp] theorem error_bind (e : ε) (f : α → Except ε β) :
    (Except.error e >>= f : Except ε β) = .error e := rfl

theorem bind_eq_ok {x : Except ε α} {f : α → Except ε β} {b : β} :
    x >>= f = .ok b ↔ ∃ a, x = .ok a ∧ f a = .ok b := by
  cases x <;> simp

end Except

inductive ExprTree where
  | literal (v : Value)
  | identifier (name : String)
  | binary (op : Operator) (left right : ExprTree)
  | negation (operand : ExprTree)
  | isNull (argument : ExprTree)
deriving Repr

namespace ExprTree

/-- The tokens of a tree in post-order: operands before their operator. -/
def postOrder : ExprTree → List Token
  | .literal v => [.literal v]
  | .identifier name => [.identifier name]
  | .binary op l r => l.postOrder ++ r.postOrder ++ [.operator op]
  | .negation t => t.postOrder ++ [.operator .not]
  | .isNull t => t.postOrder ++ [.builtin .isNull]

section Eval
variable {ε : Type}

/-- Evaluates a tree, operands left to right, the first failure of the resolver ending it. -/
def eval (resolve : String → Except ε Value) : ExprTree → Except ε Value
  | .literal v => .ok v
  | .identifier name => resolve name
  | .binary op l r => do
      let a ← l.eval resolve
      let b ← r.eval resolve
      return op.apply a b
  | .negation t => do return Operator.not.applyUnary (← t.eval resolve)
  | .isNull t => do return Builtin.isNull.call (← t.eval resolve)

end Eval

/-- `Written p t ts`: the infix tokens `ts` write `t` where binding strength `p` is needed. -/
inductive Written : Nat → ExprTree → List Token → Prop where
  | literal (p : Nat) (v : Value) : Written p (.literal v) [.literal v]
  | identifier (p : Nat) (name : String) : Written p (.identifier name) [.identifier name]
  | parens (p : Nat) {t : ExprTree} {ts : List Token} :
      Written 0 t ts → Written p t (.openParen :: ts ++ [.closeParen])
  | binary {p : Nat} (op : Operator) {l r : ExprTree} {ls rs : List Token} :
      op ≠ .not → p ≤ op.precedence → Written op.precedence l ls →
      Written (op.precedence + 1) r rs → Written p (.binary op l r) (ls ++ .operator op :: rs)
  | negation {p : Nat} {t : ExprTree} {ts : List Token} :
      p ≤ Operator.not.precedence → Written Operator.not.precedence t ts →
      Written p (.negation t) (.operator .not :: ts)
  | isNull (p : Nat) {t : ExprTree} {ts : List Token} :
      Written 0 t ts → Written p (.isNull t) (.builtin .isNull :: .openParen :: ts ++ [.closeParen])

/-- How tightly a tree binds written without parentheses; atoms bind tighter than every operator. -/
def binding : ExprTree → Nat
  | .binary op _ _ => op.precedence
  | .negation _ => Operator.not.precedence
  | _ => Builtin.precedence

/-- Writes a tree with parentheses only where the precedences ask for them. -/
def write (p : Nat) : ExprTree → List Token
  | .literal v => [.literal v]
  | .identifier name => [.identifier name]
  | t@(.binary op l r) =>
      let ts := l.write op.precedence ++ .operator op :: r.write (op.precedence + 1)
      if p ≤ t.binding then ts else .openParen :: ts ++ [.closeParen]
  | t@(.negation u) =>
      let ts := .operator .not :: u.write Operator.not.precedence
      if p ≤ t.binding then ts else .openParen :: ts ++ [.closeParen]
  | .isNull t => .builtin .isNull :: .openParen :: t.write 0 ++ [.closeParen]

def BinaryOps : ExprTree → Prop
  | .literal _ | .identifier _ => True
  | .binary op l r => op ≠ .not ∧ l.BinaryOps ∧ r.BinaryOps
  | .negation t | .isNull t => t.BinaryOps

theorem written_write (t : ExprTree) (binaryOps : t.BinaryOps) (p : Nat) : Written p t (t.write p) := by
  induction t generalizing p with
  | literal v => exact .literal p v
  | identifier name => exact .identifier p name
  | binary op l r ihl ihr =>
      obtain ⟨notNot, lBinary, rBinary⟩ := binaryOps
      have bare (q : Nat) (hq : q ≤ op.precedence) :
          Written q (.binary op l r) (l.write op.precedence ++ .operator op :: r.write (op.precedence + 1)) :=
        .binary op notNot hq (ihl lBinary _) (ihr rBinary _)
      by_cases hp : p ≤ op.precedence
      · simp only [write, binding, hp, ↓reduceIte]; exact bare p hp
      · simp only [write, binding, hp, ↓reduceIte]; exact .parens p (bare 0 (Nat.zero_le _))
  | negation u ih =>
      have bare (q : Nat) (hq : q ≤ Operator.not.precedence) :
          Written q (.negation u) (.operator .not :: u.write Operator.not.precedence) :=
        .negation hq (ih binaryOps _)
      by_cases hp : p ≤ Operator.not.precedence
      · simp only [write, binding, hp, ↓reduceIte]; exact bare p hp
      · simp only [write, binding, hp, ↓reduceIte]; exact .parens p (bare 0 (Nat.zero_le _))
  | isNull u ih => exact .isNull p (ih binaryOps 0)

/-- A literal written as itself: a boolean, a text without a double quote, or a finite number with a
clear sign bit. -/
def plainLiteral : Value → Bool
  | .boolean _ => true
  | .text s => !s.toList.contains '"'
  | .number x =>
      match Binary64.ofFloat x with
      | .finite false _ _ => true
      | _ => false
  | _ => false

/-- An identifier written as itself: a letter, then letters and digits, no keyword and no boolean in
any case. -/
def plainIdentifier (name : String) : Bool :=
  Lexer.isIdentifier name && !Lexer.keywords.contains name &&
    !Text.equalsIgnoringAsciiCase name "true" && !Text.equalsIgnoringAsciiCase name "false"

def Plain : ExprTree → Prop
  | .literal v => plainLiteral v = true
  | .identifier name => plainIdentifier name = true
  | .binary op l r => op ≠ .not ∧ l.Plain ∧ r.Plain
  | .negation t | .isNull t => t.Plain

instance decidablePlain : (t : ExprTree) → Decidable t.Plain
  | .literal v => inferInstanceAs (Decidable (plainLiteral v = true))
  | .identifier name => inferInstanceAs (Decidable (plainIdentifier name = true))
  | .binary op l r =>
      have := decidablePlain l
      have := decidablePlain r
      inferInstanceAs (Decidable (op ≠ .not ∧ l.Plain ∧ r.Plain))
  | .negation t => decidablePlain t
  | .isNull t => decidablePlain t

theorem Plain.binaryOps {t : ExprTree} (plain : t.Plain) : t.BinaryOps := by
  induction t with
  | literal _ | identifier _ => trivial
  | binary _ _ _ ihl ihr => exact ⟨plain.1, ihl plain.2.1, ihr plain.2.2⟩
  | negation _ ih | isNull _ ih => exact ih plain

end ExprTree

end RuleEngine
