import RuleEngine.Proofs.Expression.ShuntingYard
import RuleEngine.Proofs.Expression.StackMachine
import RuleEngine.Proofs.Expression.Lexing

/-! # Compiling written trees

A plain tree, written with the parentheses its precedences need and any redundant ones, compiles
to its post-order and evaluates as the tree. Plainness matters for negative zero, written `-0`,
which reads as a subtraction missing its left operand. -/
set_option autoImplicit false
namespace RuleEngine

namespace Token

theorem separated_of_left {a b : Token} (notWord : a.isWord = false)
    (notIdentifier : ∀ name, a ≠ .identifier name) : Separated a b :=
  ⟨fun ⟨word, _⟩ => Bool.noConfusion (notWord.symm.trans word),
    fun name same => absurd same (notIdentifier name)⟩

theorem separated_of_right {a b : Token} (notWord : b.isWord = false) (notOpen : b ≠ .openParen) :
    Separated a b :=
  ⟨fun ⟨_, word⟩ => Bool.noConfusion (notWord.symm.trans word), fun _ _ => notOpen⟩

theorem isChain_parens {ts : List Token} (chain : ts.IsChain Separated) :
    (Token.openParen :: ts ++ [Token.closeParen]).IsChain Separated := by
  refine (chain.cons ?_).append (List.isChain_singleton _) ?_
  · intro _ _
    exact separated_of_left rfl fun _ => Token.noConfusion
  · intro _ _ y first
    obtain rfl : y = .closeParen := by simpa using first.symm
    exact separated_of_right rfl Token.noConfusion

end Token

namespace ExprTree

theorem Written.plain_tokens {p : Nat} {t : ExprTree} {ts : List Token} (written : t.Written p ts)
    (plain : t.Plain) : ∀ x ∈ ts, x.Plain := by
  induction written with
  | literal _ v | identifier _ v =>
      intro x member
      obtain rfl := List.mem_singleton.mp member
      exact plain
  | parens _ _ ih =>
      intro x member
      simp only [List.cons_append, List.mem_cons, List.mem_append, List.not_mem_nil, or_false] at member
      rcases member with rfl | inner | rfl
      · trivial
      · exact ih plain x inner
      · trivial
  | binary op _ _ _ _ ihl ihr =>
      intro x member
      simp only [List.mem_append, List.mem_cons] at member
      rcases member with left | rfl | right
      · exact ihl plain.2.1 x left
      · trivial
      · exact ihr plain.2.2 x right
  | negation _ _ ih =>
      intro x member
      rcases List.mem_cons.mp member with rfl | inner
      · trivial
      · exact ih plain x inner
  | isNull _ _ ih =>
      intro x member
      simp only [List.cons_append, List.mem_cons, List.mem_append, List.not_mem_nil, or_false] at member
      rcases member with rfl | rfl | inner | rfl
      · trivial
      · trivial
      · exact ih plain x inner
      · trivial

theorem Written.separated {p : Nat} {t : ExprTree} {ts : List Token} (written : t.Written p ts) :
    ts.IsChain Token.Separated := by
  have afterPiece (a : Token) (notWord : a.isWord = false) (notIdentifier : ∀ name, a ≠ .identifier name)
      {rest : List Token} (chain : rest.IsChain Token.Separated) : (a :: rest).IsChain Token.Separated :=
    chain.cons fun _ _ => Token.separated_of_left notWord notIdentifier
  induction written with
  | literal | identifier => exact List.isChain_singleton _
  | parens _ _ ih => exact Token.isChain_parens ih
  | binary op _ _ _ _ ihl ihr =>
      refine ihl.append (afterPiece _ rfl (fun _ => Token.noConfusion) ihr) ?_
      intro _ _ y first
      obtain rfl : y = .operator op := by simpa using first.symm
      exact Token.separated_of_right rfl Token.noConfusion
  | negation _ _ ih => exact afterPiece _ rfl (fun _ => Token.noConfusion) ih
  | isNull _ _ ih =>
      exact afterPiece _ rfl (fun _ => Token.noConfusion) (Token.isChain_parens ih)

end ExprTree

/-- A plain tree written with the parentheses its precedences need, and any redundant ones, compiles
to its post-order and evaluates as the tree. -/
theorem compile_written {t : ExprTree} (plain : t.Plain) {ts : List Token} (written : t.Written 0 ts) :
    ∃ e, Expression.compile (renderTokens ts) = .ok e ∧ e.program = t.postOrder ∧
      ∀ (ε : Type) (resolve : String → Except ε Value) (lift : ExprError → ε),
        e.evaluate resolve lift = t.eval resolve := by
  have binaryOps := plain.binaryOps
  refine ⟨⟨renderTokens ts, ts, t.postOrder, identifiersOf ts⟩, ?_, rfl,
    fun ε resolve lift => ExprTree.runProgram_postOrder resolve lift binaryOps⟩
  simp only [Expression.compile, tokenize_renderTokens (written.plain_tokens plain) written.separated,
    ok_bind, toPostfix_written _ written, ExprTree.checkArity_postOrder binaryOps]
  rfl

/-- `a AND NOT b OR ISNULL(c)`, written with the fewest parentheses, compiles to its post-order. -/
theorem compile_andNotOrIsNull :
    let t := ExprTree.binary .or (.binary .and (.identifier "a") (.negation (.identifier "b")))
      (.isNull (.identifier "c"))
    t.Plain ∧ ∃ e, Expression.compile (renderTokens (t.write 0)) = .ok e ∧ e.program = t.postOrder ∧
      ∀ (ε : Type) (resolve : String → Except ε Value) (lift : ExprError → ε),
        e.evaluate resolve lift = t.eval resolve := by
  intro t
  have plain : t.Plain := by decide
  exact ⟨plain, compile_written plain (ExprTree.written_write t plain.binaryOps 0)⟩

/-- Negative zero is finite and not below zero, and its written form does not compile. -/
theorem negativeZero_written_fails :
    (-0.0 : Float).isFinite = true ∧ ¬ (-0.0 : Float) < 0 ∧
      (ExprTree.literal (.number (-0.0))).Written 0 [.literal (.number (-0.0))] ∧
      Expression.compile (renderTokens [.literal (.number (-0.0))]) =
        .error (.malformedProgram "'-' needs 2 operand(s), found 1") := by
  refine ⟨by decide +kernel, by decide +kernel, .literal 0 _, ?_⟩
  -- compiled programs have no decidable equality; their shape with the program erased has
  have failure : (Expression.compile (renderTokens [.literal (.number (-0.0))])).map (fun _ => ()) =
      .error (.malformedProgram "'-' needs 2 operand(s), found 1") := by
    decide +kernel
  cases compiled : Expression.compile (renderTokens [.literal (.number (-0.0))]) with
  | error e =>
      rw [compiled] at failure
      simpa [Except.map] using failure
  | ok e =>
      rw [compiled] at failure
      simp [Except.map] at failure

end RuleEngine
