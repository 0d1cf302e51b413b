import RuleEngine.Proofs.Expression.ShuntingYard
import Mathlib.Algebra.Order.Group.Multiset
import Mathlib.Tactic.Abel

/-! # The shunting-yard method on any tokens

Over any tokens, the conversion to postfix fails exactly on unbalanced parentheses, and otherwise
only moves tokens: `Postfix.Moved` says what a run of steps did, and each way a step can go is one
lemma about it. -/

set_option autoImplicit false

namespace RuleEngine

namespace Token

def isParen : Token → Bool
  | .openParen | .closeParen => true
  | _ => false

def isOperand : Token → Bool
  | .literal _ | .identifier _ => true
  | _ => false

@[simp] theorem isOpenParen_eq_true {t : Token} : t.isOpenParen = true ↔ t = .openParen := by
  cases t <;> simp [isOpenParen]

theorem isParen_eq_false {t : Token} : t.isParen = false ↔ t ≠ .openParen ∧ t ≠ .closeParen := by
  cases t <;> simp [isParen]

theorem isParen_of_isOperand {t : Token} (operand : t.isOperand = true) : t.isParen = false := by
  cases t <;> simp_all [isOperand, isParen]

end Token

namespace Postfix

/-- The parentheses left open after one more token; `none` for an unmatched closing one. -/
def nesting (depth : Nat) : Token → Option Nat
  | .openParen => some (depth + 1)
  | .closeParen =>
    match depth with
    | 0 => none
    | depth + 1 => some depth
  | _ => some depth

end Postfix

/-- Read left to right, no parenthesis closes what was not opened and none is left open. -/
def Balanced (ts : List Token) : Prop := ts.foldlM Postfix.nesting 0 = some 0

instance (ts : List Token) : Decidable (Balanced ts) := inferInstanceAs (Decidable (_ = some 0))

example : Balanced [.openParen, .identifier "a", .openParen, .closeParen, .closeParen] := by decide
example : ¬ Balanced [.closeParen, .openParen] := by decide

namespace Postfix

def openCount (stack : List Token) : Nat := stack.countP Token.isOpenParen

@[simp] theorem openCount_nil : openCount [] = 0 := rfl

@[simp] theorem openCount_cons (t : Token) (stack : List Token) :
    openCount (t :: stack) = openCount stack + if t = .openParen then 1 else 0 := by
  simp [openCount, List.countP_cons]

theorem openCount_append {moved : List Token} (noOpen : .openParen ∉ moved) (stack : List Token) :
    openCount (moved ++ stack) = openCount stack := by
  have none : moved.countP Token.isOpenParen = 0 :=
    List.countP_eq_zero.mpr fun u member open_ => noOpen (Token.isOpenParen_eq_true.mp open_ ▸ member)
  simp only [openCount, List.countP_append, none, Nat.zero_add]

theorem openCount_eq_zero {stack : List Token} : openCount stack = 0 ↔ .openParen ∉ stack := by
  simp [openCount, List.countP_eq_zero, List.forall_mem_ne']

/-! ## What a run of steps does -/

def held (stack out : List Token) : Multiset Token := ((out ++ stack).filter fun u => !u.isParen : List Token)

/-- What every run of steps keeps: no parenthesis in the program, no operand or closing parenthesis
on the stack. -/
structure Tidy (stack out : List Token) : Prop where
  program : ∀ u ∈ out, u.isParen = false
  waiting : ∀ u ∈ stack, u.isOperand = false ∧ u ≠ .closeParen

theorem Tidy.empty : Tidy [] [] := ⟨fun _ => False.elim ∘ List.not_mem_nil, fun _ => False.elim ∘ List.not_mem_nil⟩

/-- Steps over `ts` grew the tokens held by those read, parentheses apart, and the program's
operands in order. -/
structure Moved (ts stack out stack' out' : List Token) : Prop where
  kept : held stack' out' = held stack out + ((ts.filter fun u => !u.isParen : List Token) : Multiset Token)
  operands : out'.reverse.filter Token.isOperand = out.reverse.filter Token.isOperand ++ ts.filter Token.isOperand
  tidy : Tidy stack' out'

section Moves
variable {stack out : List Token}

theorem Moved.refl (tidy : Tidy stack out) : Moved [] stack out stack out :=
  ⟨by simp, by simp, tidy⟩

theorem Moved.trans {ts ts' stack₁ out₁ stack₂ out₂ : List Token} (first : Moved ts stack out stack₁ out₁)
    (second : Moved ts' stack₁ out₁ stack₂ out₂) : Moved (ts ++ ts') stack out stack₂ out₂ where
  kept := by rw [second.kept, first.kept, List.filter_append, ← Multiset.coe_add, add_assoc]
  operands := by rw [second.operands, first.operands, List.filter_append, List.append_assoc]
  tidy := second.tidy

theorem Moved.emit (tidy : Tidy stack out) {t : Token} (operand : t.isOperand = true) :
    Moved [t] stack out stack (t :: out) where
  kept := by
    simp only [held, List.cons_append, List.filter_cons, Token.isParen_of_isOperand operand, Bool.not_false,
      if_true, List.filter_nil]
    rw [← Multiset.cons_coe, ← Multiset.singleton_add, ← Multiset.coe_singleton, add_comm]
  operands := by simp [operand]
  tidy := ⟨fun u member => by
    rcases List.mem_cons.mp member with rfl | inOut
    · exact Token.isParen_of_isOperand operand
    · exact tidy.program u inOut, tidy.waiting⟩

theorem Moved.wait (tidy : Tidy stack out) {t : Token} (notOperand : t.isOperand = false)
    (notClose : t ≠ .closeParen) : Moved [t] stack out (t :: stack) out where
  kept := by
    rw [held, held, Multiset.coe_add, Multiset.coe_eq_coe, ← List.filter_append]
    exact (List.perm_middle.trans (List.perm_append_singleton _ _).symm).filter _
  operands := by simp [notOperand]
  tidy := ⟨tidy.program, fun u member => by
    rcases List.mem_cons.mp member with rfl | inStack
    · exact ⟨notOperand, notClose⟩
    · exact tidy.waiting u inStack⟩

theorem Moved.transfer (moved : List Token) (tidy : Tidy (moved ++ stack) out) (noOpen : .openParen ∉ moved) :
    Moved [] (moved ++ stack) out stack (moved.reverse ++ out) where
  kept := by
    simp only [held, List.filter_nil, Multiset.coe_nil, add_zero, List.filter_append, List.filter_reverse,
      ← Multiset.coe_add, Multiset.coe_reverse]
    abel
  operands := by
    have none : moved.filter Token.isOperand = [] :=
      List.filter_eq_nil_iff.mpr fun u member => by simp [(tidy.waiting u (List.mem_append_left _ member)).1]
    simp [none]
  tidy := ⟨fun u member => by
    rcases List.mem_append.mp member with inMoved | inOut
    · have inMoved := List.mem_reverse.mp inMoved
      exact Token.isParen_eq_false.mpr ⟨fun same => noOpen (same ▸ inMoved),
        (tidy.waiting u (List.mem_append_left _ inMoved)).2⟩
    · exact tidy.program u inOut,
    fun u member => tidy.waiting u (List.mem_append_right _ member)⟩

theorem Moved.close (tidy : Tidy (.openParen :: stack) out) :
    Moved [.closeParen] (.openParen :: stack) out stack out where
  kept := by simp [held, Token.isParen]
  operands := by simp [Token.isOperand]
  tidy := ⟨tidy.program, fun u member => tidy.waiting u (List.mem_cons_of_mem _ member)⟩

end Moves

/-! ## Popping -/

theorem popWhileBinding_split (prec : Nat) (stack out : List Token) :
    ∃ moved, stack = moved ++ (popWhileBinding prec stack out).1 ∧
      (popWhileBinding prec stack out).2 = moved.reverse ++ out ∧ .openParen ∉ moved := by
  fun_induction popWhileBinding prec stack out with
  | case1 out => exact ⟨[], rfl, rfl, List.not_mem_nil⟩
  | case2 top stack out stops => exact ⟨[], rfl, rfl, List.not_mem_nil⟩
  | case3 top stack out binds ih =>
    obtain ⟨moved, rest, program, noOpen⟩ := ih
    have notOpen : top ≠ .openParen := fun same => by simp [same, Token.isOpenParen] at binds
    refine ⟨top :: moved, by rw [List.cons_append, ← rest], by simp [program], ?_⟩
    simpa [Ne.symm notOpen] using noOpen

theorem popToOpen_split {stack out stack' out' : List Token} (popped : popToOpen stack out = some (stack', out')) :
    ∃ moved, stack = moved ++ .openParen :: stack' ∧ out' = moved.reverse ++ out ∧ .openParen ∉ moved := by
  fun_induction popToOpen stack out with
  | case1 => cases popped
  | case2 rest out =>
    cases popped
    exact ⟨[], rfl, rfl, List.not_mem_nil⟩
  | case3 top rest out notOpen ih =>
    obtain ⟨moved, rest, program, noOpen⟩ := ih popped
    refine ⟨top :: moved, by rw [rest, List.cons_append], by simp [program], ?_⟩
    simpa [Ne.symm notOpen] using noOpen

theorem popToOpen_eq_none_iff {stack out : List Token} : popToOpen stack out = none ↔ .openParen ∉ stack := by
  fun_induction popToOpen stack out with
  | case1 => simp
  | case2 rest out => simp
  | case3 top rest out notOpen ih => simp [ih, Ne.symm notOpen]

theorem drain_eq (src : String) (stack out : List Token) :
    drain src stack out =
      if openCount stack = 0 then .ok (out.reverse ++ stack) else .error (.unbalancedExpression src) := by
  fun_induction drain src stack out with
  | case1 out => simp
  | case2 rest out => simp
  | case3 top rest out notOpen ih =>
    rw [ih, openCount_cons, if_neg notOpen, Nat.add_zero]
    simp

/-! ## One step, and a run of steps -/

section Steps
variable (src : String) {stack out : List Token}

theorem step_of_unmatched {t : Token} (unmatched : nesting (openCount stack) t = none) :
    step src (stack, out) t = .error (.unbalancedExpression src) := by
  obtain ⟨rfl, none⟩ : t = .closeParen ∧ openCount stack = 0 := by
    unfold nesting at unmatched
    split at unmatched
    · cases unmatched
    · split at unmatched
      · next zero => exact ⟨rfl, zero⟩
      · cases unmatched
    · cases unmatched
  simp [step, popToOpen_eq_none_iff.mpr (openCount_eq_zero.mp none)]

theorem step_binary_moves (tidy : Tidy stack out) {op : Operator} (isNot : op ≠ .not) :
    ∃ stack' out', step src (stack, out) (.operator op) = .ok (stack', out') ∧
      openCount stack' = openCount stack ∧ Moved [.operator op] stack out stack' out' := by
  rw [step_binary src stack out isNot]
  obtain ⟨moved, split, program, noOpen⟩ := popWhileBinding_split op.precedence stack out
  generalize popWhileBinding op.precedence stack out = popped at split program ⊢
  obtain ⟨rest, out'⟩ := popped
  dsimp only at split program ⊢
  subst split program
  have moves := (Moved.transfer moved tidy noOpen).trans
    (Moved.wait (Moved.transfer moved tidy noOpen).tidy (t := .operator op) rfl (by simp))
  exact ⟨_, _, rfl, by simp [openCount_append noOpen], by simpa using moves⟩

theorem step_closeParen_moves (tidy : Tidy stack out) {d : Nat} (count : openCount stack = d + 1) :
    ∃ stack' out', step src (stack, out) .closeParen = .ok (stack', out') ∧ openCount stack' = d ∧
      Moved [.closeParen] stack out stack' out' := by
  cases popped : popToOpen stack out with
  | none =>
    have none := openCount_eq_zero.mpr (popToOpen_eq_none_iff.mp popped)
    omega
  | some after =>
    obtain ⟨rest, out'⟩ := after
    obtain ⟨moved, rfl, rfl, noOpen⟩ := popToOpen_split popped
    have dropped := (Moved.transfer moved tidy noOpen).trans (Moved.close (Moved.transfer moved tidy noOpen).tidy)
    simp only [openCount_append noOpen, openCount_cons, if_true, Nat.add_right_cancel_iff] at count
    cases rest with
    | nil => exact ⟨[], moved.reverse ++ out, by simp [step, popped], count, by simpa using dropped⟩
    | cons f below =>
      by_cases call : f.isBuiltin
      · have notOpen : f ≠ .openParen := by rintro rfl; cases call
        have called := dropped.trans (Moved.transfer [f] dropped.tidy (by simpa using Ne.symm notOpen))
        exact ⟨below, f :: (moved.reverse ++ out), by simp [step, popped, call], by simpa [notOpen] using count,
          by simpa using called⟩
      · exact ⟨f :: below, moved.reverse ++ out, by simp [step, popped, call], count, by simpa using dropped⟩

theorem step_of_nesting (tidy : Tidy stack out) {t : Token} {d : Nat} (nested : nesting (openCount stack) t = some d) :
    ∃ stack' out', step src (stack, out) t = .ok (stack', out') ∧ openCount stack' = d ∧
      Moved [t] stack out stack' out' := by
  cases t with
  | literal v =>
    cases nested
    exact ⟨_, _, step_literal .., rfl, Moved.emit tidy rfl⟩
  | identifier name =>
    cases nested
    exact ⟨_, _, step_identifier .., rfl, Moved.emit tidy rfl⟩
  | builtin f =>
    cases nested
    exact ⟨_, _, step_builtin .., by simp, Moved.wait tidy rfl (by simp)⟩
  | openParen =>
    cases nested
    exact ⟨_, _, step_openParen .., by simp, Moved.wait tidy rfl (by simp)⟩
  | operator op =>
    cases nested
    by_cases isNot : op = .not
    · subst isNot
      exact ⟨_, _, step_not .., by simp, Moved.wait tidy rfl (by simp)⟩
    · exact step_binary_moves src tidy isNot
  | closeParen =>
    have count : openCount stack = d + 1 := by
      cases zero : openCount stack <;> simp_all [nesting]
    exact step_closeParen_moves src tidy count

theorem foldlM_step_of_nesting (src : String) : ∀ (ts : List Token) {stack out : List Token} {d : Nat},
    Tidy stack out → ts.foldlM nesting (openCount stack) = some d →
      ∃ stack' out', ts.foldlM (step src) (stack, out) = .ok (stack', out') ∧ openCount stack' = d ∧
        Moved ts stack out stack' out'
  | [], stack, out, d, tidy, nested => by
    cases nested
    exact ⟨stack, out, rfl, rfl, Moved.refl tidy⟩
  | t :: rest, stack, out, d, tidy, nested => by
    rw [List.foldlM_cons] at nested
    obtain ⟨d₁, first, nestedRest⟩ := Option.bind_eq_some_iff.mp nested
    obtain ⟨stack₁, out₁, stepped, count, moved⟩ := step_of_nesting src tidy first
    rw [← count] at nestedRest
    obtain ⟨stack', out', run, count', moved'⟩ := foldlM_step_of_nesting src rest moved.tidy nestedRest
    exact ⟨stack', out', by simp [stepped, run], count', by simpa using moved.trans moved'⟩

theorem foldlM_step_of_unmatched (src : String) : ∀ (ts : List Token) {stack out : List Token},
    Tidy stack out → ts.foldlM nesting (openCount stack) = none →
      ts.foldlM (step src) (stack, out) = .error (.unbalancedExpression src)
  | [], _, _, _, nested => by cases nested
  | t :: rest, stack, out, tidy, nested => by
    cases first : nesting (openCount stack) t with
    | none => simp [step_of_unmatched src first]
    | some d₁ =>
      obtain ⟨stack₁, out₁, stepped, count, moved⟩ := step_of_nesting src tidy first
      simp only [List.foldlM_cons, first, Option.bind_eq_bind, Option.bind_some] at nested
      rw [← count] at nested
      simp [stepped, foldlM_step_of_unmatched src rest moved.tidy nested]

end Steps

/-- A program holds the tokens of its infix form but the parentheses, the operands in the order
written. -/
structure Rearranges (ts program : List Token) : Prop where
  noParen : ∀ u ∈ program, u.isParen = false
  operands : program.filter Token.isOperand = ts.filter Token.isOperand
  perm : program.Perm (ts.filter fun u => !u.isParen)

end Postfix

theorem toPostfix_of_unbalanced (src : String) {ts : List Token} (unbalanced : ¬ Balanced ts) :
    toPostfix src ts = .error (.unbalancedExpression src) := by
  unfold toPostfix
  cases nested : ts.foldlM Postfix.nesting 0 with
  | none => simp [Postfix.foldlM_step_of_unmatched src ts Postfix.Tidy.empty nested]
  | some d =>
    obtain ⟨stack, out, run, count, -⟩ := Postfix.foldlM_step_of_nesting src ts Postfix.Tidy.empty nested
    have leftOpen : d ≠ 0 := fun zero => unbalanced (by rw [Balanced, nested, zero])
    simp [run, Postfix.drain_eq, count, leftOpen]

theorem toPostfix_of_balanced (src : String) {ts : List Token} (balanced : Balanced ts) :
    ∃ program, toPostfix src ts = .ok program ∧ Postfix.Rearranges ts program := by
  obtain ⟨stack, out, run, count, moved⟩ := Postfix.foldlM_step_of_nesting src ts Postfix.Tidy.empty balanced
  have noOpen := Postfix.openCount_eq_zero.mp count
  refine ⟨out.reverse ++ stack, by simp [toPostfix, run, Postfix.drain_eq, count], ?_⟩
  -- no parenthesis is left: none went to the program, no opening one is left on the stack, and a
  -- closing one never waits
  have noParen : ∀ u ∈ out ++ stack, u.isParen = false := by
    intro u member
    rcases List.mem_append.mp member with inOut | inStack
    · exact moved.tidy.program u inOut
    · exact Token.isParen_eq_false.mpr ⟨fun same => noOpen (same ▸ inStack), (moved.tidy.waiting u inStack).2⟩
  refine ⟨fun u member => noParen u (by simpa using member), ?_, ?_⟩
  · have none : stack.filter Token.isOperand = [] :=
      List.filter_eq_nil_iff.mpr fun u member => by simp [(moved.tidy.waiting u member).1]
    simpa [none] using moved.operands
  · have kept := moved.kept
    rw [Postfix.held, Postfix.held, List.filter_eq_self.mpr fun u member => by simp [noParen u member]] at kept
    exact ((List.reverse_perm out).append_right stack).trans (Multiset.coe_eq_coe.mp (by simpa using kept))

theorem toPostfix_eq_error_iff {src : String} {ts : List Token} {e : ExprError} :
    toPostfix src ts = .error e ↔ ¬ Balanced ts ∧ e = .unbalancedExpression src := by
  by_cases balanced : Balanced ts
  · obtain ⟨program, converted, -⟩ := toPostfix_of_balanced src balanced
    simp [converted, balanced]
  · simp [toPostfix_of_unbalanced src balanced, balanced, eq_comm]

theorem toPostfix_isOk_iff {src : String} {ts : List Token} :
    (∃ program, toPostfix src ts = .ok program) ↔ Balanced ts := by
  by_cases balanced : Balanced ts
  · obtain ⟨program, converted, -⟩ := toPostfix_of_balanced src balanced
    exact ⟨fun _ => balanced, fun _ => ⟨program, converted⟩⟩
  · simp [toPostfix_of_unbalanced src balanced, balanced]

theorem toPostfix_rearranges {src : String} {ts program : List Token} (converted : toPostfix src ts = .ok program) :
    Postfix.Rearranges ts program := by
  by_cases balanced : Balanced ts
  · obtain ⟨program', converted', rearranges⟩ := toPostfix_of_balanced src balanced
    rw [converted] at converted'
    cases converted'
    exact rearranges
  · rw [toPostfix_of_unbalanced src balanced] at converted
    cases converted

end RuleEngine
