import RuleEngine.Proofs.Expression.Tree

/-! # Post-order programs on the stack machine

The post-order of a tree whose infix operators are binary pushes the tree's value onto any stack,
or stops with the resolver's first error; so it passes the arity check and returns the tree's
value. -/
set_option autoImplicit false
namespace RuleEngine
namespace ExprTree

section Machine
variable {ε : Type} (resolve : String → Except ε Value) (lift : ExprError → ε)

theorem foldlM_step_postOrder {t : ExprTree} (binaryOps : t.BinaryOps) (stack : List Value) :
    t.postOrder.foldlM (Machine.step resolve lift) stack =
      t.eval resolve >>= fun v => .ok (v :: stack) := by
  induction t generalizing stack with
  | literal v => rfl
  | identifier name =>
      simp only [postOrder, eval, List.foldlM_cons, List.foldlM_nil, Machine.step]
      cases resolve name <;> rfl
  | binary op l r ihl ihr =>
      obtain ⟨notNot, lBinary, rBinary⟩ := binaryOps
      have twoOperands : op.arity ≠ 1 := by cases op <;> simp_all [Operator.arity]
      simp only [postOrder, eval, List.foldlM_append, ihl lBinary]
      cases l.eval resolve with
      | error e => rfl
      | ok a =>
          simp only [ok_bind, ihr rBinary]
          cases r.eval resolve with
          | error e => rfl
          | ok b => simp [Machine.step, Machine.pop, twoOperands]
  | negation u ih =>
      simp only [postOrder, eval, List.foldlM_append, ih binaryOps]
      cases u.eval resolve with
      | error e => rfl
      | ok a => simp [Machine.step, Machine.pop, Operator.arity]
  | isNull u ih =>
      simp only [postOrder, eval, List.foldlM_append, ih binaryOps]
      cases u.eval resolve with
      | error e => rfl
      | ok a => simp [Machine.step, Machine.pop]

theorem runProgram_postOrder {t : ExprTree} (binaryOps : t.BinaryOps) :
    runProgram resolve lift t.postOrder = t.eval resolve := by
  simp only [runProgram, foldlM_step_postOrder resolve lift binaryOps]
  cases t.eval resolve <;> rfl

end Machine

theorem depthAfter_postOrder {t : ExprTree} (binaryOps : t.BinaryOps) (depth : Nat)
    (rest : List Token) :
    Postfix.depthAfter depth (t.postOrder ++ rest) = Postfix.depthAfter (depth + 1) rest := by
  induction t generalizing depth rest with
  | literal v | identifier name => rfl
  | binary op l r ihl ihr =>
      obtain ⟨notNot, lBinary, rBinary⟩ := binaryOps
      have twoOperands : op.arity = 2 := by cases op <;> simp_all [Operator.arity]
      have enough : ¬ depth + 1 + 1 < 2 := by omega
      simp only [postOrder, List.append_assoc, List.singleton_append, ihl lBinary,
        ihr rBinary]
      simp [Postfix.depthAfter, Postfix.takes, twoOperands, enough]
  | negation u ih =>
      simp only [postOrder, List.append_assoc, List.singleton_append, ih binaryOps]
      simp [Postfix.depthAfter, Postfix.takes, Operator.arity]
  | isNull u ih =>
      simp only [postOrder, List.append_assoc, List.singleton_append, ih binaryOps]
      simp [Postfix.depthAfter, Postfix.takes, Builtin.arity]

theorem postOrder_ne_nil (t : ExprTree) : t.postOrder ≠ [] := by
  cases t <;> simp [postOrder]

theorem checkArity_postOrder {t : ExprTree} (binaryOps : t.BinaryOps) :
    checkArity t.postOrder = .ok () := by
  have leavesOne : Postfix.depthAfter 0 t.postOrder = .ok 1 := by
    simpa [Postfix.depthAfter] using depthAfter_postOrder binaryOps 0 []
  simp [checkArity, postOrder_ne_nil, leavesOne]

end ExprTree

section Reads
variable {ε : Type} {resolve resolve' : String → Except ε Value} (lift : ExprError → ε)

theorem Machine.step_congr {stack : List Value} {t : Token}
    (same : ∀ x, t = .identifier x → resolve' x = resolve x) :
    Machine.step resolve' lift stack t = Machine.step resolve lift stack t := by
  cases t with
  | identifier x => simp only [Machine.step, same x rfl]
  | _ => rfl

theorem runProgram_congr {program : List Token}
    (same : ∀ x, Token.identifier x ∈ program → resolve' x = resolve x) :
    runProgram resolve' lift program = runProgram resolve lift program := by
  have run : ∀ (ts : List Token) (stack : List Value), (∀ x, Token.identifier x ∈ ts → resolve' x = resolve x) →
      ts.foldlM (Machine.step resolve' lift) stack = ts.foldlM (Machine.step resolve lift) stack := by
    intro ts
    induction ts with
    | nil => intro _ _; rfl
    | cons t rest ih =>
        intro stack reads
        have here : Machine.step resolve' lift stack t = Machine.step resolve lift stack t :=
          Machine.step_congr lift fun x same' => reads x (same' ▸ List.mem_cons_self ..)
        simp only [List.foldlM_cons, here]
        congr 1
        funext stack'
        exact ih stack' fun x member => reads x (List.mem_cons_of_mem t member)
  simp only [runProgram, run program [] same]

end Reads
end RuleEngine
