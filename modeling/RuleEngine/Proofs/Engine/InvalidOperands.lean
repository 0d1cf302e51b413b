import RuleEngine.Proofs.Expression.Reading
import RuleEngine.Proofs.Engine.Evaluation

/-! # The invalid value spoils a result

Every operator but `OR` gives the invalid value on an invalid operand, and on the stack machine an
invalid value once pushed stays; so a program without `OR` and `ISNULL` that reads a node without a
value gives the invalid value. -/
set_option autoImplicit false
namespace RuleEngine

/-! ## Operators -/

theorem Operator.apply_of_invalid {op : Operator} (notOr : op ≠ .or) {l r : Value}
    (spoilt : l = .invalid ∨ r = .invalid) : op.apply l r = .invalid := by
  cases op
  case or => exact absurd rfl notOr
  all_goals
    rcases spoilt with rfl | rfl
    · cases r <;> rfl
    · cases l <;> rfl

theorem Operator.applyUnary_invalid (op : Operator) : op.applyUnary .invalid = .invalid := by
  cases op <;> rfl

/-! ## The stack machine -/

namespace Machine
variable {ε : Type} (resolve : String → Except ε Value) (lift : ExprError → ε)

theorem step_operator_eq_ok {op : Operator} {stack stack' : List Value}
    (stepped : step resolve lift stack (.operator op) = .ok stack') :
    (op.arity = 1 ∧ ∃ v rest, stack = v :: rest ∧ stack' = op.applyUnary v :: rest) ∨
      (op.arity ≠ 1 ∧ ∃ r l rest, stack = r :: l :: rest ∧ stack' = op.apply l r :: rest) := by
  by_cases unary : op.arity = 1
  · refine .inl ⟨unary, ?_⟩
    rcases stack with _ | ⟨v, rest⟩
    · simp [step, unary, pop] at stepped
    · simp only [step, unary, if_true, pop, ok_bind, pure, Except.pure] at stepped
      exact ⟨v, rest, rfl, (Except.ok.inj stepped).symm⟩
  · refine .inr ⟨unary, ?_⟩
    rcases stack with _ | ⟨r, _ | ⟨l, rest⟩⟩
    · simp [step, unary, pop] at stepped
    · simp [step, unary, pop] at stepped
    · simp only [step, unary, if_false, pop, ok_bind, pure, Except.pure] at stepped
      exact ⟨r, l, rest, rfl, (Except.ok.inj stepped).symm⟩

theorem step_keeps_invalid {t : Token} (notOr : t ≠ .operator .or) (notIsNull : t ≠ .builtin .isNull)
    {stack stack' : List Value} (stepped : step resolve lift stack t = .ok stack')
    (spoilt : .invalid ∈ stack) : .invalid ∈ stack' := by
  cases t with
  | openParen | closeParen => simp [step] at stepped
  | literal v =>
    cases stepped
    exact List.mem_cons_of_mem v spoilt
  | identifier x =>
    obtain ⟨v, -, pushed⟩ := bind_eq_ok.mp stepped
    cases pushed
    exact List.mem_cons_of_mem v spoilt
  | builtin f =>
    cases f
    exact absurd rfl notIsNull
  | operator op =>
    have notOr' : op ≠ .or := fun same => notOr (same ▸ rfl)
    rcases step_operator_eq_ok resolve lift stepped with ⟨-, v, rest, rfl, rfl⟩ | ⟨-, r, l, rest, rfl, rfl⟩
    · rcases List.mem_cons.mp spoilt with operand | below
      · rw [← operand, Operator.applyUnary_invalid]
        exact List.mem_cons_self ..
      · exact List.mem_cons_of_mem _ below
    · rcases List.mem_cons.mp spoilt with right | spoilt
      · rw [Operator.apply_of_invalid notOr' (.inr right.symm)]
        exact List.mem_cons_self ..
      rcases List.mem_cons.mp spoilt with left | below
      · rw [Operator.apply_of_invalid notOr' (.inl left.symm)]
        exact List.mem_cons_self ..
      · exact List.mem_cons_of_mem _ below

/-- The tokens that push the invalid value: an invalid literal, or an identifier resolved as
invalid. -/
def PushesInvalid (t : Token) : Prop :=
  t = .literal .invalid ∨ ∃ x, t = .identifier x ∧ resolve x = .ok .invalid

theorem step_pushes_invalid {t : Token} (pushes : PushesInvalid resolve t) {stack stack' : List Value}
    (stepped : step resolve lift stack t = .ok stack') : .invalid ∈ stack' := by
  rcases pushes with rfl | ⟨x, rfl, resolved⟩
  · cases stepped
    exact List.mem_cons_self ..
  · simp only [step, resolved, ok_bind, pure, Except.pure, Except.ok.injEq] at stepped
    rw [← stepped]
    exact List.mem_cons_self ..

theorem foldlM_keeps_invalid : ∀ {p : List Token} {stack stack' : List Value},
    Token.operator .or ∉ p → Token.builtin .isNull ∉ p → p.foldlM (step resolve lift) stack = .ok stack' →
      (.invalid ∈ stack ∨ ∃ t ∈ p, PushesInvalid resolve t) → .invalid ∈ stack'
  | [], stack, stack', _, _, ran, spoilt => by
    cases ran
    rcases spoilt with here | ⟨t, member, -⟩
    · exact here
    · cases member
  | t :: rest, stack, stack', noOr, noIsNull, ran, spoilt => by
    obtain ⟨mid, stepped, ran⟩ := bind_eq_ok.mp ran
    have notOr : t ≠ .operator .or := fun same => noOr (same ▸ List.mem_cons_self ..)
    have notIsNull : t ≠ .builtin .isNull := fun same => noIsNull (same ▸ List.mem_cons_self ..)
    refine foldlM_keeps_invalid (fun member => noOr (List.mem_cons_of_mem t member))
      (fun member => noIsNull (List.mem_cons_of_mem t member)) ran ?_
    -- the invalid value was there, is pushed by this token, or is pushed later
    rcases spoilt with here | ⟨t', member, pushes⟩
    · exact .inl (step_keeps_invalid resolve lift notOr notIsNull stepped here)
    · rcases List.mem_cons.mp member with rfl | later
      · exact .inl (step_pushes_invalid resolve lift pushes stepped)
      · exact .inr ⟨t', later, pushes⟩

end Machine

theorem runProgram_eq_invalid {ε : Type} {resolve : String → Except ε Value} {lift : ExprError → ε}
    {p : List Token} {v : Value} (noOr : Token.operator .or ∉ p) (noIsNull : Token.builtin .isNull ∉ p)
    (ran : runProgram resolve lift p = .ok v)
    (spoilt : Token.literal .invalid ∈ p ∨ ∃ x, Token.identifier x ∈ p ∧ resolve x = .ok .invalid) :
    v = .invalid := by
  obtain ⟨stack, folded, ended⟩ := bind_eq_ok.mp ran
  have single : stack = [v] := by
    match stack, ended with
    | [w], ended => exact congrArg (fun w => [w]) (Except.ok.inj ended)
    | [], ended => cases ended
    | _ :: _ :: _, ended => cases ended
  have pushed : ∃ t ∈ p, Machine.PushesInvalid resolve t := by
    rcases spoilt with literal | ⟨x, member, resolved⟩
    · exact ⟨_, literal, .inl rfl⟩
    · exact ⟨_, member, .inr ⟨x, rfl, resolved⟩⟩
  have kept := Machine.foldlM_keeps_invalid resolve lift noOr noIsNull folded (.inr pushed)
  rw [single, List.mem_singleton] at kept
  exact kept.symm

/-! ## Assignments that read a node without a value -/

namespace Registry
variable {r : Registry}

theorem resolve_of_absent {x : String} {m : Evidence} (found : r.evidence.get? x = some m)
    (on : m.evaluatable = true) (absent : m.value = none) : r.resolve x = .ok .invalid := by
  simp [resolve, value, lookup, found, on, absent, pure, Except.pure]

theorem runProgram_ok_of_resolves {p : List Token} (checked : checkArity p = .ok ())
    (resolves : ∀ y, Token.identifier y ∈ p → ∃ w, r.resolve y = .ok w) :
    ∃ v, runProgram r.resolve EngineError.expression p = .ok v := by
  -- a resolver that never fails and agrees with the registry on the program's identifiers
  let total : String → Except EngineError Value := fun y =>
    match r.resolve y with
    | .ok w => .ok w
    | .error _ => .ok .invalid
  have agree : ∀ y, Token.identifier y ∈ p → total y = r.resolve y := by
    intro y member
    obtain ⟨w, resolved⟩ := resolves y member
    simp only [total, resolved]
  rw [← runProgram_congr EngineError.expression agree]
  rcases runProgram_of_checkArity total EngineError.expression checked with found | ⟨y, err, failed, -⟩
  · exact found
  · simp only [total] at failed
    split at failed <;> cases failed

theorem evaluateEvidence_of_invalid {id target : String} {n : Evidence} {e : Expression}
    (found : r.evidence.get? id = some n) (on : n.evaluatable = true) (kind : n.kind = .assignment target e)
    (invalid : runProgram r.resolve EngineError.expression e.program = .ok .invalid) :
    r.evaluateEvidence id = .error (.invalidExpression n.id e.source) := by
  simp [evaluateEvidence, lookup, found, on, plan, kind, Expression.evaluate, invalid, Value.isInvalid]
  rfl

theorem evaluateEvidence_ne_ok_of_invalid {id target : String} {n : Evidence} {e : Expression}
    (found : r.evidence.get? id = some n) (kind : n.kind = .assignment target e)
    (spoilt : ∀ v, runProgram r.resolve EngineError.expression e.program = .ok v → v = .invalid)
    (outcome : Registry × Step) : r.evaluateEvidence id ≠ .ok outcome := by
  intro evaluated
  cases evaluateEvidence_evaluated evaluated with
  | off found' _ fact =>
    rw [found] at found'
    cases found'
    rw [kind] at fact
    cases fact
  | assign found' _ kind' value valid =>
    rw [found] at found'
    cases found'
    rw [kind] at kind'
    cases kind'
    rw [spoilt _ value] at valid
    cases valid
  | refresh found' _ kind' | trigger found' _ kind' | callback found' _ kind' | decided found' _ kind'
  | undecided found' _ kind' =>
    rw [found] at found'
    cases found'
    rw [kind] at kind'
    cases kind'

end Registry

/-- A program without `OR` and `ISNULL` gives the invalid value when it reads one; so an assignment
of such an expression that reads a switched-on node without a value never succeeds, and fails as an
invalid expression when all it reads resolves. -/
theorem reading_invalid_spoils_result :
    (∀ (ε : Type) (resolve : String → Except ε Value) (lift : ExprError → ε) (p : List Token) (v : Value),
      Token.operator .or ∉ p → Token.builtin .isNull ∉ p → runProgram resolve lift p = .ok v →
      (Token.literal .invalid ∈ p ∨ ∃ x, Token.identifier x ∈ p ∧ resolve x = .ok .invalid) → v = .invalid) ∧
    ∀ (r : Registry) (id target x : String) (n m : Evidence) (e : Expression),
      r.evidence.get? id = some n → n.kind = .assignment target e →
      Token.operator .or ∉ e.program → Token.builtin .isNull ∉ e.program → Token.identifier x ∈ e.program →
      r.evidence.get? x = some m → m.evaluatable = true → m.value = none →
      (∀ outcome, r.evaluateEvidence id ≠ .ok outcome) ∧
      (n.evaluatable = true → checkArity e.program = .ok () →
        (∀ y, Token.identifier y ∈ e.program → ∃ w, r.resolve y = .ok w) →
        r.evaluateEvidence id = .error (.invalidExpression n.id e.source)) := by
  refine ⟨fun ε resolve lift p v noOr noIsNull ran spoilt => runProgram_eq_invalid noOr noIsNull ran spoilt, ?_⟩
  intro r id target x n m e found kind noOr noIsNull reads foundX on absent
  have spoilt : ∀ v, runProgram r.resolve EngineError.expression e.program = .ok v → v = .invalid :=
    fun v ran => runProgram_eq_invalid noOr noIsNull ran
      (.inr ⟨x, reads, Registry.resolve_of_absent foundX on absent⟩)
  refine ⟨Registry.evaluateEvidence_ne_ok_of_invalid found kind spoilt, fun switchedOn checked resolves => ?_⟩
  obtain ⟨v, ran⟩ := Registry.runProgram_ok_of_resolves checked resolves
  rw [spoilt v ran] at ran
  exact Registry.evaluateEvidence_of_invalid found switchedOn kind ran

def sumOfTwo : Expression :=
  ⟨"a + b", [.identifier "a", .operator .add, .identifier "b"], [.identifier "a", .identifier "b", .operator .add],
    ["a", "b"]⟩

/-- The facts `a` and `b`, with no value, and the action `r-a-0` assigning `a` the sum `a + b`. -/
def absentOperands : Registry :=
  { evidence := ⟨[("a", Evidence.fact "a" Priority.default (.naked none)),
      ("b", Evidence.fact "b" Priority.default (.naked none)),
      ("r-a-0", ⟨"r-a-0", Priority.default, true, .naked none, .assignment "a" sumOfTwo⟩)]⟩ }

theorem absentOperands_sum_refused :
    absentOperands.evaluateEvidence "r-a-0" = .error (.invalidExpression "r-a-0" "a + b") :=
  (reading_invalid_spoils_result.2 absentOperands "r-a-0" "a" "a" _ _ sumOfTwo rfl rfl (by simp [sumOfTwo])
    (by simp [sumOfTwo]) (by simp [sumOfTwo]) rfl rfl rfl).2 rfl rfl (fun y reads => by
      simp only [sumOfTwo, List.mem_cons, Token.identifier.injEq, List.not_mem_nil, reduceCtorEq,
        or_false] at reads
      rcases reads with rfl | rfl <;> exact ⟨_, rfl⟩)

/-- The fact `a`, with no value, and the action `r-a-0` assigning it `a + b`, with no node `b`. -/
def unknownOperand : Registry :=
  { evidence := ⟨[("a", Evidence.fact "a" Priority.default (.naked none)),
      ("r-a-0", ⟨"r-a-0", Priority.default, true, .naked none, .assignment "a" sumOfTwo⟩)]⟩ }

/-- The switched-on assignment `r-a-0` reads `a`, which has no value, yet fails on the unknown `b`,
not as an invalid expression. -/
theorem unknownOperand_refused_otherwise :
    Expression.compile "a + b" = .ok sumOfTwo ∧
      unknownOperand.evidence.get? "a" = some (Evidence.fact "a" Priority.default (.naked none)) ∧
      unknownOperand.evaluateEvidence "r-a-0" = .error (.unknownEvidence "b") :=
  ⟨by decide +kernel, rfl, rfl⟩

end RuleEngine
