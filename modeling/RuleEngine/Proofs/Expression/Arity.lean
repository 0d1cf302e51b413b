import RuleEngine.Proofs.Expression.Tree

/-! # The arity check decides which programs run

Running a postfix program and checking its arity walk it alike, token by token, with the stack's
length as the check's depth; so a program whose identifiers resolve runs exactly when it passes
the check. -/
set_option autoImplicit false
namespace RuleEngine

namespace Postfix

theorem depthAfter_cons_ok {depth d : Nat} {t : Token} {rest : List Token} :
    depthAfter depth (t :: rest) = .ok d ↔
      ∃ k, takes t = some k ∧ k ≤ depth ∧ depthAfter (depth - k + 1) rest = .ok d := by
  rw [depthAfter.eq_2]
  cases takesT : takes t with
  | none => simp
  | some k =>
      cases k with
      | zero => simp
      | succ k =>
          by_cases lacks : depth < k + 1
          · simp only [lacks, if_true, reduceCtorEq, false_iff, not_exists, not_and, Option.some.injEq]
            omega
          · simp only [lacks, if_false, Option.some.injEq, exists_eq_left']
            exact ⟨fun walked => ⟨by omega, walked⟩, fun ⟨_, walked⟩ => walked⟩

theorem depthAfter_cons_error {depth : Nat} {t : Token} {rest : List Token} {e : ExprError}
    (refused : depthAfter depth (t :: rest) = .error e) :
    takes t = none ∨ (∃ k, takes t = some k ∧ depth < k) ∨
      ∃ k, takes t = some k ∧ k ≤ depth ∧ depthAfter (depth - k + 1) rest = .error e := by
  rw [depthAfter.eq_2] at refused
  cases takesT : takes t with
  | none => exact .inl rfl
  | some k =>
      rw [takesT] at refused
      cases k with
      | zero => exact .inr (.inr ⟨0, rfl, Nat.zero_le _, refused⟩)
      | succ k =>
          by_cases lacks : depth < k + 1
          · exact .inr (.inl ⟨k + 1, rfl, lacks⟩)
          · simp only [lacks, if_false] at refused
            exact .inr (.inr ⟨k + 1, rfl, by omega, refused⟩)

end Postfix

namespace Machine
variable {ε : Type} (resolve : String → Except ε Value) (lift : ExprError → ε)

theorem step_of_parenthesis {t : Token} (takes : Postfix.takes t = none) (stack : List Value) :
    step resolve lift stack t = .error (lift (.malformedProgram "parenthesis in postfix program")) := by
  cases t <;> simp_all [Postfix.takes, step]

theorem step_of_takes {t : Token} {k : Nat} (takes : Postfix.takes t = some k) {stack : List Value}
    (enough : k ≤ stack.length) :
    (∃ stack', step resolve lift stack t = .ok stack' ∧ stack'.length = stack.length - k + 1) ∨
      ∃ x err, resolve x = .error err ∧ step resolve lift stack t = .error err := by
  cases t with
  | openParen | closeParen => simp [Postfix.takes] at takes
  | literal v =>
      obtain rfl : k = 0 := by simpa [Postfix.takes] using takes.symm
      exact .inl ⟨v :: stack, rfl, by simp⟩
  | identifier x =>
      obtain rfl : k = 0 := by simpa [Postfix.takes] using takes.symm
      cases resolved : resolve x with
      | ok v => exact .inl ⟨v :: stack, by simp [step, resolved], by simp⟩
      | error err =>
          refine .inr ⟨x, err, resolved, ?_⟩
          show (do return (← resolve x) :: stack) = _
          rw [resolved]
          rfl
  | builtin f =>
      obtain rfl : k = 1 := by cases f; simpa [Postfix.takes, Builtin.arity] using takes.symm
      obtain ⟨v, rest, rfl⟩ : ∃ v rest, stack = v :: rest := by
        cases stack with
        | nil => simp at enough
        | cons v rest => exact ⟨v, rest, rfl⟩
      exact .inl ⟨f.call v :: rest, by simp [step, pop], by simp⟩
  | operator op =>
      obtain rfl : k = op.arity := by simpa [Postfix.takes] using takes.symm
      by_cases unary : op.arity = 1
      · rw [unary] at enough ⊢
        obtain ⟨v, rest, rfl⟩ : ∃ v rest, stack = v :: rest := by
          cases stack with
          | nil => simp at enough
          | cons v rest => exact ⟨v, rest, rfl⟩
        exact .inl ⟨op.applyUnary v :: rest, by simp [step, pop, unary], by simp⟩
      · have binary : op.arity = 2 := by cases op <;> simp_all [Operator.arity]
        rw [binary] at enough ⊢
        obtain ⟨r, l, rest, rfl⟩ : ∃ r l rest, stack = r :: l :: rest := by
          match stack, enough with
          | r :: l :: rest, _ => exact ⟨r, l, rest, rfl⟩
        exact .inl ⟨op.apply l r :: rest, by simp [step, pop, unary], by simp⟩

theorem step_of_lacks {t : Token} {k : Nat} (takes : Postfix.takes t = some k) {stack : List Value}
    (lacks : stack.length < k) : ∃ m, step resolve lift stack t = .error (lift (.malformedProgram m)) := by
  cases t with
  | openParen | closeParen => simp [Postfix.takes] at takes
  | literal v | identifier x =>
      obtain rfl : k = 0 := by simpa [Postfix.takes] using takes.symm
      simp at lacks
  | builtin f =>
      obtain rfl : k = 1 := by cases f; simpa [Postfix.takes, Builtin.arity] using takes.symm
      obtain rfl : stack = [] := List.length_eq_zero_iff.mp (by omega)
      exact ⟨_, rfl⟩
  | operator op =>
      obtain rfl : k = op.arity := by simpa [Postfix.takes] using takes.symm
      by_cases unary : op.arity = 1
      · obtain rfl : stack = [] := List.length_eq_zero_iff.mp (by omega)
        refine ⟨"stack underflow at '" ++ (Token.operator op).render ++ "'", ?_⟩
        simp only [step, unary, if_true]
        rfl
      · have binary : op.arity = 2 := by cases op <;> simp_all [Operator.arity]
        -- the right operand may be there; the left one is not
        match stack, lacks with
        | [], _ =>
            refine ⟨"stack underflow at '" ++ (Token.operator op).render ++ "'", ?_⟩
            simp only [step, unary, if_false]
            rfl
        | [r], _ =>
            refine ⟨"stack underflow at '" ++ (Token.operator op).render ++ "'", ?_⟩
            simp only [step, unary, if_false]
            rfl
        | _ :: _ :: _, lacks =>
            simp only [List.length_cons, binary] at lacks
            omega

theorem foldlM_step_of_depthAfter_ok : ∀ (p : List Token) (stack : List Value) {d : Nat},
    Postfix.depthAfter stack.length p = .ok d →
      (∃ stack', p.foldlM (step resolve lift) stack = .ok stack' ∧ stack'.length = d) ∨
        ∃ x err, resolve x = .error err ∧ p.foldlM (step resolve lift) stack = .error err
  | [], stack, d, walked => by
      obtain rfl : stack.length = d := by simpa [Postfix.depthAfter] using walked
      exact .inl ⟨stack, rfl, rfl⟩
  | t :: rest, stack, d, walked => by
      obtain ⟨k, takes, enough, walkedRest⟩ := Postfix.depthAfter_cons_ok.mp walked
      rcases step_of_takes resolve lift takes enough with ⟨stack', stepped, length⟩ | ⟨x, err, failed, stepped⟩
      · rw [← length] at walkedRest
        simpa only [List.foldlM_cons, stepped, ok_bind] using
          foldlM_step_of_depthAfter_ok rest stack' walkedRest
      · exact .inr ⟨x, err, failed, by simp [stepped]⟩

theorem foldlM_step_of_depthAfter_error : ∀ (p : List Token) (stack : List Value) {e : ExprError},
    Postfix.depthAfter stack.length p = .error e →
      (∃ m, p.foldlM (step resolve lift) stack = .error (lift (.malformedProgram m))) ∨
        ∃ x err, resolve x = .error err ∧ p.foldlM (step resolve lift) stack = .error err
  | [], stack, e, refused => by simp [Postfix.depthAfter] at refused
  | t :: rest, stack, e, refused => by
      rcases Postfix.depthAfter_cons_error refused with paren | ⟨k, takes, lacks⟩ | ⟨k, takes, enough, refusedRest⟩
      · exact .inl ⟨"parenthesis in postfix program", by simp [step_of_parenthesis resolve lift paren]⟩
      · obtain ⟨m, stepped⟩ := step_of_lacks resolve lift takes lacks
        exact .inl ⟨m, by simp [stepped]⟩
      · rcases step_of_takes resolve lift takes enough with ⟨stack', stepped, length⟩ | ⟨x, err, failed, stepped⟩
        · rw [← length] at refusedRest
          simpa only [List.foldlM_cons, stepped, ok_bind] using
            foldlM_step_of_depthAfter_error rest stack' refusedRest
        · exact .inr ⟨x, err, failed, by simp [stepped]⟩

end Machine

section Run
variable {ε : Type} (resolve : String → Except ε Value) (lift : ExprError → ε)

theorem depthAfter_of_checkArity {p : List Token} (checked : checkArity p = .ok ()) :
    Postfix.depthAfter 0 p = .ok 1 := by
  unfold checkArity at checked
  split at checked
  · cases checked
  · split at checked
    · cases checked
    · assumption
    · cases checked

theorem runProgram_of_checkArity {p : List Token} (checked : checkArity p = .ok ()) :
    (∃ v, runProgram resolve lift p = .ok v) ∨
      ∃ x err, resolve x = .error err ∧ runProgram resolve lift p = .error err := by
  have leavesOne := depthAfter_of_checkArity checked
  rcases Machine.foldlM_step_of_depthAfter_ok resolve lift p [] leavesOne with
    ⟨stack, ran, one⟩ | ⟨x, err, failed, ran⟩
  · obtain ⟨v, rfl⟩ := List.length_eq_one_iff.mp one
    exact .inl ⟨v, by rw [runProgram, ran]; rfl⟩
  · exact .inr ⟨x, err, failed, by simp [runProgram, ran]⟩

theorem runProgram_of_checkArity_error {p : List Token} {e : ExprError} (refused : checkArity p = .error e) :
    (∃ m, runProgram resolve lift p = .error (lift (.malformedProgram m))) ∨
      ∃ x err, resolve x = .error err ∧ runProgram resolve lift p = .error err := by
  unfold checkArity at refused
  split at refused
  · -- the empty program leaves no value
    rename_i empty
    obtain rfl : p = [] := List.isEmpty_iff.mp empty
    exact .inl ⟨_, rfl⟩
  · split at refused
    · rename_i e' walked
      rcases Machine.foldlM_step_of_depthAfter_error resolve lift p [] walked with
        ⟨m, ran⟩ | ⟨x, err, failed, ran⟩
      · exact .inl ⟨m, by simp [runProgram, ran]⟩
      · exact .inr ⟨x, err, failed, by simp [runProgram, ran]⟩
    · cases refused
    · -- the check ends at a depth other than one, and so does the run
      rename_i d notOne walked
      rcases Machine.foldlM_step_of_depthAfter_ok resolve lift p [] walked with
        ⟨stack, ran, depth⟩ | ⟨x, err, failed, ran⟩
      · refine .inl ?_
        match stack, depth with
        | [], _ => exact ⟨_, by rw [runProgram, ran]; rfl⟩
        | [_], depth => exact absurd depth.symm notOne
        | _ :: _ :: _, _ => exact ⟨_, by rw [runProgram, ran]; rfl⟩
      · exact .inr ⟨x, err, failed, by simp [runProgram, ran]⟩

theorem checkArity_of_compile {src : String} {e : Expression} (compiled : Expression.compile src = .ok e) :
    checkArity e.program = .ok () := by
  simp only [Expression.compile, bind_eq_ok] at compiled
  obtain ⟨tokens, -, program, -, u, checked, built⟩ := compiled
  cases u
  cases built
  exact checked

end Run

/-- When every identifier resolves, a program runs exactly when it passes the arity check; a
compiled program fails only where the resolver fails. -/
theorem runProgram_ok_iff_checkArity {ε : Type} (lift : ExprError → ε) :
    (∀ (resolve : String → Except ε Value), (∀ x, ∃ v, resolve x = .ok v) → ∀ p : List Token,
      ((∃ v, runProgram resolve lift p = .ok v) ↔ checkArity p = .ok ()) ∧
        ∀ err, runProgram resolve lift p = .error err → ∃ m, err = lift (.malformedProgram m)) ∧
    ∀ (resolve : String → Except ε Value) (src : String) (e : Expression), Expression.compile src = .ok e →
      ∀ err, e.evaluate resolve lift = .error err → ∃ x, resolve x = .error err := by
  refine ⟨fun resolve total p => ?_, fun resolve src e compiled err failed => ?_⟩
  · -- a resolver that never fails leaves only the program's own faults
    have noFailure : ∀ x err, resolve x ≠ .error err := fun x err failed => by
      obtain ⟨v, resolved⟩ := total x
      rw [resolved] at failed
      cases failed
    cases checked : checkArity p with
    | ok u =>
        cases u
        obtain ⟨v, ran⟩ | ⟨x, err, failed, -⟩ := runProgram_of_checkArity resolve lift checked
        · refine ⟨⟨fun _ => rfl, fun _ => ⟨v, ran⟩⟩, fun err failed => ?_⟩
          rw [ran] at failed
          cases failed
        · exact absurd failed (noFailure x err)
    | error e =>
        obtain ⟨m, ran⟩ | ⟨x, err, failed, -⟩ := runProgram_of_checkArity_error resolve lift checked
        · refine ⟨⟨fun ⟨v, ok⟩ => ?_, fun refused => by cases refused⟩, fun err failed => ⟨m, ?_⟩⟩
          · rw [ran] at ok
            cases ok
          · rw [ran] at failed
            cases failed
            rfl
        · exact absurd failed (noFailure x err)
  · obtain ⟨v, ran⟩ | ⟨x, err', resolverFailed, ran⟩ :=
      runProgram_of_checkArity resolve lift (checkArity_of_compile compiled)
    · simp only [Expression.evaluate, ran] at failed
      cases failed
    · simp only [Expression.evaluate, ran, Except.error.injEq] at failed
      exact ⟨x, failed ▸ resolverFailed⟩

/-- Two booleans with nothing to join them are refused by the check, and do not run. -/
theorem runProgram_twoBooleans_refused :
    let resolve : String → Except ExprError Value := fun _ => .ok (.boolean true)
    let p := [Token.literal (.boolean true), .literal (.boolean false)]
    (∀ x, ∃ v, resolve x = .ok v) ∧ checkArity p ≠ .ok () ∧ ¬ ∃ v, runProgram resolve id p = .ok v := by
  intro resolve p
  have total : ∀ x, ∃ v, resolve x = .ok v := fun _ => ⟨_, rfl⟩
  have refused : checkArity p ≠ .ok () := by intro checked; cases checked
  exact ⟨total, refused, fun ran => refused (((runProgram_ok_iff_checkArity id).1 resolve total p).1.mp ran)⟩

end RuleEngine
