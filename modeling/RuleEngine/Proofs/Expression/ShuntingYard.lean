import RuleEngine.Proofs.Expression.Tree

/-! # The shunting-yard method on written trees

Over the written form of a tree, the stack holds only the tree's operators still waiting for an
operand's end, above a surrounding stack that is never disturbed (`Clear`, `Reaches`); so the
program of a tree written at the top is its post-order. -/
set_option autoImplicit false
namespace RuleEngine

namespace Postfix

/-- Above the first opening parenthesis, the stack holds operators binding less tightly than `q`. -/
def Clear (q : Nat) : List Token → Prop
  | [] => True
  | .openParen :: _ => True
  | .operator op :: rest => op.precedence < q ∧ Clear q rest
  | _ :: _ => False

/-- Operators waiting on the stack, each binding at least as tightly as `p`. -/
def Waiting (p : Nat) (pend : List Token) : Prop :=
  ∀ t ∈ pend, ∃ op, t = .operator op ∧ p ≤ op.precedence

/-- Every infix operator that may top a tree written at `p` binds at least as tightly as `q`. -/
def Reaches (p q : Nat) : Prop :=
  ∀ op : Operator, op ≠ .not → p ≤ op.precedence → q ≤ op.precedence

theorem Clear.mono {q q' : Nat} (le : q ≤ q') : ∀ {stack : List Token}, Clear q stack → Clear q' stack
  | [], _ => trivial
  | .openParen :: _, _ => trivial
  | .operator _ :: _, ⟨lt, rest⟩ => ⟨Nat.lt_of_lt_of_le lt le, Clear.mono le rest⟩
  | .closeParen :: _, clear | .builtin _ :: _, clear | .literal _ :: _, clear
  | .identifier _ :: _, clear => clear

theorem Waiting.append {p : Nat} {pend pend' : List Token} (first : Waiting p pend)
    (second : Waiting p pend') : Waiting p (pend ++ pend') := by
  intro t member
  rcases List.mem_append.mp member with inFirst | inSecond
  · exact first t inFirst
  · exact second t inSecond

theorem Waiting.mono {p p' : Nat} (le : p' ≤ p) {pend : List Token} (waiting : Waiting p pend) :
    Waiting p' pend := by
  intro t member
  obtain ⟨op, rfl, binds⟩ := waiting t member
  exact ⟨op, rfl, Nat.le_trans le binds⟩

theorem reaches_not : Reaches Operator.not.precedence 4 := by
  intro op notNot binds
  cases op <;> simp_all [Operator.precedence]

theorem popWhileBinding_waiting {q : Nat} :
    ∀ {pend : List Token}, Waiting q pend → ∀ (stack out : List Token),
      popWhileBinding q (pend ++ stack) out = popWhileBinding q stack (pend.reverse ++ out)
  | [], _, _, _ => rfl
  | t :: pend, waiting, stack, out => by
      obtain ⟨op, rfl, binds⟩ := waiting t (List.mem_cons_self ..)
      have rest : Waiting q pend := fun u member => waiting u (List.mem_cons_of_mem _ member)
      have stays :
          ¬ ((Token.operator op).isOpenParen || decide ((Token.operator op).precedence < q)) = true := by
        simp [Token.isOpenParen, Token.precedence, Nat.not_lt.mpr binds]
      rw [List.cons_append, popWhileBinding, if_neg stays, popWhileBinding_waiting rest]
      simp

theorem popWhileBinding_clear {q q' : Nat} (le : q' ≤ q) :
    ∀ {stack : List Token}, Clear q' stack → ∀ out, popWhileBinding q stack out = (stack, out)
  | [], _, _ => rfl
  | .openParen :: _, _, _ => by simp [popWhileBinding, Token.isOpenParen]
  | .operator op :: _, ⟨lt, _⟩, _ => by
      have stops : op.precedence < q := Nat.lt_of_lt_of_le lt le
      simp [popWhileBinding, Token.precedence, stops]

theorem popToOpen_waiting {p : Nat} :
    ∀ {pend : List Token}, Waiting p pend → ∀ (stack out : List Token),
      popToOpen (pend ++ .openParen :: stack) out = some (stack, pend.reverse ++ out)
  | [], _, _, _ => rfl
  | t :: pend, waiting, stack, out => by
      obtain ⟨op, rfl, _⟩ := waiting t (List.mem_cons_self ..)
      have rest : Waiting p pend := fun u member => waiting u (List.mem_cons_of_mem _ member)
      simp [popToOpen, popToOpen_waiting rest]

theorem drain_waiting {src : String} {p : Nat} :
    ∀ {pend : List Token}, Waiting p pend → ∀ out : List Token,
      drain src pend out = .ok (pend.reverse ++ out).reverse
  | [], _, _ => rfl
  | t :: pend, waiting, out => by
      obtain ⟨op, rfl, _⟩ := waiting t (List.mem_cons_self ..)
      have rest : Waiting p pend := fun u member => waiting u (List.mem_cons_of_mem _ member)
      simp [drain, drain_waiting rest]

theorem step_literal (src : String) (stack out : List Token) (v : Value) :
    step src (stack, out) (.literal v) = .ok (stack, .literal v :: out) := rfl

theorem step_identifier (src : String) (stack out : List Token) (name : String) :
    step src (stack, out) (.identifier name) = .ok (stack, .identifier name :: out) := rfl

theorem step_openParen (src : String) (stack out : List Token) :
    step src (stack, out) .openParen = .ok (.openParen :: stack, out) := rfl

theorem step_builtin (src : String) (stack out : List Token) (f : Builtin) :
    step src (stack, out) (.builtin f) = .ok (.builtin f :: stack, out) := rfl

theorem step_not (src : String) (stack out : List Token) :
    step src (stack, out) (.operator .not) = .ok (.operator .not :: stack, out) := rfl

theorem step_binary (src : String) (stack out : List Token) {op : Operator} (notNot : op ≠ .not) :
    step src (stack, out) (.operator op) =
      .ok (.operator op :: (popWhileBinding op.precedence stack out).1,
        (popWhileBinding op.precedence stack out).2) := by
  cases op <;> first | exact absurd rfl notNot | rfl

theorem step_closeParen {p q : Nat} {src : String} {pend stack : List Token}
    (waiting : Waiting p pend) (clear : Clear q stack) (out : List Token) :
    step src (pend ++ .openParen :: stack, out) .closeParen = .ok (stack, pend.reverse ++ out) := by
  simp only [step, popToOpen_waiting waiting]
  match stack, clear with
  | [], _ => rfl
  | .openParen :: _, _ => rfl
  | .operator _ :: _, _ => rfl

theorem step_closeCall {p : Nat} {src : String} {pend stack : List Token} (f : Builtin)
    (waiting : Waiting p pend) (out : List Token) :
    step src (pend ++ .openParen :: .builtin f :: stack, out) .closeParen =
      .ok (stack, .builtin f :: pend.reverse ++ out) := by
  simp [step, popToOpen_waiting waiting, Token.isBuiltin]

theorem foldlM_step_written (src : String) {p : Nat} {t : ExprTree} {ts : List Token}
    (written : t.Written p ts) :
    ∀ (q : Nat) (stack out : List Token), Clear q stack → Reaches p q →
      ∃ pend out', ts.foldlM (step src) (stack, out) = .ok (pend ++ stack, out') ∧
        pend.reverse ++ out' = t.postOrder.reverse ++ out ∧ Waiting p pend := by
  induction written with
  | literal p v =>
      intro q stack out _ _
      exact ⟨[], .literal v :: out, rfl, rfl, fun _ member => absurd member List.not_mem_nil⟩
  | identifier p name =>
      intro q stack out _ _
      exact ⟨[], .identifier name :: out, rfl, rfl, fun _ member => absurd member List.not_mem_nil⟩
  | parens p _ ih =>
      intro q stack out clear _
      obtain ⟨pend, out', run, post, waiting⟩ :=
        ih 0 (.openParen :: stack) out trivial (fun _ _ _ => Nat.zero_le _)
      refine ⟨[], pend.reverse ++ out', ?_, by simpa using post, fun _ m => absurd m List.not_mem_nil⟩
      simp only [List.cons_append, List.foldlM_cons, step_openParen, List.foldlM_append, run,
        List.foldlM_nil, ok_bind, bind_pure]
      exact step_closeParen waiting clear out'
  | @binary p op l r ls rs notNot binds _ _ ihl ihr =>
      intro q stack out clear reaches
      have below : q ≤ op.precedence := reaches op notNot binds
      obtain ⟨pendL, outL, runL, postL, waitingL⟩ :=
        ihl q stack out clear fun o notNot' le => reaches o notNot' (Nat.le_trans binds le)
      have clearR : Clear (op.precedence + 1) (.operator op :: stack) :=
        ⟨Nat.lt_succ_self _, clear.mono (Nat.le_succ_of_le below)⟩
      obtain ⟨pendR, outR, runR, postR, waitingR⟩ :=
        ihr (op.precedence + 1) (.operator op :: stack) (pendL.reverse ++ outL) clearR
          fun _ _ le => le
      refine ⟨pendR ++ [.operator op], outR, ?_, ?_, ?_⟩
      · have pops : step src (pendL ++ stack, outL) (.operator op) =
            .ok (.operator op :: stack, pendL.reverse ++ outL) := by
          rw [step_binary src _ _ notNot, popWhileBinding_waiting waitingL,
            popWhileBinding_clear below clear]
        simp only [List.foldlM_append, runL, List.foldlM_cons, pops, runR, ok_bind,
          List.append_assoc, List.singleton_append]
      · simp only [List.reverse_append, List.reverse_cons, List.reverse_nil, List.nil_append,
          List.cons_append, List.append_assoc, postR, postL, ExprTree.postOrder]
      · exact (waitingR.mono (Nat.le_succ_of_le binds)).append
          fun _ member => ⟨op, List.mem_singleton.mp member, binds⟩
  | @negation p u us binds _ ih =>
      intro q stack out clear reaches
      -- `NOT` waits without moving anything; its operand cannot move it
      have below : q ≤ 4 := reaches .eq (by decide) (Nat.le_trans binds (by decide))
      obtain ⟨pend, out', run, post, waiting⟩ :=
        ih 4 (.operator .not :: stack) out ⟨by decide, clear.mono below⟩ reaches_not
      refine ⟨pend ++ [.operator .not], out', ?_, ?_, ?_⟩
      · simp only [List.foldlM_cons, step_not, ok_bind, run, List.append_assoc,
          List.singleton_append]
      · simp [post, ExprTree.postOrder]
      · exact waiting.mono binds |>.append fun _ member => ⟨.not, List.mem_singleton.mp member, binds⟩
  | isNull p _ ih =>
      intro q stack out _ _
      obtain ⟨pend, out', run, post, waiting⟩ :=
        ih 0 (.openParen :: .builtin .isNull :: stack) out trivial (fun _ _ _ => Nat.zero_le _)
      refine ⟨[], .builtin .isNull :: pend.reverse ++ out', ?_, ?_, fun _ m => absurd m List.not_mem_nil⟩
      · simp only [List.cons_append, List.foldlM_cons, step_builtin, step_openParen,
          List.foldlM_append, run, List.foldlM_nil, ok_bind, bind_pure]
        exact step_closeCall .isNull waiting out'
      · simp [post, ExprTree.postOrder]

end Postfix

theorem toPostfix_written (src : String) {t : ExprTree} {ts : List Token} (written : t.Written 0 ts) :
    toPostfix src ts = .ok t.postOrder := by
  obtain ⟨pend, out, run, post, waiting⟩ :=
    Postfix.foldlM_step_written src written 0 [] [] trivial (fun _ _ _ => Nat.zero_le _)
  simp only [toPostfix, List.append_nil] at run ⊢
  rw [run]
  show Postfix.drain src pend out = _
  rw [Postfix.drain_waiting waiting, post]
  simp

/-! ## The program's tokens come from the input -/

namespace Postfix

theorem popWhileBinding_mem (prec : Nat) :
    ∀ (stack out : List Token), (∀ u ∈ (popWhileBinding prec stack out).1, u ∈ stack) ∧
      ∀ u ∈ (popWhileBinding prec stack out).2, u ∈ out ∨ u ∈ stack := by
  intro stack
  induction stack with
  | nil => intro out; simp [popWhileBinding]
  | cons top rest ih =>
      intro out
      unfold popWhileBinding
      split
      · exact ⟨fun u member => member, fun u member => .inl member⟩
      · obtain ⟨kept, moved⟩ := ih (top :: out)
        refine ⟨fun u member => List.mem_cons_of_mem top (kept u member), fun u member => ?_⟩
        rcases moved u member with inOut | inRest
        · rcases List.mem_cons.mp inOut with rfl | inOut
          · exact .inr (List.mem_cons_self ..)
          · exact .inl inOut
        · exact .inr (List.mem_cons_of_mem top inRest)

theorem popToOpen_mem {stack out stack' out' : List Token}
    (popped : popToOpen stack out = some (stack', out')) :
    (∀ u ∈ stack', u ∈ stack) ∧ ∀ u ∈ out', u ∈ out ∨ u ∈ stack := by
  fun_induction popToOpen stack out with
  | case1 => cases popped
  | case2 rest out =>
      cases popped
      exact ⟨fun u member => List.mem_cons_of_mem _ member, fun u member => .inl member⟩
  | case3 top rest out _ ih =>
      obtain ⟨kept, moved⟩ := ih popped
      refine ⟨fun u member => List.mem_cons_of_mem top (kept u member), fun u member => ?_⟩
      rcases moved u member with inOut | inRest
      · rcases List.mem_cons.mp inOut with rfl | inOut
        · exact .inr (List.mem_cons_self ..)
        · exact .inl inOut
      · exact .inr (List.mem_cons_of_mem top inRest)

theorem drain_mem {src : String} {stack out program : List Token}
    (drained : drain src stack out = .ok program) : ∀ u ∈ program, u ∈ out ∨ u ∈ stack := by
  fun_induction drain src stack out with
  | case1 out =>
      cases drained
      exact fun u member => .inl (List.mem_reverse.mp member)
  | case2 => cases drained
  | case3 top rest out _ ih =>
      intro u member
      rcases ih drained u member with inOut | inRest
      · rcases List.mem_cons.mp inOut with rfl | inOut
        · exact .inr (List.mem_cons_self ..)
        · exact .inl inOut
      · exact .inr (List.mem_cons_of_mem top inRest)

theorem step_mem {src : String} {stack out stack' out' : List Token} {t : Token}
    (stepped : step src (stack, out) t = .ok (stack', out')) :
    (∀ u ∈ stack', u ∈ stack ∨ u = t) ∧ ∀ u ∈ out', u ∈ out ∨ u ∈ stack ∨ u = t := by
  cases t with
  | literal v => rw [step_literal] at stepped; cases stepped; grind
  | identifier name => rw [step_identifier] at stepped; cases stepped; grind
  | builtin f => rw [step_builtin] at stepped; cases stepped; grind
  | openParen => rw [step_openParen] at stepped; cases stepped; grind
  | operator op =>
      by_cases notNot : op = .not
      · subst notNot
        rw [step_not] at stepped; cases stepped; grind
      · obtain ⟨kept, moved⟩ := popWhileBinding_mem op.precedence stack out
        rw [step_binary src _ _ notNot] at stepped; cases stepped; grind
  | closeParen =>
      cases popped : popToOpen stack out with
      | none => simp [step, popped] at stepped
      | some after =>
          obtain ⟨kept, moved⟩ := popToOpen_mem popped
          obtain ⟨stack₁, out₁⟩ := after
          cases stack₁ with
          | nil => simp only [step, popped] at stepped; cases stepped; grind
          | cons f rest =>
              simp only [step, popped] at stepped
              split at stepped <;> cases stepped <;> grind

theorem foldlM_step_mem (src : String) :
    ∀ (ts stack out stack' out' : List Token), ts.foldlM (step src) (stack, out) = .ok (stack', out') →
      ∀ u, u ∈ stack' ∨ u ∈ out' → u ∈ stack ∨ u ∈ out ∨ u ∈ ts := by
  intro ts
  induction ts with
  | nil =>
      intro stack out stack' out' run u member
      cases run
      rcases member with inStack | inOut
      · exact .inl inStack
      · exact .inr (.inl inOut)
  | cons t rest ih =>
      intro stack out stack' out' run u member
      rw [List.foldlM_cons] at run
      obtain ⟨⟨stack₁, out₁⟩, stepped, run⟩ := bind_eq_ok.mp run
      obtain ⟨kept, moved⟩ := step_mem stepped
      have inRest : u ∈ rest → u ∈ t :: rest := List.mem_cons_of_mem t
      rcases ih stack₁ out₁ stack' out' run u member with inStack | inOut | later
      · rcases kept u inStack with inStack | rfl
        · exact .inl inStack
        · exact .inr (.inr (List.mem_cons_self ..))
      · rcases moved u inOut with inOut | inStack | rfl
        · exact .inr (.inl inOut)
        · exact .inl inStack
        · exact .inr (.inr (List.mem_cons_self ..))
      · exact .inr (.inr (inRest later))

end Postfix

theorem toPostfix_mem {src : String} {ts program : List Token} (converted : toPostfix src ts = .ok program) :
    ∀ u ∈ program, u ∈ ts := by
  unfold toPostfix at converted
  obtain ⟨⟨stack, out⟩, run, drained⟩ := bind_eq_ok.mp converted
  intro u member
  rcases Postfix.drain_mem drained u member with inOut | inStack
  · rcases Postfix.foldlM_step_mem src ts [] [] stack out run u (.inr inOut) with none | none | found
    · cases none
    · cases none
    · exact found
  · rcases Postfix.foldlM_step_mem src ts [] [] stack out run u (.inl inStack) with none | none | found
    · cases none
    · cases none
    · exact found

end RuleEngine
