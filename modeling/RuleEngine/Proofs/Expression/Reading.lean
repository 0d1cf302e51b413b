import RuleEngine.Proofs.Expression.Conversion
import RuleEngine.Proofs.Expression.Arity
import RuleEngine.Proofs.Expression.StackMachine
import Mathlib.Data.List.Induction

/-! # Evaluation reads the identifiers in the order written

A compiled program keeps its operands in the order written, and after the arity check only an
identifier can fail, so evaluation asks the resolver for each identifier in turn, stops at the
first failure, and computes from the values read alone. -/

set_option autoImplicit false

namespace RuleEngine

namespace Token

def identifierName? : Token → Option String
  | .identifier name => some name
  | _ => none

@[simp] theorem identifierName?_eq_some {t : Token} {x : String} : t.identifierName? = some x ↔ t = .identifier x := by
  cases t <;> simp [identifierName?]

end Token

/-- Every occurrence of an identifier in the tokens, in the order written. -/
def identifierOccurrences (ts : List Token) : List String := ts.filterMap Token.identifierName?

@[simp] theorem identifierOccurrences_nil : identifierOccurrences [] = [] := rfl

@[simp] theorem identifierOccurrences_identifier (x : String) (ts : List Token) :
    identifierOccurrences (.identifier x :: ts) = x :: identifierOccurrences ts := rfl

theorem identifierOccurrences_cons {t : Token} (notName : ∀ x, t ≠ .identifier x) (ts : List Token) :
    identifierOccurrences (t :: ts) = identifierOccurrences ts := by
  cases t <;> first | rfl | exact absurd rfl (notName _)

theorem mem_identifierOccurrences {x : String} {ts : List Token} :
    x ∈ identifierOccurrences ts ↔ .identifier x ∈ ts := by
  simp [identifierOccurrences]

theorem identifierOccurrences_filter (ts : List Token) :
    identifierOccurrences (ts.filter Token.isOperand) = identifierOccurrences ts := by
  induction ts with
  | nil => rfl
  | cons t rest ih =>
    by_cases named : ∃ x, t = .identifier x
    · obtain ⟨x, rfl⟩ := named
      rw [List.filter_cons_of_pos rfl, identifierOccurrences_identifier, identifierOccurrences_identifier, ih]
    · have notName : ∀ x, t ≠ .identifier x := fun x same => named ⟨x, same⟩
      rw [identifierOccurrences_cons notName, List.filter_cons]
      split
      · rw [identifierOccurrences_cons notName, ih]
      · exact ih

theorem identifierOccurrences_append (ts ts' : List Token) :
    identifierOccurrences (ts ++ ts') = identifierOccurrences ts ++ identifierOccurrences ts' :=
  List.filterMap_append

/-! ## The identifiers a compiled expression lists -/

theorem mem_eraseDups {α : Type} [BEq α] [LawfulBEq α] {a : α} {l : List α} : a ∈ l.eraseDups ↔ a ∈ l := by
  induction l using List.reverseRecOn with
  | nil => simp
  | append_singleton l b ih =>
    rw [List.eraseDups_append]
    by_cases old : b ∈ l
    · have dropped : [b].removeAll l = [] := by simp [List.removeAll, old]
      simp only [dropped, List.eraseDups_nil, List.append_nil, ih, List.mem_append, List.mem_singleton]
      exact ⟨.inl, fun member => member.elim id fun same => same ▸ old⟩
    · have kept : [b].removeAll l = [b] := by simp [List.removeAll, old]
      simp [kept, ih, List.eraseDups_cons]

theorem identifiersOf_eq_eraseDups (ts : List Token) :
    identifiersOf ts = (identifierOccurrences ts).eraseDups := by
  -- the identifiers are collected left to right: follow the tokens from the end
  induction ts using List.reverseRecOn with
  | nil => rfl
  | append_singleton ts t ih =>
    unfold identifiersOf at ih ⊢
    rw [List.foldl_append, ih, List.foldl_cons, List.foldl_nil, identifierOccurrences_append, List.eraseDups_append]
    by_cases named : ∃ x, t = .identifier x
    · obtain ⟨x, rfl⟩ := named
      dsimp only
      split
      next known =>
        have old : x ∈ identifierOccurrences ts := mem_eraseDups.mp (List.contains_iff_mem.mp known)
        simp [List.removeAll, old]
      next fresh =>
        have new : x ∉ identifierOccurrences ts := fun old => fresh (List.contains_iff_mem.mpr (mem_eraseDups.mpr old))
        simp [List.removeAll, new, List.eraseDups_cons]
    · have notName : ∀ x, t ≠ .identifier x := fun x same => named ⟨x, same⟩
      rw [identifierOccurrences_cons notName, identifierOccurrences_nil]
      cases t with
      | identifier x => exact absurd rfl (notName x)
      | _ => simp [List.removeAll]

/-! ## Errors of any type -/

section MapError
variable {ε ε' : Type} (f : ε → ε') (resolve : String → Except ε Value) (lift : ExprError → ε)

theorem Machine.step_mapError (stack : List Value) (t : Token) :
    Machine.step (fun x => (resolve x).mapError f) (f ∘ lift) stack t =
      (Machine.step resolve lift stack t).mapError f := by
  cases t with
  | identifier x =>
    simp only [Machine.step]
    cases resolve x <;> rfl
  | operator op =>
    simp only [Machine.step]
    split <;> rcases stack with _ | ⟨a, _ | ⟨b, rest⟩⟩ <;> rfl
  | builtin g => rcases stack with _ | ⟨a, rest⟩ <;> rfl
  | _ => rfl

theorem foldlM_step_mapError (p : List Token) (stack : List Value) :
    p.foldlM (Machine.step (fun x => (resolve x).mapError f) (f ∘ lift)) stack =
      (p.foldlM (Machine.step resolve lift) stack).mapError f := by
  induction p generalizing stack with
  | nil => rfl
  | cons t rest ih =>
    simp only [List.foldlM_cons, Machine.step_mapError]
    cases Machine.step resolve lift stack t with
    | error e => rfl
    | ok stack' => exact ih stack'

theorem runProgram_mapError (p : List Token) :
    runProgram (fun x => (resolve x).mapError f) (f ∘ lift) p = (runProgram resolve lift p).mapError f := by
  simp only [runProgram, foldlM_step_mapError]
  cases p.foldlM (Machine.step resolve lift) [] with
  | error e => rfl
  | ok stack => rcases stack with _ | ⟨v, _ | ⟨w, rest⟩⟩ <;> rfl

end MapError

/-! ## Reading in order -/

section Reads
variable {ε : Type} (resolve : String → Except ε Value) (lift : ExprError → ε)

theorem Machine.step_of_takes_of_ne {t : Token} (notName : ∀ x, t ≠ .identifier x) {k : Nat}
    (takes : Postfix.takes t = some k) {stack : List Value} (enough : k ≤ stack.length) :
    ∃ stack', Machine.step resolve lift stack t = .ok stack' ∧ stack'.length = stack.length - k + 1 := by
  have same : Machine.step resolve lift stack t = Machine.step (fun _ => .ok .invalid) lift stack t :=
    Machine.step_congr lift fun x named => absurd named (notName x)
  rcases Machine.step_of_takes (fun _ => .ok .invalid) lift takes enough with found | ⟨x, err, failed, -⟩
  · rwa [same]
  · cases failed

theorem foldlM_step_eq_error_iff {err : ε} : ∀ (p : List Token) (stack : List Value) {d : Nat},
    Postfix.depthAfter stack.length p = .ok d →
      (p.foldlM (Machine.step resolve lift) stack = .error err ↔ (identifierOccurrences p).mapM resolve = .error err)
  | [], stack, d, walked => by simp [pure, Except.pure]
  | t :: rest, stack, d, walked => by
    obtain ⟨k, takes, enough, walkedRest⟩ := Postfix.depthAfter_cons_ok.mp walked
    by_cases named : ∃ x, t = .identifier x
    · -- the identifier is read first; the rest is read only if it succeeds
      obtain ⟨x, rfl⟩ := named
      obtain rfl : k = 0 := by simpa [Postfix.takes] using takes.symm
      cases resolved : resolve x with
      | error e => simp [Machine.step, resolved]
      | ok v =>
        have later := @foldlM_step_eq_error_iff err rest (v :: stack) _ (by simpa using walkedRest)
        simp only [List.foldlM_cons, identifierOccurrences_identifier, List.mapM_cons, resolved, ok_bind]
        rw [show Machine.step resolve lift stack (.identifier x) = .ok (v :: stack) by simp [Machine.step, resolved],
          ok_bind, later]
        cases (identifierOccurrences rest).mapM resolve <;> simp [pure, Except.pure]
    · -- any other token finds its operands and reads nothing
      have notName : ∀ x, t ≠ .identifier x := fun x same => named ⟨x, same⟩
      obtain ⟨stack', stepped, length⟩ := Machine.step_of_takes_of_ne resolve lift notName takes enough
      rw [← length] at walkedRest
      rw [List.foldlM_cons, stepped, ok_bind, identifierOccurrences_cons notName]
      exact foldlM_step_eq_error_iff rest stack' walkedRest

theorem resolveIn_zip_of_mapM {xs : List String} {vs : List Value} (read : xs.mapM resolve = .ok vs) :
    ∀ x ∈ xs, (resolveIn (xs.zip vs) x).mapError lift = resolve x := by
  induction xs generalizing vs with
  | nil => simp
  | cons y rest ih =>
    simp only [List.mapM_cons] at read
    obtain ⟨v, first, read⟩ := bind_eq_ok.mp read
    obtain ⟨vs', others, read⟩ := bind_eq_ok.mp read
    cases read
    intro x member
    by_cases same : y = x
    · subst same
      simp [resolveIn, first, Except.mapError]
    · have later : x ∈ rest := (List.mem_cons.mp member).resolve_left (Ne.symm same)
      rw [← ih others x later]
      simp [resolveIn, same]

end Reads

/-- The value a program computes when its identifiers, read in order, give the values `vs`. -/
def programValue (p : List Token) (vs : List Value) : Value :=
  match runProgram (resolveIn ((identifierOccurrences p).zip vs)) id p with
  | .ok v => v
  | .error _ => .invalid

theorem runProgram_reads {ε : Type} {p : List Token} (checked : checkArity p = .ok ())
    (resolve : String → Except ε Value) (lift : ExprError → ε) :
    runProgram resolve lift p = ((identifierOccurrences p).mapM resolve).map (programValue p) := by
  have leavesOne := depthAfter_of_checkArity checked
  cases read : (identifierOccurrences p).mapM resolve with
  | error err =>
    have failed := (foldlM_step_eq_error_iff resolve lift p [] leavesOne).mpr read
    simp [runProgram, failed, Except.map]
  | ok vs =>
    obtain ⟨stack, ran, one⟩ : ∃ stack, p.foldlM (Machine.step resolve lift) [] = .ok stack ∧ stack.length = 1 := by
      rcases Machine.foldlM_step_of_depthAfter_ok resolve lift p [] leavesOne with found | ⟨x, err, -, failed⟩
      · exact found
      · rw [foldlM_step_eq_error_iff resolve lift p [] leavesOne, read] at failed
        cases failed
    obtain ⟨v, rfl⟩ := List.length_eq_one_iff.mp one
    have value : runProgram resolve lift p = .ok v := by rw [runProgram, ran]; rfl
    have readings : runProgram resolve lift p =
        (runProgram (resolveIn ((identifierOccurrences p).zip vs)) id p).mapError lift := by
      rw [← runProgram_mapError lift (resolveIn _) id p]
      exact (runProgram_congr lift fun x member =>
        resolveIn_zip_of_mapM resolve lift read x (mem_identifierOccurrences.mpr member)).symm
    rw [value] at readings
    have computed : runProgram (resolveIn ((identifierOccurrences p).zip vs)) id p = .ok v := by
      cases ran' : runProgram (resolveIn ((identifierOccurrences p).zip vs)) id p <;>
        simp_all [Except.mapError]
    simp [value, programValue, computed, Except.map]

/-! ## Compiled expressions -/

theorem Expression.compile_parts {src : String} {e : Expression} (compiled : Expression.compile src = .ok e) :
    toPostfix src e.tokens = .ok e.program ∧ checkArity e.program = .ok () ∧
      e.dependencies = identifiersOf e.tokens := by
  simp only [Expression.compile, bind_eq_ok] at compiled
  obtain ⟨tokens, -, program, converted, u, checked, built⟩ := compiled
  cases u
  cases built
  exact ⟨converted, checked, rfl⟩

/-- The conversion to postfix succeeds exactly on balanced parentheses and keeps the operands in
order; so evaluating a compiled expression reads its identifiers in the order written, stops at the
first failure, and computes from the values read alone. -/
theorem toPostfix_rearranges_and_reads_in_order :
    (∀ (src : String) (ts : List Token),
      ((∃ program, toPostfix src ts = .ok program) ↔ Balanced ts) ∧
      (∀ e, toPostfix src ts = .error e → e = .unbalancedExpression src) ∧
      ∀ program, toPostfix src ts = .ok program → Postfix.Rearranges ts program) ∧
    ∀ (src : String) (e : Expression), Expression.compile src = .ok e →
      (∃ value : List Value → Value, ∀ (ε : Type) (resolve : String → Except ε Value) (lift : ExprError → ε),
        e.evaluate resolve lift = ((identifierOccurrences e.tokens).mapM resolve).map value) ∧
      e.dependencies = (identifierOccurrences e.tokens).eraseDups := by
  refine ⟨fun src ts => ⟨toPostfix_isOk_iff, fun e failed => (toPostfix_eq_error_iff.mp failed).2,
    fun program converted => toPostfix_rearranges converted⟩, ?_⟩
  intro src e compiled
  obtain ⟨converted, checked, dependencies⟩ := Expression.compile_parts compiled
  have same : identifierOccurrences e.program = identifierOccurrences e.tokens := by
    rw [← identifierOccurrences_filter e.program, (toPostfix_rearranges converted).operands,
      identifierOccurrences_filter]
  refine ⟨⟨programValue e.program, fun ε resolve lift => ?_⟩, by rw [dependencies, identifiersOf_eq_eraseDups]⟩
  rw [Expression.evaluate, runProgram_reads checked, same]

/-- `ISNULL(a) OR NOT (b AND a)`, compiled: a call, then a negated group. -/
def calledOrNegated : Expression :=
  ⟨"ISNULL(a) OR NOT (b AND a)",
    [.builtin .isNull, .openParen, .identifier "a", .closeParen, .operator .or, .operator .not, .openParen,
      .identifier "b", .operator .and, .identifier "a", .closeParen],
    [.identifier "a", .builtin .isNull, .identifier "b", .identifier "a", .operator .and, .operator .not,
      .operator .or],
    ["a", "b"]⟩

theorem calledOrNegated_reads_in_order :
    Expression.compile "ISNULL(a) OR NOT (b AND a)" = .ok calledOrNegated ∧
      (∃ value : List Value → Value, ∀ (ε : Type) (resolve : String → Except ε Value) (lift : ExprError → ε),
        calledOrNegated.evaluate resolve lift = (["a", "b", "a"].mapM resolve).map value) ∧
      calledOrNegated.dependencies = ["a", "b"] :=
  have compiled : Expression.compile "ISNULL(a) OR NOT (b AND a)" = .ok calledOrNegated := by decide +kernel
  have reads := toPostfix_rearranges_and_reads_in_order.2 _ _ compiled
  ⟨compiled, reads.1, reads.2.trans (by decide)⟩

end RuleEngine
