import RuleEngine.Proofs.Engine.Atomicity
import RuleEngine.Proofs.Engine.Quiescence

/-!
# Evaluating a node twice in a row

A node evaluated right after it was evaluated finds what it left, so the second evaluation reports
no change, as long as its expression does not read what the first wrote and the stored value
equals itself; NaN does not.
-/

set_option autoImplicit false

namespace RuleEngine

namespace Json

theorem insertMember_insertMember (k : String) (a b : Json) :
    ∀ ms : List (String × Json), insertMember k b (insertMember k a ms) = insertMember k b ms
  | [] => by simp [insertMember]
  | (k', c) :: rest => by
    by_cases before : k < k'
    · simp [insertMember, before]
    · by_cases here : k = k'
      · simp [insertMember, here]
      · simp [insertMember, before, here, insertMember_insertMember k a b rest]

end Json

namespace Pointer

theorem replace?_replace? {v : Json} {tp : List String} :
    ∀ {root root' : Json}, replace? v root tp = some root' → replace? v root' tp = some root' := by
  induction tp with
  | nil =>
    intro root root' replaced
    cases replaced
    rfl
  | cons t rest ih =>
    intro root root' replaced
    rcases replace?_cons_eq_some replaced with
      ⟨ms, c, c', rfl, -, inner, rfl⟩ | ⟨xs, i, c, c', rfl, index, item, inner, rfl⟩
    · simp [replace?, Json.lookupMember_insertMember_self, ih inner, Json.insertMember_insertMember]
    · have bound : i < xs.length := (List.getElem?_eq_some_iff.mp item).1
      simp [replace?, index, List.getElem?_set_self bound, ih inner]

theorem replace?_append (v root : Json) (tp rest : List String) :
    replace? v root (tp ++ rest) =
      (resolve? root tp).bind fun j => (replace? v j rest).bind fun j' => replace? j' root tp := by
  induction tp generalizing root with
  | nil => simp [resolve?, replace?]
  | cons t tp ih =>
    cases root
    case object ms =>
      simp only [List.cons_append, replace?, resolve?, child?]
      cases Json.lookupMember t ms with
      | none => rfl
      | some c => simp [ih, Option.map_bind]
    case array xs =>
      simp only [List.cons_append, replace?, resolve?, child?]
      cases index? t with
      | none => rfl
      | some i =>
        dsimp only [Option.bind_some]
        cases xs[i]? with
        | none => rfl
        | some c => simp [ih, Option.map_bind]
    all_goals rfl

end Pointer

namespace Json

theorem writeJson_writeJson {root root' v : Json} {p : String} (written : root.writeJson p v = .ok root') :
    root'.writeJson p v = .ok root' := by
  rcases writeJson_eq_ok written with ⟨tp, tokens, replaced⟩ | ⟨tpar, key, ms, tokens, -, added⟩
  · -- the value replaced what stood at the pointer
    simp [writeJson, tokens, Pointer.replace?_replace? replaced]
  · -- the value was added as a member of the parent object
    have parentAfter := Pointer.resolve?_replace?_self added
    simp [writeJson, tokens, Pointer.replace?_append, parentAfter, Pointer.replace?, lookupMember_insertMember_self,
      insertMember_insertMember, Pointer.replace?_replace? added]

end Json

namespace ValueSource

theorem evaluate_evaluate {src src' : ValueSource} {models : IdMap Json} {changed : Bool}
    (read : src.evaluate models = .ok (src', changed)) (selfEqual : ∀ v, src'.get = some v → (v == v) = true) :
    src'.evaluate models = .ok (src', false) := by
  cases src with
  | naked old =>
    cases read
    rfl
  | bound b =>
    obtain ⟨doc, raw, v, located, present, coerced, rfl, -⟩ := evaluate_bound_eq_ok.mp read
    refine evaluate_of_fresh (fresh_of_evaluate read) fun doc' raw' v' located' present' coerced' => ?_
    rw [located] at located'
    cases located'
    rw [present] at present'
    cases present'
    have same : v' = v := by
      rw [@Binding.coerce_congr b { b with cached := some v } rfl rfl rfl, coerced] at coerced'
      exact (Except.ok.inj coerced').symm
    rw [same]
    exact selfEqual v rfl

theorem set_set {src src' : ValueSource} {v : Value} {models models' : IdMap Json} {changed : Bool}
    (stored : src.set v models = .ok (src', models', changed)) (selfEqual : ∀ w, src'.get = some w → (w == w) = true) :
    src'.set v models' = .ok (src', models', false) := by
  cases src with
  | naked old =>
    simp only [set] at stored
    split at stored
    · rename_i same
      cases stored
      simp [set, same]
    · cases stored
      simp [set, sameValue, selfEqual v rfl]
  | bound b =>
    obtain ⟨notNode, w, doc, doc', coerced, located, written, rfl, rfl⟩ := set_bound_eq_ok stored
    have coerced' : ({ b with cached := some w } : Binding).coerce v = .ok w := by
      rw [@Binding.coerce_congr b { b with cached := some w } rfl rfl rfl]
      exact coerced
    simp [set, notNode, coerced', IdMap.get?_insert_self, Json.writeValue, Json.writeJson_writeJson written,
      Binding.replace, sameValue, selfEqual w rfl, IdMap.insert_insert, pure, Except.pure]

end ValueSource

namespace Evidence

/-- A fact, a rule whose condition does not read the rule, or an assignment whose expression does
not read its target. -/
def Repeatable (n : Evidence) : Prop :=
  match n.kind with
  | .fact => True
  | .rule body => n.id ∉ identifiersOf body.condition.program
  | .assignment target e => target ∉ identifiersOf e.program
  | .trigger _ | .callback _ => False

instance (n : Evidence) : Decidable n.Repeatable := by
  unfold Repeatable
  split <;> infer_instance

/-- The node whose value an evaluation stores: an assignment's target, else the node itself. -/
def storedId (n : Evidence) : String :=
  match n.kind with
  | .assignment target _ => target
  | _ => n.id

/-- What a second evaluation reports: an assignment activates its target again, nothing else. -/
def repeatStep (n : Evidence) : Step :=
  match n.kind with
  | .assignment target _ => { activations := [target] }
  | _ => {}

end Evidence

namespace Registry
variable {r : Registry}

theorem evaluate_of_unread {r' : Registry} {m : Evidence} {e : Expression}
    (replaced : r'.evidence = (r.putNode m).evidence) (unread : m.id ∉ identifiersOf e.program) :
    e.evaluate r'.resolve EngineError.expression = e.evaluate r.resolve EngineError.expression :=
  runProgram_congr _ fun x member => resolve_congr <| by
    have other : x ≠ m.id := fun same => unread (mem_identifiersOf.mpr (same ▸ member))
    simp only [reading, replaced, get?_putNode_ne r m other]

theorem evaluateEvidence_assign_quiet (built : r.Built) {id target : String} {n t : Evidence} {e : Expression}
    {v : Value} (found : r.evidence.get? id = some n) (kind : n.kind = .assignment target e)
    (on : n.evaluatable = true) (value : e.evaluate r.resolve EngineError.expression = .ok v)
    (valid : v.isInvalid = false) (targetFound : r.evidence.get? target = some t) (fact : t.kind = .fact)
    (targetOn : t.evaluatable = true) (unchanged : t.source.set v r.models = .ok (t.source, r.models, false)) :
    r.evaluateEvidence id = .ok (r, { activations := [target] }) := by
  obtain ⟨tid, p, switch, src, tkind⟩ := t
  dsimp only at fact targetOn unchanged
  subst fact targetOn
  have same := putNode_found built targetFound
  simp [evaluateEvidence, lookup, found, on, plan, kind, value, valid, targetFound, Evidence.isFact, apply,
    setValue, unchanged, same]

theorem Built.naked_of_not_fact (built : r.Built) {k : String} {n : Evidence} (found : r.evidence.get? k = some n)
    (notFact : n.kind ≠ .fact) : ∃ old, n.source = .naked old := by
  cases source : n.source with
  | naked old => exact ⟨old, rfl⟩
  | bound b => exact absurd (built.onlyFactsBound k n found (by simp [source, ValueSource.place])) notFact

/-- A node evaluated right after a successful evaluation, when it does not read the node that
evaluation stored and the value stored equals itself, reports no change and leaves the registry as
it is; an assignment activates its target again. -/
theorem evaluating_again_changes_nothing (built : r.Built) {id : String} {n : Evidence}
    (found : r.evidence.get? id = some n) (repeatable : n.Repeatable) {r₁ : Registry} {st : Step}
    (first : r.evaluateEvidence id = .ok (r₁, st))
    (selfEqual : ∀ m v, r₁.evidence.get? n.storedId = some m → m.value = some v → (v == v) = true) :
    r₁.evaluateEvidence id = .ok (r₁, n.repeatStep) := by
  have evaluated := evaluateEvidence_evaluated first
  have built₁ : r₁.Built := (evaluated.sameLayout built).built built
  have named : n.id = id := built.keyed id n found
  cases evaluated with
  | @off n₀ found₀ _ kind =>
    obtain rfl : n = n₀ := Option.some.inj (found.symm.trans found₀)
    simpa [Evidence.repeatStep, kind] using first
  | @refresh n₀ src changed found₀ on kind read =>
    obtain rfl : n = n₀ := Option.some.inj (found.symm.trans found₀)
    have found₁ := get?_putNode_found built.keyed found { n with source := src } rfl
    have unchanged := ValueSource.evaluate_evaluate read fun v held =>
      selfEqual { n with source := src } v (by simpa [Evidence.storedId, kind, named] using found₁) held
    simpa [Evidence.repeatStep, kind] using evaluateEvidence_fact_quiet built₁ found₁ kind on unchanged
  | @assign n₀ t target e v src models changed found₀ on kind value valid targetFound fact targetOn stored =>
    obtain rfl : n = n₀ := Option.some.inj (found.symm.trans found₀)
    have unread : target ∉ identifiersOf e.program := by simpa [Evidence.Repeatable, kind] using repeatable
    have targetNamed : t.id = target := built.keyed target t targetFound
    have apart : id ≠ target := by
      rintro rfl
      rw [found] at targetFound
      cases targetFound
      rw [kind] at fact
      cases fact
    -- only the target changed, and the expression does not read it
    have found₁ : (r.putNode { t with source := src }).evidence.get? id = some n := by
      rw [get?_putNode_ne r _ (targetNamed ▸ apart)]
      exact found
    have targetFound₁ := get?_putNode_found built.keyed targetFound { t with source := src } rfl
    have value₁ := (@evaluate_of_unread r { r.putNode { t with source := src } with models } _ _ rfl
      (targetNamed ▸ unread)).trans value
    have unchanged := ValueSource.set_set stored fun w held =>
      selfEqual { t with source := src } w (by simpa [Evidence.storedId, kind] using targetFound₁) held
    simpa [Evidence.repeatStep, kind] using
      evaluateEvidence_assign_quiet built₁ found₁ kind on value₁ valid targetFound₁ fact targetOn unchanged
  | @trigger n₀ operating found₀ on kind =>
    obtain rfl : n = n₀ := Option.some.inj (found.symm.trans found₀)
    simp [Evidence.Repeatable, kind] at repeatable
  | @callback n₀ name found₀ on kind =>
    obtain rfl : n = n₀ := Option.some.inj (found.symm.trans found₀)
    simp [Evidence.Repeatable, kind] at repeatable
  | @decided n₀ body truth src models changed found₀ on kind value stored =>
    obtain rfl : n = n₀ := Option.some.inj (found.symm.trans found₀)
    have unread : id ∉ identifiersOf body.condition.program := by
      simpa [Evidence.Repeatable, kind, named] using repeatable
    obtain ⟨old, source⟩ := built.naked_of_not_fact found (by simp [kind])
    have held : src.get = storedCondition (.boolean truth) := by
      rw [source] at stored
      simp only [ValueSource.reset, ValueSource.set] at stored
      split at stored
      · rename_i same
        cases stored
        exact sameValue_boolean same
      · cases stored
        rfl
    have found₁ := get?_putNode_found built.keyed found { n with source := src } rfl
    have value₁ := (@evaluate_of_unread r { r.putNode { n with source := src } with models } _ _ rfl
      (named ▸ unread)).trans value
    simpa [Evidence.repeatStep, kind] using
      evaluateEvidence_rule_quiet built₁ found₁ kind on ⟨_, value₁, held⟩
  | @undecided n₀ body v found₀ on kind value notBoolean =>
    obtain rfl : n = n₀ := Option.some.inj (found.symm.trans found₀)
    have unread : id ∉ identifiersOf body.condition.program := by
      simpa [Evidence.Repeatable, kind, named] using repeatable
    obtain ⟨old, source⟩ := built.naked_of_not_fact found (by simp [kind])
    have held : n.source.reset.clear.1.get = storedCondition v := by
      rw [source]
      cases v with
      | boolean truth => exact absurd rfl (notBoolean truth)
      | _ => rfl
    have found₁ := get?_putNode_found built.keyed found { n with source := n.source.reset.clear.1 } rfl
    have value₁ := (@evaluate_of_unread r (r.putNode { n with source := n.source.reset.clear.1 }) _ _ rfl
      (named ▸ unread)).trans value
    simpa [Evidence.repeatStep, kind] using
      evaluateEvidence_rule_quiet built₁ found₁ kind on ⟨_, value₁, held⟩

/-- The action `double`, assigning `1 + 1` to the number fact `t`. -/
def doubleAction : Evidence :=
  { id := "double", priority := Priority.default, source := .naked none,
    kind := .assignment "t" ⟨"1 + 1", [.literal (.number 1), .operator .add, .literal (.number 1)],
      [.literal (.number 1), .literal (.number 1), .operator .add], []⟩ }

/-- `double` and `t`, bound to `/t` of a document holding 0 there. -/
def doubledAssignment : Registry :=
  { evidence := ⟨[("double", doubleAction), ("t", Evidence.fact "t" Priority.default (.bound ⟨"m", "/t", .number, none⟩))]⟩
    models := ⟨[("m", .object [("t", .nat 0)])]⟩ }

def doubledAssigned : Registry :=
  { evidence := ⟨[("double", doubleAction),
      ("t", Evidence.fact "t" Priority.default (.bound ⟨"m", "/t", .number, some (.number 2)⟩))]⟩
    models := ⟨[("m", .object [("t", Json.int 2)])]⟩ }

theorem doubledAssignment_repeats_quietly :
    ∃ st, doubledAssignment.evaluateEvidence "double" = .ok (doubledAssigned, st) ∧
      doubledAssigned.evaluateEvidence "double" = .ok (doubledAssigned, { activations := ["t"] }) := by
  have built : doubledAssignment.Built := Built.of_entries (by decide +kernel) (by decide +kernel) (by decide +kernel)
  have ran : (doubledAssignment.evaluateEvidence "double").map Prod.fst = .ok doubledAssigned := by decide +kernel
  have found : doubledAssignment.evidence.get? "double" = some doubleAction := by decide +kernel
  have stored : doubledAssigned.evidence.get? doubleAction.storedId =
      some (Evidence.fact "t" Priority.default (.bound ⟨"m", "/t", .number, some (.number 2)⟩)) := by decide +kernel
  cases first : doubledAssignment.evaluateEvidence "double" with
  | error e =>
    rw [first] at ran
    cases ran
  | ok out =>
    obtain ⟨r₁, st⟩ := out
    rw [first] at ran
    obtain rfl : r₁ = doubledAssigned := Except.ok.inj ran
    refine ⟨st, rfl, evaluating_again_changes_nothing built found (by decide +kernel) first ?_⟩
    intro m v found held
    rw [stored] at found
    cases found
    cases held
    decide +kernel

/-- The number fact `a` bound to `/a` of a document holding the text `NaN` there. -/
def nanFact : Registry :=
  { evidence := ⟨[("a", Evidence.fact "a" Priority.default (.bound ⟨"m", "/a", .number, none⟩))]⟩
    models := ⟨[("m", .object [("a", .string "NaN")])]⟩ }

/-- Over `nanFact` every condition but the stored value's self-equality holds, and evaluating `a`
again reports a change: NaN differs from itself. -/
theorem nanFact_changes_again :
    nanFact.Built ∧
      nanFact.evidence.get? "a" = some (Evidence.fact "a" Priority.default (.bound ⟨"m", "/a", .number, none⟩)) ∧
      (Evidence.fact "a" Priority.default (.bound ⟨"m", "/a", .number, none⟩)).Repeatable ∧
      ((nanFact.evaluateEvidence "a" >>= fun out => out.1.evaluateEvidence "a").map (·.2.changed)) = .ok ["a"] :=
  ⟨Built.of_entries (by decide +kernel) (by decide +kernel) (by decide +kernel), by decide +kernel, trivial,
    by decide +kernel⟩

end Registry

end RuleEngine
