import RuleEngine.Engine.InPlace
import RuleEngine.Proofs.Engine.Evaluation

/-!
# A failed evaluation changes nothing

Every check of an in-place evaluation that can fail comes before its first write, but for a rule
forgetting its cached value; in a built registry a rule's value is naked, so there is nothing to
forget.
-/

set_option autoImplicit false

namespace RuleEngine

namespace IdMap
variable {α : Type}

theorem insert_insert (m : IdMap α) (k : String) (a b : α) :
    (m.insert k a).insert k b = m.insert k b := by
  simp only [insert, mk.injEq]
  induction m.entries with
  | nil => simp [insertSorted]
  | cons e rest ih =>
    obtain ⟨k', c⟩ := e
    by_cases before : k < k'
    · simp [insertSorted, before]
    · by_cases here : k = k'
      · simp [insertSorted, here]
      · simp [insertSorted, before, here, ih]

end IdMap

namespace ValueSource

theorem eq_naked_of_place {src : ValueSource} (naked : src.place = none) : ∃ old, src = .naked old := by
  cases src with
  | naked old => exact ⟨old, rfl⟩
  | bound b => cases naked

end ValueSource

namespace Registry
variable {r : Registry} {id : String}

@[simp] theorem models_putNode (r : Registry) (n : Evidence) : (r.putNode n).models = r.models := rfl

theorem putNode_putNode (r : Registry) {a b : Evidence} (same : a.id = b.id) :
    (r.putNode a).putNode b = r.putNode b := by
  simp only [putNode, same, IdMap.insert_insert]

theorem plan_fact {n : Evidence} (kind : n.kind = .fact) : r.plan n = .ok .refresh := by
  simp [plan, kind]

theorem apply_eq_report (r : Registry) (id : String) (effect : Effect) :
    r.apply id effect = report ((applyInPlace id effect).run r) := by
  cases effect with
  | refresh =>
    cases found : r.lookup id with
    | error e => simp [apply, applyInPlace, found, report]
    | ok n =>
      cases read : n.source.evaluate r.models with
      | error e => simp [apply, applyInPlace, found, read, report]
      | ok out => simp [apply, applyInPlace, found, read, report]
  | assign target v =>
    cases written : r.setValue target v with
    | error e => simp [apply, applyInPlace, written, report]
    | ok out => simp [apply, applyInPlace, written, report]
  | trigger operating => rfl
  | callback name => rfl
  | condition v =>
    cases found : r.lookup id with
    | error e => simp [apply, applyInPlace, found, report]
    | ok n =>
      cases v with
      | boolean truth =>
        cases stored : n.source.reset.set (.boolean truth) r.models with
        | error e => simp [apply, applyInPlace, found, stored, report]
        | ok out =>
          obtain ⟨src, models, changed⟩ := out
          cases changed <;> simp [apply, applyInPlace, found, stored, report, putNode_putNode] <;> rfl
      | _ => simp [apply, applyInPlace, found, report, putNode_putNode]

theorem evaluateEvidence_eq_report (r : Registry) (id : String) :
    r.evaluateEvidence id = report ((evaluateInPlace id).run r) := by
  cases found : r.lookup id with
  | error e => simp [evaluateEvidence, evaluateInPlace, found, report]
  | ok n =>
    cases switch : n.evaluatable
    · cases fact : n.isFact <;> simp [evaluateEvidence, evaluateInPlace, found, switch, fact, report] <;> rfl
    · cases planned : r.plan n with
      | error e => simp [evaluateEvidence, evaluateInPlace, found, switch, planned, report]
      | ok effect => simp [evaluateEvidence, evaluateInPlace, found, switch, planned, apply_eq_report]

theorem applyInPlace_error_state {effect : Effect} {e : EngineError} {r' : Registry}
    (naked : ∀ v n, effect = .condition v → r.evidence.get? id = some n → n.source.place = none)
    (failed : (applyInPlace id effect).run r = .error e r') : r' = r := by
  cases effect with
  | refresh =>
    cases found : r.lookup id with
    | error e' => simp [applyInPlace, found] at failed; exact failed.2.symm
    | ok n =>
      cases read : n.source.evaluate r.models <;> simp [applyInPlace, found, read] at failed
      exact failed.2.symm
  | assign target v =>
    cases written : r.setValue target v <;> simp [applyInPlace, written] at failed
    exact failed.2.symm
  | trigger operating => cases failed
  | callback name => cases failed
  | condition v =>
    cases found : r.lookup id with
    | error e' => simp [applyInPlace, found] at failed; exact failed.2.symm
    | ok n =>
      -- the rule's value is naked: forgetting its cache writes nothing and storing cannot fail
      obtain ⟨old, source⟩ := ValueSource.eq_naked_of_place (naked v n rfl (lookup_eq_ok.mp found))
      cases v with
      | boolean truth =>
        cases same : sameValue old (some (.boolean truth)) <;>
          simp [applyInPlace, found, source, ValueSource.reset, ValueSource.set, same] at failed
      | _ => simp [applyInPlace, found, source, ValueSource.reset] at failed

theorem plan_condition_naked (built : r.Built) {n : Evidence} {v : Value} (found : r.evidence.get? id = some n)
    (planned : r.plan n = .ok (.condition v)) : n.source.place = none := by
  cases bound : n.source.place with
  | none => rfl
  | some p =>
    rw [plan_fact (built.onlyFactsBound id n found (by simp [bound]))] at planned
    cases planned

theorem evaluateInPlace_error_state (built : r.Built) {e : EngineError} {r' : Registry}
    (failed : (evaluateInPlace id).run r = .error e r') : r' = r := by
  cases found : r.lookup id with
  | error e' => simp [evaluateInPlace, found] at failed; exact failed.2.symm
  | ok n =>
    cases switch : n.evaluatable
    · cases fact : n.isFact <;> simp [evaluateInPlace, found, switch, fact] at failed
      exact failed.2.symm
    · cases planned : r.plan n with
      | error e' => simp [evaluateInPlace, found, switch, planned] at failed; exact failed.2.symm
      | ok effect =>
        simp [evaluateInPlace, found, switch, planned] at failed
        refine applyInPlace_error_state (fun v n' condition found' => ?_) failed
        have same : n' = n := Option.some.inj (found'.symm.trans (lookup_eq_ok.mp found))
        subst same condition
        exact plan_condition_naked built found' planned

/-- In a built registry an evaluation fails exactly when the in-place evaluation fails with the
same error and leaves the registry as it was. -/
theorem failed_evaluation_changes_nothing (built : r.Built) {e : EngineError} :
    r.evaluateEvidence id = .error e ↔ (evaluateInPlace id).run r = .error e r := by
  rw [evaluateEvidence_eq_report]
  constructor
  · intro failed
    cases ran : (evaluateInPlace id).run r with
    | ok st r' => simp [ran, report] at failed
    | error e' r' =>
      simp only [ran, report, Except.error.injEq] at failed
      rw [failed, evaluateInPlace_error_state built ran]
  · intro ran
    simp [ran, report]

/-- The fact `f1` holding 1, and the action `bad` assigning it `1/0`, which has no value. -/
def invalidAssignment : Registry :=
  { evidence := ⟨[
      ("bad", { id := "bad", priority := Priority.default, source := .naked none,
                kind := .assignment "f1" ⟨"1/0", [.literal (.number 1), .operator .div, .literal (.number 0)],
                  [.literal (.number 1), .literal (.number 0), .operator .div], []⟩ }),
      ("f1", Evidence.literal "f1" Priority.default (.number 1))]⟩ }

theorem invalidAssignment_failure_changes_nothing :
    (evaluateInPlace "bad").run invalidAssignment = .error (.invalidExpression "bad" "1/0") invalidAssignment :=
  (failed_evaluation_changes_nothing (Built.of_entries (by decide +kernel) (by decide +kernel) (by decide +kernel))).mp rfl

end Registry

end RuleEngine
