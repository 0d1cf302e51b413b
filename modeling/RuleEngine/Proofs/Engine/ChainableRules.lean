import Mathlib
import RuleEngine.Proofs.Engine.Frame
import RuleEngine.Proofs.Expression.StackMachine

/-! # Chainable rules agree with the end of a pass

A pass keeps the invariant `Scheduler.Settled`: every chainable rule is pending, or an id it reads
is pending, or it agrees with the registry. A pass that finishes has nothing pending, so over a
well-formed, linked registry every chainable rule agrees with the registry it leaves. -/
set_option autoImplicit false
namespace RuleEngine

theorem identifiersOf_append_singleton (ts : List Token) (t : Token) :
    identifiersOf (ts ++ [t]) = match t with
      | .identifier n => if (identifiersOf ts).contains n then identifiersOf ts else identifiersOf ts ++ [n]
      | _ => identifiersOf ts := by
  simp only [identifiersOf, List.foldl_append, List.foldl_cons, List.foldl_nil]
  cases t <;> rfl

theorem mem_identifiersOf {ts : List Token} {x : String} :
    x ∈ identifiersOf ts ↔ Token.identifier x ∈ ts := by
  -- the identifiers gathered from the front, one token at a time
  induction ts using List.reverseRecOn with
  | nil => simp [identifiersOf]
  | append_singleton ts t ih =>
      rw [identifiersOf_append_singleton, List.mem_append, List.mem_singleton, ← ih]
      cases t
      case identifier n =>
        by_cases present : (identifiersOf ts).contains n = true
        · have : n ∈ identifiersOf ts := by simpa using present
          simp only [present, if_true, Token.identifier.injEq]
          constructor
          · exact .inl
          · rintro (inIds | rfl)
            · exact inIds
            · exact this
        · simp only [present, Bool.false_eq_true, ↓reduceIte, List.mem_append, List.mem_singleton,
            Token.identifier.injEq]
      all_goals simp

namespace Evidence

/-- A chainable rule holds its value itself, and its condition reads only the ids it lists. -/
def listsReads (n : Evidence) : Bool :=
  match n.kind with
  | .rule body =>
      !body.chainable || (n.source.modelId?.isNone &&
        (identifiersOf body.condition.program).all body.condition.dependencies.contains)
  | _ => true

theorem listsReads_rule {n : Evidence} {body : RuleBody} (listed : n.listsReads = true)
    (kind : n.kind = .rule body) (chainable : body.chainable = true) :
    n.source.modelId? = none ∧
      ∀ x, Token.identifier x ∈ body.condition.program → x ∈ body.condition.dependencies := by
  simp only [listsReads, kind, chainable, Bool.not_true, Bool.false_or, Bool.and_eq_true,
    Option.isNone_iff_eq_none, List.all_eq_true, List.contains_iff_mem] at listed
  exact ⟨listed.1, fun x member => listed.2 x (mem_identifiersOf.mpr member)⟩

end Evidence

namespace Registry

/-- Each node under its own id, and each chainable rule holding its value itself and reading only
the ids it lists. -/
def WellFormed (r : Registry) : Prop :=
  r.Keyed ∧ ∀ k n, r.evidence.get? k = some n → n.listsReads = true

/-- Every chainable rule is a dependent of each id its condition reads. -/
def Linked (r : Registry) : Prop :=
  ∀ k n body, r.evidence.get? k = some n → n.kind = .rule body → body.chainable = true →
    ∀ d ∈ body.condition.dependencies, k ∈ r.dependentsOf d

/-- A rule agrees with a registry: its condition evaluates, and the rule holds the boolean it gives,
or no value. -/
def Agrees (r : Registry) (n : Evidence) (body : RuleBody) : Prop :=
  ∃ v, body.condition.evaluate r.resolve EngineError.expression = .ok v ∧ n.value = storedCondition v

section Transport
variable {r r' : Registry}

theorem shape_kind {n n' : Evidence} (shapes : n.shape = n'.shape) : n.kind = n'.kind :=
  congrArg (fun s => s.2.1) shapes

theorem WellFormed.of_sameShape (wellFormed : r.WellFormed) (same : r.SameShape r') : r'.WellFormed := by
  refine ⟨same.keyed wellFormed.1, fun k n' found' => ?_⟩
  obtain ⟨n, found, shapes⟩ := same.back found'
  have listed := wellFormed.2 k n found
  have naked : n.source.modelId? = n'.source.modelId? :=
    ValueSource.modelId?_eq_of_place (congrArg (fun s => s.2.2) shapes)
  unfold Evidence.listsReads at listed ⊢
  rw [← shape_kind shapes, ← naked]
  exact listed

theorem Linked.of_sameShape (linked : r.Linked) (same : r.SameShape r') : r'.Linked := by
  intro k n' body found' kind' chainable d dep
  obtain ⟨n, found, shapes⟩ := same.back found'
  rw [same.dependentsOf]
  exact linked k n body found (by rw [shape_kind shapes, kind']) chainable d dep

theorem evaluate_congr {body : RuleBody}
    (reads : ∀ x, Token.identifier x ∈ body.condition.program → x ∈ body.condition.dependencies)
    (same : ∀ y ∈ body.condition.dependencies, r'.reading y = r.reading y) :
    body.condition.evaluate r'.resolve EngineError.expression =
      body.condition.evaluate r.resolve EngineError.expression :=
  runProgram_congr _ fun x member => resolve_congr (same x (reads x member))

theorem Agrees.transport {k : String} {n n' : Evidence} {body : RuleBody}
    (reads : ∀ x, Token.identifier x ∈ body.condition.program → x ∈ body.condition.dependencies)
    (found : r.evidence.get? k = some n) (found' : r'.evidence.get? k = some n')
    (same : ∀ y ∈ k :: body.condition.dependencies, r'.reading y = r.reading y)
    (agrees : r.Agrees n body) : r'.Agrees n' body := by
  obtain ⟨v, value, stored⟩ := agrees
  have sameValue : n'.value = n.value := by
    have own := same k (List.mem_cons_self ..)
    simp only [reading, found, found', Option.map_some, Option.some.injEq, Prod.mk.injEq] at own
    exact own.2
  refine ⟨v, ?_, sameValue.trans stored⟩
  rw [evaluate_congr reads fun y dep => same y (List.mem_cons_of_mem k dep)]
  exact value

end Transport

theorem evaluateEvidence_rule_agrees {r r' : Registry} {st : Step} (wellFormed : r.WellFormed) {k : String}
    {n : Evidence} {body : RuleBody} (found : r.evidence.get? k = some n) (kind : n.kind = .rule body)
    (chainable : body.chainable = true) (unread : k ∉ body.condition.dependencies)
    (evaluated : r.evaluateEvidence k = .ok (r', st)) :
    ∃ src, r'.evidence.get? k = some { n with source := src } ∧ r'.Agrees { n with source := src } body := by
  have listed := Evidence.listsReads_rule (wellFormed.2 k n found) kind chainable
  obtain ⟨n₀, found₀, (⟨-, fact, -, -⟩ | ⟨-, effect, planned, applied⟩)⟩ := evaluateEvidence_ok evaluated
  · rw [found] at found₀
    cases found₀
    simp [Evidence.isFact, kind] at fact
  rw [found] at found₀
  cases found₀
  obtain ⟨v, value, rfl⟩ := plan_rule kind planned
  obtain ⟨n₁, src, found₁, place, evidence, sameDependents, stores⟩ := apply_condition applied
  rw [found] at found₁
  cases found₁
  -- only the rule's own value changed, and the condition does not read it
  obtain ⟨-, others⟩ := swapSource wellFormed.1 found place evidence sameDependents
  have foundAfter : r'.evidence.get? k = some { n with source := src } := by
    rw [evidence, ← wellFormed.1 k n found]
    exact get?_putNode_self _ _
  refine ⟨src, foundAfter, v, ?_, stores listed.1⟩
  rw [evaluate_congr listed.2 fun y dep => others y fun same => unread (same ▸ dep)]
  exact value

end Registry

namespace Scheduler

/-- Every chainable rule is pending, or reads a pending id, or agrees with the registry. -/
def Settled (s : Scheduler) : Prop :=
  ∀ k n body, s.registry.evidence.get? k = some n → n.kind = .rule body → body.chainable = true →
    k ∈ s.worklist.pending ∨ (∃ d ∈ body.condition.dependencies, d ∈ s.worklist.pending) ∨
      s.registry.Agrees n body

theorem Settled.agrees_of_pending_eq_nil {s : Scheduler} (settled : s.Settled) (empty : s.worklist.pending = []) :
    ∀ k n body, s.registry.evidence.get? k = some n → n.kind = .rule body → body.chainable = true →
      s.registry.Agrees n body := by
  intro k n body found kind chainable
  rcases settled k n body found kind chainable with pending | ⟨d, -, pending⟩ | agrees
  · rw [empty] at pending
    cases pending
  · rw [empty] at pending
    cases pending
  · exact agrees

theorem settled_of_touched {s' : Scheduler} {r : Registry} {k : String} {n n' : Evidence}
    {body : RuleBody}
    (reads : ∀ x, Token.identifier x ∈ body.condition.program → x ∈ body.condition.dependencies)
    (found : r.evidence.get? k = some n) (found' : s'.registry.evidence.get? k = some n')
    (agrees : r.Agrees n body)
    (touched : ∀ y ∈ k :: body.condition.dependencies,
      s'.registry.reading y = r.reading y ∨ y ∈ s'.worklist.pending) :
    k ∈ s'.worklist.pending ∨ (∃ d ∈ body.condition.dependencies, d ∈ s'.worklist.pending) ∨
      s'.registry.Agrees n' body := by
  by_cases allSame : ∀ y ∈ k :: body.condition.dependencies, s'.registry.reading y = r.reading y
  · exact .inr (.inr (agrees.transport reads found found' allSame))
  · push Not at allSame
    obtain ⟨y, member, differs⟩ := allSame
    have pending := (touched y member).resolve_left differs
    rcases List.mem_cons.mp member with rfl | dep
    · exact .inl pending
    · exact .inr (.inl ⟨y, dep, pending⟩)


section Pass
variable {s s' : Scheduler}

theorem step_settled (wellFormed : s.registry.WellFormed) (linked : s.registry.Linked)
    (settled : s.Settled) {id : String} {w : Worklist} (popped : s.worklist.pop = (some id, w))
    (stepped : step { s with worklist := w } id = .ok s') : s'.Settled := by
  intro k n' body found' kind' chainable
  obtain ⟨r, st, evaluated, grows, activated, dependents⟩ := step_spec (by exact wellFormed.1) stepped
  have evaluatedShape := (Registry.evaluateEvidence_spec (by exact wellFormed.1) evaluated).1
  obtain ⟨n, found, shapes⟩ := (evaluatedShape.trans grows.shape).back found'
  have kind : n.kind = .rule body := by rw [Registry.shape_kind shapes, kind']
  have reads := (Evidence.listsReads_rule (wellFormed.2 k n found) kind chainable).2
  have pendingBefore : s.worklist.pending = id :: w.pending := Worklist.pending_of_pop_some popped
  by_cases readsEvaluated : id ∈ body.condition.dependencies
  · -- the rule depends on the evaluated node, which schedules it
    exact .inl (dependents k (linked k n body found kind chainable id readsEvaluated))
  have touched : ∀ y, y ≠ id → s'.registry.reading y = s.registry.reading y ∨ y ∈ s'.worklist.pending := by
    intro y other
    by_cases activation : y ∈ st.activations
    · exact .inr (activated y activation)
    · have unchanged := (Registry.evaluateEvidence_spec (by exact wellFormed.1) evaluated).2 y other activation
      rcases grows.touched y with same | pending
      · exact .inl (same.trans unchanged)
      · exact .inr pending
  by_cases self : k = id
  · -- the rule just evaluated: it stored its condition's value
    subst self
    obtain ⟨src, foundAfter, agrees⟩ :=
      Registry.evaluateEvidence_rule_agrees wellFormed found kind chainable readsEvaluated evaluated
    exact settled_of_touched reads foundAfter found' agrees fun y _ => grows.touched y
  · rcases settled k n body found kind chainable with pending | ⟨d, dep, pending⟩ | agrees
    · rw [pendingBefore] at pending
      rcases List.mem_cons.mp pending with same | waiting
      · exact absurd same self
      · exact .inl (grows.keeps k waiting)
    · rw [pendingBefore] at pending
      rcases List.mem_cons.mp pending with rfl | waiting
      · exact absurd dep readsEvaluated
      · exact .inr (.inl ⟨d, dep, grows.keeps d waiting⟩)
    · refine settled_of_touched reads found found' agrees fun y member => ?_
      rcases List.mem_cons.mp member with rfl | dep
      · exact touched y self
      · exact touched y fun same => readsEvaluated (same ▸ dep)

theorem run_settled : ∀ (fuel : Nat) (s : Scheduler), s.registry.WellFormed → s.registry.Linked →
    s.Settled → (s.run fuel).2 = .finished →
      (s.run fuel).1.Settled ∧ (s.run fuel).1.worklist.pending = [] := by
  intro fuel
  induction fuel with
  | zero =>
      intro s _ _ settled finished
      simp only [run] at finished ⊢
      split at finished
      · rename_i empty
        simp only [empty, if_true]
        exact ⟨settled, Worklist.pending_of_isEmpty empty⟩
      · cases finished
  | succ fuel ih =>
      intro s wellFormed linked settled finished
      simp only [run] at finished ⊢
      split at finished
      · rename_i w popped
        exact ⟨settled, Worklist.pending_of_pop_none popped⟩
      · rename_i id w popped
        split at finished
        · rename_i s₁ stepped
          have shape := step_sameShape (by exact wellFormed.1) stepped
          exact ih s₁ (wellFormed.of_sameShape shape) (linked.of_sameShape shape)
            (step_settled wellFormed linked settled popped stepped) finished
        · cases finished

end Pass

end Scheduler

namespace Registry

theorem mem_seeds {r : Registry} {k : String} {n : Evidence} (keyed : r.Keyed)
    (found : r.evidence.get? k = some n) (chainable : n.isChainableRule = true) : k ∈ r.seeds := by
  have member : n ∈ r.evidence.values := IdMap.mem_values_of_get? found
  simp only [seeds, List.mem_map, List.mem_filter, Bool.or_eq_true]
  exact ⟨n, ⟨member, .inr chainable⟩, keyed k n found⟩

theorem seed_settled {r : Registry} {s : Scheduler} (keyed : r.Keyed)
    (seeded : ({ registry := r } : Scheduler).seed = .ok s) : s.Settled ∧ r.SameShape s.registry := by
  unfold Scheduler.seed at seeded
  obtain ⟨grows, queued⟩ := Scheduler.enqueueAll_grows (by exact keyed) seeded
  refine ⟨fun k n' body found' kind' chainable => .inl ?_, grows.shape⟩
  obtain ⟨n, found, shapes⟩ := grows.shape.back found'
  have isChainable : n.isChainableRule = true := by
    simp [Evidence.isChainableRule, shape_kind shapes, kind', chainable]
  exact queued k (mem_seeds keyed found isChainable)

end Registry

namespace Registry

/-! ## Linking -/

section Linking
variable {r : Registry}

theorem dependentsOf_addDependent_self (d x : String) :
    (r.addDependent d x).dependentsOf d =
      if (r.dependentsOf d).contains x then r.dependentsOf d else r.dependentsOf d ++ [x] := by
  show ((r.dependents.insert d _).get? d).getD [] = _
  rw [IdMap.get?_insert_self]
  rfl

theorem mem_dependentsOf_addDependent {d d' x y : String} :
    y ∈ (r.addDependent d x).dependentsOf d' ↔ y ∈ r.dependentsOf d' ∨ (d' = d ∧ y = x) := by
  by_cases here : d' = d
  · subst here
    rw [dependentsOf_addDependent_self]
    by_cases present : (r.dependentsOf d').contains x = true
    · rw [if_pos present]
      constructor
      · exact .inl
      · rintro (member | ⟨-, rfl⟩)
        · exact member
        · simpa using present
    · rw [if_neg present, List.mem_append, List.mem_singleton]
      simp
  · simp only [addDependent, dependentsOf, IdMap.get?_insert_ne _ _ here, here, false_and, or_false]

theorem foldl_addDependent (links : List (String × String)) (r : Registry) :
    (links.foldl (fun r (dep, rule) => r.addDependent dep rule) r).evidence = r.evidence ∧
      ∀ d y, y ∈ (links.foldl (fun r (dep, rule) => r.addDependent dep rule) r).dependentsOf d ↔
        y ∈ r.dependentsOf d ∨ (d, y) ∈ links := by
  induction links generalizing r with
  | nil => simp
  | cons link rest ih =>
      obtain ⟨dep, rule⟩ := link
      obtain ⟨evidence, dependents⟩ := ih (r.addDependent dep rule)
      refine ⟨evidence, fun d y => ?_⟩
      rw [List.foldl_cons, dependents, mem_dependentsOf_addDependent, List.mem_cons, Prod.mk.injEq]
      tauto

theorem evidence_linkChainableRules : r.linkChainableRules.evidence = r.evidence :=
  (foldl_addDependent _ r).1

theorem linked_linkChainableRules (keyed : r.Keyed) : r.linkChainableRules.Linked := by
  intro k n body found kind chainable d dep
  rw [evidence_linkChainableRules] at found
  have isChainable : n.isChainableRule = true := by simp [Evidence.isChainableRule, kind, chainable]
  have reads : d ∈ n.dependentEvidence := by
    simpa [Evidence.dependentEvidence, Evidence.expression?, kind] using dep
  unfold linkChainableRules
  rw [(foldl_addDependent _ r).2, ← keyed k n found]
  refine .inr (List.mem_flatMap.mpr ⟨n, ?_, List.mem_map_of_mem reads⟩)
  exact List.mem_filter.mpr ⟨IdMap.mem_values_of_get? found, isChainable⟩

theorem WellFormed.linkChainableRules (wellFormed : r.WellFormed) : r.linkChainableRules.WellFormed := by
  refine ⟨fun k n found => ?_, fun k n found => ?_⟩
  · rw [evidence_linkChainableRules] at found
    exact wellFormed.1 k n found
  · rw [evidence_linkChainableRules] at found
    exact wellFormed.2 k n found

theorem wellFormed_of_entries
    (entries : ∀ e ∈ r.evidence.entries, e.2.id = e.1 ∧ e.2.listsReads = true) : r.WellFormed := by
  have stored : ∀ k n, r.evidence.get? k = some n → ∃ e ∈ r.evidence.entries, e.1 = k ∧ e.2 = n := by
    intro k n found
    simp only [IdMap.get?, Option.map_eq_some_iff] at found
    obtain ⟨e, located, rfl⟩ := found
    exact ⟨e, List.mem_of_find?_eq_some located, by simpa using List.find?_some located, rfl⟩
  refine ⟨fun k n found => ?_, fun k n found => ?_⟩
  · obtain ⟨e, member, rfl, rfl⟩ := stored k n found
    exact (entries e member).1
  · obtain ⟨e, member, rfl, rfl⟩ := stored k n found
    exact (entries e member).2

end Linking

end Registry

/-- A pass that finishes, whatever its fuel, leaves every chainable rule agreeing with the
registry: its condition evaluates there, and the rule holds the boolean it gives, or no value. -/
theorem evaluate_chainableRules_agree {r : Registry} (wellFormed : r.WellFormed) (linked : r.Linked) {fuel : Nat}
    {s : Scheduler} (finished : r.runPass fuel = (s, .finished)) :
    ∀ k n body, s.registry.evidence.get? k = some n → n.kind = .rule body → body.chainable = true →
      ∃ v, body.condition.evaluate s.registry.resolve EngineError.expression = .ok v ∧
        n.value = storedCondition v := by
  unfold Registry.runPass at finished
  split at finished
  · rename_i s₀ seeded
    obtain ⟨settled, shape⟩ := Registry.seed_settled wellFormed.1 seeded
    obtain ⟨settledAfter, nothingPending⟩ := Scheduler.run_settled fuel s₀
      (wellFormed.of_sameShape shape) (linked.of_sameShape shape) settled (by rw [finished])
    rw [finished] at settledAfter nothingPending
    exact settledAfter.agrees_of_pending_eq_nil nothingPending
  · cases finished

/-- A fact `a`, a chainable rule `r` whose condition is `a`, and the callback `x` the rule fires:
once linked, a pass over them finishes, and the rule agrees with the registry it leaves. -/
theorem chainableRule_agrees_after_pass :
    let base : Registry := { evidence := ⟨[
      ("a", Evidence.literal "a" ⟨1, by decide, by decide⟩ (.boolean true)),
      ("r", { id := "r", priority := ⟨1, by decide, by decide⟩, source := .naked none,
              kind := .rule ⟨⟨"a", [.identifier "a"], [.identifier "a"], ["a"]⟩, [⟨true, "x"⟩], true⟩ }),
      ("x", Evidence.callback "x" ⟨1, by decide, by decide⟩ "cb")]⟩ }
    let r := base.linkChainableRules
    r.WellFormed ∧ r.Linked ∧ r.evaluate.2 = .finished ∧
      ∀ k n body, r.evaluate.1.registry.evidence.get? k = some n → n.kind = .rule body →
        body.chainable = true →
          ∃ v, body.condition.evaluate r.evaluate.1.registry.resolve EngineError.expression = .ok v ∧
            n.value = storedCondition v := by
  intro base r
  have wellFormedBase : base.WellFormed := Registry.wellFormed_of_entries (by decide +kernel)
  have wellFormed : r.WellFormed := wellFormedBase.linkChainableRules
  have linked : r.Linked := Registry.linked_linkChainableRules wellFormedBase.1
  have finished : r.evaluate.2 = .finished := by
    have ended : (r.evaluate.2 matches .finished) = true := by decide +kernel
    revert ended
    cases r.evaluate.2 <;> simp
  exact ⟨wellFormed, linked, finished,
    evaluate_chainableRules_agree wellFormed linked (show r.runPass passFuel = (r.evaluate.1, .finished) from
      Prod.ext rfl finished)⟩

end RuleEngine
