import RuleEngine.Proofs.Engine.Freshness
import RuleEngine.Proofs.Engine.ChainableRules
import RuleEngine.Proofs.Engine.Termination

/-! # A second pass changes nothing

A pass that finishes leaves its registry at rest (`Registry.AtRest`), given paths apart and no NaN
read; evaluating a fact or a chainable rule of a registry at rest changes nothing, so a second pass
straight after the first changes nothing. -/
set_option autoImplicit false
namespace RuleEngine

namespace Registry
variable {r : Registry}

theorem putNode_found (built : r.Built) {k : String} {n : Evidence} (found : r.evidence.get? k = some n) :
    r.putNode n = r := by
  have named : n.id = k := built.keyed k n found
  have entries : (r.evidence.insert n.id n).entries = r.evidence.entries := by
    rw [IdMap.insert_of_mem built.sorted (named ▸ IdMap.mem_keys_of_get? found)]
    conv_rhs => rw [← List.map_id' r.evidence.entries]
    refine List.map_congr_left fun e member => ?_
    by_cases here : e.1 = n.id
    · -- the entry under the id holds the node found there
      have stored : r.evidence.get? e.1 = some e.2 := IdMap.get?_of_mem built.sorted member
      rw [here, named, found] at stored
      simp only [if_pos here]
      exact Prod.ext here.symm (Option.some.inj stored)
    · simp [here]
  have same : r.evidence.insert n.id n = r.evidence := congrArg IdMap.mk entries
  simp only [putNode, same]

theorem mem_seeds_iff (built : r.Built) {y : String} :
    y ∈ r.seeds ↔ ∃ n, r.evidence.get? y = some n ∧ (n.isFact = true ∨ n.isChainableRule = true) := by
  simp only [seeds, List.mem_map, List.mem_filter, Bool.or_eq_true, IdMap.mem_values_iff built.sorted]
  constructor
  · rintro ⟨n, ⟨⟨k, found⟩, seed⟩, rfl⟩
    rw [built.keyed k n found]
    exact ⟨n, found, seed⟩
  · rintro ⟨n, found, seed⟩
    exact ⟨n, ⟨⟨y, found⟩, seed⟩, built.keyed y n found⟩

theorem evaluateEvidence_fact_quiet (built : r.Built) {id : String} {n : Evidence}
    (found : r.evidence.get? id = some n) (fact : n.kind = .fact) (on : n.evaluatable = true)
    (unchanged : n.source.evaluate r.models = .ok (n.source, false)) : r.evaluateEvidence id = .ok (r, {}) := by
  obtain ⟨nid, p, switch, src, kind⟩ := n
  dsimp only at fact on unchanged
  subst fact on
  have same := putNode_found built found
  simp [evaluateEvidence, lookup, found, plan, apply, unchanged, same]

theorem evaluateEvidence_rule_quiet (built : r.Built) {id : String} {n : Evidence} {body : RuleBody}
    (found : r.evidence.get? id = some n) (kind : n.kind = .rule body) (on : n.evaluatable = true)
    (agrees : r.Agrees n body) : r.evaluateEvidence id = .ok (r, {}) := by
  obtain ⟨v, value, stored⟩ := agrees
  obtain ⟨nid, p, switch, src, kind'⟩ := n
  dsimp only at kind on stored
  subst kind on
  obtain ⟨held, rfl⟩ : ∃ held, src = .naked held := by
    cases src with
    | naked held => exact ⟨held, rfl⟩
    | bound b =>
        have fact := built.onlyFactsBound id _ found (by simp [ValueSource.place])
        cases fact
  have held_eq : held = storedCondition v := by simpa [Evidence.value, ValueSource.get] using stored
  subst held_eq
  have same := putNode_found built found
  cases v with
  | boolean truth =>
      have selfEqual : (Value.boolean truth == Value.boolean truth) = true := by cases truth <;> rfl
      simp only [storedCondition] at found same
      simp [evaluateEvidence, lookup, found, plan, value, apply, ValueSource.reset, ValueSource.set, sameValue,
        selfEqual, same, pure, Except.pure]
  | number | text | node | invalid =>
      simp only [storedCondition] at found same
      simp [evaluateEvidence, lookup, found, plan, value, apply, ValueSource.reset, ValueSource.clear, same, pure,
        Except.pure]

end Registry

namespace Scheduler
variable {s : Scheduler}

theorem enqueue_on (built : s.registry.Built) {id : String} {n : Evidence} (found : s.registry.evidence.get? id = some n)
    (on : n.evaluatable = true) :
    s.enqueue id = .ok ({ s with worklist := (s.worklist.push id n.rank).1 }, (s.worklist.push id n.rank).2) := by
  have node : { n with evaluatable := true } = n := by rw [← on]
  simp [enqueue, Registry.lookup, found, node, Registry.putNode_found built found]

theorem enqueueAll_on (built : s.registry.Built) {ids : List String}
    (on : ∀ y ∈ ids, ∃ n, s.registry.evidence.get? y = some n ∧ n.evaluatable = true) :
    ∃ w, s.enqueueAll ids = .ok { s with worklist := w } := by
  induction ids generalizing s with
  | nil => exact ⟨s.worklist, rfl⟩
  | cons id rest ih =>
      obtain ⟨n, found, switched⟩ := on id List.mem_cons_self
      obtain ⟨w, queued⟩ := ih (s := { s with worklist := (s.worklist.push id n.rank).1 }) built
        fun y member => on y (List.mem_cons_of_mem _ member)
      exact ⟨w, by simp only [enqueueAll, enqueue_on built found switched]; exact queued⟩

end Scheduler

namespace Registry
variable {r : Registry}

/-- A registry at rest: built, facts reading again what they hold, seeds switched on, chainable
rules agreeing, dependents chainable rules. -/
structure AtRest (r : Registry) : Prop where
  built : r.Built
  unchanged : ∀ k n, r.evidence.get? k = some n → n.source.evaluate r.models = .ok (n.source, false)
  on : ∀ k n, r.evidence.get? k = some n → n.isFact = true ∨ n.isChainableRule = true → n.evaluatable = true
  agrees : ∀ k n body, r.evidence.get? k = some n → n.kind = .rule body → body.chainable = true → r.Agrees n body
  dependents : ∀ x y, y ∈ r.dependentsOf x → ∃ n, r.evidence.get? y = some n ∧ n.isChainableRule = true

theorem AtRest.evaluateEvidence (rest : r.AtRest) {id : String} {n : Evidence} (found : r.evidence.get? id = some n)
    (seed : n.isFact = true ∨ n.isChainableRule = true) : r.evaluateEvidence id = .ok (r, {}) := by
  have on := rest.on id n found seed
  rcases seed with fact | chainable
  · exact evaluateEvidence_fact_quiet rest.built found (Evidence.kind_of_isFact fact) on (rest.unchanged id n found)
  · cases kind : n.kind with
    | rule body =>
        have isChainable : body.chainable = true := by simpa [Evidence.isChainableRule, kind] using chainable
        exact evaluateEvidence_rule_quiet rest.built found kind on (rest.agrees id n body found kind isChainable)
    | _ => simp [Evidence.isChainableRule, kind] at chainable

/-- `y` is a dependent of `x`: evaluating `x` schedules `y`. -/
def Feeds (r : Registry) (x y : String) : Prop := y ∈ r.dependentsOf x

end Registry

namespace Scheduler
variable {r : Registry} {s : Scheduler}

/-- A pass over a registry at rest so far: the registry as it was, nothing counted, only seeds
pending. -/
structure Quiet (r : Registry) (s : Scheduler) : Prop where
  registry : s.registry = r
  changes : s.summary.changes = 0
  activations : s.summary.activations = 0
  callbacks : s.summary.callbacks = 0
  pending : ∀ y ∈ s.worklist.pending, ∃ n, r.evidence.get? y = some n ∧ (n.isFact = true ∨ n.isChainableRule = true)

theorem Quiet.step (rest : r.AtRest) (quiet : s.Quiet r) {id : String} {w : Worklist}
    (popped : s.worklist.pop = (some id, w)) :
    ∃ s', step { s with worklist := w } id = .ok s' ∧ s'.Quiet r ∧
      ∃ t : Multiset String, (s'.worklist.pending : Multiset String) = w.pending + t ∧ ∀ y ∈ t, r.Feeds id y := by
  obtain ⟨registry, changes, activations, callbacks, pending⟩ := quiet
  subst registry
  have pendingBefore : s.worklist.pending = id :: w.pending := Worklist.pending_of_pop_some popped
  obtain ⟨n, found, seed⟩ := pending id (by rw [pendingBefore]; exact List.mem_cons_self)
  have evaluated := rest.evaluateEvidence found seed
  let s₁ : Scheduler :=
    ({ s with worklist := w, summary := { s.summary with evaluations := s.summary.evaluations + 1 } } : Scheduler).record
      (.evaluated id)
  have on : ∀ y ∈ s₁.registry.dependentsOf id, ∃ m, s₁.registry.evidence.get? y = some m ∧ m.evaluatable = true := by
    intro y member
    obtain ⟨m, foundM, chainable⟩ := rest.dependents id y member
    exact ⟨m, foundM, rest.on y m foundM (.inr chainable)⟩
  obtain ⟨w', queued⟩ := enqueueAll_on (s := s₁) rest.built on
  have stepped : step { s with worklist := w } id = .ok { s₁ with worklist := w' } := by
    simp only [step, evaluated, afterChanges, afterActivations, afterCallbacks, List.foldl, ok_bind]
    exact queued
  have adds := enqueueAll_adds (s := s₁) rest.built queued
  obtain ⟨t, grown, added⟩ := adds.added
  refine ⟨_, stepped, ⟨rfl, changes, activations, callbacks, fun y member => ?_⟩, t, grown, fun y member => (added y member).1⟩
  rcases adds.mem_pending member with waiting | ⟨scheduled, -⟩
  · exact pending y (by rw [pendingBefore]; exact List.mem_cons_of_mem _ waiting)
  · obtain ⟨m, foundM, chainable⟩ := rest.dependents id y scheduled
    exact ⟨m, foundM, .inr chainable⟩

theorem Quiet.run_finishes (rest : r.AtRest) (acyclic : ∀ x, ¬ Relation.TransGen r.Feeds x x) :
    ∀ s : Scheduler, s.Quiet r → ∃ fuel s', s.run fuel = (s', .finished) ∧ s'.Quiet r := by
  intro s
  induction s using (InvImage.wf (fun s : Scheduler => (s.worklist.pending : Multiset String))
    (WellFounded.cutExpand (InvImage.wf (r.height r.Feeds) wellFounded_lt))).induction with
  | _ s ih =>
      intro quiet
      cases popped : s.worklist.pop with
      | mk head w =>
          cases head with
          | none => exact ⟨1, s, by simp [run, popped], quiet⟩
          | some id =>
              obtain ⟨s', stepped, quiet', t, grown, fed⟩ := quiet.step rest popped
              have lower : Relation.CutExpand (fun y x => r.height r.Feeds y < r.height r.Feeds x)
                  (s'.worklist.pending : Multiset String) s.worklist.pending := by
                refine ⟨t, id, fun y member => ?_, ?_⟩
                · obtain ⟨m, foundM, -⟩ := rest.dependents id y (fed y member)
                  exact Registry.height_lt acyclic (.single (fed y member)) (IdMap.mem_keys_of_get? foundM)
                · rw [grown, Worklist.pending_pop popped, add_right_comm]
              obtain ⟨fuel, s'', ran, quiet''⟩ := ih s' lower quiet'
              exact ⟨fuel + 1, s'', by simp [run, popped, stepped, ran], quiet''⟩

end Scheduler

theorem Registry.AtRest.runPass_quiet {r : Registry} (rest : r.AtRest)
    (acyclic : ∀ x, ¬ Relation.TransGen r.Feeds x x) :
    ∃ fuel s, r.runPass fuel = (s, .finished) ∧ s.Quiet r := by
  have on : ∀ y ∈ r.seeds, ∃ n, r.evidence.get? y = some n ∧ n.evaluatable = true := fun y member => by
    obtain ⟨n, found, seed⟩ := (Registry.mem_seeds_iff rest.built).mp member
    exact ⟨n, found, rest.on y n found seed⟩
  obtain ⟨w, seeded⟩ := Scheduler.enqueueAll_on (s := { registry := r }) rest.built on
  have quiet : ({ registry := r, worklist := w } : Scheduler).Quiet r := by
    refine ⟨rfl, rfl, rfl, rfl, fun y member => ?_⟩
    rcases (Scheduler.enqueueAll_adds rest.built seeded).mem_pending member with waiting | ⟨seed, -⟩
    · simp [Worklist.pending] at waiting
    · exact (Registry.mem_seeds_iff rest.built).mp seed
  obtain ⟨fuel, s, ran, quiet'⟩ := Scheduler.Quiet.run_finishes rest acyclic _ quiet
  exact ⟨fuel, s, by simp [Registry.runPass, Scheduler.seed, seeded, ran], quiet'⟩

/-! ## What a first pass leaves -/

theorem Evidence.seed_of_kind {n n' : Evidence} (kinds : n'.kind = n.kind)
    (seed : n.isFact = true ∨ n.isChainableRule = true) : n'.isFact = true ∨ n'.isChainableRule = true := by
  simpa [Evidence.isFact_eq, Evidence.isChainableRule, kinds] using seed

namespace Registry
variable {r : Registry} {s : Scheduler}

theorem PassState.sameLayout (built : r.Built) (reached : r.PassState s) : r.SameLayout s.registry := by
  induction reached with
  | seeded seeded =>
      unfold Scheduler.seed at seeded
      exact (Scheduler.enqueueAll_adds (s := { registry := r }) built seeded).switched.layout
  | @stepped s s' w id _ popped stepped layout =>
      obtain ⟨outcome, evaluated, adds⟩ := Scheduler.step_adds (s := { s with worklist := w }) (layout.built built) stepped
      exact layout.trans ((evaluated.sameLayout (layout.built built)).trans adds.switched.layout)

theorem PassState.settled (wellFormed : r.WellFormed) (linked : r.Linked) (built : r.Built)
    (reached : r.PassState s) : s.Settled := by
  induction reached with
  | seeded seeded => exact (seed_settled wellFormed.1 seeded).1
  | stepped reached popped stepped settled =>
      have shape := (reached.sameLayout built).sameShape
      exact Scheduler.step_settled (wellFormed.of_sameShape shape) (linked.of_sameShape shape) settled popped stepped

theorem PassState.seedsOn (built : r.Built) (reached : r.PassState s) :
    ∀ k n, s.registry.evidence.get? k = some n → n.isFact = true ∨ n.isChainableRule = true →
      n.evaluatable = true := by
  induction reached with
  | seeded seeded =>
      intro k n found seed
      unfold Scheduler.seed at seeded
      have adds := Scheduler.enqueueAll_adds (s := { registry := r }) built seeded
      obtain ⟨n₀, found₀, shapes⟩ := adds.switched.layout.sameShape.back found
      have queued := (Scheduler.enqueueAll_grows (s := { registry := r }) built.keyed seeded).2 k
        ((mem_seeds_iff built).mpr ⟨n₀, found₀, Evidence.seed_of_kind (shape_kind shapes) seed⟩)
      rcases adds.mem_pending queued with waiting | ⟨-, m, foundM, on⟩
      · simp [Worklist.pending] at waiting
      · rw [found] at foundM
        cases foundM
        exact on
  | stepped reached popped stepped on =>
      intro k n' found' seed'
      have built₀ := (reached.sameLayout built).built built
      obtain ⟨outcome, evaluatedEq, scheduled⟩ := Scheduler.step_schedules stepped
      have evaluated := evaluateEvidence_evaluated evaluatedEq
      have switched := scheduled.switched ((evaluated.sameLayout built₀).built built₀)
      refine switched.evaluatable found' fun n₁' found₁' => ?_
      obtain ⟨n, found, switch, kind⟩ := evaluated.evaluatable built₀.keyed found₁'
      rw [switch]
      obtain ⟨n₁'', found₁'', -, kind₁''⟩ := switched.back found'
      have same : n₁' = n₁'' := by
        rw [found₁'] at found₁''
        exact Option.some.inj found₁''
      subst same
      exact on k n found (Evidence.seed_of_kind (kind.symm.trans kind₁''.symm) seed')

theorem PassState.cycle_pending (built : r.Built)
    (chainable : ∀ x y, y ∈ r.dependentsOf x → ∃ n, r.evidence.get? y = some n ∧ n.isChainableRule = true)
    {x : String} (cycle : Relation.TransGen r.Feeds x x) (reached : r.PassState s) :
    ∃ c, Relation.TransGen r.Feeds x c ∧ Relation.TransGen r.Feeds c x ∧ c ∈ s.worklist.pending := by
  induction reached with
  | seeded seeded =>
      obtain ⟨b, -, last⟩ := Relation.TransGen.tail'_iff.mp cycle
      obtain ⟨n, found, isChainable⟩ := chainable b x last
      unfold Scheduler.seed at seeded
      exact ⟨x, cycle, cycle, (Scheduler.enqueueAll_grows (s := { registry := r }) built.keyed seeded).2 x
        ((mem_seeds_iff built).mpr ⟨n, found, .inr isChainable⟩)⟩
  | @stepped s s' w id reached popped stepped held =>
      obtain ⟨c, along, back, pending⟩ := held
      have layout := reached.sameLayout built
      obtain ⟨r₁, st, -, grows, -, dependents⟩ :=
        Scheduler.step_spec (s := { s with worklist := w }) (layout.built built).keyed stepped
      rw [Worklist.pending_of_pop_some popped] at pending
      rcases List.mem_cons.mp pending with rfl | waiting
      · -- the popped node of the cycle schedules the next one
        obtain ⟨d, first, rest⟩ := Relation.TransGen.head'_iff.mp back
        have next := dependents d (by rw [layout.sameShape.dependentsOf]; exact first)
        refine ⟨d, along.tail first, ?_, next⟩
        rcases Relation.reflTransGen_iff_eq_or_transGen.mp rest with same | later
        · rw [← same]
          exact cycle
        · exact later
      · exact ⟨c, along, back, grows.keeps c waiting⟩

theorem feeds_acyclic_of_finished (built : r.Built)
    (chainable : ∀ x y, y ∈ r.dependentsOf x → ∃ n, r.evidence.get? y = some n ∧ n.isChainableRule = true)
    {fuel : Nat} (finished : r.runPass fuel = (s, .finished)) : ∀ x, ¬ Relation.TransGen r.Feeds x x := by
  intro x cycle
  obtain ⟨reached, empty⟩ := PassState.of_finished finished
  obtain ⟨c, -, -, pending⟩ := reached.cycle_pending built chainable cycle
  rw [empty] at pending
  cases pending

theorem atRest_of_finished (wellFormed : r.WellFormed) (linked : r.Linked) (built : r.Built) (apart : r.BoundApart)
    (chainable : ∀ x y, y ∈ r.dependentsOf x → ∃ n, r.evidence.get? y = some n ∧ n.isChainableRule = true)
    {fuel : Nat} (finished : r.runPass fuel = (s, .finished)) (noNaN : s.registry.ReadsNoNaN) : s.registry.AtRest := by
  obtain ⟨reached, empty⟩ := PassState.of_finished finished
  have layout := reached.sameLayout built
  have refreshing := reached.refreshing built apart
  have settled := reached.settled wellFormed linked built
  refine ⟨layout.built built, fun k n found => ?_, reached.seedsOn built, fun k n body found kind isChainable => ?_,
    fun x y member => ?_⟩
  · -- every node is fresh, as nothing is pending, and reads no NaN, so it reads unchanged
    have fresh := refreshing.fresh_of_empty empty k n found
    cases source : n.source with
    | naked v => rfl
    | bound b =>
        rw [source] at fresh
        exact ValueSource.evaluate_of_fresh fresh fun doc raw v => noNaN k n b doc raw v found source
  · exact settled.agrees_of_pending_eq_nil empty k n body found kind isChainable
  · rw [layout.sameShape.dependentsOf] at member
    obtain ⟨n, found, isChainable⟩ := chainable x y member
    obtain ⟨n', found', shapes⟩ := layout.forth found
    refine ⟨n', found', ?_⟩
    simpa [Evidence.isChainableRule, shape_kind shapes] using isChainable

theorem dependents_linkChainableRules (built : r.Built) (none : ∀ x, r.dependentsOf x = []) :
    ∀ x y, y ∈ r.linkChainableRules.dependentsOf x →
      ∃ n, r.linkChainableRules.evidence.get? y = some n ∧ n.isChainableRule = true := by
  intro x y member
  rw [evidence_linkChainableRules]
  unfold linkChainableRules at member
  rw [(foldl_addDependent _ r).2, none x] at member
  rcases member with absent | link
  · cases absent
  · obtain ⟨n, chosen, linkOf⟩ := List.mem_flatMap.mp link
    obtain ⟨dep, -, same⟩ := List.mem_map.mp linkOf
    obtain ⟨inValues, isChainable⟩ := List.mem_filter.mp chosen
    obtain ⟨k, found⟩ := (IdMap.mem_values_iff built.sorted).mp inValues
    have named : y = k := (Prod.mk.inj same).2.symm.trans (built.keyed k n found)
    exact ⟨n, named ▸ found, isChainable⟩

end Registry

/-- Over a built registry with facts bound to paths apart and chainable dependents, a second pass
straight after a first that finished reading no NaN finishes, counts nothing and leaves the registry
as it was. -/
theorem second_pass_changes_nothing {r : Registry} (wellFormed : r.WellFormed) (linked : r.Linked) (built : r.Built)
    (apart : r.BoundApart)
    (chainable : ∀ x y, y ∈ r.dependentsOf x → ∃ n, r.evidence.get? y = some n ∧ n.isChainableRule = true)
    {fuel : Nat} {s : Scheduler} (finished : r.runPass fuel = (s, .finished)) (noNaN : s.registry.ReadsNoNaN) :
    ∃ fuel' s', s.registry.runPass fuel' = (s', .finished) ∧ s'.registry = s.registry ∧
      s'.summary.changes = 0 ∧ s'.summary.activations = 0 ∧ s'.summary.callbacks = 0 := by
  have rest := Registry.atRest_of_finished wellFormed linked built apart chainable finished noNaN
  have acyclic := Registry.feeds_acyclic_of_finished built chainable finished
  have feeds : s.registry.Feeds = r.Feeds := by
    funext x y
    simp [Registry.Feeds, ((Registry.PassState.of_finished finished).1.sameLayout built).sameShape.dependentsOf]
  obtain ⟨fuel', s', ran, quiet⟩ := rest.runPass_quiet (feeds ▸ acyclic)
  exact ⟨fuel', s', ran, quiet.registry, quiet.changes, quiet.activations, quiet.callbacks⟩

/-- The fact `a`, read by the chainable rule `c`, whose action sets the fact `b` bound beside it;
not yet linked. -/
def chainedAssignment : Registry :=
    { evidence := ⟨[
        ("a", Evidence.fact "a" Priority.default (.bound ⟨"m", "/a", .boolean, none⟩)),
        ("b", Evidence.fact "b" Priority.default (.bound ⟨"m", "/b", .boolean, none⟩)),
        ("c", { id := "c", priority := Priority.default, source := .naked none,
                kind := .rule ⟨⟨"a", [.identifier "a"], [.identifier "a"], ["a"]⟩, [⟨true, "c-b-0"⟩], true⟩ }),
        ("c-b-0", { id := "c-b-0", priority := Priority.default, source := .naked none,
                    kind := .assignment "b" ⟨"true", [.literal (.boolean true)], [.literal (.boolean true)], []⟩ })]⟩
      models := ⟨[("m", .object [("a", .bool true), ("b", .bool false)])]⟩ }

theorem chainedAssignment_second_pass_changes_nothing :
    chainedAssignment.linkChainableRules.WellFormed ∧ chainedAssignment.linkChainableRules.Linked ∧ chainedAssignment.linkChainableRules.Built ∧ chainedAssignment.linkChainableRules.BoundApart ∧
      (∀ x y, y ∈ chainedAssignment.linkChainableRules.dependentsOf x →
        ∃ n, chainedAssignment.linkChainableRules.evidence.get? y = some n ∧ n.isChainableRule = true) ∧
      ∃ s, chainedAssignment.linkChainableRules.runPass 20 = (s, .finished) ∧ s.registry.ReadsNoNaN ∧
        ∃ fuel s', s.registry.runPass fuel = (s', .finished) ∧ s'.registry = s.registry ∧
          s'.summary.changes = 0 ∧ s'.summary.activations = 0 ∧ s'.summary.callbacks = 0 := by
  have base : chainedAssignment.Built := Registry.Built.of_entries (by decide +kernel) (by decide +kernel) (by decide +kernel)
  have wellFormed : chainedAssignment.linkChainableRules.WellFormed :=
    (Registry.wellFormed_of_entries (r := chainedAssignment) (by decide +kernel)).linkChainableRules
  have linked : chainedAssignment.linkChainableRules.Linked := Registry.linked_linkChainableRules base.keyed
  have built : chainedAssignment.linkChainableRules.Built := Registry.Built.of_entries (by decide +kernel) (by decide +kernel) (by decide +kernel)
  have apart : chainedAssignment.linkChainableRules.BoundApart := Registry.boundApart_of_check (by decide +kernel)
  have chainable := Registry.dependents_linkChainableRules base fun _ => rfl
  have ends : (chainedAssignment.linkChainableRules.runPass 20).2 = .finished := by decide +kernel
  have finished : chainedAssignment.linkChainableRules.runPass 20 = ((chainedAssignment.linkChainableRules.runPass 20).1, .finished) := Prod.ext rfl ends
  have noNaN : (chainedAssignment.linkChainableRules.runPass 20).1.registry.ReadsNoNaN := Registry.readsNoNaN_of_check (by decide +kernel)
  exact ⟨wellFormed, linked, built, apart, chainable, (chainedAssignment.linkChainableRules.runPass 20).1, finished, noNaN,
    second_pass_changes_nothing wellFormed linked built apart chainable finished noNaN⟩

/-- Over `sharedPath` every condition of `second_pass_changes_nothing` holds but paths apart, and a
second pass counts a change. -/
theorem sharedPath_second_pass_changes :
    sharedPath.WellFormed ∧ sharedPath.Linked ∧ sharedPath.Built ∧ ¬ sharedPath.BoundApart ∧
      (∀ x y, y ∉ sharedPath.dependentsOf x) ∧
      ∃ s, sharedPath.runPass 10 = (s, .finished) ∧ s.registry.ReadsNoNaN ∧
        (s.registry.runPass 10).2 = .finished ∧ (s.registry.runPass 10).1.summary.changes = 1 := by
  have built : sharedPath.Built := Registry.Built.of_entries (by decide +kernel) (by decide +kernel) (by decide +kernel)
  have wellFormed : sharedPath.WellFormed := Registry.wellFormed_of_entries (by decide +kernel)
  -- no chainable rule reads anything, so linking adds no dependent
  have unlinked : sharedPath.linkChainableRules = sharedPath := by decide +kernel
  have linked : sharedPath.Linked := unlinked ▸ Registry.linked_linkChainableRules built.keyed
  have first : (sharedPath.runPass 10).2 = .finished := by decide +kernel
  have second : ((sharedPath.runPass 10).1.registry.runPass 10).2 = .finished := by decide +kernel
  exact ⟨wellFormed, linked, built, sharedPath_not_boundApart, fun _ _ => List.not_mem_nil, _,
    Prod.ext rfl first, Registry.readsNoNaN_of_check (by decide +kernel), second, by decide +kernel⟩

end RuleEngine
