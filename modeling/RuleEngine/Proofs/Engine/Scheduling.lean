import Mathlib.Data.Multiset.AddSub
import RuleEngine.Proofs.Engine.Evaluation

/-! # What a step schedules

`Scheduler.Adds s s' P` says that `s'` is `s` with nodes switched on and made pending, each
satisfying `P`; after a step every newly pending id is a peer of a changed fact, an activated id or
a dependent of the evaluated node. -/
set_option autoImplicit false
namespace RuleEngine

namespace Worklist

theorem pending_push (w : Worklist) (id : String) (rank : Int) :
    ((w.push id rank).1.pending : Multiset String) = w.pending + if w.contains id then 0 else {id} := by
  cases present : w.contains id
  · have heap := (push_of_not_contains present rank).2.1
    simp only [Bool.false_eq_true, if_false]
    rw [Multiset.coe_eq_coe.mpr (pending_perm _), Multiset.coe_eq_coe.mpr (pending_perm w), heap,
      List.map_cons, ← Multiset.cons_coe, ← Multiset.singleton_add, Multiset.add_comm]
  · simp [push_of_contains present]

theorem pending_pop {w w' : Worklist} {id : String} (popped : w.pop = (some id, w')) :
    (w.pending : Multiset String) = w'.pending + {id} := by
  rw [pending_of_pop_some popped, ← Multiset.cons_coe, ← Multiset.singleton_add, Multiset.add_comm]

end Worklist

namespace Registry

/-- The same registry with some nodes switched on. -/
structure Switched (r r' : Registry) : Prop where
  layout : r.SameLayout r'
  models : r'.models = r.models
  nodes : ∀ k n, r.evidence.get? k = some n →
    r'.evidence.get? k = some n ∨ r'.evidence.get? k = some { n with evaluatable := true }

section Switched
variable {r r' r'' : Registry}

theorem Switched.refl (r : Registry) : r.Switched r :=
  ⟨SameLayout.refl r, rfl, fun _ _ found => .inl found⟩

theorem Switched.trans (first : r.Switched r') (second : r'.Switched r'') : r.Switched r'' := by
  refine ⟨first.layout.trans second.layout, second.models.trans first.models, fun k n found => ?_⟩
  rcases first.nodes k n found with same | on
  · exact second.nodes k n same
  · rcases second.nodes k _ on with same' | on'
    · exact .inr same'
    · exact .inr on'

theorem Switched.get? (switched : r.Switched r') {k : String} {n : Evidence} (found : r.evidence.get? k = some n) :
    ∃ n', r'.evidence.get? k = some n' ∧ n'.source = n.source ∧ n'.kind = n.kind ∧
      (n.evaluatable = true → n'.evaluatable = true) := by
  rcases switched.nodes k n found with same | on
  · exact ⟨n, same, rfl, rfl, id⟩
  · exact ⟨_, on, rfl, rfl, fun _ => rfl⟩

theorem Switched.back (switched : r.Switched r') {k : String} {n' : Evidence}
    (found' : r'.evidence.get? k = some n') :
    ∃ n, r.evidence.get? k = some n ∧ n'.source = n.source ∧ n'.kind = n.kind := by
  obtain ⟨n, found, -⟩ := switched.layout.sameShape.back found'
  rcases switched.nodes k n found with same | on
  · rw [found'] at same
    exact ⟨n, found, by rw [Option.some.inj same], by rw [Option.some.inj same]⟩
  · rw [found'] at on
    exact ⟨n, found, by rw [Option.some.inj on], by rw [Option.some.inj on]⟩

theorem switched_putNode (built : r.Built) {k : String} {n : Evidence} (found : r.evidence.get? k = some n) :
    r.Switched (r.putNode { n with evaluatable := true }) := by
  have named : n.id = k := built.keyed k n found
  refine ⟨sameLayout_putNode built found rfl, rfl, fun k' n' found' => ?_⟩
  by_cases here : k' = k
  · subst here
    rw [found] at found'
    cases found'
    refine .inr ?_
    rw [← named]
    exact get?_putNode_self _ _
  · exact .inl ((get?_putNode_ne _ _ (by rw [named]; exact here)).trans found')

end Switched

/-- The other facts bound to the model of a changed fact, as a step schedules them. -/
def peersOf (r : Registry) (c : String) : List String :=
  match r.evidence.get? c with
  | some n =>
    match n.modelId? with
    | some m => if n.isFact then (r.factsBoundTo m).filter (· != c) else []
    | none => []
  | none => []

theorem SameLayout.peersOf {r r' : Registry} (same : r.SameLayout r') (c : String) :
    r'.peersOf c = r.peersOf c := by
  unfold Registry.peersOf
  cases found' : r'.evidence.get? c with
  | none =>
      cases found : r.evidence.get? c with
      | none => rfl
      | some n =>
          have shapes := same.sameShape.2 c
          rw [found, found'] at shapes
          cases shapes
  | some n' =>
      obtain ⟨n, found, shapes⟩ := same.sameShape.back found'
      have kinds : n.kind = n'.kind := congrArg (fun s => s.2.1) shapes
      have models : n.modelId? = n'.modelId? :=
        ValueSource.modelId?_eq_of_place (congrArg (fun s => s.2.2) shapes)
      have facts : n.isFact = n'.isFact := by rw [Evidence.isFact_eq, Evidence.isFact_eq, kinds]
      simp only [found, ← models, ← facts, same.factsBoundTo]

end Registry

namespace Scheduler

/-- `s'` is `s` with nodes switched on and made pending, each newly pending id satisfying `P`. -/
structure Adds (s s' : Scheduler) (P : String → Prop) : Prop where
  switched : s.registry.Switched s'.registry
  added : ∃ t : Multiset String, (s'.worklist.pending : Multiset String) = s.worklist.pending + t ∧
    ∀ y ∈ t, P y ∧ ∃ n, s'.registry.evidence.get? y = some n ∧ n.evaluatable = true

section Adds
variable {s s' s'' : Scheduler} {P Q : String → Prop}

theorem Adds.of_eq (registry : s'.registry = s.registry) (worklist : s'.worklist = s.worklist) : s.Adds s' P :=
  ⟨registry ▸ Registry.Switched.refl _, ⟨0, by rw [worklist, Multiset.add_zero], by simp⟩⟩

theorem Adds.trans (first : s.Adds s' P) (second : s'.Adds s'' Q) : s.Adds s'' fun y => P y ∨ Q y := by
  obtain ⟨t₁, grown₁, added₁⟩ := first.added
  obtain ⟨t₂, grown₂, added₂⟩ := second.added
  refine ⟨first.switched.trans second.switched, t₁ + t₂, by rw [grown₂, grown₁, Multiset.add_assoc],
    fun y member => ?_⟩
  rcases Multiset.mem_add.mp member with early | late
  · -- added first, and still switched on
    obtain ⟨holds, n, found, on⟩ := added₁ y early
    obtain ⟨n', found', -, -, stays⟩ := second.switched.get? found
    exact ⟨.inl holds, n', found', stays on⟩
  · obtain ⟨holds, rest⟩ := added₂ y late
    exact ⟨.inr holds, rest⟩

theorem Adds.mono (adds : s.Adds s' P) (weaker : ∀ y, P y → Q y) : s.Adds s' Q := by
  obtain ⟨t, grown, added⟩ := adds.added
  exact ⟨adds.switched, t, grown, fun y member => ⟨weaker y (added y member).1, (added y member).2⟩⟩

theorem Adds.congr {s₀ s₀' : Scheduler} (adds : s.Adds s' P) (registry : s₀.registry = s.registry)
    (worklist : s₀.worklist = s.worklist) (registry' : s₀'.registry = s'.registry)
    (worklist' : s₀'.worklist = s'.worklist) : s₀.Adds s₀' P := by
  obtain ⟨switched, t, grown, added⟩ := adds
  refine ⟨registry ▸ registry' ▸ switched, t, by rw [worklist, worklist', grown], fun y member => ?_⟩
  rw [registry']
  exact added y member

theorem Adds.mem_pending (adds : s.Adds s' P) {y : String} (member : y ∈ s'.worklist.pending) :
    y ∈ s.worklist.pending ∨ P y ∧ ∃ n, s'.registry.evidence.get? y = some n ∧ n.evaluatable = true := by
  obtain ⟨t, grown, added⟩ := adds.added
  rcases Multiset.mem_add.mp (grown ▸ Multiset.mem_coe.mpr member) with before | scheduled
  · exact .inl (Multiset.mem_coe.mp before)
  · exact .inr (added y scheduled)

end Adds

section Scheduling
variable {s s' : Scheduler}

theorem enqueue_adds (built : s.registry.Built) {id : String} {added : Bool}
    (queued : s.enqueue id = .ok (s', added)) : s.Adds s' (· = id) := by
  obtain ⟨n, found, registry, worklist⟩ := enqueue_ok queued
  have named : n.id = id := built.keyed id n found
  refine ⟨registry ▸ Registry.switched_putNode built found,
    if s.worklist.contains id then 0 else {id}, by rw [worklist, Worklist.pending_push], fun y member => ?_⟩
  have here : y = id := by
    split at member
    · cases member
    · exact Multiset.mem_singleton.mp member
  refine ⟨here, { n with evaluatable := true }, ?_, rfl⟩
  rw [registry, here, ← named]
  exact Registry.get?_putNode_self _ _

theorem enqueueAll_adds {ids : List String} (built : s.registry.Built) (queued : s.enqueueAll ids = .ok s') :
    s.Adds s' (· ∈ ids) := by
  induction ids generalizing s with
  | nil =>
      cases queued
      exact Adds.of_eq rfl rfl
  | cons id rest ih =>
      simp only [enqueueAll] at queued
      split at queued
      · rename_i s₁ _ first
        have adds₁ := enqueue_adds built first
        have adds₂ := ih (adds₁.switched.layout.built built) queued
        exact (adds₁.trans adds₂).mono fun y holds => by
          rcases holds with rfl | later
          · exact List.mem_cons_self ..
          · exact List.mem_cons_of_mem _ later
      · cases queued

theorem afterChanges_adds {changed : List String} (built : s.registry.Built)
    (handled : s.afterChanges changed = .ok s') :
    s.Adds s' fun y => ∃ c ∈ changed, y ∈ s.registry.peersOf c := by
  induction changed generalizing s with
  | nil =>
      cases handled
      exact Adds.of_eq rfl rfl
  | cons c rest ih =>
      simp only [afterChanges] at handled
      split at handled
      · cases handled
      · rename_i n looked
        split at handled
        · rename_i s₁ peers
          have scheduled : (match n.modelId? with
              | some m => if n.isFact then (s.registry.factsBoundTo m).filter (· != c) else []
              | none => []) = s.registry.peersOf c := by
            simp only [Registry.peersOf, Registry.lookup_eq_ok.mp looked]
          have adds₁ : s.Adds s₁ (· ∈ s.registry.peersOf c) :=
            scheduled ▸ (enqueueAll_adds (by exact built) peers).congr rfl rfl rfl rfl
          have adds₂ := ih (adds₁.switched.layout.built built) handled
          refine (adds₁.trans adds₂).mono fun y holds => ?_
          rcases holds with here | ⟨c', later, peer⟩
          · exact ⟨c, List.mem_cons_self .., here⟩
          · rw [adds₁.switched.layout.peersOf] at peer
            exact ⟨c', List.mem_cons_of_mem _ later, peer⟩
        · cases handled

theorem afterActivations_adds {source : String} {activations : List String} (built : s.registry.Built)
    (handled : s.afterActivations source activations = .ok s') : s.Adds s' (· ∈ activations) := by
  induction activations generalizing s with
  | nil =>
      cases handled
      exact Adds.of_eq rfl rfl
  | cons t rest ih =>
      simp only [afterActivations] at handled
      split at handled
      · rename_i s₁ _ first
        have adds₁ : s.Adds s₁ (· = t) := (enqueue_adds (by exact built) first).congr rfl rfl rfl rfl
        have adds₂ := ih (adds₁.switched.layout.built built) handled
        exact (adds₁.trans adds₂).mono fun y holds => by
          rcases holds with rfl | later
          · exact List.mem_cons_self ..
          · exact List.mem_cons_of_mem _ later
      · cases handled

theorem step_adds (built : s.registry.Built) {id : String} (stepped : s.step id = .ok s') :
    ∃ outcome, s.registry.Evaluated id outcome ∧
      ({ s with registry := outcome.1 } : Scheduler).Adds s' fun y =>
        (∃ c ∈ outcome.2.changed, y ∈ s.registry.peersOf c) ∨ y ∈ outcome.2.activations ∨
          y ∈ s.registry.dependentsOf id := by
  unfold step at stepped
  split at stepped
  · cases stepped
  · rename_i r st evaluated
    have evaluated' := Registry.evaluateEvidence_evaluated evaluated
    have layout₁ := evaluated'.sameLayout built
    have built₁ := layout₁.built built
    obtain ⟨s₂, changes, stepped⟩ := bind_eq_ok.mp stepped
    obtain ⟨s₃, activations, stepped⟩ := bind_eq_ok.mp stepped
    have adds₂ : ({ s with registry := r } : Scheduler).Adds s₂ fun y => ∃ c ∈ st.changed, y ∈ r.peersOf c :=
      (afterChanges_adds (by exact built₁) changes).congr rfl rfl rfl rfl
    have adds₃ := afterActivations_adds (adds₂.switched.layout.built built₁) activations
    obtain ⟨sameRegistry, sameWorklist⟩ := afterCallbacks_keeps s₃ id st.callbacks
    have built₃ : s₃.registry.Built := adds₃.switched.layout.built (adds₂.switched.layout.built built₁)
    have adds₄ : s₃.Adds s' (· ∈ (s₃.afterCallbacks id st.callbacks).registry.dependentsOf id) :=
      (enqueueAll_adds (by rw [sameRegistry]; exact built₃) stepped).congr sameRegistry.symm
        sameWorklist.symm rfl rfl
    have layout₃ : s.registry.SameLayout s₃.registry :=
      layout₁.trans (adds₂.switched.layout.trans adds₃.switched.layout)
    refine ⟨(r, st), evaluated', (adds₂.trans (adds₃.trans adds₄)).mono fun y holds => ?_⟩
    rcases holds with ⟨c, member, peer⟩ | activated | dependent
    · rw [layout₁.peersOf] at peer
      exact .inl ⟨c, member, peer⟩
    · exact .inr (.inl activated)
    · rw [sameRegistry, layout₃.sameShape.dependentsOf] at dependent
      exact .inr (.inr dependent)

end Scheduling

end Scheduler

end RuleEngine
