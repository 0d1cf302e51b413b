import RuleEngine.Engine.Pass
import RuleEngine.Proofs.Engine.PopOrder
import RuleEngine.Proofs.Expression.Tree

/-! # What a pass changes

A pass keeps the ids, the kinds, the places of the values and the dependents
(`Registry.SameShape`); scheduling only switches on nodes it makes pending (`Scheduler.Grows`),
and evaluating a node changes what is read of it and of the ids it activates, nothing else. -/
set_option autoImplicit false
namespace RuleEngine

namespace IdMap
variable {α : Type}

theorem get?_insert_ne (m : IdMap α) {id k : String} (a : α) (other : k ≠ id) :
    (m.insert id a).get? k = m.get? k := by
  have skip : (id == k) = false := by simpa using Ne.symm other
  simp only [insert, get?]
  induction m.entries with
  | nil => simp [insertSorted, skip]
  | cons e rest ih =>
      obtain ⟨key, b⟩ := e
      simp only [insertSorted]
      split
      · simp [skip]
      · split
        · rename_i same
          subst same
          simp [skip]
        · simp only [List.find?_cons]
          split <;> simp_all

theorem mem_values_of_get? {m : IdMap α} {id : String} {a : α} (found : m.get? id = some a) :
    a ∈ m.values := by
  simp only [get?, Option.map_eq_some_iff] at found
  obtain ⟨e, located, rfl⟩ := found
  exact List.mem_map_of_mem (List.mem_of_find?_eq_some located)

end IdMap

namespace ValueSource

/-- Where a value lives: nowhere for a naked value, else the model, path and kind it is bound to. -/
def place : ValueSource → Option (String × String × ValueKind)
  | .naked _ => none
  | .bound b => some (b.modelId, b.path, b.kind)

theorem modelId?_eq_of_place {src src' : ValueSource} (same : src.place = src'.place) :
    src.modelId? = src'.modelId? := by
  cases src <;> cases src' <;> simp_all [place, modelId?]

end ValueSource

namespace Evidence

def shape (n : Evidence) : String × EvidenceKind × Option (String × String × ValueKind) :=
  (n.id, n.kind, n.source.place)

end Evidence

namespace Registry

/-- What an expression reads of a node: its switch and its value. -/
def reading (r : Registry) (id : String) : Option (Bool × Option Value) :=
  (r.evidence.get? id).map fun n => (n.evaluatable, n.value)

def Keyed (r : Registry) : Prop := ∀ k n, r.evidence.get? k = some n → n.id = k

/-- The same nodes up to switches and values, and the same dependents. -/
def SameShape (r r' : Registry) : Prop :=
  r'.dependents = r.dependents ∧
    ∀ k, (r'.evidence.get? k).map Evidence.shape = (r.evidence.get? k).map Evidence.shape

section Shape
variable {r r' r'' : Registry}

theorem SameShape.refl (r : Registry) : SameShape r r := ⟨rfl, fun _ => rfl⟩

theorem SameShape.trans (first : SameShape r r') (second : SameShape r' r'') : SameShape r r'' :=
  ⟨second.1.trans first.1, fun k => (second.2 k).trans (first.2 k)⟩

theorem SameShape.dependentsOf (same : SameShape r r') (id : String) :
    r'.dependentsOf id = r.dependentsOf id := by
  simp [Registry.dependentsOf, same.1]

theorem SameShape.back (same : SameShape r r') {k : String} {n' : Evidence}
    (found : r'.evidence.get? k = some n') : ∃ n, r.evidence.get? k = some n ∧ n.shape = n'.shape := by
  have shapes := same.2 k
  rw [found] at shapes
  cases earlier : r.evidence.get? k with
  | none =>
      rw [earlier] at shapes
      simp at shapes
  | some n =>
      rw [earlier] at shapes
      exact ⟨n, rfl, (Option.some.inj shapes).symm⟩

theorem SameShape.keyed (same : SameShape r r') (keyed : Keyed r) : Keyed r' := by
  intro k n' found
  obtain ⟨n, earlier, shapes⟩ := same.back found
  rw [← keyed k n earlier]
  exact (congrArg Prod.fst shapes).symm

end Shape

theorem value_congr {r r' : Registry} {id : String} (same : r'.reading id = r.reading id) :
    r'.value id = r.value id := by
  simp only [reading] at same
  simp only [value, lookup]
  cases found' : r'.evidence.get? id <;> cases found : r.evidence.get? id <;>
    simp_all

theorem resolve_congr {r r' : Registry} {id : String} (same : r'.reading id = r.reading id) :
    r'.resolve id = r.resolve id := by
  simp only [resolve, value_congr same]

theorem lookup_eq_ok {r : Registry} {id : String} {n : Evidence} :
    r.lookup id = .ok n ↔ r.evidence.get? id = some n := by
  simp only [lookup]
  split <;> simp_all

section PutNode
variable (r : Registry) (n : Evidence)

theorem get?_putNode_self : (r.putNode n).evidence.get? n.id = some n :=
  IdMap.get?_insert_self _ _ _

theorem get?_putNode_ne {k : String} (other : k ≠ n.id) :
    (r.putNode n).evidence.get? k = r.evidence.get? k :=
  IdMap.get?_insert_ne _ _ other

theorem reading_putNode_ne {k : String} (other : k ≠ n.id) : (r.putNode n).reading k = r.reading k := by
  simp only [reading, get?_putNode_ne r n other]

theorem sameShape_putNode {old : Evidence} (found : r.evidence.get? n.id = some old)
    (shapes : n.shape = old.shape) : SameShape r (r.putNode n) := by
  refine ⟨rfl, fun k => ?_⟩
  by_cases here : k = n.id
  · subst here
    rw [get?_putNode_self, found]
    exact congrArg some shapes
  · rw [get?_putNode_ne r n here]

end PutNode

theorem swapSource {r r' : Registry} {x : String} {n : Evidence} {src : ValueSource} (keyed : r.Keyed)
    (found : r.evidence.get? x = some n) (place : src.place = n.source.place)
    (evidence : r'.evidence = (r.putNode { n with source := src }).evidence)
    (dependents : r'.dependents = r.dependents) :
    SameShape r r' ∧ ∀ y, y ≠ x → r'.reading y = r.reading y := by
  have named : n.id = x := keyed x n found
  subst named
  have shapes : SameShape r (r.putNode { n with source := src }) :=
    sameShape_putNode r _ found (by simp [Evidence.shape, place])
  refine ⟨⟨dependents, fun k => by rw [evidence]; exact shapes.2 k⟩, fun y other => ?_⟩
  simp only [reading, evidence]
  exact reading_putNode_ne r { n with source := src } other

end Registry

namespace ValueSource

theorem place_reset (src : ValueSource) : src.reset.place = src.place := by
  cases src <;> rfl

theorem place_clear (src : ValueSource) : src.clear.1.place = src.place := by
  cases src <;> rfl

theorem place_of_set {src src' : ValueSource} {v : Value} {models models' : IdMap Json} {changed : Bool}
    (written : src.set v models = .ok (src', models', changed)) : src'.place = src.place := by
  cases src with
  | naked old =>
      simp only [set] at written
      split at written <;> (cases written; rfl)
  | bound b =>
      simp only [set] at written
      split at written
      · cases written
      · -- the coerced value is written to the document, then cached
        obtain ⟨_, _, written⟩ := bind_eq_ok.mp written
        split at written
        · obtain ⟨_, _, written⟩ := bind_eq_ok.mp written
          split at written
          · obtain ⟨_, _, written⟩ := bind_eq_ok.mp written
            cases written
            rfl
          · obtain ⟨_, bad, _⟩ := bind_eq_ok.mp written
            cases bad
        · obtain ⟨_, bad, _⟩ := bind_eq_ok.mp written
          cases bad

theorem place_of_evaluate {src src' : ValueSource} {models : IdMap Json} {changed : Bool}
    (read : src.evaluate models = .ok (src', changed)) : src'.place = src.place := by
  cases src with
  | naked old =>
      cases read
      rfl
  | bound b =>
      simp only [evaluate] at read
      split at read
      · obtain ⟨_, _, read⟩ := bind_eq_ok.mp read
        split at read
        · obtain ⟨_, _, read⟩ := bind_eq_ok.mp read
          obtain ⟨_, _, read⟩ := bind_eq_ok.mp read
          cases read
          rfl
        · obtain ⟨_, bad, _⟩ := bind_eq_ok.mp read
          cases bad
      · obtain ⟨_, bad, _⟩ := bind_eq_ok.mp read
        cases bad

end ValueSource

-- how a concrete pass ended is then decided by evaluating it
deriving instance DecidableEq for PassEnd

namespace Scheduler

/-- The scheduling half of a step: shape kept, pending stays pending, and only pending nodes read
differently. -/
structure Grows (s s' : Scheduler) : Prop where
  shape : s.registry.SameShape s'.registry
  keeps : ∀ y ∈ s.worklist.pending, y ∈ s'.worklist.pending
  touched : ∀ y, s'.registry.reading y = s.registry.reading y ∨ y ∈ s'.worklist.pending

section Grows
variable {s s' s'' : Scheduler}

theorem Grows.refl (s : Scheduler) : s.Grows s :=
  ⟨Registry.SameShape.refl _, fun _ member => member, fun _ => .inl rfl⟩

theorem Grows.trans (first : s.Grows s') (second : s'.Grows s'') : s.Grows s'' := by
  refine ⟨first.shape.trans second.shape, fun y member => second.keeps y (first.keeps y member), fun y => ?_⟩
  rcases second.touched y with same | pending
  · rcases first.touched y with same' | pending'
    · exact .inl (same.trans same')
    · exact .inr (second.keeps y pending')
  · exact .inr pending

theorem Grows.congr_left {s₀ : Scheduler} (grows : s.Grows s') (registry : s₀.registry = s.registry)
    (worklist : s₀.worklist = s.worklist) : s₀.Grows s' := by
  obtain ⟨shape, keeps, touched⟩ := grows
  refine ⟨registry ▸ shape, worklist ▸ keeps, fun y => ?_⟩
  rw [registry]
  exact touched y

end Grows

section Enqueue
variable {s s' : Scheduler}

theorem enqueue_ok {id : String} {added : Bool} (queued : s.enqueue id = .ok (s', added)) :
    ∃ n, s.registry.evidence.get? id = some n ∧
      s'.registry = s.registry.putNode { n with evaluatable := true } ∧
      s'.worklist = (s.worklist.push id n.rank).1 := by
  unfold enqueue at queued
  obtain ⟨n, found, queued⟩ := bind_eq_ok.mp queued
  dsimp only at queued
  cases queued
  exact ⟨n, Registry.lookup_eq_ok.mp found, rfl, rfl⟩

theorem enqueue_grows (keyed : s.registry.Keyed) {id : String} {added : Bool}
    (queued : s.enqueue id = .ok (s', added)) : s.Grows s' ∧ id ∈ s'.worklist.pending := by
  obtain ⟨n, stored, registry, worklist⟩ := enqueue_ok queued
  have named : n.id = id := keyed id n stored
  have storedAt : s.registry.evidence.get? n.id = some n := by rw [named]; exact stored
  have queuedHere : id ∈ s'.worklist.pending := by
    rw [worklist, Worklist.mem_pending_push]
    exact .inl rfl
  refine ⟨⟨?_, fun y member => ?_, fun y => ?_⟩, queuedHere⟩
  · rw [registry]
    exact Registry.sameShape_putNode _ { n with evaluatable := true } storedAt rfl
  · rw [worklist, Worklist.mem_pending_push]
    exact .inr member
  · by_cases here : y = id
    · subst here
      exact .inr queuedHere
    · rw [registry]
      exact .inl (Registry.reading_putNode_ne _ _ (by rw [named]; exact here))

theorem enqueueAll_grows {ids : List String} (keyed : s.registry.Keyed)
    (queued : s.enqueueAll ids = .ok s') : s.Grows s' ∧ ∀ x ∈ ids, x ∈ s'.worklist.pending := by
  induction ids generalizing s with
  | nil =>
      cases queued
      exact ⟨Grows.refl _, by simp⟩
  | cons id rest ih =>
      simp only [enqueueAll] at queued
      split at queued
      · rename_i s₁ _ first
        obtain ⟨grows₁, here⟩ := enqueue_grows keyed first
        obtain ⟨grows₂, later⟩ := ih (grows₁.shape.keyed keyed) queued
        refine ⟨grows₁.trans grows₂, fun x member => ?_⟩
        rcases List.mem_cons.mp member with rfl | inRest
        · exact grows₂.keeps x here
        · exact later x inRest
      · cases queued

end Enqueue

section Handlers
variable {s s' : Scheduler}

theorem afterChanges_grows {changed : List String} (keyed : s.registry.Keyed)
    (handled : s.afterChanges changed = .ok s') : s.Grows s' := by
  induction changed generalizing s with
  | nil =>
      cases handled
      exact Grows.refl _
  | cons c rest ih =>
      simp only [afterChanges] at handled
      split at handled
      · cases handled
      · split at handled
        · rename_i s₁ peers
          have grows₁ : s.Grows s₁ :=
            (enqueueAll_grows (by exact keyed) peers).1.congr_left rfl rfl
          exact grows₁.trans (ih (grows₁.shape.keyed keyed) handled)
        · cases handled

theorem afterActivations_grows {source : String} {activations : List String} (keyed : s.registry.Keyed)
    (handled : s.afterActivations source activations = .ok s') :
    s.Grows s' ∧ ∀ x ∈ activations, x ∈ s'.worklist.pending := by
  induction activations generalizing s with
  | nil =>
      cases handled
      exact ⟨Grows.refl _, by simp⟩
  | cons t rest ih =>
      simp only [afterActivations] at handled
      split at handled
      · rename_i s₁ _ first
        obtain ⟨queued, here⟩ := enqueue_grows (by exact keyed) first
        have grows₁ : s.Grows s₁ := queued.congr_left rfl rfl
        obtain ⟨grows₂, later⟩ := ih (grows₁.shape.keyed keyed) handled
        refine ⟨grows₁.trans grows₂, fun x member => ?_⟩
        rcases List.mem_cons.mp member with rfl | inRest
        · exact grows₂.keeps x here
        · exact later x inRest
      · cases handled

theorem afterCallbacks_keeps (s : Scheduler) (action : String) (names : List String) :
    (s.afterCallbacks action names).registry = s.registry ∧
      (s.afterCallbacks action names).worklist = s.worklist := by
  induction names generalizing s with
  | nil => exact ⟨rfl, rfl⟩
  | cons name rest ih => exact ih _

end Handlers

end Scheduler

/-- The value a rule stores for its condition's value: a boolean as itself, no value otherwise. -/
def storedCondition : Value → Option Value
  | .boolean b => some (.boolean b)
  | _ => none

theorem sameValue_boolean {old : Option Value} {b : Bool} (same : sameValue old (some (.boolean b)) = true) :
    old = some (.boolean b) := by
  match old with
  | some (.boolean a) =>
      have : a = b := by simpa [sameValue, BEq.beq, Value.beq] using same
      rw [this]
  | none => simp [sameValue] at same
  | some (.number _) | some (.text _) | some (.node _) | some .invalid =>
      simp [sameValue, BEq.beq, Value.beq] at same

namespace Registry
variable {r r' : Registry} {id : String} {st : Step}

theorem setValue_ok {target : String} {v : Value} {changed : Bool}
    (written : r.setValue target v = .ok (r', changed)) :
    ∃ n src, r.evidence.get? target = some n ∧ src.place = n.source.place ∧
      r'.evidence = (r.putNode { n with source := src }).evidence ∧ r'.dependents = r.dependents := by
  unfold setValue at written
  obtain ⟨n, found, written⟩ := bind_eq_ok.mp written
  split at written
  · obtain ⟨_, bad, _⟩ := bind_eq_ok.mp written
    cases bad
  · obtain ⟨⟨src, models, _⟩, stored, written⟩ := bind_eq_ok.mp written
    cases written
    exact ⟨n, src, lookup_eq_ok.mp found, ValueSource.place_of_set stored, rfl, rfl⟩

theorem apply_condition {v : Value} (applied : r.apply id (.condition v) = .ok (r', st)) :
    ∃ n src, r.evidence.get? id = some n ∧ src.place = n.source.place ∧
      r'.evidence = (r.putNode { n with source := src }).evidence ∧ r'.dependents = r.dependents ∧
      (n.source.modelId? = none → src.get = storedCondition v) := by
  simp only [apply] at applied
  obtain ⟨n, found, applied⟩ := bind_eq_ok.mp applied
  refine ⟨n, ?_⟩
  cases v with
  | boolean truth =>
      obtain ⟨⟨src, models, changed⟩, stored, applied⟩ := bind_eq_ok.mp applied
      have place : src.place = n.source.place := by
        rw [ValueSource.place_of_set stored, ValueSource.place_reset]
      have value (naked : n.source.modelId? = none) : src.get = storedCondition (.boolean truth) := by
        cases source : n.source with
        | bound b => rw [source] at naked; cases naked
        | naked old =>
            rw [source] at stored
            simp only [ValueSource.reset, ValueSource.set] at stored
            split at stored
            · rename_i same
              cases stored
              exact sameValue_boolean same
            · cases stored
              rfl
      split at applied <;>
        (cases applied; exact ⟨src, lookup_eq_ok.mp found, place, rfl, rfl, value⟩)
  | number _ | text _ | node _ | invalid =>
      cases applied
      refine ⟨n.source.reset.clear.1, lookup_eq_ok.mp found, ?_, rfl, rfl, fun naked => ?_⟩
      · rw [ValueSource.place_clear, ValueSource.place_reset]
      · cases source : n.source with
        | bound b => rw [source] at naked; cases naked
        | naked old => rfl

theorem evaluateEvidence_ok (evaluated : r.evaluateEvidence id = .ok (r', st)) :
    ∃ n, r.evidence.get? id = some n ∧
      ((n.evaluatable = false ∧ n.isFact = true ∧ r' = r ∧ st = {}) ∨
        (n.evaluatable = true ∧ ∃ effect, r.plan n = .ok effect ∧ r.apply id effect = .ok (r', st))) := by
  unfold evaluateEvidence at evaluated
  obtain ⟨n, found, evaluated⟩ := bind_eq_ok.mp evaluated
  refine ⟨n, lookup_eq_ok.mp found, ?_⟩
  cases switch : n.evaluatable
  · -- switched off: a fact does nothing, anything else refuses
    simp only [switch, Bool.not_false, ↓reduceIte] at evaluated
    split at evaluated
    · rename_i fact
      cases evaluated
      exact .inl ⟨rfl, fact, rfl, rfl⟩
    · obtain ⟨_, bad, _⟩ := bind_eq_ok.mp evaluated
      cases bad
  · simp only [switch, Bool.not_true, Bool.false_eq_true, ↓reduceIte] at evaluated
    obtain ⟨effect, planned, applied⟩ := bind_eq_ok.mp evaluated
    exact .inr ⟨rfl, effect, planned, applied⟩

theorem plan_rule {n : Evidence} {body : RuleBody} {effect : Effect} (kind : n.kind = .rule body)
    (planned : r.plan n = .ok effect) :
    ∃ v, body.condition.evaluate r.resolve EngineError.expression = .ok v ∧ effect = .condition v := by
  unfold plan at planned
  rw [kind] at planned
  obtain ⟨v, value, planned⟩ := bind_eq_ok.mp planned
  cases planned
  exact ⟨v, value, rfl⟩

theorem apply_spec (keyed : r.Keyed) {effect : Effect} (applied : r.apply id effect = .ok (r', st)) :
    SameShape r r' ∧ ∀ y, y ≠ id → y ∉ st.activations → r'.reading y = r.reading y := by
  cases effect with
  | refresh =>
      simp only [apply] at applied
      obtain ⟨n, found, applied⟩ := bind_eq_ok.mp applied
      obtain ⟨⟨src, changed⟩, read, applied⟩ := bind_eq_ok.mp applied
      cases applied
      obtain ⟨shape, others⟩ :=
        swapSource keyed (lookup_eq_ok.mp found) (ValueSource.place_of_evaluate read) rfl rfl
      exact ⟨shape, fun y other _ => others y other⟩
  | assign target v =>
      simp only [apply] at applied
      obtain ⟨⟨r₁, changed⟩, written, applied⟩ := bind_eq_ok.mp applied
      cases applied
      obtain ⟨n, src, found, place, evidence, dependents⟩ := setValue_ok written
      obtain ⟨shape, others⟩ := swapSource keyed found place evidence dependents
      exact ⟨shape, fun y _ notActivated => others y (fun same => notActivated (by simp [same]))⟩
  | trigger operating =>
      cases applied
      exact ⟨SameShape.refl r, fun _ _ _ => rfl⟩
  | callback name =>
      cases applied
      exact ⟨SameShape.refl r, fun _ _ _ => rfl⟩
  | condition v =>
      obtain ⟨n, src, found, place, evidence, dependents, -⟩ := apply_condition applied
      obtain ⟨shape, others⟩ := swapSource keyed found place evidence dependents
      exact ⟨shape, fun y other _ => others y other⟩

theorem evaluateEvidence_spec (keyed : r.Keyed) (evaluated : r.evaluateEvidence id = .ok (r', st)) :
    SameShape r r' ∧ ∀ y, y ≠ id → y ∉ st.activations → r'.reading y = r.reading y := by
  obtain ⟨n, -, (⟨-, -, rfl, -⟩ | ⟨-, effect, -, applied⟩)⟩ := evaluateEvidence_ok evaluated
  · exact ⟨SameShape.refl _, fun _ _ _ => rfl⟩
  · exact apply_spec keyed applied

end Registry

namespace Scheduler
variable {s s' : Scheduler}

theorem step_spec (keyed : s.registry.Keyed) {id : String} (stepped : s.step id = .ok s') :
    ∃ r st, s.registry.evaluateEvidence id = .ok (r, st) ∧
      ({ s with registry := r } : Scheduler).Grows s' ∧
      (∀ x ∈ st.activations, x ∈ s'.worklist.pending) ∧
      (∀ x ∈ s.registry.dependentsOf id, x ∈ s'.worklist.pending) := by
  unfold step at stepped
  split at stepped
  · cases stepped
  · rename_i r st evaluated
    have keyed₁ : r.Keyed := (Registry.evaluateEvidence_spec keyed evaluated).1.keyed keyed
    obtain ⟨s₂, changes, stepped⟩ := bind_eq_ok.mp stepped
    obtain ⟨s₃, activations, stepped⟩ := bind_eq_ok.mp stepped
    have grows₂ : ({ s with registry := r } : Scheduler).Grows s₂ :=
      (afterChanges_grows (by exact keyed₁) changes).congr_left rfl rfl
    obtain ⟨grows₃, activated⟩ := afterActivations_grows (grows₂.shape.keyed keyed₁) activations
    obtain ⟨sameRegistry, sameWorklist⟩ := afterCallbacks_keeps s₃ id st.callbacks
    have keyed₃ : s₃.registry.Keyed := grows₃.shape.keyed (grows₂.shape.keyed keyed₁)
    obtain ⟨queued, dependents⟩ := enqueueAll_grows (by rw [sameRegistry]; exact keyed₃) stepped
    have grows₄ : s₃.Grows s' := queued.congr_left sameRegistry.symm sameWorklist.symm
    have shape : s.registry.SameShape s₃.registry :=
      (Registry.evaluateEvidence_spec keyed evaluated).1.trans (grows₂.shape.trans grows₃.shape)
    refine ⟨r, st, evaluated, (grows₂.trans grows₃).trans grows₄, fun x member => grows₄.keeps x (activated x member),
      fun x member => dependents x ?_⟩
    rw [sameRegistry, shape.dependentsOf]
    exact member

theorem step_sameShape (keyed : s.registry.Keyed) {id : String} (stepped : s.step id = .ok s') :
    s.registry.SameShape s'.registry := by
  obtain ⟨r, st, evaluated, grows, -⟩ := step_spec keyed stepped
  exact (Registry.evaluateEvidence_spec keyed evaluated).1.trans grows.shape

end Scheduler

end RuleEngine
