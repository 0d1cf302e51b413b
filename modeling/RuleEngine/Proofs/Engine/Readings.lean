import RuleEngine.Proofs.Engine.Evaluation
import RuleEngine.Proofs.Engine.Pointers

/-! # Facts and the documents they read

A fact is fresh (`ValueSource.Fresh`) when its cache is what reading its document now gives. When
the facts of one model are bound to paths apart, an evaluation leaves every fact but its
assignment's target reading what it read before. -/
set_option autoImplicit false
namespace RuleEngine

instance (tp tq : List String) : Decidable (Pointer.Overlap tp tq) :=
  inferInstanceAs (Decidable (tp <+: tq ∨ tq <+: tp))

instance (p q : String) : Decidable (Json.Apart p q) :=
  decidable_of_iff
    ((match Pointer.tokens p, Pointer.tokens q with
      | some tp, some tq => !decide (Pointer.Overlap tp tq)
      | _, _ => true) = true) <| by
    unfold Json.Apart
    cases Pointer.tokens p <;> cases Pointer.tokens q <;> simp

/-- What a document of the models reads at a path: nothing when the model is missing. -/
def IdMap.readValue (models : IdMap Json) (model path : String) : Option (Option Value) :=
  (models.get? model).map (·.readValue path)

theorem Binding.coerce_congr {b b' : Binding} (model : b'.modelId = b.modelId) (path : b'.path = b.path)
    (kind : b'.kind = b.kind) : b'.coerce = b.coerce := by
  funext raw
  unfold Binding.coerce Binding.mismatch Binding.error
  rw [model, path, kind]

namespace ValueSource

/-- The value is what reading the document now gives: reading again gives the source back. -/
def Fresh (src : ValueSource) (models : IdMap Json) : Prop :=
  ∃ changed, src.evaluate models = .ok (src, changed)

theorem evaluate_bound (b : Binding) (models : IdMap Json) :
    (ValueSource.bound b).evaluate models =
      match models.readValue b.modelId b.path with
      | none => .error (.unknownModel b.modelId)
      | some none => .error (b.error (DocumentError.missing b.path).message)
      | some (some raw) => (b.coerce raw).map fun v => (.bound { b with cached := some v }, !sameValue b.cached (some v)) := by
  simp only [evaluate, IdMap.readValue]
  cases models.get? b.modelId with
  | none => rfl
  | some doc =>
      simp only [Option.map_some, bind, Except.bind, pure, Except.pure]
      cases doc.readValue b.path with
      | none => rfl
      | some raw => cases b.coerce raw <;> rfl

theorem evaluate_bound_eq_ok {b : Binding} {models : IdMap Json} {src : ValueSource} {changed : Bool} :
    (ValueSource.bound b).evaluate models = .ok (src, changed) ↔
      ∃ doc raw v, models.get? b.modelId = some doc ∧ doc.readValue b.path = some raw ∧ b.coerce raw = .ok v ∧
        src = .bound { b with cached := some v } ∧ changed = !sameValue b.cached (some v) := by
  rw [evaluate_bound]
  simp only [IdMap.readValue]
  cases found : models.get? b.modelId with
  | none => simp
  | some doc =>
      cases present : doc.readValue b.path with
      | none => simp [present]
      | some raw =>
          cases coerced : b.coerce raw with
          | error e => simp [present, coerced, Except.map]
          | ok v =>
              simp only [Option.map_some, present, coerced, Except.map, Except.ok.injEq, Prod.mk.injEq]
              constructor
              · rintro ⟨rfl, rfl⟩
                exact ⟨doc, raw, v, rfl, present, coerced, rfl, rfl⟩
              · rintro ⟨doc', raw', v', found', present', coerced', rfl, rfl⟩
                cases found'
                rw [present] at present'
                cases present'
                rw [coerced] at coerced'
                cases coerced'
                exact ⟨rfl, rfl⟩

theorem evaluate_congr {b : Binding} {models models' : IdMap Json}
    (same : models'.readValue b.modelId b.path = models.readValue b.modelId b.path) :
    (ValueSource.bound b).evaluate models' = (ValueSource.bound b).evaluate models := by
  rw [evaluate_bound, evaluate_bound, same]

theorem fresh_congr {src : ValueSource} {models models' : IdMap Json}
    (same : ∀ m p kind, src.place = some (m, p, kind) → models'.readValue m p = models.readValue m p)
    (fresh : src.Fresh models) : src.Fresh models' := by
  cases src with
  | naked v => exact ⟨false, rfl⟩
  | bound b =>
      obtain ⟨changed, read⟩ := fresh
      exact ⟨changed, (evaluate_congr (same _ _ _ rfl)).trans read⟩

theorem fresh_of_evaluate {src src' : ValueSource} {models : IdMap Json} {changed : Bool}
    (read : src.evaluate models = .ok (src', changed)) : src'.Fresh models := by
  cases src with
  | naked v =>
      cases read
      exact ⟨false, rfl⟩
  | bound b =>
      obtain ⟨doc, raw, v, located, present, coerced, rfl, -⟩ := evaluate_bound_eq_ok.mp read
      have coerced' : ({ b with cached := some v } : Binding).coerce raw = .ok v := by
        rw [@Binding.coerce_congr b { b with cached := some v } rfl rfl rfl]
        exact coerced
      exact ⟨_, evaluate_bound_eq_ok.mpr ⟨doc, raw, v, located, present, coerced', rfl, rfl⟩⟩

theorem evaluate_of_fresh {b : Binding} {models : IdMap Json} (fresh : (ValueSource.bound b).Fresh models)
    (selfEqual : ∀ doc raw v, models.get? b.modelId = some doc → doc.readValue b.path = some raw →
      b.coerce raw = .ok v → (v == v) = true) :
    (ValueSource.bound b).evaluate models = .ok (.bound b, false) := by
  obtain ⟨changed, read⟩ := fresh
  obtain ⟨doc, raw, v, located, present, coerced, cached, unchanged⟩ := evaluate_bound_eq_ok.mp read
  have holds : b.cached = some v := by
    have := congrArg (fun src => ValueSource.get src) cached
    simpa [ValueSource.get] using this
  rw [read, unchanged, holds]
  simp [sameValue, selfEqual doc raw v located present coerced]

theorem set_bound_eq_ok {b : Binding} {v : Value} {models models' : IdMap Json} {src' : ValueSource}
    {changed : Bool} (stored : (ValueSource.bound b).set v models = .ok (src', models', changed)) :
    b.kind ≠ .node ∧ ∃ w doc doc', b.coerce v = .ok w ∧ models.get? b.modelId = some doc ∧
      doc.writeValue b.path w = .ok doc' ∧ src' = .bound { b with cached := some w } ∧
      models' = models.insert b.modelId doc' := by
  simp only [set] at stored
  split at stored
  · cases stored
  · rename_i notNode
    obtain ⟨w, coerced, stored⟩ := bind_eq_ok.mp stored
    split at stored
    · rename_i doc located
      obtain ⟨_, purely, stored⟩ := bind_eq_ok.mp stored
      cases purely
      split at stored
      · rename_i doc' written
        obtain ⟨_, purely', stored⟩ := bind_eq_ok.mp stored
        cases purely'
        cases stored
        exact ⟨notNode, w, doc, doc', coerced, located, written, rfl, rfl⟩
      · obtain ⟨_, bad, _⟩ := bind_eq_ok.mp stored
        cases bad
    · obtain ⟨_, bad, _⟩ := bind_eq_ok.mp stored
      cases bad

theorem models_of_set {src src' : ValueSource} {v : Value} {models models' : IdMap Json} {changed : Bool}
    (stored : src.set v models = .ok (src', models', changed)) :
    (src.place = none ∧ models' = models) ∨
      ∃ b doc doc' w, src = .bound b ∧ models.get? b.modelId = some doc ∧
        doc.writeValue b.path w = .ok doc' ∧ models' = models.insert b.modelId doc' := by
  cases src with
  | naked old =>
      simp only [set] at stored
      split at stored <;> (cases stored; exact .inl ⟨rfl, rfl⟩)
  | bound b =>
      obtain ⟨-, w, doc, doc', -, located, written, -, rfl⟩ := set_bound_eq_ok stored
      exact .inr ⟨b, doc, doc', w, rfl, located, written, rfl⟩

theorem readValue_of_set {src src' : ValueSource} {v : Value} {models models' : IdMap Json} {changed : Bool}
    (stored : src.set v models = .ok (src', models', changed)) {m p : String}
    (apart : ∀ p' kind, src.place = some (m, p', kind) → Json.Apart p' p) :
    models'.readValue m p = models.readValue m p := by
  rcases models_of_set stored with ⟨-, rfl⟩ | ⟨b, doc, doc', w, rfl, located, written, rfl⟩
  · rfl
  · simp only [IdMap.readValue]
    by_cases here : m = b.modelId
    · subst here
      rw [IdMap.get?_insert_self, located, Option.map_some, Option.map_some,
        Json.readValue_writeJson written (apart b.path b.kind rfl)]
    · rw [IdMap.get?_insert_ne _ _ here]

end ValueSource

namespace Registry

/-- Facts of one model are bound to paths apart: no path's tokens are a prefix of another's. -/
def BoundApart (r : Registry) : Prop :=
  ∀ k k' n n' m p p' kind kind', k ≠ k' → r.evidence.get? k = some n → r.evidence.get? k' = some n' →
    n.source.place = some (m, p, kind) → n'.source.place = some (m, p', kind') → Json.Apart p p'

/-- Every value a fact reads from its document equals itself: no fact reads NaN. -/
def ReadsNoNaN (r : Registry) : Prop :=
  ∀ k n b doc raw v, r.evidence.get? k = some n → n.source = .bound b → r.models.get? b.modelId = some doc →
    doc.readValue b.path = some raw → b.coerce raw = .ok v → (v == v) = true

def placesApart : Option (String × String × ValueKind) → Option (String × String × ValueKind) → Bool
  | some (m, p, _), some (m', p', _) => m != m' || decide (Json.Apart p p')
  | _, _ => true

def boundApartCheck (r : Registry) : Bool :=
  r.evidence.entries.all fun e => r.evidence.entries.all fun e' =>
    e.1 == e'.1 || placesApart e.2.source.place e'.2.source.place

theorem boundApart_of_check {r : Registry} (check : r.boundApartCheck = true) : r.BoundApart := by
  intro k k' n n' m p p' kind kind' other found found' place place'
  have pairs := List.all_eq_true.mp (List.all_eq_true.mp check _ (IdMap.mem_entries_of_get? found)) _
    (IdMap.mem_entries_of_get? found')
  simp only [place, place', placesApart, bne_self_eq_false, Bool.false_or, decide_eq_true_eq, Bool.or_eq_true,
    beq_iff_eq] at pairs
  exact pairs.resolve_left other

def readsNoNaNCheck (r : Registry) : Bool :=
  r.evidence.entries.all fun e =>
    match e.2.source with
    | .bound b =>
      match r.models.get? b.modelId with
      | some doc =>
        match doc.readValue b.path with
        | some raw =>
          match b.coerce raw with
          | .ok v => v == v
          | .error _ => true
        | none => true
      | none => true
    | .naked _ => true

theorem readsNoNaN_of_check {r : Registry} (check : r.readsNoNaNCheck = true) : r.ReadsNoNaN := by
  intro k n b doc raw v found bound located present coerced
  have fact := List.all_eq_true.mp check _ (IdMap.mem_entries_of_get? found)
  simpa [bound, located, present, coerced] using fact

/-- Some assignment sets the node. -/
def Written (r : Registry) (k : String) : Prop :=
  ∃ a n e, r.evidence.get? a = some n ∧ n.kind = .assignment k e

section Layout
variable {r r' : Registry}

theorem SameLayout.boundApart (same : r.SameLayout r') (apart : r.BoundApart) : r'.BoundApart := by
  intro k k' n n' m p p' kind kind' other found found' place place'
  obtain ⟨n₀, found₀, shapes⟩ := same.sameShape.back found
  obtain ⟨n₀', found₀', shapes'⟩ := same.sameShape.back found'
  have places : n₀.source.place = n.source.place := congrArg (fun s => s.2.2) shapes
  have places' : n₀'.source.place = n'.source.place := congrArg (fun s => s.2.2) shapes'
  exact apart k k' n₀ n₀' m p p' kind kind' other found₀ found₀' (places.trans place) (places'.trans place')

theorem SameLayout.written (same : r.SameLayout r') {k : String} : r'.Written k ↔ r.Written k := by
  constructor
  · rintro ⟨a, n', e, found', kind'⟩
    obtain ⟨n, found, shapes⟩ := same.sameShape.back found'
    exact ⟨a, n, e, found, (congrArg (fun s => s.2.1) shapes).trans kind'⟩
  · rintro ⟨a, n, e, found, kind⟩
    obtain ⟨n', found', shapes⟩ := same.forth found
    exact ⟨a, n', e, found', (congrArg (fun s => s.2.1) shapes).trans kind⟩

end Layout

variable {r : Registry} {id : String}

theorem Evaluated.get?_of_ne (built : r.Built) {outcome : Registry × Step} (evaluated : r.Evaluated id outcome)
    {k : String} (other : k ≠ id) (notTarget : ∀ n₀ e, r.evidence.get? id = some n₀ → n₀.kind ≠ .assignment k e) :
    outcome.1.evidence.get? k = r.evidence.get? k := by
  have kept {n₀ : Evidence} (named : n₀.id ≠ k) : (r.putNode n₀).evidence.get? k = r.evidence.get? k :=
    get?_putNode_ne _ _ (Ne.symm named)
  cases evaluated with
  | off => rfl
  | refresh found₀ => exact kept (by rw [built.keyed _ _ found₀]; exact Ne.symm other)
  | @assign n₀ t target e _ _ _ _ found₀ _ kind₀ _ _ targetFound =>
      have notHere : k ≠ target := by
        rintro rfl
        exact notTarget n₀ e found₀ kind₀
      exact kept (by rw [built.keyed _ _ targetFound]; exact Ne.symm notHere)
  | trigger => rfl
  | callback => rfl
  | decided found₀ => exact kept (by rw [built.keyed _ _ found₀]; exact Ne.symm other)
  | undecided found₀ => exact kept (by rw [built.keyed _ _ found₀]; exact Ne.symm other)

theorem Evaluated.readValue (built : r.Built) (apart : r.BoundApart) {outcome : Registry × Step}
    (evaluated : r.Evaluated id outcome) {k : String} {n : Evidence} (found : r.evidence.get? k = some n)
    (notTarget : ∀ n₀ e, r.evidence.get? id = some n₀ → n₀.kind ≠ .assignment k e)
    {m p : String} {kind : ValueKind} (place : n.source.place = some (m, p, kind)) :
    outcome.1.models.readValue m p = r.models.readValue m p := by
  cases evaluated with
  | @assign n₀ t target e _ _ _ _ found₀ _ kind₀ _ _ targetFound _ _ stored =>
      have notHere : k ≠ target := by
        rintro rfl
        exact notTarget n₀ e found₀ kind₀
      exact ValueSource.readValue_of_set stored fun p' kind' place' =>
        apart _ k _ n m p' p kind' kind (Ne.symm notHere) targetFound found place' place
  | @decided n₀ _ _ _ _ _ found₀ _ kind₀ _ stored =>
      have naked : n₀.source.reset.place = none := by
        rw [ValueSource.place_reset]
        by_contra bound
        have := built.onlyFactsBound _ _ found₀ bound
        rw [kind₀] at this
        cases this
      exact ValueSource.readValue_of_set stored fun p' kind' place' => by
        rw [naked] at place'
        cases place'
  | off | refresh | trigger | callback | undecided => rfl

end Registry

end RuleEngine
