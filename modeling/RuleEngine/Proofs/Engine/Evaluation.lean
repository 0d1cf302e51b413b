import RuleEngine.Proofs.Engine.Frame

/-! # What one evaluation does

`Registry.Evaluated r id outcome` lists what evaluating a node can do, one constructor per kind of
node, and every evaluation is one of them; each keeps the layout of a built registry
(`Registry.SameLayout`). -/
set_option autoImplicit false
namespace RuleEngine

namespace IdMap
variable {α : Type}

/-- The ids in strictly increasing order, so each id has one entry. -/
def Sorted (m : IdMap α) : Prop := m.keys.Pairwise (· < ·)

theorem insertSorted_of_mem (k : String) (v : α) :
    ∀ {es : List (String × α)}, (es.map (·.1)).Pairwise (· < ·) → k ∈ es.map (·.1) →
      insertSorted k v es = es.map fun e => if e.1 = k then (k, v) else e
  | [], _, member => by simp at member
  | (k', v') :: rest, sorted, member => by
      simp only [List.map_cons, List.pairwise_cons, List.mem_map] at sorted
      obtain ⟨larger, sortedRest⟩ := sorted
      simp only [insertSorted]
      by_cases same : k = k'
      · subst same
        have later : ∀ e ∈ rest, e.1 ≠ k := fun e member same =>
          String.lt_irrefl k (same ▸ larger e.1 ⟨e, member, rfl⟩)
        simp only [String.lt_irrefl, if_false, if_true, List.map_cons]
        rw [List.map_congr_left (fun e member => if_neg (later e member)), List.map_id']
      · have inRest : k ∈ rest.map (·.1) := by
          simp only [List.map_cons, List.mem_cons] at member
          exact member.resolve_left same
        have greater : k' < k := larger k (List.mem_map.mp inRest)
        simp only [String.lt_asymm greater, if_false, same, List.map_cons, Ne.symm same]
        rw [insertSorted_of_mem k v sortedRest inRest]

theorem insert_of_mem {m : IdMap α} (sorted : m.Sorted) {k : String} (member : k ∈ m.keys) (v : α) :
    (m.insert k v).entries = m.entries.map fun e => if e.1 = k then (k, v) else e :=
  insertSorted_of_mem k v sorted member

theorem mem_entries_of_get? {m : IdMap α} {k : String} {v : α} (found : m.get? k = some v) : (k, v) ∈ m.entries := by
  simp only [get?, Option.map_eq_some_iff] at found
  obtain ⟨e, located, rfl⟩ := found
  have named : e.1 = k := by simpa using List.find?_some located
  rw [← named]
  exact List.mem_of_find?_eq_some located

theorem mem_keys_of_get? {m : IdMap α} {k : String} {v : α} (found : m.get? k = some v) : k ∈ m.keys :=
  List.mem_map.mpr ⟨(k, v), mem_entries_of_get? found, rfl⟩

instance (m : IdMap α) : Decidable m.Sorted := inferInstanceAs (Decidable (m.keys.Pairwise (· < ·)))

theorem get?_of_mem {m : IdMap α} (sorted : m.Sorted) {e : String × α} (member : e ∈ m.entries) :
    m.get? e.1 = some e.2 := by
  obtain ⟨entries⟩ := m
  simp only [Sorted, keys] at sorted member
  simp only [get?]
  induction entries with
  | nil => cases member
  | cons first rest ih =>
      simp only [List.map_cons, List.pairwise_cons, List.mem_map] at sorted
      rcases List.mem_cons.mp member with rfl | later
      · simp
      · have differs : first.1 ≠ e.1 := String.ne_of_lt (sorted.1 e.1 ⟨e, later, rfl⟩)
        simp [differs, ih sorted.2 later]

theorem mem_values_iff {m : IdMap α} (sorted : m.Sorted) {v : α} : v ∈ m.values ↔ ∃ k, m.get? k = some v := by
  constructor
  · intro member
    obtain ⟨e, inEntries, rfl⟩ := List.mem_map.mp member
    exact ⟨e.1, get?_of_mem sorted inEntries⟩
  · rintro ⟨k, found⟩
    exact mem_values_of_get? found

end IdMap

theorem ValueSource.modelId?_eq_map_place (src : ValueSource) : src.modelId? = src.place.map (·.1) := by
  cases src <;> rfl

def EvidenceKind.isFact : EvidenceKind → Bool
  | .fact => true
  | _ => false

theorem Evidence.isFact_eq (n : Evidence) : n.isFact = n.kind.isFact := by
  rcases n with ⟨_, _, _, _, kind⟩
  cases kind <;> rfl

theorem Evidence.kind_of_isFact {n : Evidence} (fact : n.isFact = true) : n.kind = .fact := by
  unfold Evidence.isFact at fact
  split at fact
  · assumption
  · cases fact

namespace Registry

/-! ## One evaluation -/

/-- What evaluating the node `id` of `r` can do: the registry after it and what it reports. -/
inductive Evaluated (r : Registry) (id : String) : Registry × Step → Prop
  | off {n : Evidence} : r.evidence.get? id = some n → n.evaluatable = false → n.kind = .fact →
      Evaluated r id (r, {})
  | refresh {n : Evidence} {src : ValueSource} {changed : Bool} : r.evidence.get? id = some n →
      n.evaluatable = true → n.kind = .fact → n.source.evaluate r.models = .ok (src, changed) →
      Evaluated r id (r.putNode { n with source := src }, { changed := if changed then [id] else [] })
  | assign {n t : Evidence} {target : String} {e : Expression} {v : Value} {src : ValueSource}
      {models : IdMap Json} {changed : Bool} : r.evidence.get? id = some n → n.evaluatable = true →
      n.kind = .assignment target e → e.evaluate r.resolve EngineError.expression = .ok v →
      v.isInvalid = false → r.evidence.get? target = some t → t.kind = .fact → t.evaluatable = true →
      t.source.set v r.models = .ok (src, models, changed) →
      Evaluated r id ({ r.putNode { t with source := src } with models },
        { changed := if changed then [target] else [], activations := [target] })
  | trigger {n : Evidence} {operating : String} : r.evidence.get? id = some n → n.evaluatable = true →
      n.kind = .trigger operating → Evaluated r id (r, { activations := [operating] })
  | callback {n : Evidence} {name : String} : r.evidence.get? id = some n → n.evaluatable = true →
      n.kind = .callback name → Evaluated r id (r, { callbacks := [name] })
  | decided {n : Evidence} {body : RuleBody} {truth : Bool} {src : ValueSource} {models : IdMap Json}
      {changed : Bool} : r.evidence.get? id = some n → n.evaluatable = true → n.kind = .rule body →
      body.condition.evaluate r.resolve EngineError.expression = .ok (.boolean truth) →
      n.source.reset.set (.boolean truth) r.models = .ok (src, models, changed) →
      Evaluated r id ({ r.putNode { n with source := src } with models },
        if changed then { changed := [id], activations := ({ n with source := src } : Evidence).clauseEvidence }
        else {})
  | undecided {n : Evidence} {body : RuleBody} {v : Value} : r.evidence.get? id = some n →
      n.evaluatable = true → n.kind = .rule body →
      body.condition.evaluate r.resolve EngineError.expression = .ok v → (∀ truth, v ≠ .boolean truth) →
      Evaluated r id (r.putNode { n with source := n.source.reset.clear.1 }, {})

variable {r : Registry} {id : String}

theorem evaluateEvidence_evaluated {outcome : Registry × Step} (evaluated : r.evaluateEvidence id = .ok outcome) :
    r.Evaluated id outcome := by
  obtain ⟨r', st⟩ := outcome
  obtain ⟨n, found, (⟨switch, fact, rfl, rfl⟩ | ⟨switch, effect, planned, applied⟩)⟩ := evaluateEvidence_ok evaluated
  · exact .off found switch (Evidence.kind_of_isFact fact)
  have looked : r.lookup id = .ok n := lookup_eq_ok.mpr found
  unfold plan at planned
  -- the plan follows the kind of the node, and the effect is applied as planned
  cases kind : n.kind with
  | fact =>
      rw [kind] at planned
      cases planned
      simp only [apply] at applied
      obtain ⟨n', looked', applied⟩ := bind_eq_ok.mp applied
      rw [looked] at looked'
      cases looked'
      obtain ⟨⟨src, changed⟩, read, applied⟩ := bind_eq_ok.mp applied
      cases applied
      exact .refresh found switch kind read
  | assignment target e =>
      rw [kind] at planned
      obtain ⟨v, value, planned⟩ := bind_eq_ok.mp planned
      split at planned
      · obtain ⟨_, refused, _⟩ := bind_eq_ok.mp planned
        cases refused
      rename_i valid
      obtain ⟨t, lookedTarget, planned⟩ := bind_eq_ok.mp planned
      split at planned
      · obtain ⟨_, refused, _⟩ := bind_eq_ok.mp planned
        cases refused
      rename_i isFact
      cases planned
      simp only [apply] at applied
      obtain ⟨⟨r₁, changed⟩, written, applied⟩ := bind_eq_ok.mp applied
      cases applied
      unfold setValue at written
      obtain ⟨t', lookedTarget', written⟩ := bind_eq_ok.mp written
      rw [lookedTarget] at lookedTarget'
      cases lookedTarget'
      split at written
      · obtain ⟨_, refused, _⟩ := bind_eq_ok.mp written
        cases refused
      rename_i targetOn
      obtain ⟨⟨src, models, changed⟩, stored, written⟩ := bind_eq_ok.mp written
      cases written
      exact .assign found switch kind value (by simpa using valid) (lookup_eq_ok.mp lookedTarget)
        (Evidence.kind_of_isFact (by simpa using isFact)) (by simpa using targetOn) stored
  | trigger operating =>
      rw [kind] at planned
      cases planned
      cases applied
      exact .trigger found switch kind
  | callback name =>
      rw [kind] at planned
      cases planned
      cases applied
      exact .callback found switch kind
  | rule body =>
      rw [kind] at planned
      obtain ⟨v, value, planned⟩ := bind_eq_ok.mp planned
      cases planned
      simp only [apply] at applied
      obtain ⟨n', looked', applied⟩ := bind_eq_ok.mp applied
      rw [looked] at looked'
      cases looked'
      cases v with
      | boolean truth =>
          obtain ⟨⟨src, models, changed⟩, stored, applied⟩ := bind_eq_ok.mp applied
          cases changed <;> cases applied
          · exact .decided found switch kind value stored
          · exact .decided found switch kind value stored
      | number _ | text _ | node _ | invalid =>
          cases applied
          exact .undecided found switch kind value (fun _ => Value.noConfusion)

/-! ## The layout a pass keeps -/

/-- What loading and adding models keep true of a registry (`RuleSet.compile_addModels_built`): the
nodes sorted by id and stored under their own ids, and only facts bound to documents. -/
structure Built (r : Registry) : Prop where
  sorted : r.evidence.Sorted
  keyed : r.Keyed
  onlyFactsBound : ∀ k n, r.evidence.get? k = some n → n.source.place ≠ none → n.kind = .fact

theorem Built.of_entries {r : Registry} (sorted : r.evidence.Sorted) (named : ∀ e ∈ r.evidence.entries, e.2.id = e.1)
    (factsBound : ∀ e ∈ r.evidence.entries, e.2.source.place ≠ none → e.2.kind = .fact) : r.Built :=
  ⟨sorted, fun _ _ found => named _ (IdMap.mem_entries_of_get? found),
    fun _ _ found => factsBound _ (IdMap.mem_entries_of_get? found)⟩

/-- The same ids in the same order, each with a node of the same shape, and the same dependents. -/
def SameLayout (r r' : Registry) : Prop :=
  r'.evidence.entries.map (fun e => (e.1, e.2.shape)) = r.evidence.entries.map (fun e => (e.1, e.2.shape)) ∧
    r'.dependents = r.dependents

section Layout
variable {r r' r'' : Registry}

theorem SameLayout.refl (r : Registry) : r.SameLayout r := ⟨rfl, rfl⟩

theorem SameLayout.trans (first : r.SameLayout r') (second : r'.SameLayout r'') : r.SameLayout r'' :=
  ⟨second.1.trans first.1, second.2.trans first.2⟩

theorem SameLayout.keys (same : r.SameLayout r') : r'.evidence.keys = r.evidence.keys := by
  have := congrArg (List.map Prod.fst) same.1
  simpa [IdMap.keys, List.map_map, Function.comp_def] using this

theorem SameLayout.values_shape (same : r.SameLayout r') :
    r'.evidence.values.map Evidence.shape = r.evidence.values.map Evidence.shape := by
  have := congrArg (List.map Prod.snd) same.1
  simpa [IdMap.values, List.map_map, Function.comp_def] using this

theorem SameLayout.sameShape (same : r.SameLayout r') : r.SameShape r' := by
  refine ⟨same.2, fun k => ?_⟩
  have located := congrArg (fun es => (es.find? (·.1 == k)).map (·.2)) same.1
  simpa [IdMap.get?, List.find?_map, Function.comp_def, Option.map_map] using located

theorem SameLayout.forth (same : r.SameLayout r') {k : String} {n : Evidence} (found : r.evidence.get? k = some n) :
    ∃ n', r'.evidence.get? k = some n' ∧ n'.shape = n.shape := by
  have shapes := same.sameShape.2 k
  rw [found] at shapes
  exact Option.map_eq_some_iff.mp shapes

theorem SameLayout.filter_map (same : r.SameLayout r') {p : Evidence → Bool} {f : Evidence → String}
    (p' : String × EvidenceKind × Option (String × String × ValueKind) → Bool)
    (f' : String × EvidenceKind × Option (String × String × ValueKind) → String)
    (byShape : ∀ n, p n = p' n.shape) (fByShape : ∀ n, f n = f' n.shape) :
    (r'.evidence.values.filter p).map f = (r.evidence.values.filter p).map f := by
  have through (ns : List Evidence) : (ns.filter p).map f = ((ns.map Evidence.shape).filter p').map f' := by
    rw [List.filter_map, List.map_map, List.filter_congr fun n _ => byShape n]
    exact List.map_congr_left fun n _ => fByShape n
  rw [through, through, same.values_shape]

theorem SameLayout.factsBoundTo (same : r.SameLayout r') (m : String) :
    r'.factsBoundTo m = r.factsBoundTo m :=
  same.filter_map (fun sh => sh.2.1.isFact && sh.2.2.map (·.1) == some m) (·.1)
    (fun n => by
      simp [Evidence.shape, Evidence.isFact_eq, Evidence.modelId?, ValueSource.modelId?_eq_map_place])
    (fun n => rfl)

theorem SameLayout.built (same : r.SameLayout r') (built : r.Built) : r'.Built := by
  refine ⟨?_, same.sameShape.keyed built.keyed, fun k n' found' bound => ?_⟩
  · unfold IdMap.Sorted
    rw [same.keys]
    exact built.sorted
  · obtain ⟨n, found, shapes⟩ := same.sameShape.back found'
    have place : n.source.place = n'.source.place := congrArg (fun s => s.2.2) shapes
    have kinds : n.kind = n'.kind := congrArg (fun s => s.2.1) shapes
    rw [← kinds]
    exact built.onlyFactsBound k n found (place ▸ bound)

theorem get?_putNode_found (keyed : r.Keyed) {k : String} {n : Evidence} (found : r.evidence.get? k = some n)
    (n' : Evidence) (named : n'.id = n.id) : (r.putNode n').evidence.get? k = some n' := by
  rw [← keyed k n found, ← named]
  exact get?_putNode_self _ _

theorem sameLayout_putNode (built : r.Built) {k : String} {n n' : Evidence} (found : r.evidence.get? k = some n)
    (shapes : n'.shape = n.shape) : r.SameLayout (r.putNode n') := by
  have named : n'.id = k := (congrArg Prod.fst shapes).trans (built.keyed k n found)
  refine ⟨?_, rfl⟩
  simp only [putNode, IdMap.insert_of_mem built.sorted (named ▸ IdMap.mem_keys_of_get? found), List.map_map]
  refine List.map_congr_left fun e member => ?_
  by_cases here : e.1 = n'.id
  · -- the entry under the id holds the node found there
    have stored : r.evidence.get? e.1 = some e.2 := IdMap.get?_of_mem built.sorted member
    rw [here, named, found] at stored
    simp [here, ← Option.some.inj stored, shapes]
  · simp [here]

end Layout

theorem Evaluated.sameLayout (built : r.Built) {outcome : Registry × Step} (evaluated : r.Evaluated id outcome) :
    r.SameLayout outcome.1 := by
  cases evaluated with
  | off => exact SameLayout.refl r
  | refresh found _ _ read =>
      exact sameLayout_putNode built found (by simp [Evidence.shape, ValueSource.place_of_evaluate read])
  | @assign _ t _ _ _ src _ _ _ _ _ _ _ targetFound _ _ stored =>
      have layout : r.SameLayout (r.putNode { t with source := src }) :=
        sameLayout_putNode built targetFound (by simp [Evidence.shape, ValueSource.place_of_set stored])
      exact ⟨layout.1, layout.2⟩
  | trigger => exact SameLayout.refl r
  | callback => exact SameLayout.refl r
  | @decided n _ _ src _ _ found _ _ _ stored =>
      have layout : r.SameLayout (r.putNode { n with source := src }) :=
        sameLayout_putNode built found
          (by simp [Evidence.shape, ValueSource.place_of_set stored, ValueSource.place_reset])
      split <;> exact ⟨layout.1, layout.2⟩
  | undecided found =>
      exact sameLayout_putNode built found
        (by simp [Evidence.shape, ValueSource.place_clear, ValueSource.place_reset])

end Registry

end RuleEngine
