import Mathlib.Logic.Hydra
import Mathlib.Data.Finset.Card
import RuleEngine.Proofs.Engine.Readings
import RuleEngine.Proofs.Engine.Scheduling

/-! # Passes end

A pass ends after finitely many evaluations when the dependency graph (`Registry.Edge`), with the
edges from a set fact to the other facts of its model, has no cycle, facts are bound to paths
apart and none reads NaN. The measure is lexicographic: the stale facts, then the pending nodes as
a multiset ordered by height. -/
set_option autoImplicit false
namespace RuleEngine

namespace ValueSource

theorem place_eq_some {src : ValueSource} {m p : String} {kind : ValueKind} :
    src.place = some (m, p, kind) ↔ ∃ b, src = .bound b ∧ b.modelId = m ∧ b.path = p ∧ b.kind = kind := by
  cases src with
  | naked v => simp [place]
  | bound b =>
      simp only [place, Option.some.injEq, Prod.mk.injEq, ValueSource.bound.injEq]
      constructor
      · rintro ⟨rfl, rfl, rfl⟩
        exact ⟨b, rfl, rfl, rfl, rfl⟩
      · rintro ⟨b', rfl, rfl, rfl, rfl⟩
        exact ⟨rfl, rfl, rfl⟩

end ValueSource

theorem Evidence.mem_clauseEvidence {n : Evidence} {body : RuleBody} (kind : n.kind = .rule body) {y : String}
    (member : y ∈ n.clauseEvidence) : ∃ c ∈ body.clauses, c.action = y := by
  simp only [Evidence.clauseEvidence, kind] at member
  split at member
  · obtain ⟨c, chosen, rfl⟩ := List.mem_map.mp member
    exact ⟨c, (List.mem_filter.mp chosen).1, rfl⟩
  · cases member

namespace Registry

/-! ## The dependency graph -/

/-- An edge of the dependency graph. -/
inductive Edge (r : Registry) : String → String → Prop
  | reads {x y : String} {n : Evidence} : r.evidence.get? y = some n → x ∈ n.dependentEvidence → Edge r x y
  | dependent {x y : String} : y ∈ r.dependentsOf x → Edge r x y
  | clause {x y : String} {n : Evidence} {body : RuleBody} {c : Clause} : r.evidence.get? x = some n →
      n.kind = .rule body → c ∈ body.clauses → c.action = y → Edge r x y
  | target {x y : String} {n : Evidence} {e : Expression} : r.evidence.get? x = some n →
      n.kind = .assignment y e → Edge r x y
  | operating {x y : String} {n : Evidence} : r.evidence.get? x = some n → n.kind = .trigger y → Edge r x y

/-- The edges of a changed fact: from a fact an assignment sets to the other facts of its model. -/
def PeerEdge (r : Registry) (x y : String) : Prop := r.Written x ∧ y ∈ r.peersOf x

/-- Evaluating `x` may lead to evaluating `y`. -/
def Leads (r : Registry) (x y : String) : Prop := r.Edge x y ∨ r.PeerEdge x y

/-- Whether `h` climbs along every edge of the graph, checked node by node. -/
def edgesClimb (r : Registry) (h : String → Nat) : Bool :=
  (r.dependents.entries.all fun d => d.2.all fun y => h d.1 < h y) &&
    r.evidence.entries.all fun e =>
      (e.2.dependentEvidence.all fun x => h x < h e.1) &&
        match e.2.kind with
        | .rule body => body.clauses.all fun c => h e.1 < h c.action
        | .assignment t _ => h e.1 < h t
        | .trigger o => h e.1 < h o
        | _ => true

def peersClimb (r : Registry) (h : String → Nat) : Bool :=
  r.evidence.entries.all fun e =>
    match e.2.kind with
    | .assignment t _ => (r.peersOf t).all fun y => h t < h y
    | _ => true

section Climbing
variable {r : Registry} {h : String → Nat} {x y : String}

theorem Edge.climbs (check : r.edgesClimb h = true) (edge : r.Edge x y) : h x < h y := by
  simp only [edgesClimb, Bool.and_eq_true, List.all_eq_true, decide_eq_true_eq] at check
  obtain ⟨dependents, nodes⟩ := check
  cases edge with
  | reads found member => exact (nodes _ (IdMap.mem_entries_of_get? found)).1 x member
  | dependent member =>
      unfold dependentsOf at member
      cases located : r.dependents.get? x with
      | none => simp [located] at member
      | some ys =>
          rw [located, Option.getD_some] at member
          exact dependents _ (IdMap.mem_entries_of_get? located) y member
  | clause found kind chosen named =>
      have climbed := (nodes _ (IdMap.mem_entries_of_get? found)).2
      simp only [kind, List.all_eq_true, decide_eq_true_eq] at climbed
      exact named ▸ climbed _ chosen
  | target found kind =>
      have climbed := (nodes _ (IdMap.mem_entries_of_get? found)).2
      simp only [kind, decide_eq_true_eq] at climbed
      exact climbed
  | operating found kind =>
      have climbed := (nodes _ (IdMap.mem_entries_of_get? found)).2
      simp only [kind, decide_eq_true_eq] at climbed
      exact climbed

theorem PeerEdge.climbs (check : r.peersClimb h = true) (peer : r.PeerEdge x y) : h x < h y := by
  obtain ⟨⟨a, n, e, found, kind⟩, member⟩ := peer
  have climbed := List.all_eq_true.mp check _ (IdMap.mem_entries_of_get? found)
  simp only [kind, List.all_eq_true, decide_eq_true_eq] at climbed
  exact climbed y member

end Climbing

theorem not_transGen_self_of_climbs {rel : String → String → Prop} (h : String → Nat)
    (climb : ∀ x y, rel x y → h x < h y) (x : String) : ¬ Relation.TransGen rel x x := by
  have along : ∀ a b, Relation.TransGen rel a b → h a < h b := by
    intro a b path
    induction path with
    | single step => exact climb _ _ step
    | tail _ step below => exact below.trans (climb _ _ step)
  exact fun cycle => Nat.lt_irrefl _ (along x x cycle)

open Classical in
/-- The number of nodes a relation reaches from `x`; it drops along every edge of an acyclic
relation. -/
noncomputable def height (r : Registry) (rel : String → String → Prop) (x : String) : Nat :=
  (r.evidence.keys.toFinset.filter fun y => Relation.TransGen rel x y).card

theorem height_lt {r : Registry} {rel : String → String → Prop} (acyclic : ∀ x, ¬ Relation.TransGen rel x x)
    {x y : String} (lead : Relation.TransGen rel x y) (key : y ∈ r.evidence.keys) :
    r.height rel y < r.height rel x := by
  classical
  unfold height
  apply Finset.card_lt_card
  rw [Finset.ssubset_iff_of_subset]
  · -- `y` is reached from `x`, and not from itself
    refine ⟨y, Finset.mem_filter.mpr ⟨List.mem_toFinset.mpr key, lead⟩, fun reached => ?_⟩
    exact acyclic y (Finset.mem_filter.mp reached).2
  · intro z reached
    obtain ⟨member, fromY⟩ := Finset.mem_filter.mp reached
    exact Finset.mem_filter.mpr ⟨member, lead.trans fromY⟩

/-! ## Stale facts -/

def Stale (r : Registry) (k : String) : Prop :=
  ∃ n, r.evidence.get? k = some n ∧ n.source.place ≠ none ∧ ¬ r.Written k ∧ ¬ n.source.Fresh r.models

open Classical in
noncomputable def staleCount (r : Registry) : Nat := (r.evidence.keys.toFinset.filter r.Stale).card

/-- A registry a pass from `r₀` can leave: built with its layout, unset facts reading what they read
in `r₀`. -/
structure Conforms (r₀ r : Registry) : Prop where
  built : r.Built
  layout : r₀.SameLayout r
  readings : ∀ k n m p kind, r₀.evidence.get? k = some n → n.source.place = some (m, p, kind) →
    ¬ r₀.Written k → r.models.readValue m p = r₀.models.readValue m p

section Conforms
variable {r₀ r r' : Registry}

theorem Conforms.refl (built : r.Built) : r.Conforms r :=
  ⟨built, SameLayout.refl r, fun _ _ _ _ _ _ _ _ => rfl⟩

theorem Conforms.switched (conforms : r₀.Conforms r) (switched : r.Switched r') : r₀.Conforms r' :=
  ⟨switched.layout.built conforms.built, conforms.layout.trans switched.layout, fun k n m p kind found place unwritten => by
    rw [switched.models]
    exact conforms.readings k n m p kind found place unwritten⟩

theorem Conforms.kind (conforms : r₀.Conforms r) {k : String} {n : Evidence} (found : r.evidence.get? k = some n) :
    ∃ n₀, r₀.evidence.get? k = some n₀ ∧ n₀.kind = n.kind := by
  obtain ⟨n₀, found₀, shapes⟩ := conforms.layout.sameShape.back found
  exact ⟨n₀, found₀, congrArg (fun s => s.2.1) shapes⟩

theorem Conforms.evaluated (apart : r₀.BoundApart) (conforms : r₀.Conforms r) {id : String}
    {outcome : Registry × Step} (evaluated : r.Evaluated id outcome) : r₀.Conforms outcome.1 := by
  have layout := evaluated.sameLayout conforms.built
  refine ⟨layout.built conforms.built, conforms.layout.trans layout, fun k n₀ m p kind found₀ place₀ unwritten => ?_⟩
  obtain ⟨n, found, shapes⟩ := conforms.layout.forth found₀
  have place : n.source.place = some (m, p, kind) := (congrArg (fun s => s.2.2) shapes).trans place₀
  have notTarget : ∀ a e, r.evidence.get? id = some a → a.kind ≠ .assignment k e := fun a e foundA kindA =>
    unwritten (conforms.layout.written.mp ⟨id, a, e, foundA, kindA⟩)
  rw [evaluated.readValue conforms.built (conforms.layout.boundApart apart) found notTarget place]
  exact conforms.readings k n₀ m p kind found₀ place₀ unwritten

theorem Conforms.selfEqual (conforms : r₀.Conforms r) (noNaN : r₀.ReadsNoNaN) {k : String} {n : Evidence}
    {b : Binding} (found : r.evidence.get? k = some n) (bound : n.source = .bound b) (unwritten : ¬ r.Written k) :
    ∀ doc raw v, r.models.get? b.modelId = some doc → doc.readValue b.path = some raw →
      b.coerce raw = .ok v → (v == v) = true := by
  intro doc raw v located present coerced
  obtain ⟨n₀, found₀, shapes⟩ := conforms.layout.sameShape.back found
  have place : n₀.source.place = some (b.modelId, b.path, b.kind) := by
    have places : n₀.source.place = n.source.place := congrArg (fun s => s.2.2) shapes
    rw [places, bound]
    rfl
  obtain ⟨b₀, bound₀, model, path, kind⟩ := ValueSource.place_eq_some.mp place
  have unwritten₀ : ¬ r₀.Written k := fun written => unwritten (conforms.layout.written.mpr written)
  have same := conforms.readings k n₀ b.modelId b.path b.kind found₀ place unwritten₀
  simp only [IdMap.readValue, located, Option.map_some] at same
  obtain ⟨doc₀, located₀, reads⟩ := Option.map_eq_some_iff.mp same.symm
  have present₀ : doc₀.readValue b₀.path = some raw := by rw [path, reads, present]
  exact noNaN k n₀ b₀ doc₀ raw v found₀ bound₀ (by rw [model]; exact located₀) present₀
    (by rw [Binding.coerce_congr model path kind]; exact coerced)

theorem Switched.stale_iff (switched : r.Switched r') {k : String} : r'.Stale k ↔ r.Stale k := by
  constructor
  · rintro ⟨n', found', bound, unwritten, stale⟩
    obtain ⟨n, found, source, -⟩ := switched.back found'
    refine ⟨n, found, source ▸ bound, fun written => unwritten (switched.layout.written.mpr written), ?_⟩
    rw [← source, ← switched.models]
    exact stale
  · rintro ⟨n, found, bound, unwritten, stale⟩
    obtain ⟨n', found', source, -⟩ := switched.get? found
    refine ⟨n', found', source ▸ bound, fun written => unwritten (switched.layout.written.mp written), ?_⟩
    rw [source, switched.models]
    exact stale

end Conforms

theorem peersOf_of_not_fact {r : Registry} {c : String} {n : Evidence} (found : r.evidence.get? c = some n)
    (notFact : n.isFact = false) : r.peersOf c = [] := by
  unfold peersOf
  simp only [found, notFact, Bool.false_eq_true, if_false]
  split <;> rfl

section Step
variable {r₀ r : Registry} {id : String} {outcome : Registry × Step}

theorem Evaluated.stale (apart : r₀.BoundApart) (conforms : r₀.Conforms r) (evaluated : r.Evaluated id outcome)
    {k : String} (stale : outcome.1.Stale k) : r.Stale k := by
  obtain ⟨n₁, found₁, bound, unwritten, notFresh⟩ := stale
  have layout := evaluated.sameLayout conforms.built
  have unwritten' : ¬ r.Written k := fun written => unwritten (layout.written.mpr written)
  have notTarget : ∀ a e, r.evidence.get? id = some a → a.kind ≠ .assignment k e := fun a e found kind =>
    unwritten' ⟨id, a, e, found, kind⟩
  obtain ⟨⟨m, p, kind⟩, place⟩ := Option.ne_none_iff_exists'.mp bound
  by_cases here : k = id
  · subst here
    have fact : ∀ n₀, r.evidence.get? k = some n₀ → n₀.kind = .fact := by
      intro n₀ found₀
      obtain ⟨n₀', found₀', shapes⟩ := layout.sameShape.back found₁
      rw [found₀] at found₀'
      cases found₀'
      have kinds : n₀.kind = n₁.kind := congrArg (fun s => s.2.1) shapes
      rw [kinds]
      exact (layout.built conforms.built).onlyFactsBound k n₁ found₁ bound
    cases evaluated with
    | off => exact ⟨n₁, found₁, bound, unwritten', notFresh⟩
    | @refresh n₀ src _ found₀ _ _ read =>
        dsimp only at found₁ notFresh
        rw [get?_putNode_found conforms.built.keyed found₀ { n₀ with source := src } rfl] at found₁
        cases found₁
        exact absurd (ValueSource.fresh_of_evaluate read) notFresh
    | assign found₀ _ kind₀ => cases (fact _ found₀).symm.trans kind₀
    | trigger => exact ⟨n₁, found₁, bound, unwritten', notFresh⟩
    | callback => exact ⟨n₁, found₁, bound, unwritten', notFresh⟩
    | decided found₀ _ kind₀ => cases (fact _ found₀).symm.trans kind₀
    | undecided found₀ _ kind₀ => cases (fact _ found₀).symm.trans kind₀
  · -- any other fact and what it reads are as they were
    rw [evaluated.get?_of_ne conforms.built here notTarget] at found₁
    refine ⟨n₁, found₁, bound, unwritten', fun fresh => notFresh (ValueSource.fresh_congr (fun m' p' kind' place' => ?_) fresh)⟩
    exact evaluated.readValue conforms.built (conforms.layout.boundApart apart) found₁ notTarget place'

theorem refresh_stale (conforms : r₀.Conforms r) (noNaN : r₀.ReadsNoNaN) {n : Evidence} {src : ValueSource}
    (found : r.evidence.get? id = some n) (unwritten : ¬ r.Written id)
    (read : n.source.evaluate r.models = .ok (src, true)) :
    r.Stale id ∧ ¬ (r.putNode { n with source := src }).Stale id := by
  refine ⟨?_, ?_⟩
  · cases source : n.source with
    | naked v =>
        rw [source] at read
        cases read
    | bound b =>
        refine ⟨n, found, by rw [source]; simp [ValueSource.place], unwritten, fun fresh => ?_⟩
        -- a fresh fact reading a value equal to itself reports no change
        rw [source] at fresh read
        rw [ValueSource.evaluate_of_fresh fresh (conforms.selfEqual noNaN found source unwritten)] at read
        cases read
  · rintro ⟨n₁, found₁, -, -, notFresh⟩
    rw [get?_putNode_found conforms.built.keyed found { n with source := src } rfl] at found₁
    cases found₁
    exact notFresh (ValueSource.fresh_of_evaluate read)

theorem Evaluated.leads_or_refreshes (conforms : r₀.Conforms r) (noNaN : r₀.ReadsNoNaN)
    (evaluated : r.Evaluated id outcome) :
    (∀ y, ((∃ c ∈ outcome.2.changed, y ∈ r.peersOf c) ∨ y ∈ outcome.2.activations ∨ y ∈ r.dependentsOf id) →
      Relation.TransGen r₀.Leads id y) ∨
    (r.Stale id ∧ ¬ outcome.1.Stale id) := by
  have layout := conforms.layout
  -- the dependents of the node are below it, so the changes and activations decide
  have below (peers : ∀ c ∈ outcome.2.changed, ∀ y ∈ r.peersOf c, Relation.TransGen r₀.Leads id y)
      (activated : ∀ y ∈ outcome.2.activations, Relation.TransGen r₀.Leads id y) :
      ∀ y, ((∃ c ∈ outcome.2.changed, y ∈ r.peersOf c) ∨ y ∈ outcome.2.activations ∨
        y ∈ r.dependentsOf id) → Relation.TransGen r₀.Leads id y := by
    rintro y (⟨c, changed, peer⟩ | activation | dependent)
    · exact peers c changed y peer
    · exact activated y activation
    · exact .single (.inl (.dependent (by rw [← layout.sameShape.dependentsOf]; exact dependent)))
  cases evaluated with
  | off => exact .inl (below (by simp) (by simp))
  | @refresh n src changed found _ _ read =>
      by_cases written : r.Written id
      · -- a fact some assignment sets leads to its peers
        refine .inl (below (fun c member y peer => ?_) (by simp))
        have here : c = id := by
          cases changed <;> simp_all
        subst here
        rw [layout.peersOf] at peer
        exact .single (.inr ⟨layout.written.mp written, peer⟩)
      · cases changed
        · exact .inl (below (by simp) (by simp))
        · exact .inr (refresh_stale conforms noNaN found written read)
  | @assign n t target e _ _ _ changed found _ kind _ _ targetFound =>
      obtain ⟨n₀, found₀, kind₀⟩ := conforms.kind found
      have toTarget : r₀.Edge id target := .target found₀ (kind₀.trans kind)
      have written : r₀.Written target := ⟨id, n₀, e, found₀, kind₀.trans kind⟩
      refine .inl (below (fun c member y peer => ?_) fun y member => ?_)
      · -- the target's peers come after the target
        have here : c = target := by
          cases changed <;> simp_all
        subst here
        rw [layout.peersOf] at peer
        exact .tail (.single (.inl toTarget)) (.inr ⟨written, peer⟩)
      · have here : y = target := by simpa using member
        subst here
        exact .single (.inl toTarget)
  | @trigger n operating found _ kind =>
      obtain ⟨n₀, found₀, kind₀⟩ := conforms.kind found
      refine .inl (below (by simp) fun y member => ?_)
      have here : y = operating := by simpa using member
      subst here
      exact .single (.inl (.operating found₀ (kind₀.trans kind)))
  | callback => exact .inl (below (by simp) (by simp))
  | @decided n body truth src _ changed found _ kind =>
      obtain ⟨n₀, found₀, kind₀⟩ := conforms.kind found
      cases changed
      · exact .inl (below (by simp) (by simp))
      · refine .inl (below (fun c member y peer => ?_) fun y member => ?_)
        · -- a rule has no peers
          have here : c = id := by simpa using member
          subst here
          rw [peersOf_of_not_fact found (by simp [Evidence.isFact, kind])] at peer
          cases peer
        · obtain ⟨clause, inBody, action⟩ := Evidence.mem_clauseEvidence
            (show ({ n with source := src } : Evidence).kind = .rule body from kind) member
          exact .single (.inl (.clause found₀ (kind₀.trans kind) inBody action))
  | undecided => exact .inl (below (by simp) (by simp))

end Step

section Count
variable {r r' : Registry}

theorem staleCount_le (keys : r'.evidence.keys = r.evidence.keys) (fewer : ∀ k, r'.Stale k → r.Stale k) :
    r'.staleCount ≤ r.staleCount := by
  classical
  unfold staleCount
  rw [keys]
  exact Finset.card_le_card (Finset.monotone_filter_right _ fun k _ => fewer k)

theorem staleCount_lt (keys : r'.evidence.keys = r.evidence.keys) (fewer : ∀ k, r'.Stale k → r.Stale k)
    {k : String} (was : r.Stale k) (now : ¬ r'.Stale k) : r'.staleCount < r.staleCount := by
  classical
  have key : k ∈ r.evidence.keys := by
    obtain ⟨n, found, -⟩ := was
    exact IdMap.mem_keys_of_get? found
  unfold staleCount
  rw [keys]
  apply Finset.card_lt_card
  refine (Finset.ssubset_iff_of_subset (Finset.monotone_filter_right _ fun k _ => fewer k)).mpr ⟨k, ?_, ?_⟩
  · exact Finset.mem_filter.mpr ⟨List.mem_toFinset.mpr key, was⟩
  · exact fun member => now (Finset.mem_filter.mp member).2

end Count

/-- Fewer stale facts, or as many and one pending node replaced by nodes lower in the graph. -/
def PassOrder (r₀ : Registry) : Nat × Multiset String → Nat × Multiset String → Prop :=
  Prod.Lex (· < ·) (Relation.CutExpand fun y x => r₀.height r₀.Leads y < r₀.height r₀.Leads x)

theorem passOrder_wf (r₀ : Registry) : WellFounded r₀.PassOrder :=
  WellFounded.prod_lex wellFounded_lt (WellFounded.cutExpand (InvImage.wf (r₀.height r₀.Leads) wellFounded_lt))

end Registry

namespace Scheduler

variable {r₀ : Registry}

noncomputable def measure (s : Scheduler) : Nat × Multiset String :=
  (s.registry.staleCount, s.worklist.pending)

theorem step_descends (apart : r₀.BoundApart) (noNaN : r₀.ReadsNoNaN)
    (acyclic : ∀ x, ¬ Relation.TransGen r₀.Leads x x) {s s' : Scheduler} (conforms : r₀.Conforms s.registry)
    {id : String} {w : Worklist} (popped : s.worklist.pop = (some id, w))
    (stepped : step { s with worklist := w } id = .ok s') :
    r₀.Conforms s'.registry ∧ r₀.PassOrder s'.measure s.measure := by
  obtain ⟨outcome, evaluated, adds⟩ := step_adds (s := { s with worklist := w }) conforms.built stepped
  have conforms' := (conforms.evaluated apart evaluated).switched adds.switched
  have fewer : ∀ k, s'.registry.Stale k → s.registry.Stale k := fun k stale =>
    evaluated.stale apart conforms (adds.switched.stale_iff.mp stale)
  have keys : s'.registry.evidence.keys = s.registry.evidence.keys :=
    conforms'.layout.keys.trans conforms.layout.keys.symm
  refine ⟨conforms', ?_⟩
  rcases evaluated.leads_or_refreshes conforms noNaN with below | ⟨was, now⟩
  · -- the evaluated node leaves, and each node it adds is lower
    obtain ⟨t, grown, added⟩ := adds.added
    have cut : Relation.CutExpand (fun y x => r₀.height r₀.Leads y < r₀.height r₀.Leads x)
        (s'.worklist.pending : Multiset String) s.worklist.pending := by
      refine ⟨t, id, fun y member => ?_, ?_⟩
      · obtain ⟨reason, n, found, -⟩ := added y member
        have key : y ∈ r₀.evidence.keys := conforms'.layout.keys ▸ IdMap.mem_keys_of_get? found
        exact Registry.height_lt acyclic (below y reason) key
      · rw [grown, Worklist.pending_pop popped, add_right_comm]
    rcases (Registry.staleCount_le keys fewer).lt_or_eq with lt | same
    · exact .left _ _ lt
    · unfold measure
      rw [same]
      exact .right _ cut
  · exact .left _ _ (Registry.staleCount_lt keys fewer was fun stale => now (adds.switched.stale_iff.mp stale))

theorem run_ends (apart : r₀.BoundApart) (noNaN : r₀.ReadsNoNaN) (acyclic : ∀ x, ¬ Relation.TransGen r₀.Leads x x)
    (s : Scheduler) (conforms : r₀.Conforms s.registry) : ∃ fuel, (s.run fuel).2 ≠ .exhausted := by
  induction s using (InvImage.wf measure (Registry.passOrder_wf r₀)).induction with
  | _ s ih =>
      cases popped : s.worklist.pop with
      | mk head w =>
          cases head with
          | none => exact ⟨1, by simp [run, popped]⟩
          | some id =>
              cases stepped : step { s with worklist := w } id with
              | error failure => exact ⟨1, by simp [run, popped, stepped]⟩
              | ok s' =>
                  obtain ⟨conforms', lower⟩ := step_descends apart noNaN acyclic conforms popped stepped
                  obtain ⟨fuel, ends⟩ := ih s' lower conforms'
                  exact ⟨fuel + 1, by simpa [run, popped, stepped] using ends⟩

end Scheduler

namespace Registry

/-- A pass ends, finished or failed, after finitely many evaluations, when the dependency graph
with the edges between facts of one model has no cycle, the facts of each model are bound to
paths apart, and no fact reads NaN. -/
theorem runPass_ends {r : Registry} (built : r.Built) (apart : r.BoundApart) (noNaN : r.ReadsNoNaN)
    (acyclic : ∀ x, ¬ Relation.TransGen r.Leads x x) : ∃ fuel, (r.runPass fuel).2 ≠ .exhausted := by
  cases seeded : ({ registry := r } : Scheduler).seed with
  | error failure => exact ⟨0, by simp [runPass, seeded]⟩
  | ok s =>
      have adds := Scheduler.enqueueAll_adds (s := { registry := r }) built seeded
      obtain ⟨fuel, ends⟩ :=
        Scheduler.run_ends apart noNaN acyclic s ((Conforms.refl built).switched adds.switched)
      exact ⟨fuel, by simpa [runPass, seeded] using ends⟩

/-- A chainable rule `c` reading the bound fact `a` and setting `t`, beside a fact `b` of the same
document: the graph climbs and the paths are apart, so a pass ends. -/
theorem guardedAssignment_pass_ends :
    let r : Registry :=
      { evidence := ⟨[
          ("a", Evidence.fact "a" Priority.default (.bound ⟨"m", "/a", .boolean, none⟩)),
          ("b", Evidence.fact "b" Priority.default (.bound ⟨"m", "/b", .text, none⟩)),
          ("c", { id := "c", priority := Priority.default, source := .naked none,
                  kind := .rule ⟨⟨"a", [.identifier "a"], [.identifier "a"], ["a"]⟩, [⟨true, "c-t-0"⟩], true⟩ }),
          ("c-t-0", { id := "c-t-0", priority := Priority.default, source := .naked none,
                      kind := .assignment "t" ⟨"true", [.literal (.boolean true)], [.literal (.boolean true)], []⟩ }),
          ("t", Evidence.fact "t" Priority.default (.naked none))]⟩
        models := ⟨[("m", .object [("a", .bool true), ("b", .string "x")])]⟩
        dependents := ⟨[("a", ["c"])]⟩ }
    r.Built ∧ r.BoundApart ∧ r.ReadsNoNaN ∧ (∀ x, ¬ Relation.TransGen r.Leads x x) ∧
      ∃ fuel, (r.runPass fuel).2 ≠ .exhausted := by
  intro r
  have built : r.Built := Built.of_entries (by decide +kernel) (by decide +kernel) (by decide +kernel)
  have apart : r.BoundApart := boundApart_of_check (by decide +kernel)
  have noNaN : r.ReadsNoNaN := readsNoNaN_of_check (by decide +kernel)
  let height : String → Nat := fun k => if k = "c" then 1 else if k = "c-t-0" then 2 else if k = "t" then 3 else 0
  have edges : r.edgesClimb height = true := by decide +kernel
  have peers : r.peersClimb height = true := by decide +kernel
  have acyclic : ∀ x, ¬ Relation.TransGen r.Leads x x :=
    not_transGen_self_of_climbs height fun _ _ lead => lead.elim (Edge.climbs edges) (PeerEdge.climbs peers)
  exact ⟨built, apart, noNaN, acyclic, runPass_ends built apart noNaN acyclic⟩

end Registry

end RuleEngine
