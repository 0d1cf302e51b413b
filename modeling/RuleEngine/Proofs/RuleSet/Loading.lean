import RuleEngine.Proofs.RuleSet.Staging
import RuleEngine.Proofs.Engine.Linking
import RuleEngine.Proofs.Expression.ShuntingYard

/-! # Loaded registries are well formed and built

Every staged node lists what it reads and only staged facts are bound to documents, so loading
keeps a registry well formed and built, and links it: the assumptions under which a finished pass
leaves every chainable rule agreeing with the registry. -/
set_option autoImplicit false
namespace RuleEngine

theorem Expression.compile_reads {src : String} {e : Expression} (compiled : Expression.compile src = .ok e) :
    ∀ x, Token.identifier x ∈ e.program → x ∈ e.dependencies := by
  unfold Expression.compile at compiled
  obtain ⟨tokens, -, compiled⟩ := bind_eq_ok.mp compiled
  obtain ⟨program, converted, compiled⟩ := bind_eq_ok.mp compiled
  obtain ⟨-, -, built⟩ := bind_eq_ok.mp compiled
  cases built
  intro x member
  exact mem_identifiersOf.mpr (toPostfix_mem converted _ member)

namespace Evidence

theorem listsReads_of_not_rule {n : Evidence} (notRule : ∀ body, n.kind ≠ .rule body) : n.listsReads = true := by
  unfold listsReads
  split
  · rename_i body kind
    exact absurd kind (notRule body)
  · rfl

theorem listsReads_of_compiled {n : Evidence} {src : String} {e : Expression} {clauses : List Clause}
    {chainable : Bool} (kind : n.kind = .rule ⟨e, clauses, chainable⟩) (naked : n.source = .naked none)
    (compiled : Expression.compile src = .ok e) : n.listsReads = true := by
  simp only [listsReads, kind, naked, ValueSource.modelId?, Option.isNone_none, Bool.true_and, Bool.or_eq_true,
    Bool.not_eq_true', List.all_eq_true, List.contains_iff_mem]
  exact .inr fun x member => Expression.compile_reads compiled x (mem_identifiersOf.mp member)

end Evidence

theorem RuleSet.build_listsReads {rs : RuleSet} {staged : List Evidence} (built : rs.build = .ok staged) :
    ∀ n ∈ staged, n.listsReads = true := by
  intro n member
  by_cases isRule : ∃ body, n.kind = .rule body
  · obtain ⟨body, kind⟩ := isRule
    obtain ⟨rd, -, -, naked, e, compiled, rfl⟩ := RuleSet.build_kind_rule built member kind
    exact Evidence.listsReads_of_compiled kind naked compiled
  · exact Evidence.listsReads_of_not_rule fun body kind => isRule ⟨body, kind⟩

theorem RuleSet.build_factsBound {rs : RuleSet} {staged : List Evidence} (built : rs.build = .ok staged) :
    ∀ n ∈ staged, n.source.place ≠ none → n.kind = .fact := by
  obtain ⟨facts, rules, rfl, factsBuilt, rulesBuilt⟩ := RuleSet.build_ok built
  intro n member bound
  rcases List.mem_append.mp member with fact | rule
  · obtain ⟨f, -, factBuilt⟩ := exists_of_forall₂_right factsBuilt n fact
    exact (FactDef.toEvidence_ok factBuilt).2.2.1
  · obtain ⟨ns, staged, inRule⟩ := List.mem_flatten.mp rule
    obtain ⟨rd, -, ruleBuilt⟩ := exists_of_forall₂_right rulesBuilt ns staged
    rw [RuleDef.toEvidence_naked ruleBuilt n inRule] at bound
    exact absurd rfl bound


/-! ## Loading -/

namespace Registry

section Adding
variable {r r' : Registry}

theorem addEvidence_eq_ok {n : Evidence} (added : r.addEvidence n = .ok r') :
    r' = { r with evidence := r.evidence.insert n.id n } := by
  unfold addEvidence at added
  split at added
  · cases added
  · cases added
    rfl

theorem get?_addEvidence {n : Evidence} (added : r.addEvidence n = .ok r') {k : String} {m : Evidence}
    (found : r'.evidence.get? k = some m) : (k = n.id ∧ m = n) ∨ r.evidence.get? k = some m := by
  rw [addEvidence_eq_ok added] at found
  by_cases here : k = n.id
  · subst here
    rw [IdMap.get?_insert_self] at found
    exact .inl ⟨rfl, (Option.some.inj found).symm⟩
  · rw [IdMap.get?_insert_ne _ _ here] at found
    exact .inr found

theorem foldlM_addEvidence_keeps {P : Registry → Prop} {Q : Evidence → Prop}
    (step : ∀ {r r' : Registry} {n : Evidence}, P r → Q n → r.addEvidence n = .ok r' → P r') :
    ∀ {staged : List Evidence} {r r' : Registry}, P r → (∀ n ∈ staged, Q n) →
      staged.foldlM Registry.addEvidence r = .ok r' → P r'
  | [], _, _, holds, _, added => by
      cases added
      exact holds
  | n :: rest, _, _, holds, each, added => by
      rw [List.foldlM_cons] at added
      obtain ⟨r₁, first, added⟩ := bind_eq_ok.mp added
      exact foldlM_addEvidence_keeps step (step holds (each n (List.mem_cons_self ..)) first)
        (fun m member => each m (List.mem_cons_of_mem n member)) added

theorem Keyed.addEvidence (keyed : r.Keyed) {n : Evidence} (added : r.addEvidence n = .ok r') : r'.Keyed := by
  intro k m found
  rcases get?_addEvidence added found with ⟨rfl, rfl⟩ | old
  · rfl
  · exact keyed k m old

theorem WellFormed.addEvidence (wellFormed : r.WellFormed) {n : Evidence} (listed : n.listsReads = true)
    (added : r.addEvidence n = .ok r') : r'.WellFormed := by
  refine ⟨wellFormed.1.addEvidence added, fun k m found => ?_⟩
  rcases get?_addEvidence added found with ⟨-, rfl⟩ | old
  · exact listed
  · exact wellFormed.2 k m old

theorem Built.of_evidence (built : r.Built) (same : r'.evidence = r.evidence) : r'.Built := by
  obtain ⟨sorted, keyed, factsBound⟩ := built
  refine ⟨?_, fun k n found => ?_, fun k n found => ?_⟩
  · rw [same]
    exact sorted
  · rw [same] at found
    exact keyed k n found
  · rw [same] at found
    exact factsBound k n found

theorem Built.addEvidence (built : r.Built) {n : Evidence} (factBound : n.source.place ≠ none → n.kind = .fact)
    (added : r.addEvidence n = .ok r') : r'.Built := by
  refine ⟨?_, built.keyed.addEvidence added, fun k m found bound => ?_⟩
  · rw [addEvidence_eq_ok added]
    exact IdMap.sorted_insert built.sorted n.id n
  · rcases get?_addEvidence added found with ⟨-, rfl⟩ | old
    · exact factBound bound
    · exact built.onlyFactsBound k m old bound

theorem addModel_eq_ok {id : String} {doc : Json} (added : r.addModel id doc = .ok r') :
    r' = { r with models := r.models.insert id doc } := by
  unfold addModel at added
  split at added
  · cases added
  · cases added
    rfl

theorem foldlM_addModel_keeps : ∀ {models : List (String × Json)} {r r' : Registry},
    models.foldlM (fun r (id, doc) => r.addModel id doc) r = .ok r' →
      r'.evidence = r.evidence ∧ r'.dependents = r.dependents
  | [], _, _, added => by
      cases added
      exact ⟨rfl, rfl⟩
  | (id, doc) :: rest, _, _, added => by
      rw [List.foldlM_cons] at added
      obtain ⟨r₁, first, added⟩ := bind_eq_ok.mp added
      obtain ⟨evidence, dependents⟩ := foldlM_addModel_keeps added
      rw [addModel_eq_ok first] at evidence dependents
      exact ⟨evidence, dependents⟩

theorem sameShape_foldlM_addModel {models : List (String × Json)}
    (added : models.foldlM (fun r (id, doc) => r.addModel id doc) r = .ok r') : r.SameShape r' := by
  obtain ⟨evidence, dependents⟩ := foldlM_addModel_keeps added
  exact ⟨dependents, fun k => by rw [evidence]⟩

end Adding

theorem wellFormed_empty : ({} : Registry).WellFormed :=
  ⟨fun _ _ found => (nomatch found), fun _ _ found => (nomatch found)⟩

theorem Built.empty : ({} : Registry).Built :=
  ⟨List.Pairwise.nil, fun _ _ found => (nomatch found), fun _ _ found => (nomatch found)⟩

end Registry

theorem RuleSet.loadInto_ok {rs : RuleSet} {r r' : Registry} (loaded : rs.loadInto r = .ok r') :
    ∃ staged r₁, rs.build = .ok staged ∧ staged.foldlM Registry.addEvidence r = .ok r₁ ∧
      r' = r₁.linkChainableRules := by
  unfold RuleSet.loadInto at loaded
  obtain ⟨staged, built, loaded⟩ := bind_eq_ok.mp loaded
  split at loaded
  · obtain ⟨_, refused, _⟩ := bind_eq_ok.mp loaded
    cases refused
  · obtain ⟨r₁, added, linked⟩ := bind_eq_ok.mp loaded
    cases linked
    exact ⟨staged, r₁, built, added, rfl⟩

theorem RuleSet.loadInto_wellFormed {rs : RuleSet} {r r' : Registry} (wellFormed : r.WellFormed)
    (loaded : rs.loadInto r = .ok r') : r'.WellFormed ∧ r'.Linked := by
  obtain ⟨staged, r₁, built, added, rfl⟩ := RuleSet.loadInto_ok loaded
  have wellFormed₁ : r₁.WellFormed := Registry.foldlM_addEvidence_keeps
    (fun wellFormed listed added => wellFormed.addEvidence listed added) wellFormed (RuleSet.build_listsReads built) added
  exact ⟨wellFormed₁.linkChainableRules, Registry.linked_linkChainableRules wellFormed₁.1⟩

theorem RuleSet.loadInto_built {rs : RuleSet} {r r' : Registry} (built : r.Built)
    (loaded : rs.loadInto r = .ok r') : r'.Built := by
  obtain ⟨staged, r₁, staging, added, rfl⟩ := RuleSet.loadInto_ok loaded
  have built₁ : r₁.Built := Registry.foldlM_addEvidence_keeps
    (fun built factBound added => built.addEvidence factBound added) built (RuleSet.build_factsBound staging) added
  exact built₁.of_evidence Registry.evidence_linkChainableRules

/-- A compiled rule set, with any models added afterwards, is well formed and linked. -/
theorem RuleSet.compile_addModels_wellFormed {rs : RuleSet} {r r' : Registry}
    (compiled : rs.compile = .ok r) (models : List (String × Json))
    (added : models.foldlM (fun r (id, doc) => r.addModel id doc) r = .ok r') :
    r'.WellFormed ∧ r'.Linked := by
  obtain ⟨wellFormed, linked⟩ := RuleSet.loadInto_wellFormed Registry.wellFormed_empty compiled
  have same := Registry.sameShape_foldlM_addModel added
  exact ⟨wellFormed.of_sameShape same, linked.of_sameShape same⟩

/-- A compiled rule set, with any models added afterwards, is built: its nodes sorted by id, each
under its own id, and only its facts bound to documents. -/
theorem RuleSet.compile_addModels_built {rs : RuleSet} {r r' : Registry}
    (compiled : rs.compile = .ok r) (models : List (String × Json))
    (added : models.foldlM (fun r (id, doc) => r.addModel id doc) r = .ok r') : r'.Built :=
  (RuleSet.loadInto_built Registry.Built.empty compiled).of_evidence (Registry.foldlM_addModel_keeps added).1

end RuleEngine
