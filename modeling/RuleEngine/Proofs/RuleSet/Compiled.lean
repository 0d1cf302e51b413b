import RuleEngine.Proofs.RuleSet.AllOrNothing
import RuleEngine.Proofs.RuleSet.Staging
import RuleEngine.Proofs.Engine.Linking

/-! # The registry of a compiled rule set

`RuleSet.Describes rs r` reads off the definitions what the registry holds: the ids, each node,
and the dependents of each id; every compiled rule set's registry is so. -/
set_option autoImplicit false
namespace RuleEngine

/-- What the registry of a rule set holds, read off the definitions. -/
structure RuleSet.Describes (rs : RuleSet) (r : Registry) : Prop where
  ids : r.evidence.keys.Perm rs.ids
  facts : ∀ f ∈ rs.facts, ∃ n, r.evidence.get? f.id = some n ∧ n.kind = .fact ∧ n.priority = f.priority ∧
    f.Describes n.source
  rules : ∀ rd ∈ rs.rules, ∃ n e, r.evidence.get? rd.id = some n ∧ Expression.compile rd.condition = .ok e ∧
    n.kind = .rule ⟨e, rd.clauses, rd.chainable⟩ ∧ n.priority = rd.priority
  actions : ∀ rd ∈ rs.rules, ∀ i (h : i < rd.actions.length),
    ∃ n, r.evidence.get? (actionId rd.id rd.actions[i] i) = some n ∧ rd.actions[i].work.Describes n.kind ∧
      n.priority = rd.actions[i].priority
  dependents : ∀ x, (r.dependentsOf x).Pairwise (· < ·) ∧
    ∀ y, y ∈ r.dependentsOf x ↔ ∃ rd ∈ rs.rules, rd.id = y ∧ rd.chainable = true ∧
      ∃ e, Expression.compile rd.condition = .ok e ∧ x ∈ e.dependencies
  relinked : r.linkChainableRules = r

/-! ## The registry of the staged nodes -/

theorem Evidence.isChainableRule_iff {n : Evidence} :
    n.isChainableRule = true ↔ ∃ body, n.kind = .rule body ∧ body.chainable = true := by
  unfold Evidence.isChainableRule
  split <;> simp_all

theorem Evidence.dependentEvidence_rule {n : Evidence} {body : RuleBody} (kind : n.kind = .rule body) :
    n.dependentEvidence = body.condition.dependencies := by
  simp [Evidence.dependentEvidence, Evidence.expression?, kind]

namespace Registry

theorem withNodes_entries : ∀ (staged : List Evidence) (r : Registry), (staged.map Evidence.id).Nodup →
    (∀ n ∈ staged, n.id ∉ r.evidence.keys) →
      (r.withNodes staged).evidence.entries.Perm (staged.map (fun n => (n.id, n)) ++ r.evidence.entries)
  | [], _, _, _ => List.Perm.refl _
  | n :: rest, r, distinct, fresh => by
    rw [List.map_cons, List.nodup_cons] at distinct
    let r₁ : Registry := { r with evidence := r.evidence.insert n.id n }
    have added : r₁.evidence.entries.Perm ((n.id, n) :: r.evidence.entries) :=
      IdMap.insertSorted_perm n.id n (fresh n (List.mem_cons_self ..))
    have stillFresh : ∀ m ∈ rest, m.id ∉ r₁.evidence.keys := by
      intro m member inserted
      rcases (IdMap.mem_keys_insertSorted n.id m.id n r.evidence.entries).mp inserted with same | old
      · exact distinct.1 (same ▸ List.mem_map_of_mem member)
      · exact fresh m (List.mem_cons_of_mem n member) old
    rw [withNodes_cons]
    refine (withNodes_entries rest r₁ distinct.2 stillFresh).trans ?_
    rw [List.map_cons, List.cons_append]
    exact (added.append_left _).trans List.perm_middle

theorem sorted_withNodes : ∀ (staged : List Evidence) (r : Registry), r.evidence.Sorted →
    (r.withNodes staged).evidence.Sorted
  | [], _, sorted => sorted
  | n :: rest, r, sorted => by
    rw [withNodes_cons]
    exact sorted_withNodes rest _ (IdMap.sorted_insert sorted n.id n)

variable {staged : List Evidence}

theorem get?_withNodes (distinct : (staged.map Evidence.id).Nodup) {k : String} {n : Evidence} :
    (({} : Registry).withNodes staged).evidence.get? k = some n ↔ n ∈ staged ∧ n.id = k := by
  have sorted := sorted_withNodes staged {} List.Pairwise.nil
  have entries := withNodes_entries staged {} distinct fun _ _ => List.not_mem_nil
  rw [List.append_nil] at entries
  constructor
  · intro found
    obtain ⟨m, member, same⟩ := List.mem_map.mp (entries.mem_iff.mp (IdMap.mem_entries_of_get? found))
    obtain ⟨rfl, rfl⟩ := Prod.mk.inj same
    exact ⟨member, rfl⟩
  · rintro ⟨member, rfl⟩
    exact IdMap.get?_of_mem sorted (entries.mem_iff.mpr (List.mem_map_of_mem member))

theorem keys_withNodes (distinct : (staged.map Evidence.id).Nodup) :
    (({} : Registry).withNodes staged).evidence.keys.Perm (staged.map Evidence.id) := by
  have entries := withNodes_entries staged {} distinct fun _ _ => List.not_mem_nil
  rw [List.append_nil] at entries
  simpa [IdMap.keys, Function.comp_def] using entries.map Prod.fst

end Registry

/-! ## Compiling -/

namespace RuleSet

theorem compile_eq_ok {rs : RuleSet} {r : Registry} (compiled : rs.compile = .ok r) :
    ∃ staged, rs.build = .ok staged ∧ (staged.map Evidence.id).Nodup ∧
      r = (({} : Registry).withNodes staged).linkChainableRules := by
  unfold compile at compiled
  rw [loadInto_eq] at compiled
  cases built : rs.build with
  | error e => simp [built] at compiled
  | ok staged =>
    cases taken : firstTaken {} [] (staged.map (·.id)) with
    | some id => simp [built, taken] at compiled
    | none =>
      simp only [built, taken, Except.ok.injEq] at compiled
      exact ⟨staged, rfl, (free_of_firstTaken_eq_none taken).1, compiled.symm⟩

variable {rs : RuleSet} {staged : List Evidence}

theorem build_chainable_reads (built : rs.build = .ok staged) (x y : String) :
    (∃ n ∈ staged, n.isChainableRule = true ∧ x ∈ n.dependentEvidence ∧ n.id = y) ↔
      ∃ rd ∈ rs.rules, rd.id = y ∧ rd.chainable = true ∧
        ∃ e, Expression.compile rd.condition = .ok e ∧ x ∈ e.dependencies := by
  constructor
  · rintro ⟨n, member, chainable, reads, rfl⟩
    obtain ⟨body, kind, bodyChainable⟩ := Evidence.isChainableRule_iff.mp chainable
    obtain ⟨rd, defined, named, -, e, compiled, rfl⟩ := build_kind_rule built member kind
    rw [Evidence.dependentEvidence_rule kind] at reads
    exact ⟨rd, defined, named.symm, bodyChainable, e, compiled, reads⟩
  · rintro ⟨rd, defined, rfl, chainable, e, compiled, reads⟩
    obtain ⟨ns, ruleBuilt, inStaged⟩ := build_rule built defined
    obtain ⟨n, inRule, named, -, e', compiled', kind⟩ := RuleDef.toEvidence_rule ruleBuilt
    obtain rfl : e' = e := Except.ok.inj (compiled'.symm.trans compiled)
    refine ⟨n, inStaged n inRule, Evidence.isChainableRule_iff.mpr ⟨_, kind, chainable⟩, ?_, named⟩
    rw [Evidence.dependentEvidence_rule kind]
    exact reads

/-- The registry a rule set compiles to is the one its definitions describe. -/
theorem compile_describes {r : Registry} (compiled : rs.compile = .ok r) : rs.Describes r := by
  obtain ⟨staged, built, distinct, rfl⟩ := compile_eq_ok compiled
  let loaded : Registry := ({} : Registry).withNodes staged
  have sorted : loaded.evidence.Sorted := Registry.sorted_withNodes staged {} List.Pairwise.nil
  have found : ∀ {k n}, loaded.evidence.get? k = some n ↔ n ∈ staged ∧ n.id = k :=
    Registry.get?_withNodes distinct
  have keyed : loaded.Keyed := fun _ _ located => (found.mp located).2
  have linkedFound : ∀ {k n}, loaded.linkChainableRules.evidence.get? k = some n ↔ n ∈ staged ∧ n.id = k := by
    intro k n
    rw [Registry.evidence_linkChainableRules]
    exact found
  refine ⟨?_, ?_, ?_, ?_, ?_, ?_⟩
  · rw [Registry.evidence_linkChainableRules, ← build_ids built]
    exact Registry.keys_withNodes distinct
  · intro f member
    obtain ⟨n, inStaged, factBuilt⟩ := build_fact built member
    obtain ⟨named, priority, kind, described⟩ := FactDef.toEvidence_ok factBuilt
    exact ⟨n, linkedFound.mpr ⟨inStaged, named⟩, kind, priority, described⟩
  · intro rd member
    obtain ⟨ns, ruleBuilt, inStaged⟩ := build_rule built member
    obtain ⟨n, inRule, named, priority, e, compiledCondition, kind⟩ := RuleDef.toEvidence_rule ruleBuilt
    exact ⟨n, e, linkedFound.mpr ⟨inStaged n inRule, named⟩, compiledCondition, kind, priority⟩
  · intro rd member i h
    obtain ⟨ns, ruleBuilt, inStaged⟩ := build_rule built member
    obtain ⟨n, inRule, named, described, priority⟩ := RuleDef.toEvidence_action ruleBuilt i h
    exact ⟨n, linkedFound.mpr ⟨inStaged n inRule, named⟩, described, priority⟩
  · intro x
    refine ⟨Registry.sorted_dependentsOf_linkChainableRules sorted keyed rfl x, fun y => ?_⟩
    rw [Registry.dependentsOf_linkChainableRules sorted keyed rfl, ← build_chainable_reads built x y]
    simp only [List.mem_map, List.mem_filter, IdMap.mem_values_iff sorted, decide_eq_true_eq]
    constructor
    · rintro ⟨n, ⟨⟨⟨k, located⟩, chainable⟩, reads⟩, named⟩
      exact ⟨n, (found.mp located).1, chainable, reads, named⟩
    · rintro ⟨n, member, chainable, reads, named⟩
      exact ⟨n, ⟨⟨⟨n.id, found.mpr ⟨member, rfl⟩⟩, chainable⟩, reads⟩, named⟩
  · exact Registry.linkChainableRules_linkChainableRules List.Pairwise.nil

/-- Two literals, a bound number, a chainable rule that assigns and calls back, and a rule that
triggers it: the rule set compiles to the registry it describes. -/
theorem orderRules_compile :
    let rs : RuleSet := {
      facts := [
        { id := "f1", value := some (.number (.nat 2)) },
        { id := "name", priority := ⟨10, by decide, by decide⟩, value := some (.string "acme") },
        { id := "total", model := some "order", path := some "/total", kind := some .number }],
      rules := [
        { id := "R1", condition := "f1 < total", chainable := true,
          actions := [{ work := .evaluate "f1" "f1 + 1" },
            { work := .callback "notify", priority := ⟨7, by decide, by decide⟩ }] },
        { id := "R2", condition := "name == \"acme\"", priority := ⟨900, by decide, by decide⟩,
          actions := [{ work := .execute "R1", result := false }] }] }
    ∃ r, rs.compile = .ok r ∧ rs.Describes r := by
  intro rs
  have ok : rs.compile.isOk = true := by decide +kernel
  cases compiled : rs.compile with
  | ok r => exact ⟨r, rfl, compile_describes compiled⟩
  | error e =>
    rw [compiled] at ok
    cases ok

end RuleSet

end RuleEngine
