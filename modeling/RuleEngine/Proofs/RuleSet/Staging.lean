import Mathlib.Data.List.Forall2
import RuleEngine.RuleSet.Basic
import RuleEngine.Proofs.Expression.Tree

/-! # The nodes a rule set stages

Each builder is taken apart once, into what its definition describes, and the staged list as a
whole is read off the definitions (`RuleSet.build_ok`); later proofs never unfold the builders. -/
set_option autoImplicit false
namespace RuleEngine

section Traversal
variable {ε α β : Type}

theorem mapError_eq_ok {δ : Type} {f : ε → δ} {x : Except ε α} {a : α} : x.mapError f = .ok a ↔ x = .ok a := by
  cases x <;> simp [Except.mapError]

theorem forall₂_of_mapM_ok {f : α → Except ε β} :
    ∀ {xs : List α} {ys : List β}, xs.mapM f = .ok ys → List.Forall₂ (fun x y => f x = .ok y) xs ys
  | [], ys, mapped => by
      cases mapped
      exact .nil
  | a :: xs, ys, mapped => by
      rw [List.mapM_cons] at mapped
      obtain ⟨b, first, mapped⟩ := bind_eq_ok.mp mapped
      obtain ⟨bs, rest, built⟩ := bind_eq_ok.mp mapped
      cases built
      exact .cons first (forall₂_of_mapM_ok rest)

variable {γ : Type} {R : α → β → Prop}

theorem exists_of_forall₂_left {xs : List α} {ys : List β} (related : List.Forall₂ R xs ys) :
    ∀ x ∈ xs, ∃ y ∈ ys, R x y := by
  induction related with
  | nil => simp
  | cons head _ ih =>
      rintro x (_ | ⟨_, later⟩)
      · exact ⟨_, List.mem_cons_self .., head⟩
      · obtain ⟨y, member, rel⟩ := ih x later
        exact ⟨y, List.mem_cons_of_mem _ member, rel⟩

theorem exists_of_forall₂_right {xs : List α} {ys : List β} (related : List.Forall₂ R xs ys) :
    ∀ y ∈ ys, ∃ x ∈ xs, R x y :=
  exists_of_forall₂_left (R := flip R) related.flip

theorem map_eq_of_forall₂ {xs : List α} {ys : List β} (related : List.Forall₂ R xs ys) (g : β → γ)
    (h : α → γ) (each : ∀ x y, R x y → g y = h x) : ys.map g = xs.map h := by
  induction related with
  | nil => rfl
  | cons head _ ih => rw [List.map_cons, List.map_cons, each _ _ head, ih]

end Traversal

/-! ## What the definitions describe -/

/-- A fact's value source: bound to its model and path and read as its kind (text by default), or
holding its literal. -/
def FactDef.Describes (f : FactDef) (src : ValueSource) : Prop :=
  (∃ model path, f.model = some model ∧ f.path = some path ∧
      src = .bound { modelId := model, path := path, kind := f.kind.getD .text }) ∨
    (f.model = none ∧ f.path = none ∧ src = .naked (f.value.bind Value.ofJson?))

/-- The node an action's work describes: an assignment of the compiled expression, a trigger, or a
call. -/
def ActionWork.Describes : ActionWork → EvidenceKind → Prop
  | .evaluate target src, kind => ∃ e, Expression.compile src = .ok e ∧ kind = .assignment target e
  | .execute target, kind => kind = .trigger target
  | .callback name, kind => kind = .callback name

theorem ActionWork.Describes.not_rule {w : ActionWork} {kind : EvidenceKind} (described : w.Describes kind)
    (body : RuleBody) : kind ≠ .rule body := by
  cases w with
  | evaluate target src =>
      obtain ⟨e, -, rfl⟩ := described
      exact EvidenceKind.noConfusion
  | execute target => rw [described]; exact EvidenceKind.noConfusion
  | callback name => rw [described]; exact EvidenceKind.noConfusion

def RuleDef.actionIds (rd : RuleDef) : List String := rd.actions.mapIdx fun i a => actionId rd.id a i

/-- The clauses of a rule: per action, in order, the truth it fires on and its generated id. -/
def RuleDef.clauses (rd : RuleDef) : List Clause :=
  rd.actions.mapIdx fun i a => { truth := a.result, action := actionId rd.id a i }

def RuleSet.ids (rs : RuleSet) : List String :=
  rs.facts.map (·.id) ++ rs.rules.flatMap fun rd => rd.actionIds ++ [rd.id]


/-! ## The nodes each definition stages -/

theorem FactDef.toEvidence_ok {f : FactDef} {n : Evidence} (built : f.toEvidence = .ok n) :
    n.id = f.id ∧ n.priority = f.priority ∧ n.kind = .fact ∧ f.Describes n.source := by
  unfold FactDef.toEvidence at built
  split at built
  · rename_i model path bound placed
    split at built
    · cases built
    · cases built
      exact ⟨rfl, rfl, rfl, .inl ⟨model, path, bound, placed, rfl⟩⟩
  · cases built
  · cases built
  · -- a literal fact holds the scalar its value reads as, none when it has no value or null
    rename_i unbound unplaced
    split at built
    · rename_i missing
      cases built
      exact ⟨rfl, rfl, rfl, .inr ⟨unbound, unplaced, by simp [missing, Evidence.fact]⟩⟩
    · rename_i null
      cases built
      exact ⟨rfl, rfl, rfl, .inr ⟨unbound, unplaced, by simp [null, Value.ofJson?, Evidence.fact]⟩⟩
    · rename_i j _ literal
      split at built
      · rename_i v scalar
        cases built
        exact ⟨rfl, rfl, rfl, .inr ⟨unbound, unplaced, by simp [literal, scalar, Evidence.fact]⟩⟩
      · cases built

theorem ActionDef.toEvidence_ok {a : ActionDef} {id : String} {n : Evidence} (built : a.toEvidence id = .ok n) :
    n.id = id ∧ n.priority = a.priority ∧ a.work.Describes n.kind ∧ n.source = .naked none := by
  unfold ActionDef.toEvidence at built
  split at built
  · rename_i target src work
    unfold Evidence.assignment at built
    obtain ⟨e, compiled, built⟩ := bind_eq_ok.mp built
    cases built
    rw [work]
    exact ⟨rfl, rfl, ⟨e, mapError_eq_ok.mp compiled, rfl⟩, rfl⟩
  · rename_i target work
    cases built
    rw [work]
    exact ⟨rfl, rfl, rfl, rfl⟩
  · rename_i name work
    cases built
    rw [work]
    exact ⟨rfl, rfl, rfl, rfl⟩

theorem Evidence.rule_ok {id : String} {p : Priority} {condition : String} {clauses : List Clause}
    {chainable : Bool} {n : Evidence} (built : Evidence.rule id p condition clauses chainable = .ok n) :
    n.id = id ∧ n.priority = p ∧ n.source = .naked none ∧
      ∃ e, Expression.compile condition = .ok e ∧ n.kind = .rule ⟨e, clauses, chainable⟩ := by
  unfold Evidence.rule at built
  dsimp only at built
  -- the two clause checks refuse before the condition is compiled
  split at built
  · obtain ⟨_, refused, _⟩ := bind_eq_ok.mp built
    cases refused
  split at built
  · obtain ⟨_, refused, _⟩ := bind_eq_ok.mp built
    cases refused
  obtain ⟨e, compiled, built⟩ := bind_eq_ok.mp built
  cases built
  exact ⟨rfl, rfl, rfl, e, mapError_eq_ok.mp compiled, rfl⟩

theorem RuleDef.toEvidence_ok {rd : RuleDef} {ns : List Evidence} (built : rd.toEvidence = .ok ns) :
    ∃ actions rule, ns = actions ++ [rule] ∧
      List.Forall₂ (fun (an : ActionDef × Nat) n => an.1.toEvidence (actionId rd.id an.1 an.2) = .ok n)
        rd.actions.zipIdx actions ∧
      Evidence.rule rd.id rd.priority rd.condition rd.clauses rd.chainable = .ok rule := by
  unfold RuleDef.toEvidence at built
  obtain ⟨actions, staged, built⟩ := bind_eq_ok.mp built
  obtain ⟨rule, ruleBuilt, built⟩ := bind_eq_ok.mp built
  cases built
  have clauses : (rd.actions.zipIdx.map fun an =>
      ({ truth := an.1.result, action := actionId rd.id an.1 an.2 } : Clause)) = rd.clauses := by
    rw [RuleDef.clauses, List.mapIdx_eq_zipIdx_map]
  refine ⟨actions, rule, rfl, forall₂_of_mapM_ok staged, ?_⟩
  rw [← clauses]
  exact ruleBuilt

theorem RuleDef.toEvidence_ids {rd : RuleDef} {ns : List Evidence} (built : rd.toEvidence = .ok ns) :
    ns.map Evidence.id = rd.actionIds ++ [rd.id] := by
  obtain ⟨actions, rule, rfl, staged, ruleBuilt⟩ := RuleDef.toEvidence_ok built
  have actionIds : actions.map Evidence.id = rd.actionIds := by
    rw [map_eq_of_forall₂ staged _ (fun an => actionId rd.id an.1 an.2)
      fun _ _ built => (ActionDef.toEvidence_ok built).1, RuleDef.actionIds, List.mapIdx_eq_zipIdx_map]
  simp [actionIds, (Evidence.rule_ok ruleBuilt).1]

theorem RuleDef.toEvidence_rule {rd : RuleDef} {ns : List Evidence} (built : rd.toEvidence = .ok ns) :
    ∃ n ∈ ns, n.id = rd.id ∧ n.priority = rd.priority ∧
      ∃ e, Expression.compile rd.condition = .ok e ∧ n.kind = .rule ⟨e, rd.clauses, rd.chainable⟩ := by
  obtain ⟨actions, rule, rfl, -, ruleBuilt⟩ := RuleDef.toEvidence_ok built
  obtain ⟨named, priority, -, described⟩ := Evidence.rule_ok ruleBuilt
  exact ⟨rule, List.mem_append_right _ (List.mem_singleton_self _), named, priority, described⟩

theorem RuleDef.toEvidence_action {rd : RuleDef} {ns : List Evidence} (built : rd.toEvidence = .ok ns)
    (i : Nat) (h : i < rd.actions.length) :
    ∃ n ∈ ns, n.id = actionId rd.id rd.actions[i] i ∧ rd.actions[i].work.Describes n.kind ∧
      n.priority = rd.actions[i].priority := by
  obtain ⟨actions, rule, rfl, staged, -⟩ := RuleDef.toEvidence_ok built
  have numbered : (rd.actions[i], i) ∈ rd.actions.zipIdx := by
    simp [List.mem_zipIdx_iff_getElem?, List.getElem?_eq_getElem h]
  obtain ⟨n, member, actionBuilt⟩ := exists_of_forall₂_left staged _ numbered
  obtain ⟨named, priority, described, -⟩ := ActionDef.toEvidence_ok actionBuilt
  exact ⟨n, List.mem_append_left _ member, named, described, priority⟩

theorem RuleDef.toEvidence_kind_rule {rd : RuleDef} {ns : List Evidence} (built : rd.toEvidence = .ok ns)
    {n : Evidence} (member : n ∈ ns) {body : RuleBody} (kind : n.kind = .rule body) :
    n.id = rd.id ∧ n.source = .naked none ∧ ∃ e, Expression.compile rd.condition = .ok e ∧ body = ⟨e, rd.clauses, rd.chainable⟩ := by
  obtain ⟨actions, rule, rfl, staged, ruleBuilt⟩ := RuleDef.toEvidence_ok built
  rcases List.mem_append.mp member with action | last
  · -- an action's node is no rule
    obtain ⟨an, -, actionBuilt⟩ := exists_of_forall₂_right staged n action
    exact absurd kind ((ActionDef.toEvidence_ok actionBuilt).2.2.1.not_rule body)
  · obtain rfl := List.mem_singleton.mp last
    obtain ⟨named, -, naked, e, compiled, ruleKind⟩ := Evidence.rule_ok ruleBuilt
    rw [ruleKind] at kind
    exact ⟨named, naked, e, compiled, (EvidenceKind.rule.inj kind).symm⟩

theorem RuleDef.toEvidence_naked {rd : RuleDef} {ns : List Evidence} (built : rd.toEvidence = .ok ns) :
    ∀ n ∈ ns, n.source = .naked none := by
  obtain ⟨actions, rule, rfl, staged, ruleBuilt⟩ := RuleDef.toEvidence_ok built
  intro n member
  rcases List.mem_append.mp member with action | last
  · obtain ⟨an, -, actionBuilt⟩ := exists_of_forall₂_right staged n action
    exact (ActionDef.toEvidence_ok actionBuilt).2.2.2
  · obtain rfl := List.mem_singleton.mp last
    exact (Evidence.rule_ok ruleBuilt).2.2.1

/-! ## The nodes a rule set stages -/

namespace RuleSet

theorem build_ok {rs : RuleSet} {staged : List Evidence} (built : rs.build = .ok staged) :
    ∃ facts rules, staged = facts ++ rules.flatten ∧
      List.Forall₂ (fun f n => f.toEvidence = .ok n) rs.facts facts ∧
      List.Forall₂ (fun rd ns => rd.toEvidence = .ok ns) rs.rules rules := by
  unfold RuleSet.build at built
  obtain ⟨facts, factsBuilt, built⟩ := bind_eq_ok.mp built
  obtain ⟨rules, rulesBuilt, built⟩ := bind_eq_ok.mp built
  cases built
  exact ⟨facts, rules, rfl, forall₂_of_mapM_ok factsBuilt, forall₂_of_mapM_ok rulesBuilt⟩

theorem build_ids {rs : RuleSet} {staged : List Evidence} (built : rs.build = .ok staged) :
    staged.map Evidence.id = rs.ids := by
  obtain ⟨facts, rules, rfl, factsBuilt, rulesBuilt⟩ := build_ok built
  have factIds : facts.map Evidence.id = rs.facts.map (·.id) :=
    map_eq_of_forall₂ factsBuilt _ _ fun _ _ built => (FactDef.toEvidence_ok built).1
  have ruleIds : rules.map (List.map Evidence.id) = rs.rules.map fun rd => rd.actionIds ++ [rd.id] :=
    map_eq_of_forall₂ rulesBuilt _ _ fun _ _ built => RuleDef.toEvidence_ids built
  rw [ids, List.map_append, factIds, List.map_flatten, ruleIds, List.flatMap_def]

theorem build_fact {rs : RuleSet} {staged : List Evidence} (built : rs.build = .ok staged) {f : FactDef}
    (member : f ∈ rs.facts) : ∃ n ∈ staged, f.toEvidence = .ok n := by
  obtain ⟨facts, rules, rfl, factsBuilt, -⟩ := build_ok built
  obtain ⟨n, staged, factBuilt⟩ := exists_of_forall₂_left factsBuilt f member
  exact ⟨n, List.mem_append_left _ staged, factBuilt⟩

theorem build_rule {rs : RuleSet} {staged : List Evidence} (built : rs.build = .ok staged) {rd : RuleDef}
    (member : rd ∈ rs.rules) : ∃ ns, rd.toEvidence = .ok ns ∧ ∀ n ∈ ns, n ∈ staged := by
  obtain ⟨facts, rules, rfl, -, rulesBuilt⟩ := build_ok built
  obtain ⟨ns, staged, ruleBuilt⟩ := exists_of_forall₂_left rulesBuilt rd member
  exact ⟨ns, ruleBuilt, fun n inRule => List.mem_append_right _ (List.mem_flatten.mpr ⟨ns, staged, inRule⟩)⟩

theorem build_kind_rule {rs : RuleSet} {staged : List Evidence} (built : rs.build = .ok staged) {n : Evidence}
    (member : n ∈ staged) {body : RuleBody} (kind : n.kind = .rule body) :
    ∃ rd ∈ rs.rules, n.id = rd.id ∧ n.source = .naked none ∧ ∃ e, Expression.compile rd.condition = .ok e ∧
      body = ⟨e, rd.clauses, rd.chainable⟩ := by
  obtain ⟨facts, rules, rfl, factsBuilt, rulesBuilt⟩ := build_ok built
  rcases List.mem_append.mp member with fact | rule
  · -- a fact's node is no rule
    obtain ⟨f, -, factBuilt⟩ := exists_of_forall₂_right factsBuilt n fact
    rw [(FactDef.toEvidence_ok factBuilt).2.2.1] at kind
    cases kind
  · obtain ⟨ns, staged, inRule⟩ := List.mem_flatten.mp rule
    obtain ⟨rd, defined, ruleBuilt⟩ := exists_of_forall₂_right rulesBuilt ns staged
    exact ⟨rd, defined, RuleDef.toEvidence_kind_rule ruleBuilt inRule kind⟩

end RuleSet

end RuleEngine
