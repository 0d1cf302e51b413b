import RuleEngine.Proofs.RuleSet.Loading

/-! # Loading a rule set adds all of its nodes or none

Loading checks every staged id before it adds a node, and a node whose id is free is always added,
so loading in place ends as the pure loading does or fails before its first write. -/
set_option autoImplicit false
namespace RuleEngine

namespace IdMap
variable {α : Type}

theorem contains_eq_isSome_get? (m : IdMap α) (k : String) : m.contains k = (m.get? k).isSome := by
  simp only [contains, get?, Option.isSome_map, List.isSome_find?]

theorem contains_insert (m : IdMap α) (k x : String) (a : α) :
    (m.insert k a).contains x = (x == k || m.contains x) := by
  rw [contains_eq_isSome_get?, contains_eq_isSome_get?]
  by_cases same : x = k
  · subst same
    simp [get?_insert_self]
  · simp [get?_insert_ne _ _ same, same]

end IdMap

/-! ## The check on staged ids -/

namespace RuleSet

theorem firstTaken_eq_none_iff {r : Registry} :
    ∀ {seen ids : List String}, firstTaken r seen ids = none ↔
      ids.Nodup ∧ ∀ id ∈ ids, r.contains id = false ∧ id ∉ seen
  | seen, [] => by simp [firstTaken]
  | seen, id :: rest => by
    rw [firstTaken]
    by_cases taken : (r.contains id || seen.contains id) = true
    · -- the first id is taken by the registry or was seen before
      rw [if_pos taken]
      simp only [reduceCtorEq, false_iff, not_and]
      intro _ fresh
      have first := fresh id (List.mem_cons_self ..)
      simp only [Bool.or_eq_true, List.contains_iff_mem] at taken
      rcases taken with registered | seenBefore
      · rw [first.1] at registered
        cases registered
      · exact first.2 seenBefore
    · rw [if_neg taken, firstTaken_eq_none_iff]
      simp only [Bool.or_eq_true, not_or, Bool.not_eq_true] at taken
      have notSeen : id ∉ seen := by simpa using taken.2
      constructor
      · rintro ⟨distinct, fresh⟩
        refine ⟨List.nodup_cons.mpr ⟨fun later => (fresh id later).2 (List.mem_cons_self ..), distinct⟩, ?_⟩
        intro x member
        rcases List.mem_cons.mp member with rfl | later
        · exact ⟨taken.1, notSeen⟩
        · exact ⟨(fresh x later).1, fun before => (fresh x later).2 (List.mem_cons_of_mem _ before)⟩
      · rintro ⟨distinct, fresh⟩
        obtain ⟨notLater, distinct⟩ := List.nodup_cons.mp distinct
        refine ⟨distinct, fun x later => ⟨(fresh x (List.mem_cons_of_mem _ later)).1, ?_⟩⟩
        -- an id seen now is the first one, which is not repeated later, or one seen before
        intro seenNow
        rcases List.mem_cons.mp seenNow with rfl | before
        · exact notLater later
        · exact (fresh x (List.mem_cons_of_mem _ later)).2 before

end RuleSet

/-! ## Adding nodes whose ids are free -/

namespace Registry

/-- The registry with the nodes added under their ids, in order. -/
def withNodes (r : Registry) (staged : List Evidence) : Registry :=
  { r with evidence := staged.foldl (fun m n => m.insert n.id n) r.evidence }

@[simp] theorem withNodes_nil (r : Registry) : r.withNodes [] = r := rfl

theorem withNodes_cons (r : Registry) (n : Evidence) (staged : List Evidence) :
    r.withNodes (n :: staged) = ({ r with evidence := r.evidence.insert n.id n } : Registry).withNodes staged := rfl

theorem addEvidence_of_fresh {r : Registry} {n : Evidence} (fresh : r.contains n.id = false) :
    r.addEvidence n = .ok { r with evidence := r.evidence.insert n.id n } := by
  simp [addEvidence, show r.evidence.contains n.id = false from fresh]

theorem fresh_after_insert {r : Registry} {n : Evidence} {rest : List Evidence} (distinct : n.id ∉ rest.map Evidence.id)
    (fresh : ∀ m ∈ rest, r.contains m.id = false) :
    ∀ m ∈ rest, ({ r with evidence := r.evidence.insert n.id n } : Registry).contains m.id = false := by
  intro m member
  have other : m.id ≠ n.id := fun same => distinct (same ▸ List.mem_map_of_mem member)
  have absent : r.evidence.contains m.id = false := fresh m member
  simp [contains, IdMap.contains_insert, other, absent]

theorem foldlM_addEvidence_of_fresh : ∀ {staged : List Evidence} {r : Registry},
    (staged.map Evidence.id).Nodup → (∀ n ∈ staged, r.contains n.id = false) →
      staged.foldlM Registry.addEvidence r = .ok (r.withNodes staged)
  | [], r, _, _ => rfl
  | n :: rest, r, distinct, fresh => by
    rw [List.map_cons, List.nodup_cons] at distinct
    have stillFresh := fresh_after_insert distinct.1 fun m member => fresh m (List.mem_cons_of_mem n member)
    rw [List.foldlM_cons, addEvidence_of_fresh (fresh n (List.mem_cons_self ..)), ok_bind, withNodes_cons]
    exact foldlM_addEvidence_of_fresh distinct.2 stillFresh

theorem forM_addInPlace_of_fresh : ∀ {staged : List Evidence} {r : Registry},
    (staged.map Evidence.id).Nodup → (∀ n ∈ staged, r.contains n.id = false) →
      (forM staged Registry.addInPlace).run r = .ok () (r.withNodes staged)
  | [], r, _, _ => rfl
  | n :: rest, r, distinct, fresh => by
    rw [List.map_cons, List.nodup_cons] at distinct
    have stillFresh := fresh_after_insert distinct.1 fun m member => fresh m (List.mem_cons_of_mem n member)
    have added : (addInPlace n).run r = .ok () { r with evidence := r.evidence.insert n.id n } := by
      simp [addInPlace, addEvidence_of_fresh (fresh n (List.mem_cons_self ..))]
    rw [List.forM_cons, EStateM.run_bind, added, withNodes_cons]
    exact forM_addInPlace_of_fresh distinct.2 stillFresh

end Registry

/-! ## Building fails on a definition, never on an id -/

theorem bind_eq_error {ε α β : Type} {x : Except ε α} {f : α → Except ε β} {e : ε} :
    x >>= f = .error e ↔ x = .error e ∨ ∃ a, x = .ok a ∧ f a = .error e := by
  cases x <;> simp

/-- The errors of building: an unreadable fact, a rule that cannot be built, an expression that does
not compile. -/
def EngineError.IsBuildError : EngineError → Prop
  | .invalidRuleset _ | .invalidRule _ _ | .expression _ => True
  | _ => False

theorem mapM_error_of_forall {α β : Type} {f : α → Except EngineError β} {P : EngineError → Prop}
    (each : ∀ a e, f a = .error e → P e) : ∀ {xs : List α} {e : EngineError}, xs.mapM f = .error e → P e
  | [], _, failed => by cases failed
  | a :: rest, e, failed => by
    rw [List.mapM_cons] at failed
    rcases bind_eq_error.mp failed with first | ⟨_, -, failed⟩
    · exact each a e first
    rcases bind_eq_error.mp failed with others | ⟨_, -, failed⟩
    · exact mapM_error_of_forall each others
    · cases failed

theorem FactDef.toEvidence_error {f : FactDef} {e : EngineError} (failed : f.toEvidence = .error e) :
    e.IsBuildError := by
  unfold FactDef.toEvidence at failed
  repeat' split at failed
  all_goals cases failed
  all_goals trivial

theorem compile_mapError_error {src : String} {e : EngineError}
    (failed : (Expression.compile src).mapError EngineError.expression = .error e) : e.IsBuildError := by
  cases compiled : Expression.compile src <;> simp [compiled, Except.mapError] at failed
  rw [← failed]
  trivial

theorem ActionDef.toEvidence_error {a : ActionDef} {id : String} {e : EngineError}
    (failed : a.toEvidence id = .error e) : e.IsBuildError := by
  unfold ActionDef.toEvidence at failed
  split at failed
  · -- only an assignment compiles an expression
    unfold Evidence.assignment at failed
    rcases bind_eq_error.mp failed with refused | ⟨_, -, failed⟩
    · exact compile_mapError_error refused
    · cases failed
  all_goals cases failed

theorem Evidence.rule_error {id : String} {p : Priority} {condition : String} {clauses : List Clause}
    {chainable : Bool} {e : EngineError} (failed : Evidence.rule id p condition clauses chainable = .error e) :
    e.IsBuildError := by
  unfold Evidence.rule at failed
  dsimp only at failed
  split at failed
  · rcases bind_eq_error.mp failed with refused | ⟨_, refused, _⟩ <;> cases refused
    trivial
  split at failed
  · rcases bind_eq_error.mp failed with refused | ⟨_, refused, _⟩ <;> cases refused
    trivial
  rcases bind_eq_error.mp failed with refused | ⟨_, -, built⟩
  · exact compile_mapError_error refused
  · cases built

theorem RuleDef.toEvidence_error {rd : RuleDef} {e : EngineError} (failed : rd.toEvidence = .error e) :
    e.IsBuildError := by
  unfold RuleDef.toEvidence at failed
  dsimp only at failed
  rcases bind_eq_error.mp failed with actions | ⟨_, -, failed⟩
  · exact mapM_error_of_forall (fun _ _ refused => ActionDef.toEvidence_error refused) actions
  rcases bind_eq_error.mp failed with rule | ⟨_, -, failed⟩
  · exact Evidence.rule_error rule
  · cases failed

theorem RuleSet.build_error {rs : RuleSet} {e : EngineError} (failed : rs.build = .error e) : e.IsBuildError := by
  unfold RuleSet.build at failed
  rcases bind_eq_error.mp failed with facts | ⟨_, -, failed⟩
  · exact mapM_error_of_forall (fun _ _ refused => FactDef.toEvidence_error refused) facts
  rcases bind_eq_error.mp failed with rules | ⟨_, -, failed⟩
  · exact mapM_error_of_forall (fun _ _ refused => RuleDef.toEvidence_error refused) rules
  · cases failed

/-! ## Loading -/

namespace RuleSet

theorem free_of_firstTaken_eq_none {r : Registry} {staged : List Evidence}
    (taken : firstTaken r [] (staged.map (·.id)) = none) :
    (staged.map Evidence.id).Nodup ∧ ∀ n ∈ staged, r.contains n.id = false := by
  obtain ⟨distinct, fresh⟩ := firstTaken_eq_none_iff.mp taken
  exact ⟨distinct, fun n member => (fresh n.id (List.mem_map_of_mem member)).1⟩

theorem loadInto_eq (rs : RuleSet) (r : Registry) :
    rs.loadInto r = match rs.build with
      | .error e => .error e
      | .ok staged => match firstTaken r [] (staged.map (·.id)) with
        | some id => .error (.duplicateEvidence id)
        | none => .ok (r.withNodes staged).linkChainableRules := by
  unfold loadInto
  cases rs.build with
  | error e => rfl
  | ok staged =>
    cases taken : firstTaken r [] (staged.map (·.id)) with
    | some id =>
      simp only [ok_bind, taken]
      rfl
    | none =>
      obtain ⟨distinct, free⟩ := free_of_firstTaken_eq_none taken
      simp [taken, Registry.foldlM_addEvidence_of_fresh distinct free]

theorem loadInPlace_run (rs : RuleSet) (r : Registry) :
    rs.loadInPlace.run r = match rs.loadInto r with
      | .ok r' => .ok () r'
      | .error e => .error e r := by
  rw [loadInto_eq]
  unfold loadInPlace
  cases rs.build with
  | error e => rfl
  | ok staged =>
    cases taken : firstTaken r [] (staged.map (·.id)) with
    | some id => simp [taken]
    | none =>
      obtain ⟨distinct, free⟩ := free_of_firstTaken_eq_none taken
      simp [taken, Registry.forM_addInPlace_of_fresh distinct free]

theorem loadInPlace_built {rs : RuleSet} {r : Registry} (built : r.Built) :
    match rs.loadInPlace.run r with
    | .ok _ r' => r'.Built
    | .error _ r' => r'.Built := by
  rw [loadInPlace_run]
  cases loaded : rs.loadInto r with
  | ok r' => exact loadInto_built built loaded
  | error e => exact built

theorem firstTaken_isSome_iff {r : Registry} {staged : List Evidence} :
    (firstTaken r [] (staged.map (·.id))).isSome ↔
      ¬ (staged.map Evidence.id).Nodup ∨ ∃ n ∈ staged, r.contains n.id = true := by
  rw [Option.isSome_iff_ne_none, ne_eq, firstTaken_eq_none_iff]
  simp only [List.mem_map, List.not_mem_nil, not_false_eq_true, and_true, forall_exists_index, and_imp,
    forall_apply_eq_imp_iff₂, not_and, not_forall, Bool.not_eq_false]
  tauto

theorem loadInto_eq_ok {rs : RuleSet} {r r' : Registry} (loaded : rs.loadInto r = .ok r') :
    ∃ staged, rs.build = .ok staged ∧ r' = (r.withNodes staged).linkChainableRules := by
  rw [loadInto_eq] at loaded
  cases built : rs.build with
  | error e => simp [built] at loaded
  | ok staged =>
    cases taken : firstTaken r [] (staged.map (·.id)) with
    | some id => simp [built, taken] at loaded
    | none =>
      simp only [built, taken, Except.ok.injEq] at loaded
      exact ⟨staged, rfl, loaded.symm⟩

theorem loadInto_duplicate_iff {rs : RuleSet} {r : Registry} :
    (∃ id, rs.loadInto r = .error (.duplicateEvidence id)) ↔
      ∃ staged, rs.build = .ok staged ∧
        (¬ (staged.map Evidence.id).Nodup ∨ ∃ n ∈ staged, r.contains n.id = true) := by
  rw [loadInto_eq]
  cases built : rs.build with
  | error e =>
    -- building fails on a definition, never on an id
    have notDuplicate : ∀ id, e ≠ .duplicateEvidence id := by
      rintro id rfl
      exact build_error built
    simpa using notDuplicate
  | ok staged =>
    simp only [Except.ok.injEq, exists_eq_left']
    rw [← firstTaken_isSome_iff]
    cases firstTaken r [] (staged.map (·.id)) <;> simp

/-- Loading adds all of a rule set's nodes or none, and fails on a duplicate id exactly when two
staged nodes, or a staged and a registered one, share it. -/
theorem loading_is_all_or_nothing (rs : RuleSet) (r : Registry) :
    rs.loadInPlace.run r = (match rs.loadInto r with
      | .ok r' => .ok () r'
      | .error e => .error e r) ∧
    (∀ r', rs.loadInto r = .ok r' →
      ∃ staged, rs.build = .ok staged ∧ r' = (r.withNodes staged).linkChainableRules) ∧
    ((∃ id, rs.loadInto r = .error (.duplicateEvidence id)) ↔
      ∃ staged, rs.build = .ok staged ∧
        (¬ (staged.map Evidence.id).Nodup ∨ ∃ n ∈ staged, r.contains n.id = true)) :=
  ⟨loadInPlace_run rs r, fun _ loaded => loadInto_eq_ok loaded, loadInto_duplicate_iff⟩

/-- Generated ids take part: rule `a-b` on `c` and rule `a` on `b-c` both stage `a-b-c-0`. -/
example : RuleSet.compile { rules := [
    { id := "a-b", condition := "true", actions := [{ work := .evaluate "c" "true" }] },
    { id := "a", condition := "true", actions := [{ work := .evaluate "b-c" "true" }] }] } =
    .error (.duplicateEvidence "a-b-c-0") := by
  decide +kernel

end RuleSet

end RuleEngine
