import RuleEngine.Proofs.Engine.Evaluation
import RuleEngine.Proofs.Engine.ChainableRules

/-! # Linking chainable rules

From no dependents, linking makes the dependents of an id exactly the chainable rules that read
it, in id order, and linking a second time changes nothing. -/
set_option autoImplicit false
namespace RuleEngine

/-! ## Inserting into a sorted table -/

namespace IdMap
variable {α : Type}

theorem mem_keys_insertSorted (k x : String) (a : α) :
    ∀ (es : List (String × α)), x ∈ (insertSorted k a es).map (·.1) ↔ x = k ∨ x ∈ es.map (·.1)
  | [] => by simp [insertSorted]
  | (k', b) :: rest => by
    simp only [insertSorted]
    split
    · simp
    · split
      · rename_i same
        subst same
        simp
      · simp only [List.map_cons, List.mem_cons, mem_keys_insertSorted k x a rest]
        tauto

theorem sorted_insertSorted (k : String) (a : α) :
    ∀ {es : List (String × α)}, (es.map (·.1)).Pairwise (· < ·) →
      ((insertSorted k a es).map (·.1)).Pairwise (· < ·)
  | [], _ => by simp [insertSorted]
  | (k', b) :: rest, sorted => by
    simp only [List.map_cons, List.pairwise_cons] at sorted
    obtain ⟨larger, sortedRest⟩ := sorted
    simp only [insertSorted]
    split
    · -- the new id comes first, below `k'` and so below every later id
      rename_i below
      simp only [List.map_cons, List.pairwise_cons, List.mem_cons]
      refine ⟨?_, larger, sortedRest⟩
      rintro x (rfl | later)
      · exact below
      · exact lt_trans below (larger x later)
    · split
      · rename_i same
        subst same
        simp only [List.map_cons, List.pairwise_cons]
        exact ⟨larger, sortedRest⟩
      · -- the new id goes further in, above `k'`
        rename_i notBelow differs
        have above : k' < k := lt_of_le_of_ne (not_lt.mp notBelow) (Ne.symm differs)
        simp only [List.map_cons, List.pairwise_cons]
        refine ⟨fun x member => ?_, sorted_insertSorted k a sortedRest⟩
        rcases (mem_keys_insertSorted k x a rest).mp member with rfl | later
        · exact above
        · exact larger x later

theorem sorted_insert {m : IdMap α} (sorted : m.Sorted) (k : String) (a : α) : (m.insert k a).Sorted :=
  sorted_insertSorted k a sorted

theorem insertSorted_perm (k : String) (a : α) :
    ∀ {es : List (String × α)}, k ∉ es.map (·.1) → (insertSorted k a es).Perm ((k, a) :: es)
  | [], _ => by simp [insertSorted]
  | (k', b) :: rest, absent => by
    simp only [List.map_cons, List.mem_cons, not_or] at absent
    simp only [insertSorted, absent.1, if_false]
    split
    · exact List.Perm.refl _
    · exact ((insertSorted_perm k a absent.2).cons (k', b)).trans (List.Perm.swap _ _ _)

theorem insert_get? {m : IdMap α} (sorted : m.Sorted) {k : String} {a : α} (found : m.get? k = some a) :
    m.insert k a = m := by
  obtain ⟨entries⟩ := m
  have rewritten := insert_of_mem sorted (mem_keys_of_get? found) a
  have same : ∀ e ∈ entries, (if e.1 = k then (k, a) else e) = e := by
    intro e member
    split
    · rename_i here
      have located := get?_of_mem sorted member
      rw [here, found] at located
      rw [← here, Option.some.inj located]
    · rfl
  rw [List.map_congr_left same, List.map_id'] at rewritten
  exact congrArg IdMap.mk rewritten

end IdMap

/-! ## Adding dependents -/

namespace Registry
variable {r : Registry}

theorem dependentsOf_addDependent (d y x : String) :
    (r.addDependent d y).dependentsOf x =
      if x = d ∧ y ∉ r.dependentsOf x then r.dependentsOf x ++ [y] else r.dependentsOf x := by
  by_cases here : x = d
  · subst here
    rw [dependentsOf_addDependent_self]
    by_cases present : y ∈ r.dependentsOf x <;> simp [present]
  · simp only [addDependent, dependentsOf, IdMap.get?_insert_ne _ _ here, here, false_and, if_false]

theorem sorted_addDependent (sorted : r.dependents.Sorted) (d y : String) :
    (r.addDependent d y).dependents.Sorted :=
  IdMap.sorted_insert sorted _ _

theorem addDependent_of_mem (sorted : r.dependents.Sorted) {d y : String} (present : y ∈ r.dependentsOf d) :
    r.addDependent d y = r := by
  cases found : r.dependents.get? d with
  | none => simp [dependentsOf, found] at present
  | some ds =>
    have listed : ds.contains y = true := by simpa [dependentsOf, found] using present
    have unchanged := IdMap.insert_get? sorted found
    simp only [addDependent, dependentsOf, found, Option.getD_some, listed, if_true, unchanged]

theorem dependentsOf_foldl_addDependent (y x : String) :
    ∀ (ds : List String) (r : Registry), (ds.foldl (fun r d => r.addDependent d y) r).dependentsOf x =
      if x ∈ ds ∧ y ∉ r.dependentsOf x then r.dependentsOf x ++ [y] else r.dependentsOf x
  | [], r => by simp
  | d :: rest, r => by
    rw [List.foldl_cons, dependentsOf_foldl_addDependent y x rest, dependentsOf_addDependent]
    by_cases here : x = d
    · subst here
      by_cases present : y ∈ r.dependentsOf x <;> simp [present]
    · simp [here]

/-- The links of the rules `rules`, in order: each id a rule reads, with the rule. -/
def linksOf (rules : List Evidence) : List (String × String) :=
  rules.flatMap fun rule => rule.dependentEvidence.map fun dep => (dep, rule.id)

theorem linkChainableRules_eq (r : Registry) :
    r.linkChainableRules =
      (linksOf (r.evidence.values.filter Evidence.isChainableRule)).foldl
        (fun r (dep, rule) => r.addDependent dep rule) r := rfl

theorem dependentsOf_foldl_linksOf (x : String) :
    ∀ (rules : List Evidence) (r : Registry), (rules.map Evidence.id).Nodup →
      (∀ n ∈ rules, ∀ d, n.id ∉ r.dependentsOf d) →
      ((linksOf rules).foldl (fun r (dep, rule) => r.addDependent dep rule) r).dependentsOf x =
        r.dependentsOf x ++ ((rules.filter fun n => x ∈ n.dependentEvidence).map Evidence.id)
  | [], r, _, _ => by simp [linksOf]
  | n :: rest, r, distinct, fresh => by
    rw [List.map_cons, List.nodup_cons] at distinct
    let r₁ := n.dependentEvidence.foldl (fun r d => r.addDependent d n.id) r
    have first : ∀ d, r₁.dependentsOf d =
        if d ∈ n.dependentEvidence then r.dependentsOf d ++ [n.id] else r.dependentsOf d := by
      intro d
      rw [dependentsOf_foldl_addDependent]
      simp [fresh n (List.mem_cons_self ..) d]
    have stillFresh : ∀ m ∈ rest, ∀ d, m.id ∉ r₁.dependentsOf d := by
      intro m member d listed
      rw [first d] at listed
      have other : m.id ≠ n.id := fun same => distinct.1 (same ▸ List.mem_map_of_mem member)
      have before := fresh m (List.mem_cons_of_mem n member) d
      split at listed <;> simp_all
    have unfolded : (linksOf (n :: rest)).foldl (fun r (dep, rule) => r.addDependent dep rule) r =
        (linksOf rest).foldl (fun r (dep, rule) => r.addDependent dep rule) r₁ := by
      simp only [linksOf, List.flatMap_cons, List.foldl_append, List.foldl_map, r₁]
    rw [unfolded, dependentsOf_foldl_linksOf x rest r₁ distinct.2 stillFresh, first x]
    by_cases reads : x ∈ n.dependentEvidence <;> simp [reads]

theorem values_map_id (sorted : r.evidence.Sorted) (keyed : r.Keyed) :
    r.evidence.values.map Evidence.id = r.evidence.keys := by
  simp only [IdMap.values, IdMap.keys, List.map_map]
  exact List.map_congr_left fun e member => keyed e.1 e.2 (IdMap.get?_of_mem sorted member)

theorem dependentsOf_linkChainableRules (sorted : r.evidence.Sorted) (keyed : r.Keyed)
    (unlinked : r.dependents = {}) (x : String) :
    r.linkChainableRules.dependentsOf x =
      ((r.evidence.values.filter Evidence.isChainableRule).filter fun n => x ∈ n.dependentEvidence).map
        Evidence.id := by
  have noneListed : ∀ d, r.dependentsOf d = [] := fun d => by simp [dependentsOf, unlinked, IdMap.get?]
  have distinct : ((r.evidence.values.filter Evidence.isChainableRule).map Evidence.id).Nodup := by
    have keysDistinct : r.evidence.keys.Nodup := sorted.imp ne_of_lt
    rw [← values_map_id sorted keyed] at keysDistinct
    exact keysDistinct.sublist (List.filter_sublist.map _)
  rw [linkChainableRules_eq, dependentsOf_foldl_linksOf x _ r distinct (fun _ _ d => by simp [noneListed d]),
    noneListed x, List.nil_append]

theorem sorted_dependentsOf_linkChainableRules (sorted : r.evidence.Sorted) (keyed : r.Keyed)
    (unlinked : r.dependents = {}) (x : String) : (r.linkChainableRules.dependentsOf x).Pairwise (· < ·) := by
  rw [dependentsOf_linkChainableRules sorted keyed unlinked]
  have kept : (((r.evidence.values.filter Evidence.isChainableRule).filter fun n => x ∈ n.dependentEvidence).map
      Evidence.id).Sublist r.evidence.keys := by
    rw [← values_map_id sorted keyed]
    exact (List.filter_sublist.trans List.filter_sublist).map _
  exact sorted.sublist kept

theorem sorted_foldl_addDependent :
    ∀ (links : List (String × String)) (r : Registry), r.dependents.Sorted →
      (links.foldl (fun r (dep, rule) => r.addDependent dep rule) r).dependents.Sorted
  | [], _, sorted => sorted
  | (d, y) :: rest, _, sorted => sorted_foldl_addDependent rest _ (sorted_addDependent sorted d y)

theorem foldl_addDependent_of_mem :
    ∀ (links : List (String × String)) (r : Registry), r.dependents.Sorted →
      (∀ l ∈ links, l.2 ∈ r.dependentsOf l.1) → links.foldl (fun r (dep, rule) => r.addDependent dep rule) r = r
  | [], _, _, _ => rfl
  | (d, y) :: rest, r, sorted, listed => by
    rw [List.foldl_cons]
    dsimp only
    rw [addDependent_of_mem sorted (listed (d, y) (List.mem_cons_self ..))]
    exact foldl_addDependent_of_mem rest r sorted fun l member => listed l (List.mem_cons_of_mem _ member)

theorem linkChainableRules_linkChainableRules (sorted : r.dependents.Sorted) :
    r.linkChainableRules.linkChainableRules = r.linkChainableRules := by
  rw [linkChainableRules_eq r.linkChainableRules, evidence_linkChainableRules]
  apply foldl_addDependent_of_mem
  · exact sorted_foldl_addDependent _ r sorted
  · rintro ⟨d, y⟩ member
    exact ((foldl_addDependent _ r).2 d y).mpr (.inr member)

end Registry

end RuleEngine
