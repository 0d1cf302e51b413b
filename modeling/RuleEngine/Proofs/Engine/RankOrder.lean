import Mathlib.Algebra.Order.Ring.Int
import RuleEngine.Proofs.Engine.Scheduling

/-! # The order of a pass

A node's rank is its priority scaled by a thousand per class before its own, so classes do not
mix; throughout a pass ranks stay and entries carry them (`Scheduler.RanksKept`), and every fact is
pending or evaluated (`Scheduler.FactsCovered`). -/
set_option autoImplicit false
namespace RuleEngine

/-! ## Classes and ranks -/

namespace Evidence

/-- The class of a node in a pass: facts, then actions, then plain rules, then chainable rules. -/
def level (n : Evidence) : Nat :=
  match n.kind with
  | .fact => 0
  | .assignment .. | .trigger _ | .callback _ => 1
  | .rule body => if body.chainable then 3 else 2

theorem rank_eq (n : Evidence) : n.rank = n.priority.value * 1000 ^ n.level := by
  rcases n with ⟨id, p, on, src, kind⟩
  cases kind with
  | rule body => cases chainable : body.chainable <;> simp [rank, level, chainable]
  | _ => simp [rank, level]

theorem level_eq_zero_iff (n : Evidence) : n.level = 0 ↔ n.isFact = true := by
  rcases n with ⟨id, p, on, src, kind⟩
  cases kind with
  | rule body => cases chainable : body.chainable <;> simp [level, isFact, chainable]
  | _ => simp [level, isFact]

theorem rank_mem_range (n : Evidence) : 1000 ^ n.level ≤ n.rank ∧ n.rank ≤ 999 * 1000 ^ n.level := by
  have positive : (0 : Int) ≤ 1000 ^ n.level := pow_nonneg (by decide) _
  rw [rank_eq]
  exact ⟨le_mul_of_one_le_left positive n.priority.lower, mul_le_mul_of_nonneg_right n.priority.upper positive⟩

theorem rank_lt_of_level_lt {a b : Evidence} (earlier : a.level < b.level) : a.rank < b.rank := by
  have gap : (999 : Int) * 1000 ^ a.level < 1000 ^ b.level :=
    calc (999 : Int) * 1000 ^ a.level < 1000 * 1000 ^ a.level := by
          have : (0 : Int) < 1000 ^ a.level := pow_pos (by decide) _
          omega
      _ = 1000 ^ (a.level + 1) := (pow_succ' 1000 a.level).symm
      _ ≤ 1000 ^ b.level := pow_le_pow_right₀ (by decide) earlier
  calc a.rank ≤ 999 * 1000 ^ a.level := (rank_mem_range a).2
    _ < 1000 ^ b.level := gap
    _ ≤ b.rank := (rank_mem_range b).1

end Evidence

namespace Worklist

theorem mem_heap_push {w : Worklist} {id : String} {rank : Int} {f : Entry}
    (member : f ∈ (w.push id rank).1.heap) : f ∈ w.heap ∨ f.id = id ∧ f.rank = rank := by
  cases present : w.contains id
  · rw [(push_of_not_contains present rank).2.1] at member
    rcases List.mem_cons.mp member with rfl | old
    · exact .inr ⟨rfl, rfl⟩
    · exact .inl old
  · rw [push_of_contains present] at member
    exact .inl member

end Worklist

/-! ## Ranks through a pass -/

namespace Registry
variable {r r' : Registry}

def rankOf (r : Registry) (k : String) : Option Int := (r.evidence.get? k).map Evidence.rank

theorem rankOf_putNode {n old : Evidence} (found : r.evidence.get? n.id = some old) (same : n.rank = old.rank) :
    (r.putNode n).rankOf = r.rankOf := by
  funext k
  by_cases here : k = n.id
  · subst here
    simp [rankOf, get?_putNode_self, found, same]
  · simp [rankOf, get?_putNode_ne r n here]

theorem rankOf_putNode_source (keyed : r.Keyed) {k : String} {n : Evidence} (found : r.evidence.get? k = some n)
    (src : ValueSource) : (r.putNode { n with source := src }).rankOf = r.rankOf :=
  rankOf_putNode (show r.evidence.get? n.id = some n by rw [keyed k n found]; exact found) rfl

theorem Evaluated.rankOf (keyed : r.Keyed) {id : String} {outcome : Registry × Step}
    (evaluated : r.Evaluated id outcome) : outcome.1.rankOf = r.rankOf := by
  cases evaluated with
  | off => rfl
  | refresh found => exact rankOf_putNode_source keyed found _
  | assign _ _ _ _ _ targetFound => exact rankOf_putNode_source keyed targetFound _
  | trigger => rfl
  | callback => rfl
  | decided found => exact rankOf_putNode_source keyed found _
  | undecided found => exact rankOf_putNode_source keyed found _

theorem Switched.rankOf (switched : r.Switched r') : r'.rankOf = r.rankOf := by
  funext k
  cases found : r.evidence.get? k with
  | none =>
      cases found' : r'.evidence.get? k with
      | none => simp [Registry.rankOf, found, found']
      | some n' =>
          obtain ⟨n, back, -⟩ := switched.back found'
          rw [found] at back
          cases back
  | some n =>
      rcases switched.nodes k n found with same | on
      · simp [Registry.rankOf, found, same]
      · simp only [Registry.rankOf, found, on, Option.map_some]
        rfl

end Registry

/-! ## The scheduling half of a step -/

namespace Scheduler
variable {s s' s'' : Scheduler}

/-- One move of scheduling: a node is scheduled, or only counts and events are added. -/
def SchedulesOne (s s' : Scheduler) : Prop :=
  (∃ id added, s.enqueue id = .ok (s', added)) ∨
    (s'.registry = s.registry ∧ s'.worklist = s.worklist ∧ ∀ ev ∈ s.trace, ev ∈ s'.trace)

def Schedules : Scheduler → Scheduler → Prop := Relation.ReflTransGen SchedulesOne

theorem Schedules.refl (s : Scheduler) : s.Schedules s := Relation.ReflTransGen.refl

theorem Schedules.trans (first : s.Schedules s') (second : s'.Schedules s'') : s.Schedules s'' :=
  Relation.ReflTransGen.trans first second

theorem Schedules.head_keep (later : s'.Schedules s'') (registry : s'.registry = s.registry)
    (worklist : s'.worklist = s.worklist) (trace : ∀ ev ∈ s.trace, ev ∈ s'.trace) : s.Schedules s'' :=
  .head (.inr ⟨registry, worklist, trace⟩) later

theorem enqueue_trace {id : String} {added : Bool} (queued : s.enqueue id = .ok (s', added)) :
    s'.trace = s.trace := by
  unfold enqueue at queued
  obtain ⟨n, -, queued⟩ := bind_eq_ok.mp queued
  cases queued
  rfl

theorem enqueueAll_schedules {ids : List String} (queued : s.enqueueAll ids = .ok s') : s.Schedules s' := by
  induction ids generalizing s with
  | nil =>
      cases queued
      exact .refl _
  | cons id rest ih =>
      simp only [enqueueAll] at queued
      split at queued
      · rename_i s₁ added first
        exact .head (.inl ⟨id, added, first⟩) (ih queued)
      · cases queued

theorem afterChanges_schedules {changed : List String} (handled : s.afterChanges changed = .ok s') :
    s.Schedules s' := by
  induction changed generalizing s with
  | nil =>
      cases handled
      exact .refl _
  | cons c rest ih =>
      simp only [afterChanges] at handled
      split at handled
      · cases handled
      · split at handled
        · rename_i s₁ peers
          exact Schedules.head_keep ((enqueueAll_schedules peers).trans (ih handled)) rfl rfl
            fun _ member => Array.mem_push_of_mem _ member
        · cases handled

theorem afterActivations_schedules {source : String} {activations : List String}
    (handled : s.afterActivations source activations = .ok s') : s.Schedules s' := by
  induction activations generalizing s with
  | nil =>
      cases handled
      exact .refl _
  | cons t rest ih =>
      simp only [afterActivations] at handled
      split at handled
      · rename_i s₁ added first
        exact Schedules.head_keep (.head (.inl ⟨t, added, first⟩) (ih handled)) rfl rfl
          fun _ member => Array.mem_push_of_mem _ member
      · cases handled

theorem afterCallbacks_schedules (s : Scheduler) (action : String) (names : List String) :
    s.Schedules (s.afterCallbacks action names) := by
  induction names generalizing s with
  | nil => exact .refl _
  | cons name rest ih =>
      exact Schedules.head_keep (ih _) rfl rfl fun _ member => Array.mem_push_of_mem _ member

theorem step_schedules {id : String} (stepped : s.step id = .ok s') :
    ∃ outcome, s.registry.evaluateEvidence id = .ok outcome ∧
      ({ s with registry := outcome.1 }.record (.evaluated id)).Schedules s' := by
  unfold step at stepped
  split at stepped
  · cases stepped
  · rename_i r st evaluated
    obtain ⟨s₂, changes, stepped⟩ := bind_eq_ok.mp stepped
    obtain ⟨s₃, activations, stepped⟩ := bind_eq_ok.mp stepped
    exact ⟨(r, st), evaluated, Schedules.head_keep
      ((afterChanges_schedules changes).trans ((afterActivations_schedules activations).trans
        ((afterCallbacks_schedules s₃ id st.callbacks).trans (enqueueAll_schedules stepped))))
      rfl rfl fun _ member => member⟩

theorem Schedules.pending {x : String} (scheduled : s.Schedules s') (pending : x ∈ s.worklist.pending) :
    x ∈ s'.worklist.pending := by
  induction scheduled with
  | refl => exact pending
  | tail _ one ih =>
      rcases one with ⟨id, added, queued⟩ | ⟨-, worklist, -⟩
      · obtain ⟨n, -, -, worklist⟩ := enqueue_ok queued
        rw [worklist, Worklist.mem_pending_push]
        exact .inr ih
      · rw [worklist]
        exact ih

theorem Schedules.trace {ev : TraceEvent} (scheduled : s.Schedules s') (recorded : ev ∈ s.trace) :
    ev ∈ s'.trace := by
  induction scheduled with
  | refl => exact recorded
  | tail _ one ih =>
      rcases one with ⟨id, added, queued⟩ | ⟨-, -, trace⟩
      · rw [enqueue_trace queued]
        exact ih
      · exact trace ev ih

/-! ## Ranks stay, and entries carry them -/

/-- Throughout a pass over `r₀`: built, ranks as in `r₀`, and every pending entry carrying its
node's rank. -/
structure RanksKept (r₀ : Registry) (s : Scheduler) : Prop where
  built : s.registry.Built
  ranks : s.registry.rankOf = r₀.rankOf
  entries : ∀ e ∈ s.worklist.heap, r₀.rankOf e.id = some e.rank

section RanksKept
variable {r₀ : Registry}

theorem RanksKept.enqueue (kept : s.RanksKept r₀) {id : String} {added : Bool}
    (queued : s.enqueue id = .ok (s', added)) : s'.RanksKept r₀ := by
  obtain ⟨n, found, registry, worklist⟩ := enqueue_ok queued
  have switched := Registry.switched_putNode kept.built found
  refine ⟨by rw [registry]; exact switched.layout.built kept.built,
    by rw [registry, switched.rankOf, kept.ranks], fun e member => ?_⟩
  rw [worklist] at member
  rcases Worklist.mem_heap_push member with old | ⟨named, ranked⟩
  · exact kept.entries e old
  · rw [named, ranked, ← kept.ranks]
    simp [Registry.rankOf, found]

theorem Schedules.ranksKept (scheduled : s.Schedules s') (kept : s.RanksKept r₀) : s'.RanksKept r₀ := by
  induction scheduled with
  | refl => exact kept
  | tail _ one ih =>
      rcases one with ⟨id, added, queued⟩ | ⟨registry, worklist, -⟩
      · exact ih.enqueue queued
      · obtain ⟨built, ranks, entries⟩ := ih
        exact ⟨registry ▸ built, registry ▸ ranks, worklist ▸ entries⟩

theorem RanksKept.step (kept : s.RanksKept r₀) {id : String} {w : Worklist}
    (popped : s.worklist.pop = (some id, w)) (stepped : step { s with worklist := w } id = .ok s') :
    s'.RanksKept r₀ := by
  obtain ⟨outcome, evaluated, scheduled⟩ := step_schedules stepped
  have evaluated' := Registry.evaluateEvidence_evaluated evaluated
  obtain ⟨e, -, -, heap, -⟩ := Worklist.pop_least popped
  refine scheduled.ranksKept ⟨(evaluated'.sameLayout kept.built).built kept.built, ?_, fun f member => ?_⟩
  · show outcome.1.rankOf = r₀.rankOf
    rw [evaluated'.rankOf kept.built.keyed, kept.ranks]
  · have remaining : f ∈ w.heap := member
    rw [heap] at remaining
    exact kept.entries f (List.mem_of_mem_erase remaining)

theorem RanksKept.pop_least (kept : s.RanksKept r₀) {id : String} {w : Worklist}
    (popped : s.worklist.pop = (some id, w)) :
    ∃ e ∈ s.worklist.heap, e.id = id ∧ ∀ f ∈ s.worklist.heap,
      r₀.rankOf f.id = some f.rank ∧ (e.rank < f.rank ∨ e.rank = f.rank ∧ e.seq ≤ f.seq) := by
  obtain ⟨e, member, named, -, least⟩ := Worklist.pop_least popped
  exact ⟨e, member, named, fun f other => ⟨kept.entries f other, least f other⟩⟩

theorem RanksKept.level_le (kept : s.RanksKept r₀) {id x : String} {w : Worklist}
    (popped : s.worklist.pop = (some id, w)) {n nx : Evidence} (found : r₀.evidence.get? id = some n)
    (pending : x ∈ s.worklist.pending) (foundX : r₀.evidence.get? x = some nx) : n.level ≤ nx.level := by
  obtain ⟨e, member, named, least⟩ := kept.pop_least popped
  obtain ⟨f, memberF, rfl⟩ := List.mem_map.mp ((Worklist.mem_pending _ _).mp pending)
  have rankE : n.rank = e.rank := by
    have carried := kept.entries e member
    rw [named] at carried
    simpa [Registry.rankOf, found] using carried
  have rankF : nx.rank = f.rank := by
    simpa [Registry.rankOf, foundX] using (least f memberF).1
  by_contra later
  have lower := Evidence.rank_lt_of_level_lt (Nat.lt_of_not_le later)
  rcases (least f memberF).2 with below | ⟨same, -⟩ <;> omega

end RanksKept

/-! ## Facts first -/

def FactsCovered (r₀ : Registry) (s : Scheduler) : Prop :=
  ∀ k n, r₀.evidence.get? k = some n → n.isFact = true → k ∈ s.worklist.pending ∨ .evaluated k ∈ s.trace

section FactsCovered
variable {r₀ : Registry}

theorem FactsCovered.step (covered : s.FactsCovered r₀) {id : String} {w : Worklist}
    (popped : s.worklist.pop = (some id, w)) (stepped : step { s with worklist := w } id = .ok s') :
    s'.FactsCovered r₀ := by
  obtain ⟨outcome, -, scheduled⟩ := step_schedules stepped
  intro k n found fact
  rcases covered k n found fact with pending | done
  · rw [Worklist.pending_of_pop_some popped] at pending
    rcases List.mem_cons.mp pending with rfl | later
    · exact .inr (scheduled.trace Array.mem_push_self)
    · exact .inl (scheduled.pending later)
  · exact .inr (scheduled.trace (Array.mem_push_of_mem _ done))

theorem FactsCovered.evaluated (covered : s.FactsCovered r₀) (kept : s.RanksKept r₀) {id : String}
    {w : Worklist} (popped : s.worklist.pop = (some id, w)) {n : Evidence} (found : r₀.evidence.get? id = some n)
    (notFact : n.isFact = false) {k : String} {f : Evidence} (foundK : r₀.evidence.get? k = some f)
    (fact : f.isFact = true) : .evaluated k ∈ s.trace := by
  rcases covered k f foundK fact with pending | done
  · have first : n.level ≤ f.level := kept.level_le popped found pending foundK
    have factLevel : f.level = 0 := (Evidence.level_eq_zero_iff f).mpr fact
    have isFact : n.isFact = true := (Evidence.level_eq_zero_iff n).mp (by omega)
    rw [notFact] at isFact
    cases isFact
  · exact done

end FactsCovered

end Scheduler

/-! ## The states of a pass -/

namespace Registry

/-- The states of a pass over `r`: the seeded scheduler, and each step from one of them. -/
inductive PassState (r : Registry) : Scheduler → Prop
  | seeded {s : Scheduler} : ({ registry := r } : Scheduler).seed = .ok s → PassState r s
  | stepped {s s' : Scheduler} {w : Worklist} {id : String} : PassState r s → s.worklist.pop = (some id, w) →
      Scheduler.step { s with worklist := w } id = .ok s' → PassState r s'

variable {r : Registry} {s : Scheduler}

theorem mem_seeds_of_fact (keyed : r.Keyed) {k : String} {n : Evidence} (found : r.evidence.get? k = some n)
    (fact : n.isFact = true) : k ∈ r.seeds := by
  have member : n ∈ r.evidence.values := IdMap.mem_values_of_get? found
  simp only [seeds, List.mem_map, List.mem_filter, Bool.or_eq_true]
  exact ⟨n, ⟨member, .inl fact⟩, keyed k n found⟩

theorem PassState.ranksKept (built : r.Built) (reached : r.PassState s) : s.RanksKept r := by
  induction reached with
  | seeded seeded =>
      unfold Scheduler.seed at seeded
      exact (Scheduler.enqueueAll_schedules seeded).ranksKept ⟨built, rfl, fun e member => by cases member⟩
  | stepped _ popped stepped kept => exact kept.step popped stepped

theorem PassState.factsCovered (built : r.Built) (reached : r.PassState s) : s.FactsCovered r := by
  induction reached with
  | seeded seeded =>
      unfold Scheduler.seed at seeded
      have queued := (Scheduler.enqueueAll_grows (by exact built.keyed) seeded).2
      exact fun k n found fact => .inl (queued k (mem_seeds_of_fact built.keyed found fact))
  | stepped _ popped stepped covered => exact covered.step popped stepped

theorem PassState.run_finished : ∀ {fuel : Nat} {s s' : Scheduler}, r.PassState s → s.run fuel = (s', .finished) →
    r.PassState s' ∧ s'.worklist.pending = []
  | 0, s, s', reached, finished => by
      simp only [Scheduler.run] at finished
      split at finished
      · rename_i empty
        cases finished
        exact ⟨reached, Worklist.pending_of_isEmpty empty⟩
      · cases finished
  | fuel + 1, s, s', reached, finished => by
      simp only [Scheduler.run] at finished
      split at finished
      · rename_i w popped
        cases finished
        exact ⟨reached, Worklist.pending_of_pop_none popped⟩
      · rename_i id w popped
        split at finished
        · rename_i s₁ stepped
          exact run_finished (.stepped reached popped stepped) finished
        · cases finished

theorem PassState.of_finished {fuel : Nat} (finished : r.runPass fuel = (s, .finished)) :
    r.PassState s ∧ s.worklist.pending = [] := by
  unfold runPass at finished
  split at finished
  · rename_i s₀ seeded
    exact PassState.run_finished (.seeded seeded) finished
  · cases finished

end Registry

/-- Ranks lie in their classes' ranges; in every state of a pass over a built registry the node
popped next is the least pending by rank and push number, no node of an earlier class is pending,
and a non-fact comes after every fact. -/
theorem pass_pops_in_rank_order {r : Registry} (built : r.Built) :
    (∀ n : Evidence, 1000 ^ n.level ≤ n.rank ∧ n.rank ≤ 999 * 1000 ^ n.level) ∧
    ∀ s, r.PassState s → s.registry.rankOf = r.rankOf ∧
      ∀ id w, s.worklist.pop = (some id, w) →
        (∃ e ∈ s.worklist.heap, e.id = id ∧ ∀ f ∈ s.worklist.heap,
          r.rankOf f.id = some f.rank ∧ (e.rank < f.rank ∨ e.rank = f.rank ∧ e.seq ≤ f.seq)) ∧
        ∀ n, r.evidence.get? id = some n →
          (∀ x nx, x ∈ s.worklist.pending → r.evidence.get? x = some nx → n.level ≤ nx.level) ∧
          (n.isFact = false → ∀ k f, r.evidence.get? k = some f → f.isFact = true →
            TraceEvent.evaluated k ∈ s.trace) := by
  refine ⟨Evidence.rank_mem_range, fun s reached => ?_⟩
  have kept := reached.ranksKept built
  have covered := reached.factsCovered built
  refine ⟨kept.ranks, fun id w popped => ⟨kept.pop_least popped, fun n found => ⟨?_, ?_⟩⟩⟩
  · intro x nx pending foundX
    exact kept.level_le popped found pending foundX
  · intro notFact k f foundK fact
    exact covered.evaluated kept popped found notFact foundK fact

/-- A trigger registered before two facts, a plain rule and a chainable rule: the registry is built,
so every pass over it goes in rank order. -/
theorem mixedRegistry_pops_in_rank_order :
    let r : Registry := { evidence := ⟨[
      ("a", Evidence.trigger "a" ⟨1, by decide, by decide⟩ "p"),
      ("f", Evidence.literal "f" ⟨999, by decide, by decide⟩ (.boolean true)),
      ("g", Evidence.literal "g" ⟨500, by decide, by decide⟩ (.text "x")),
      ("p", { id := "p", priority := ⟨1, by decide, by decide⟩, source := .naked none,
              kind := .rule ⟨⟨"f", [.identifier "f"], [.identifier "f"], ["f"]⟩, [⟨true, "a"⟩], false⟩ }),
      ("z", { id := "z", priority := ⟨1, by decide, by decide⟩, source := .naked none,
              kind := .rule ⟨⟨"g", [.identifier "g"], [.identifier "g"], ["g"]⟩, [⟨true, "a"⟩], true⟩ })]⟩ }
    r.Built ∧
    (∀ n : Evidence, 1000 ^ n.level ≤ n.rank ∧ n.rank ≤ 999 * 1000 ^ n.level) ∧
    ∀ s, r.PassState s → s.registry.rankOf = r.rankOf ∧
      ∀ id w, s.worklist.pop = (some id, w) →
        (∃ e ∈ s.worklist.heap, e.id = id ∧ ∀ f ∈ s.worklist.heap,
          r.rankOf f.id = some f.rank ∧ (e.rank < f.rank ∨ e.rank = f.rank ∧ e.seq ≤ f.seq)) ∧
        ∀ n, r.evidence.get? id = some n →
          (∀ x nx, x ∈ s.worklist.pending → r.evidence.get? x = some nx → n.level ≤ nx.level) ∧
          (n.isFact = false → ∀ k f, r.evidence.get? k = some f → f.isFact = true →
            TraceEvent.evaluated k ∈ s.trace) := by
  intro r
  have built : r.Built := Registry.Built.of_entries (by decide +kernel) (by decide +kernel) (by decide +kernel)
  exact ⟨built, pass_pops_in_rank_order built⟩

end RuleEngine
