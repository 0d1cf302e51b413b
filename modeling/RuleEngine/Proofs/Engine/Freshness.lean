import RuleEngine.Proofs.Engine.RankOrder
import RuleEngine.Proofs.Engine.Readings

/-! # Facts hold what their documents hold

When the facts of each model are bound to paths apart, every node that is not fresh is pending
throughout a pass (`Scheduler.Refreshing`), so a pass that finishes leaves every fact fresh. Two
facts bound to one path break this: a write that leaves the written fact's cache as it was
schedules nothing. -/
set_option autoImplicit false
namespace RuleEngine

namespace ValueSource

/-- Whether reading again gives the source back. -/
def freshCheck (src : ValueSource) (models : IdMap Json) : Bool :=
  match src.evaluate models with
  | .ok (src', _) => src' == src
  | .error _ => false

instance (src : ValueSource) (models : IdMap Json) : Decidable (src.Fresh models) :=
  decidable_of_iff (src.freshCheck models = true) <| by
    unfold freshCheck Fresh
    cases src.evaluate models with
    | error e => simp
    | ok result =>
        obtain ⟨src', changed⟩ := result
        simp only [beq_iff_eq, Except.ok.injEq, Prod.mk.injEq]
        exact ⟨fun same => ⟨changed, same, rfl⟩, fun ⟨_, same, _⟩ => same⟩

theorem fresh_of_place_none {src : ValueSource} (naked : src.place = none) (models : IdMap Json) :
    src.Fresh models := by
  cases src with
  | naked v => exact ⟨false, rfl⟩
  | bound b => simp [place] at naked

end ValueSource

namespace Registry

section Evaluated
variable {r : Registry} {id : String} {outcome : Registry × Step}

theorem evaluatable_putNode_source (keyed : r.Keyed) {j : String} {n₀ : Evidence} (found₀ : r.evidence.get? j = some n₀)
    (src : ValueSource) {k : String} {n' : Evidence}
    (found' : (r.putNode { n₀ with source := src }).evidence.get? k = some n') :
    ∃ n, r.evidence.get? k = some n ∧ n'.evaluatable = n.evaluatable ∧ n'.kind = n.kind := by
  by_cases here : k = j
  · subst here
    rw [get?_putNode_found keyed found₀ { n₀ with source := src } rfl] at found'
    cases found'
    exact ⟨n₀, found₀, rfl, rfl⟩
  · have named : n₀.id = j := keyed j n₀ found₀
    rw [get?_putNode_ne _ _ (by rw [named]; exact here)] at found'
    exact ⟨n', found', rfl, rfl⟩

theorem Evaluated.evaluatable (keyed : r.Keyed) (evaluated : r.Evaluated id outcome) {k : String} {n' : Evidence}
    (found' : outcome.1.evidence.get? k = some n') :
    ∃ n, r.evidence.get? k = some n ∧ n'.evaluatable = n.evaluatable ∧ n'.kind = n.kind := by
  cases evaluated with
  | off => exact ⟨n', found', rfl, rfl⟩
  | refresh found₀ => exact evaluatable_putNode_source keyed found₀ _ found'
  | assign _ _ _ _ _ targetFound => exact evaluatable_putNode_source keyed targetFound _ found'
  | trigger => exact ⟨n', found', rfl, rfl⟩
  | callback => exact ⟨n', found', rfl, rfl⟩
  | decided found₀ => exact evaluatable_putNode_source keyed found₀ _ found'
  | undecided found₀ => exact evaluatable_putNode_source keyed found₀ _ found'

theorem Evaluated.fresh_self (built : r.Built) (evaluated : r.Evaluated id outcome) {n : Evidence}
    (found : r.evidence.get? id = some n) (on : n.evaluatable = true) (fact : n.kind = .fact) {n' : Evidence}
    (found' : outcome.1.evidence.get? id = some n') : n'.source.Fresh outcome.1.models := by
  have same : ∀ n₀, r.evidence.get? id = some n₀ → n₀ = n := fun n₀ found₀ =>
    Option.some.inj (found₀.symm.trans found)
  cases evaluated with
  | off found₀ switch => cases on.symm.trans ((same _ found₀) ▸ switch)
  | @refresh n₀ src _ found₀ _ _ read =>
      rw [get?_putNode_found built.keyed found₀ { n₀ with source := src } rfl] at found'
      cases found'
      exact ValueSource.fresh_of_evaluate read
  | assign found₀ _ kind₀ => cases fact.symm.trans ((same _ found₀) ▸ kind₀)
  | trigger found₀ _ kind₀ => cases fact.symm.trans ((same _ found₀) ▸ kind₀)
  | callback found₀ _ kind₀ => cases fact.symm.trans ((same _ found₀) ▸ kind₀)
  | decided found₀ _ kind₀ => cases fact.symm.trans ((same _ found₀) ▸ kind₀)
  | undecided found₀ _ kind₀ => cases fact.symm.trans ((same _ found₀) ▸ kind₀)

theorem Evaluated.activates_target (evaluated : r.Evaluated id outcome) {a : Evidence} {k : String} {e : Expression}
    (found : r.evidence.get? id = some a) (assigns : a.kind = .assignment k e) : k ∈ outcome.2.activations := by
  have same : ∀ n₀, r.evidence.get? id = some n₀ → n₀ = a := fun n₀ found₀ =>
    Option.some.inj (found₀.symm.trans found)
  cases evaluated with
  | assign found₀ _ kind₀ =>
      cases assigns.symm.trans ((same _ found₀) ▸ kind₀)
      exact List.mem_singleton_self k
  | off found₀ _ kind₀ => cases assigns.symm.trans ((same _ found₀) ▸ kind₀)
  | refresh found₀ _ kind₀ => cases assigns.symm.trans ((same _ found₀) ▸ kind₀)
  | trigger found₀ _ kind₀ => cases assigns.symm.trans ((same _ found₀) ▸ kind₀)
  | callback found₀ _ kind₀ => cases assigns.symm.trans ((same _ found₀) ▸ kind₀)
  | decided found₀ _ kind₀ => cases assigns.symm.trans ((same _ found₀) ▸ kind₀)
  | undecided found₀ _ kind₀ => cases assigns.symm.trans ((same _ found₀) ▸ kind₀)

theorem Evaluated.activated_or_stale (built : r.Built) (apart : r.BoundApart) (evaluated : r.Evaluated id outcome)
    (on : ∀ n, r.evidence.get? id = some n → n.evaluatable = true) {k : String} {n' : Evidence}
    (found' : outcome.1.evidence.get? k = some n') (stale : ¬ n'.source.Fresh outcome.1.models) :
    k ∈ outcome.2.activations ∨ k ≠ id ∧ ∃ n, r.evidence.get? k = some n ∧ ¬ n.source.Fresh r.models := by
  have layout := evaluated.sameLayout built
  obtain ⟨⟨m, p, kind⟩, place'⟩ := Option.ne_none_iff_exists'.mp fun naked =>
    stale (ValueSource.fresh_of_place_none naked _)
  obtain ⟨n, found, shapes⟩ := layout.sameShape.back found'
  have place : n.source.place = some (m, p, kind) := (congrArg (fun s => s.2.2) shapes).trans place'
  by_cases here : k = id
  · subst here
    have fact : n.kind = .fact := built.onlyFactsBound k n found (by rw [place]; simp)
    exact absurd (evaluated.fresh_self built found (on n found) fact found') stale
  · by_cases notTarget : ∀ a e, r.evidence.get? id = some a → a.kind ≠ .assignment k e
    · -- the node is as it was, and its document holds at its path what it held
      rw [evaluated.get?_of_ne built here notTarget, found] at found'
      have same : n = n' := Option.some.inj found'
      rw [← same] at stale
      refine .inr ⟨here, n, found, fun fresh => stale (ValueSource.fresh_congr (fun m' p' kind' place'' => ?_) fresh)⟩
      exact evaluated.readValue built apart found notTarget place''
    · -- the evaluated node is an assignment to it, which activates it
      obtain ⟨a, e, foundA, kindA⟩ : ∃ a e, r.evidence.get? id = some a ∧ a.kind = .assignment k e := by
        simpa using notTarget
      exact .inl (evaluated.activates_target foundA kindA)

end Evaluated

theorem Switched.evaluatable {r r' : Registry} (switched : r.Switched r') {k : String} {n' : Evidence}
    (found' : r'.evidence.get? k = some n') (on : ∀ n, r.evidence.get? k = some n → n.evaluatable = true) :
    n'.evaluatable = true := by
  obtain ⟨n, found, -⟩ := switched.layout.sameShape.back found'
  obtain ⟨n'', found'', -, -, stays⟩ := switched.get? found
  rw [found'] at found''
  cases found''
  exact stays (on n found)

end Registry

namespace Scheduler

def PendingOn (s : Scheduler) : Prop :=
  ∀ y ∈ s.worklist.pending, ∀ n, s.registry.evidence.get? y = some n → n.evaluatable = true

section Schedules
variable {s s' : Scheduler}

theorem Schedules.switched (built : s.registry.Built) (scheduled : s.Schedules s') :
    s.registry.Switched s'.registry := by
  induction scheduled with
  | refl => exact Registry.Switched.refl _
  | tail _ one ih =>
      rcases one with ⟨id, added, queued⟩ | ⟨registry, -, -⟩
      · obtain ⟨n, found, registry, -⟩ := enqueue_ok queued
        rw [registry]
        exact ih.trans (Registry.switched_putNode (ih.layout.built built) found)
      · rw [registry]
        exact ih

theorem Schedules.pendingOn (built : s.registry.Built) (scheduled : s.Schedules s') (on : s.PendingOn) :
    s'.PendingOn := by
  induction scheduled with
  | refl => exact on
  | @tail s₁ s₂ earlier one ih =>
      rcases one with ⟨id, added, queued⟩ | ⟨registry, worklist, -⟩
      · obtain ⟨n, found, registry, worklist⟩ := enqueue_ok queued
        have built₁ : s₁.registry.Built := (Schedules.switched built earlier).layout.built built
        have keyed : n.id = id := built₁.keyed id n found
        intro y member n₂ found₂
        rw [worklist, Worklist.mem_pending_push] at member
        rw [registry] at found₂
        rcases member with rfl | older
        · -- the node just scheduled is switched on
          rw [← keyed, Registry.get?_putNode_self] at found₂
          cases found₂
          rfl
        · exact (Registry.switched_putNode built₁ found).evaluatable found₂ (ih y older)
      · intro y member n₂ found₂
        rw [registry] at found₂
        rw [worklist] at member
        exact ih y member n₂ found₂

end Schedules

/-- Throughout a pass: the registry built with facts bound apart, pending nodes switched on, stale
nodes pending. -/
structure Refreshing (s : Scheduler) : Prop where
  built : s.registry.Built
  apart : s.registry.BoundApart
  on : s.PendingOn
  stale : ∀ k n, s.registry.evidence.get? k = some n → ¬ n.source.Fresh s.registry.models →
    k ∈ s.worklist.pending

section Refreshing
variable {s s' : Scheduler}

theorem seed_refreshing {r : Registry} (built : r.Built) (apart : r.BoundApart)
    (seeded : ({ registry := r } : Scheduler).seed = .ok s) : s.Refreshing := by
  unfold seed at seeded
  have scheduled := enqueueAll_schedules seeded
  have switched : r.Switched s.registry := scheduled.switched built
  have queued := (enqueueAll_grows (by exact built.keyed) seeded).2
  refine ⟨switched.layout.built built, switched.layout.boundApart apart,
    scheduled.pendingOn built fun y member => by simp [Worklist.pending] at member, fun k n' found' stale => ?_⟩
  obtain ⟨n, found, source, -⟩ := switched.back found'
  have bound : n.source.place ≠ none := fun naked => stale (source ▸ ValueSource.fresh_of_place_none naked _)
  have fact : n.isFact = true := by
    rw [Evidence.isFact_eq, built.onlyFactsBound k n found bound]
    rfl
  exact queued k (Registry.mem_seeds_of_fact built.keyed found fact)

theorem Refreshing.step (inv : s.Refreshing) {id : String} {w : Worklist} (popped : s.worklist.pop = (some id, w))
    (stepped : step { s with worklist := w } id = .ok s') : s'.Refreshing := by
  obtain ⟨outcome, evaluatedEq, scheduled⟩ := step_schedules stepped
  obtain ⟨r₁, st, evaluatedEq', -, activated, -⟩ := step_spec (s := { s with worklist := w }) inv.built.keyed stepped
  rw [evaluatedEq] at evaluatedEq'
  cases evaluatedEq'
  have evaluated := Registry.evaluateEvidence_evaluated evaluatedEq
  have pending : s.worklist.pending = id :: w.pending := Worklist.pending_of_pop_some popped
  have on : ∀ n, s.registry.evidence.get? id = some n → n.evaluatable = true :=
    inv.on id (by rw [pending]; exact List.mem_cons_self ..)
  have layout := evaluated.sameLayout inv.built
  have built₁ : r₁.Built := layout.built inv.built
  have switched : r₁.Switched s'.registry := scheduled.switched built₁
  refine ⟨switched.layout.built built₁, switched.layout.boundApart (layout.boundApart inv.apart),
    scheduled.pendingOn built₁ fun y member n₁ found₁ => ?_, fun k n' found' stale => ?_⟩
  · -- what stays pending was switched on, and the evaluation kept its switch
    obtain ⟨n, found, switch, -⟩ := evaluated.evaluatable inv.built.keyed found₁
    rw [switch]
    exact inv.on y (by rw [pending]; exact List.mem_cons_of_mem _ member) n found
  · obtain ⟨n₁, found₁, source, -⟩ := switched.back found'
    have stale₁ : ¬ n₁.source.Fresh r₁.models := by
      rw [← source, ← switched.models]
      exact stale
    rcases evaluated.activated_or_stale inv.built inv.apart on found₁ stale₁ with activation | ⟨other, n, found, before⟩
    · exact activated k activation
    · have wasPending := inv.stale k n found before
      rw [pending] at wasPending
      exact scheduled.pending ((List.mem_cons.mp wasPending).resolve_left other)

theorem Refreshing.fresh_of_empty (inv : s.Refreshing) (empty : s.worklist.pending = []) :
    ∀ k n, s.registry.evidence.get? k = some n → n.source.Fresh s.registry.models := by
  intro k n found
  by_contra stale
  have pending := inv.stale k n found stale
  rw [empty] at pending
  cases pending

end Refreshing

end Scheduler

theorem Registry.PassState.refreshing {r : Registry} {s : Scheduler} (built : r.Built) (apart : r.BoundApart)
    (reached : r.PassState s) : s.Refreshing := by
  induction reached with
  | seeded seeded => exact Scheduler.seed_refreshing built apart seeded
  | stepped _ popped stepped refreshing => exact refreshing.step popped stepped

/-- A pass over a built registry whose facts of each model are bound to paths apart, when it
finishes, leaves every fact holding what its document holds. -/
theorem finished_pass_leaves_no_stale_fact {r : Registry} (built : r.Built) (apart : r.BoundApart) {fuel : Nat}
    {s : Scheduler} (finished : r.runPass fuel = (s, .finished)) :
    ∀ k n, s.registry.evidence.get? k = some n → n.source.Fresh s.registry.models := by
  obtain ⟨reached, empty⟩ := Registry.PassState.of_finished finished
  exact (reached.refreshing built apart).fresh_of_empty empty

/-- Facts `a` (a text) and `b` (a boolean) bound to `/a` and `/b`, both ` true `, and a chainable
rule setting `b` to true. -/
def boundApartAssignment : Registry :=
  { evidence := ⟨[
      ("a", Evidence.fact "a" Priority.default (.bound ⟨"m", "/a", .text, none⟩)),
      ("b", Evidence.fact "b" Priority.default (.bound ⟨"m", "/b", .boolean, none⟩)),
      ("r", { id := "r", priority := Priority.default, source := .naked none,
              kind := .rule ⟨⟨"true", [.literal (.boolean true)], [.literal (.boolean true)], []⟩,
                [⟨true, "r-b-0"⟩], true⟩ }),
      ("r-b-0", { id := "r-b-0", priority := Priority.default, source := .naked none,
                  kind := .assignment "b" ⟨"true", [.literal (.boolean true)], [.literal (.boolean true)], []⟩ })]⟩
    models := ⟨[("m", .object [("a", .string " true "), ("b", .string " true ")])]⟩ }

theorem boundApartAssignment_pass_fresh :
    boundApartAssignment.Built ∧ boundApartAssignment.BoundApart ∧
      ∃ s, boundApartAssignment.runPass 10 = (s, .finished) ∧
        ∀ k n, s.registry.evidence.get? k = some n → n.source.Fresh s.registry.models := by
  have built : boundApartAssignment.Built :=
    Registry.Built.of_entries (by decide +kernel) (by decide +kernel) (by decide +kernel)
  have apart : boundApartAssignment.BoundApart := Registry.boundApart_of_check (by decide +kernel)
  have ends : (boundApartAssignment.runPass 10).2 = .finished := by decide +kernel
  have finished : boundApartAssignment.runPass 10 = ((boundApartAssignment.runPass 10).1, .finished) := Prod.ext rfl ends
  exact ⟨built, apart, _, finished, finished_pass_leaves_no_stale_fact built apart finished⟩

/-- The registry of `boundApartAssignment` with `a` bound to `/b` too. -/
def sharedPath : Registry :=
  { boundApartAssignment with
    evidence := ⟨[
      ("a", Evidence.fact "a" Priority.default (.bound ⟨"m", "/b", .text, none⟩)),
      ("b", Evidence.fact "b" Priority.default (.bound ⟨"m", "/b", .boolean, none⟩)),
      ("r", { id := "r", priority := Priority.default, source := .naked none,
              kind := .rule ⟨⟨"true", [.literal (.boolean true)], [.literal (.boolean true)], []⟩,
                [⟨true, "r-b-0"⟩], true⟩ }),
      ("r-b-0", { id := "r-b-0", priority := Priority.default, source := .naked none,
                  kind := .assignment "b" ⟨"true", [.literal (.boolean true)], [.literal (.boolean true)], []⟩ })]⟩ }

theorem sharedPath_not_boundApart : ¬ sharedPath.BoundApart := by
  have together : ¬ Json.Apart "/b" "/b" := by decide +kernel
  exact fun apart => together (apart "a" "b" _ _ "m" "/b" "/b" .text .boolean (by decide) rfl rfl rfl rfl)

/-- Over `sharedPath` a pass finishes with `a` stale: setting `b` to true again is no change, yet
the document now holds `true` at `/b`. -/
theorem sharedPath_pass_leaves_stale_fact :
    sharedPath.Built ∧ ¬ sharedPath.BoundApart ∧
      ∃ s, sharedPath.runPass 10 = (s, .finished) ∧
        ∃ n, s.registry.evidence.get? "a" = some n ∧ ¬ n.source.Fresh s.registry.models := by
  have built : sharedPath.Built := Registry.Built.of_entries (by decide +kernel) (by decide +kernel) (by decide +kernel)
  have ends : (sharedPath.runPass 10).2 = .finished := by decide +kernel
  have finished : sharedPath.runPass 10 = ((sharedPath.runPass 10).1, .finished) := Prod.ext rfl ends
  refine ⟨built, sharedPath_not_boundApart, _, finished, Evidence.fact "a" Priority.default (.bound ⟨"m", "/b", .text, some (.text " true ")⟩),
    by decide +kernel, by decide +kernel⟩

end RuleEngine
