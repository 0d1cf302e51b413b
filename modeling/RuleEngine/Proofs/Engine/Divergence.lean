import RuleEngine.Proofs.Engine.Termination

/-! # Passes that never end

A pass reads of a scheduler only its key, so a pass that comes back to a key it had runs out of
every number of evaluations. Over `peerLoop` this happens although its graph of reads has no
cycle: a fact whose value changed schedules the other facts of its model. -/
set_option autoImplicit false
namespace RuleEngine

namespace Worklist

theorem isEmpty_eq_view (w : Worklist) : w.isEmpty = w.view.isEmpty := by
  simp only [isEmpty, view, List.isEmpty_map]
  rw [Bool.eq_iff_iff, List.isEmpty_iff, List.isEmpty_iff, ← List.length_eq_zero_iff,
    ← List.length_eq_zero_iff, List.length_mergeSort]

/-- At most `n` entries in pop order, each taken by `first?`, by structural recursion the kernel
evaluates. -/
def popsView : Nat → List Entry → List (String × Int)
  | 0, _ => []
  | n + 1, es =>
    match first? es with
    | none => []
    | some e => (e.id, e.rank) :: popsView n (es.erase e)

theorem mergeSort_eq_popsView : ∀ (n : Nat) (es : List Entry), es.length = n →
    (es.mergeSort Entry.le).map (fun e => (e.id, e.rank)) = popsView n es
  | 0, es, empty => by simp [List.length_eq_zero_iff.mp empty, popsView]
  | n + 1, es, counted => by
      cases found : first? es with
      | none => simp [first?_eq_none.mp found] at counted
      | some e =>
          have fewer : (es.erase e).length = n := by
            rw [List.length_erase_of_mem (first?_mem found), counted, Nat.add_sub_cancel]
          simp only [popsView, found, mergeSort_of_first? found, List.map_cons,
            mergeSort_eq_popsView n _ fewer]

theorem view_eq_popsView (w : Worklist) : w.view = popsView w.heap.length w.heap :=
  mergeSort_eq_popsView _ _ rfl

end Worklist

namespace Scheduler

/-- What a pass reads of a scheduler: the registry, and the pending ids with their ranks in pop
order. -/
def key (s : Scheduler) : Registry × List (String × Int) := (s.registry, s.worklist.view)

def keyOf : Except (EngineError × Scheduler) Scheduler →
    Except (EngineError × (Registry × List (String × Int))) (Registry × List (String × Int))
  | .ok s => .ok s.key
  | .error (e, s) => .error (e, s.key)

variable {s t : Scheduler}

theorem keyOf_match {x y : Except (EngineError × Scheduler) Scheduler}
    {f g : Scheduler → Except (EngineError × Scheduler) Scheduler}
    (next : ∀ s t : Scheduler, s.key = t.key → keyOf (f s) = keyOf (g t)) : keyOf x = keyOf y →
    keyOf (match x with | .ok s => f s | .error e => .error e) =
      keyOf (match y with | .ok t => g t | .error e => .error e) := by
  intro same
  cases x with
  | ok s =>
      cases y with
      | ok t => exact next s t (Except.ok.inj same)
      | error _ => cases same
  | error failure =>
      cases y with
      | ok _ => cases same
      | error _ => exact same

theorem keyOf_bind {x y : Except (EngineError × Scheduler) Scheduler}
    {f g : Scheduler → Except (EngineError × Scheduler) Scheduler}
    (next : ∀ s t : Scheduler, s.key = t.key → keyOf (f s) = keyOf (g t)) (same : keyOf x = keyOf y) :
    keyOf (x >>= f) = keyOf (y >>= g) := by
  cases x with
  | ok s =>
      cases y with
      | ok t => exact next s t (Except.ok.inj same)
      | error _ => cases same
  | error failure =>
      cases y with
      | ok _ => cases same
      | error _ => exact same

theorem enqueue_eq (s : Scheduler) (id : String) :
    s.enqueue id = (s.registry.lookup id).map fun n =>
      ({ s with registry := s.registry.putNode { n with evaluatable := true },
                worklist := (s.worklist.push id n.rank).1 }, (s.worklist.push id n.rank).2) := by
  unfold enqueue
  cases s.registry.lookup id <;> rfl

theorem keyOf_enqueueAll (same : s.key = t.key) (ids : List String) :
    keyOf (s.enqueueAll ids) = keyOf (t.enqueueAll ids) := by
  induction ids generalizing s t with
  | nil => simp [enqueueAll, keyOf, same]
  | cons id rest ih =>
      have registry : s.registry = t.registry := congrArg Prod.fst same
      have view : s.worklist.view = t.worklist.view := congrArg Prod.snd same
      simp only [enqueueAll, enqueue_eq, registry]
      cases t.registry.lookup id with
      | error e => simp [Except.map, keyOf, same]
      | ok n =>
          apply ih
          simp only [key, (Worklist.view_push _ _ _).1, view]

theorem keyOf_afterChanges (same : s.key = t.key) (changed : List String) :
    keyOf (s.afterChanges changed) = keyOf (t.afterChanges changed) := by
  induction changed generalizing s t with
  | nil => simp [afterChanges, keyOf, same]
  | cons c rest ih =>
      have registry : s.registry = t.registry := congrArg Prod.fst same
      have view : s.worklist.view = t.worklist.view := congrArg Prod.snd same
      simp only [afterChanges, record, registry]
      cases t.registry.lookup c with
      | error e => simp [keyOf, key, view]
      | ok n =>
          simp only
          refine keyOf_match (fun _ _ same' => ih same') (keyOf_enqueueAll ?_ _)
          simp [key, view]

theorem keyOf_afterActivations (same : s.key = t.key) (source : String) (activations : List String) :
    keyOf (s.afterActivations source activations) = keyOf (t.afterActivations source activations) := by
  induction activations generalizing s t with
  | nil => simp [afterActivations, keyOf, same]
  | cons a rest ih =>
      have registry : s.registry = t.registry := congrArg Prod.fst same
      have view : s.worklist.view = t.worklist.view := congrArg Prod.snd same
      simp only [afterActivations, record, enqueue_eq, registry]
      cases t.registry.lookup a with
      | error e => simp [Except.map, keyOf, key, view]
      | ok n =>
          apply ih
          simp only [key, (Worklist.view_push _ _ _).1, view]

theorem key_afterCallbacks (s : Scheduler) (action : String) (names : List String) :
    (s.afterCallbacks action names).key = s.key := by
  obtain ⟨registry, worklist⟩ := afterCallbacks_keeps s action names
  simp only [key, registry, worklist]

theorem keyOf_step (same : s.key = t.key) (id : String) : keyOf (s.step id) = keyOf (t.step id) := by
  have registry : s.registry = t.registry := congrArg Prod.fst same
  simp only [step, registry]
  cases t.registry.evaluateEvidence id with
  | error e => simp [keyOf, same]
  | ok outcome =>
      have view : s.worklist.view = t.worklist.view := congrArg Prod.snd same
      refine keyOf_bind (fun s₂ t₂ same₂ =>
        keyOf_bind (fun s₃ t₃ same₃ => ?_) (keyOf_afterActivations same₂ _ _)) (keyOf_afterChanges ?_ _)
      · -- the dependents are read off the registry both share
        have registry₃ : (s₃.afterCallbacks id outcome.2.callbacks).registry =
            (t₃.afterCallbacks id outcome.2.callbacks).registry :=
          congrArg Prod.fst ((key_afterCallbacks _ _ _).trans (same₃.trans (key_afterCallbacks _ _ _).symm))
        rw [registry₃]
        exact keyOf_enqueueAll ((key_afterCallbacks _ _ _).trans (same₃.trans (key_afterCallbacks _ _ _).symm)) _
      · simp [key, record, view]

theorem run_congr : ∀ (fuel : Nat) {s t : Scheduler}, s.key = t.key →
    (s.run fuel).1.key = (t.run fuel).1.key ∧ (s.run fuel).2 = (t.run fuel).2
  | 0, s, t, same => by
      have view : s.worklist.view = t.worklist.view := congrArg Prod.snd same
      have empty : s.worklist.isEmpty = t.worklist.isEmpty := by
        rw [Worklist.isEmpty_eq_view, Worklist.isEmpty_eq_view, view]
      simp only [run, empty]
      split <;> exact ⟨same, rfl⟩
  | fuel + 1, s, t, same => by
      have registry : s.registry = t.registry := congrArg Prod.fst same
      have view : s.worklist.view = t.worklist.view := congrArg Prod.snd same
      have heads : s.worklist.pop.1 = t.worklist.pop.1 := by
        rw [(Worklist.view_pop _).2, (Worklist.view_pop _).2, view]
      have rests : s.worklist.pop.2.view = t.worklist.pop.2.view := by
        rw [(Worklist.view_pop _).1, (Worklist.view_pop _).1, view]
      simp only [run]
      cases poppedS : s.worklist.pop with
      | mk head w =>
      cases poppedT : t.worklist.pop with
      | mk head' w' =>
      rw [poppedS, poppedT] at heads rests
      dsimp only at heads rests
      subst heads
      cases head with
      | none => exact ⟨same, rfl⟩
      | some id =>
          dsimp only
          have same' : ({ s with worklist := w } : Scheduler).key = ({ t with worklist := w' } : Scheduler).key := by
            simp only [key, rests, registry]
          have stepped := keyOf_step same' id
          generalize step { s with worklist := w } id = x at stepped ⊢
          generalize step { t with worklist := w' } id = y at stepped ⊢
          cases x with
          | ok s' =>
              cases y with
              | ok t' => exact run_congr fuel (Except.ok.inj stepped)
              | error _ => cases stepped
          | error failure =>
              cases y with
              | ok _ => cases stepped
              | error failure' =>
                  obtain ⟨e, s'⟩ := failure
                  obtain ⟨e', t'⟩ := failure'
                  simp only [keyOf, Except.error.injEq, Prod.mk.injEq] at stepped
                  obtain ⟨rfl, keys⟩ := stepped
                  exact ⟨keys, rfl⟩

theorem run_add : ∀ (k : Nat) {s t : Scheduler}, s.run k = (t, .exhausted) → ∀ fuel, s.run (k + fuel) = t.run fuel
  | 0, s, t, cut, fuel => by
      simp only [run] at cut
      split at cut
      · cases cut
      · cases cut
        rw [Nat.zero_add]
  | k + 1, s, t, cut, fuel => by
      rw [Nat.add_right_comm]
      simp only [run] at cut ⊢
      cases popped : s.worklist.pop with
      | mk head w =>
      rw [popped] at cut
      cases head with
      | none => cases cut
      | some id =>
          dsimp only at cut ⊢
          cases stepped : step { s with worklist := w } id with
          | ok s' =>
              rw [stepped] at cut
              exact run_add k cut fuel
          | error failure =>
              rw [stepped] at cut
              cases cut

theorem run_exhausted_of_le : ∀ (k : Nat) {s : Scheduler}, (s.run k).2 = .exhausted →
    ∀ j ≤ k, (s.run j).2 = .exhausted
  | 0, s, cut, j, below => by rw [Nat.le_zero.mp below]; exact cut
  | k + 1, s, cut, j, below => by
      simp only [run] at cut
      cases popped : s.worklist.pop with
      | mk head w =>
      rw [popped] at cut
      cases head with
      | none => cases cut
      | some id =>
          dsimp only at cut
          cases stepped : step { s with worklist := w } id with
          | error failure =>
              rw [stepped] at cut
              cases cut
          | ok s' =>
              rw [stepped] at cut
              cases j with
              | zero =>
                  have nonEmpty : s.worklist.heap ≠ [] := fun empty => by
                    have none := (Worklist.pop_eq_none_iff s.worklist).mpr empty
                    rw [popped] at none
                    cases none
                  simp [run, Worklist.isEmpty, nonEmpty]
              | succ j =>
                  simp only [run, popped, stepped]
                  exact run_exhausted_of_le k cut j (Nat.le_of_succ_le_succ below)

theorem run_exhausted_of_return {c : Scheduler} {k : Nat} (positive : 0 < k)
    (cut : (c.run k).2 = .exhausted) (back : (c.run k).1.key = c.key) :
    ∀ (fuel : Nat) {s : Scheduler}, s.key = c.key → (s.run fuel).2 = .exhausted := by
  intro fuel
  induction fuel using Nat.strong_induction_on with
  | _ fuel ih =>
      intro s same
      by_cases short : fuel < k
      · rw [(run_congr fuel same).2]
        exact run_exhausted_of_le k cut fuel short.le
      · obtain ⟨rest, rfl⟩ := Nat.exists_eq_add_of_le (Nat.le_of_not_lt short)
        obtain ⟨keys, ends⟩ := run_congr k same
        have cutS : s.run k = ((s.run k).1, .exhausted) := Prod.ext rfl (ends.trans cut)
        rw [run_add k cutS rest]
        exact ih rest (by omega) (keys.trans back)

end Scheduler

/-- Facts `a` and `b` bound to `/a` and `/b` of one document, and two assignments setting `b` to
true and to false, dependents of `a`. -/
def peerLoop : Registry :=
  { evidence := ⟨[
      ("a", Evidence.fact "a" Priority.default (.bound ⟨"m", "/a", .boolean, none⟩)),
      ("b", Evidence.fact "b" Priority.default (.bound ⟨"m", "/b", .boolean, none⟩)),
      ("r", { id := "r", priority := Priority.default, source := .naked none,
              kind := .rule ⟨⟨"true", [.literal (.boolean true)], [.literal (.boolean true)], []⟩,
                [⟨true, "r-b-0"⟩, ⟨true, "r-b-1"⟩], false⟩ }),
      ("r-b-0", { id := "r-b-0", priority := Priority.default, source := .naked none,
                  kind := .assignment "b" ⟨"true", [.literal (.boolean true)], [.literal (.boolean true)], []⟩ }),
      ("r-b-1", { id := "r-b-1", priority := Priority.default, source := .naked none,
                  kind := .assignment "b" ⟨"false", [.literal (.boolean false)], [.literal (.boolean false)], []⟩ })]⟩
    models := ⟨[("m", .object [("a", .bool true), ("b", .bool true)])]⟩
    dependents := ⟨[("a", ["r-b-0", "r-b-1"])]⟩ }

/-- Over `peerLoop` every pass runs out of evaluations, although its graph has no cycle and its
facts are bound to paths apart. -/
theorem peerLoop_runs_forever :
    peerLoop.Built ∧ peerLoop.BoundApart ∧ peerLoop.ReadsNoNaN ∧
      (∀ x, ¬ Relation.TransGen peerLoop.Edge x x) ∧ ∀ fuel, (peerLoop.runPass fuel).2 = .exhausted := by
  have built : peerLoop.Built := Registry.Built.of_entries (by decide +kernel) (by decide +kernel) (by decide +kernel)
  have apart : peerLoop.BoundApart := Registry.boundApart_of_check (by decide +kernel)
  have noNaN : peerLoop.ReadsNoNaN := Registry.readsNoNaN_of_check (by decide +kernel)
  let height : String → Nat := fun k => if k = "b" then 2 else if k = "r-b-0" ∨ k = "r-b-1" then 1 else 0
  have edges : peerLoop.edgesClimb height = true := by decide +kernel
  have acyclic : ∀ x, ¬ Relation.TransGen peerLoop.Edge x x :=
    Registry.not_transGen_self_of_climbs height fun _ _ edge => Registry.Edge.climbs edges edge
  refine ⟨built, apart, noNaN, acyclic, fun fuel => ?_⟩
  cases seeded : ({ registry := peerLoop } : Scheduler).seed with
  | error failure =>
      have ran : (peerLoop.runPass 0).2 = .exhausted := by decide +kernel
      simp [Registry.runPass, seeded] at ran
  | ok s =>
      have pass : ∀ fuel, peerLoop.runPass fuel = s.run fuel := fun _ => by simp [Registry.runPass, seeded]
      -- eight evaluations in, the loop's key; six more come back to it
      have cut : (s.run 8).2 = .exhausted := by rw [← pass]; decide +kernel
      have loop : ((s.run 8).1.run 6).2 = .exhausted := by rw [← pass]; decide +kernel
      have back : ((s.run 8).1.run 6).1.key = (s.run 8).1.key := by
        rw [← pass, Scheduler.key, Scheduler.key, Worklist.view_eq_popsView, Worklist.view_eq_popsView]
        decide +kernel
      rw [pass]
      by_cases short : fuel < 8
      · exact Scheduler.run_exhausted_of_le 8 cut fuel short.le
      · obtain ⟨rest, rfl⟩ := Nat.exists_eq_add_of_le (Nat.le_of_not_lt short)
        have cutS : s.run 8 = ((s.run 8).1, .exhausted) := Prod.ext rfl cut
        rw [Scheduler.run_add 8 cutS rest]
        exact Scheduler.run_exhausted_of_return (by decide) loop back rest rfl

end RuleEngine
