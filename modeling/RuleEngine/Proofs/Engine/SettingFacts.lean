import RuleEngine.Proofs.Engine.Readings
import RuleEngine.Proofs.Engine.ReadBack

/-! # Reading a fact again right after setting it

Setting a bound fact writes its coerced value's JSON form, which reads back as a value equal to it,
so the evaluation reports no change; a number that is not finite is written as `null`, and reading
fails. -/

set_option autoImplicit false

namespace RuleEngine

theorem Value.kind_of_beq {w u : Value} (equal : (w == u) = true) : u.kind = w.kind := by
  cases w <;> cases u <;> simp_all [BEq.beq, Value.beq, Value.kind]

namespace Binding

theorem kind_of_coerce {b : Binding} {v w : Value} (coerced : b.coerce v = .ok w) : w.kind = some b.kind := by
  unfold coerce at coerced
  cases kind : b.kind <;> cases v <;> simp only [kind] at coerced <;>
    (try split at coerced) <;> (try split at coerced) <;> (try split at coerced) <;>
    first | (cases coerced; rfl) | cases coerced

theorem coerce_of_kind {b : Binding} {u : Value} (kind : u.kind = some b.kind) : b.coerce u = .ok u := by
  cases u <;> simp only [Value.kind, Option.some.injEq, reduceCtorEq] at kind <;>
    simp [coerce, ← kind, Value.display]

theorem coerce_of_beq {b : Binding} {v w u : Value} (coerced : b.coerce v = .ok w) (equal : (w == u) = true) :
    b.coerce u = .ok u :=
  coerce_of_kind ((Value.kind_of_beq equal).trans (kind_of_coerce coerced))

theorem coerce_ne_node {b : Binding} {v w : Value} (notNode : b.kind ≠ .node) (coerced : b.coerce v = .ok w)
    (h : String) : w ≠ .node h := by
  rintro rfl
  have kind := kind_of_coerce coerced
  simp only [Value.kind, Option.some.injEq] at kind
  exact notNode kind.symm

end Binding

theorem IdMap.readValue_insert_written {w : Value} (models : IdMap Json) (model : String) {path : String}
    {doc doc' : Json} (scalar : ∀ h, w ≠ .node h) (written : doc.writeValue path w = .ok doc') :
    (models.insert model doc').readValue model path = some (Value.ofJson? w.toJson) := by
  simp [IdMap.readValue, IdMap.get?_insert_self,
    Json.readValue_of_pointer? scalar (Json.pointer?_writeJson_self written)]

namespace ValueSource

theorem evaluate_written {b : Binding} {v w : Value} (models : IdMap Json) {doc doc' : Json}
    (notNode : b.kind ≠ .node) (coerced : b.coerce v = .ok w) (written : doc.writeValue b.path w = .ok doc')
    (finite : ∀ x, w = .number x → x.isFinite = true) :
    ∃ u, (w == u) = true ∧ (ValueSource.bound { b with cached := some w }).evaluate
      (models.insert b.modelId doc') = .ok (.bound { b with cached := some u }, false) := by
  have scalar := Binding.coerce_ne_node notNode coerced
  obtain ⟨u, read⟩ : ∃ u, Value.ofJson? w.toJson = some u := by
    cases found : Value.ofJson? w.toJson with
    | some u => exact ⟨u, rfl⟩
    | none =>
      rcases (Value.ofJson?_toJson_eq_none_iff scalar).mp found with invalid | ⟨x, number, infinite⟩
      · have := Binding.kind_of_coerce coerced
        simp [invalid, Value.kind] at this
      · rw [finite x number] at infinite
        cases infinite
  have equal := Value.beq_ofJson?_toJson read
  refine ⟨u, equal, ?_⟩
  have kept : ({ b with cached := some w } : Binding).coerce u = .ok u := by
    rw [@Binding.coerce_congr b { b with cached := some w } rfl rfl rfl]
    exact Binding.coerce_of_beq coerced equal
  rw [evaluate_bound, IdMap.readValue_insert_written models b.modelId scalar written, read]
  simp [kept, Except.map, sameValue, equal]

theorem evaluate_written_not_finite {b : Binding} {x : Float} {models : IdMap Json} {doc doc' : Json}
    (written : doc.writeValue b.path (.number x) = .ok doc') (infinite : x.isFinite = false) :
    (ValueSource.bound { b with cached := some (.number x) }).evaluate (models.insert b.modelId doc') =
      .error (b.error (DocumentError.missing b.path).message) := by
  have readBack := IdMap.readValue_insert_written models b.modelId (w := .number x) (fun _ => by simp) written
  rw [Value.toJson_number_of_not_finite infinite] at readBack
  rw [evaluate_bound, readBack]
  rfl

end ValueSource

namespace Registry

theorem setValue_bound {r r' : Registry} {id : String} {n : Evidence} {b : Binding} {v : Value} {changed : Bool}
    (found : r.evidence.get? id = some n) (bound : n.source = .bound b)
    (written : r.setValue id v = .ok (r', changed)) :
    n.evaluatable = true ∧ b.kind ≠ .node ∧ ∃ w doc doc', b.coerce v = .ok w ∧
      r.models.get? b.modelId = some doc ∧ doc.writeValue b.path w = .ok doc' ∧
      r' = { r.putNode { n with source := .bound { b with cached := some w } } with
        models := r.models.insert b.modelId doc' } := by
  unfold setValue at written
  obtain ⟨n', looked, written⟩ := bind_eq_ok.mp written
  rw [lookup_eq_ok.mp looked] at found
  cases found
  cases on : n.evaluatable
  · simp only [on, Bool.not_false, ↓reduceIte] at written
    obtain ⟨_, bad, _⟩ := bind_eq_ok.mp written
    cases bad
  · simp only [on, Bool.not_true, Bool.false_eq_true, ↓reduceIte] at written
    obtain ⟨⟨src, models, changed'⟩, stored, written⟩ := bind_eq_ok.mp written
    rw [bound] at stored
    obtain ⟨notNode, w, doc, doc', coerced, located, written', rfl, rfl⟩ := ValueSource.set_bound_eq_ok stored
    cases written
    exact ⟨rfl, notNode, w, doc, doc', coerced, located, written', rfl⟩

theorem evaluateEvidence_fact {r : Registry} {id : String} {n : Evidence} (found : r.evidence.get? id = some n)
    (fact : n.kind = .fact) (on : n.evaluatable = true) :
    r.evaluateEvidence id = (n.source.evaluate r.models).map fun (src, changed) =>
      (r.putNode { n with source := src }, { changed := if changed then [id] else [] }) := by
  simp only [evaluateEvidence, lookup, found, ok_bind, on, Bool.not_true, Bool.false_eq_true, ↓reduceIte, plan,
    fact, apply]
  cases n.source.evaluate r.models <;> rfl

end Registry

open Registry in
/-- Setting a bound fact and evaluating it right after reads back a value equal to the one cached,
with no change; a non-finite number was written as `null`, and the evaluation fails. -/
theorem reading_after_setting {r r' : Registry} {id : String} {n : Evidence} {b : Binding} {v : Value}
    {changed : Bool} (keyed : r.Keyed) (found : r.evidence.get? id = some n) (fact : n.kind = .fact)
    (bound : n.source = .bound b) (written : r.setValue id v = .ok (r', changed)) :
    ∃ w, b.coerce v = .ok w ∧ r'.evidence.get? id = some { n with source := .bound { b with cached := some w } } ∧
      ((∀ x, w = .number x → x.isFinite = true) →
        ∃ u, (w == u) = true ∧
          r'.evaluateEvidence id = .ok (r'.putNode { n with source := .bound { b with cached := some u } }, {})) ∧
      ∀ x, w = .number x → x.isFinite = false →
        r'.evaluateEvidence id = .error (b.error (DocumentError.missing b.path).message) := by
  obtain ⟨on, notNode, w, doc, doc', coerced, -, stored, after⟩ := setValue_bound found bound written
  have found' : r'.evidence.get? id = some { n with source := .bound { b with cached := some w } } := by
    rw [after]
    exact get?_putNode_found keyed found _ rfl
  have models : r'.models = r.models.insert b.modelId doc' := by rw [after]
  refine ⟨w, coerced, found', fun finite => ?_, fun x number infinite => ?_⟩
  · obtain ⟨u, equal, read⟩ := ValueSource.evaluate_written r.models notNode coerced stored finite
    refine ⟨u, equal, ?_⟩
    rw [evaluateEvidence_fact found' fact on, models, read]
    rfl
  · subst number
    rw [evaluateEvidence_fact found' fact on, models, ValueSource.evaluate_written_not_finite stored infinite]
    rfl

/-- The number fact `a` bound to `/a` of the document `m`. -/
def boundNumber : Registry :=
  { evidence := ⟨[("a", Evidence.fact "a" Priority.default (.bound ⟨"m", "/a", .number, none⟩))]⟩
    models := ⟨[("m", .object [("a", Json.int 1)])]⟩ }

/-- Setting `a` to 5 caches 5, and reading `a` again finds a number equal to it, with no change. -/
theorem five_read_back :
    ∃ r' changed, boundNumber.setValue "a" (.number 5) = .ok (r', changed) ∧
      ∃ u, (Value.number 5 == u) = true ∧ r'.evaluateEvidence "a" = .ok (r'.putNode
        (Evidence.fact "a" Priority.default (.bound ⟨"m", "/a", .number, some u⟩)), {}) := by
  obtain ⟨r', changed, written⟩ : ∃ r' changed, boundNumber.setValue "a" (.number 5) = .ok (r', changed) :=
    ⟨_, _, rfl⟩
  have keyed : boundNumber.Keyed :=
    (Registry.Built.of_entries (by decide +kernel) (by decide +kernel) (by decide +kernel)).keyed
  obtain ⟨w, coerced, -, quiet, -⟩ := reading_after_setting keyed
    (n := Evidence.fact "a" Priority.default (.bound ⟨"m", "/a", .number, none⟩)) rfl rfl rfl written
  cases coerced
  obtain ⟨u, equal, evaluated⟩ := quiet fun x same => by
    cases same
    rfl
  exact ⟨r', changed, written, u, equal, evaluated⟩

/-- Setting `a` to positive infinity writes `null`, so reading `a` again finds no value. -/
theorem infinity_not_read_back :
    ∃ r' changed, boundNumber.setValue "a" (.number (Float.ofBits 0x7FF0000000000000)) = .ok (r', changed) ∧
      r'.evaluateEvidence "a" = .error (.document "m" "no value at /a") :=
  ⟨_, _, rfl, rfl⟩

end RuleEngine
