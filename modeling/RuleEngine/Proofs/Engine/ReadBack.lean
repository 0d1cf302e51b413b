import RuleEngine.Proofs.Engine.Pointers
import RuleEngine.Proofs.Binary64.Integers

/-! # Reading back what a document write wrote

A value is written as its JSON form and read back up to value equality, the invalid value and the
non-finite numbers as nothing; a write in place changes the document only when it succeeds. -/

set_option autoImplicit false

namespace RuleEngine

theorem JsonNumber.toFloat_ofInt (n : Int) : (JsonNumber.ofInt n).toFloat = Float.ofInt n := by
  unfold JsonNumber.ofInt
  split
  · rename_i nonNegative
    obtain ⟨k, rfl⟩ := Int.eq_ofNat_of_zero_le nonNegative
    rfl
  · rfl

namespace Value

theorem toJson_number_of_not_finite {x : Float} (infinite : x.isFinite = false) :
    Value.toJson (.number x) = .null := by
  have notIntegral : (Binary64.ofFloat x).isIntegral = false := by
    cases integral : (Binary64.ofFloat x).isIntegral
    · rfl
    · rw [Binary64.isFinite_of_isIntegral integral] at infinite
      cases infinite
  simp [toJson, notIntegral, infinite]

theorem ofJson?_toJson_number {x : Float} (finite : x.isFinite = true) :
    ∃ y, ofJson? (Value.toJson (.number x)) = some (.number y) ∧ (x == y) = true := by
  simp only [toJson]
  split
  · rename_i small
    simp only [Bool.and_eq_true, decide_eq_true_eq] at small
    refine ⟨_, rfl, ?_⟩
    rw [JsonNumber.toFloat_ofInt, Binary64.beq_comm]
    exact Binary64.ofInt_truncate_beq small.1 small.2
  · exact ⟨x, rfl, Binary64.beq_self_of_isFinite finite⟩

theorem ofJson?_toJson_eq_none_iff {v : Value} (notNode : ∀ h, v ≠ .node h) :
    ofJson? v.toJson = none ↔ v = .invalid ∨ ∃ x, v = .number x ∧ x.isFinite = false := by
  cases v with
  | number x =>
    cases finite : x.isFinite
    · simp [toJson_number_of_not_finite finite, ofJson?, finite]
    · obtain ⟨y, read, -⟩ := ofJson?_toJson_number finite
      simp [read, finite]
  | boolean b | text s => simp [toJson, ofJson?]
  | node h => exact absurd rfl (notNode h)
  | invalid => simp [toJson, ofJson?]

theorem toJson_scalar {v : Value} (notNode : ∀ h, v ≠ .node h) :
    (∀ items, v.toJson ≠ .array items) ∧ ∀ members, v.toJson ≠ .object members := by
  cases v with
  | number x =>
    simp only [toJson]
    split_ifs <;> simp [Json.int]
  | boolean | text | invalid => simp [toJson]
  | node h => exact absurd rfl (notNode h)

theorem beq_ofJson?_toJson {v w : Value} (read : ofJson? v.toJson = some w) : (v == w) = true := by
  cases v with
  | number x =>
    cases finite : x.isFinite
    · simp [toJson_number_of_not_finite finite, ofJson?] at read
    · obtain ⟨y, read', equal⟩ := ofJson?_toJson_number finite
      rw [read'] at read
      cases read
      exact equal
  | boolean b =>
    cases read
    exact beq_self_eq_true b
  | text s =>
    cases read
    exact beq_self_eq_true s
  | node h | invalid => simp [toJson, ofJson?] at read

end Value

namespace Json
open Pointer

theorem pointer?_writeJson_self {root root' v : Json} {p : String} (written : root.writeJson p v = .ok root') :
    root'.pointer? p = some v := by
  rcases writeJson_eq_ok written with ⟨tp, pointed, replaced⟩ | ⟨tpar, key, ms, pointed, -, replaced⟩
  · simp [pointer?, pointed, resolve?_replace?_self replaced]
  · -- nothing was at the pointer: the last token was added to the parent object
    simp [pointer?, pointed, resolve?_append, resolve?_replace?_self replaced, resolve?, child?,
      lookupMember_insertMember_self]

theorem readValue_of_pointer? {root : Json} {p : String} {v : Value} (notNode : ∀ h, v ≠ .node h)
    (located : root.pointer? p = some v.toJson) : root.readValue p = Value.ofJson? v.toJson := by
  unfold readValue
  rw [located]
  obtain ⟨notArray, notObject⟩ := Value.toJson_scalar notNode
  generalize v.toJson = j at notArray notObject ⊢
  cases j with
  | array items => exact absurd rfl (notArray items)
  | object members => exact absurd rfl (notObject members)
  | null | bool | number | string => rfl

theorem writeInPlace_run (root : Json) (p : String) (v : Value) :
    (writeInPlace p v).run root = match root.writeValue p v with
      | .ok written => .ok () written
      | .error e => .error e root := by
  simp only [writeInPlace, writeValue, writeJson, EStateM.run_bind, EStateM.run_get]
  -- the write in place makes the checks of the write, in its order, and writes only at its ends
  cases (Pointer.tokens p).bind (Pointer.replace? v.toJson root) with
  | some written => rfl
  | none =>
    cases splitAtLastSlash p with
    | none => rfl
    | some split =>
      obtain ⟨parent, key⟩ := split
      dsimp only
      cases root.pointer? parent with
      | none => rfl
      | some found =>
        cases found with
        | object ms =>
          dsimp only
          cases (Pointer.tokens parent).bind
              (Pointer.replace? (.object (insertMember (Pointer.unescape key) v.toJson ms)) root) <;> rfl
        | null | bool | number | string | array => rfl

end Json

/-- A failed write in place leaves the document as it was; a successful one makes the pointer read
back a value equal to the one written (nothing for the invalid value and non-finite numbers), and
leaves every pointer apart from it. -/
theorem writing_reads_back (root : Json) (p : String) (v : Value) (notNode : ∀ h, v ≠ .node h) :
    (Json.writeInPlace p v).run root = (match root.writeValue p v with
      | .ok written => .ok () written
      | .error e => .error e root) ∧
    (∀ written, root.writeValue p v = .ok written →
      written.readValue p = Value.ofJson? v.toJson ∧
        ∀ q, Json.Apart p q → written.readValue q = root.readValue q) ∧
    (Value.ofJson? v.toJson = none ↔ v = .invalid ∨ ∃ x, v = .number x ∧ x.isFinite = false) ∧
    ∀ w, Value.ofJson? v.toJson = some w → (v == w) = true := by
  refine ⟨Json.writeInPlace_run root p v, fun written succeeded => ⟨?_, ?_⟩,
    Value.ofJson?_toJson_eq_none_iff notNode, fun w read => Value.beq_ofJson?_toJson read⟩
  · exact Json.readValue_of_pointer? notNode (Json.pointer?_writeJson_self succeeded)
  · exact fun q apart => Json.readValue_writeJson succeeded apart

/-- A text added as a new member of a document reads back as itself. -/
theorem newMember_reads_back :
    ∃ written, (Json.object [("a", Json.int 1)]).writeValue "/b" (.text "x") = .ok written ∧
      written.readValue "/b" = some (.text "x") :=
  ⟨_, rfl, ((writing_reads_back (.object [("a", Json.int 1)]) "/b" (.text "x") (fun _ => by simp)).2.1 _
    rfl).1⟩

end RuleEngine
