import Mathlib
import RuleEngine.Expression.Operation

/-! # Equality and order agree

`==` compares by value equality and `> < >= <=` by `Value.compare?`, which swaps with its operands
and on an ordered pair is `eq` exactly when the values are equal; so the two paths agree. -/
set_option autoImplicit false
namespace RuleEngine

open Float.Model UnpackedFloat

namespace Value

/-! ## The order of floats -/

theorem unpacked_compare_swap (x y : UnpackedFloat) :
    y.compare x = (x.compare y).map Ordering.swap := by
  have lexicographic : ∀ (e e' : Int) (m m' : Nat),
      (compare e' e).then (compare m' m) = ((compare e e').then (compare m m')).swap := by
    intro e e' m m'
    rw [Ordering.swap_then, ← Std.OrientedOrd.eq_swap, ← Std.OrientedOrd.eq_swap]
  cases x with
  | notANumber => cases y <;> rfl
  | infinity s =>
    cases y with
    | notANumber => rfl
    | infinity t => cases s <;> cases t <;> rfl
    | zero t => cases s <;> rfl
    | finite t m e h => cases s <;> cases t <;> rfl
  | zero s =>
    cases y with
    | notANumber => rfl
    | infinity t => cases t <;> rfl
    | zero t => rfl
    | finite t m e h => cases t <;> rfl
  | finite s m e h =>
    cases y with
    | notANumber => rfl
    | infinity t => cases s <;> cases t <;> rfl
    | zero t => cases s <;> rfl
    | finite t m' e' h' =>
      cases s <;> cases t <;> simp only [UnpackedFloat.compare, Option.map_some, Ordering.swap_swap]
      case negative.negative => rw [lexicographic, Ordering.swap_swap]
      case positive.positive => rw [lexicographic]
      all_goals rfl

theorem unpacked_compare_isSome (x y : UnpackedFloat) : (x.compare y).isSome = (!x.isNaN && !y.isNaN) := by
  rcases x with s | _ | s | ⟨s, m, e, h⟩ <;> rcases y with t | _ | t | ⟨t, m', e', h'⟩ <;>
    (try cases s) <;> (try cases t) <;> rfl

theorem lt_iff_compare (x y : Float) : x < y ↔ x.toModel.compare y.toModel = some .lt := by
  simp only [LT.lt, Float.lt, Float.Model.lt, UnpackedFloat.lt, Float.Model.compare, decide_eq_true_eq,
    beq_iff_eq]

theorem beq_eq_compare (x y : Float) : (x == y) = (x.toModel.compare y.toModel == some .eq) := rfl

theorem order_of_tests (o : Option Ordering) :
    (if o = some .lt then some .lt else if o.map Ordering.swap = some .lt then some .gt
      else if (o == some .eq) = true then some .eq else none) = o := by
  rcases o with _ | _ | _ | _ <;> rfl

theorem compareFloat_eq (a b : Float) : compareFloat a b = a.toModel.compare b.toModel := by
  have swapped : b.toModel.compare a.toModel = (a.toModel.compare b.toModel).map Ordering.swap :=
    unpacked_compare_swap _ _
  unfold compareFloat
  simp only [lt_iff_compare, beq_eq_compare, swapped]
  exact order_of_tests _

/-! ## The order of values -/

theorem compare?_swap (a b : Value) : b.compare? a = (a.compare? b).map Ordering.swap := by
  cases a <;> cases b
  case number.number x y =>
    simp only [compare?, compareFloat_eq]
    exact unpacked_compare_swap _ _
  case text.text s t => exact congrArg some Std.OrientedOrd.eq_swap
  case boolean.boolean p q => exact congrArg some Std.OrientedOrd.eq_swap
  all_goals rfl

theorem compare?_isSome_iff (a b : Value) : (a.compare? b).isSome ↔
    (∃ x y, a = .number x ∧ b = .number y ∧ x.isNaN = false ∧ y.isNaN = false) ∨
      (∃ s t, a = .text s ∧ b = .text t) ∨ (∃ p q, a = .boolean p ∧ b = .boolean q) := by
  cases a <;> cases b
  case number.number x y =>
    have ordered := unpacked_compare_isSome x.toModel.unpack y.toModel.unpack
    simp only [compare?, compareFloat_eq, Float.Model.compare, ordered, Bool.and_eq_true,
      Bool.not_eq_true']
    simp [Float.isNaN, Float.Model.isNaN]
  all_goals simp [compare?]

theorem beq_of_compare? {a b : Value} {o : Ordering} (ordered : a.compare? b = some o) :
    (a == b) = (o == .eq) := by
  cases a <;> cases b <;> simp only [compare?, reduceCtorEq] at ordered
  case number.number x y =>
    show (x == y) = _
    rw [compareFloat_eq] at ordered
    rw [beq_eq_compare, ordered]
    cases o <;> rfl
  case text.text s t =>
    show (s == t) = _
    cases o
    case eq => simpa using Std.LawfulEqOrd.eq_of_compare (Option.some.inj ordered)
    all_goals
      have apart : s ≠ t := fun same => by simp [same] at ordered
      simpa using apart
  case boolean.boolean p q =>
    show (p == q) = _
    cases p <;> cases q <;> cases o <;> simp_all [compare]

theorem isInvalid_of_compare? {a b : Value} {o : Ordering} (ordered : a.compare? b = some o) :
    (a.isInvalid || b.isInvalid) = false := by
  cases a <;> cases b <;> simp_all [compare?, isInvalid]

end Value

/-! ## The comparison operators -/

namespace Operator

theorem apply_ne (a b : Value) : Operator.apply .ne a b = Operator.applyUnary .not (Operator.apply .eq a b) := by
  simp only [Operator.apply, Operation.equality]
  split <;> simp [Operator.applyUnary]

theorem apply_gt (a b : Value) : Operator.apply .gt a b = Operator.apply .lt b a := by
  simp only [Operator.apply, Operation.ordering, Value.compare?_swap a b]
  cases a.compare? b with
  | none => rfl
  | some o => cases o <;> rfl

theorem apply_ge (a b : Value) : Operator.apply .ge a b = Operator.apply .le b a := by
  simp only [Operator.apply, Operation.ordering, Value.compare?_swap a b]
  cases a.compare? b with
  | none => rfl
  | some o => cases o <;> rfl

theorem ge_and_le_iff_eq {a b : Value} (ordered : (a.compare? b).isSome) :
    (Operator.apply .ge a b = .boolean true ∧ Operator.apply .le a b = .boolean true) ↔
      Operator.apply .eq a b = .boolean true := by
  obtain ⟨o, order⟩ := Option.isSome_iff_exists.mp ordered
  have valid := Value.isInvalid_of_compare? order
  have equal := Value.beq_of_compare? order
  simp only [Operator.apply, Operation.ordering, Operation.equality, order, valid, equal]
  cases o <;> simp

/-- `!=` is `NOT` of `==`, `>` and `>=` are `<` and `<=` swapped, and on an ordered pair `>=` and
`<=` both hold exactly when `==` does. -/
theorem comparisons_agree (a b : Value) :
    Operator.apply .ne a b = Operator.applyUnary .not (Operator.apply .eq a b) ∧
      Operator.apply .gt a b = Operator.apply .lt b a ∧
      Operator.apply .ge a b = Operator.apply .le b a ∧
      ((a.compare? b).isSome →
        (Operator.apply .ge a b = .boolean true ∧ Operator.apply .le a b = .boolean true ↔
          Operator.apply .eq a b = .boolean true)) :=
  ⟨apply_ne a b, apply_gt a b, apply_ge a b, ge_and_le_iff_eq⟩

/-- Zero and negative zero are ordered, and `>=`, `<=` and `==` all hold of them. -/
theorem zeros_compare_equal :
    ((Value.number 0).compare? (.number (-0))).isSome = true ∧
      Operator.apply .eq (.number 0) (.number (-0)) = .boolean true ∧
      (Operator.apply .ge (.number 0) (.number (-0)) = .boolean true ∧
          Operator.apply .le (.number 0) (.number (-0)) = .boolean true ↔
        Operator.apply .eq (.number 0) (.number (-0)) = .boolean true) :=
  ⟨by decide +kernel, by decide +kernel,
    (comparisons_agree (.number 0) (.number (-0))).2.2.2 (by decide +kernel)⟩

end Operator

end RuleEngine
