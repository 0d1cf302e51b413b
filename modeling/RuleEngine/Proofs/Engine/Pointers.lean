import Mathlib.Data.Nat.Digits.Lemmas
import RuleEngine.Engine.Document

/-! # Writes at a pointer leave apart pointers alone

Writing at a pointer leaves what every pointer apart from it reads: where the two token sequences
part, the write changes one member or item and the other selects a different one; for arrays this
needs indices written without leading zeros. -/
set_option autoImplicit false
namespace RuleEngine

namespace Json

theorem lookupMember_insertMember_self (k : String) (v : Json) :
    ∀ ms : List (String × Json), lookupMember k (insertMember k v ms) = some v
  | [] => by simp [insertMember, lookupMember]
  | (k', v') :: rest => by
      unfold insertMember
      split
      · simp [lookupMember]
      · split
        · simp [lookupMember]
        · rename_i _ other
          simp only [lookupMember, other, if_false]
          exact lookupMember_insertMember_self k v rest

theorem lookupMember_insertMember_ne {k k' : String} (v : Json) (other : k' ≠ k) :
    ∀ ms : List (String × Json), lookupMember k' (insertMember k v ms) = lookupMember k' ms
  | [] => by simp [insertMember, lookupMember, other]
  | (k'', v'') :: rest => by
      unfold insertMember
      split
      · simp [lookupMember, other]
      · split
        · rename_i _ same
          subst same
          simp [lookupMember, other]
        · simp only [lookupMember]
          split
          · rfl
          · exact lookupMember_insertMember_ne v other rest

end Json

namespace Pointer

/-! ## Array indices -/

def digitsValue (cs : List Char) : Nat := cs.foldl (fun acc c => acc * 10 + (c.toNat - '0'.toNat)) 0

theorem digitsValue_eq_ofDigits (cs : List Char) :
    digitsValue cs = Nat.ofDigits 10 (cs.reverse.map fun c => c.toNat - '0'.toNat) := by
  induction cs using List.reverseRecOn with
  | nil => rfl
  | append_singleton cs c ih =>
      simp only [digitsValue, List.foldl_append, List.foldl_cons, List.foldl_nil] at ih ⊢
      rw [ih, List.reverse_append, List.reverse_singleton, List.singleton_append, List.map_cons,
        Nat.ofDigits_cons]
      ring

theorem toNat_of_isDigit {c : Char} (digit : c.isDigit = true) : 48 ≤ c.toNat ∧ c.toNat ≤ 57 := by
  simp only [Char.isDigit, Bool.and_eq_true, decide_eq_true_eq] at digit
  obtain ⟨lower, upper⟩ := digit
  rw [ge_iff_le, UInt32.le_iff_toNat_le] at lower
  rw [UInt32.le_iff_toNat_le] at upper
  exact ⟨lower, upper⟩

theorem toNat_sub_zero_lt {c : Char} (digit : c.isDigit = true) : c.toNat - '0'.toNat < 10 := by
  have bounds := toNat_of_isDigit digit
  have zero : '0'.toNat = 48 := rfl
  omega

theorem toNat_sub_zero_injective {c c' : Char} (digit : c.isDigit = true) (digit' : c'.isDigit = true)
    (same : c.toNat - '0'.toNat = c'.toNat - '0'.toNat) : c = c' := by
  have bounds := toNat_of_isDigit digit
  have bounds' := toNat_of_isDigit digit'
  have zero : '0'.toNat = 48 := rfl
  exact Char.toNat_inj.mp (by omega)

theorem map_toNat_sub_zero_injective :
    ∀ {cs cs' : List Char}, (∀ c ∈ cs, c.isDigit = true) → (∀ c ∈ cs', c.isDigit = true) →
      cs.map (fun c => c.toNat - '0'.toNat) = cs'.map (fun c => c.toNat - '0'.toNat) → cs = cs'
  | [], [], _, _, _ => rfl
  | c :: cs, c' :: cs', digits, digits', same => by
      simp only [List.map_cons, List.cons.injEq] at same
      rw [toNat_sub_zero_injective (digits c (List.mem_cons_self ..)) (digits' c' (List.mem_cons_self ..))
          same.1,
        map_toNat_sub_zero_injective (fun x member => digits x (List.mem_cons_of_mem c member))
          (fun x member => digits' x (List.mem_cons_of_mem c' member)) same.2]

theorem digits_digitsValue {cs : List Char} (nonempty : cs ≠ []) (digits : ∀ c ∈ cs, c.isDigit = true)
    (leading : cs.head? ≠ some '0') :
    Nat.digits 10 (digitsValue cs) = cs.reverse.map fun c => c.toNat - '0'.toNat := by
  rw [digitsValue_eq_ofDigits]
  refine Nat.digits_ofDigits 10 (by decide) _ ?_ ?_
  · intro d member
    obtain ⟨c, inCs, rfl⟩ := List.mem_map.mp member
    exact toNat_sub_zero_lt (digits c (List.mem_reverse.mp inCs))
  · intro notNil
    obtain ⟨c, rest, rfl⟩ := List.exists_cons_of_ne_nil nonempty
    have digit := digits c (List.mem_cons_self ..)
    have notZero : c ≠ '0' := fun same => leading (by simp [same])
    simp only [List.reverse_cons, List.map_append, List.map_cons, List.map_nil]
    intro zero
    exact notZero (toNat_sub_zero_injective digit (by decide) (by simpa using zero))

theorem index?_eq_some {t : String} {n : Nat} (found : index? t = some n) :
    t.toList ≠ [] ∧ (∀ c ∈ t.toList, c.isDigit = true) ∧ (t.toList.head? = some '0' → t.toList = ['0']) ∧
      digitsValue t.toList = n := by
  unfold index? at found
  simp only at found
  split at found
  · cases found
  rename_i notBad
  split at found
  · cases found
  rename_i canonical
  split at found
  · cases found
    simp only [Bool.or_eq_true, List.isEmpty_iff, Bool.not_eq_true', List.all_eq_false, not_or,
      not_exists, not_and, Decidable.not_not] at notBad
    simp only [Bool.and_eq_true, decide_eq_true_eq, ne_eq, not_and, Decidable.not_not] at canonical
    refine ⟨notBad.1, notBad.2, fun zero => ?_, rfl⟩
    obtain ⟨c, rest, shape⟩ := List.exists_cons_of_ne_nil notBad.1
    have single := canonical zero
    rw [shape] at zero single ⊢
    simp only [List.head?_cons, Option.some.injEq] at zero
    simp only [List.length_cons, Nat.add_eq_right, List.length_eq_zero_iff] at single
    rw [zero, single]
  · cases found

theorem index?_injective {t t' : String} {i : Nat} (found : index? t = some i) (found' : index? t' = some i) :
    t = t' := by
  obtain ⟨nonempty, digits, zero, value⟩ := index?_eq_some found
  obtain ⟨nonempty', digits', zero', value'⟩ := index?_eq_some found'
  apply String.toList_inj.mp
  by_cases leading : t.toList.head? = some '0' <;> by_cases leading' : t'.toList.head? = some '0'
  · rw [zero leading, zero' leading']
  · -- the value of `0` has no digits, a value written without a leading zero has some
    have none : Nat.digits 10 (digitsValue t'.toList) = [] := by
      rw [value', ← value, zero leading]
      rfl
    rw [digits_digitsValue nonempty' digits' leading'] at none
    simp [nonempty'] at none
  · have none : Nat.digits 10 (digitsValue t.toList) = [] := by
      rw [value, ← value', zero' leading']
      rfl
    rw [digits_digitsValue nonempty digits leading] at none
    simp [nonempty] at none
  · have same := digits_digitsValue nonempty digits leading
    rw [value, ← value', digits_digitsValue nonempty' digits' leading'] at same
    have reversed := map_toNat_sub_zero_injective (fun c member => digits' c (List.mem_reverse.mp member))
      (fun c member => digits c (List.mem_reverse.mp member)) same
    exact (List.reverse_inj.mp reversed).symm

/-! ## Reading after a replacement -/

/-- Two token sequences overlap when one is a prefix of the other. -/
def Overlap (tp tq : List String) : Prop := tp <+: tq ∨ tq <+: tp

theorem resolve?_append (root : Json) (tp rest : List String) :
    resolve? root (tp ++ rest) = (resolve? root tp).bind fun j => resolve? j rest := by
  induction tp generalizing root with
  | nil => simp [resolve?]
  | cons t tp ih => simp [resolve?, ih, Option.bind_assoc]

theorem replace?_cons_eq_some {v root root' : Json} {t : String} {rest : List String}
    (replaced : replace? v root (t :: rest) = some root') :
    (∃ ms c c', root = .object ms ∧ Json.lookupMember t ms = some c ∧ replace? v c rest = some c' ∧
        root' = .object (Json.insertMember t c' ms)) ∨
      ∃ xs i c c', root = .array xs ∧ index? t = some i ∧ xs[i]? = some c ∧ replace? v c rest = some c' ∧
        root' = .array (xs.set i c') := by
  cases root
  case object ms =>
    simp only [replace?] at replaced
    split at replaced
    · rename_i c found
      obtain ⟨c', inner, rfl⟩ := Option.map_eq_some_iff.mp replaced
      exact .inl ⟨ms, c, c', rfl, found, inner, rfl⟩
    · cases replaced
  case array xs =>
    simp only [replace?] at replaced
    split at replaced
    · rename_i i index
      split at replaced
      · rename_i c item
        obtain ⟨c', inner, rfl⟩ := Option.map_eq_some_iff.mp replaced
        exact .inr ⟨xs, i, c, c', rfl, index, item, inner, rfl⟩
      · cases replaced
    · cases replaced
  all_goals simp [replace?] at replaced

theorem resolve?_replace?_self {v : Json} {tp : List String} :
    ∀ {root root' : Json}, replace? v root tp = some root' → resolve? root' tp = some v := by
  induction tp with
  | nil =>
      intro root root' replaced
      cases replaced
      rfl
  | cons t rest ih =>
      intro root root' replaced
      rcases replace?_cons_eq_some replaced with
        ⟨ms, c, c', rfl, -, inner, rfl⟩ | ⟨xs, i, c, c', rfl, index, item, inner, rfl⟩
      · simp only [resolve?, child?, Json.lookupMember_insertMember_self, Option.bind_some]
        exact ih inner
      · have bound : i < xs.length := (List.getElem?_eq_some_iff.mp item).1
        simp only [resolve?, child?, index, Option.bind_some, List.getElem?_set_self bound]
        exact ih inner

theorem resolve?_replace?_apart {v : Json} {tp : List String} :
    ∀ {root root' : Json} {tq : List String}, replace? v root tp = some root' → ¬ Overlap tp tq →
      resolve? root' tq = resolve? root tq := by
  induction tp with
  | nil =>
      intro _ _ _ _ apart
      exact absurd (.inl (List.nil_prefix)) apart
  | cons t rest ih =>
      intro root root' tq replaced apart
      cases tq with
      | nil => exact absurd (.inr List.nil_prefix) apart
      | cons t' rest' =>
          -- where the sequences agree on their first token, they stay apart after it
          have restApart : t' = t → ¬ Overlap rest rest' := by
            rintro rfl overlap
            exact apart (overlap.imp (List.prefix_cons_inj _).mpr (List.prefix_cons_inj _).mpr)
          rcases replace?_cons_eq_some replaced with
            ⟨ms, c, c', rfl, found, inner, rfl⟩ | ⟨xs, i, c, c', rfl, index, item, inner, rfl⟩
          · by_cases same : t' = t
            · subst same
              simp only [resolve?, child?, Json.lookupMember_insertMember_self, found, Option.bind_some]
              exact ih inner (restApart rfl)
            · simp only [resolve?, child?, Json.lookupMember_insertMember_ne _ same]
          · have bound : i < xs.length := (List.getElem?_eq_some_iff.mp item).1
            by_cases same : t' = t
            · subst same
              simp only [resolve?, child?, index, Option.bind_some, List.getElem?_set_self bound, item]
              exact ih inner (restApart rfl)
            · -- another token selects no index, or another index
              cases index' : index? t' with
              | none => simp [resolve?, child?, index']
              | some j =>
                  have other : i ≠ j := fun same' => same (index?_injective index' (same' ▸ index))
                  simp [resolve?, child?, index', List.getElem?_set_ne other]

/-! ## The parent of a pointer -/

theorem splitAtLastSlash_eq_some {s parent key : String} (split : splitAtLastSlash s = some (parent, key)) :
    s.toList = parent.toList ++ '/' :: key.toList ∧ '/' ∉ key.toList := by
  unfold splitAtLastSlash at split
  simp only at split
  split at split
  · rename_i i found
    cases split
    rw [String.toList_ofList, String.toList_ofList]
    obtain ⟨slash, later, earlier, order, notSlash⟩ := List.find?_eq_some_iff_append.mp found
    have atSlash : s.toList[i]? = some '/' := by simpa using slash
    have bound : i < s.toList.length := (List.getElem?_eq_some_iff.mp atSlash).1
    constructor
    · conv_lhs => rw [← List.take_append_drop i s.toList, List.drop_eq_getElem_cons bound]
      rw [(List.getElem?_eq_some_iff.mp atSlash).2]
    · intro member
      obtain ⟨k, kBound, atK⟩ := List.getElem_of_mem member
      have beyond : s.toList[i + 1 + k]? = some '/' := by
        rw [← atK, List.getElem_drop, List.getElem?_eq_getElem]
      have inRange : i + 1 + k ∈ (List.range s.toList.length).reverse := by
        simp only [List.mem_reverse, List.mem_range]
        exact (List.getElem?_eq_some_iff.mp beyond).1
      have decreasing := List.pairwise_reverse.mpr (List.pairwise_lt_range (n := s.toList.length))
      rw [order] at inRange decreasing
      rcases List.mem_append.mp inRange with inLater | inRest
      · have := notSlash _ inLater
        simp [beyond] at this
      · rcases List.mem_cons.mp inRest with same | inEarlier
        · omega
        · have := (List.pairwise_cons.mp (List.pairwise_append.mp decreasing).2.1).1 _ inEarlier
          omega
  · cases split

theorem splitOn_slash_of_not_mem {cs : List Char} (noSlash : '/' ∉ cs) : cs.splitOn '/' = [cs] :=
  List.splitOnP_eq_singleton fun c member => by
    simp only [beq_eq_false_iff_ne, ne_eq]
    exact fun same => noSlash (same ▸ member)

theorem splitOn_slash_append {cs key : List Char} (noSlash : '/' ∉ key) :
    (cs ++ '/' :: key).splitOn '/' = cs.splitOn '/' ++ [key] := by
  have split : (cs ++ '/' :: key).splitOnP (· == '/') = cs.splitOnP (· == '/') ++ key.splitOnP (· == '/') :=
    List.splitOnP_append_cons cs key (by decide)
  rw [List.splitOn, split, ← List.splitOn, ← List.splitOn, splitOn_slash_of_not_mem noSlash]

theorem tokens_of_splitAtLastSlash {s parent key : String} {tpar : List String}
    (split : splitAtLastSlash s = some (parent, key)) (parentTokens : tokens parent = some tpar) :
    tokens s = some (tpar ++ [unescape key]) := by
  obtain ⟨shape, noSlash⟩ := splitAtLastSlash_eq_some split
  unfold tokens at parentTokens ⊢
  rw [shape]
  split at parentTokens
  · rename_i empty
    cases parentTokens
    simp [empty, splitOn_slash_of_not_mem noSlash, String.ofList_toList]
  · rename_i rest start
    cases parentTokens
    simp [start, splitOn_slash_append noSlash, String.ofList_toList]
  · cases parentTokens

theorem resolve?_replace?_addMember {root root' v : Json} {ms : List (String × Json)}
    {tpar tq : List String} {k : String} (atParent : resolve? root tpar = some (.object ms))
    (replaced : replace? (.object (Json.insertMember k v ms)) root tpar = some root')
    (apart : ¬ Overlap (tpar ++ [k]) tq) : resolve? root' tq = resolve? root tq := by
  by_cases nearParent : Overlap tpar tq
  · rcases nearParent with ⟨rest, rfl⟩ | below
    · -- below the parent, only the added key's member changed
      cases rest with
      | nil => exact absurd (.inr (by simp)) apart
      | cons t rest =>
          by_cases same : t = k
          · subst same
            exact absurd (.inl ⟨rest, by simp⟩) apart
          · rw [resolve?_append, resolve?_append, resolve?_replace?_self replaced, atParent]
            simp [resolve?, child?, Json.lookupMember_insertMember_ne _ same]
    · exact absurd (.inr (below.trans (List.prefix_append _ _))) apart
  · exact resolve?_replace?_apart replaced nearParent

end Pointer

namespace Json
open Pointer

/-- Two pointers are apart when the tokens of neither are a prefix of the tokens of the other. -/
def Apart (p q : String) : Prop := ∀ tp tq, tokens p = some tp → tokens q = some tq → ¬ Overlap tp tq

theorem writeJson_eq_ok {root root' v : Json} {p : String} (written : root.writeJson p v = .ok root') :
    (∃ tp, tokens p = some tp ∧ replace? v root tp = some root') ∨
      ∃ tpar key ms, tokens p = some (tpar ++ [key]) ∧ resolve? root tpar = some (.object ms) ∧
        replace? (.object (insertMember key v ms)) root tpar = some root' := by
  unfold writeJson at written
  split at written
  · rename_i replaced
    cases written
    exact .inl (Option.bind_eq_some_iff.mp replaced)
  split at written
  · cases written
  rename_i parent key split
  split at written
  · rename_i ms parentObject
    dsimp only at written
    split at written
    · rename_i replaced
      cases written
      obtain ⟨tpar, parentTokens, replaced⟩ := Option.bind_eq_some_iff.mp replaced
      have atParent : resolve? root tpar = some (.object ms) := by
        simpa [pointer?, parentTokens] using parentObject
      exact .inr ⟨tpar, unescape key, ms, tokens_of_splitAtLastSlash split parentTokens, atParent, replaced⟩
    · cases written
  · cases written
  · cases written

theorem pointer?_writeJson {root root' v : Json} {p q : String} (written : root.writeJson p v = .ok root')
    (apart : Apart p q) : root'.pointer? q = root.pointer? q := by
  cases queried : tokens q with
  | none => simp [pointer?, queried]
  | some tq =>
      simp only [pointer?, queried, Option.bind_some]
      rcases writeJson_eq_ok written with ⟨tp, pointed, replaced⟩ | ⟨tpar, key, ms, pointed, atParent, replaced⟩
      · exact resolve?_replace?_apart replaced (apart tp tq pointed queried)
      · exact resolve?_replace?_addMember atParent replaced (apart _ tq pointed queried)

theorem readValue_writeJson {root root' v : Json} {p q : String} (written : root.writeJson p v = .ok root')
    (apart : Apart p q) : root'.readValue q = root.readValue q := by
  unfold readValue
  rw [pointer?_writeJson written apart]

end Json

end RuleEngine
