import Mathlib
import RuleEngine.Text.Classes

/-! # White space and trimming

White space is one of 25 code points, none of them a letter or a number; trimming ignores white
space added at either end and keeps a text with none at its ends. -/
set_option autoImplicit false
namespace RuleEngine

namespace CharRanges

theorem containsIn_sound {t : CharRanges} {n lo hi : Nat} (found : t.containsIn n lo hi = true) :
    ∃ r ∈ t.ranges.toList, r.1 ≤ n ∧ n ≤ r.2 := by
  fun_induction containsIn t n lo hi with
  | case1 lo hi _ mid a b lookup below ih => exact ih found
  | case2 lo hi _ mid a b lookup notBelow above ih => exact ih found
  | case3 lo hi _ mid a b lookup notBelow notAbove =>
      exact ⟨(a, b), Array.mem_toList_iff.mpr (Array.mem_of_getElem? lookup), by omega, by omega⟩
  | case4 => simp at found
  | case5 => simp at found

end CharRanges

namespace Text

/-- The code points of white space. -/
def whiteSpacePoints : List Nat :=
  [9, 10, 11, 12, 13, 32, 133, 160, 5760, 8192, 8193, 8194, 8195, 8196, 8197, 8198, 8199, 8200,
    8201, 8202, 8232, 8233, 8239, 8287, 12288]

theorem toNat_mem_whiteSpacePoints {c : Char} (white : isWhiteSpace c = true) :
    c.toNat ∈ whiteSpacePoints := by
  obtain ⟨r, member, low, high⟩ := CharRanges.containsIn_sound white
  simp only [CharRanges.whiteSpace, List.mem_cons, List.not_mem_nil, or_false] at member
  simp only [whiteSpacePoints, List.mem_cons, List.not_mem_nil, or_false]
  rcases member with rfl | rfl | rfl | rfl | rfl | rfl | rfl | rfl | rfl | rfl <;> omega

theorem isAlphanumeric_whiteSpacePoints :
    ∀ n ∈ whiteSpacePoints, isAlphanumeric (Char.ofNat n) = false := by
  decide +kernel

theorem isWhiteSpace_of_isAlphanumeric {c : Char} (alphanumeric : isAlphanumeric c = true) :
    isWhiteSpace c = false := by
  by_contra white
  have point := toNat_mem_whiteSpacePoints (Bool.eq_true_of_not_eq_false white)
  have := isAlphanumeric_whiteSpacePoints c.toNat point
  rw [Char.ofNat_toNat, alphanumeric] at this
  exact Bool.noConfusion this

theorem isWhiteSpace_space : isWhiteSpace ' ' = true := by decide +kernel

theorem isWhiteSpace_point : isWhiteSpace '.' = false := by decide +kernel

section Trim
variable {xs ws : List Char}

theorem dropWhile_whiteSpace_cons {c : Char} (notWhite : isWhiteSpace c = false) (rest : List Char) :
    (c :: rest).dropWhile isWhiteSpace = c :: rest := by
  simp [notWhite]

theorem trimList_whiteSpace_append (white : ∀ c ∈ ws, isWhiteSpace c = true) :
    trimList (ws ++ xs) = trimList xs := by
  simp only [trimList, List.dropWhile_append_of_pos white]

theorem trimList_append_whiteSpace (white : ∀ c ∈ ws, isWhiteSpace c = true) :
    trimList (xs ++ ws) = trimList xs := by
  have whiteReversed : ∀ c ∈ ws.reverse, isWhiteSpace c = true := fun c member =>
    white c (List.mem_reverse.mp member)
  unfold trimList
  rw [List.dropWhile_append]
  split
  · rename_i allWhite
    rw [List.isEmpty_iff.mp allWhite, List.dropWhile_eq_nil_iff.mpr white]
  · rw [List.reverse_append, List.dropWhile_append_of_pos whiteReversed]

theorem trimList_of_whiteSpace (white : ∀ c ∈ ws, isWhiteSpace c = true) : trimList ws = [] := by
  simp [trimList, List.dropWhile_eq_nil_iff.mpr white]

theorem trimList_of_ends {c : Char} {rest : List Char} (first : isWhiteSpace c = false)
    (last : isWhiteSpace ((c :: rest).getLast (List.cons_ne_nil c rest)) = false) :
    trimList (c :: rest) = c :: rest := by
  unfold trimList
  rw [dropWhile_whiteSpace_cons first]
  obtain ⟨init, final, split⟩ := List.eq_nil_or_concat (c :: rest) |>.resolve_left (List.cons_ne_nil c rest)
  have finalNotWhite : isWhiteSpace final = false := by
    simpa [split] using last
  rw [split, List.concat_eq_append, List.reverse_append, List.reverse_singleton,
    List.singleton_append, dropWhile_whiteSpace_cons finalNotWhite, List.reverse_cons,
    List.reverse_reverse]

end Trim

end Text

end RuleEngine
