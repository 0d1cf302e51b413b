import RuleEngine.Proofs.Expression.Tree
import RuleEngine.Proofs.Text.Trim
import RuleEngine.Proofs.Decimal.RoundTrip

/-! # Reading written tokens back

The lexer reads tokens written with single spaces back as the tokens themselves when no two words
stand side by side and no identifier stands right before an opening parenthesis: a word waits as
pending text until the next piece ends it. -/
set_option autoImplicit false
namespace RuleEngine

namespace Lexer

/-! ## Characters -/

theorem isWordChar_of_isSymbol {c : Char} (symbol : isSymbol c = true) : isWordChar c = false := by
  simp only [isSymbol, Bool.or_eq_true, decide_eq_true_eq] at symbol
  rcases symbol with ((((((((((rfl | rfl) | rfl) | rfl) | rfl) | rfl) | rfl) | rfl) | rfl) | rfl) |
    rfl) | rfl <;> decide

theorem isWhiteSpace_of_isWordChar {c : Char} (word : isWordChar c = true) :
    Text.isWhiteSpace c = false := by
  simp only [isWordChar, Bool.or_eq_true, decide_eq_true_eq] at word
  rcases word with (alphanumeric | rfl) | rfl
  · exact Text.isWhiteSpace_of_isAlphanumeric alphanumeric
  · decide +kernel
  · exact Text.isWhiteSpace_point

theorem symbol_of_isOperator {s : String} (operator : isOperator s = true) :
    ∃ op : Operator, op.symbol = s := by
  obtain ⟨op, found⟩ := Option.isSome_iff_exists.mp operator
  exact ⟨op, by simpa using List.find?_some found⟩

theorem space_not_mem_symbol (op : Operator) : ' ' ∉ op.symbol.toList := by
  cases op <;> decide

/-! ## Cutting, one piece at a time -/

section Cut
variable (pending : List Char) (pieces : List String)

theorem cut_space (rest : List Char) : cut pending pieces (' ' :: rest) = cut (' ' :: pending) pieces rest := by
  have notWord : isWordChar ' ' = false := by decide
  rw [cut]
  simp [isSymbol, notWord]

theorem cut_paren {c : Char} (paren : c = '(' ∨ c = ')') (rest : List Char) :
    cut pending pieces (c :: rest) = cut [] (String.singleton c :: flush pending.reverse pieces) rest := by
  have notQuote : c ≠ '"' := by rcases paren with rfl | rfl <;> decide
  rw [cut]
  simp [notQuote, paren]

theorem cut_quoted {inside : List Char} (noQuote : '"' ∉ inside) (after : List Char) :
    cut pending pieces ('"' :: (inside ++ '"' :: after)) =
      cut [] (String.ofList ('"' :: inside ++ ['"']) :: flush pending.reverse pieces) after := by
  have notQuote : ∀ c ∈ inside, c ≠ '"' := fun c member same => noQuote (same ▸ member)
  have take : (inside ++ '"' :: after).takeWhile (· ≠ '"') = inside := by
    rw [List.takeWhile_append_of_pos (by simpa using notQuote)]
    simp
  have drop : (inside ++ '"' :: after).dropWhile (· ≠ '"') = '"' :: after := by
    rw [List.dropWhile_append_of_pos (by simpa using notQuote)]
    simp
  rw [cut]
  simp only [if_true]
  split
  · rename_i none
    rw [drop] at none
    exact absurd none (List.cons_ne_nil _ _)
  · rename_i first rest found
    rw [drop] at found
    obtain ⟨-, rfl⟩ := List.cons.inj found
    rw [take]

theorem cut_symbol {c : Char} (symbol : isSymbol c = true) (operator : isOperator (String.singleton c) = true)
    {rest : List Char} (next : ∀ d ∈ rest.head?, d = ' ') :
    cut pending pieces (c :: rest) = cut [] (String.singleton c :: flush pending.reverse pieces) rest := by
  have notQuote : c ≠ '"' := fun same => by rw [same] at symbol; exact Bool.noConfusion symbol
  have notParen : ¬ (c = '(' ∨ c = ')') := by
    rintro (rfl | rfl) <;> exact Bool.noConfusion symbol
  rw [cut]
  simp only [notQuote, if_false, notParen, symbol, if_true]
  cases rest with
  | nil => simp [operator]
  | cons d more =>
      obtain rfl : d = ' ' := next d rfl
      have noPair : isOperator (String.singleton c ++ " ") = false := by
        by_contra pair
        obtain ⟨op, same⟩ := symbol_of_isOperator (Bool.eq_true_of_not_eq_false pair)
        exact space_not_mem_symbol op (by simp [same])
      simp [noPair, operator]

theorem cut_symbolPair {c d : Char} (symbol : isSymbol c = true)
    (operator : isOperator (String.ofList [c, d]) = true) (rest : List Char) :
    cut pending pieces (c :: d :: rest) =
      cut [] (String.ofList [c, d] :: flush pending.reverse pieces) rest := by
  have notQuote : c ≠ '"' := fun same => by rw [same] at symbol; exact Bool.noConfusion symbol
  have notParen : ¬ (c = '(' ∨ c = ')') := by
    rintro (rfl | rfl) <;> exact Bool.noConfusion symbol
  rw [cut]
  simp only [notQuote, if_false, notParen, symbol, if_true]
  rw [if_pos operator]

theorem cut_word {w : List Char} (nonEmpty : w ≠ []) (word : ∀ c ∈ w, isWordChar c = true)
    {rest : List Char} (next : ∀ d ∈ rest.head?, isWordChar d = false) :
    cut pending pieces (w ++ rest) =
      if keywords.contains (String.ofList w) then
        cut [] (String.ofList w :: flush pending.reverse pieces) rest
      else cut (w.reverse ++ pending) pieces rest := by
  obtain ⟨c, cs, rfl⟩ := List.exists_cons_of_ne_nil nonEmpty
  have first : isWordChar c = true := word c (List.mem_cons_self ..)
  have notQuote : c ≠ '"' := fun same => by rw [same] at first; exact Bool.noConfusion first
  have notParen : ¬ (c = '(' ∨ c = ')') := by
    rintro (rfl | rfl) <;> exact Bool.noConfusion first
  have notSymbol : isSymbol c = false := by
    by_contra symbol
    rw [isWordChar_of_isSymbol (Bool.eq_true_of_not_eq_false symbol)] at first
    exact Bool.noConfusion first
  have restWord : ∀ x ∈ cs, isWordChar x = true := fun x member =>
    word x (List.mem_cons_of_mem c member)
  have stopTake : rest.takeWhile isWordChar = [] := by
    cases rest with
    | nil => rfl
    | cons d more => simp [next d rfl]
  have stopDrop : rest.dropWhile isWordChar = rest := by
    cases rest with
    | nil => rfl
    | cons d more => simp [next d rfl]
  have take : (cs ++ rest).takeWhile isWordChar = cs := by
    rw [List.takeWhile_append_of_pos restWord, stopTake, List.append_nil]
  have drop : (cs ++ rest).dropWhile isWordChar = rest := by
    rw [List.dropWhile_append_of_pos restWord, stopDrop]
  rw [List.cons_append, cut]
  simp only [notQuote, if_false, notParen, notSymbol, Bool.false_eq_true, first, if_true, take,
    drop]

end Cut

end Lexer

namespace Token

/-- The tokens written as words, held as pending text until a piece starts: identifiers, numbers,
booleans. -/
def isWord : Token → Bool
  | .identifier _ | .literal (.number _) | .literal (.boolean _) => true
  | _ => false

/-- A token whose written form is read back as itself: every parenthesis, operator and function, and
plain literals. -/
def Plain : Token → Prop
  | .literal v => ExprTree.plainLiteral v = true
  | .identifier name => ExprTree.plainIdentifier name = true
  | _ => True

/-- Two tokens the lexer keeps apart side by side: not two words, and no identifier before an
opening parenthesis. -/
def Separated (a b : Token) : Prop :=
  ¬ (a.isWord = true ∧ b.isWord = true) ∧ ∀ name, a = .identifier name → b ≠ .openParen

theorem isWordChar_of_isDigit {c : Char} (digit : c.isDigit = true) : Lexer.isWordChar c = true := by
  have ascii : c.toNat < 128 := by
    simp only [Char.isDigit, Bool.and_eq_true, decide_eq_true_eq, ge_iff_le,
      UInt32.le_iff_toNat_le] at digit
    have nine : '9'.val.toNat = 57 := rfl
    simp only [Char.toNat]
    omega
  simp [Lexer.isWordChar, Text.isAlphanumeric, Text.isAlphabetic, Text.isNumeric, ascii, digit]

theorem plainNumber_text {x : Float} (plain : ExprTree.plainLiteral (.number x) = true) :
    ∃ m e, Binary64.ofFloat x = .finite false m e ∧
      ∃ ws fs : List Char, ws ≠ [] ∧ (∀ c ∈ ws, c.isDigit = true) ∧ (∀ c ∈ fs, c.isDigit = true) ∧
        (Layout.plain.float x).toList = (if fs = [] then ws else ws ++ '.' :: fs) := by
  simp only [ExprTree.plainLiteral] at plain
  split at plain
  · rename_i m e parts
    obtain ⟨ws, fs, nonEmpty, whole, fraction, chars, -⟩ :=
      Decimal.positional_parts (if m = 0 then (⟨0, 0⟩ : Decimal) else Decimal.shortest .up m e)
    exact ⟨m, e, parts, ws, fs, nonEmpty, whole, fraction, by rw [Decimal.plain_float_positive parts, chars]⟩
  · exact Bool.noConfusion plain

theorem keyword_head {s : String} (keyword : Lexer.keywords.contains s = true) :
    ∀ c ∈ s.toList.head?, c.isDigit = false := by
  simp only [Lexer.keywords, List.contains_iff_mem, List.mem_cons, List.not_mem_nil, or_false] at keyword
  intro c first
  rcases keyword with rfl | rfl | rfl | rfl | rfl <;> simp at first <;> subst first <;> rfl

theorem word_render {t : Token} (plain : t.Plain) (word : t.isWord = true) :
    t.render.toList ≠ [] ∧ (∀ c ∈ t.render.toList, Lexer.isWordChar c = true) ∧
      Lexer.keywords.contains t.render = false := by
  cases t with
  | identifier name =>
      simp only [Plain, ExprTree.plainIdentifier, Bool.and_eq_true, Bool.not_eq_true'] at plain
      obtain ⟨⟨⟨identifier, notKeyword⟩, -⟩, -⟩ := plain
      simp only [Lexer.isIdentifier] at identifier
      split at identifier
      · rename_i c cs chars
        simp only [Bool.and_eq_true, List.all_eq_true] at identifier
        refine ⟨by simp [render, chars], ?_, notKeyword⟩
        intro d member
        rw [render, chars] at member
        rcases List.mem_cons.mp member with rfl | inRest
        · simp [Lexer.isWordChar, Text.isAlphanumeric, identifier.1]
        · simp [Lexer.isWordChar, identifier.2 d inRest]
      · exact Bool.noConfusion identifier
  | literal v =>
      cases v with
      | number x =>
          obtain ⟨m, e, -, ws, fs, nonEmpty, whole, fraction, chars⟩ := plainNumber_text plain
          have text : (literal (.number x)).render = Layout.plain.float x := rfl
          obtain ⟨c, cs, first⟩ := List.exists_cons_of_ne_nil nonEmpty
          have startsWith : (Layout.plain.float x).toList.head? = some c := by
            rw [chars]
            split <;> simp [first]
          refine ⟨?_, ?_, ?_⟩
          · rw [text, chars]
            split <;> simp [nonEmpty]
          · rw [text, chars]
            intro d member
            split at member
            · exact isWordChar_of_isDigit (whole d member)
            · rcases List.mem_append.mp member with inWhole | inRest
              · exact isWordChar_of_isDigit (whole d inWhole)
              · rcases List.mem_cons.mp inRest with rfl | inFraction
                · decide
                · exact isWordChar_of_isDigit (fraction d inFraction)
          · -- a keyword starts with a letter, a number with a digit
            by_contra keyword
            have letter := keyword_head (Bool.eq_true_of_not_eq_false keyword)
            rw [text, startsWith] at letter
            have digit := whole c (by simp [first])
            rw [letter c rfl] at digit
            exact Bool.noConfusion digit
      | boolean b =>
          cases b
          · exact ⟨by decide, List.all_eq_true.mp (by decide), by decide⟩
          · exact ⟨by decide, List.all_eq_true.mp (by decide), by decide⟩
      | text | node | invalid => exact Bool.noConfusion word
  | openParen | closeParen | builtin | operator => exact Bool.noConfusion word

end Token

namespace Lexer

theorem operator_text (op : Operator) :
    (∃ c, op.symbol.toList = [c] ∧ isSymbol c = true ∧ isOperator (String.singleton c) = true) ∨
    (∃ c d, op.symbol.toList = [c, d] ∧ isSymbol c = true ∧
      isOperator (String.ofList [c, d]) = true) ∨
    (op.symbol.toList ≠ [] ∧ (∀ c ∈ op.symbol.toList, isWordChar c = true) ∧
      keywords.contains op.symbol = true) := by
  cases op
  · exact .inl ⟨'+', rfl, by decide, by decide⟩
  · exact .inl ⟨'-', rfl, by decide, by decide⟩
  · exact .inl ⟨'*', rfl, by decide, by decide⟩
  · exact .inl ⟨'/', rfl, by decide, by decide⟩
  · exact .inl ⟨'%', rfl, by decide, by decide⟩
  · exact .inl ⟨'^', rfl, by decide, by decide⟩
  · exact .inr (.inl ⟨'=', '=', rfl, by decide, by decide⟩)
  · exact .inr (.inl ⟨'!', '=', rfl, by decide, by decide⟩)
  · exact .inl ⟨'>', rfl, by decide, by decide⟩
  · exact .inl ⟨'<', rfl, by decide, by decide⟩
  · exact .inr (.inl ⟨'>', '=', rfl, by decide, by decide⟩)
  · exact .inr (.inl ⟨'<', '=', rfl, by decide, by decide⟩)
  all_goals
    refine .inr (.inr ⟨?_, ?_, by decide⟩)
  · rw [show Operator.and.symbol.toList = ['A', 'N', 'D'] from rfl]; exact List.cons_ne_nil _ _
  · rw [show Operator.and.symbol.toList = ['A', 'N', 'D'] from rfl]; exact List.all_eq_true.mp (by decide)
  · rw [show Operator.or.symbol.toList = ['O', 'R'] from rfl]; exact List.cons_ne_nil _ _
  · rw [show Operator.or.symbol.toList = ['O', 'R'] from rfl]; exact List.all_eq_true.mp (by decide)
  · rw [show Operator.xor.symbol.toList = ['X', 'O', 'R'] from rfl]; exact List.cons_ne_nil _ _
  · rw [show Operator.xor.symbol.toList = ['X', 'O', 'R'] from rfl]; exact List.all_eq_true.mp (by decide)
  · rw [show Operator.not.symbol.toList = ['N', 'O', 'T'] from rfl]; exact List.cons_ne_nil _ _
  · rw [show Operator.not.symbol.toList = ['N', 'O', 'T'] from rfl]; exact List.all_eq_true.mp (by decide)

section Render
variable (pending : List Char) (pieces : List String)

theorem not_isWordChar_of_space {rest : List Char} (next : ∀ d ∈ rest.head?, d = ' ') :
    ∀ d ∈ rest.head?, isWordChar d = false := fun d member => by
  rw [next d member]
  decide

theorem cut_pendingWord {w : List Char} (nonEmpty : w ≠ []) (word : ∀ c ∈ w, isWordChar c = true)
    (notKeyword : keywords.contains (String.ofList w) = false) {rest : List Char}
    (next : ∀ d ∈ rest.head?, d = ' ') :
    cut pending pieces (w ++ rest) = cut (w.reverse ++ pending) pieces rest := by
  rw [cut_word pending pieces nonEmpty word (not_isWordChar_of_space next), notKeyword]
  rfl

theorem cut_keyword {w : List Char} (nonEmpty : w ≠ []) (word : ∀ c ∈ w, isWordChar c = true)
    (keyword : keywords.contains (String.ofList w) = true) {rest : List Char}
    (next : ∀ d ∈ rest.head?, d = ' ') :
    cut pending pieces (w ++ rest) = cut [] (String.ofList w :: flush pending.reverse pieces) rest := by
  rw [cut_word pending pieces nonEmpty word (not_isWordChar_of_space next), if_pos keyword]

theorem cut_render {t : Token} (plain : t.Plain) {rest : List Char}
    (next : ∀ d ∈ rest.head?, d = ' ') :
    cut pending pieces (t.render.toList ++ rest) =
      if t.isWord then cut (t.render.toList.reverse ++ pending) pieces rest
      else cut [] (t.render :: flush pending.reverse pieces) rest := by
  cases word : t.isWord
  case true =>
    obtain ⟨nonEmpty, chars, notKeyword⟩ := Token.word_render plain word
    exact cut_pendingWord pending pieces nonEmpty chars (by rwa [String.ofList_toList]) next
  case false =>
    simp only [Bool.false_eq_true, if_false]
    cases t with
    | openParen => exact cut_paren pending pieces (.inl rfl) rest
    | closeParen => exact cut_paren pending pieces (.inr rfl) rest
    | builtin f =>
        cases f
        have text : (Token.builtin .isNull).render.toList = ['I', 'S', 'N', 'U', 'L', 'L'] := rfl
        rw [text, cut_keyword pending pieces (List.cons_ne_nil _ _) (List.all_eq_true.mp (by decide))
          (by decide) next]
        rfl
    | operator op =>
        simp only [Token.render]
        rcases operator_text op with ⟨c, text, symbol, operator⟩ | ⟨c, d, text, symbol, operator⟩ |
          ⟨nonEmpty, chars, keyword⟩
        · have same : String.singleton c = op.symbol := by
            rw [String.singleton_eq_ofList, ← text, String.ofList_toList]
          rw [text, List.singleton_append, cut_symbol pending pieces symbol operator next, same]
        · have same : String.ofList [c, d] = op.symbol := by rw [← text, String.ofList_toList]
          rw [text, List.cons_append, List.singleton_append,
            cut_symbolPair pending pieces symbol operator, same]
        · rw [cut_keyword pending pieces nonEmpty chars (by rwa [String.ofList_toList]) next,
            String.ofList_toList]
    | literal v =>
        cases v with
        | text s =>
            have noQuote : '"' ∉ s.toList := by
              simpa [Token.Plain, ExprTree.plainLiteral] using plain
            have text : (Token.literal (.text s)).render.toList ++ rest =
                '"' :: (s.toList ++ '"' :: rest) := by
              simp [Token.render]
            have written :
                String.ofList ('"' :: s.toList ++ ['"']) = (Token.literal (.text s)).render := by
              simp [Token.render, ← String.toList_inj]
            rw [text, cut_quoted pending pieces noQuote rest, written]
        | number | boolean => exact Bool.noConfusion word
        | node | invalid => exact absurd plain (by simp [Token.Plain, ExprTree.plainLiteral])
    | identifier => exact Bool.noConfusion word

end Render

/-! ## Cutting written tokens -/

section Flush
variable {ws ws' w : List Char} (pieces : List String)

theorem flush_whiteSpace (white : ∀ c ∈ ws, Text.isWhiteSpace c = true) : flush ws pieces = pieces := by
  simp [flush, Text.trimList_of_whiteSpace white]

theorem flush_word (before : ∀ c ∈ ws, Text.isWhiteSpace c = true)
    (after : ∀ c ∈ ws', Text.isWhiteSpace c = true) (nonEmpty : w ≠ [])
    (word : ∀ c ∈ w, isWordChar c = true) : flush (ws ++ w ++ ws') pieces = String.ofList w :: pieces := by
  obtain ⟨c, cs, rfl⟩ := List.exists_cons_of_ne_nil nonEmpty
  have trimmed : Text.trimList (c :: cs) = c :: cs :=
    Text.trimList_of_ends (isWhiteSpace_of_isWordChar (word c (List.mem_cons_self ..)))
      (isWhiteSpace_of_isWordChar (word _ (List.getLast_mem _)))
  unfold flush
  rw [Text.trimList_append_whiteSpace after, Text.trimList_whiteSpace_append before, trimmed]
  rfl

end Flush

theorem renderTokens_cons_cons (t u : Token) (ts : List Token) :
    (renderTokens (t :: u :: ts)).toList = t.render.toList ++ ' ' :: (renderTokens (u :: ts)).toList := by
  simp [renderTokens, String.intercalate_cons_cons]

theorem renderTokens_singleton (t : Token) : (renderTokens [t]).toList = t.render.toList ++ [] := by
  simp [renderTokens]

theorem cut_renderTokens {ts : List Token} (plain : ∀ t ∈ ts, t.Plain)
    (separated : ts.IsChain Token.Separated) (pending : List Char) (pieces : List String)
    (white : ∀ t ∈ ts.head?, t.isWord = true → ∀ c ∈ pending, Text.isWhiteSpace c = true) :
    cut pending pieces (renderTokens ts).toList =
      .ok ((flush pending.reverse pieces).reverse ++ ts.map Token.render) := by
  induction ts generalizing pending pieces with
  | nil => simp [renderTokens, cut]
  | cons t rest ih =>
      have tPlain := plain t (List.mem_cons_self ..)
      have pendingWhite : t.isWord = true → ∀ c ∈ pending.reverse, Text.isWhiteSpace c = true :=
        fun word c member => white t rfl word c (List.mem_reverse.mp member)
      cases rest with
      | nil =>
          rw [renderTokens_singleton, cut_render pending pieces tPlain (by simp)]
          split
          · rename_i word
            obtain ⟨nonEmpty, chars, -⟩ := Token.word_render tPlain word
            rw [cut, List.reverse_append, List.reverse_reverse,
              ← List.append_nil (pending.reverse ++ _),
              flush_word pieces (pendingWhite word) (by simp) nonEmpty chars,
              flush_whiteSpace pieces (pendingWhite word), String.ofList_toList]
            simp
          · rw [cut, List.reverse_nil, flush_whiteSpace _ (by simp)]
            simp
      | cons u more =>
          have tail := ih (fun x member => plain x (List.mem_cons_of_mem t member))
            (List.IsChain.tail separated)
          obtain ⟨apart, -⟩ := List.isChain_cons_cons.mp separated |>.1
          rw [renderTokens_cons_cons, cut_render pending pieces tPlain (by simp)]
          split
          · -- a word: the next token is none, and the next piece ends the word
            rename_i word
            obtain ⟨nonEmpty, chars, -⟩ := Token.word_render tPlain word
            have uNotWord : u.isWord = false := by
              cases other : u.isWord
              · rfl
              · exact absurd ⟨word, other⟩ apart
            rw [cut_space, tail _ _ (by simp [uNotWord]), List.reverse_cons, List.reverse_append,
              List.reverse_reverse,
              flush_word pieces (pendingWhite word) (by simp [Text.isWhiteSpace_space]) nonEmpty chars,
              flush_whiteSpace pieces (pendingWhite word), String.ofList_toList]
            simp
          · -- a piece: only the space after it is pending
            have space : ∀ c ∈ [' '], Text.isWhiteSpace c = true := by simp [Text.isWhiteSpace_space]
            rw [cut_space, tail _ _ (fun _ _ _ => space), List.reverse_singleton,
              flush_whiteSpace _ space]
            simp

theorem pieces_renderTokens {ts : List Token} (plain : ∀ t ∈ ts, t.Plain)
    (separated : ts.IsChain Token.Separated) : pieces (renderTokens ts) = .ok (ts.map Token.render) := by
  rw [pieces, cut_renderTokens plain separated [] [] (by simp), List.reverse_nil,
    flush_whiteSpace _ (by simp)]
  simp

/-! ## Classifying -/

theorem Builtin.name_ofName? {s : String} {f : Builtin} (found : Builtin.ofName? s = some f) :
    f.name = s := by
  unfold Builtin.ofName? at found
  split at found
  · cases found
    rfl
  · cases found

theorem Operator.symbol_ofSymbol? {s : String} {op : Operator} (found : Operator.ofSymbol? s = some op) :
    op.symbol = s := by
  simpa using List.find?_some found

theorem Operator.head_symbol (op : Operator) :
    ∃ d, op.symbol.toList.head? = some d ∧ d.isDigit = false ∧ d ≠ '"' := by
  cases op <;> exact ⟨_, rfl, by decide, by decide⟩

theorem Operator.keyword_or_symbol (op : Operator) :
    keywords.contains op.symbol = true ∨ isIdentifier op.symbol = false := by
  cases op <;> decide

theorem isAlphabetic_of_isDigit {c : Char} (digit : c.isDigit = true) : Text.isAlphabetic c = false := by
  simp only [Char.isDigit, Bool.and_eq_true, decide_eq_true_eq, ge_iff_le,
    UInt32.le_iff_toNat_le] at digit
  have zero : '0'.val.toNat = 48 := rfl
  have nine : '9'.val.toNat = 57 := rfl
  have ascii : c.toNat < 128 := by
    simp only [Char.toNat]
    omega
  have letterA : 'A'.val.toNat = 65 := rfl
  have lowerA : 'a'.val.toNat = 97 := rfl
  simp only [Text.isAlphabetic, ascii, if_true, Char.isAlpha, Char.isUpper, Char.isLower, ge_iff_le,
    UInt32.le_iff_toNat_le, Bool.or_eq_false_iff, Bool.and_eq_false_iff, decide_eq_false_iff_not]
  omega

section Lead
variable {s : String} {c : Char} {rest : List Char}

theorem ne_of_head (first : s.toList = c :: rest) {t : String} {d : Char} (other : t.toList.head? = some d)
    (differ : c ≠ d) : s ≠ t := by
  rintro rfl
  rw [first] at other
  exact differ (Option.some.inj other)

theorem equalsIgnoringAsciiCase_of_head (first : s.toList = c :: rest) {t : String} {d : Char}
    {more : List Char} (other : t.toList = d :: more) (differ : c.toLower ≠ d.toLower) :
    Text.equalsIgnoringAsciiCase s t = false := by
  simp [Text.equalsIgnoringAsciiCase, first, other, differ]

theorem notName_of_lead (first : s.toList = c :: rest) (lead : c.isDigit = true ∨ c = '"') :
    s ≠ "(" ∧ s ≠ ")" ∧ Builtin.ofName? s = none ∧ Operator.ofSymbol? s = none ∧
      Text.equalsIgnoringAsciiCase s "true" = false ∧ Text.equalsIgnoringAsciiCase s "false" = false ∧
      isIdentifier s = false := by
  have apart : ∀ d : Char, d.isDigit = false → d ≠ '"' → c ≠ d := by
    rintro d notDigit notQuote rfl
    rcases lead with digit | rfl
    · rw [digit] at notDigit
      exact Bool.noConfusion notDigit
    · exact notQuote rfl
  have lower : c.toLower = c := by
    rcases lead with digit | rfl
    · exact Decimal.toLower_of_isDigit digit
    · rfl
  have notLetter : Text.isAlphabetic c = false := by
    rcases lead with digit | rfl
    · exact isAlphabetic_of_isDigit digit
    · decide
  refine ⟨ne_of_head first rfl (apart _ (by decide) (by decide)),
    ne_of_head first rfl (apart _ (by decide) (by decide)), ?_, ?_,
    equalsIgnoringAsciiCase_of_head first rfl (by rw [lower]; exact apart 't' (by decide) (by decide)),
    equalsIgnoringAsciiCase_of_head first rfl (by rw [lower]; exact apart 'f' (by decide) (by decide)),
    by simp [isIdentifier, first, notLetter]⟩
  · cases found : Builtin.ofName? s with
    | none => rfl
    | some f =>
        cases f
        exact absurd (Builtin.name_ofName? found).symm (ne_of_head first rfl (apart 'I' (by decide) (by decide)))
  · cases found : Operator.ofSymbol? s with
    | none => rfl
    | some op =>
        obtain ⟨d, head, notDigit, notQuote⟩ := Operator.head_symbol op
        exact absurd (Operator.symbol_ofSymbol? found).symm (ne_of_head first head (apart d notDigit notQuote))

end Lead

theorem classify_quoted (s : String) :
    classify ("\"" ++ s ++ "\"") = .ok (.literal (.text s)) := by
  have chars : ("\"" ++ s ++ "\"").toList = '"' :: (s.toList ++ ['"']) := by simp
  obtain ⟨notOpen, notClose, notBuiltin, notOperator, notTrue, notFalse, notIdentifier⟩ :=
    notName_of_lead chars (.inr rfl)
  have notNumber : isNumber ("\"" ++ s ++ "\"") = false := by simp [isNumber, chars]
  have last : ('"' :: (s.toList ++ ['"'])).getLast? = some '"' := by
    rw [← List.cons_append, List.getLast?_concat]
  simp [classify, last, notOpen, notClose, notBuiltin, notOperator, notTrue, notFalse, notIdentifier,
    notNumber, chars]

theorem classify_number {x : Float} (plain : ExprTree.plainLiteral (.number x) = true) :
    classify (Layout.plain.float x) = .ok (.literal (.number x)) := by
  obtain ⟨m, e, parts, ws, fs, nonEmpty, whole, fraction, chars⟩ := Token.plainNumber_text plain
  obtain ⟨c, cs, rfl⟩ := List.exists_cons_of_ne_nil nonEmpty
  have digit : c.isDigit = true := whole c (List.mem_cons_self ..)
  have first : (Layout.plain.float x).toList = c :: (if fs = [] then cs else cs ++ '.' :: fs) := by
    rw [chars]
    split <;> simp
  obtain ⟨notOpen, notClose, notBuiltin, notOperator, notTrue, notFalse, notIdentifier⟩ :=
    notName_of_lead first (.inl digit)
  have noPoint : ∀ ds : List Char, (∀ d ∈ ds, d.isDigit = true) → ds.countP (· = '.') = 0 := by
    intro ds allDigits
    rw [List.countP_eq_zero]
    intro d member point
    obtain rfl : d = '.' := of_decide_eq_true point
    exact Bool.noConfusion (allDigits _ member)
  have number : isNumber (Layout.plain.float x) = true := by
    have restDigits : ∀ d ∈ cs, d.isDigit = true := fun d member => whole d (List.mem_cons_of_mem c member)
    simp only [isNumber, first, digit, Bool.true_and, Bool.and_eq_true, List.all_eq_true,
      Bool.or_eq_true, decide_eq_true_eq]
    split
    · refine ⟨fun d member => .inl (restDigits d member), ?_⟩
      rw [noPoint _ (by simpa [digit] using restDigits)]
      omega
    · refine ⟨fun d member => ?_, ?_⟩
      · rcases List.mem_append.mp member with inWhole | inRest
        · exact .inl (restDigits d inWhole)
        · rcases List.mem_cons.mp inRest with rfl | inFraction
          · exact .inr rfl
          · exact .inl (fraction d inFraction)
      · have wholeCount := noPoint (c :: cs) whole
        have fractionCount := noPoint fs fraction
        simp only [List.countP_cons, List.countP_append] at wholeCount ⊢
        simp only [decide_true, if_true]
        omega
  simp [classify, notOpen, notClose, notBuiltin, notOperator, notTrue, notFalse, notIdentifier,
    number, Decimal.readFloat_plain parts]

theorem classify_identifier {name : String} (plain : ExprTree.plainIdentifier name = true) :
    classify name = .ok (.identifier name) := by
  simp only [ExprTree.plainIdentifier, Bool.and_eq_true, Bool.not_eq_true'] at plain
  obtain ⟨⟨⟨identifier, notKeyword⟩, notTrue⟩, notFalse⟩ := plain
  have notParen (paren : String) (noIdentifier : isIdentifier paren = false) : name ≠ paren := by
    rintro rfl
    rw [noIdentifier] at identifier
    exact Bool.noConfusion identifier
  have notBuiltin : Builtin.ofName? name = none := by
    cases found : Builtin.ofName? name with
    | none => rfl
    | some f =>
        cases f
        rw [← Builtin.name_ofName? found] at notKeyword
        exact Bool.noConfusion notKeyword
  have notOperator : Operator.ofSymbol? name = none := by
    cases found : Operator.ofSymbol? name with
    | none => rfl
    | some op =>
        rw [← Operator.symbol_ofSymbol? found] at notKeyword identifier
        rcases Operator.keyword_or_symbol op with keyword | symbol
        · rw [keyword] at notKeyword
          exact Bool.noConfusion notKeyword
        · rw [symbol] at identifier
          exact Bool.noConfusion identifier
  simp [classify, notParen "(" (by decide), notParen ")" (by decide), notBuiltin, notOperator,
    notTrue, notFalse, identifier]

theorem classify_render {t : Token} (plain : t.Plain) : classify t.render = .ok t := by
  cases t with
  | openParen | closeParen => rfl
  | builtin f => cases f; rfl
  | operator op => cases op <;> rfl
  | identifier name => exact classify_identifier plain
  | literal v =>
      cases v with
      | boolean b => cases b <;> rfl
      | text s => exact classify_quoted s
      | number x => exact classify_number plain
      | node | invalid => exact absurd plain (by simp [Token.Plain, ExprTree.plainLiteral])

theorem mapM_classify_render {ts : List Token} (plain : ∀ t ∈ ts, t.Plain) :
    (ts.map Token.render).mapM classify = .ok ts := by
  induction ts with
  | nil => rfl
  | cons t rest ih =>
      have tail := ih (fun u member => plain u (List.mem_cons_of_mem t member))
      simp [List.mapM_cons, classify_render (plain t (List.mem_cons_self ..)), tail]

theorem calledIdentifier_eq_none {ts : List Token} (separated : ts.IsChain Token.Separated) :
    calledIdentifier ts = none := by
  fun_induction calledIdentifier ts with
  | case1 name rest =>
      exact absurd rfl ((List.isChain_cons_cons.mp separated).1.2 name rfl)
  | case2 t rest _ ih => exact ih separated.tail
  | case3 => rfl

end Lexer

theorem tokenize_renderTokens {ts : List Token} (plain : ∀ t ∈ ts, t.Plain)
    (separated : ts.IsChain Token.Separated) : tokenize (renderTokens ts) = .ok ts := by
  simp only [tokenize, Lexer.pieces_renderTokens plain separated, ok_bind,
    Lexer.mapM_classify_render plain, Lexer.calledIdentifier_eq_none separated]

end RuleEngine
