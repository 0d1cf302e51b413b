import RuleEngine.Proofs.Expression.Lexing
import RuleEngine.Proofs.Decimal.Unsigned

/-! # Lexed tokens are read back from their written form

Every token list the lexer gives, its numbers finite apart, is plain and separated, so it is read
back from its written form. Cutting keeps the invariant `CutState`: no quote in the pending text,
none inside a piece, and no two word pieces side by side. -/

set_option autoImplicit false

namespace RuleEngine

theorem forall₂_of_mapM {α β ε : Type} {f : α → Except ε β} {as : List α} {bs : List β}
    (mapped : as.mapM f = .ok bs) : List.Forall₂ (fun a b => f a = .ok b) as bs := by
  induction as generalizing bs with
  | nil =>
    cases mapped
    exact .nil
  | cons a rest ih =>
    simp only [List.mapM_cons] at mapped
    obtain ⟨b, first, mapped⟩ := bind_eq_ok.mp mapped
    obtain ⟨bs', others, mapped⟩ := bind_eq_ok.mp mapped
    cases mapped
    exact .cons first (ih others)

namespace Lexer

/-! ## Pieces -/

/-- Whether a piece is classified as a word token: an identifier, a number or a boolean. -/
def wordPiece (s : String) : Bool :=
  match classify s with
  | .ok t => t.isWord
  | .error _ => false

/-- A piece with no double quote between its first and its last character. -/
def QuoteSafe (s : String) : Prop := '"' ∉ (s.toList.drop 1).dropLast

theorem quoteSafe_of_quoteFree {s : String} (free : '"' ∉ s.toList) : QuoteSafe s :=
  fun inside => free (List.mem_of_mem_drop (List.mem_of_mem_dropLast inside))

theorem wordPiece_of_classify {s : String} {t : Token} (classified : classify s = .ok t) :
    wordPiece s = t.isWord := by
  simp [wordPiece, classified]

theorem wordPiece_of_ofSymbol {s : String} {op : Operator} (found : Operator.ofSymbol? s = some op) :
    wordPiece s = false := by
  unfold wordPiece classify
  simp only [found]
  split_ifs
  · rfl
  · rfl
  · cases Builtin.ofName? s <;> rfl

theorem keyword_named {s : String} (keyword : keywords.contains s = true) :
    (Builtin.ofName? s).isSome = true ∨ (Operator.ofSymbol? s).isSome = true := by
  simp only [keywords, List.contains_iff_mem, List.mem_cons, List.not_mem_nil, or_false] at keyword
  rcases keyword with rfl | rfl | rfl | rfl | rfl <;> decide +kernel

theorem wordPiece_of_keyword {s : String} (keyword : keywords.contains s = true) : wordPiece s = false := by
  simp only [keywords, List.contains_iff_mem, List.mem_cons, List.not_mem_nil, or_false] at keyword
  rcases keyword with rfl | rfl | rfl | rfl | rfl <;> decide +kernel

theorem quoted_eq (inside : List Char) :
    String.ofList ('"' :: inside ++ ['"']) = "\"" ++ String.ofList inside ++ "\"" :=
  String.toList_inj.mp (by simp)

theorem mem_of_mem_trimList {x : Char} {cs : List Char} (member : x ∈ Text.trimList cs) : x ∈ cs := by
  unfold Text.trimList at member
  have trimmedEnd := (List.dropWhile_sublist _).subset (List.mem_reverse.mp member)
  exact (List.dropWhile_sublist _).subset (List.mem_reverse.mp trimmedEnd)

theorem quote_not_wordChar : isWordChar '"' = false := by decide +kernel

/-! ## Cutting -/

/-- What cutting keeps: no quote in the pending text, none inside a piece, no two word pieces side
by side, and the last piece no word. -/
structure CutState (pending : List Char) (pieces : List String) : Prop where
  pendingQuoteFree : '"' ∉ pending
  quoteSafe : ∀ p ∈ pieces, QuoteSafe p
  apart : pieces.IsChain fun a b => ¬ (wordPiece a = true ∧ wordPiece b = true)
  lastNoWord : ∀ p ∈ pieces.head?, wordPiece p = false

theorem CutState.start : CutState [] [] := ⟨List.not_mem_nil, by simp, .nil, by simp⟩

theorem CutState.flushed {pending : List Char} {pieces : List String} (state : CutState pending pieces) :
    (∀ p ∈ flush pending.reverse pieces, QuoteSafe p) ∧
      (flush pending.reverse pieces).IsChain fun a b => ¬ (wordPiece a = true ∧ wordPiece b = true) := by
  unfold flush
  dsimp only
  split
  · exact ⟨state.quoteSafe, state.apart⟩
  · -- the new piece is part of the pending text, and the piece before it is no word
    have free : '"' ∉ (String.ofList (Text.trimList pending.reverse)).toList := by
      rw [String.toList_ofList]
      exact fun member => state.pendingQuoteFree (List.mem_reverse.mp (mem_of_mem_trimList member))
    refine ⟨fun p member => ?_, List.isChain_cons.mpr ⟨fun q last both => ?_, state.apart⟩⟩
    · rcases List.mem_cons.mp member with rfl | member
      · exact quoteSafe_of_quoteFree free
      · exact state.quoteSafe p member
    · rw [state.lastNoWord q last] at both
      exact Bool.noConfusion both.2

theorem CutState.push {pending : List Char} {pieces : List String} {p : String} (state : CutState pending pieces)
    (safe : QuoteSafe p) (noWord : wordPiece p = false) : CutState [] (p :: flush pending.reverse pieces) := by
  obtain ⟨safeFlushed, apartFlushed⟩ := state.flushed
  refine ⟨List.not_mem_nil, fun q member => ?_, List.isChain_cons.mpr ⟨fun q _ both => ?_, apartFlushed⟩, ?_⟩
  · rcases List.mem_cons.mp member with rfl | member
    · exact safe
    · exact safeFlushed q member
  · rw [noWord] at both
    exact Bool.noConfusion both.1
  · simpa using noWord

theorem CutState.pend {pending w : List Char} {pieces : List String} (state : CutState pending pieces)
    (free : '"' ∉ w) : CutState (w ++ pending) pieces :=
  { state with pendingQuoteFree := by simp [free, state.pendingQuoteFree] }

theorem CutState.pushOperator {pending : List Char} {pieces : List String} {s : String}
    (state : CutState pending pieces) (short : s.toList.length ≤ 2) (operator : isOperator s = true) :
    CutState [] (s :: flush pending.reverse pieces) := by
  obtain ⟨op, found⟩ := Option.isSome_iff_exists.mp operator
  have inner : (s.toList.drop 1).dropLast = [] := List.eq_nil_of_length_eq_zero (by simp; omega)
  refine state.push ?_ (wordPiece_of_ofSymbol found)
  show '"' ∉ (s.toList.drop 1).dropLast
  rw [inner]
  exact List.not_mem_nil

theorem quote_not_mem_word {c : Char} {rest : List Char} (wordChar : isWordChar c = true) :
    '"' ∉ c :: rest.takeWhile isWordChar := by
  intro member
  rcases List.mem_cons.mp member with same | inRest
  · rw [← same, quote_not_wordChar] at wordChar
    exact Bool.noConfusion wordChar
  · have taken := List.mem_takeWhile_imp inRest
    rw [quote_not_wordChar] at taken
    exact Bool.noConfusion taken

theorem cut_apart {pending : List Char} {pieces : List String} {cs : List Char} {out : List String}
    (state : CutState pending pieces) (cutOk : cut pending pieces cs = .ok out) :
    (∀ p ∈ out, QuoteSafe p) ∧ out.IsChain fun a b => ¬ (wordPiece a = true ∧ wordPiece b = true) := by
  -- one case per branch of the cut: each pushes a piece of another sort, or grows the pending text
  fun_induction cut pending pieces cs <;> try simp only [List.unattach_reverse, List.unattach_attach] at *
  case case1 pending pieces =>
    cases cutOk
    obtain ⟨safe, apart⟩ := state.flushed
    refine ⟨fun p member => safe p (List.mem_reverse.mp member), List.isChain_reverse.mpr (apart.imp ?_)⟩
    exact fun a b notBoth both => notBoth ⟨both.2, both.1⟩
  case case2 => cases cutOk
  case case3 pending pieces rest inside head after found shorter ih =>
    have free : '"' ∉ inside := fun member => by simpa using List.mem_takeWhile_imp member
    refine ih (state.push ?_ ?_) cutOk
    · simpa [QuoteSafe] using free
    · rw [quoted_eq, wordPiece_of_classify (classify_quoted _)]
      rfl
  case case4 pending pieces c rest notQuote paren ih =>
    refine ih (state.push ?_ ?_) cutOk
    · simp [QuoteSafe]
    · rcases paren with rfl | rfl <;> decide +kernel
  case case5 pending pieces c notQuote notParen symbol flushed d more pair ih =>
    simp only [flushed, List.unattach_reverse, List.unattach_attach] at ih
    simp only [pair, if_true] at cutOk
    exact ih (state.pushOperator (by simp) pair) cutOk
  case case6 pending pieces c notQuote notParen symbol flushed d more notPair single ih =>
    simp only [flushed, List.unattach_reverse, List.unattach_attach] at ih
    simp only [notPair, single, Bool.false_eq_true, if_false, if_true] at cutOk
    exact ih (state.pushOperator (by simp) single) cutOk
  case case7 => simp_all
  case case8 pending pieces c notQuote notParen symbol flushed single ih =>
    simp only [flushed, List.unattach_reverse, List.unattach_attach] at ih
    simp only [single, if_true] at cutOk
    exact ih (state.pushOperator (by simp) single) cutOk
  case case9 => simp_all
  case case10 pending pieces c rest notQuote notParen notSymbol wordChar word shorter keyword ih =>
    have free : '"' ∉ (String.ofList word).toList := by
      rw [String.toList_ofList]
      exact quote_not_mem_word wordChar
    exact ih (state.push (quoteSafe_of_quoteFree free) (wordPiece_of_keyword keyword)) cutOk
  case case11 pending pieces c rest notQuote notParen notSymbol wordChar word shorter notKeyword ih =>
    exact ih (state.pend (List.mem_reverse.not.mpr (quote_not_mem_word wordChar))) cutOk
  case case12 pending pieces c rest notQuote notParen notSymbol notWord ih =>
    exact ih (state.pend (w := [c]) (by simpa [eq_comm] using notQuote)) cutOk

/-! ## Classifying -/

theorem notKeyword_of_unnamed {s : String} (notBuiltin : Builtin.ofName? s = none)
    (notOperator : Operator.ofSymbol? s = none) : keywords.contains s = false := by
  cases keyword : keywords.contains s with
  | false => rfl
  | true =>
    rcases keyword_named keyword with named | named
    · rw [notBuiltin] at named
      cases named
    · rw [notOperator] at named
      cases named

theorem plain_of_classify {s : String} {t : Token} (safe : QuoteSafe s) (classified : classify s = .ok t)
    (finite : ∀ x, t = .literal (.number x) → x.isFinite = true) : t.Plain := by
  unfold classify at classified
  split at classified
  next => cases classified; trivial
  split at classified
  next => cases classified; trivial
  split at classified
  next => cases classified; trivial
  next notBuiltin =>
  split at classified
  next => cases classified; trivial
  next notOperator =>
  split at classified
  next => cases classified; rfl
  split at classified
  next => cases classified; rfl
  next notTrue notFalse =>
  split at classified
  next identifier =>
    cases classified
    have notKeyword : s ∉ keywords := by simpa using notKeyword_of_unnamed notBuiltin notOperator
    simp [Token.Plain, ExprTree.plainIdentifier, identifier, notKeyword, notTrue, notFalse]
  next notIdentifier =>
  split at classified
  next x number =>
    -- a number is read from a text that starts with a digit, so its sign is clear
    cases classified
    split at number
    next isNum =>
      obtain ⟨c, rest, chars, digit⟩ : ∃ c rest, s.toList = c :: rest ∧ c.isDigit = true := by
        unfold isNumber at isNum
        split at isNum
        next c rest chars => exact ⟨c, rest, chars, by simp_all⟩
        next => cases isNum
      obtain ⟨m, e, parts⟩ := Decimal.readFloat_of_digit_finite chars digit number (finite x rfl)
      simp [Token.Plain, ExprTree.plainLiteral, parts]
    next => cases number
  next =>
    dsimp only at classified
    split at classified
    next =>
      cases classified
      simpa [Token.Plain, ExprTree.plainLiteral, QuoteSafe] using safe
    next => cases classified

/-! ## From pieces to tokens -/

theorem plain_of_pairs {ps : List String} {ts : List Token}
    (pairs : List.Forall₂ (fun s t => classify s = .ok t) ps ts) (safe : ∀ p ∈ ps, QuoteSafe p)
    (finite : ∀ x, Token.literal (.number x) ∈ ts → x.isFinite = true) : ∀ t ∈ ts, t.Plain := by
  induction pairs with
  | nil => simp
  | @cons s t ps ts first rest ih =>
    intro t' member
    rcases List.mem_cons.mp member with rfl | later
    · exact plain_of_classify (safe s (by simp)) first (fun x same => finite x (by simp [same]))
    · exact ih (fun p inside => safe p (by simp [inside])) (fun x inside => finite x (by simp [inside])) t' later

theorem isChain_words {ps : List String} {ts : List Token}
    (pairs : List.Forall₂ (fun s t => classify s = .ok t) ps ts)
    (apart : ps.IsChain fun a b => ¬ (wordPiece a = true ∧ wordPiece b = true)) :
    ts.IsChain fun a b => ¬ (a.isWord = true ∧ b.isWord = true) := by
  induction pairs with
  | nil => exact .nil
  | @cons s t ps ts first rest ih =>
    cases rest with
    | nil => exact .singleton t
    | @cons s' t' ps' ts' second rest' =>
      rw [List.isChain_cons_cons] at apart ⊢
      rw [← wordPiece_of_classify first, ← wordPiece_of_classify second]
      exact ⟨apart.1, ih apart.2⟩

theorem separated_of_uncalled {ts : List Token}
    (apart : ts.IsChain fun a b => ¬ (a.isWord = true ∧ b.isWord = true))
    (uncalled : calledIdentifier ts = none) : ts.IsChain Token.Separated := by
  fun_induction calledIdentifier ts with
  | case1 name rest => cases uncalled
  | case2 head rest notCall ih =>
    cases rest with
    | nil => exact .singleton head
    | cons next rest =>
      rw [List.isChain_cons_cons] at apart ⊢
      refine ⟨⟨apart.1, ?_⟩, ih apart.2 uncalled⟩
      rintro name rfl rfl
      exact notCall name rest rfl rfl
  | case3 => exact .nil

end Lexer

/-- A lexed expression whose numbers are finite is read back from its written form. -/
theorem tokenize_renderTokens_of_tokenize {src : String} {ts : List Token} (lexed : tokenize src = .ok ts)
    (finite : ∀ x, Token.literal (.number x) ∈ ts → x.isFinite = true) : tokenize (renderTokens ts) = .ok ts := by
  unfold tokenize at lexed
  obtain ⟨ps, cutOk, lexed⟩ := bind_eq_ok.mp lexed
  obtain ⟨ts', classified, lexed⟩ := bind_eq_ok.mp lexed
  have uncalled : Lexer.calledIdentifier ts' = none ∧ ts' = ts := by
    split at lexed
    next => cases lexed
    next uncalled => exact ⟨uncalled, by cases lexed; rfl⟩
  obtain ⟨uncalled, rfl⟩ := uncalled
  obtain ⟨safe, apart⟩ := Lexer.cut_apart Lexer.CutState.start cutOk
  have pairs := forall₂_of_mapM classified
  apply tokenize_renderTokens (Lexer.plain_of_pairs pairs safe finite)
  exact Lexer.separated_of_uncalled (Lexer.isChain_words pairs apart) uncalled

/-- The tokens of a negated comparison joined to a quoted text. -/
def negatedComparison : List Token :=
  [.operator .not, .openParen, .identifier "x1", .operator .ge, .literal (.number 2), .closeParen,
    .operator .and, .literal (.text "a OR b"), .operator .ne, .literal (.boolean true)]

theorem negatedComparison_reads_back :
    tokenize "NOT (x1 >= 2) AND \"a OR b\" != TRUE" = .ok negatedComparison ∧
      tokenize (renderTokens negatedComparison) = .ok negatedComparison :=
  have lexed : tokenize "NOT (x1 >= 2) AND \"a OR b\" != TRUE" = .ok negatedComparison := by decide +kernel
  ⟨lexed, tokenize_renderTokens_of_tokenize lexed fun x member => by
    simp only [negatedComparison, List.mem_cons, Token.literal.injEq, Value.number.injEq, reduceCtorEq,
      List.not_mem_nil, or_false, false_or] at member
    subst member
    decide +kernel⟩

end RuleEngine
