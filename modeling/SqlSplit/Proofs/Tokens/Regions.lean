import SqlSplit.Proofs.Tokens.Pieces

/-!
# Regions of a script

Whether a semicolon ends a statement can be told without tokens.  A pass over the characters keeps
in mind what it is in: code, a quotation, a comment to the end of the line or a block comment.
`semicolonsFrom` is this pass, and the offsets it gives are those of the semicolons in code.  It
knows no doubled quotes: such a pair leaves the quotation and enters it again.

`semicolonTokens_tokenize` states that the tokens at which a script is divided are these
semicolons.  A token is always found in code, and `semicolonsFrom_scan` says for each shape of a
lexeme that the pass is in code again behind it, and that it meets a semicolon of code within it
only if the lexeme is one.
-/

namespace SqlSplit

open Text (byteLength)

/-! ## A pass over the characters -/

/-- What a character of a script stands in. -/
inductive Region where
  | code
  /-- Quoted text, up to the next quote of the same kind. -/
  | quote (q : Char)
  /-- A comment to the end of the line. -/
  | line
  /-- A comment to the next star-slash. -/
  | block
  deriving DecidableEq, Repr

/-- The offsets of the semicolons in code, in a text that starts in the given region and at the
given offset. -/
def semicolonsFrom : Region → Nat → List Char → List Nat
  | _, _, [] => []
  | .code, n, c :: cs =>
    if c = ';' then n :: semicolonsFrom .code (n + c.utf8Size) cs
    else if Lexeme.isQuote c then semicolonsFrom (.quote c) (n + c.utf8Size) cs
    else
      match cs with
      | [] => []
      | d :: ds =>
        if c = '-' ∧ d = '-' then semicolonsFrom .line (n + byteLength [c, d]) ds
        else if c = '/' ∧ d = '*' then semicolonsFrom .block (n + byteLength [c, d]) ds
        else semicolonsFrom .code (n + c.utf8Size) (d :: ds)
  | .quote q, n, c :: cs =>
    semicolonsFrom (if c = q then .code else .quote q) (n + c.utf8Size) cs
  | .line, n, c :: cs =>
    semicolonsFrom (if c = '\n' then .code else .line) (n + c.utf8Size) cs
  | .block, n, c :: cs =>
    match cs with
    | [] => []
    | d :: ds =>
      if c = '*' ∧ d = '/' then semicolonsFrom .code (n + byteLength [c, d]) ds
      else semicolonsFrom .block (n + c.utf8Size) (d :: ds)

variable {n k : Nat} {c d : Char} {cs ds : List Char}

lemma semicolonsFrom_code_cons (hsemicolon : c ≠ ';') (hquote : Lexeme.isQuote c = false)
    (hdashes : ¬ (c = '-' ∧ cs.head? = some '-')) (hstar : ¬ (c = '/' ∧ cs.head? = some '*')) :
    semicolonsFrom .code n (c :: cs) = semicolonsFrom .code (n + c.utf8Size) cs := by
  cases cs with
  | nil => simp [semicolonsFrom, hsemicolon, hquote]
  | cons d ds =>
    rw [List.head?_cons, Option.some.injEq] at hdashes hstar
    simp only [semicolonsFrom, if_neg hsemicolon, hquote, Bool.false_eq_true, if_neg hdashes,
      if_neg hstar, if_false]

lemma semicolonsFrom_code_of_isPlain (h : Lexeme.IsPlain c) :
    semicolonsFrom .code n (c :: cs) = semicolonsFrom .code (n + c.utf8Size) cs :=
  semicolonsFrom_code_cons h.ne_semicolon h.isQuote_eq (fun hc => h.ne_dash hc.1)
    (fun hc => h.ne_slash hc.1)

lemma semicolonsFrom_code_quote (h : Lexeme.isQuote c = true) :
    semicolonsFrom .code n (c :: cs) = semicolonsFrom (.quote c) (n + c.utf8Size) cs := by
  have hne : c ≠ ';' := by
    rintro rfl
    cases h
  cases cs <;> simp [semicolonsFrom, hne, h]

lemma semicolonsFrom_code_semicolon :
    semicolonsFrom .code n (';' :: cs) = n :: semicolonsFrom .code (n + ';'.utf8Size) cs := by
  cases cs <;> simp [semicolonsFrom]

/-! ## Each region comes to its end -/

/-- The offsets of the semicolons in code behind the first `k` characters. -/
def semicolonsBehind (n k : Nat) (cs : List Char) : List Nat :=
  semicolonsFrom .code (n + byteLength (cs.take k)) (cs.drop k)

@[simp] lemma semicolonsBehind_zero : semicolonsBehind n 0 cs = semicolonsFrom .code n cs := rfl

@[simp] lemma semicolonsBehind_succ :
    semicolonsBehind n (k + 1) (c :: cs) = semicolonsBehind (n + c.utf8Size) k cs := by
  rw [semicolonsBehind, List.take_succ_cons, Text.byteLength_cons, ← Nat.add_assoc]
  rfl

lemma semicolonsFrom_line (n : Nat) (cs : List Char) :
    semicolonsFrom .line n cs = semicolonsBehind n (Lexeme.toLineEnd cs) cs := by
  induction cs generalizing n with
  | nil => rfl
  | cons c cs ih =>
    rw [semicolonsFrom, Lexeme.toLineEnd]
    by_cases hc : c = '\n'
    · subst hc
      have hplain : Lexeme.IsPlain '\n' := Lexeme.isPlain_of_isWhiteSpace (by decide)
      rw [List.takeWhile_cons_of_neg (by simp), if_pos rfl, List.length_nil,
        semicolonsBehind_zero, semicolonsFrom_code_of_isPlain hplain]
    · rw [List.takeWhile_cons_of_pos (by simpa using hc), if_neg hc, List.length_cons,
        semicolonsBehind_succ, ih]
      rfl

lemma semicolonsFrom_block (n : Nat) (cs : List Char) :
    semicolonsFrom .block n cs = semicolonsBehind n (Lexeme.toCommentEnd cs) cs := by
  induction cs generalizing n with
  | nil => rfl
  | cons c cs ih =>
    rw [Lexeme.toCommentEnd]
    cases cs with
    | nil => simp [semicolonsFrom, Lexeme.toCommentEnd, semicolonsBehind]
    | cons d ds =>
      simp only [List.head?_cons, Option.some.injEq, semicolonsFrom]
      by_cases hend : c = '*' ∧ d = '/'
      · rw [if_pos hend, if_pos hend]
        simp [Nat.add_assoc]
      · rw [if_neg hend, if_neg hend, Nat.add_comm 1, semicolonsBehind_succ, ih]

/-- A doubled quote takes the pass out of the quotation and into it again. -/
lemma semicolonsFrom_quote {q : Char} (hq : Lexeme.isQuote q = true) (n : Nat) (cs : List Char) :
    semicolonsFrom (.quote q) n cs = semicolonsBehind n (Lexeme.toClosingQuote q cs) cs := by
  -- The pass leaves the quotation at a doubled quote, and enters it again with the second one.
  fun_induction Lexeme.toClosingQuote q cs generalizing n with
  | case1 => rfl
  | case2 => simp [semicolonsFrom, semicolonsBehind]
  | case3 ds ih =>
    rw [semicolonsFrom, if_pos rfl, semicolonsFrom_code_quote hq, ih, Nat.add_comm 2,
      semicolonsBehind_succ, semicolonsBehind_succ]
  | case4 d ds hd =>
    rw [semicolonsFrom, if_pos rfl, semicolonsBehind_succ, semicolonsBehind_zero]
  | case5 c cs hc ih =>
    rw [semicolonsFrom, if_neg hc, Nat.add_comm 1, semicolonsBehind_succ, ih]

lemma semicolonsFrom_takeWhile {p : Char → Bool} (hp : ∀ c, p c = true → Lexeme.IsPlain c)
    (n : Nat) (cs : List Char) :
    semicolonsFrom .code n cs = semicolonsBehind n (cs.takeWhile p).length cs := by
  induction cs generalizing n with
  | nil => rfl
  | cons c cs ih =>
    by_cases hc : p c = true
    · rw [List.takeWhile_cons_of_pos hc, List.length_cons, semicolonsBehind_succ,
        semicolonsFrom_code_of_isPlain (hp c hc), ih]
    · rw [List.takeWhile_cons_of_neg hc, List.length_nil, semicolonsBehind_zero]

/-! ## The pass and the lexemes -/

lemma wordKind_ne_semicolon (word : String) : Lexeme.wordKind word ≠ .semicolon := by
  unfold Lexeme.wordKind
  split <;> simp

/-- Behind every lexeme the pass is in code, and within it there is no semicolon of code unless the
lexeme is one. -/
lemma semicolonsFrom_scan (n : Nat) (c : Char) (cs : List Char) :
    semicolonsFrom .code n (c :: cs) =
      (if (Lexeme.scan c cs).kind = .semicolon then [n] else []) ++
        semicolonsBehind (n + c.utf8Size) (Lexeme.scan c cs).more cs := by
  generalize hscan : Lexeme.scan c cs = lexeme
  cases Lexeme.scan_eq_iff.1 hscan with
  | semicolon hc =>
    rw [hc, semicolonsFrom_code_semicolon]
    rfl
  | dashes hc hnext =>
    obtain ⟨ds, rfl⟩ := List.head?_eq_some_iff.1 hnext
    subst hc
    have hdash : Lexeme.toLineEnd ('-' :: ds) = Lexeme.toLineEnd ds + 1 := by
      simp [Lexeme.toLineEnd]
    rw [hdash, semicolonsBehind_succ, ← semicolonsFrom_line]
    rfl
  | slashStar hc hnext =>
    obtain ⟨ds, rfl⟩ := List.head?_eq_some_iff.1 hnext
    subst hc
    rw [List.tail_cons, Nat.add_comm 1, semicolonsBehind_succ, ← semicolonsFrom_block]
    rfl
  | quoted hc =>
    rw [semicolonsFrom_code_quote hc, semicolonsFrom_quote hc]
    rfl
  | word hc =>
    rw [if_neg (wordKind_ne_semicolon _), List.nil_append,
      semicolonsFrom_code_of_isPlain (Lexeme.isPlain_of_isWordCharacter hc),
      semicolonsFrom_takeWhile fun _ => Lexeme.isPlain_of_isWordCharacter]
  | space hc hword =>
    rw [if_neg (by simp), List.nil_append,
      semicolonsFrom_code_of_isPlain (Lexeme.isPlain_of_isWhiteSpace hc),
      semicolonsFrom_takeWhile fun _ => Lexeme.isPlain_of_isWhiteSpace]
  | single hsemicolon hdashes hstar hquote hword hspace =>
    rw [semicolonsFrom_code_cons hsemicolon hquote hdashes hstar]
    rfl

/-! ## Semicolon tokens -/

lemma scan_of_kind_eq (h : (Lexeme.scan c cs).kind = .semicolon) :
    c = ';' ∧ (Lexeme.scan c cs).more = 0 := by
  generalize hscan : Lexeme.scan c cs = lexeme at h ⊢
  cases Lexeme.scan_eq_iff.1 hscan with
  | semicolon hc => exact ⟨hc, rfl⟩
  | word hc =>
    simp only at h
    exact absurd h (wordKind_ne_semicolon _)
  | _ => cases h

/-- The token of a semicolon at an offset. -/
def Token.semicolonAt (offset : Nat) : Token :=
  ⟨.semicolon, ";", offset, offset⟩

/-- The semicolons among tokens, in order. -/
def semicolonTokens (tokens : List Token) : List Token :=
  tokens.filter fun token => token.kind = .semicolon

lemma semicolonTokens_place (n : Nat) (cs : List Char) :
    semicolonTokens (place n (pieces cs)) =
      (semicolonsFrom .code n cs).map Token.semicolonAt := by
  fun_induction pieces cs generalizing n with
  | case1 => rfl
  | case2 c cs ih =>
    rw [semicolonsFrom_scan, semicolonsBehind, List.map_append, Nat.add_assoc,
      ← Text.byteLength_cons, ← ih, place, semicolonTokens]
    by_cases hkind : (Lexeme.scan c cs).kind = .semicolon
    · obtain ⟨rfl, hmore⟩ := scan_of_kind_eq hkind
      rw [List.filter_cons_of_pos (by simpa [Piece.token] using hkind), if_pos hkind, hkind, hmore]
      rfl
    · rw [List.filter_cons_of_neg (by simpa [Piece.token] using hkind), if_neg hkind]
      rfl

/-- The semicolons among the tokens of a script are those that the pass meets in code. -/
theorem semicolonTokens_tokenize (input : String) :
    semicolonTokens (tokenize input) =
      (semicolonsFrom .code 0 input.toList).map Token.semicolonAt := by
  rw [tokenize_eq_place]
  exact semicolonTokens_place 0 input.toList

end SqlSplit
