import SqlSplit.Proofs.Tokens.Priority
import SqlSplit.Proofs.Tokens.Shift
import SqlSplit.Proofs.Tokens.Spacing

/-!
# A semicolon at the end of a text

A semicolon that is put behind a text is a token of its own, unless the last token of the text takes
it over: a comment to the end of the line does, and so does a quotation or a block comment that is
not closed.

`ends_or_isOpenEnded` states that there are no other last pieces than those that end by themselves
and those that are open-ended, and `tokenize_append_terminator` what becomes of the semicolon in
either case.
-/

namespace SqlSplit

open Lexeme (isQuote scan)
open Text (byteLength)

variable {p : Piece} {ps : List Piece} {as cs : List Char} {c : Char} {rule : Rule}
  {kind : TokenKind}

/-! ## Open-ended pieces -/

/-- The piece takes whatever is put behind it as long as this does not close it. -/
inductive Piece.IsOpenEnded : Piece → Prop
  | line {content : List Char} (hline : '\n' ∉ content) :
      IsOpenEnded ⟨.inlineComment, '-' :: '-' :: content⟩
  | quotation {q : Char} {cs : List Char} (hq : isQuote q = true)
      (hopen : ∀ content rest, cs = doubled q content ++ q :: rest → rest.head? = some q) :
      IsOpenEnded ⟨.string, q :: cs⟩
  | block {content : List Char} (hcontent : ¬ ['*', '/'] <:+: content) :
      IsOpenEnded ⟨.blockComment, '/' :: '*' :: content⟩

/-- A text that is a single piece either ends by itself or is open-ended. -/
lemma ends_or_isOpenEnded (h : pieces p.text = [p]) : p.Ends ∨ p.IsOpenEnded := by
  obtain ⟨kind, text⟩ := p
  obtain ⟨c, cs, rfl⟩ := List.exists_cons_of_ne_nil (ne_nil_of_pieces_eq h)
  have hscan : scan c (cs ++ []) = ⟨kind, cs.length⟩ :=
    scan_eq_of_pieces (by rw [List.append_nil]; exact h)
  rw [List.append_nil] at hscan
  obtain ⟨rule, hrule, hreads⟩ := Rule.exists_reads_scan c cs
  have happlies := List.find?_some hrule
  rw [hscan, List.take_length, List.drop_length] at hreads
  -- The rule that reads the piece tells whether it ends: with nothing behind it, a comment or a
  -- quotation that is not closed is taken whole.
  generalize htaken : c :: cs = taken at hreads
  generalize hrest : ([] : List Char) = rest at hreads
  cases hreads with
  | whiteSpace hall hend => exact .inl (.inl (by simp))
  | lineComment hline hend =>
    simp only [Rule.applies, Bool.and_eq_true, beq_iff_eq] at happlies
    obtain ⟨rfl, hdash⟩ := happlies
    obtain ⟨ds, rfl⟩ := List.head?_eq_some_iff.1 hdash
    subst htaken
    exact .inr (.line fun hmem => hline (by simp [hmem]))
  | closedComment hcontent =>
    exact .inl (.inr ⟨.block, _, by decide, hcontent, rfl⟩)
  | openComment hcontent =>
    exact .inr (.block hcontent)
  | closedQuotation hq hend =>
    exact .inl (.inr ⟨.quotes _ hq, _, by simp [Enclosure.kind], trivial, rfl⟩)
  | openQuotation hq hopen =>
    exact .inr (.quotation hq hopen)
  | semicolon => exact .inl (.inl (by simp))
  | keyword hall hend hspells => exact .inl (.inl (by simp))
  | name hall hend hspells => exact .inl (.inl (by simp))
  | other => exact .inl (.inl (by simp))

/-! ## A semicolon behind a piece -/

lemma pieces_of_reads (hreads : rule.Reads (c :: cs) [] kind)
    (hrule : Rule.documented.find? (·.applies (c :: cs)) = some rule) :
    pieces (c :: cs) = [⟨kind, c :: cs⟩] := by
  obtain ⟨htaken, rfl⟩ := hreads.eq_scan (List.append_nil _).symm hrule
  have htake : cs.take (scan c cs).more = cs := (List.cons.inj htaken).2.symm
  have hdrop : cs.drop (scan c cs).more = [] := by
    have hlength := congrArg List.length htake
    rw [List.length_take] at hlength
    exact List.drop_eq_nil_of_le (by omega)
  rw [pieces, htake, hdrop, pieces]

lemma Piece.IsOpenEnded.pieces_append_semicolon (h : p.IsOpenEnded) :
    pieces (p.text ++ [';']) = [⟨p.kind, p.text ++ [';']⟩] := by
  cases h with
  | @line content hline =>
    refine pieces_of_reads (.lineComment ?_ nofun) rfl
    simpa using hline
  | @quotation q cs hq hopen =>
    have hne : q ≠ ';' := by
      rintro rfl
      cases hq
    refine pieces_of_reads (.openQuotation hq ?_) ?_
    · -- The semicolon is no quote, so a quote that closed the longer text would be one of the
      -- shorter text, which none closes.
      intro content rest hcs
      rcases List.eq_nil_or_concat rest with rfl | ⟨rest, x, rfl⟩
      · have hlast := (List.append_inj_right' hcs rfl)
        exact absurd (List.cons.inj hlast).1.symm hne
      · rw [List.concat_eq_append, ← List.cons_append, ← List.append_assoc] at hcs
        have hhead := hopen content rest (List.append_inj_left' hcs rfl)
        rw [List.concat_eq_append, List.head?_append, hhead, Option.some_or]
    · rcases Lexeme.isQuote_iff.1 hq with rfl | rfl | rfl <;> rfl
  | @block content hcontent =>
    have hnone : ¬ ['*', '/'] <:+: content ++ [';'] := by
      rw [List.infix_concat_iff, not_or]
      refine ⟨?_, hcontent⟩
      rintro ⟨before, hmark⟩
      have hlast := congrArg List.getLast? hmark
      simp at hlast
    exact pieces_of_reads (.openComment hnone) rfl

lemma pieces_append_semicolon (h : pieces as = ps ++ [p]) :
    (p.Ends → pieces (as ++ [';']) = pieces as ++ [Piece.semicolon]) ∧
      (¬ p.Ends → pieces (as ++ [';']) = ps ++ [⟨p.kind, p.text ++ [';']⟩]) := by
  have hself : pieces p.text = [p] := by
    have hown := (pieces_of_append h).2
    rwa [Piece.chars_cons, Piece.chars_nil, List.append_nil] at hown
  constructor
  · intro hends
    have hcons := hends.pieces_append_cons hself (x := ';') (by decide) (by decide) (by decide)
      (by decide) (by decide) []
    rw [pieces_append h, hcons, h, List.append_assoc, List.singleton_append, pieces_semicolon_cons,
      pieces]
  · intro hnot
    rw [pieces_append h, ((ends_or_isOpenEnded hself).resolve_left hnot).pieces_append_semicolon]

/-! ## Tokens -/

/-- The token is a text in quotes with the second of them, or a comment with its end. -/
def Token.IsClosed (token : Token) : Prop :=
  ∃ (e : Enclosure) (content : String), e.Allows content.toList ∧ token.kind = e.kind ∧
    token.value = e.write content

/-- The token goes on over what is put behind it: it is a comment to the end of the line, or a
quotation or a block comment that is not closed. -/
def Token.IsOpenEnded (token : Token) : Prop :=
  token.kind = .inlineComment ∨
    (token.kind = .string ∨ token.kind = .blockComment) ∧ ¬ token.IsClosed

lemma Token.piece_ends {token : Token} (h : ¬ token.IsOpenEnded) : token.piece.Ends := by
  rw [IsOpenEnded, not_or, not_and_not_right] at h
  obtain ⟨hline, hclosed⟩ := h
  by_cases hkind : token.kind = .string ∨ token.kind = .blockComment
  · obtain ⟨e, content, hcontent, he, hvalue⟩ := hclosed hkind
    refine .inr ⟨e, content.toList, by rwa [← he], hcontent, ?_⟩
    rw [piece, he, hvalue, Enclosure.toList_write, Enclosure.piece]
  · rw [not_or] at hkind
    exact .inl ⟨hkind.1, hkind.2, hline⟩

/-- The token with a semicolon at its end. -/
def Token.withSemicolon (token : Token) : Token :=
  { token with value := token.value ++ ";", last := token.last + 1 }

lemma Token.isOpenEnded_iff (token : Token) : token.IsOpenEnded ↔ ¬ token.piece.Ends := by
  constructor
  · rintro hopen (⟨hstring, hblock, hline⟩ | ⟨e, content, hline, hcontent, hpiece⟩)
    · rcases hopen with hkind | ⟨hkind | hkind, -⟩
      · exact hline hkind
      · exact hstring hkind
      · exact hblock hkind
    · obtain ⟨hkind, htext⟩ := Piece.mk.inj hpiece
      rcases hopen with hkind' | ⟨-, hnot⟩
      · exact hline (hkind.symm.trans hkind')
      · refine hnot ⟨e, String.ofList content, ?_, hkind, ?_⟩
        · rwa [String.toList_ofList]
        · rw [Enclosure.write, String.toList_ofList, ← htext, String.ofList_toList]
  · intro hnot
    by_contra hopen
    exact hnot (piece_ends hopen)

lemma Piece.token_append_semicolon (hne : p.text ≠ []) (offset : Nat) :
    Piece.token ⟨p.kind, p.text ++ [';']⟩ offset = (p.token offset).withSemicolon := by
  have hpos := Text.byteLength_pos hne
  have hone : byteLength [';'] = 1 := rfl
  simp only [token, Token.withSemicolon, String.ofList_append, Text.byteLength_append, hone,
    Token.mk.injEq, true_and]
  omega

/-- The semicolon behind a text is a token of its own, unless the last token of the text takes it
over. -/
theorem tokenize_append_terminator {input : String} {before : List Token} {token : Token}
    (h : tokenize input = before ++ [token]) :
    (¬ token.IsOpenEnded →
      tokenize (input ++ ";") = tokenize input ++ [Token.semicolonAt input.utf8ByteSize]) ∧
    (token.IsOpenEnded → tokenize (input ++ ";") = before ++ [token.withSemicolon]) := by
  rw [tokenize_eq_place] at h
  obtain ⟨ps, qs, hpieces, rfl, hlast⟩ := exists_of_place_eq_append h
  have htext : tokenize (input ++ ";") = place 0 (pieces (input.toList ++ [';'])) := by
    rw [tokenize_eq_place, String.toList_append]
    rfl
  cases qs with
  | nil => cases hlast
  | cons p qs =>
    obtain ⟨rfl, hnil⟩ := List.cons.inj hlast
    obtain rfl : qs = [] := by
      cases qs with
      | nil => rfl
      | cons q qs => cases hnil
    have hne : p.text ≠ [] := ne_nil_of_mem_pieces (by rw [hpieces]; simp)
    obtain ⟨hends, hopen⟩ := pieces_append_semicolon hpieces
    rw [Token.isOpenEnded_iff, Piece.piece_token, not_not, htext, tokenize_eq_place]
    constructor
    · intro hp
      have hsemicolon : ∀ n, place n [Piece.semicolon] = [Token.semicolonAt n] := fun n => rfl
      rw [hends hp, place_append, chars_pieces, Text.byteLength_toList, Nat.zero_add, hsemicolon]
    · intro hp
      rw [hopen hp, place_append, place, Piece.token_append_semicolon hne]
      rfl

end SqlSplit
