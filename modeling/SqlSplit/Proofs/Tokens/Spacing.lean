import SqlSplit.Proofs.Tokens.Enclosures

/-!
# Blank text between two pieces

White space and comments can be put between two pieces of a text.  The pieces behind that place stay
as they are, except that white space there may become longer, and so do those before it, except that
the last of them may take white space over: white space does, and so does a comment or a quotation
that is not closed.

`widened_pieces` states this for white space.  A block comment is not taken over by a piece that is
closed, and is a piece of its own there (`pieces_append_block`).
-/

namespace SqlSplit

open Lexeme (isWordCharacter isQuote toClosingQuote toCommentEnd toLineEnd)
open Unicode (isWhiteSpace)

/-! ## White space behind a lexeme -/

/-- All of the characters are white space. -/
def IsSpace (cs : List Char) : Prop :=
  ∀ c ∈ cs, isWhiteSpace c = true

variable {c d q : Char} {cs rest w : List Char} {kind : TokenKind}

lemma IsSpace.notMem {mark : Char} (h : IsSpace w) (hmark : isWhiteSpace mark = false) :
    mark ∉ w := by
  intro hmem
  rw [h mark hmem] at hmark
  cases hmark

lemma toClosingQuote_pos (q c : Char) (cs : List Char) : 0 < toClosingQuote q (c :: cs) := by
  by_cases hc : c = q
  · cases cs with
    | nil => simp [toClosingQuote, hc]
    | cons d cs =>
      simp only [toClosingQuote, if_pos hc]
      split_ifs <;> omega
  · rw [Lexeme.toClosingQuote_cons_of_ne hc]
    omega

lemma toClosingQuote_eq_length (h : q ∉ cs) : toClosingQuote q cs = cs.length := by
  induction cs with
  | nil => rfl
  | cons c cs ih =>
    rw [List.mem_cons, not_or] at h
    rw [Lexeme.toClosingQuote_cons_of_ne (Ne.symm h.1), ih h.2, List.length_cons, Nat.add_comm]

/-- A quotation that is closed stays closed, and one that is not goes on over what has no quote. -/
lemma exists_toClosingQuote_eq (hw : q ∉ d :: w) (h : toClosingQuote q (cs ++ rest) = cs.length) :
    ∃ k ≤ (d :: w).length, toClosingQuote q (cs ++ (d :: w ++ rest)) = cs.length + k := by
  have hd : d ≠ q := fun heq => hw (by simp [heq])
  fun_induction toClosingQuote q cs with
  | case1 =>
    -- Only at the end of the text can a quotation have no further character.
    have hrest : rest = [] := by
      cases rest with
      | nil => rfl
      | cons e rest => exact absurd h (Nat.ne_of_gt (toClosingQuote_pos q e rest))
    refine ⟨(d :: w).length, Nat.le_refl _, ?_⟩
    rw [hrest, List.append_nil, List.nil_append, toClosingQuote_eq_length hw]
    simp
  | case2 =>
    refine ⟨0, Nat.zero_le _, ?_⟩
    have hhead : (d :: w ++ rest).head? ≠ some q := by simpa using hd
    exact toClosingQuote_cons_self_iff.2 hhead
  | case3 ds ih =>
    simp only [List.cons_append, toClosingQuote, if_true, List.length_cons] at h ih ⊢
    obtain ⟨k, hk, heq⟩ := ih (by omega)
    exact ⟨k, hk, by omega⟩
  | case4 e ds he =>
    simp only [List.cons_append, toClosingQuote, if_true, if_neg he, List.length_cons] at h
    omega
  | case5 c cs hc ih =>
    rw [List.cons_append, Lexeme.toClosingQuote_cons_of_ne hc, List.length_cons] at h
    obtain ⟨k, hk, heq⟩ := ih (by omega)
    refine ⟨k, hk, ?_⟩
    rw [List.cons_append, Lexeme.toClosingQuote_cons_of_ne hc, heq, List.length_cons]
    omega

lemma toCommentEnd_eq_length (h : '*' ∉ cs) : toCommentEnd cs = cs.length := by
  induction cs with
  | nil => rfl
  | cons c cs ih =>
    rw [List.mem_cons, not_or] at h
    rw [toCommentEnd, if_neg fun hc => h.1 hc.1.symm, ih h.2, List.length_cons, Nat.add_comm]

/-- A comment that is closed stays closed, and one that is not goes on over what has no star and
does not begin with a slash. -/
lemma exists_toCommentEnd_eq (hw : '*' ∉ d :: w) (hd : d ≠ '/')
    (h : toCommentEnd (cs ++ rest) = cs.length) :
    ∃ k ≤ (d :: w).length, toCommentEnd (cs ++ (d :: w ++ rest)) = cs.length + k := by
  induction cs with
  | nil =>
    have hrest : rest = [] := by
      cases rest with
      | nil => rfl
      | cons e rest =>
        simp only [List.nil_append, toCommentEnd, List.length_nil] at h
        split_ifs at h
        omega
    refine ⟨(d :: w).length, Nat.le_refl _, ?_⟩
    rw [hrest, List.append_nil, List.nil_append, toCommentEnd_eq_length hw]
    simp
  | cons c cs ih =>
    rw [List.cons_append, toCommentEnd, List.length_cons] at h
    rw [List.cons_append, toCommentEnd]
    by_cases hmark : c = '*' ∧ (cs ++ rest).head? = some '/'
    · rw [if_pos hmark] at h
      obtain ⟨e, rfl⟩ := List.length_eq_one_iff.1 (show cs.length = 1 by omega)
      have hmark' : c = '*' ∧ ([e] ++ (d :: w ++ rest)).head? = some '/' := hmark
      exact ⟨0, Nat.zero_le _, by rw [if_pos hmark']; rfl⟩
    · have hmark' : ¬ (c = '*' ∧ (cs ++ (d :: w ++ rest)).head? = some '/') := by
        rintro ⟨hc, hhead⟩
        cases cs with
        | nil => exact hd (Option.some.inj hhead)
        | cons e cs => exact hmark ⟨hc, hhead⟩
      rw [if_neg hmark] at h
      obtain ⟨k, hk, heq⟩ := ih (by omega)
      refine ⟨k, hk, ?_⟩
      rw [if_neg hmark', heq, List.length_cons]
      omega

lemma exists_takeWhile_eq {p : Char → Bool} (w : List Char)
    (h : ((cs ++ rest).takeWhile p).length = cs.length) :
    ∃ k ≤ w.length, ((cs ++ (w ++ rest)).takeWhile p).length = cs.length + k := by
  have hcs : (cs.takeWhile p).length = cs.length := by
    rw [← Lexeme.takeWhile_append_of_length_le (Nat.le_of_eq h)]
    exact h
  have hrest : rest.takeWhile p = [] := by
    rw [List.takeWhile_append, if_pos hcs, List.length_append] at h
    exact List.eq_nil_of_length_eq_zero (by omega)
  rw [List.takeWhile_append, if_pos hcs, List.length_append, List.takeWhile_append, hrest,
    List.append_nil]
  refine ⟨_, ?_, rfl⟩
  split_ifs
  · exact Nat.le_refl _
  · exact Lexeme.length_takeWhile_le p w

/-- A lexeme that is neither quoted nor a comment ends before a character that it does not take
over. -/
lemma scan_append_of_ends {x : Char} (h : Lexeme.scan c cs = ⟨kind, cs.length⟩)
    (hkind : kind ≠ .string ∧ kind ≠ .blockComment ∧ kind ≠ .inlineComment)
    (hword : isWordCharacter x = false) (hdash : x ≠ '-') (hstar : x ≠ '*')
    (hspace : kind = .whitespace → isWhiteSpace x = false) :
    Lexeme.scan c (cs ++ x :: rest) = ⟨kind, cs.length⟩ := by
  have htakes : ∀ {p : Char → Bool}, (cs.takeWhile p).length = cs.length → p x = false →
      (cs ++ x :: rest).takeWhile p = cs.takeWhile p := by
    intro p hall hx
    rw [List.takeWhile_append, if_pos hall, List.takeWhile_cons_of_neg (by simp [hx]),
      List.append_nil, (List.takeWhile_prefix p).eq_of_length hall]
  refine Lexeme.scan_eq_iff.2 ?_
  generalize hlexeme : (⟨kind, cs.length⟩ : Lexeme) = lexeme at h ⊢
  obtain ⟨hkind', hlength⟩ := Lexeme.mk.inj hlexeme
  cases Lexeme.scan_eq_iff.1 h with
  | semicolon hc => exact .semicolon hc
  | dashes hc hnext => exact absurd hkind' hkind.2.2
  | slashStar hc hnext => exact absurd hkind' hkind.2.1
  | quoted hc => exact absurd hkind' hkind.1
  | word hc =>
    rw [← htakes hlength.symm hword]
    exact .word hc
  | space hc hnot =>
    rw [← htakes hlength.symm (hspace hkind')]
    exact .space hc hnot
  | single hsemicolon hdashes hnext hquote hnot hblank =>
    obtain rfl := List.eq_nil_of_length_eq_zero hlength
    exact .single hsemicolon (fun hc => hdash (Option.some.inj hc.2))
      (fun hc => hstar (Option.some.inj hc.2)) hquote hnot hblank

lemma exists_scan_dashes (w : List Char) (hc : c = '-') (hnext : (cs ++ rest).head? = some '-')
    (h : toLineEnd (cs ++ rest) = cs.length) :
    ∃ k ≤ w.length, Lexeme.scan c (cs ++ (w ++ rest)) = ⟨.inlineComment, cs.length + k⟩ := by
  have hnext' : (cs ++ (w ++ rest)).head? = some '-' := by
    cases cs with
    | nil => exact absurd (eq_of_toLineEnd_append h '-' hnext) (by decide)
    | cons e cs => exact hnext
  obtain ⟨k, hk, heq⟩ := exists_takeWhile_eq w h
  refine ⟨k, hk, ?_⟩
  rw [← heq]
  exact Lexeme.scan_eq_iff.2 (.dashes hc hnext')

lemma exists_scan_slashStar (hw : IsSpace (d :: w)) (hc : c = '/')
    (hnext : (cs ++ rest).head? = some '*') (h : 1 + toCommentEnd (cs ++ rest).tail = cs.length) :
    ∃ k ≤ (d :: w).length,
      Lexeme.scan c (cs ++ (d :: w ++ rest)) = ⟨.blockComment, cs.length + k⟩ := by
  obtain ⟨e, cs, rfl⟩ := List.exists_cons_of_length_pos (show 0 < cs.length by omega)
  rw [List.cons_append, List.tail_cons, List.length_cons] at h
  have hslash := (Lexeme.isPlain_of_isWhiteSpace (hw d List.mem_cons_self)).ne_slash
  obtain ⟨k, hk, heq⟩ := exists_toCommentEnd_eq (hw.notMem (by decide)) hslash
    (show toCommentEnd (cs ++ rest) = cs.length by omega)
  have hmore : 1 + toCommentEnd (cs ++ (d :: w ++ rest)) = (e :: cs).length + k := by
    rw [heq, List.length_cons]
    omega
  refine ⟨k, hk, ?_⟩
  rw [← hmore]
  exact Lexeme.scan_eq_iff.2 (.slashStar hc hnext)

lemma exists_scan_quoted (hw : IsSpace (d :: w)) (hc : isQuote c = true)
    (h : toClosingQuote c (cs ++ rest) = cs.length) :
    ∃ k ≤ (d :: w).length,
      Lexeme.scan c (cs ++ (d :: w ++ rest)) = ⟨.string, cs.length + k⟩ := by
  have hblank : isWhiteSpace c = false := by
    rcases Lexeme.isQuote_iff.1 hc with rfl | rfl | rfl <;> decide
  obtain ⟨k, hk, heq⟩ := exists_toClosingQuote_eq (hw.notMem hblank) h
  refine ⟨k, hk, ?_⟩
  rw [← heq]
  exact Lexeme.scan_eq_iff.2 (.quoted hc)

lemma exists_scan_space (w : List Char) (hc : isWhiteSpace c = true)
    (hword : isWordCharacter c = false)
    (h : ((cs ++ rest).takeWhile isWhiteSpace).length = cs.length) :
    ∃ k ≤ w.length, Lexeme.scan c (cs ++ (w ++ rest)) = ⟨.whitespace, cs.length + k⟩ := by
  obtain ⟨k, hk, heq⟩ := exists_takeWhile_eq w h
  refine ⟨k, hk, ?_⟩
  rw [← heq]
  exact Lexeme.scan_eq_iff.2 (.space hc hword)

/-- What a lexeme takes over of white space that is put behind it: nothing if it is a word. -/
lemma exists_scan_eq (hw : IsSpace (d :: w))
    (h : Lexeme.scan c (cs ++ rest) = ⟨kind, cs.length⟩) :
    ∃ k ≤ (d :: w).length, Lexeme.scan c (cs ++ (d :: w ++ rest)) = ⟨kind, cs.length + k⟩ ∧
      (k ≠ 0 → kind ≠ .keyword) := by
  have hd : isWhiteSpace d = true := hw d List.mem_cons_self
  have hends : kind ≠ .string ∧ kind ≠ .blockComment ∧ kind ≠ .inlineComment ∧
      kind ≠ .whitespace → Lexeme.scan c (cs ++ (d :: w ++ rest)) = ⟨kind, cs.length + 0⟩ := by
    rintro ⟨hstring, hblock, hline, hspace⟩
    have hshort : Lexeme.scan c cs = ⟨kind, cs.length⟩ := by
      rw [← h]
      exact (Lexeme.scan_append (by rw [h])).symm
    exact scan_append_of_ends hshort ⟨hstring, hblock, hline⟩ (isWordCharacter_of_isWhiteSpace hd)
      (Lexeme.isPlain_of_isWhiteSpace hd).ne_dash (by rintro rfl; cases hd)
      fun hkind => absurd hkind hspace
  generalize hlexeme : (⟨kind, cs.length⟩ : Lexeme) = lexeme at h
  obtain ⟨hkind, hlength⟩ := Lexeme.mk.inj hlexeme
  cases Lexeme.scan_eq_iff.1 h with
  | semicolon hc => exact ⟨0, Nat.zero_le _, hends (by simp [hkind]), by simp⟩
  | dashes hc hnext =>
    obtain ⟨k, hk, heq⟩ := exists_scan_dashes (d :: w) hc hnext hlength.symm
    exact ⟨k, hk, hkind ▸ heq, by simp [hkind]⟩
  | slashStar hc hnext =>
    obtain ⟨k, hk, heq⟩ := exists_scan_slashStar hw hc hnext hlength.symm
    exact ⟨k, hk, hkind ▸ heq, by simp [hkind]⟩
  | quoted hc =>
    obtain ⟨k, hk, heq⟩ := exists_scan_quoted hw hc hlength.symm
    exact ⟨k, hk, hkind ▸ heq, by simp [hkind]⟩
  | word hc =>
    refine ⟨0, Nat.zero_le _, hends ?_, by simp⟩
    rw [hkind]
    unfold Lexeme.wordKind
    split <;> simp
  | space hc hword =>
    obtain ⟨k, hk, heq⟩ := exists_scan_space (d :: w) hc hword hlength.symm
    exact ⟨k, hk, hkind ▸ heq, by simp [hkind]⟩
  | single => exact ⟨0, Nat.zero_le _, hends (by simp [hkind]), by simp⟩

/-! ## White space between two pieces -/

/-- The keyword that a piece spells, if it spells one. -/
def Piece.keyword? (p : Piece) : Option Keyword :=
  Keyword.ofWord? (String.ofList p.text)

lemma Piece.keyword?_eq_none {p : Piece} {ps : List Piece} (h : pieces cs = p :: ps)
    (hkind : p.kind ≠ .keyword) : p.keyword? = none := by
  have hmem : p ∈ pieces cs := by simp [h]
  cases hword : p.keyword? with
  | none => rfl
  | some word => exact absurd (kind_eq_of_ofWord? hmem hword) hkind

/-- The second pieces are the first with blank space: there are more pieces of white space, and a
piece may have another text, though not another keyword. -/
inductive Widened : List Piece → List Piece → Prop
  | nil : Widened [] []
  | cons {p q : Piece} {ps qs : List Piece} (hkind : q.kind = p.kind)
      (hword : q.keyword? = p.keyword?) (h : Widened ps qs) : Widened (p :: ps) (q :: qs)
  | space {w : List Char} {ps qs : List Piece} (h : Widened ps qs) :
      Widened ps (⟨.whitespace, w⟩ :: qs)

namespace Widened

lemma refl (ps : List Piece) : Widened ps ps := by
  induction ps with
  | nil => exact .nil
  | cons p ps ih => exact .cons rfl rfl ih

lemma append_left {ps qs : List Piece} (rs : List Piece) (h : Widened ps qs) :
    Widened (rs ++ ps) (rs ++ qs) := by
  induction rs with
  | nil => exact h
  | cons r rs ih => exact .cons rfl rfl ih

end Widened

lemma pieces_cons_of_isWhiteSpace (hc : isWhiteSpace c = true) (cs : List Char) :
    pieces (c :: cs) =
      ⟨.whitespace, c :: cs.takeWhile isWhiteSpace⟩ :: pieces (cs.dropWhile isWhiteSpace) := by
  have hshape : Lexeme.Shape c cs _ := .space hc (isWordCharacter_of_isWhiteSpace hc)
  rw [pieces, Lexeme.scan_eq_iff.2 hshape, take_length_takeWhile, drop_length_takeWhile]

lemma widened_pieces_append (hw : IsSpace w) (cs : List Char) :
    Widened (pieces cs) (pieces (w ++ cs)) := by
  cases w with
  | nil => exact .refl _
  | cons d w =>
    obtain ⟨hd, hw⟩ := List.forall_mem_cons.1 hw
    have hpieces := pieces_cons_of_isWhiteSpace hd (w ++ cs)
    have hdrop : (w ++ cs).dropWhile isWhiteSpace = cs.dropWhile isWhiteSpace :=
      List.dropWhile_append_of_pos hw
    rw [List.cons_append, hpieces, hdrop]
    cases cs with
    | nil => exact .space (.refl _)
    | cons c cs =>
      -- White space at the start of the text is taken over, and anything else stays as it is.
      by_cases hc : isWhiteSpace c = true
      · have hfirst := pieces_cons_of_isWhiteSpace hc cs
        rw [List.dropWhile_cons_of_pos hc, hfirst]
        refine .cons rfl ?_ (.refl _)
        rw [hdrop, List.dropWhile_cons_of_pos hc] at hpieces
        rw [Piece.keyword?_eq_none hpieces (by simp), Piece.keyword?_eq_none hfirst (by simp)]
      · rw [List.dropWhile_cons_of_neg hc]
        exact .space (.refl _)

/-- White space behind a piece makes it longer, or is put before what follows. -/
lemma widened_text_append {p : Piece} {bs : List Char} (hne : p.text ≠ [])
    (h : pieces (p.text ++ bs) = p :: pieces bs) (hw : IsSpace w) :
    Widened (p :: pieces bs) (pieces (p.text ++ (w ++ bs))) := by
  cases w with
  | nil =>
    rw [List.nil_append, h]
    exact .refl _
  | cons d w =>
    obtain ⟨kind, text⟩ := p
    obtain ⟨c, cs, rfl⟩ := List.exists_cons_of_ne_nil hne
    obtain ⟨k, hk, hscan, hkeyword⟩ := exists_scan_eq hw (scan_eq_of_pieces h)
    have hpieces : pieces (c :: cs ++ (d :: w ++ bs)) =
        ⟨kind, c :: cs ++ (d :: w).take k⟩ :: pieces ((d :: w).drop k ++ bs) := by
      rw [List.cons_append, pieces, hscan, List.take_length_add_append,
        List.drop_length_add_append, List.take_append_of_le_length hk,
        List.drop_append_of_le_length hk, List.cons_append]
    rw [hpieces]
    refine .cons rfl ?_ (widened_pieces_append (fun c hc => hw c (List.mem_of_mem_drop hc)) bs)
    by_cases hzero : k = 0
    · simp only [hzero, List.take_zero, List.append_nil]
    · have hkind := hkeyword hzero
      rw [Piece.keyword?_eq_none hpieces hkind, Piece.keyword?_eq_none h hkind]

lemma eq_nil_or_exists_last (cs : List Char) :
    cs = [] ∨ ∃ ps p, pieces cs = ps ++ [p] ∧ pieces p.text = [p] := by
  rcases List.eq_nil_or_concat (pieces cs) with hnil | ⟨ps, p, hlast⟩
  · left
    rw [← chars_pieces cs, hnil]
    rfl
  · right
    rw [List.concat_eq_append] at hlast
    have hown := (pieces_of_append hlast).2
    rw [Piece.chars_cons, Piece.chars_nil, List.append_nil] at hown
    exact ⟨ps, p, hlast, hown⟩

lemma ne_nil_of_pieces_eq {p : Piece} (h : pieces p.text = [p]) : p.text ≠ [] := by
  have hmem : p ∈ pieces p.text := by simp [h]
  exact ne_nil_of_mem_pieces hmem

/-- White space between two pieces widens the pieces of a text. -/
theorem widened_pieces {as bs : List Char} (h : pieces (as ++ bs) = pieces as ++ pieces bs)
    (hw : IsSpace w) : Widened (pieces (as ++ bs)) (pieces (as ++ (w ++ bs))) := by
  rcases eq_nil_or_exists_last as with rfl | ⟨ps, p, hlast, hself⟩
  · exact widened_pieces_append hw bs
  · have hbehind : pieces (p.text ++ bs) = p :: pieces bs := by
      rw [pieces_append hlast, hlast, List.append_assoc] at h
      exact List.append_cancel_left h
    rw [pieces_append hlast, pieces_append hlast, hbehind]
    exact (widened_text_append (ne_nil_of_pieces_eq hself) hbehind hw).append_left ps

/-! ## A comment between two pieces -/

/-- The piece does not take over what is put behind it: it is closed, or it is neither quoted nor a
comment. -/
def Piece.Ends (p : Piece) : Prop :=
  (p.kind ≠ .string ∧ p.kind ≠ .blockComment ∧ p.kind ≠ .inlineComment) ∨
    ∃ (e : Enclosure) (content : List Char), e.kind ≠ .inlineComment ∧ e.Allows content ∧
      p = e.piece content

/-- A piece that ends does so before any character that is in no word, is neither white space nor a
quote, and does not make the opening of a comment out of a single character. -/
lemma Piece.Ends.pieces_append_cons {p : Piece} (h : p.Ends) (hself : pieces p.text = [p])
    {x : Char} (hword : isWordCharacter x = false) (hspace : isWhiteSpace x = false)
    (hquote : isQuote x = false) (hdash : x ≠ '-') (hstar : x ≠ '*') (rest : List Char) :
    pieces (p.text ++ x :: rest) = p :: pieces (x :: rest) := by
  rcases h with hkind | ⟨e, content, hline, hcontent, rfl⟩
  · obtain ⟨kind, text⟩ := p
    obtain ⟨c, cs, rfl⟩ := List.exists_cons_of_ne_nil (ne_nil_of_pieces_eq hself)
    have hscan : Lexeme.scan c (cs ++ []) = ⟨kind, cs.length⟩ :=
      scan_eq_of_pieces (by rw [List.append_nil]; exact hself)
    rw [List.append_nil] at hscan
    have hscan' : Lexeme.scan c (cs ++ x :: rest) = ⟨kind, cs.length⟩ :=
      scan_append_of_ends hscan hkind hword hdash hstar fun _ => hspace
    rw [List.cons_append, pieces, hscan', List.take_left, List.drop_left]
  · refine Enclosure.pieces_around_append hcontent ?_
    cases e with
    | quotes q hq =>
      rintro hhead
      rw [← Option.some.inj hhead, hquote] at hq
      cases hq
    | block => trivial
    | line => exact absurd rfl hline

/-- A block comment behind a piece that ends is a piece, and what follows is read as it is read
alone. -/
theorem pieces_append_block {as content : List Char}
    (hends : ∀ p, (pieces as).getLast? = some p → p.Ends)
    (hcontent : Enclosure.block.Allows content) (bs : List Char) :
    pieces (as ++ (Enclosure.block.around content ++ bs)) =
      pieces as ++ Enclosure.block.piece content :: pieces bs := by
  have hblock : pieces (Enclosure.block.around content ++ bs) =
      Enclosure.block.piece content :: pieces bs :=
    Enclosure.pieces_around_append hcontent trivial
  rw [← hblock]
  rcases eq_nil_or_exists_last as with rfl | ⟨ps, p, hlast, hself⟩
  · rw [pieces, List.nil_append, List.nil_append]
  · have hslash := (hends p (by simp [hlast])).pieces_append_cons hself (x := '/') (by decide)
      (by decide) (by decide) (by decide) (by decide)
      ('*' :: (content ++ ['*', '/']) ++ bs)
    rw [pieces_append hlast, hlast, List.append_assoc, List.singleton_append]
    exact congrArg (ps ++ ·) hslash

end SqlSplit
