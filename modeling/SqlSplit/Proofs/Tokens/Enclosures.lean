import SqlSplit.Proofs.Tokens.Words

/-!
# Text that is enclosed

Quoted text and comments are read over without a look at what they contain.  An `Enclosure` is what
stands around such a content: two quotes of a kind, the marks of a block comment, or the two dashes
of a comment to the end of the line.  Not every content can stand there as it is.  A quote has to be
written twice, a block comment cannot contain its own end, and a line comment no line break.

`pieces_around_append` states that enclosed text is one piece, whatever the content, and
`endsBefore_of_pieces` that this asks no more of what follows than that the enclosure ends there.
-/

namespace SqlSplit

open Lexeme (toClosingQuote toCommentEnd toLineEnd isQuote)

/-! ## Enclosures -/

/-- What stands around text that is not looked at. -/
inductive Enclosure where
  /-- A quote on either side. -/
  | quotes (q : Char) (hq : isQuote q = true)
  /-- The marks of a block comment. -/
  | block
  /-- Two dashes, and the end of the line. -/
  | line

/-- The content with every quote written twice. -/
def doubled (q : Char) (content : List Char) : List Char :=
  content.flatMap fun c => if c = q then [q, q] else [c]

namespace Enclosure

/-- The kind of the token that the enclosed text is. -/
def kind : Enclosure → TokenKind
  | quotes _ _ => .string
  | block => .blockComment
  | line => .inlineComment

/-- The content with what stands around it. -/
def around : Enclosure → List Char → List Char
  | quotes q _, content => q :: (doubled q content ++ [q])
  | block, content => '/' :: '*' :: (content ++ ['*', '/'])
  | line, content => '-' :: '-' :: content

/-- The text of a content with what stands around it. -/
def write (e : Enclosure) (content : String) : String :=
  String.ofList (e.around content.toList)

lemma toList_write (e : Enclosure) (content : String) :
    (e.write content).toList = e.around content.toList :=
  String.toList_ofList

/-- The content can stand in the enclosure. -/
def Allows : Enclosure → List Char → Prop
  | quotes _ _, _ => True
  | block, content => ¬ ['*', '/'] <:+: content
  | line, content => '\n' ∉ content

instance (e : Enclosure) (content : List Char) : Decidable (e.Allows content) :=
  match e with
  | quotes _ _ => inferInstanceAs (Decidable True)
  | block => inferInstanceAs (Decidable (¬ ['*', '/'] <:+: content))
  | line => inferInstanceAs (Decidable ('\n' ∉ content))

/-- The enclosure ends before the rest of a text. -/
def EndsBefore : Enclosure → List Char → Prop
  | quotes q _, rest => rest.head? ≠ some q
  | block, _ => True
  | line, rest => ∀ c, rest.head? = some c → c = '\n'

/-- The piece that the enclosed text is. -/
def piece (e : Enclosure) (content : List Char) : Piece :=
  ⟨e.kind, e.around content⟩

/-- What is enclosed in the same way begins with the same character, which is in no word. -/
lemma exists_around_eq (e : Enclosure) :
    ∃ c, Lexeme.isWordCharacter c = false ∧
      ∀ content, ∃ cs, cs ≠ [] ∧ e.around content = c :: cs := by
  cases e with
  | quotes q hq =>
    refine ⟨q, ?_, fun content => ⟨doubled q content ++ [q], by simp, rfl⟩⟩
    rcases Lexeme.isQuote_iff.1 hq with rfl | rfl | rfl <;> decide
  | block => exact ⟨'/', by decide, fun content => ⟨_, List.cons_ne_nil _ _, rfl⟩⟩
  | line => exact ⟨'-', by decide, fun content => ⟨_, List.cons_ne_nil _ _, rfl⟩⟩

end Enclosure

/-! ## Where enclosures end -/

variable {q : Char} {content rest : List Char}

lemma doubled_cons_self (q : Char) (content : List Char) :
    doubled q (q :: content) = q :: q :: doubled q content := by
  simp [doubled]

lemma doubled_cons_of_ne {c : Char} (h : c ≠ q) (content : List Char) :
    doubled q (c :: content) = c :: doubled q content := by
  simp [doubled, h]

/-- What is doubled is read over, and the quotation goes on behind it. -/
lemma toClosingQuote_doubled_append (q : Char) (content rest : List Char) :
    toClosingQuote q (doubled q content ++ rest) =
      (doubled q content).length + toClosingQuote q rest := by
  induction content with
  | nil => simp [doubled]
  | cons c content ih =>
    by_cases hc : c = q
    · subst hc
      rw [doubled_cons_self, List.cons_append, List.cons_append, toClosingQuote, if_pos rfl,
        if_pos rfl, ih]
      simp only [List.length_cons]
      omega
    · rw [doubled_cons_of_ne hc, List.cons_append, Lexeme.toClosingQuote_cons_of_ne hc, ih,
        List.length_cons]
      omega

lemma toClosingQuote_cons_self_iff :
    toClosingQuote q (q :: rest) = 1 ↔ rest.head? ≠ some q := by
  cases rest with
  | nil => simp [toClosingQuote]
  | cons c rest =>
    by_cases hc : c = q
    · simp only [toClosingQuote, if_true, List.head?_cons, hc, ne_eq, not_true_eq_false, iff_false]
      omega
    · simp [toClosingQuote, hc]

lemma toCommentEnd_append_mark (h : ¬ ['*', '/'] <:+: content) (rest : List Char) :
    toCommentEnd (content ++ '*' :: '/' :: rest) = content.length + 2 := by
  induction content with
  | nil => simp [toCommentEnd]
  | cons c content ih =>
    rw [List.infix_cons_iff, not_or] at h
    obtain ⟨hmark, hrest⟩ := h
    have hgo : ¬ (c = '*' ∧ (content ++ '*' :: '/' :: rest).head? = some '/') := by
      rintro ⟨rfl, hhead⟩
      cases content with
      | nil => simp at hhead
      | cons d content =>
        cases hhead
        exact hmark (by simp)
    rw [List.cons_append, toCommentEnd, if_neg hgo, ih hrest, List.length_cons]
    omega

lemma toLineEnd_append (h : '\n' ∉ content) (hrest : ∀ c, rest.head? = some c → c = '\n') :
    toLineEnd (content ++ rest) = content.length := by
  have hcontent : ∀ c ∈ content, (c != '\n') = true := by
    intro c hc
    simp only [bne_iff_ne, ne_eq]
    rintro rfl
    exact h hc
  have hend : ∀ c, rest.head? = some c → (c != '\n') = false := by
    intro c hc
    simp [hrest c hc]
  rw [toLineEnd, takeWhile_append_of_head? hcontent hend]

lemma eq_of_toLineEnd_append (h : toLineEnd (content ++ rest) = content.length) :
    ∀ c, rest.head? = some c → c = '\n' := by
  rw [toLineEnd, List.takeWhile_append] at h
  split_ifs at h with hall
  · rw [List.length_append] at h
    have hnil : rest.takeWhile (· != '\n') = [] := List.eq_nil_of_length_eq_zero (by omega)
    intro c hc
    obtain ⟨rest', rfl⟩ := List.head?_eq_some_iff.1 hc
    by_contra hne
    rw [List.takeWhile_cons_of_pos (by simpa using hne)] at hnil
    cases hnil
  · exact absurd h hall

/-! ## Enclosed text is one piece -/

lemma shape_dashes (hline : '\n' ∉ content) (hdash : (content ++ rest).head? = some '-')
    (hend : ∀ d, rest.head? = some d → d = '\n') :
    Lexeme.Shape '-' (content ++ rest) ⟨.inlineComment, content.length⟩ := by
  rw [← toLineEnd_append hline hend]
  exact .dashes rfl hdash

lemma shape_closedComment (hcontent : ¬ ['*', '/'] <:+: content) (rest : List Char) :
    Lexeme.Shape '/' ('*' :: (content ++ ['*', '/']) ++ rest)
      ⟨.blockComment, ('*' :: (content ++ ['*', '/'])).length⟩ := by
  have hend := toCommentEnd_append_mark hcontent rest
  have hshape : Lexeme.Shape '/' ('*' :: (content ++ ['*', '/']) ++ rest) _ := .slashStar rfl rfl
  simp only [List.cons_append, List.tail_cons, List.append_assoc, List.nil_append, hend] at hshape
  simpa [Nat.add_comm] using hshape

lemma shape_closedQuotation (hq : isQuote q = true) (content : List Char)
    (hend : rest.head? ≠ some q) :
    Lexeme.Shape q (doubled q content ++ [q] ++ rest)
      ⟨.string, (doubled q content ++ [q]).length⟩ := by
  have hshape : Lexeme.Shape q (doubled q content ++ [q] ++ rest) _ := .quoted hq
  rw [List.append_assoc, List.singleton_append, toClosingQuote_doubled_append,
    toClosingQuote_cons_self_iff.2 hend] at hshape
  simpa using hshape

namespace Enclosure

variable {e : Enclosure} {kind : TokenKind}

/-- Enclosed text is one piece, and what follows it is read as it is read alone. -/
theorem pieces_around_append (hcontent : e.Allows content) (hrest : e.EndsBefore rest) :
    pieces (e.around content ++ rest) = e.piece content :: pieces rest := by
  cases e with
  | quotes q hq => exact pieces_append_of_shape (shape_closedQuotation hq content hrest)
  | block => exact pieces_append_of_shape (shape_closedComment hcontent rest)
  | line =>
    have hall : '\n' ∉ '-' :: content := by
      rw [List.mem_cons, not_or]
      exact ⟨by decide, hcontent⟩
    exact pieces_append_of_shape (shape_dashes hall rfl hrest)

/-- If enclosed text is a piece of a text, it is of the kind of the enclosure, which ends there. -/
theorem endsBefore_of_pieces
    (h : pieces (e.around content ++ rest) = ⟨kind, e.around content⟩ :: pieces rest) :
    kind = e.kind ∧ e.EndsBefore rest := by
  cases e with
  | quotes q hq =>
    have hscan := scan_eq_of_pieces h
    rw [Lexeme.scan_eq_iff.2 (.quoted hq)] at hscan
    obtain ⟨hkind, hend⟩ := Lexeme.mk.inj hscan
    rw [List.append_assoc, List.singleton_append, toClosingQuote_doubled_append,
      List.length_append, List.length_singleton] at hend
    exact ⟨hkind.symm, toClosingQuote_cons_self_iff.1 (by omega)⟩
  | block =>
    have hscan := scan_eq_of_pieces h
    rw [Lexeme.scan_eq_iff.2 (.slashStar rfl rfl)] at hscan
    exact ⟨(Lexeme.mk.inj hscan).1.symm, trivial⟩
  | line =>
    have hscan := scan_eq_of_pieces h
    rw [Lexeme.scan_eq_iff.2 (.dashes rfl rfl)] at hscan
    obtain ⟨hkind, hend⟩ := Lexeme.mk.inj hscan
    exact ⟨hkind.symm, eq_of_toLineEnd_append hend⟩

lemma ofWord?_write (e : Enclosure) (content : String) :
    Keyword.ofWord? (e.write content) = none := by
  obtain ⟨c, hc, haround⟩ := e.exists_around_eq
  obtain ⟨cs, -, hcs⟩ := haround content.toList
  by_contra hne
  obtain ⟨word, hword⟩ := Option.ne_none_iff_exists'.1 hne
  have hall := isWordCharacter_of_ofWord? hword
  rw [hcs] at hall
  rw [hall c List.mem_cons_self] at hc
  cases hc

end Enclosure

end SqlSplit
