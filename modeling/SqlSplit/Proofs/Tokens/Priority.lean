import SqlSplit.Proofs.Tokens.Enclosures

/-!
# The documented order of the rules

The documentation gives seven rules for the token at the head of a text, the first of which that
applies gives the token: white space, the two kinds of comments, quotations, the semicolon, words,
and any other character.  A lexeme is found by other tests in another order.

`Rule` is the list as it is documented.  Whether a rule applies is seen from the first characters
(`Rule.applies`), and `Rule.Reads` says what it makes of a text, without a scan: where a quotation
or a comment ends, for example, is said by what it contains.  The main statement is
`scan_eq_documented`: the first rule of the list that applies reads every text in exactly one way,
and this is the lexeme.
-/

namespace SqlSplit

open Lexeme (isWordCharacter isQuote toClosingQuote toCommentEnd scan)
open Unicode (isWhiteSpace)

/-! ## The rules -/

/-- The rules for the token at the head of a text. -/
inductive Rule where
  | whiteSpace
  | lineComment
  | blockComment
  | quotation
  | semicolon
  | word
  | other
  deriving DecidableEq, Repr

namespace Rule

/-- The rules in the order in which they are tried. -/
def documented : List Rule :=
  [whiteSpace, lineComment, blockComment, quotation, semicolon, word, other]

/-- Whether the rule applies to a text, which its first characters tell. -/
def applies : Rule → List Char → Bool
  | _, [] => false
  | whiteSpace, c :: _ => isWhiteSpace c
  | lineComment, c :: cs => c == '-' && cs.head? == some '-'
  | blockComment, c :: cs => c == '/' && cs.head? == some '*'
  | quotation, c :: _ => isQuote c
  | semicolon, c :: _ => c == ';'
  | word, c :: _ => isWordCharacter c
  | other, _ :: _ => true

/-- The rule takes the first of the two parts of a text as a token of the given kind. -/
inductive Reads : Rule → List Char → List Char → TokenKind → Prop
  /-- All white space up to another character or the end. -/
  | whiteSpace {taken rest : List Char} (hall : ∀ c ∈ taken, isWhiteSpace c = true)
      (hend : ∀ c, rest.head? = some c → isWhiteSpace c = false) :
      Reads whiteSpace taken rest .whitespace
  /-- All up to the first line break, which is left, or to the end. -/
  | lineComment {taken rest : List Char} (hline : '\n' ∉ taken)
      (hend : ∀ c, rest.head? = some c → c = '\n') :
      Reads lineComment taken rest .inlineComment
  /-- All up to and including the first star-slash behind the opening mark. -/
  | closedComment {content rest : List Char} (hcontent : ¬ ['*', '/'] <:+: content) :
      Reads blockComment ('/' :: '*' :: (content ++ ['*', '/'])) rest .blockComment
  /-- All, if there is no star-slash behind the opening mark. -/
  | openComment {content : List Char} (hcontent : ¬ ['*', '/'] <:+: content) :
      Reads blockComment ('/' :: '*' :: content) [] .blockComment
  /-- A content with its quotes doubled, between two quotes, if no third one follows. -/
  | closedQuotation {q : Char} {content rest : List Char} (hq : isQuote q = true)
      (hend : rest.head? ≠ some q) :
      Reads quotation (q :: (doubled q content ++ [q])) rest .string
  /-- All, if no part of the text is such a quotation. -/
  | openQuotation {q : Char} {cs : List Char} (hq : isQuote q = true)
      (hopen : ∀ content rest, cs = doubled q content ++ q :: rest → rest.head? = some q) :
      Reads quotation (q :: cs) [] .string
  /-- The semicolon alone. -/
  | semicolon {rest : List Char} : Reads semicolon [';'] rest .semicolon
  /-- All word characters up to another character or the end, if they spell a keyword. -/
  | keyword {taken rest : List Char} {spelled : Keyword}
      (hall : ∀ c ∈ taken, isWordCharacter c = true)
      (hend : ∀ c, rest.head? = some c → isWordCharacter c = false)
      (hspells : Text.eqIgnoringCase spelled.spelling (String.ofList taken) = true) :
      Reads word taken rest .keyword
  /-- The same, if they spell none. -/
  | name {taken rest : List Char} (hall : ∀ c ∈ taken, isWordCharacter c = true)
      (hend : ∀ c, rest.head? = some c → isWordCharacter c = false)
      (hspells : ∀ spelled : Keyword,
        Text.eqIgnoringCase spelled.spelling (String.ofList taken) = false) :
      Reads word taken rest .unknown
  /-- Any character alone. -/
  | other {c : Char} {rest : List Char} : Reads other [c] rest .unknown

end Rule

variable {q c : Char} {cs taken rest : List Char} {rule : Rule} {kind : TokenKind}

/-! ## Where quotations and comments end -/

lemma toClosingQuote_eq_length_of_open
    (h : ∀ content rest, cs = doubled q content ++ q :: rest → rest.head? = some q) :
    toClosingQuote q cs = cs.length := by
  fun_induction toClosingQuote q cs with
  | case1 => rfl
  | case2 => cases h [] [] rfl
  | case3 ds ih =>
    have hrest : toClosingQuote q ds = ds.length := by
      refine ih fun content rest hds => h (q :: content) rest ?_
      rw [doubled_cons_self, hds]
      rfl
    rw [hrest, List.length_cons, List.length_cons, Nat.add_comm]
  | case4 d ds hd =>
    have hhead : some d = some q := h [] (d :: ds) rfl
    exact absurd (Option.some.inj hhead) hd
  | case5 c cs hc ih =>
    have hrest : toClosingQuote q cs = cs.length := by
      refine ih fun content rest hcs => h (c :: content) rest ?_
      rw [doubled_cons_of_ne hc, hcs]
      rfl
    rw [hrest, List.length_cons, Nat.add_comm]

lemma toCommentEnd_eq_length_of_open (h : ¬ ['*', '/'] <:+: cs) : toCommentEnd cs = cs.length := by
  induction cs with
  | nil => rfl
  | cons c cs ih =>
    rw [List.infix_cons_iff, not_or] at h
    have hgo : ¬ (c = '*' ∧ cs.head? = some '/') := by
      rintro ⟨rfl, hhead⟩
      obtain ⟨ds, rfl⟩ := List.head?_eq_some_iff.1 hhead
      exact h.1 (by simp)
    rw [toCommentEnd, if_neg hgo, ih h.2, List.length_cons, Nat.add_comm]

lemma exists_first_mark (h : ['*', '/'] <:+: cs) :
    ∃ content rest, cs = content ++ '*' :: '/' :: rest ∧ ¬ ['*', '/'] <:+: content := by
  induction cs with
  | nil => simp at h
  | cons c cs ih =>
    by_cases hhere : ['*', '/'] <+: c :: cs
    · obtain ⟨rest, hrest⟩ := hhere
      exact ⟨[], rest, hrest.symm, by simp⟩
    · obtain ⟨content, rest, rfl, hcontent⟩ := ih ((List.infix_cons_iff.1 h).resolve_left hhere)
      refine ⟨c :: content, rest, rfl, ?_⟩
      rw [List.infix_cons_iff, not_or]
      refine ⟨fun hcut => hhere ?_, hcontent⟩
      exact hcut.trans (List.prefix_append (c :: content) ('*' :: '/' :: rest))

/-! ## Every rule that applies reads the text -/

lemma exists_run (p : Char → Bool) (cs : List Char) :
    ∃ taken rest, cs = taken ++ rest ∧ (∀ d ∈ taken, p d = true) ∧
      ∀ d, rest.head? = some d → p d = false := by
  refine ⟨cs.takeWhile p, cs.dropWhile p, ?_, ?_, ?_⟩
  · rw [List.takeWhile_append_dropWhile]
  · exact fun d => List.mem_takeWhile_imp
  · intro d hd
    have := List.head?_dropWhile_not p cs
    rw [hd] at this
    exact this

lemma Rule.exists_reads (h : rule.applies (c :: cs) = true) :
    ∃ taken rest kind, c :: cs = taken ++ rest ∧ rule.Reads taken rest kind := by
  cases rule with
  | whiteSpace =>
    obtain ⟨taken, rest, htext, hall, hend⟩ := exists_run isWhiteSpace (c :: cs)
    exact ⟨taken, rest, _, htext, .whiteSpace hall hend⟩
  | lineComment =>
    obtain ⟨taken, rest, htext, hall, hend⟩ := exists_run (· != '\n') (c :: cs)
    refine ⟨taken, rest, _, htext, .lineComment ?_ ?_⟩
    · exact fun hmem => by simpa using hall '\n' hmem
    · exact fun d hd => by simpa using hend d hd
  | blockComment =>
    simp only [applies, Bool.and_eq_true, beq_iff_eq] at h
    obtain ⟨rfl, hhead⟩ := h
    obtain ⟨ds, rfl⟩ := List.head?_eq_some_iff.1 hhead
    by_cases hmark : ['*', '/'] <:+: ds
    · obtain ⟨content, rest, rfl, hcontent⟩ := exists_first_mark hmark
      exact ⟨_, rest, _, by simp, .closedComment hcontent⟩
    · exact ⟨_, [], _, by simp, .openComment hmark⟩
  | quotation =>
    by_cases hopen : ∀ content rest, cs = doubled c content ++ c :: rest → rest.head? = some c
    · exact ⟨_, [], _, by simp, .openQuotation h hopen⟩
    · simp only [not_forall] at hopen
      obtain ⟨content, rest, rfl, hend⟩ := hopen
      refine ⟨c :: (doubled c content ++ [c]), rest, _, ?_, .closedQuotation h hend⟩
      simp
  | semicolon =>
    obtain rfl : c = ';' := by simpa [applies] using h
    exact ⟨[';'], cs, _, rfl, .semicolon⟩
  | word =>
    obtain ⟨taken, rest, htext, hall, hend⟩ := exists_run isWordCharacter (c :: cs)
    by_cases hspells : ∃ spelled : Keyword,
        Text.eqIgnoringCase spelled.spelling (String.ofList taken) = true
    · obtain ⟨spelled, hspelled⟩ := hspells
      exact ⟨taken, rest, _, htext, .keyword hall hend hspelled⟩
    · refine ⟨taken, rest, _, htext, .name hall hend fun spelled => ?_⟩
      exact Bool.eq_false_iff.2 fun hspelled => hspells ⟨spelled, hspelled⟩
  | other => exact ⟨[c], cs, _, rfl, .other⟩

/-! ## A rule reads what the scan finds -/

lemma exists_of_run {p : Char → Bool} (htext : c :: cs = taken ++ rest) (hc : p c = true)
    (hend : ∀ d, rest.head? = some d → p d = false) :
    ∃ w, taken = c :: w ∧ cs = w ++ rest := by
  cases taken with
  | nil =>
    have hnot := hend c (by rw [← List.nil_append rest, ← htext, List.head?_cons])
    rw [hc] at hnot
    cases hnot
  | cons d w =>
    obtain ⟨rfl, rfl⟩ := List.cons.inj htext
    exact ⟨w, rfl, rfl⟩

lemma shape_space (hc : isWhiteSpace c = true) (hall : ∀ d ∈ cs, isWhiteSpace d = true)
    (hend : ∀ d, rest.head? = some d → isWhiteSpace d = false) :
    Lexeme.Shape c (cs ++ rest) ⟨.whitespace, cs.length⟩ := by
  have hshape : Lexeme.Shape c (cs ++ rest) _ := .space hc (isWordCharacter_of_isWhiteSpace hc)
  rwa [takeWhile_append_of_head? hall hend] at hshape

lemma shape_word (hc : isWordCharacter c = true) (hall : ∀ d ∈ cs, isWordCharacter d = true)
    (hend : ∀ d, rest.head? = some d → isWordCharacter d = false) :
    Lexeme.Shape c (cs ++ rest) ⟨Lexeme.wordKind (String.ofList (c :: cs)), cs.length⟩ := by
  have hshape : Lexeme.Shape c (cs ++ rest) _ := .word hc
  rwa [takeWhile_append_of_head? hall hend] at hshape

lemma shape_openComment (hcontent : ¬ ['*', '/'] <:+: cs) :
    Lexeme.Shape '/' ('*' :: cs) ⟨.blockComment, ('*' :: cs).length⟩ := by
  have hshape : Lexeme.Shape '/' ('*' :: cs) _ := .slashStar rfl rfl
  rw [List.tail_cons, toCommentEnd_eq_length_of_open hcontent, Nat.add_comm] at hshape
  exact hshape

lemma shape_openQuotation (hq : isQuote q = true)
    (hopen : ∀ content rest, cs = doubled q content ++ q :: rest → rest.head? = some q) :
    Lexeme.Shape q cs ⟨.string, cs.length⟩ := by
  have hshape : Lexeme.Shape q cs _ := .quoted hq
  rwa [toClosingQuote_eq_length_of_open hopen] at hshape

/-- If no other rule applies, the character stands alone. -/
lemma shape_single (h : ∀ rule, rule ≠ Rule.other → rule.applies (c :: cs) = false) :
    Lexeme.Shape c cs ⟨.unknown, 0⟩ := by
  have hspace := h .whiteSpace (by decide)
  have hline := h .lineComment (by decide)
  have hblock := h .blockComment (by decide)
  have hquote := h .quotation (by decide)
  have hsemicolon := h .semicolon (by decide)
  have hword := h .word (by decide)
  simp only [Rule.applies] at hspace hline hblock hquote hsemicolon hword
  exact .single (by simpa using hsemicolon) (by simpa using hline) (by simpa using hblock) hquote
    hword hspace

/-- What a rule reads has the shape that the scan finds, if the rule applies, and the last rule only
where no other one does. -/
lemma Rule.Reads.shape (hreads : rule.Reads taken rest kind) (htext : c :: cs = taken ++ rest)
    (happlies : rule.applies (c :: cs) = true)
    (hother : rule = Rule.other → ∀ rule', rule' ≠ Rule.other → rule'.applies (c :: cs) = false) :
    ∃ w, taken = c :: w ∧ Lexeme.Shape c cs ⟨kind, w.length⟩ := by
  cases hreads with
  | whiteSpace hall hend =>
    obtain ⟨w, rfl, rfl⟩ := exists_of_run htext happlies hend
    exact ⟨w, rfl, shape_space happlies (List.forall_mem_cons.1 hall).2 hend⟩
  | lineComment hline hend =>
    simp only [applies, Bool.and_eq_true, beq_iff_eq] at happlies
    obtain ⟨rfl, hdash⟩ := happlies
    obtain ⟨w, rfl, rfl⟩ := exists_of_run (p := (· != '\n')) htext (by decide)
      (by simpa using hend)
    exact ⟨w, rfl, shape_dashes (fun hmem => hline (List.mem_cons_of_mem _ hmem)) hdash hend⟩
  | closedComment hcontent =>
    obtain ⟨rfl, rfl⟩ := List.cons.inj htext
    exact ⟨_, rfl, shape_closedComment hcontent rest⟩
  | openComment hcontent =>
    rw [List.append_nil] at htext
    obtain ⟨rfl, rfl⟩ := List.cons.inj htext
    exact ⟨_, rfl, shape_openComment hcontent⟩
  | closedQuotation hq hend =>
    obtain ⟨rfl, rfl⟩ := List.cons.inj htext
    exact ⟨_, rfl, shape_closedQuotation hq _ hend⟩
  | openQuotation hq hopen =>
    rw [List.append_nil] at htext
    obtain ⟨rfl, rfl⟩ := List.cons.inj htext
    exact ⟨_, rfl, shape_openQuotation hq hopen⟩
  | semicolon =>
    obtain ⟨rfl, rfl⟩ := List.cons.inj htext
    exact ⟨[], rfl, .semicolon rfl⟩
  | @keyword _ _ spelled hall hend hspells =>
    obtain ⟨w, rfl, rfl⟩ := exists_of_run htext happlies hend
    refine ⟨w, rfl, ?_⟩
    have hshape := shape_word happlies (List.forall_mem_cons.1 hall).2 hend
    rwa [Lexeme.wordKind, Keyword.ofWord?_eq_some_iff.2 hspells] at hshape
  | name hall hend hspells =>
    obtain ⟨w, rfl, rfl⟩ := exists_of_run htext happlies hend
    refine ⟨w, rfl, ?_⟩
    have hnone : Keyword.ofWord? (String.ofList (c :: w)) = none :=
      List.find?_eq_none.2 fun spelled _ => Bool.eq_false_iff.1 (hspells spelled)
    have hshape := shape_word happlies (List.forall_mem_cons.1 hall).2 hend
    rwa [Lexeme.wordKind, hnone] at hshape
  | other =>
    obtain ⟨rfl, rfl⟩ := List.cons.inj htext
    exact ⟨[], rfl, shape_single (hother rfl)⟩

/-! ## The first rule that applies -/

/-- To a text that has a character some rule applies, and the last one only where no other does. -/
lemma Rule.exists_documented (c : Char) (cs : List Char) :
    ∃ rule, documented.find? (·.applies (c :: cs)) = some rule ∧
      rule.applies (c :: cs) = true ∧
      (rule = other → ∀ rule', rule' ≠ Rule.other → rule'.applies (c :: cs) = false) := by
  have hsome : (documented.find? (·.applies (c :: cs))).isSome = true :=
    List.find?_isSome.2 ⟨other, by decide, rfl⟩
  obtain ⟨rule, hrule⟩ := Option.isSome_iff_exists.1 hsome
  have happlies := List.find?_some hrule
  refine ⟨rule, hrule, happlies, ?_⟩
  rintro rfl rule' hne
  -- The last rule is found only if none of the others applies.
  have hlist : documented = documented.dropLast ++ [other] := rfl
  rw [hlist, List.find?_append] at hrule
  cases hfront : documented.dropLast.find? (·.applies (c :: cs)) with
  | some rule =>
    rw [hfront, Option.some_or] at hrule
    have hmem := List.mem_of_find?_eq_some hfront
    cases hrule
    exact absurd hmem (by decide)
  | none =>
    have hmem : rule' ∈ documented.dropLast := by
      revert hne
      cases rule' <;> decide
    exact Bool.eq_false_iff.2 (List.find?_eq_none.1 hfront rule' hmem)

/-- Of the two parts of a text the first rule that applies can only take the lexeme. -/
lemma Rule.Reads.eq_scan (hreads : rule.Reads taken rest kind) (htext : c :: cs = taken ++ rest)
    (hrule : Rule.documented.find? (·.applies (c :: cs)) = some rule) :
    taken = c :: cs.take (scan c cs).more ∧ kind = (scan c cs).kind := by
  obtain ⟨rule', hrule', happlies, hother⟩ := Rule.exists_documented c cs
  obtain rfl := Option.some.inj (hrule.symm.trans hrule')
  obtain ⟨w, rfl, hshape⟩ := hreads.shape htext happlies hother
  obtain rfl : cs = w ++ rest := (List.cons.inj htext).2
  rw [Lexeme.scan_eq_iff.2 hshape, List.take_left]
  exact ⟨rfl, rfl⟩

/-- The first rule that applies takes the lexeme. -/
lemma Rule.exists_reads_scan (c : Char) (cs : List Char) :
    ∃ rule, documented.find? (·.applies (c :: cs)) = some rule ∧
      rule.Reads (c :: cs.take (scan c cs).more) (cs.drop (scan c cs).more) (scan c cs).kind := by
  obtain ⟨rule, hrule, happlies, -⟩ := Rule.exists_documented c cs
  obtain ⟨taken, rest, kind, htext, hreads⟩ := Rule.exists_reads happlies
  obtain ⟨rfl, rfl⟩ := hreads.eq_scan htext hrule
  have hdivided : c :: cs = (c :: cs.take (scan c cs).more) ++ cs.drop (scan c cs).more := by
    rw [List.cons_append, List.take_append_drop]
  obtain rfl := List.append_cancel_left (hdivided.symm.trans htext)
  exact ⟨rule, hrule, hreads⟩

/-- The first of the documented rules that applies to a text reads it in exactly one way: it takes
the lexeme and gives the lexeme's kind.  There is at least one byte in a lexeme, and it ends within
the text on a boundary between characters. -/
theorem scan_eq_documented (c : Char) (cs : List Char) :
    (∃ rule, Rule.documented.find? (·.applies (c :: cs)) = some rule ∧
      ∀ taken rest kind, c :: cs = taken ++ rest →
        (rule.Reads taken rest kind ↔
          taken = c :: cs.take (scan c cs).more ∧ kind = (scan c cs).kind)) ∧
    1 ≤ Text.byteLength (c :: cs.take (scan c cs).more) ∧
    Text.byteLength (c :: cs.take (scan c cs).more) ≤ Text.byteLength (c :: cs) ∧
    Text.IsBoundary (c :: cs) (Text.byteLength (c :: cs.take (scan c cs).more)) := by
  have hdivided : c :: cs = (c :: cs.take (scan c cs).more) ++ cs.drop (scan c cs).more := by
    rw [List.cons_append, List.take_append_drop]
  refine ⟨?_, Text.byteLength_pos (List.cons_ne_nil _ _), ?_, ⟨_, _, hdivided, rfl⟩⟩
  · obtain ⟨rule, hrule, hreads⟩ := Rule.exists_reads_scan c cs
    refine ⟨rule, hrule, fun taken rest kind htext => ⟨fun h => h.eq_scan htext hrule, ?_⟩⟩
    rintro ⟨rfl, rfl⟩
    obtain rfl := List.append_cancel_left (htext.symm.trans hdivided)
    exact hreads
  · conv_rhs => rw [hdivided]
    rw [Text.byteLength_append]
    exact Nat.le_add_right _ _

end SqlSplit
