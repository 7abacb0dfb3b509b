import SqlSplit.Proofs.Scripts.FirstError

/-!
# Revised tokens

Of a token only its kind matters to how a script is read, and which keyword it spells, if any.  Its
other characters and its place are copied into statements and errors and are not looked at.

A `Revision` gives tokens other values and other places.  `outlineFrom_revised` states that tokens
which are revised, but keep their keywords, have the revised outline, or are refused with the same
error about the revised token.  `parse_revised` is the same for scripts.
-/

namespace SqlSplit

/-! ## Revisions -/

/-- New values for tokens, and new offsets for their ends. -/
structure Revision where
  value : Token → String
  offset : Nat → Nat

namespace Revision

variable (v : Revision)

/-- The token with its new value and its new place. -/
def token (token : Token) : Token where
  kind := token.kind
  value := v.value token
  start := v.offset token.start
  last := v.offset token.last

/-- The statement with its tokens and its ends revised. -/
def statement (statement : Statement) : Statement :=
  { statement with
    start := v.offset statement.start
    last := v.offset statement.last
    tokens := statement.tokens.map v.token }

/-- The script with its statements, its blank tokens and its end revised. -/
def script (script : Script) : Script :=
  { script with
    last := v.offset script.last
    statements := script.statements.map v.statement
    blanks := script.blanks.map v.token }

/-- The open statement with its tokens revised. -/
def draft (draft : Draft) : Draft :=
  ⟨v.token draft.first, draft.rest.map v.token, draft.stage⟩

/-- The part with its tokens revised. -/
def part : Part → Part
  | .blank token => .blank (v.token token)
  | .closed draft semicolon => .closed (v.draft draft) (v.token semicolon)

/-- The outline with its tokens revised. -/
def outline (outline : Outline) : Outline :=
  ⟨outline.parts.map v.part, outline.open?.map v.draft⟩

/-- The token spells the keyword that it did before, or none if it did not spell one. -/
def KeepsKeyword (token : Token) : Prop :=
  Keyword.ofWord? (v.value token) = Keyword.ofWord? token.value

end Revision

/-- The same error about another token. -/
def ParseError.about (token : Token) : ParseError → ParseError
  | unrecognizedLeadingToken _ _ => .unrecognizedLeadingToken token.value token.start
  | missingPredecessor step required _ _ =>
    .missingPredecessor step required token.value token.start
  | unexpectedToken step expected _ _ _ =>
    .unexpectedToken step expected token.kind token.value token.start
  | alreadyTerminated _ => .alreadyTerminated token.start

/-! ## Tokens that are alike -/

/-- The tokens are of one kind, and spell the same keyword or none. -/
structure Token.IsLike (token token' : Token) : Prop where
  kind_eq : token'.kind = token.kind
  word_eq : Keyword.ofWord? token'.value = Keyword.ofWord? token.value

/-- Whether a token is an object depends on its kind and on the keyword it spells. -/
lemma isObject_eq (token : Token) :
    token.isObject = (token.kind == .keyword &&
      (Keyword.ofWord? token.value == some .table ||
        Keyword.ofWord? token.value == some .database)) := by
  have hword : ∀ word : Keyword, Text.eqIgnoringCase word.spelling token.value =
      (Keyword.ofWord? token.value == some word) := by
    intro word
    rw [Bool.eq_iff_iff, beq_iff_eq]
    exact Keyword.ofWord?_eq_some_iff.symm
  simp only [Token.isObject, objectPatterns, Pattern.isMatch, Pattern.keyword, List.any_cons,
    List.any_nil, Bool.or_false, hword, Bool.and_or_distrib_left]

namespace Token.IsLike

variable {mode : Mode} {token token' : Token}

lemma isBlank_eq (h : token.IsLike token') : token'.isBlank = token.isBlank :=
  congrArg TokenKind.isBlank h.kind_eq

lemma ofToken?_eq (h : token.IsLike token') :
    Opener.ofToken? mode token' = Opener.ofToken? mode token := by
  unfold Opener.ofToken?
  rw [h.word_eq, h.kind_eq]

/-- Tokens that are alike do the same at any stage, and are refused for the same reason. -/
lemma stage_next_eq (h : token.IsLike token') (stage : Stage) :
    stage.next mode token' =
      match stage.next mode token with
      | .ok stage' => .ok stage'
      | .error error => .error (error.about token') := by
  cases stage with
  | settled type => rfl
  | awaiting verb spaced =>
    have hobject : token'.isObject = token.isObject := by
      rw [isObject_eq, isObject_eq, h.word_eq, h.kind_eq]
    have htype : verb.typeOn token'.value = verb.typeOn token.value := by
      unfold ObjectVerb.typeOn
      rw [h.word_eq]
    simp only [Stage.next, h.kind_eq, hobject, htype]
    by_cases hspace : token.kind = .whitespace
    · simp only [if_pos hspace]
    by_cases hspaced : spaced = false
    · simp only [if_neg hspace, if_pos hspaced]
      rfl
    by_cases hstrict : mode = .strict ∧ token.isObject = false
    · simp only [if_neg hspace, if_neg hspaced, if_pos hstrict, ParseError.about, h.kind_eq]
    · simp only [if_neg hspace, if_neg hspaced, if_neg hstrict]

end Token.IsLike

namespace Revision

variable (v : Revision)

/-! ## Revised outlines -/

lemma tokens_draft (draft : Draft) : (v.draft draft).tokens = draft.tokens.map v.token := by
  simp [Draft.tokens, Revision.draft]

lemma close_draft (draft : Draft) (semicolon : Token) :
    (v.draft draft).close (v.token semicolon) = v.statement (draft.close semicolon) := by
  simp only [Draft.close, statement, tokens_draft, List.map_toArray, List.map_append]
  rfl

lemma closeAt_draft (draft : Draft) (last : Nat) :
    (v.draft draft).closeAt (v.offset last) = v.statement (draft.closeAt last) := by
  simp only [Draft.closeAt, Draft.statement, statement, tokens_draft, List.map_toArray]
  rfl

lemma blanks_outline (o : Outline) : (v.outline o).blanks = o.blanks.map v.token := by
  have hpart : ∀ part : Part, (v.part part).blank? = part.blank?.map v.token := by
    intro part
    cases part <;> rfl
  simp only [Outline.blanks, outline, List.filterMap_map, List.map_filterMap, Function.comp_def,
    hpart]

lemma closed_outline (o : Outline) : (v.outline o).closed = o.closed.map v.statement := by
  have hpart : ∀ part : Part, (v.part part).statement? = part.statement?.map v.statement := by
    intro part
    cases part with
    | blank token => rfl
    | closed draft semicolon => exact congrArg some (v.close_draft draft semicolon)
  simp only [Outline.closed, outline, List.filterMap_map, List.map_filterMap, Function.comp_def,
    hpart]

/-- The last byte matters to an open statement only. -/
lemma statements_outline (o : Outline) {last last' : Nat}
    (h : o.open? ≠ none → last' = v.offset last) :
    (v.outline o).statements last' = (o.statements last).map v.statement := by
  rw [Outline.statements, Outline.statements, closed_outline, List.map_append]
  cases hopen : o.open? with
  | none => simp [outline, hopen]
  | some draft =>
    have hlast : last' = v.offset last := h (by simp [hopen])
    simp [outline, hopen, hlast, v.closeAt_draft]

lemma script_outline (o : Outline) {length length' : Nat}
    (h : length' - 1 = v.offset (length - 1)) :
    (v.outline o).script length' = v.script (o.script length) := by
  have hstatements := v.statements_outline o fun _ => h
  simp only [Outline.script, script, blanks_outline, hstatements, List.map_toArray]
  rw [h]

/-! ## Runs over revised tokens -/

variable {v} {mode : Mode} {open? : Option Draft} {token : Token}

lemma KeepsKeyword.isLike (h : v.KeepsKeyword token) : token.IsLike (v.token token) :=
  ⟨rfl, h⟩

lemma opening_revised (h : v.KeepsKeyword token) :
    Draft.opening mode (v.token token) =
      match Draft.opening mode token with
      | .ok draft => .ok (v.draft draft)
      | .error error => .error (error.about (v.token token)) := by
  unfold Draft.opening Opener.dispatch
  rw [h.isLike.ofToken?_eq]
  cases Opener.ofToken? mode token <;> rfl

lemma draft_next_revised (h : v.KeepsKeyword token) (draft : Draft) :
    (v.draft draft).next mode (v.token token) =
      match draft.next mode token with
      | .ok draft' => .ok (v.draft draft')
      | .error error => .error (error.about (v.token token)) := by
  have hstage : (v.draft draft).stage = draft.stage := rfl
  rw [Draft.next, Draft.next, hstage, h.isLike.stage_next_eq]
  cases draft.stage.next mode token with
  | error error => rfl
  | ok stage => simp [Except.map, Revision.draft]

/-- A revised token does to a revised statement what the token does to the statement. -/
lemma advance_revised (h : v.KeepsKeyword token) :
    advance mode (open?.map v.draft) (v.token token) =
      match advance mode open? token with
      | .ok outline => .ok (v.outline outline)
      | .error error => .error (error.about (v.token token)) := by
  have hblank : (v.token token).isBlank = token.isBlank := rfl
  have hkind : (v.token token).kind = token.kind := rfl
  cases open? with
  | none =>
    simp only [Option.map_none, advance, hblank]
    by_cases hspace : token.isBlank = true
    · rw [if_pos hspace, if_pos hspace]
      rfl
    · rw [if_neg hspace, if_neg hspace, opening_revised h]
      cases Draft.opening mode token <;> rfl
  | some draft =>
    simp only [Option.map_some, advance, hkind]
    by_cases hsemicolon : token.kind = .semicolon
    · rw [if_pos hsemicolon, if_pos hsemicolon]
      rfl
    · rw [if_neg hsemicolon, if_neg hsemicolon, draft_next_revised h]
      cases draft.next mode token <;> rfl

/-- Revised tokens have the revised outline, or are refused with the same error about the revised
token. -/
theorem outlineFrom_revised {tokens : List Token} (h : ∀ token ∈ tokens, v.KeepsKeyword token) :
    match outlineFrom mode open? tokens with
    | .ok outline =>
      outlineFrom mode (open?.map v.draft) (tokens.map v.token) = .ok (v.outline outline)
    | .error error => ∃ token ∈ tokens, error.Names token ∧
      outlineFrom mode (open?.map v.draft) (tokens.map v.token) =
        .error (error.about (v.token token)) := by
  induction tokens generalizing open? with
  | nil => rfl
  | cons token tokens ih =>
    obtain ⟨htoken, htokens⟩ := List.forall_mem_cons.1 h
    have hfirst := @advance_revised v mode open? token htoken
    rw [List.map_cons, outlineFrom_cons, outlineFrom_cons, hfirst]
    cases hadvance : advance mode open? token with
    | error error => exact ⟨token, List.mem_cons_self, advance_names hadvance, rfl⟩
    | ok a =>
      have hrest := @ih a.open? htokens
      have hopen : (v.outline a).open? = a.open?.map v.draft := rfl
      simp only [hopen]
      cases hrun : outlineFrom mode a.open? tokens with
      | error error =>
        rw [hrun] at hrest
        obtain ⟨fault, hmem, hnames, hrefused⟩ := hrest
        refine ⟨fault, List.mem_cons_of_mem _ hmem, hnames, ?_⟩
        rw [hrefused]
        rfl
      | ok b =>
        rw [hrun] at hrest
        simp only at hrest
        rw [hrest]
        simp [Except.map, Outline.andThen, Revision.outline]

end Revision

/-- A text whose tokens are the revised tokens of another one is read as the revised script, or is
refused with the same error about the revised token. -/
theorem parse_revised {v : Revision} {input input' : String} (mode : Mode)
    (htokens : tokenize input' = (tokenize input).map v.token)
    (hkeeps : ∀ token ∈ tokenize input, v.KeepsKeyword token)
    (hlast : input'.utf8ByteSize - 1 = v.offset (input.utf8ByteSize - 1)) :
    (∀ script, parse input mode = .ok script → parse input' mode = .ok (v.script script)) ∧
    ∀ error, parse input mode = .error error → ∃ token ∈ tokenize input, error.Names token ∧
      parse input' mode = .error (error.about (v.token token)) := by
  have hrun : match outlineFrom mode none (tokenize input) with
    | .ok o => outline mode (tokenize input') = .ok (v.outline o)
    | .error error => ∃ token ∈ tokenize input, error.Names token ∧
      outline mode (tokenize input') = .error (error.about (v.token token)) := by
    rw [htokens]
    exact Revision.outlineFrom_revised hkeeps
  rw [parse_eq_map, parse_eq_map, outline]
  cases hcase : outlineFrom mode none (tokenize input) with
  | error error =>
    rw [hcase] at hrun
    obtain ⟨token, hmem, hnames, hrefused⟩ := hrun
    refine ⟨by simp [Except.map], ?_⟩
    rintro _ ⟨rfl⟩
    refine ⟨token, hmem, hnames, ?_⟩
    rw [hrefused]
    rfl
  | ok o =>
    rw [hcase] at hrun
    simp only at hrun
    refine ⟨?_, by simp [Except.map]⟩
    rintro _ ⟨rfl⟩
    rw [hrun, Except.map, v.script_outline o hlast]

end SqlSplit
