import SqlSplit.Proofs.Scripts.Revision
import SqlSplit.Proofs.Tokens.Shift

/-!
# Scripts one behind the other

Two scripts that are put one behind the other are read as one script, in which the statements of
the first are followed by those of the second.  This asks for a semicolon at the end of the first:
not any character of that shape, but one that is a token of its own.

The second script stands further behind than it does alone.  To move tokens is to revise their
places, and so `outlineFrom_shift` is a case of `Revision.outlineFrom_revised`: moved tokens have
the moved outline, or are refused with the moved error.  Together with `tokenize_append` this gives
`parse_append`, with `parse_append_of_ok` as the part of it that speaks of a first script without
errors.
-/

namespace SqlSplit

/-! ## Moved statements, errors and outlines -/

/-- The statement, moved by a number of bytes. -/
def Statement.shift (n : Nat) (statement : Statement) : Statement :=
  { statement with
    start := statement.start + n
    last := statement.last + n
    tokens := statement.tokens.map (Token.shift n) }

@[simp] lemma Statement.type_shift (n : Nat) (statement : Statement) :
    (statement.shift n).type = statement.type := rfl

/-- The error, moved by a number of bytes. -/
def ParseError.shift (n : Nat) : ParseError → ParseError
  | unrecognizedLeadingToken value position => .unrecognizedLeadingToken value (position + n)
  | missingPredecessor step required value position =>
    .missingPredecessor step required value (position + n)
  | unexpectedToken step expected kind value position =>
    .unexpectedToken step expected kind value (position + n)
  | alreadyTerminated position => .alreadyTerminated (position + n)

/-- The open statement, moved by a number of bytes. -/
def Draft.shift (n : Nat) (draft : Draft) : Draft :=
  ⟨draft.first.shift n, draft.rest.map (Token.shift n), draft.stage⟩

/-- The part, moved by a number of bytes. -/
def Part.shift (n : Nat) : Part → Part
  | blank token => .blank (token.shift n)
  | closed draft semicolon => .closed (draft.shift n) (semicolon.shift n)

/-- The outline, moved by a number of bytes. -/
def Outline.shift (n : Nat) (outline : Outline) : Outline :=
  ⟨outline.parts.map (Part.shift n), outline.open?.map (Draft.shift n)⟩

/-- New places, a number of bytes further behind. -/
def Revision.moving (n : Nat) : Revision :=
  ⟨Token.value, (· + n)⟩

lemma ParseError.Names.about_shift {error : ParseError} {token : Token} (h : error.Names token)
    (n : Nat) : error.about (token.shift n) = error.shift n := by
  cases error with
  | unrecognizedLeadingToken value position =>
    obtain ⟨rfl, rfl⟩ := h
    rfl
  | missingPredecessor step required value position =>
    obtain ⟨rfl, rfl⟩ := h
    rfl
  | unexpectedToken step expected kind value position =>
    obtain ⟨rfl, rfl, rfl⟩ := h
    rfl
  | alreadyTerminated position =>
    obtain rfl := h
    rfl

namespace Outline

variable (n : Nat) (o : Outline)

lemma statements_eq_closed (h : o.open? = none) (last : Nat) : o.statements last = o.closed := by
  simp [statements, h]

lemma blanks_shift : (o.shift n).blanks = o.blanks.map (Token.shift n) :=
  (Revision.moving n).blanks_outline o

/-- The last byte matters to an open statement only. -/
lemma statements_shift {last last' : Nat} (h : o.open? ≠ none → last' = last + n) :
    (o.shift n).statements last' = (o.statements last).map (Statement.shift n) :=
  (Revision.moving n).statements_outline o h

end Outline

/-! ## Runs over moved tokens -/

/-- What a run comes to, with all of it moved by a number of bytes. -/
def shiftRun (n : Nat) : Except ParseError Outline → Except ParseError Outline
  | .ok outline => .ok (outline.shift n)
  | .error error => .error (error.shift n)

lemma shiftRun_eq_ok_iff {n : Nat} {run : Except ParseError Outline} {o : Outline} :
    shiftRun n run = .ok o ↔ ∃ o', run = .ok o' ∧ o'.shift n = o := by
  cases run <;> simp [shiftRun]

section Runs

variable (n : Nat) (mode : Mode) (open? : Option Draft) (tokens : List Token)

/-- Moved tokens have the moved outline, or are refused with the moved error. -/
theorem outlineFrom_shift :
    outlineFrom mode (open?.map (Draft.shift n)) (tokens.map (Token.shift n)) =
      shiftRun n (outlineFrom mode open? tokens) := by
  have hrevised := @Revision.outlineFrom_revised (.moving n) mode open? tokens fun _ _ => rfl
  cases hrun : outlineFrom mode open? tokens with
  | ok outline =>
    rw [hrun] at hrevised
    exact hrevised
  | error error =>
    rw [hrun] at hrevised
    obtain ⟨token, -, hnames, hrefused⟩ := hrevised
    have hmoved : error.about (token.shift n) = error.shift n := hnames.about_shift n
    rw [shiftRun, ← hmoved]
    exact hrefused

lemma outline_shift :
    outline mode (tokens.map (Token.shift n)) = shiftRun n (outline mode tokens) :=
  outlineFrom_shift n mode none tokens

end Runs

/-! ## Behind a semicolon -/

lemma Advances.open?_eq_none {mode : Mode} {open? : Option Draft} {token : Token} {a : Outline}
    (h : Advances mode open? token a) (hkind : token.kind = .semicolon) : a.open? = none := by
  cases h with
  | blank hblank => rfl
  | opens hblank hopening =>
    obtain ⟨opener, hdispatch, -⟩ := map_eq_ok_iff.1 hopening
    simp [Opener.dispatch, Opener.ofToken?, hkind] at hdispatch
  | closes hkind => rfl
  | grows hother hnext => exact absurd hkind hother

lemma open?_eq_none_of_endsInSemicolon {mode : Mode} {tokens : List Token} {o : Outline}
    (h : EndsInSemicolon tokens) (ho : outline mode tokens = .ok o) : o.open? = none := by
  obtain ⟨before, semicolon, rfl, hkind⟩ := h.exists_concat
  rw [outline, outlineFrom_append] at ho
  cases hbefore : outlineFrom mode none before with
  | error error =>
    rw [hbefore] at ho
    cases ho
  | ok a =>
    rw [hbefore] at ho
    obtain ⟨b, hb, rfl⟩ := map_eq_ok_iff.1 ho
    obtain ⟨c, d, hadvance, hd, rfl⟩ := outlineFrom_cons_eq_ok_iff.1 hb
    cases hd
    exact hadvance.open?_eq_none hkind

lemma utf8ByteSize_pos_of_open? {mode : Mode} {text : String} {o : Outline}
    (ho : outline mode (tokenize text) = .ok o) (hopen : o.open? ≠ none) :
    0 < text.utf8ByteSize := by
  obtain ⟨draft, hdraft⟩ := Option.ne_none_iff_exists'.1 hopen
  have hmem : draft.first ∈ tokenize text := by
    have htokens : o.tokens = tokenize text := tokens_eq_of_outlineFrom ho
    rw [← htokens, Outline.tokens, hdraft]
    simp [Draft.tokens]
  have hspan := (tiles_tokens .sql text).le_start_of_mem hmem
  rw [Token.stop] at hspan
  omega

/-! ## Reading two scripts as one -/

/-- Behind a script that leaves no statement open, a text is read as it is read alone, provided
that no token reaches from the one into the other. -/
lemma parse_append_of_closed {a b : String} {mode : Mode} {first : Outline}
    (htokens : tokenize (a ++ b) = tokenize a ++ (tokenize b).map (Token.shift a.utf8ByteSize))
    (hfirst : outline mode (tokenize a) = .ok first) (hclosed : first.open? = none) :
    parse (a ++ b) mode =
      match parse b mode with
      | .error error => .error (error.shift a.utf8ByteSize)
      | .ok behind => .ok
        { last := a.utf8ByteSize + b.utf8ByteSize - 1
          statements := first.closed.toArray ++ behind.statements.map (.shift a.utf8ByteSize)
          blanks := first.blanks.toArray ++ behind.blanks.map (.shift a.utf8ByteSize) } := by
  have hsecond : outlineFrom mode first.open? ((tokenize b).map (.shift a.utf8ByteSize)) =
      shiftRun a.utf8ByteSize (outline mode (tokenize b)) := by
    rw [hclosed]
    exact outline_shift a.utf8ByteSize mode (tokenize b)
  rw [outline] at hfirst
  rw [parse_eq_map, parse_eq_map, htokens, outline, outlineFrom_append, hfirst]
  simp only [hsecond]
  cases hb : outline mode (tokenize b) with
  | error error => rfl
  | ok second =>
    have hstatements : (second.shift a.utf8ByteSize).statements
        (a.utf8ByteSize + b.utf8ByteSize - 1) =
          (second.statements (b.utf8ByteSize - 1)).map (.shift a.utf8ByteSize) := by
      -- A text with an open statement is not empty, so its last byte moves like any other.
      refine Outline.statements_shift _ second ?_
      intro hopen
      have hpos := utf8ByteSize_pos_of_open? hb hopen
      omega
    have hsize : (a ++ b).utf8ByteSize = a.utf8ByteSize + b.utf8ByteSize :=
      String.utf8ByteSize_append ..
    simp only [shiftRun, Except.map, Outline.script, hsize, Outline.statements_andThen,
      Outline.blanks_andThen, hstatements, Outline.blanks_shift]
    simp

lemma parse_append_of_ok {a b : String} {mode : Mode} {script : Script}
    (h : EndsInSemicolon (tokenize a)) (ha : parse a mode = .ok script) :
    parse (a ++ b) mode =
      match parse b mode with
      | .error error => .error (error.shift a.utf8ByteSize)
      | .ok behind => .ok
        { last := a.utf8ByteSize + b.utf8ByteSize - 1
          statements := script.statements ++ behind.statements.map (.shift a.utf8ByteSize)
          blanks := script.blanks ++ behind.blanks.map (.shift a.utf8ByteSize) } := by
  rw [parse_eq_map] at ha
  obtain ⟨first, hfirst, rfl⟩ := map_eq_ok_iff.1 ha
  have hclosed := open?_eq_none_of_endsInSemicolon h hfirst
  rw [parse_append_of_closed (tokenize_append h b) hfirst hclosed, Outline.script,
    first.statements_eq_closed hclosed]

/-- Let the last token of the first text be a semicolon.  If the first text is refused, so are both
together, with the same error.  If the first can be read and the second is refused, both together
are refused with the error of the second, moved by the length of the first.  If both can be read,
both together are read as the statements and blank tokens of the first, followed by those of the
second, moved by the length of the first. -/
theorem parse_append {a b : String} {mode : Mode} (h : EndsInSemicolon (tokenize a)) :
    (∀ error, parse a mode = .error error → parse (a ++ b) mode = .error error) ∧
    (∀ script error, parse a mode = .ok script → parse b mode = .error error →
      parse (a ++ b) mode = .error (error.shift a.utf8ByteSize)) ∧
    ∀ script behind, parse a mode = .ok script → parse b mode = .ok behind →
      parse (a ++ b) mode = .ok
        { start := 0
          last := a.utf8ByteSize + b.utf8ByteSize - 1
          statements := script.statements ++ behind.statements.map (.shift a.utf8ByteSize)
          blanks := script.blanks ++ behind.blanks.map (.shift a.utf8ByteSize) } := by
  refine ⟨?_, ?_, ?_⟩
  · intro error ha
    rw [parse_eq_map] at ha ⊢
    have hfirst := map_eq_error_iff.1 ha
    rw [outline] at hfirst
    rw [tokenize_append h, outline, outlineFrom_append, hfirst]
    rfl
  · intro script error ha hb
    rw [parse_append_of_ok h ha, hb]
  · intro script behind ha hb
    rw [parse_append_of_ok h ha, hb]

/-- A refused text before another one, and a text of fifteen bytes, with a quoted semicolon, before
a refused one and before an open end. -/
theorem parse_append_of_quoted :
    parse ("x;" ++ "DROP") .strict = .error (.unrecognizedLeadingToken "x" 0) ∧
      parse ("TRUNCATE 'é;';" ++ "SELECT 1;é") .strict =
        .error (.unrecognizedLeadingToken "é" 24) ∧
      ∃ script behind, parse "TRUNCATE 'é;';" .strict = .ok script ∧
        parse " DROP TABLE" .strict = .ok behind ∧
        parse ("TRUNCATE 'é;';" ++ " DROP TABLE") .strict = .ok
          { last := 25
            statements := script.statements ++ behind.statements.map (.shift 15)
            blanks := script.blanks ++ behind.blanks.map (.shift 15) } := by
  have hrefused : parse "x;" .strict = .error (.unrecognizedLeadingToken "x" 0) := by
    decide +kernel
  have hbehind : parse "SELECT 1;é" .strict = .error (.unrecognizedLeadingToken "é" 9) := by
    decide +kernel
  obtain ⟨script, hscript⟩ :=
    exists_eq_ok_of_isOk (x := parse "TRUNCATE 'é;';" .strict) (by decide +kernel)
  obtain ⟨behind, hopen⟩ :=
    exists_eq_ok_of_isOk (x := parse " DROP TABLE" .strict) (by decide +kernel)
  have hends : EndsInSemicolon (tokenize "TRUNCATE 'é;';") := by decide +kernel
  refine ⟨(parse_append (by decide +kernel)).1 _ hrefused, ?_,
    script, behind, hscript, hopen, ?_⟩
  · exact (parse_append hends).2.1 script _ hscript hbehind
  · exact (parse_append hends).2.2 script behind hscript hopen

end SqlSplit
