import SqlSplit.Proofs.Scripts.Awaiting
import SqlSplit.Proofs.Scripts.Contents
import SqlSplit.Proofs.Tokens.OpenEnds

/-!
# Blank text in a script

White space can be put between any two tokens of a script without any effect on the statements but
for their tokens and places: there are as many of them, of the same types, and a semicolon ends the
same ones.  A comment can be put there too, with one exception.  A statement that creates or drops
something awaits the word for it behind white space, and a comment is no such word.

What is seen of a statement here is its `mark`.  `exists_outlineFrom_widened` states that widened
pieces have the same marks.  `Statement.AwaitsObjectAt` is the exception, and `parse_spaced` is the
main statement.
-/

namespace SqlSplit

open Text (byteLength)

/-! ## Marks -/

/-- The type of the statement, and whether a semicolon ends it. -/
def Statement.mark (statement : Statement) : Option StatementType × Bool :=
  (statement.type?, statement.terminated)

/-- The marks of the statements, in order. -/
def Script.marks (script : Script) : List (Option StatementType × Bool) :=
  script.statements.toList.map Statement.mark

/-- The marks of the statements, in order. -/
def Outline.marks (o : Outline) : List (Option StatementType × Bool) :=
  o.closed.map Statement.mark ++ (o.open?.map fun draft => (draft.stage.type?, false)).toList

namespace Outline

lemma map_mark_statements (o : Outline) (last : Nat) :
    (o.statements last).map Statement.mark = o.marks := by
  rw [statements, List.map_append, marks]
  cases o.open? <;> rfl

lemma marks_script (o : Outline) (length : Nat) : (o.script length).marks = o.marks :=
  o.map_mark_statements (length - 1)

lemma marks_andThen (a b : Outline) :
    (a.andThen b).marks = a.closed.map Statement.mark ++ b.marks := by
  simp [marks, closed, andThen]

end Outline

/-! ## Wider text -/

/-- The second stage does for the first: it is the same, or white space has come before it. -/
inductive Stage.Serves : Stage → Stage → Prop
  | refl (stage : Stage) : Serves stage stage
  | spaced (verb : ObjectVerb) (spaced : Bool) :
      Serves (.awaiting verb spaced) (.awaiting verb true)

namespace Stage.Serves

variable {mode : Mode} {stage stage' after : Stage} {token token' : Token}

lemma type?_eq (h : stage.Serves stage') : stage'.type? = stage.type? := by
  cases h <;> rfl

lemma next (h : stage.Serves stage') (hlike : token.IsLike token')
    (hnext : stage.next mode token = .ok after) :
    ∃ after', stage'.next mode token' = .ok after' ∧ after.Serves after' := by
  rw [hlike.stage_next_eq]
  cases h with
  | refl =>
    rw [hnext]
    exact ⟨after, rfl, .refl after⟩
  | spaced verb spaced =>
    by_cases hspace : token.kind = .whitespace
    · rw [Stage.next_space hspace] at hnext ⊢
      cases hnext
      exact ⟨_, rfl, .refl _⟩
    · cases spaced with
      | false =>
        -- Without white space before it the object would have been refused.
        rw [Stage.next_unspaced hspace] at hnext
        cases hnext
      | true =>
        rw [hnext]
        exact ⟨after, rfl, .refl after⟩

lemma space (h : stage.Serves stage') (hkind : token.kind = .whitespace) :
    ∃ after, stage'.next mode token = .ok after ∧ stage.Serves after := by
  cases h with
  | refl =>
    cases stage with
    | settled type => exact ⟨_, rfl, .refl _⟩
    | awaiting verb spaced => exact ⟨_, Stage.next_space hkind, .spaced verb spaced⟩
  | spaced verb spaced => exact ⟨_, Stage.next_space hkind, .spaced verb spaced⟩

end Stage.Serves

/-- What is open in a wider text does for what is open in the text. -/
inductive Draft.Serves : Option Draft → Option Draft → Prop
  | none : Serves none none
  | some {draft draft' : Draft} (h : draft.stage.Serves draft'.stage) :
      Serves (some draft) (some draft')

section Runs

variable {mode : Mode} {open? open?' : Option Draft} {token token' : Token} {a : Outline}

lemma exists_advance_of_serves (h : Draft.Serves open? open?') (hlike : token.IsLike token')
    (hadvance : Advances mode open? token a) :
    ∃ a', advance mode open?' token' = .ok a' ∧ Draft.Serves a.open? a'.open? ∧
      a'.closed.map Statement.mark = a.closed.map Statement.mark := by
  cases hadvance with
  | blank hblank =>
    cases h
    exact ⟨_, advance_eq_ok_iff.2 (.blank (hlike.isBlank_eq.trans hblank)), .none, rfl⟩
  | opens hblank hopening =>
    cases h
    obtain ⟨opener, hopener, rfl⟩ := Draft.opening_eq_ok_iff.1 hopening
    refine ⟨_, advance_eq_ok_iff.2 (.opens (hlike.isBlank_eq.trans hblank)
      (Draft.opening_eq_ok_iff.2 ⟨opener, hlike.ofToken?_eq.trans hopener, rfl⟩)), ?_, rfl⟩
    exact .some (.refl opener.stage)
  | closes hkind =>
    cases h with
    | some h =>
      refine ⟨_, advance_eq_ok_iff.2 (.closes (hlike.kind_eq.trans hkind)), .none, ?_⟩
      exact congrArg (fun type? => [(type?, true)]) h.type?_eq
  | grows hkind hnext =>
    cases h with
    | some h =>
      obtain ⟨stage, hstage, rfl⟩ := map_eq_ok_iff.1 hnext
      obtain ⟨stage', hstage', hserves⟩ := h.next hlike hstage
      refine ⟨_, advance_eq_ok_iff.2 (.grows (by rwa [hlike.kind_eq])
        (map_eq_ok_iff.2 ⟨stage', hstage', rfl⟩)), ?_, rfl⟩
      exact .some hserves

lemma exists_advance_of_space (h : Draft.Serves open? open?') (hkind : token.kind = .whitespace) :
    ∃ a', advance mode open?' token = .ok a' ∧ Draft.Serves open? a'.open? ∧ a'.closed = [] := by
  cases h with
  | none =>
    have hblank : token.isBlank = true := by simp [Token.isBlank, hkind, TokenKind.isBlank]
    exact ⟨_, advance_eq_ok_iff.2 (.blank hblank), .none, rfl⟩
  | some h =>
    obtain ⟨stage', hstage', hserves⟩ := h.space hkind
    refine ⟨_, advance_eq_ok_iff.2 (.grows (by simp [hkind])
      (map_eq_ok_iff.2 ⟨stage', hstage', rfl⟩)), ?_, rfl⟩
    exact .some hserves

/-- Widened pieces can be read wherever the pieces can, with the same marks. -/
theorem exists_outlineFrom_widened {ps qs : List Piece} (h : Widened ps qs)
    (hserves : Draft.Serves open? open?') {m : Nat} {o : Outline}
    (ho : outlineFrom mode open? (place m ps) = .ok o) (n : Nat) :
    ∃ o', outlineFrom mode open?' (place n qs) = .ok o' ∧ o'.marks = o.marks := by
  -- By induction on how the pieces are widened.  Only white space that was put in is read alone.
  induction h generalizing open? open?' m n o with
  | nil =>
    cases ho
    refine ⟨⟨[], open?'⟩, rfl, ?_⟩
    cases hserves with
    | none => rfl
    | some h => simp [Outline.marks, Outline.closed, h.type?_eq]
  | @cons p q ps qs hkind hword h ih =>
    obtain ⟨a, b, hadvance, hrest, rfl⟩ := outlineFrom_cons_eq_ok_iff.1 ho
    have hlike : (p.token m).IsLike (q.token n) := ⟨hkind, hword⟩
    obtain ⟨a', ha', hopen, hclosed⟩ := exists_advance_of_serves hserves hlike hadvance
    obtain ⟨b', hb', hmarks⟩ := ih hopen hrest _
    refine ⟨a'.andThen b',
      outlineFrom_cons_eq_ok_iff.2 ⟨a', b', advance_eq_ok_iff.1 ha', hb', rfl⟩, ?_⟩
    rw [Outline.marks_andThen, Outline.marks_andThen, hclosed, hmarks]
  | @space w ps qs h ih =>
    have hspace : (Piece.token ⟨.whitespace, w⟩ n).kind = .whitespace := rfl
    obtain ⟨a', ha', hopen, hclosed⟩ := exists_advance_of_space hserves hspace
    obtain ⟨b', hb', hmarks⟩ := ih hopen ho _
    refine ⟨a'.andThen b',
      outlineFrom_cons_eq_ok_iff.2 ⟨a', b', advance_eq_ok_iff.1 ha', hb', rfl⟩, ?_⟩
    rw [Outline.marks_andThen, hclosed, hmarks]
    rfl

lemma exists_advance_of_comment (mode : Mode) (hkind : token.kind = .blockComment)
    (hopen : ∀ draft, open? = some draft → ∃ type, draft.stage = .settled type) :
    ∃ a, advance mode open? token = .ok a ∧ Draft.Serves open? a.open? ∧ a.closed = [] := by
  cases open? with
  | none =>
    have hblank : token.isBlank = true := by simp [Token.isBlank, hkind, TokenKind.isBlank]
    exact ⟨_, advance_eq_ok_iff.2 (.blank hblank), .none, rfl⟩
  | some draft =>
    obtain ⟨type, hstage⟩ := hopen draft rfl
    refine ⟨_, advance_eq_ok_iff.2
      (.grows (by simp [hkind]) (Draft.next_of_settled hstage token)), ?_, rfl⟩
    have hserves : draft.stage.Serves (.settled type) := by
      rw [hstage]
      exact .refl _
    exact .some hserves

/-- What becomes of a run from an open statement if its type has been settled before: the statement
has that type, and nothing else changes. -/
lemma exists_outlineFrom_settled {draft : Draft} {first : Token} {rest tokens : List Token}
    {o : Outline} (type : StatementType) (h : outlineFrom mode (some draft) tokens = .ok o) :
    ∃ o' mark marks, outlineFrom mode (some ⟨first, rest, .settled type⟩) tokens = .ok o' ∧
      o.marks = mark :: marks ∧ o'.marks = (some type, mark.2) :: marks := by
  induction tokens generalizing draft rest o with
  | nil =>
    cases h
    exact ⟨⟨[], some ⟨first, rest, .settled type⟩⟩, _, [], rfl, rfl, rfl⟩
  | cons token tokens ih =>
    obtain ⟨a, b, hadvance, hbehind, rfl⟩ := outlineFrom_cons_eq_ok_iff.1 h
    cases hadvance with
    | closes hkind =>
      refine ⟨_, (draft.close token).mark, b.marks,
        outlineFrom_cons_eq_ok_iff.2 ⟨_, b, .closes hkind, hbehind, rfl⟩, ?_, ?_⟩
      · rw [Outline.marks_andThen]
        rfl
      · rw [Outline.marks_andThen]
        rfl
    | grows hkind hnext =>
      obtain ⟨b', mark, marks, hb', hmarks, hmarks'⟩ := ih hbehind
      refine ⟨_, mark, marks, outlineFrom_cons_eq_ok_iff.2
        ⟨_, b', .grows hkind (Draft.next_of_settled rfl token), hb', rfl⟩, ?_, ?_⟩
      · rw [Outline.marks_andThen, hmarks]
        rfl
      · rw [Outline.marks_andThen, hmarks']
        rfl

end Runs

/-! ## Blank text in a script -/

lemma pieces_append_of_isTokenBoundary {a b : String}
    (h : IsTokenBoundary (tokenize (a ++ b)) a.utf8ByteSize) :
    pieces (a.toList ++ b.toList) = pieces a.toList ++ pieces b.toList := by
  obtain ⟨a', b', htext, hsize, htokens⟩ := exists_parts_of_isTokenBoundary h
  have hlists : a.toList ++ b.toList = a'.toList ++ b'.toList := by
    rw [← String.toList_append, htext, String.toList_append]
  rw [← Text.byteLength_toList, ← Text.byteLength_toList] at hsize
  -- Both ways of dividing the text are at the same byte.
  obtain ⟨ha, hb⟩ := Text.append_inj_of_byteLength_eq hlists hsize.symm
  have hpieces := congrArg (List.map Token.piece) htokens
  rw [List.map_append, map_piece_tokenize, map_piece_tokenize, map_piece_place,
    String.toList_append, ← ha, ← hb] at hpieces
  exact hpieces

lemma tokenize_append_eq {a b : String}
    (h : pieces (a.toList ++ b.toList) = pieces a.toList ++ pieces b.toList) :
    tokenize (a ++ b) = tokenize a ++ place a.utf8ByteSize (pieces b.toList) := by
  rw [tokenize_eq_place, String.toList_append, h, place_append, chars_pieces, Nat.zero_add,
    Text.byteLength_toList, ← tokenize_eq_place]

lemma ends_of_tokenize {a : String} (h : ∀ token, (tokenize a).getLast? = some token →
    token.piece.Ends) : ∀ p, (pieces a.toList).getLast? = some p → p.Ends := by
  intro p hp
  rw [← map_piece_tokenize, List.getLast?_map] at hp
  obtain ⟨token, htoken, rfl⟩ := Option.map_eq_some_iff.1 hp
  exact h token htoken

lemma ends_of_awaiting {a : String} {mode : Mode} {o : Outline} {draft : Draft} {verb : ObjectVerb}
    {spaced : Bool} (ho : outline mode (tokenize a) = .ok o) (hopen : o.open? = some draft)
    (hstage : draft.stage = .awaiting verb spaced) :
    ∀ p, (pieces a.toList).getLast? = some p → p.Ends := by
  have htokens : o.tokens = tokenize a := tokens_eq_of_outlineFrom ho
  have hsentence := (isDerived_of_outlineFrom ho (by simp)).open? draft hopen
  rw [Draft.IsSentence, hstage] at hsentence
  refine ends_of_tokenize fun token hlast => ?_
  -- The last token is the verb or white space behind it, and neither is open-ended.
  have hmem : token ∈ draft.tokens := by
    have hne : draft.tokens ≠ [] := List.cons_ne_nil _ _
    rw [← htokens, Outline.tokens, hopen, Option.map_some, Option.getD_some,
      List.getLast?_append_of_ne_nil _ hne] at hlast
    exact List.mem_of_getLast? hlast
  have hkind : token.kind = .keyword ∨ token.kind = .whitespace := by
    rcases List.mem_cons.1 hmem with rfl | hrest
    · exact .inl hsentence.1.1
    · exact .inr (hsentence.2.1 token hrest)
  refine .inl ?_
  rcases hkind with hkind | hkind <;> simp [Token.piece, hkind]

lemma exists_parse_spaced {a b space : String} {mode : Mode} {o : Outline} {length : Nat}
    (hpieces : pieces (a.toList ++ b.toList) = pieces a.toList ++ pieces b.toList)
    (ho : outline mode (tokenize (a ++ b)) = .ok o) (hspace : IsSpace space.toList) :
    ∃ script, parse (a ++ space ++ b) mode = .ok script ∧
      script.marks = (o.script length).marks := by
  have hwide := widened_pieces hpieces hspace
  rw [tokenize_eq_place, String.toList_append] at ho
  obtain ⟨o', ho', hmarks⟩ := exists_outlineFrom_widened hwide .none ho 0
  refine ⟨o'.script (a ++ space ++ b).utf8ByteSize, ?_, ?_⟩
  · rw [parse_eq_map, tokenize_eq_place, String.toList_append, String.toList_append,
      List.append_assoc, outline, ho']
    rfl
  · rw [Outline.marks_script, Outline.marks_script, hmarks]

/-- The token of a block comment that starts at the given offset. -/
def Token.comment (content : String) (start : Nat) : Token :=
  (Enclosure.block.piece content.toList).token start

section Comment

variable (content : String) (start : Nat)

@[simp] lemma Token.kind_comment : (Token.comment content start).kind = .blockComment := rfl

@[simp] lemma Token.value_comment :
    (Token.comment content start).value = Enclosure.block.write content := rfl

@[simp] lemma Token.start_comment : (Token.comment content start).start = start := rfl

@[simp] lemma ObjectVerb.typeOn_comment (verb : ObjectVerb) :
    verb.typeOn (Enclosure.block.write content) = .unknown := by
  cases verb <;> simp [typeOn, Enclosure.ofWord?_write]

end Comment

section Commented

variable {a b content : String} {mode : Mode} {o o' : Outline} {m : Nat}

/-- The run over a script that has a comment in it goes as before up to the comment. -/
lemma exists_outline_commented (hends : ∀ p, (pieces a.toList).getLast? = some p → p.Ends)
    (hcontent : Enclosure.block.Allows content.toList) (ho : outline mode (tokenize a) = .ok o) :
    ∃ n, outline mode (tokenize (a ++ Enclosure.block.write content ++ b)) =
      (outlineFrom mode o.open? (Token.comment content a.utf8ByteSize ::
        place n (pieces b.toList))).map o.andThen := by
  have hpieces : pieces (a ++ Enclosure.block.write content ++ b).toList =
      pieces a.toList ++ Enclosure.block.piece content.toList :: pieces b.toList := by
    rw [String.toList_append, String.toList_append, Enclosure.toList_write, List.append_assoc]
    exact pieces_append_block hends hcontent b.toList
  refine ⟨a.utf8ByteSize + byteLength (Enclosure.block.piece content.toList).text, ?_⟩
  rw [tokenize_eq_place, hpieces, place_append, chars_pieces, place, Nat.zero_add,
    Text.byteLength_toList, ← tokenize_eq_place, outline, outlineFrom_append]
  rw [outline] at ho
  rw [ho]
  rfl

lemma exists_parse_commented (hends : ∀ p, (pieces a.toList).getLast? = some p → p.Ends)
    (hcontent : Enclosure.block.Allows content.toList) (ho : outline mode (tokenize a) = .ok o)
    (ho' : outlineFrom mode o.open? (place m (pieces b.toList)) = .ok o')
    (hopen : ∀ draft, o.open? = some draft → ∃ type, draft.stage = .settled type) :
    ∃ script, parse (a ++ Enclosure.block.write content ++ b) mode = .ok script ∧
      script.marks = (o.andThen o').marks := by
  obtain ⟨n, hrun⟩ := exists_outline_commented (b := b) hends hcontent ho
  obtain ⟨c, hc, hserves, hclosed⟩ :=
    exists_advance_of_comment mode (Token.kind_comment content a.utf8ByteSize) hopen
  obtain ⟨d, hd, hmarks⟩ := exists_outlineFrom_widened (.refl _) hserves ho' n
  have hbehind := outlineFrom_cons_eq_ok_iff.2 ⟨c, d, advance_eq_ok_iff.1 hc, hd, rfl⟩
  refine ⟨_, by rw [parse_eq_map, hrun, hbehind]; rfl, ?_⟩
  rw [Outline.marks_script, Outline.marks_andThen, Outline.marks_andThen, Outline.marks_andThen,
    hclosed, hmarks]
  rfl

lemma parse_commented_of_refused {draft : Draft} {error : ParseError}
    (hends : ∀ p, (pieces a.toList).getLast? = some p → p.Ends)
    (hcontent : Enclosure.block.Allows content.toList) (ho : outline mode (tokenize a) = .ok o)
    (hopen : o.open? = some draft)
    (hrefused : draft.stage.next mode (Token.comment content a.utf8ByteSize) = .error error) :
    parse (a ++ Enclosure.block.write content ++ b) mode = .error error := by
  obtain ⟨n, hrun⟩ := exists_outline_commented (b := b) hends hcontent ho
  have hadvance : advance mode (some draft) (Token.comment content a.utf8ByteSize) =
      .error error := by
    rw [advance, if_neg (by simp), Draft.next, hrefused]
    rfl
  rw [parse_eq_map, hrun, hopen, outlineFrom_cons, hadvance]
  rfl

/-- If a comment settles the type of the open statement, nothing else changes. -/
lemma exists_parse_commented_of_next {draft : Draft} {type : StatementType}
    (hends : ∀ p, (pieces a.toList).getLast? = some p → p.Ends)
    (hcontent : Enclosure.block.Allows content.toList) (ho : outline mode (tokenize a) = .ok o)
    (ho' : outlineFrom mode o.open? (place m (pieces b.toList)) = .ok o')
    (hopen : o.open? = some draft)
    (hnext : draft.stage.next mode (Token.comment content a.utf8ByteSize) =
      .ok (.settled type)) :
    ∃ script mark marks, parse (a ++ Enclosure.block.write content ++ b) mode = .ok script ∧
      o'.marks = mark :: marks ∧
      script.marks = o.closed.map Statement.mark ++ (some type, mark.2) :: marks := by
  obtain ⟨n, hrun⟩ := exists_outline_commented (b := b) hends hcontent ho
  rw [hopen] at hrun ho'
  -- The comment settles the type in the place of whatever would have settled it.
  obtain ⟨c, mark, marks, hc, hmarks, hmarks'⟩ := exists_outlineFrom_settled type ho'
  obtain ⟨d, hd, hsame⟩ := exists_outlineFrom_widened (.refl _) (.some (.refl _)) hc n
  have hgrown : draft.next mode (Token.comment content a.utf8ByteSize) = .ok ⟨draft.first,
      draft.rest ++ [Token.comment content a.utf8ByteSize], .settled type⟩ :=
    map_eq_ok_iff.2 ⟨_, hnext, rfl⟩
  have hbehind := outlineFrom_cons_eq_ok_iff.2 ⟨_, d, .grows (by simp) hgrown, hd, rfl⟩
  refine ⟨_, mark, marks, by rw [parse_eq_map, hrun, hbehind]; rfl, hmarks, ?_⟩
  rw [Outline.marks_script, Outline.marks_andThen, Outline.marks_andThen, hsame, hmarks']
  rfl

lemma parse_commented_of_awaiting {draft : Draft} {verb : ObjectVerb} {spaced : Bool}
    (hends : ∀ p, (pieces a.toList).getLast? = some p → p.Ends)
    (hcontent : Enclosure.block.Allows content.toList) (ho : outline mode (tokenize a) = .ok o)
    (ho' : outlineFrom mode o.open? (place m (pieces b.toList)) = .ok o')
    (hopen : o.open? = some draft) (hstage : draft.stage = .awaiting verb spaced) :
    (spaced = false → parse (a ++ Enclosure.block.write content ++ b) mode =
      .error (.missingPredecessor 1 [.whitespace] (Enclosure.block.write content)
        a.utf8ByteSize)) ∧
    (spaced = true →
      (mode = .strict → parse (a ++ Enclosure.block.write content ++ b) mode =
        .error (.unexpectedToken 1 objectPatterns .blockComment (Enclosure.block.write content)
          a.utf8ByteSize)) ∧
      (mode = .lenient → ∃ script mark marks,
        parse (a ++ Enclosure.block.write content ++ b) mode = .ok script ∧
          o'.marks = mark :: marks ∧
          script.marks = o.closed.map Statement.mark ++ (some .unknown, mark.2) :: marks)) := by
  refine ⟨?_, fun hspaced => ⟨?_, ?_⟩⟩
  · rintro rfl
    refine parse_commented_of_refused hends hcontent ho hopen ?_
    rw [hstage, Stage.next_unspaced (by simp)]
    simp
  · rintro rfl
    refine parse_commented_of_refused hends hcontent ho hopen ?_
    rw [hstage, hspaced, Stage.next_strict (by simp) (by simp [isObject_eq])]
    simp
  · rintro rfl
    refine exists_parse_commented_of_next hends hcontent ho ho' hopen ?_
    rw [hstage, hspaced, Stage.next_lenient (by simp)]
    simp

lemma exists_parse_commented_of_closed {ys : List Token} {length last : Nat}
    (hends : ∀ p, (pieces a.toList).getLast? = some p → p.Ends)
    (hcontent : Enclosure.block.Allows content.toList) (ho : outline mode (tokenize a) = .ok o)
    (hys : ys = place m (pieces b.toList)) (ho' : outlineFrom mode o.open? ys = .ok o')
    (htiles : Tiles a.utf8ByteSize ys length)
    (hnone : ∀ statement ∈ (o.andThen o').statements last,
      ¬ statement.AwaitsObjectAt length a.utf8ByteSize) :
    ∃ script, parse (a ++ Enclosure.block.write content ++ b) mode = .ok script ∧
      script.marks = (o.andThen o').marks := by
  subst hys
  refine exists_parse_commented hends hcontent ho ho' fun draft hopen => ?_
  obtain ⟨statement, behind, hstatements, -, -, hawaits, -⟩ :=
    exists_statement_of_open ho ho' (tiles_tokens .sql a) htiles hopen last
  cases hstage : draft.stage with
  | settled type => exact ⟨type, rfl⟩
  | awaiting verb spaced =>
    refine absurd (hawaits.2 ⟨verb, spaced, hstage⟩) (hnone statement ?_)
    rw [hstatements]
    simp

section One

variable {P : Statement → Prop} {closed behind : List Statement} {statement : Statement}

lemma eq_of_mem_around {other : Statement} (hclosed : ∀ other ∈ closed, ¬ P other)
    (hbehind : ∀ other ∈ behind, ¬ P other) (hmem : other ∈ closed ++ statement :: behind)
    (h : P other) : other = statement := by
  rcases List.mem_append.1 hmem with hother | hother
  · exact absurd h (hclosed other hother)
  · rcases List.mem_cons.1 hother with heq | hother
    · exact heq
    · exact absurd h (hbehind other hother)

lemma map_mark_around [DecidablePred P] (hclosed : ∀ other ∈ closed, ¬ P other)
    (hbehind : ∀ other ∈ behind, ¬ P other) (h : P statement) :
    ((closed ++ statement :: behind).map fun other =>
      if P other then (some .unknown, other.terminated) else other.mark) =
      closed.map Statement.mark ++
        (some .unknown, statement.terminated) :: behind.map Statement.mark := by
  rw [List.map_append, List.map_cons, if_pos h,
    List.map_congr_left fun other hother => if_neg (hclosed other hother),
    List.map_congr_left fun other hother => if_neg (hbehind other hother)]

end One

/-- What a comment does where a statement awaits its object. -/
lemma parse_commented_of_awaitsObjectAt {ys : List Token} {length last : Nat}
    {statement : Statement} (hcontent : Enclosure.block.Allows content.toList)
    (ho : outline mode (tokenize a) = .ok o) (hys : ys = place m (pieces b.toList))
    (ho' : outlineFrom mode o.open? ys = .ok o') (htiles : Tiles a.utf8ByteSize ys length)
    (hstatement : statement ∈ (o.andThen o').statements last)
    (hawaits : statement.AwaitsObjectAt length a.utf8ByteSize) :
    ∃ verb ∈ statement.tokens.toList.head?,
      (verb.stop = a.utf8ByteSize →
        parse (a ++ Enclosure.block.write content ++ b) mode = .error (.missingPredecessor 1
          [.whitespace] (Enclosure.block.write content) a.utf8ByteSize)) ∧
      (verb.stop < a.utf8ByteSize →
        (mode = .strict → parse (a ++ Enclosure.block.write content ++ b) mode =
          .error (.unexpectedToken 1 objectPatterns .blockComment (Enclosure.block.write content)
            a.utf8ByteSize)) ∧
        (mode = .lenient → ∃ script,
          parse (a ++ Enclosure.block.write content ++ b) mode = .ok script ∧
          script.marks = ((o.andThen o').statements last).map fun statement =>
            if statement.AwaitsObjectAt length a.utf8ByteSize then
              (some .unknown, statement.terminated)
            else statement.mark)) := by
  subst hys
  have hxs : Tiles 0 (tokenize a) a.utf8ByteSize := tiles_tokens .sql a
  cases hopen : o.open? with
  | none => exact absurd hawaits (not_awaitsObjectAt_of_none ho ho' hxs htiles hopen _ hstatement)
  | some draft =>
    obtain ⟨statement', behind, hstatements, hall, hfirst, hiff, hbehind⟩ :=
      exists_statement_of_open ho ho' hxs htiles hopen last
    have hclosed : ∀ other ∈ o.closed, ¬ other.AwaitsObjectAt length a.utf8ByteSize :=
      fun other hother => not_awaitsObjectAt_of_mem_closed ho hxs hother
    rw [hstatements] at hstatement
    -- Only the statement that is open at the cut awaits anything there.
    obtain rfl := eq_of_mem_around hclosed hbehind hstatement hawaits
    obtain ⟨verb, spaced, hstage⟩ := hiff.1 hawaits
    obtain ⟨hbare, hspaced⟩ := parse_commented_of_awaiting (b := b)
      (ends_of_awaiting ho hopen hstage) hcontent ho ho' hopen hstage
    have hbehindVerb := stop_eq_iff_of_awaiting ho hxs hopen hstage
    refine ⟨draft.first, hfirst, fun heq => hbare (hbehindVerb.1 heq), fun hlt => ?_⟩
    have htrue : spaced = true := by
      rw [← Bool.not_eq_false]
      exact fun hfalse => hlt.ne (hbehindVerb.2 hfalse)
    obtain ⟨hstrict, hlenient⟩ := hspaced htrue
    refine ⟨hstrict, fun hmode => ?_⟩
    obtain ⟨script, mark, marks, hscript, hmark, hsame⟩ := hlenient hmode
    refine ⟨script, hscript, ?_⟩
    rw [← o'.map_mark_statements last, hall, List.map_cons] at hmark
    obtain ⟨rfl, rfl⟩ := List.cons.inj hmark
    rw [hsame, hstatements, map_mark_around hclosed hbehind hawaits]
    rfl

end Commented

/-- White space does no harm between any two tokens of a script: the script is read with statements
of the same types, of which the same ones are terminated.  Nor does a block comment, if the token
before it is closed and no statement awaits its object there.  Where one does, a comment right
behind the verb is refused.  Behind white space it is refused in strict mode, and in lenient mode
it is taken for the object, so that the statement is of unknown type. -/
theorem parse_spaced {a b : String} {mode : Mode} {script : Script}
    (hcut : IsTokenBoundary (tokenize (a ++ b)) a.utf8ByteSize)
    (h : parse (a ++ b) mode = .ok script) :
    (∀ space : String, IsSpace space.toList →
      ∃ script', parse (a ++ space ++ b) mode = .ok script' ∧ script'.marks = script.marks) ∧
    ∀ content : String, Enclosure.block.Allows content.toList →
      let comment := Enclosure.block.write content
      let commented := a ++ comment ++ b
      let awaits := fun statement : Statement =>
        statement.AwaitsObjectAt (a ++ b).utf8ByteSize a.utf8ByteSize
      ((∀ token ∈ tokenize (a ++ b), token.stop = a.utf8ByteSize → ¬ token.IsOpenEnded) →
        (∀ statement ∈ script.statements, ¬ awaits statement) →
          ∃ script', parse commented mode = .ok script' ∧ script'.marks = script.marks) ∧
      ∀ statement ∈ script.statements, awaits statement →
        ∃ verb ∈ statement.tokens.toList.head?,
          (verb.stop = a.utf8ByteSize → parse commented mode =
            .error (.missingPredecessor 1 [.whitespace] comment a.utf8ByteSize)) ∧
          (verb.stop < a.utf8ByteSize →
            (mode = .strict → parse commented mode = .error
              (.unexpectedToken 1 objectPatterns .blockComment comment a.utf8ByteSize)) ∧
            (mode = .lenient → ∃ script', parse commented mode = .ok script' ∧
              script'.marks = script.statements.toList.map fun statement =>
                if awaits statement then (some .unknown, statement.terminated)
                else statement.mark)) := by
  have hpieces := pieces_append_of_isTokenBoundary hcut
  rw [parse_eq_map] at h
  obtain ⟨o, ho, rfl⟩ := map_eq_ok_iff.1 h
  refine ⟨fun space hspace => exists_parse_spaced hpieces ho hspace, ?_⟩
  intro content hcontent comment commented awaits
  have htokens := tokenize_append_eq hpieces
  obtain ⟨hxs, hys⟩ := tiles_of_tokenize_eq htokens
  rw [htokens, outline] at ho
  obtain ⟨o₁, ho₁⟩ := exists_of_outlineFrom_append ho
  rw [outlineFrom_append, ho₁] at ho
  obtain ⟨o₂, ho₂, rfl⟩ := map_eq_ok_iff.1 ho
  have hmem : ∀ statement, statement ∈ ((o₁.andThen o₂).script (a ++ b).utf8ByteSize).statements ↔
      statement ∈ (o₁.andThen o₂).statements ((a ++ b).utf8ByteSize - 1) := by
    intro statement
    rw [← Array.mem_toList_iff, Outline.toList_statements_script]
  simp only [hmem, Outline.marks_script, Outline.toList_statements_script]
  refine ⟨fun hclosed hnone => ?_, fun statement hstatement hawaits => ?_⟩
  · refine exists_parse_commented_of_closed (ends_of_tokenize fun token hlast => ?_) hcontent ho₁
      rfl ho₂ hys hnone
    refine Token.piece_ends (hclosed token ?_ (hxs.stop_eq_of_getLast? hlast))
    rw [htokens]
    exact List.mem_append_left _ (List.mem_of_getLast? hlast)
  · exact parse_commented_of_awaitsObjectAt hcontent ho₁ rfl ho₂ hys hstatement hawaits

/-- Behind the object blank text changes nothing, and a semicolon or a quote in a comment is none.
Between the verb and its object only white space does no harm. -/
theorem parse_spaced_create :
    (∃ script, parse ("CREATE TABLE" ++ "\n\t" ++ " é;") .lenient = .ok script ∧
      script.marks = [(some .createTable, true)]) ∧
    (∃ script, parse ("CREATE TABLE" ++ Enclosure.block.write ";é'" ++ " é;") .lenient =
      .ok script ∧ script.marks = [(some .createTable, true)]) ∧
    parse ("CREATE" ++ Enclosure.block.write ";é'" ++ " TABLE é;") .lenient =
      .error (.missingPredecessor 1 [.whitespace] (Enclosure.block.write ";é'") 6) ∧
    ∃ script, parse ("CREATE " ++ Enclosure.block.write ";é'" ++ "TABLE é;") .lenient =
      .ok script ∧ script.marks = [(some .unknown, true)] := by
  have hspace : IsSpace "\n\t".toList := List.all_eq_true.1 (by decide +kernel)
  have hcontent : Enclosure.block.Allows ";é'".toList := by decide +kernel
  obtain ⟨script, statement, hscript, hstatements, htype, hterminated, hfirst, hnot, hverb,
    hobject⟩ := exists_parse_create
  have hmem : statement ∈ script.statements := by simp [← Array.mem_toList_iff, hstatements]
  have hmarks : script.marks = [(some .createTable, true)] := by
    simp [Script.marks, hstatements, Statement.mark, htype, hterminated]
  have hbehind : IsTokenBoundary (tokenize ("CREATE TABLE" ++ " é;")) 12 :=
    .inr ⟨⟨.keyword, "TABLE", 7, 11⟩, by decide +kernel, rfl⟩
  refine ⟨?_, ?_, ?_, ?_⟩
  · rw [← hmarks]
    exact (parse_spaced hbehind hscript).1 "\n\t" hspace
  · have hkinds : (tokenize ("CREATE TABLE" ++ " é;")).all
        (fun token => token.stop ≠ 12 ∨ token.kind = .keyword) = true := by decide +kernel
    have hclosed : ∀ token ∈ tokenize ("CREATE TABLE" ++ " é;"), token.stop = 12 →
        ¬ token.IsOpenEnded := by
      intro token htoken hend
      have hkind : token.kind = .keyword := by
        simpa [hend] using List.all_eq_true.1 hkinds token htoken
      simp [Token.IsOpenEnded, hkind]
    have hnone : ∀ other ∈ script.statements, ¬ other.AwaitsObjectAt 16 12 := by
      simpa [← Array.mem_toList_iff, hstatements] using hnot
    rw [← hmarks]
    exact ((parse_spaced hbehind hscript).2 ";é'" hcontent).1 hclosed hnone
  · have hcut : IsTokenBoundary (tokenize ("CREATE" ++ " TABLE é;")) 6 :=
      .inr ⟨⟨.keyword, "CREATE", 0, 5⟩, by decide +kernel, rfl⟩
    obtain ⟨first, hhead, hbare, -⟩ :=
      ((parse_spaced hcut hscript).2 ";é'" hcontent).2 statement hmem hverb
    exact hbare (hfirst first hhead)
  · have hcut : IsTokenBoundary (tokenize ("CREATE " ++ "TABLE é;")) 7 :=
      .inr ⟨⟨.whitespace, " ", 6, 6⟩, by decide +kernel, rfl⟩
    obtain ⟨first, hhead, -, hspaced⟩ :=
      ((parse_spaced hcut hscript).2 ";é'" hcontent).2 statement hmem hobject
    have hlt : first.stop < 7 := by rw [hfirst first hhead]; decide
    obtain ⟨script', hscript', hmarks'⟩ := (hspaced hlt).2 rfl
    refine ⟨script', hscript', ?_⟩
    rw [hmarks', hstatements, List.map_singleton, hterminated]
    exact congrArg (fun mark => [mark]) (if_pos hobject)

end SqlSplit
