import SqlSplit.Audit
import SqlSplit.Proofs.Scripts.Derivation
import SqlSplit.Proofs.Scripts.Loop

/-!
# The layout of a script

A script that has been read lies over its text without gap: every token of the text is found once,
either outside all statements, where only white space and comments are, or in the one statement
that it belongs to.  `Script.IsLayoutOf` collects what this comes to, for the tokens, for the
bytes, and for the text that a statement cuts out.

`parse_layout` states that reading ends, and that whatever it gives is such a layout, for every
tokenizer.  The outline of the tokens carries the proof: its statements take their tokens from the
list of all tokens in order (`Outline.sublist_tokens`, `Outline.exists_around`), and together with
the blank ones they are all of it (`Outline.perm_tokens`).
-/

namespace SqlSplit

/-! ## Layouts -/

/-- The statement is made of its tokens, of which these are the first and the last: it reaches from
the one to the other, opens with a word, and a semicolon can only end it. -/
structure Statement.IsWhole (statement : Statement) (first last : Token) : Prop where
  head?_eq : statement.tokens.toList.head? = some first
  getLast?_eq : statement.tokens.toList.getLast? = some last
  first_not_blank : first.isBlank = false
  start_eq : statement.start = first.start
  last_eq : statement.last = last.last
  terminated_iff : statement.terminated = true ↔ last.kind = .semicolon
  noSemicolon : NoSemicolon statement.tokens.toList.dropLast

/-- The byte lies in the statement. -/
def Statement.Spans (statement : Statement) (offset : Nat) : Prop :=
  statement.start ≤ offset ∧ offset ≤ statement.last

/-- The script lies over the text, whose tokens are given, without gap and without overlap. -/
structure Script.IsLayoutOf (script : Script) (input : String) (tokens : List Token) : Prop where
  tokensInOrder_eq : script.tokensInOrder = tokens
  tiles : Tiles 0 script.tokensInOrder input.utf8ByteSize
  blanks : AllBlank script.blanks.toList
  whole : ∀ statement ∈ script.statements, ∃ first last, statement.IsWhole first last
  start_le_last : ∀ statement ∈ script.statements, statement.start ≤ statement.last
  ordered : script.statements.toList.Pairwise fun a b => a.last < b.start
  terminated : ∀ statement ∈ script.statements.toList.dropLast, statement.terminated = true
  unterminated : ∀ statement ∈ script.statements, statement.terminated = false →
    statement.last + 1 = input.utf8ByteSize
  outside : ∀ offset < input.utf8ByteSize,
    (∀ statement ∈ script.statements, ¬ statement.Spans offset) →
      ∃ token ∈ script.blanks, token.start ≤ offset ∧ offset ≤ token.last
  text : ∀ statement ∈ script.statements, ∃ slices,
    statement.tokens.toList.mapM (·.sliceOf? input.toList) = some slices ∧
      statement.text? input = some (String.join slices)

/-! ## The statements of an outline -/

/-- The semicolon of a statement, if it has one. -/
def IsTail (tail : List Token) : Prop :=
  tail = [] ∨ ∃ semicolon : Token, semicolon.kind = .semicolon ∧ tail = [semicolon]

namespace Outline

variable {o : Outline} {last : Nat} {statement : Statement}

lemma tokens_close (draft : Draft) (semicolon : Token) :
    (draft.close semicolon).tokens.toList = draft.tokens ++ [semicolon] := rfl

lemma tokens_closeAt (draft : Draft) (last : Nat) :
    (draft.closeAt last).tokens.toList = draft.tokens := rfl

lemma mem_statements_iff : statement ∈ o.statements last ↔
    (∃ draft semicolon, Part.closed draft semicolon ∈ o.parts ∧
      statement = draft.close semicolon) ∨
    (∃ draft, o.open? = some draft ∧ statement = draft.closeAt last) := by
  unfold statements closed
  rw [List.mem_append, List.mem_filterMap]
  refine or_congr ?_ ?_
  · constructor
    · rintro ⟨part, hmem, hpart⟩
      cases part with
      | blank token => cases hpart
      | closed draft semicolon =>
        cases hpart
        exact ⟨draft, semicolon, hmem, rfl⟩
    · rintro ⟨draft, semicolon, hmem, rfl⟩
      exact ⟨_, hmem, rfl⟩
  · cases o.open? <;> simp

/-- A statement is a sentence of the grammar with its semicolon, if it has one. -/
lemma IsDerived.exists_sentence {mode : Mode} (ho : o.IsDerived mode)
    (h : statement ∈ o.statements last) :
    ∃ (sentence : Sentence) (tail : List Token), sentence.Derives mode ∧ IsTail tail ∧
      statement.tokens.toList = sentence.tokens ++ tail ∧ statement.type? = sentence.type? := by
  rcases mem_statements_iff.1 h with ⟨draft, semicolon, hpart, rfl⟩ | ⟨draft, hopen, rfl⟩
  · obtain ⟨hdraft, hkind⟩ := ho.parts _ hpart
    exact ⟨draft.sentence, [semicolon], hdraft.derives, .inr ⟨semicolon, hkind, rfl⟩, rfl, rfl⟩
  · refine ⟨draft.sentence, [], (ho.open? draft hopen).derives, .inl rfl, ?_, rfl⟩
    rw [tokens_closeAt, List.append_nil]
    rfl

lemma exists_around (h : statement ∈ o.statements last) :
    ∃ before after, o.tokens = before ++ statement.tokens.toList ++ after := by
  rcases mem_statements_iff.1 h with ⟨draft, semicolon, hmem, rfl⟩ | ⟨draft, hopen, rfl⟩
  · obtain ⟨ps, qs, hparts⟩ := List.append_of_mem hmem
    refine ⟨ps.flatMap Part.tokens, qs.flatMap Part.tokens ++ openTokens o.open?, ?_⟩
    rw [tokens, hparts, tokens_close]
    simp [Part.tokens, openTokens]
  · refine ⟨o.parts.flatMap Part.tokens, [], ?_⟩
    rw [tokens, hopen, tokens_closeAt]
    simp

lemma perm_flatMap_tokens (parts : List Part) :
    (parts.filterMap Part.blank? ++
      (parts.filterMap Part.statement?).flatMap (·.tokens.toList)).Perm
        (parts.flatMap Part.tokens) := by
  induction parts with
  | nil => exact .nil
  | cons part parts ih =>
    cases part with
    | blank token => exact ih.cons token
    | closed draft semicolon =>
      have hcons : (draft.close semicolon :: parts.filterMap Part.statement?).flatMap
          (·.tokens.toList) = draft.tokens ++ [semicolon] ++
            (parts.filterMap Part.statement?).flatMap (·.tokens.toList) := rfl
      show (parts.filterMap Part.blank? ++ (draft.close semicolon ::
        parts.filterMap Part.statement?).flatMap (·.tokens.toList)).Perm
          (draft.tokens ++ [semicolon] ++ parts.flatMap Part.tokens)
      rw [hcons, ← List.append_assoc]
      -- The tokens of the statement change places with the blank ones.
      refine (List.perm_append_comm.append_right _).trans ?_
      rw [List.append_assoc]
      exact ih.append_left _

lemma flatMap_tokens_statements :
    (o.statements last).flatMap (·.tokens.toList) =
      o.closed.flatMap (·.tokens.toList) ++ openTokens o.open? := by
  rw [statements, List.flatMap_append]
  cases o.open? <;> simp [openTokens, tokens_closeAt]

/-- The blank tokens and the tokens of the statements are all tokens. -/
lemma perm_tokens (o : Outline) (last : Nat) :
    (o.blanks ++ (o.statements last).flatMap (·.tokens.toList)).Perm o.tokens := by
  rw [flatMap_tokens_statements, ← List.append_assoc]
  exact (perm_flatMap_tokens o.parts).append_right _

/-- The tokens of the statements stand among all tokens in the order of the statements. -/
lemma sublist_tokens (o : Outline) (last : Nat) :
    ((o.statements last).flatMap (·.tokens.toList)).Sublist o.tokens := by
  have hparts : ∀ parts : List Part,
      ((parts.filterMap Part.statement?).flatMap (·.tokens.toList)).Sublist
        (parts.flatMap Part.tokens) := by
    intro parts
    induction parts with
    | nil => exact .slnil
    | cons part parts ih =>
      cases part with
      | blank token => exact ih.cons token
      | closed draft semicolon => exact ih.append_left _
  rw [flatMap_tokens_statements]
  exact (hparts o.parts).append_right _

lemma mem_closed_of_mem_dropLast (h : statement ∈ (o.statements last).dropLast) :
    statement ∈ o.closed := by
  unfold statements at h
  cases hopen : o.open? with
  | none =>
    rw [hopen] at h
    exact List.dropLast_subset _ (by simpa using h)
  | some draft =>
    rw [hopen] at h
    simpa using h

end Outline

/-! ## Statements are whole -/

namespace Draft

variable {mode : Mode} {draft : Draft} {semicolon last : Token}

lemma isWhole_close (h : draft.IsSentence mode) (hkind : semicolon.kind = .semicolon) :
    (draft.close semicolon).IsWhole draft.first semicolon where
  head?_eq := rfl
  getLast?_eq := by
    rw [Outline.tokens_close]
    simp
  first_not_blank := h.derives.first_not_blank
  start_eq := rfl
  last_eq := rfl
  terminated_iff := ⟨fun _ => hkind, fun _ => rfl⟩
  noSemicolon := by
    rw [Outline.tokens_close, List.dropLast_concat]
    exact h.derives.noSemicolon

lemma isWhole_closeAt (h : draft.IsSentence mode) (hlast : draft.tokens.getLast? = some last) :
    (draft.closeAt last.last).IsWhole draft.first last where
  head?_eq := rfl
  getLast?_eq := hlast
  first_not_blank := h.derives.first_not_blank
  start_eq := rfl
  last_eq := rfl
  terminated_iff := by
    have hkind : last.kind ≠ .semicolon :=
      h.derives.noSemicolon last (List.mem_of_getLast? hlast)
    have hopen : (draft.closeAt last.last).terminated = false := rfl
    simp [hkind, hopen]
  noSemicolon := fun token hmem => h.derives.noSemicolon token (List.dropLast_subset _ hmem)

end Draft

namespace Outline

section Tiled

variable {mode : Mode} {o : Outline} {length : Nat} {statement : Statement}
  (ho : o.IsDerived mode) (htiles : Tiles 0 o.tokens length)

include ho htiles

/-- Every statement is made of its tokens.  The open one is, because the last of all tokens is its
last token and reaches to the end of the text. -/
lemma exists_isWhole (h : statement ∈ o.statements (length - 1)) :
    ∃ first last, statement.IsWhole first last := by
  rcases mem_statements_iff.1 h with ⟨draft, semicolon, hmem, rfl⟩ | ⟨draft, hopen, rfl⟩
  · obtain ⟨hdraft, hkind⟩ := ho.parts _ hmem
    exact ⟨draft.first, semicolon, draft.isWhole_close hdraft hkind⟩
  · have hne : draft.tokens ≠ [] := List.cons_ne_nil _ _
    have hlast : draft.tokens.getLast? = some (draft.tokens.getLast hne) :=
      List.getLast?_eq_some_getLast hne
    have hall : o.tokens.getLast? = some (draft.tokens.getLast hne) := by
      rw [tokens, hopen, List.getLast?_append]
      simp [hlast]
    have hstop := htiles.stop_eq_of_getLast? hall
    have hend : (draft.tokens.getLast hne).last = length - 1 := by
      rw [← hstop, Token.stop, Nat.add_sub_cancel]
    rw [← hend]
    exact ⟨draft.first, _, draft.isWhole_closeAt (ho.open? draft hopen) hlast⟩

lemma exists_tiles (h : statement ∈ o.statements (length - 1)) :
    Tiles statement.start statement.tokens.toList (statement.last + 1) ∧
      statement.start ≤ statement.last ∧ statement.last + 1 ≤ length := by
  obtain ⟨before, after, haround⟩ := exists_around h
  obtain ⟨first, last, hwhole⟩ := exists_isWhole ho htiles h
  rw [haround] at htiles
  obtain ⟨stop, hfront, hafter⟩ := Tiles.append_iff.1 htiles
  obtain ⟨start, -, hown⟩ := Tiles.append_iff.1 hfront
  have hstart := hown.start_eq_of_head? hwhole.head?_eq
  have hstop := hown.stop_eq_of_getLast? hwhole.getLast?_eq
  have hmem := hown.le_start_of_mem (List.mem_of_getLast? hwhole.getLast?_eq)
  have hle := hafter.le
  rw [hwhole.start_eq, hwhole.last_eq, hstart]
  rw [Token.stop] at hstop hmem
  refine ⟨?_, by omega, by omega⟩
  rw [hstop]
  exact hown

lemma pairwise_statements : (o.statements (length - 1)).Pairwise fun a b => a.last < b.start := by
  have htokens := htiles.pairwise.sublist (o.sublist_tokens (length - 1))
  refine (List.pairwise_flatMap.1 htokens).2.imp_of_mem ?_
  intro a b ha hb hab
  obtain ⟨_, last, hlast⟩ := exists_isWhole ho htiles ha
  obtain ⟨first, _, hfirst⟩ := exists_isWhole ho htiles hb
  rw [hlast.last_eq, hfirst.start_eq]
  exact hab _ (List.mem_of_getLast? hlast.getLast?_eq) _ (List.mem_of_head? hfirst.head?_eq)

lemma exists_blank {offset : Nat} (hlt : offset < length)
    (houtside : ∀ statement ∈ o.statements (length - 1), ¬ statement.Spans offset) :
    ∃ token ∈ o.blanks, token.start ≤ offset ∧ offset ≤ token.last := by
  obtain ⟨token, hmem, hstart, hlast⟩ := htiles.exists_mem (Nat.zero_le _) hlt
  rcases List.mem_append.1 ((o.perm_tokens (length - 1)).mem_iff.2 hmem) with hblank | hinside
  · exact ⟨token, hblank, hstart, hlast⟩
  · obtain ⟨statement, hstatement, htoken⟩ := List.mem_flatMap.1 hinside
    obtain ⟨hown, -⟩ := exists_tiles ho htiles hstatement
    have hbounds := hown.le_start_of_mem htoken
    rw [Token.stop] at hbounds
    exact absurd ⟨by omega, by omega⟩ (houtside statement hstatement)

end Tiled

lemma exists_slices {mode : Mode} {o : Outline} {input : String} {statement : Statement}
    (ho : o.IsDerived mode) (hcovers : Covers 0 input.toList o.tokens)
    (h : statement ∈ o.statements (input.utf8ByteSize - 1)) :
    ∃ slices, statement.tokens.toList.mapM (·.sliceOf? input.toList) = some slices ∧
      statement.text? input = some (String.join slices) := by
  have htiles := hcovers.tiles_input
  obtain ⟨first, last, hwhole⟩ := exists_isWhole ho htiles h
  obtain ⟨before, after, haround⟩ := exists_around h
  rw [haround, List.append_assoc] at hcovers
  obtain ⟨as, _, htext, -, hrest⟩ := hcovers.append_inv
  obtain ⟨bs, cs, rfl, hown, -⟩ := hrest.append_inv
  rw [Nat.zero_add] at hown
  obtain ⟨slices, hslices, hjoin⟩ : ∃ slices,
      statement.tokens.toList.mapM (fun token => token.sliceOf? (as ++ bs ++ cs)) = some slices ∧
        String.join slices = String.ofList bs := hown.slices
  have hstart := hown.tiles.start_eq_of_head? hwhole.head?_eq
  have hstop := hown.tiles.stop_eq_of_getLast? hwhole.getLast?_eq
  rw [← List.append_assoc] at htext
  refine ⟨slices, by rw [htext]; exact hslices, ?_⟩
  rw [Statement.text?, Statement.sliceOf?, hwhole.start_eq, hwhole.last_eq, hstart, htext]
  rw [show last.last + 1 = last.stop from rfl, hstop, Text.slice?_append, hjoin]

end Outline

/-! ## Reading gives a layout -/

lemma Outline.tokensInOrder_script {o : Outline} {length : Nat}
    (htiles : Tiles 0 o.tokens length) : (o.script length).tokensInOrder = o.tokens := by
  unfold Script.tokensInOrder Outline.script
  exact htiles.mergeSort_eq (o.perm_tokens (length - 1))

/-- The script that an outline spells out lies over the text of its tokens. -/
lemma Outline.isLayoutOf_script {mode : Mode} {o : Outline} {input : String}
    (ho : o.IsDerived mode) (hcovers : Covers 0 input.toList o.tokens) :
    (o.script input.utf8ByteSize).IsLayoutOf input o.tokens := by
  have htiles := hcovers.tiles_input
  have hmem : ∀ {statement : Statement},
      statement ∈ (o.script input.utf8ByteSize).statements ↔
        statement ∈ o.statements (input.utf8ByteSize - 1) := by
    intro statement
    simp [script]
  constructor
  case tokensInOrder_eq => exact tokensInOrder_script htiles
  case tiles =>
    rw [tokensInOrder_script htiles]
    exact htiles
  case blanks =>
    intro token htoken
    obtain ⟨part, hpart, hblank⟩ := List.mem_filterMap.1 htoken
    cases part with
    | blank token =>
      cases hblank
      exact ho.parts _ hpart
    | closed draft semicolon => cases hblank
  case whole => exact fun statement h => exists_isWhole ho htiles (hmem.1 h)
  case start_le_last => exact fun statement h => (exists_tiles ho htiles (hmem.1 h)).2.1
  case ordered => exact pairwise_statements ho htiles
  case terminated =>
    exact fun statement h => terminated_of_mem_closed (mem_closed_of_mem_dropLast h)
  case unterminated =>
    intro statement h hopen
    obtain ⟨-, -, hle⟩ := exists_tiles ho htiles (hmem.1 h)
    rcases mem_statements_iff.1 (hmem.1 h) with ⟨draft, semicolon, -, rfl⟩ | ⟨draft, -, rfl⟩
    · cases hopen
    · have hlast : (draft.closeAt (input.utf8ByteSize - 1)).last = input.utf8ByteSize - 1 := rfl
      omega
  case outside =>
    intro offset hlt houtside
    obtain ⟨token, htoken, hspan⟩ :=
      exists_blank ho htiles hlt fun statement h => houtside statement (hmem.2 h)
    exact ⟨token, by simpa [script] using htoken, hspan⟩
  case text => exact fun statement h => exists_slices ho hcovers (hmem.1 h)

/-- Reading a text, with any tokenizer and in either mode, ends after at most one scan for each
byte of the text and never comes to a position at which the text cannot be cut.  If it gives a
script, the script lies over the text without gap, overlap, loss or repetition. -/
theorem Parser.parse_layout (parser : Parser) :
    parser.readFrom? 0 0 (.start parser.mode parser.input.utf8ByteSize)
        parser.input.utf8ByteSize = some parser.parse ∧
      ∀ script, parser.parse = .ok script → script.IsLayoutOf parser.input parser.tokens := by
  refine ⟨parser.readFrom?_eq, ?_⟩
  intro script hscript
  obtain ⟨o, ho, htokens, rfl⟩ := Parser.exists_outline hscript
  have hcovers : Covers 0 parser.input.toList parser.tokens :=
    covers_tokens parser.tokenizer parser.input
  rw [← htokens] at hcovers ⊢
  exact Outline.isLayoutOf_script ho hcovers

/-- The layout of a script with a character of two bytes, a quoted semicolon and an open end. -/
theorem exists_layout_of_open_end :
    ∃ script, parse "SELECT 'é;'; DROP" .strict = .ok script ∧ script.statements.size = 2 ∧
      script.IsLayoutOf "SELECT 'é;'; DROP" (tokenize "SELECT 'é;'; DROP") := by
  have hread : (parse "SELECT 'é;'; DROP" .strict).toOption.map (·.statements.size) = some 2 := by
    decide +kernel
  obtain ⟨script, hscript, hsize⟩ := exists_eq_ok_of_map_toOption hread
  exact ⟨script, hscript, hsize,
    (Parser.parse_layout { input := "SELECT 'é;'; DROP", mode := .strict }).2 script hscript⟩

end SqlSplit
