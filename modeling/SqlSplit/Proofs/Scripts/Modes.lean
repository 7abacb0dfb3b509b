import SqlSplit.Proofs.Scripts.Concatenation
import SqlSplit.Proofs.Scripts.Continuation
import SqlSplit.Proofs.Tokens.Words

/-!
# Strict and lenient reading

The lenient mode accepts more than the strict one, and what both accept they read alike.  A token
either does the same in both modes, or it *strays*: it opens a statement of unknown type, or stands
for an object that is none, and the strict mode refuses it.  `advance_lenient` states this for one
token, and `outlineFrom_lenient` for a run, which goes the same way in both modes up to the first
token that strays.

Where the strict mode ends the lenient one goes on with a statement whose type is settled, and for
SQL scripts it is settled as unknown.  So the two modes read a script alike exactly if no statement
is of unknown type in lenient mode.  All of this comes together in `parse_lenient`.
-/

namespace SqlSplit

/-! ## A token in both modes -/

/-- The token may stand where it stands in lenient mode only, with the statement that it leaves
open there and the error of the strict mode. -/
inductive Strays : Option Draft → Token → Draft → ParseError → Prop
  | opens {token : Token} (hkind : token.kind = .unknown) :
      Strays none token ⟨token, [], .settled .unknown⟩
        (.unrecognizedLeadingToken token.value token.start)
  | grows {token first : Token} {rest : List Token} {verb : ObjectVerb}
      (hspace : token.kind ≠ .whitespace) (hobject : token.isObject = false) :
      Strays (some ⟨first, rest, .awaiting verb true⟩) token
        ⟨first, rest ++ [token], .settled (verb.typeOn token.value)⟩
        (.unexpectedToken 1 objectPatterns token.kind token.value token.start)

lemma Strays.names {open? : Option Draft} {token : Token} {draft : Draft} {error : ParseError}
    (h : Strays open? token draft error) : error.Names token := by
  cases h with
  | opens hkind => exact ⟨rfl, rfl⟩
  | grows hspace hobject => exact ⟨rfl, rfl, rfl⟩

lemma Opener.ofToken?_lenient (token : Token) :
    ofToken? .lenient token =
      if token.kind = .unknown then some .unknown else ofToken? .strict token := by
  unfold ofToken?
  cases token.kind <;> rfl

lemma Opener.ofToken?_strict_unknown {token : Token} (h : token.kind = .unknown) :
    ofToken? .strict token = none := by
  simp [ofToken?, h]

/-- A token does the same in both modes, or it strays. -/
lemma advance_lenient (open? : Option Draft) (token : Token) :
    advance .lenient open? token = advance .strict open? token ∨
      ∃ draft error, Strays open? token draft error ∧
        advance .lenient open? token = .ok ⟨[], some draft⟩ ∧
        advance .strict open? token = .error error := by
  cases open? with
  | none =>
    by_cases hkind : token.kind = .unknown
    · have hblank : token.isBlank = false := by simp [Token.isBlank, hkind, TokenKind.isBlank]
      refine .inr ⟨_, _, .opens hkind, ?_, ?_⟩
      · simp [advance, hblank, Draft.opening, Opener.dispatch, Opener.ofToken?_lenient, hkind,
          Except.map, Opener.stage]
      · simp [advance, hblank, Draft.opening, Opener.dispatch,
          Opener.ofToken?_strict_unknown hkind, Except.map]
    · left
      simp [advance, Draft.opening, Opener.dispatch, Opener.ofToken?_lenient, hkind]
  | some draft =>
    obtain ⟨first, rest, stage⟩ := draft
    cases stage with
    | settled type => exact .inl rfl
    | awaiting verb spaced =>
      -- The mode is asked for only if white space has come and the token is no object.
      by_cases hsemicolon : token.kind = .semicolon
      · left
        simp only [advance, if_pos hsemicolon]
      by_cases hspace : token.kind = .whitespace
      · left
        simp only [advance, if_neg hsemicolon, Draft.next, Stage.next_space hspace]
      cases spaced with
      | false =>
        left
        simp only [advance, if_neg hsemicolon, Draft.next, Stage.next_unspaced hspace]
      | true =>
        by_cases hobject : token.isObject = true
        · left
          simp [advance, hsemicolon, Draft.next, Stage.next, hspace, hobject]
        · have hfalse : token.isObject = false := by simpa using hobject
          refine .inr ⟨_, _, .grows hspace hfalse, ?_, ?_⟩
          · simp only [advance, if_neg hsemicolon, Draft.next, Stage.next_lenient hspace,
              Except.map]
          · simp only [advance, if_neg hsemicolon, Draft.next, Stage.next_strict hspace hfalse,
              Except.map]

/-! ## A run in both modes -/

/-- A run goes the same way in both modes, or it does so up to a token that strays, at which the
strict mode ends. -/
theorem outlineFrom_lenient (open? : Option Draft) (tokens : List Token) :
    outlineFrom .lenient open? tokens = outlineFrom .strict open? tokens ∨
      ∃ before token after a draft error, tokens = before ++ token :: after ∧
        outlineFrom .strict open? before = .ok a ∧ Strays a.open? token draft error ∧
        outlineFrom .strict open? tokens = .error error ∧
        outlineFrom .lenient open? tokens =
          (outlineFrom .lenient (some draft) after).map a.andThen := by
  induction tokens generalizing open? with
  | nil => exact .inl rfl
  | cons token tokens ih =>
    rcases advance_lenient open? token with hsame | ⟨draft, error, hstrays, hlenient, hstrict⟩
    · cases hadvance : advance .strict open? token with
      | error error =>
        left
        rw [outlineFrom_cons, outlineFrom_cons, hsame, hadvance]
      | ok a =>
        rcases ih a.open? with hrun | ⟨before, fault, after, b, draft, error, rfl, hbefore, hstrays,
          hstrict, hlenient⟩
        · left
          rw [outlineFrom_cons, outlineFrom_cons, hsame, hadvance]
          simp only [hrun]
        · right
          refine ⟨token :: before, fault, after, a.andThen b, draft, error, rfl, ?_, hstrays, ?_,
            ?_⟩
          · exact outlineFrom_cons_eq_ok_iff.2 ⟨a, b, advance_eq_ok_iff.1 hadvance, hbefore, rfl⟩
          · rw [outlineFrom_cons, hadvance]
            simp only [hstrict, Except.map]
          · rw [outlineFrom_cons, hsame, hadvance]
            simp only [hlenient]
            cases outlineFrom .lenient (some draft) after <;>
              simp [Except.map, Outline.andThen]
    · right
      refine ⟨[], token, tokens, ⟨[], open?⟩, draft, error, rfl, rfl, hstrays, ?_, ?_⟩
      · rw [outlineFrom_cons, hstrict]
      · rw [outlineFrom_cons, hlenient]
        rfl

/-- What the strict mode accepts, the lenient mode reads alike. -/
lemma outlineFrom_lenient_of_strict {open? : Option Draft} {tokens : List Token} {o : Outline}
    (h : outlineFrom .strict open? tokens = .ok o) :
    outlineFrom .lenient open? tokens = .ok o := by
  rcases outlineFrom_lenient open? tokens with
    hsame | ⟨before, token, after, a, draft, error, -, -, -, hstrict, -⟩
  · rw [hsame, h]
  · rw [h] at hstrict
    cases hstrict

/-- What the lenient mode refuses, the strict mode refuses there or earlier. -/
lemma exists_error_of_lenient {length : Nat} {tokens : List Token} {error : ParseError}
    (htiles : Tiles 0 tokens length) (h : outline .lenient tokens = .error error) :
    ∃ error', outline .strict tokens = .error error' ∧
      (error' = error ∨ error'.position < error.position) := by
  rcases outlineFrom_lenient none tokens with
    hsame | ⟨before, token, after, a, draft, error', rfl, hbefore, hstrays, hstrict, hlenient⟩
  · exact ⟨error, hsame.symm.trans h, .inl rfl⟩
  · refine ⟨error', hstrict, .inr ?_⟩
    have hrest : outlineFrom .lenient (some draft) after = .error error :=
      map_eq_error_iff.1 (hlenient.symm.trans h)
    obtain ⟨between, fault, behind, b, rfl, -, hfault⟩ := exists_of_outlineFrom_error hrest
    rw [hstrays.names.position_eq, (advance_names hfault).position_eq]
    -- The token that strays stands before the one that the lenient mode refuses.
    have hpairwise := (List.pairwise_append.1 htiles.pairwise_start).2.1
    exact (List.pairwise_cons.1 hpairwise).1 fault (by simp)

/-! ## Statements of unknown type -/

lemma Keyword.known_of_type? {word : Keyword} {type : StatementType} (h : word.type? = some type) :
    type ≠ .unknown ∧ type ≠ .incomplete := by
  cases word <;> cases h <;> decide

lemma ObjectVerb.known_of_typeWith? {verb : ObjectVerb} {word : Keyword} {type : StatementType}
    (h : verb.typeWith? word = some type) : type ≠ .unknown ∧ type ≠ .incomplete := by
  cases verb <;> cases word <;> cases h <;> decide

lemma Sentence.Derives.type?_ne_unknown {sentence : Sentence} (h : sentence.Derives .strict) :
    sentence.type? ≠ some .unknown := by
  cases h with
  | word hfirst htype hrest => simpa using (Keyword.known_of_type? htype).1
  | bare hfirst hspaces => simp
  | object hfirst hne hspaces hobject htype hrest =>
    simpa using (ObjectVerb.known_of_typeWith? htype).1
  | anyObject hmode hfirst hne hspaces hobject hrest => cases hmode
  | unknown hmode hfirst hrest => cases hmode

lemma Outline.IsDerived.type?_ne_unknown {o : Outline} (h : o.IsDerived .strict) {last : Nat} :
    ∀ statement ∈ o.statements last, statement.type? ≠ some .unknown := by
  intro statement hmem
  obtain ⟨sentence, tail, hderives, -, -, htype⟩ := h.exists_sentence hmem
  rw [htype]
  exact hderives.type?_ne_unknown

lemma ObjectVerb.typeOn_eq_getD (verb : ObjectVerb) (value : String) :
    verb.typeOn value = ((Keyword.ofWord? value).bind verb.typeWith?).getD .unknown := by
  unfold typeOn
  cases Keyword.ofWord? value with
  | none => cases verb <;> rfl
  | some word => cases verb <;> cases word <;> rfl

lemma ObjectVerb.typeOn_eq_unknown {cs : List Char} {token : Token} (h : token.piece ∈ pieces cs)
    (hobject : token.isObject = false) (verb : ObjectVerb) :
    verb.typeOn token.value = .unknown := by
  have hnone : (Keyword.ofWord? token.value).bind verb.typeWith? = none := by
    by_contra hsome
    obtain ⟨type, htype⟩ := Option.ne_none_iff_exists'.1 hsome
    obtain ⟨word, hword, htype⟩ := Option.bind_eq_some_iff.1 htype
    have hspells := Token.spells_of_ofWord? (Token.kind_eq_of_ofWord? h hword) hword
    rw [verb.isObject_iff.2 ⟨word, type, hspells, htype⟩] at hobject
    cases hobject
  rw [typeOn_eq_getD, hnone, Option.getD_none]

lemma Strays.stage_eq {input : String} {open? : Option Draft} {token : Token} {draft : Draft}
    {error : ParseError} (h : Strays open? token draft error) (hmem : token ∈ tokenize input) :
    draft.stage = .settled .unknown := by
  cases h with
  | opens hkind => rfl
  | @grows token first rest verb hspace hobject =>
    exact congrArg Stage.settled (verb.typeOn_eq_unknown (piece_mem_pieces hmem) hobject)

/-- The strict mode refuses the statement, with the error: at the word that opens it, or at what it
creates or drops. -/
inductive Statement.IsRefusedWith (statement : Statement) : ParseError → Prop
  | opening {first : Token} {rest : List Token}
      (htokens : statement.tokens.toList = first :: rest) (hkind : first.kind = .unknown) :
      IsRefusedWith statement (.unrecognizedLeadingToken first.value first.start)
  | object {first object : Token} {spaces rest : List Token} {verb : ObjectVerb}
      (htokens : statement.tokens.toList = first :: (spaces ++ object :: rest))
      (hfirst : first.Spells verb.keyword) (hne : spaces ≠ []) (hspaces : AllSpace spaces)
      (hspace : object.kind ≠ .whitespace) (hobject : object.isObject = false) :
      IsRefusedWith statement
        (.unexpectedToken 1 objectPatterns object.kind object.value object.start)

/-- A statement with a token that strays is refused there. -/
lemma Strays.isRefusedWith {open? : Option Draft} {token : Token} {draft : Draft}
    {error : ParseError} {statement : Statement} {more : List Token}
    (h : Strays open? token draft error)
    (hopen : ∀ draft, open? = some draft → draft.IsSentence .strict)
    (htokens : statement.tokens.toList = draft.tokens ++ more) :
    statement.IsRefusedWith error := by
  cases h with
  | opens hkind => exact .opening htokens hkind
  | @grows token first rest verb hspace hobject =>
    obtain ⟨hfirst, hspaces, hne⟩ := hopen _ rfl
    have hall : statement.tokens.toList = first :: (rest ++ token :: more) := by
      rw [htokens]
      simp [Draft.tokens]
    exact .object hall hfirst (hne rfl) hspaces hspace hobject

lemma find?_unknown_eq_none_iff {statements : List Statement} :
    statements.find? (·.type? = some .unknown) = none ↔
      ∀ statement ∈ statements, statement.type? ≠ some .unknown := by
  simp

lemma find?_unknown_append {known rest : List Statement} {statement : Statement}
    (hknown : ∀ s ∈ known, s.type? ≠ some .unknown) (hunknown : statement.type? = some .unknown) :
    (known ++ statement :: rest).find? (·.type? = some .unknown) = some statement := by
  rw [List.find?_append, find?_unknown_eq_none_iff.2 hknown, Option.none_or,
    List.find?_cons_of_pos (by simpa using hunknown)]

/-- An SQL script that can be read in lenient mode is refused in strict mode within its first
statement of unknown type, and read alike if there is none. -/
lemma outline_strict_of_lenient {input : String} {o : Outline} (last : Nat)
    (h : outline .lenient (tokenize input) = .ok o) :
    ((o.statements last).find? (·.type? = some .unknown) = none ∧
      outline .strict (tokenize input) = .ok o) ∨
    ∃ statement error, (o.statements last).find? (·.type? = some .unknown) = some statement ∧
      outline .strict (tokenize input) = .error error ∧ statement.IsRefusedWith error := by
  rcases outlineFrom_lenient none (tokenize input) with
    hsame | ⟨before, token, after, a, draft, error, htokens, hbefore, hstrays, hstrict, hlenient⟩
  · have hstrict : outline .strict (tokenize input) = .ok o := hsame.symm.trans h
    have hderived := isDerived_of_outlineFrom hstrict (by simp)
    exact .inl ⟨find?_unknown_eq_none_iff.2 hderived.type?_ne_unknown, hstrict⟩
  · right
    have ha := isDerived_of_outlineFrom hbefore (by simp)
    have hmem : token ∈ tokenize input := by simp [htokens]
    have hstage := hstrays.stage_eq hmem
    obtain ⟨c, hc, rfl⟩ := map_eq_ok_iff.1 (hlenient.symm.trans h)
    obtain ⟨more, _, statement, _, -, hbecomes, -, hstatements, -⟩ :=
      exists_of_outlineFrom_some hc last
    -- The token that strays settles the type of its statement, which keeps it.
    have htype : statement.type? = some .unknown := by
      have hkept := hbecomes.type?_eq
      rw [hstage] at hkept
      exact (hkept.resolve_right nofun).symm
    refine ⟨statement, error, ?_, hstrict, hstrays.isRefusedWith ha.open? hbecomes.tokens_eq⟩
    rw [Outline.statements_andThen, hstatements]
    refine find?_unknown_append ?_ htype
    intro s hs
    have hs' : s ∈ a.statements last := List.mem_append_left _ hs
    exact ha.type?_ne_unknown s hs'

/-! ## The two modes on a text -/

/-- With any tokenizer, what the strict mode reads the lenient mode reads alike, and what the
lenient mode refuses the strict mode refuses with the same error or at an earlier place.  An SQL
script that the lenient mode reads is read alike by the strict mode if no statement is of unknown
type, and is refused within the first such statement otherwise. -/
theorem parse_lenient (input : String) :
    (∀ tokenizer script, Parser.parse { input, mode := .strict, tokenizer } = .ok script →
      Parser.parse { input, mode := .lenient, tokenizer } = .ok script) ∧
    (∀ tokenizer error, Parser.parse { input, mode := .lenient, tokenizer } = .error error →
      ∃ error', Parser.parse { input, mode := .strict, tokenizer } = .error error' ∧
        (error' = error ∨ error'.position < error.position)) ∧
    ∀ script, parse input .lenient = .ok script →
      ((∀ statement ∈ script.statements, statement.type? ≠ some .unknown) →
        parse input .strict = .ok script) ∧
      ∀ statement, script.statements.toList.find? (·.type? = some .unknown) = some statement →
        ∃ error, parse input .strict = .error error ∧ statement.IsRefusedWith error := by
  refine ⟨?_, ?_, ?_⟩
  · intro tokenizer script h
    rw [Parser.parse_eq_map] at h ⊢
    obtain ⟨o, ho, rfl⟩ := map_eq_ok_iff.1 h
    exact map_eq_ok_iff.2 ⟨o, outlineFrom_lenient_of_strict ho, rfl⟩
  · intro tokenizer error h
    rw [Parser.parse_eq_map] at h
    obtain ⟨error', herror, hposition⟩ :=
      exists_error_of_lenient (tiles_tokens tokenizer input) (map_eq_error_iff.1 h)
    refine ⟨error', ?_, hposition⟩
    rw [Parser.parse_eq_map]
    exact map_eq_error_iff.2 herror
  · intro script h
    rw [parse_eq_map] at h
    obtain ⟨o, ho, rfl⟩ := map_eq_ok_iff.1 h
    rw [Outline.toList_statements_script, parse_eq_map]
    rcases outline_strict_of_lenient (input.utf8ByteSize - 1) ho with
      ⟨hnone, hstrict⟩ | ⟨first, error, hfirst, hstrict, hrefused⟩
    · refine ⟨fun _ => map_eq_ok_iff.2 ⟨o, hstrict, rfl⟩, ?_⟩
      intro statement hfind
      rw [hnone] at hfind
      cases hfind
    · refine ⟨?_, ?_⟩
      · intro hknown
        have hmem : first ∈ (o.script input.utf8ByteSize).statements :=
          Array.mem_toList_iff.1 (List.mem_of_find?_eq_some hfirst)
        exact absurd (by simpa using List.find?_some hfirst) (hknown first hmem)
      · intro statement hfind
        rw [hfirst] at hfind
        cases hfind
        exact ⟨error, map_eq_error_iff.2 hstrict, hrefused⟩

/-- Four scripts: one that both modes read, one that both refuse at different places, one of known
types in lenient mode, and one whose second statement creates something that is no object. -/
theorem parse_lenient_of_index :
    (∃ script, parse "DROP TABLE é;" .strict = .ok script ∧
      parse "DROP TABLE é;" .lenient = .ok script) ∧
    (∃ error, parse "x;'z'" .strict = .error error ∧
      (error = .unrecognizedLeadingToken "'z'" 2 ∨ error.position < 2)) ∧
    (∃ script, parse "CREATE" .lenient = .ok script ∧ parse "CREATE" .strict = .ok script) ∧
    ∃ (statement : Statement) (error : ParseError), statement.start = 9 ∧
      parse "SELECT 1;CREATE INDEX i" .strict = .error error ∧ statement.IsRefusedWith error := by
  obtain ⟨script, hstrict⟩ :=
    exists_eq_ok_of_isOk (x := parse "DROP TABLE é;" .strict) (by decide +kernel)
  have hrefused : parse "x;'z'" .lenient = .error (.unrecognizedLeadingToken "'z'" 2) := by
    decide +kernel
  have htypes : (parse "CREATE" .lenient).toOption.map
      (·.statements.toList.all (·.type? ≠ some .unknown)) = some true := by
    decide +kernel
  obtain ⟨known, hknown, hall⟩ := exists_eq_ok_of_map_toOption htypes
  have hstarts : (parse "SELECT 1;CREATE INDEX i" .lenient).toOption.map (fun script =>
      (script.statements.toList.find? (·.type? = some .unknown)).map Statement.start) =
      some (some 9) := by
    decide +kernel
  obtain ⟨lenient, hlenient, hfind⟩ := exists_eq_ok_of_map_toOption hstarts
  obtain ⟨statement, hstatement, hstart⟩ := Option.map_eq_some_iff.1 hfind
  obtain ⟨error, herror, hwith⟩ :=
    ((parse_lenient "SELECT 1;CREATE INDEX i").2.2 lenient hlenient).2 statement hstatement
  refine ⟨⟨script, hstrict, (parse_lenient _).1 .sql script hstrict⟩,
    (parse_lenient "x;'z'").2.1 .sql _ hrefused, ⟨known, hknown, ?_⟩,
    statement, error, hstart, herror, hwith⟩
  refine ((parse_lenient "CREATE").2.2 known hknown).1 ?_
  intro statement hmem
  simpa using List.all_eq_true.1 hall statement (Array.mem_toList_iff.2 hmem)

end SqlSplit
