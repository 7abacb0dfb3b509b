import Mathlib.Tactic.SplitIfs
import SqlSplit.Proofs.Scripts.Outline

/-!
# The grammar of scripts

Which lists of tokens are scripts is said by a grammar with two rules:

  script   = blank* (sentence semicolon blank*)* [sentence]
  sentence = word any*
           | verb space*
           | verb space+ object any*
           | unknown any*

where no `any` is a semicolon, the third form asks for a table or a database in strict mode and for
anything but white space in lenient mode, and the fourth is for lenient mode only.
`Sentence.Derives` states the second rule together with the type that each form settles, and a
`Derivation` is a derivation by the first.

The main statement is `parse_eq_ok_iff`: whatever the tokenizer, reading a text gives a script
exactly if the tokens of the text have a derivation, and then the script is the one that the
derivation spells out.  `Draft.IsSentence` is the invariant that carries the one direction; the
other runs the outline over a derivation, form by form.
-/

namespace SqlSplit

/-! ## The grammar -/

/-- The token is the given keyword, in any mix of cases. -/
def Token.Spells (token : Token) (word : Keyword) : Prop :=
  token.kind = .keyword ∧ Text.eqIgnoringCase word.spelling token.value = true

instance (token : Token) (word : Keyword) : Decidable (token.Spells word) :=
  inferInstanceAs (Decidable (_ ∧ _))

/-- The type of the statements that open with a keyword, if the keyword settles it. -/
def Keyword.type? : Keyword → Option StatementType
  | select => some .select
  | insert => some .insert
  | update => some .update
  | delete => some .delete
  | truncate => some .truncate
  | create | drop | table | database => none

/-- The keyword of a verb. -/
def ObjectVerb.keyword : ObjectVerb → Keyword
  | create => .create
  | drop => .drop

/-- The type of the statements that create or drop what a keyword names. -/
def ObjectVerb.typeWith? : ObjectVerb → Keyword → Option StatementType
  | create, .table => some .createTable
  | create, .database => some .createDatabase
  | drop, .table => some .dropTable
  | drop, .database => some .dropDatabase
  | _, _ => none

/-- A statement without its semicolon, and the type that it is given. -/
structure Sentence where
  first : Token
  rest : List Token
  type? : Option StatementType
  deriving DecidableEq, Repr

/-- No token is a semicolon. -/
def NoSemicolon (tokens : List Token) : Prop :=
  ∀ token ∈ tokens, token.kind ≠ .semicolon

/-- All tokens are white space. -/
def AllSpace (tokens : List Token) : Prop :=
  ∀ token ∈ tokens, token.kind = .whitespace

/-- All tokens are white space or comments. -/
def AllBlank (tokens : List Token) : Prop :=
  ∀ token ∈ tokens, token.isBlank = true

instance (tokens : List Token) : Decidable (AllBlank tokens) :=
  inferInstanceAs (Decidable (∀ token ∈ tokens, token.isBlank = true))

namespace Sentence

/-- The tokens, in order. -/
def tokens (sentence : Sentence) : List Token :=
  sentence.first :: sentence.rest

/-- The rule for sentences. -/
inductive Derives (mode : Mode) : Sentence → Prop
  | word {first : Token} {rest : List Token} {word : Keyword} {type : StatementType}
      (hfirst : first.Spells word) (htype : word.type? = some type) (hrest : NoSemicolon rest) :
      Derives mode ⟨first, rest, some type⟩
  | bare {first : Token} {spaces : List Token} {verb : ObjectVerb}
      (hfirst : first.Spells verb.keyword) (hspaces : AllSpace spaces) :
      Derives mode ⟨first, spaces, none⟩
  | object {first object : Token} {spaces rest : List Token} {verb : ObjectVerb} {word : Keyword}
      {type : StatementType} (hfirst : first.Spells verb.keyword) (hne : spaces ≠ [])
      (hspaces : AllSpace spaces) (hobject : object.Spells word)
      (htype : verb.typeWith? word = some type) (hrest : NoSemicolon rest) :
      Derives mode ⟨first, spaces ++ object :: rest, some type⟩
  | anyObject {first object : Token} {spaces rest : List Token} {verb : ObjectVerb}
      (hmode : mode = .lenient) (hfirst : first.Spells verb.keyword) (hne : spaces ≠ [])
      (hspaces : AllSpace spaces) (hobject : object.kind ≠ .whitespace)
      (hrest : NoSemicolon (object :: rest)) :
      Derives mode ⟨first, spaces ++ object :: rest, some (verb.typeOn object.value)⟩
  | unknown {first : Token} {rest : List Token} (hmode : mode = .lenient)
      (hfirst : first.kind = .unknown) (hrest : NoSemicolon rest) :
      Derives mode ⟨first, rest, some .unknown⟩

/-- The statement that the sentence makes with its semicolon. -/
def close (sentence : Sentence) (semicolon : Token) : Statement :=
  { type? := sentence.type?, start := sentence.first.start, last := semicolon.last
    terminated := true, tokens := (sentence.tokens ++ [semicolon]).toArray }

/-- The statement that the sentence makes at the end of the script. -/
def closeAt (sentence : Sentence) (last : Nat) : Statement :=
  { type? := sentence.type?, start := sentence.first.start, last
    tokens := sentence.tokens.toArray }

end Sentence

/-- A sentence, its semicolon and the blank tokens behind it. -/
structure Clause where
  sentence : Sentence
  semicolon : Token
  blanks : List Token
  deriving DecidableEq, Repr

/-- The tokens of a clause, in order. -/
def Clause.tokens (clause : Clause) : List Token :=
  clause.sentence.tokens ++ clause.semicolon :: clause.blanks

/-- A derivation of a script. -/
structure Derivation where
  leading : List Token
  clauses : List Clause
  open? : Option Sentence
  deriving DecidableEq, Repr

namespace Derivation

/-- The tokens that are derived, in order. -/
def tokens (d : Derivation) : List Token :=
  d.leading ++ d.clauses.flatMap Clause.tokens ++ (d.open?.map Sentence.tokens).getD []

/-- Every part of the derivation keeps to its rule. -/
structure IsValid (mode : Mode) (d : Derivation) : Prop where
  leading : AllBlank d.leading
  sentence : ∀ clause ∈ d.clauses, clause.sentence.Derives mode
  semicolon : ∀ clause ∈ d.clauses, clause.semicolon.kind = .semicolon
  blanks : ∀ clause ∈ d.clauses, AllBlank clause.blanks
  open? : ∀ sentence, d.open? = some sentence → sentence.Derives mode

/-- The tokens outside all sentences, in order. -/
def blanks (d : Derivation) : List Token :=
  d.leading ++ d.clauses.flatMap Clause.blanks

/-- The statements, in order, one for each sentence. -/
def statements (d : Derivation) (last : Nat) : List Statement :=
  (d.clauses.map fun clause => clause.sentence.close clause.semicolon) ++
    (d.open?.map fun sentence => sentence.closeAt last).toList

/-- The script over a text of the given number of bytes. -/
def script (d : Derivation) (length : Nat) : Script :=
  { last := length - 1, statements := (d.statements (length - 1)).toArray
    blanks := d.blanks.toArray }

end Derivation

/-! ## Every outline is derived -/

lemma Token.Spells.ofWord?_eq {token : Token} {word : Keyword} (h : token.Spells word) :
    Keyword.ofWord? token.value = some word :=
  Keyword.ofWord?_eq_some_iff.2 h.2

lemma Token.spells_of_ofWord? {token : Token} {word : Keyword} (hkind : token.kind = .keyword)
    (h : Keyword.ofWord? token.value = some word) : token.Spells word :=
  ⟨hkind, Keyword.ofWord?_eq_some_iff.1 h⟩

lemma ObjectVerb.typeOn_eq {verb : ObjectVerb} {token : Token} {word : Keyword}
    {type : StatementType} (hobject : token.Spells word) (htype : verb.typeWith? word = some type) :
    verb.typeOn token.value = type := by
  cases verb <;> cases word <;> cases htype <;> simp [ObjectVerb.typeOn, hobject.ofWord?_eq]

/-- The objects are the words that settle the type of a verb's statement. -/
lemma ObjectVerb.isObject_iff (verb : ObjectVerb) {token : Token} :
    token.isObject = true ↔
      ∃ word type, token.Spells word ∧ verb.typeWith? word = some type := by
  have hspells : token.isObject = true ↔ token.Spells .table ∨ token.Spells .database := by
    simp [Token.isObject, objectPatterns, Pattern.isMatch, Pattern.keyword, Token.Spells]
  rw [hspells]
  constructor
  · rintro (h | h)
    · cases verb <;> exact ⟨.table, _, h, rfl⟩
    · cases verb <;> exact ⟨.database, _, h, rfl⟩
  · rintro ⟨word, type, h, htype⟩
    cases word with
    | table => exact .inl h
    | database => exact .inr h
    | _ => cases verb <;> cases htype

lemma noSemicolon_append {xs ys : List Token} :
    NoSemicolon (xs ++ ys) ↔ NoSemicolon xs ∧ NoSemicolon ys :=
  List.forall_mem_append

lemma AllSpace.noSemicolon {tokens : List Token} (h : AllSpace tokens) : NoSemicolon tokens :=
  fun token hmem => by simp [h token hmem]

lemma Sentence.Derives.first_not_blank {mode : Mode} {sentence : Sentence}
    (h : sentence.Derives mode) : sentence.first.isBlank = false := by
  have hkind : sentence.first.kind = .keyword ∨ sentence.first.kind = .unknown := by
    cases h with
    | word hfirst htype hrest => exact .inl hfirst.1
    | bare hfirst hspaces => exact .inl hfirst.1
    | object hfirst hne hspaces hobject htype hrest => exact .inl hfirst.1
    | anyObject hmode hfirst hne hspaces hobject hrest => exact .inl hfirst.1
    | unknown hmode hfirst hrest => exact .inr hfirst
  rcases hkind with hkind | hkind <;> simp [Token.isBlank, hkind, TokenKind.isBlank]

lemma Sentence.Derives.noSemicolon {mode : Mode} {sentence : Sentence}
    (h : sentence.Derives mode) : NoSemicolon sentence.tokens := by
  have hword : ∀ {token : Token} {word : Keyword}, token.Spells word → token.kind ≠ .semicolon := by
    intro token word hspells
    simp [hspells.1]
  refine List.forall_mem_cons.2 ?_
  cases h with
  | word hfirst htype hrest => exact ⟨hword hfirst, hrest⟩
  | bare hfirst hspaces => exact ⟨hword hfirst, hspaces.noSemicolon⟩
  | object hfirst hne hspaces hobject htype hrest =>
    refine ⟨hword hfirst, noSemicolon_append.2 ⟨hspaces.noSemicolon, ?_⟩⟩
    exact List.forall_mem_cons.2 ⟨hword hobject, hrest⟩
  | anyObject hmode hfirst hne hspaces hobject hrest =>
    exact ⟨hword hfirst, noSemicolon_append.2 ⟨hspaces.noSemicolon, hrest⟩⟩
  | unknown hmode hfirst hrest => exact ⟨by simp [hfirst], hrest⟩

/-- A sentence of settled type goes on with any token but a semicolon. -/
lemma Sentence.Derives.concat {mode : Mode} {first : Token} {rest : List Token}
    {type : StatementType} (h : Derives mode ⟨first, rest, some type⟩) {token : Token}
    (hkind : token.kind ≠ .semicolon) : Derives mode ⟨first, rest ++ [token], some type⟩ := by
  have hsingle : NoSemicolon [token] := by simpa [NoSemicolon] using hkind
  cases h with
  | word hfirst htype hrest =>
    exact .word hfirst htype (noSemicolon_append.2 ⟨hrest, hsingle⟩)
  | object hfirst hne hspaces hobject htype hrest =>
    rw [List.append_assoc]
    exact .object hfirst hne hspaces hobject htype (noSemicolon_append.2 ⟨hrest, hsingle⟩)
  | anyObject hmode hfirst hne hspaces hobject hrest =>
    rw [List.append_assoc]
    exact .anyObject hmode hfirst hne hspaces hobject (noSemicolon_append.2 ⟨hrest, hsingle⟩)
  | unknown hmode hfirst hrest =>
    exact .unknown hmode hfirst (noSemicolon_append.2 ⟨hrest, hsingle⟩)

namespace Draft

/-- The sentence of a draft that ends as it stands. -/
def sentence (draft : Draft) : Sentence :=
  ⟨draft.first, draft.rest, draft.stage.type?⟩

/-- The tokens of the draft are those of a sentence that has come as far as its stage says. -/
def IsSentence (mode : Mode) (draft : Draft) : Prop :=
  match draft.stage with
  | .settled type => Sentence.Derives mode ⟨draft.first, draft.rest, some type⟩
  | .awaiting verb spaced =>
    draft.first.Spells verb.keyword ∧ AllSpace draft.rest ∧ (spaced = true → draft.rest ≠ [])

variable {mode : Mode} {draft draft' : Draft} {token : Token}

lemma IsSentence.derives (h : draft.IsSentence mode) : draft.sentence.Derives mode := by
  unfold IsSentence at h
  unfold sentence
  cases hstage : draft.stage with
  | settled type =>
    rw [hstage] at h
    exact h
  | awaiting verb spaced =>
    rw [hstage] at h
    exact .bare h.1 h.2.1

lemma opening_eq_ok_iff :
    opening mode token = .ok draft ↔
      ∃ opener, Opener.ofToken? mode token = some opener ∧ draft = ⟨token, [], opener.stage⟩ := by
  rw [opening, map_eq_ok_iff]
  constructor
  · rintro ⟨opener, hdispatch, rfl⟩
    exact ⟨opener, Opener.ofToken?_of_dispatch hdispatch, rfl⟩
  · rintro ⟨opener, hopener, rfl⟩
    exact ⟨opener, by rw [Opener.dispatch, hopener], rfl⟩

lemma isSentence_of_opening (h : opening mode token = .ok draft) : draft.IsSentence mode := by
  have hnil : NoSemicolon [] := by simp [NoSemicolon]
  have hspace : AllSpace [] := by simp [AllSpace]
  obtain ⟨opener, hopener, rfl⟩ := opening_eq_ok_iff.1 h
  rcases Opener.ofToken?_eq_some hopener with ⟨hkind, word, hword, hof⟩ | ⟨hkind, rfl, rfl⟩
  · have hspells := Token.spells_of_ofWord? hkind hword
    cases word with
    | create | drop =>
      cases hof
      exact ⟨hspells, hspace, by simp⟩
    | table | database => cases hof
    | _ =>
      cases hof
      exact .word hspells rfl hnil
  · exact .unknown rfl hkind hnil

lemma IsSentence.next (h : draft.IsSentence mode) (hkind : token.kind ≠ .semicolon)
    (hnext : draft.next mode token = .ok draft') : draft'.IsSentence mode := by
  obtain ⟨stage, hstage', rfl⟩ := map_eq_ok_iff.1 hnext
  unfold IsSentence at h ⊢
  cases hstage : draft.stage with
  | settled type =>
    rw [hstage] at h hstage'
    cases hstage'
    exact h.concat hkind
  | awaiting verb spaced =>
    rw [hstage] at h hstage'
    obtain ⟨hfirst, hspaces, hne⟩ := h
    rw [Stage.next] at hstage'
    split_ifs at hstage' with hspace hspaced hstrict
    · cases hstage'
      refine ⟨hfirst, ?_, by simp⟩
      exact List.forall_mem_append.2 ⟨hspaces, by simpa using hspace⟩
    · cases hstage'
      have hsingle : NoSemicolon [token] := by simpa [NoSemicolon] using hkind
      have hsome : draft.rest ≠ [] := hne (by simpa using hspaced)
      -- What is no object is let through in lenient mode only.
      by_cases hobject : token.isObject = true
      · obtain ⟨word, type, hspells, htype⟩ := verb.isObject_iff.1 hobject
        rw [ObjectVerb.typeOn_eq hspells htype]
        exact .object hfirst hsome hspaces hspells htype (by simp [NoSemicolon])
      · have hmode : mode = .lenient := by
          cases mode with
          | lenient => rfl
          | strict => exact absurd ⟨rfl, Bool.eq_false_iff.2 hobject⟩ hstrict
        exact .anyObject hmode hfirst hsome hspaces hspace hsingle

end Draft

/-- The part is a blank token, or a sentence with its semicolon. -/
def Part.IsDerived (mode : Mode) : Part → Prop
  | blank token => token.isBlank = true
  | closed draft semicolon => draft.IsSentence mode ∧ semicolon.kind = .semicolon

/-- The parts are derived, and so is the open statement. -/
structure Outline.IsDerived (mode : Mode) (outline : Outline) : Prop where
  parts : ∀ part ∈ outline.parts, part.IsDerived mode
  open? : ∀ draft, outline.open? = some draft → draft.IsSentence mode

lemma Advances.isDerived {mode : Mode} {open? : Option Draft} {token : Token} {a : Outline}
    (h : Advances mode open? token a)
    (hopen : ∀ draft, open? = some draft → draft.IsSentence mode) : a.IsDerived mode := by
  cases h with
  | blank hblank => exact ⟨by simpa [Part.IsDerived] using hblank, by simp⟩
  | opens hblank hopening =>
    exact ⟨by simp, by simpa using Draft.isSentence_of_opening hopening⟩
  | closes hkind =>
    exact ⟨by simpa [Part.IsDerived] using ⟨hopen _ rfl, hkind⟩, by simp⟩
  | grows hkind hnext =>
    exact ⟨by simp, by simpa using (hopen _ rfl).next hkind hnext⟩

lemma isDerived_of_outlineFrom {mode : Mode} {open? : Option Draft} {tokens : List Token}
    {o : Outline} (h : outlineFrom mode open? tokens = .ok o)
    (hopen : ∀ draft, open? = some draft → draft.IsSentence mode) : o.IsDerived mode := by
  induction tokens generalizing open? o with
  | nil =>
    cases h
    exact ⟨by simp, hopen⟩
  | cons token tokens ih =>
    obtain ⟨a, b, hadvance, hrest, rfl⟩ := outlineFrom_cons_eq_ok_iff.1 h
    have ha := hadvance.isDerived hopen
    have hb := ih hrest ha.open?
    exact ⟨List.forall_mem_append.2 ⟨ha.parts, hb.parts⟩, hb.open?⟩

/-- What a text reads as is written down from an outline that is derived. -/
lemma Parser.exists_outline {parser : Parser} {script : Script} (h : parser.parse = .ok script) :
    ∃ o : Outline, o.IsDerived parser.mode ∧ o.tokens = parser.tokens ∧
      o.script parser.input.utf8ByteSize = script := by
  rw [Parser.parse_eq_map, map_eq_ok_iff] at h
  obtain ⟨o, ho, hscript⟩ := h
  exact ⟨o, isDerived_of_outlineFrom ho (by simp), tokens_eq_of_outlineFrom ho, hscript⟩

/-! ## From an outline to a derivation -/

namespace Derivation

/-- The derivation that an outline shows. -/
def ofParts (open? : Option Draft) : List Part → Derivation
  | [] => ⟨[], [], open?.map Draft.sentence⟩
  | .blank token :: parts =>
    let d := ofParts open? parts
    ⟨token :: d.leading, d.clauses, d.open?⟩
  | .closed draft semicolon :: parts =>
    let d := ofParts open? parts
    ⟨[], ⟨draft.sentence, semicolon, d.leading⟩ :: d.clauses, d.open?⟩

lemma isValid_ofParts {mode : Mode} {open? : Option Draft}
    (hopen : ∀ draft, open? = some draft → draft.IsSentence mode) {parts : List Part}
    (h : ∀ part ∈ parts, part.IsDerived mode) : (ofParts open? parts).IsValid mode := by
  induction parts with
  | nil =>
    refine ⟨by simp [ofParts, AllBlank], by simp [ofParts], by simp [ofParts], by simp [ofParts],
      ?_⟩
    intro sentence hsentence
    obtain ⟨draft, hdraft, rfl⟩ := Option.map_eq_some_iff.1 hsentence
    exact (hopen draft hdraft).derives
  | cons part parts ih =>
    have hd := ih fun p hp => h p (List.mem_cons_of_mem _ hp)
    have hpart := h part List.mem_cons_self
    cases part with
    | blank token =>
      exact ⟨List.forall_mem_cons.2 ⟨hpart, hd.leading⟩, hd.sentence, hd.semicolon, hd.blanks,
        hd.open?⟩
    | closed draft semicolon =>
      exact ⟨by simp [ofParts, AllBlank], List.forall_mem_cons.2 ⟨hpart.1.derives, hd.sentence⟩,
        List.forall_mem_cons.2 ⟨hpart.2, hd.semicolon⟩,
        List.forall_mem_cons.2 ⟨hd.leading, hd.blanks⟩, hd.open?⟩

lemma tokens_ofParts (open? : Option Draft) (parts : List Part) :
    (ofParts open? parts).tokens = (Outline.mk parts open?).tokens := by
  induction parts with
  | nil => cases open? <;> rfl
  | cons part parts ih =>
    cases part <;>
      simp_all [Outline.tokens, tokens, ofParts, Part.tokens, Clause.tokens, Draft.sentence,
        Sentence.tokens, Draft.tokens]

lemma blanks_ofParts (open? : Option Draft) (parts : List Part) :
    (ofParts open? parts).blanks = (Outline.mk parts open?).blanks := by
  induction parts with
  | nil => rfl
  | cons part parts ih =>
    cases part <;> simp_all [Outline.blanks, blanks, ofParts, Part.blank?, List.filterMap_cons]

lemma statements_ofParts (open? : Option Draft) (parts : List Part) (last : Nat) :
    (ofParts open? parts).statements last = (Outline.mk parts open?).statements last := by
  induction parts with
  | nil => cases open? <;> rfl
  | cons part parts ih =>
    cases part with
    | blank token => exact ih
    | closed draft semicolon =>
      have hclose : draft.sentence.close semicolon = draft.close semicolon := rfl
      simp only [statements, ofParts, List.map_cons, List.cons_append, Outline.statements,
        Outline.closed, Part.statement?, List.filterMap_cons, hclose] at ih ⊢
      rw [ih]

lemma script_ofParts (o : Outline) (length : Nat) :
    (ofParts o.open? o.parts).script length = o.script length := by
  rw [script, Outline.script, blanks_ofParts, statements_ofParts]

end Derivation

/-! ## From a derivation to an outline -/

lemma outlineFrom_blanks {mode : Mode} {tokens : List Token} (h : AllBlank tokens) :
    outlineFrom mode none tokens = .ok ⟨tokens.map Part.blank, none⟩ := by
  induction tokens with
  | nil => rfl
  | cons token tokens ih =>
    obtain ⟨hblank, hrest⟩ := List.forall_mem_cons.1 h
    exact outlineFrom_cons_eq_ok_iff.2 ⟨_, _, .blank hblank, ih hrest, rfl⟩

/-- A run over anything but semicolons, once the type is settled. -/
lemma outlineFrom_settled {mode : Mode} {first : Token} {rest tokens : List Token}
    {type : StatementType} (h : NoSemicolon tokens) :
    outlineFrom mode (some ⟨first, rest, .settled type⟩) tokens =
      .ok ⟨[], some ⟨first, rest ++ tokens, .settled type⟩⟩ := by
  induction tokens generalizing rest with
  | nil => simp
  | cons token tokens ih =>
    obtain ⟨hkind, hrest⟩ := List.forall_mem_cons.1 h
    refine outlineFrom_cons_eq_ok_iff.2
      ⟨_, _, .grows hkind (Draft.next_of_settled rfl token), ih hrest, ?_⟩
    simp [Outline.andThen]

/-- A run over white space, while the object is awaited. -/
lemma outlineFrom_spaces {mode : Mode} {first : Token} {rest tokens : List Token}
    {verb : ObjectVerb} {spaced : Bool} (h : AllSpace tokens) :
    outlineFrom mode (some ⟨first, rest, .awaiting verb spaced⟩) tokens =
      .ok ⟨[], some ⟨first, rest ++ tokens, .awaiting verb (spaced || !tokens.isEmpty)⟩⟩ := by
  induction tokens generalizing rest spaced with
  | nil => simp
  | cons token tokens ih =>
    obtain ⟨hspace, hrest⟩ := List.forall_mem_cons.1 h
    have hkind : token.kind ≠ .semicolon := by simp [hspace]
    have hnext : (Draft.mk first rest (.awaiting verb spaced)).next mode token =
        .ok ⟨first, rest ++ [token], .awaiting verb true⟩ := by
      rw [Draft.next, Stage.next_space hspace]
      rfl
    refine outlineFrom_cons_eq_ok_iff.2 ⟨_, _, .grows hkind hnext, ih hrest, ?_⟩
    simp [Outline.andThen]

/-- A run over white space and an object settles the type of a verb's statement. -/
lemma outlineFrom_object {mode : Mode} {first object : Token} {spaces rest : List Token}
    {verb : ObjectVerb} (hne : spaces ≠ []) (hspaces : AllSpace spaces)
    (hobject : object.kind ≠ .whitespace) (hmode : mode = .strict → object.isObject = true)
    (hrest : NoSemicolon (object :: rest)) :
    outlineFrom mode (some ⟨first, [], .awaiting verb false⟩) (spaces ++ object :: rest) =
      .ok ⟨[], some ⟨first, spaces ++ object :: rest, .settled (verb.typeOn object.value)⟩⟩ := by
  obtain ⟨hkind, hrest⟩ := List.forall_mem_cons.1 hrest
  have hspaced : (!spaces.isEmpty) = true := by simpa using hne
  have hnext : (Draft.mk first spaces (.awaiting verb true)).next mode object =
      .ok ⟨first, spaces ++ [object], .settled (verb.typeOn object.value)⟩ := by
    have hstrict : ¬ (mode = .strict ∧ object.isObject = false) := by
      rintro ⟨h, hfalse⟩
      rw [hmode h] at hfalse
      cases hfalse
    simp [Draft.next, Stage.next, hobject, hstrict, Except.map]
  rw [outlineFrom_append, outlineFrom_spaces hspaces]
  simp only [List.nil_append, hspaced, Bool.or_true]
  have hrun : outlineFrom mode (some ⟨first, spaces, .awaiting verb true⟩) (object :: rest) =
      .ok ⟨[], some ⟨first, spaces ++ object :: rest, .settled (verb.typeOn object.value)⟩⟩ := by
    refine outlineFrom_cons_eq_ok_iff.2
      ⟨_, _, .grows hkind hnext, outlineFrom_settled hrest, ?_⟩
    simp [Outline.andThen]
  rw [hrun]
  rfl

lemma Token.Spells.opening {token : Token} {word : Keyword} {opener : Opener}
    (h : token.Spells word) (hword : Opener.ofKeyword? word = some opener) (mode : Mode) :
    token.isBlank = false ∧ Draft.opening mode token = .ok ⟨token, [], opener.stage⟩ := by
  refine ⟨by simp [Token.isBlank, h.1, TokenKind.isBlank], ?_⟩
  exact Draft.opening_eq_ok_iff.2
    ⟨opener, by simp [Opener.ofToken?, h.1, h.ofWord?_eq, hword], rfl⟩

lemma Token.Spells.opening_verb {token : Token} {verb : ObjectVerb}
    (h : token.Spells verb.keyword) (mode : Mode) :
    token.isBlank = false ∧
      Draft.opening mode token = .ok ⟨token, [], .awaiting verb false⟩ := by
  cases verb with
  | create =>
    have hword : Opener.ofKeyword? .create = some .create := rfl
    exact h.opening hword mode
  | drop =>
    have hword : Opener.ofKeyword? .drop = some .drop := rfl
    exact h.opening hword mode

lemma outlineFrom_opens {mode : Mode} {first : Token} {tokens : List Token} {draft draft' : Draft}
    (h : first.isBlank = false ∧ Draft.opening mode first = .ok draft)
    (hrun : outlineFrom mode (some draft) tokens = .ok ⟨[], some draft'⟩) :
    outlineFrom mode none (first :: tokens) = .ok ⟨[], some draft'⟩ :=
  outlineFrom_cons_eq_ok_iff.2 ⟨_, _, .opens h.1 h.2, hrun, rfl⟩

/-- A run over a sentence leaves its statement open, with the type of the sentence. -/
lemma exists_of_derives {mode : Mode} {sentence : Sentence} (h : sentence.Derives mode) :
    ∃ draft : Draft, draft.sentence = sentence ∧
      outlineFrom mode none sentence.tokens = .ok ⟨[], some draft⟩ := by
  cases h with
  | @word first rest word type hfirst htype hrest =>
    have hopening : first.isBlank = false ∧
        Draft.opening mode first = .ok ⟨first, [], .settled type⟩ := by
      cases word <;> cases htype <;> exact hfirst.opening rfl mode
    exact ⟨⟨first, rest, .settled type⟩, rfl,
      outlineFrom_opens hopening (outlineFrom_settled hrest)⟩
  | @bare first spaces verb hfirst hspaces =>
    exact ⟨⟨first, spaces, .awaiting verb (!spaces.isEmpty)⟩, rfl,
      outlineFrom_opens (hfirst.opening_verb mode) (outlineFrom_spaces hspaces)⟩
  | @object first object spaces rest verb word type hfirst hne hspaces hobject htype hrest =>
    have hsemicolon : object.kind ≠ .semicolon := by simp [hobject.1]
    have hrun : outlineFrom mode (some ⟨first, [], .awaiting verb false⟩)
        (spaces ++ object :: rest) = _ := outlineFrom_object hne hspaces
      (by simp [hobject.1]) (fun _ => verb.isObject_iff.2 ⟨word, type, hobject, htype⟩)
      (List.forall_mem_cons.2 ⟨hsemicolon, hrest⟩)
    rw [ObjectVerb.typeOn_eq hobject htype] at hrun
    exact ⟨_, rfl, outlineFrom_opens (hfirst.opening_verb mode) hrun⟩
  | @anyObject first object spaces rest verb hmode hfirst hne hspaces hobject hrest =>
    have hrun : outlineFrom mode (some ⟨first, [], .awaiting verb false⟩)
        (spaces ++ object :: rest) = _ := outlineFrom_object hne hspaces
      hobject (by simp [hmode]) hrest
    exact ⟨_, rfl, outlineFrom_opens (hfirst.opening_verb mode) hrun⟩
  | @unknown first rest hmode hfirst hrest =>
    have hblank : first.isBlank = false := by simp [Token.isBlank, hfirst, TokenKind.isBlank]
    have hopening : Draft.opening mode first = .ok ⟨first, [], .settled .unknown⟩ :=
      Draft.opening_eq_ok_iff.2 ⟨.unknown, by simp [Opener.ofToken?, hfirst, hmode], rfl⟩
    exact ⟨⟨first, rest, .settled .unknown⟩, rfl,
      outlineFrom_opens ⟨hblank, hopening⟩ (outlineFrom_settled hrest)⟩

namespace Derivation

lemma ofParts_blanks_append (open? : Option Draft) (blanks : List Token) (parts : List Part) :
    ofParts open? (blanks.map Part.blank ++ parts) =
      ⟨blanks ++ (ofParts open? parts).leading, (ofParts open? parts).clauses,
        (ofParts open? parts).open?⟩ := by
  induction blanks with
  | nil => rfl
  | cons token blanks ih =>
    rw [List.map_cons, List.cons_append, ofParts, ih]
    rfl

/-- A run over clauses and an open sentence finds them again. -/
lemma exists_of_clauses {mode : Mode} {clauses : List Clause} {open? : Option Sentence}
    (h : IsValid mode ⟨[], clauses, open?⟩) :
    ∃ o, outlineFrom mode none (tokens ⟨[], clauses, open?⟩) = .ok o ∧
      ofParts o.open? o.parts = ⟨[], clauses, open?⟩ := by
  induction clauses with
  | nil =>
    cases open? with
    | none => exact ⟨⟨[], none⟩, rfl, rfl⟩
    | some sentence =>
      obtain ⟨draft, hdraft, hrun⟩ := exists_of_derives (h.open? sentence rfl)
      exact ⟨⟨[], some draft⟩, hrun, by simp [ofParts, hdraft]⟩
  | cons clause clauses ih =>
    have htail : IsValid mode ⟨[], clauses, open?⟩ :=
      ⟨h.leading, fun c hc => h.sentence c (List.mem_cons_of_mem _ hc),
        fun c hc => h.semicolon c (List.mem_cons_of_mem _ hc),
        fun c hc => h.blanks c (List.mem_cons_of_mem _ hc), h.open?⟩
    obtain ⟨o, hrun, ho⟩ := ih htail
    obtain ⟨draft, hdraft, hsentence⟩ := exists_of_derives (h.sentence clause List.mem_cons_self)
    have hclose : Advances mode (some draft) clause.semicolon _ := .closes
      (h.semicolon clause List.mem_cons_self)
    have hblanks : outlineFrom mode none clause.blanks = _ :=
      outlineFrom_blanks (h.blanks clause List.mem_cons_self)
    have hsplit : tokens ⟨[], clause :: clauses, open?⟩ =
        clause.sentence.tokens ++ clause.semicolon ::
          (clause.blanks ++ tokens ⟨[], clauses, open?⟩) := by
      simp [tokens, Clause.tokens]
    have hbehind : outlineFrom mode none (clause.blanks ++ tokens ⟨[], clauses, open?⟩) =
        .ok ⟨clause.blanks.map Part.blank ++ o.parts, o.open?⟩ := by
      rw [outlineFrom_append, hblanks]
      simp [hrun, Except.map, Outline.andThen]
    refine ⟨⟨.closed draft clause.semicolon :: (clause.blanks.map Part.blank ++ o.parts), o.open?⟩,
      ?_, ?_⟩
    · rw [hsplit, outlineFrom_append, hsentence]
      simp only [outlineFrom_cons_eq_ok_iff.2 ⟨_, _, hclose, hbehind, rfl⟩]
      simp [Except.map, Outline.andThen]
    · rw [ofParts, ofParts_blanks_append, ho, hdraft]
      simp

lemma exists_of_isValid {mode : Mode} {d : Derivation} (h : d.IsValid mode) :
    ∃ o, outline mode d.tokens = .ok o ∧ ofParts o.open? o.parts = d := by
  have htail : IsValid mode ⟨[], d.clauses, d.open?⟩ :=
    ⟨by simp [AllBlank], h.sentence, h.semicolon, h.blanks, h.open?⟩
  obtain ⟨o, hrun, ho⟩ := exists_of_clauses htail
  have hsplit : d.tokens = d.leading ++ tokens ⟨[], d.clauses, d.open?⟩ := by
    simp [tokens]
  refine ⟨⟨d.leading.map Part.blank ++ o.parts, o.open?⟩, ?_, ?_⟩
  · rw [outline, hsplit, outlineFrom_append, outlineFrom_blanks h.leading]
    simp [hrun, Except.map, Outline.andThen]
  · rw [ofParts_blanks_append, ho]
    simp

end Derivation

/-! ## Reading is deriving -/

/-- Reading a text with any tokenizer gives a script exactly if the tokens are derived by the
grammar, and the script is then the one that the derivation spells out: one statement for each
sentence, with its tokens, its type and its semicolon. -/
theorem Parser.parse_eq_ok_iff (parser : Parser) (script : Script) :
    parser.parse = .ok script ↔
      ∃ d : Derivation, d.IsValid parser.mode ∧ d.tokens = parser.tokens ∧
        d.script parser.input.utf8ByteSize = script := by
  constructor
  · intro h
    obtain ⟨o, hderived, htokens, rfl⟩ := Parser.exists_outline h
    refine ⟨.ofParts o.open? o.parts, Derivation.isValid_ofParts hderived.open? hderived.parts, ?_,
      Derivation.script_ofParts o _⟩
    rw [Derivation.tokens_ofParts]
    exact htokens
  · rintro ⟨d, hvalid, htokens, rfl⟩
    obtain ⟨o, ho, hd⟩ := Derivation.exists_of_isValid hvalid
    rw [htokens] at ho
    rw [Parser.parse_eq_map, ho, ← hd, Derivation.script_ofParts]
    rfl

end SqlSplit
