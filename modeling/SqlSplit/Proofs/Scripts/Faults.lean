import SqlSplit.Proofs.Scripts.Derivation
import SqlSplit.Proofs.Scripts.FirstError

/-!
# What a script is refused for

The words that open statements are asked for twice: a token is dispatched by its keyword, and the
table that it is dispatched to has a first step which asks for the keyword again.  That the two
agree is `Opener.feed_dispatched`.  So a statement never falls at its first token, and from then on
only statements of `CREATE` and `DROP` have a step left that could refuse anything.

Of the errors that recognizers over any table can run into, few are therefore left for a script,
whatever the tokenizer.  `ParseError.ArisesAt` says which they are and where they arise, and the
main statement, `arises_of_parse`, that there are no others.
-/

namespace SqlSplit

/-! ## Dispatching and the first step -/

/-- A token that is dispatched takes the first step of its table: the statement starts there, and
its type is settled unless it creates or drops something. -/
lemma Opener.feed_dispatched {mode : Mode} {token : Token} {opener : Opener}
    (h : dispatch mode token = .ok opener) :
    ((opener.recognizer mode).feed token).2 = .accepted ∧
      ((opener.recognizer mode).feed token).1.statement.start = token.start ∧
      ((opener.recognizer mode).feed token).1.current = 1 ∧
      (((opener.recognizer mode).feed token).1.statement.type? = none ↔
        opener = .create ∨ opener = .drop) := by
  rw [feed_open (ofToken?_of_dispatch h)]
  refine ⟨rfl, rfl, rfl, ?_⟩
  cases opener <;> simp [Draft.statement, Opener.stage, Stage.type?]

/-! ## Errors within a statement -/

section Fault

variable {s : Splitter} {mode : Mode} {token : Token} {error : ParseError}

/-- The splitter is within a statement that opens with `CREATE` or `DROP`. -/
def Splitter.IsWithinVerb (s : Splitter) : Prop :=
  ∃ r first rest verb, s.active? = some r ∧ r.statement.tokens.toList = first :: rest ∧
    first.Spells (ObjectVerb.keyword verb)

/-- The error is one that the splitter may run into at the token. -/
def ParseError.ArisesAt (s : Splitter) (token : Token) : ParseError → Prop
  | unrecognizedLeadingToken _ _ => s.active? = none ∧ token.isBlank = false
  | missingPredecessor step required _ _ =>
    step = 1 ∧ required = [.whitespace] ∧ s.IsWithinVerb
  | unexpectedToken step expected _ _ _ =>
    step = 1 ∧ expected = [Pattern.keyword .table, Pattern.keyword .database] ∧
      s.mode = .strict ∧ s.IsWithinVerb
  | alreadyTerminated _ => False

lemma Draft.awaiting_of_next {draft : Draft} (h : draft.next mode token = .error error) :
    ∃ verb spaced, draft.stage = .awaiting verb spaced ∧
      (error = .missingPredecessor 1 [.whitespace] token.value token.start ∨
        mode = .strict ∧
          error = .unexpectedToken 1 objectPatterns token.kind token.value token.start) := by
  have hnext := map_eq_error_iff.1 h
  cases hstage : draft.stage with
  | settled type =>
    rw [hstage] at hnext
    cases hnext
  | awaiting verb spaced =>
    refine ⟨verb, spaced, rfl, ?_⟩
    rw [hstage, Stage.next] at hnext
    split_ifs at hnext with hspace hspaced hstrict
    · exact .inl (Except.error.inj hnext).symm
    · exact .inr ⟨hstrict.1, (Except.error.inj hnext).symm⟩

lemma Splitter.Shows.isWithinVerb {length : Nat} {o : Outline} {draft : Draft} {verb : ObjectVerb}
    {spaced : Bool} (h : s.Shows mode length o) (ho : o.IsDerived mode)
    (hopen : o.open? = some draft) (hstage : draft.stage = .awaiting verb spaced) :
    s.IsWithinVerb := by
  have hsentence := ho.open? draft hopen
  rw [Draft.IsSentence, hstage] at hsentence
  have hopens := h.opens
  rw [hopen] at hopens
  cases hactive : s.active? with
  | none => simp [Opens, hactive] at hopens
  | some r =>
    rw [hactive] at hopens
    refine ⟨r, draft.first, draft.rest, verb, hactive, ?_, hsentence.1⟩
    rw [Recognizer.Follows.statement_eq hopens]
    rfl

lemma Splitter.Shows.arisesAt {length : Nat} {o : Outline} (h : s.Shows mode length o)
    (ho : o.IsDerived mode) (hfault : advance mode o.open? token = .error error) :
    error.ArisesAt s token := by
  cases hopen : o.open? with
  | none =>
    rw [hopen, advance] at hfault
    split_ifs at hfault with hblank
    have hdispatch := map_eq_error_iff.1 (map_eq_error_iff.1 hfault)
    have hclosed : s.active? = none := by
      have hopens := h.opens
      rw [hopen] at hopens
      cases hactive : s.active? with
      | none => rfl
      | some r => simp [Opens, hactive] at hopens
    unfold Opener.dispatch at hdispatch
    split at hdispatch
    · cases hdispatch
    · cases hdispatch
      exact ⟨hclosed, Bool.eq_false_iff.2 hblank⟩
  | some draft =>
    rw [hopen, advance] at hfault
    split_ifs at hfault with hkind
    -- Within a statement only the step that takes the object refuses a token.
    obtain ⟨verb, spaced, hstage, herror⟩ := Draft.awaiting_of_next (map_eq_error_iff.1 hfault)
    have hverb := h.isWithinVerb ho hopen hstage
    rcases herror with rfl | ⟨rfl, rfl⟩
    · exact ⟨rfl, rfl, hverb⟩
    · exact ⟨rfl, rfl, h.mode_eq, hverb⟩

end Fault

/-! ## Errors of a script -/

/-- A token that is dispatched is accepted by the recognizer that it is dispatched to, as the first
of its tokens: it starts the statement, takes the first step, and settles the type unless the
statement creates or drops something.  Hence a text, whatever the tokenizer, is refused at one of
its tokens and with an error that is about this token and of one of three kinds.  It is no blank
token and stands outside all statements, but opens none.  It lacks the white space that the second
step of a statement of `CREATE` or `DROP` asks for, or, in strict mode, is not the object that this
step asks for.  No token ever comes behind the end of its statement. -/
theorem arises_of_parse :
    (∀ (mode : Mode) (token : Token) (opener : Opener), Opener.dispatch mode token = .ok opener →
      ((opener.recognizer mode).feed token).2 = .accepted ∧
        ((opener.recognizer mode).feed token).1.statement.start = token.start ∧
        ((opener.recognizer mode).feed token).1.current = 1 ∧
        (((opener.recognizer mode).feed token).1.statement.type? = none ↔
          opener = .create ∨ opener = .drop)) ∧
    ∀ (parser : Parser) (error : ParseError), parser.parse = .error error →
      ∃ before token after s, parser.tokens = before ++ token :: after ∧
        before.foldlM Splitter.step (.start parser.mode parser.input.utf8ByteSize) = .ok s ∧
        s.mode = parser.mode ∧ s.step token = .error error ∧ error.Names token ∧
        error.ArisesAt s token := by
  refine ⟨fun mode token opener => Opener.feed_dispatched, ?_⟩
  intro parser error h
  rw [Parser.parse_eq_map] at h
  obtain ⟨before, token, after, a, htokens, hbefore, hfault⟩ :=
    exists_of_outlineFrom_error (map_eq_error_iff.1 h)
  have hstart := Splitter.shows_start parser.mode parser.input.utf8ByteSize
  have hrun := Splitter.foldlM_shows hstart before
  rw [hbefore] at hrun
  obtain ⟨s, hs, hshows⟩ := hrun
  have hderived : a.IsDerived parser.mode := isDerived_of_outlineFrom hbefore (by simp)
  have hstep := Splitter.step_shows hshows token
  rw [show (Outline.andThen ⟨[], none⟩ a).open? = a.open? from rfl, hfault] at hstep
  exact ⟨before, token, after, s, htokens, hs, hshows.mode_eq, hstep, advance_names hfault,
    hshows.arisesAt hderived hfault⟩

/-- A keyword in small letters is dispatched and accepted.  A string right behind it is refused, in
lenient mode as well. -/
theorem arises_of_parse_string :
    let create : Token := ⟨.keyword, "create", 1, 6⟩
    let parser : Parser :=
      { input := ";create'é'"
        mode := .lenient
        tokenizer := .scripted [⟨.whitespace, 1, none⟩, ⟨.keyword, 6, none⟩, ⟨.string, 3, none⟩] }
    ((Opener.create.recognizer .lenient).feed create).2 = .accepted ∧
      ∃ before token after, ∃ s : Splitter, parser.tokens = before ++ token :: after ∧
        s.step token = .error (.missingPredecessor 1 [.whitespace] "'é'" 7) ∧
        s.IsWithinVerb := by
  intro create parser
  have hdispatch : Opener.dispatch .lenient create = .ok .create := by decide +kernel
  have herror : parser.parse = .error (.missingPredecessor 1 [.whitespace] "'é'" 7) := by
    decide +kernel
  refine ⟨(arises_of_parse.1 _ _ _ hdispatch).1, ?_⟩
  obtain ⟨before, token, after, s, htokens, -, -, hstep, -, -, -, hverb⟩ :=
    arises_of_parse.2 _ _ herror
  exact ⟨before, token, after, s, htokens, hstep, hverb⟩

end SqlSplit
