import SqlSplit.Trace
import SqlSplit.Proofs.Scripts.FirstError

/-!
# The log as an account of a script

The log of a run can be told from the script alone: statement by statement, it names what opens the
statement, then each of its tokens with the number of steps left behind, and how the statement ends.

`Statement.IsLoggedAs` is this account.  `Recognizer.Follows.entries_cons` is the step of the proof:
what a recognizer logs for a token is the first part of what is to be told from its stage on.
`Splitter.exists_logAll` carries it through a run, and `events_of_fault` is about the runs that end
in an error.  `events_account` puts the two together.
-/

namespace SqlSplit

/-! ## The account of a statement -/

/-- The entry for a token that is fed with the given number of steps left behind. -/
def Token.fedAt (step : Nat) (token : Token) : Event :=
  .fed token.kind token.value step

/-- The entry that lets pass a token that is no object, in the mode that does. -/
def Token.tolerance (mode : Mode) (token : Token) : List Event :=
  if mode = .lenient ∧ token.isObject = false then [.tolerated token.value 1] else []

/-- The entries for tokens behind a verb whose object is awaited.  The object is the first token
that is neither white space nor a semicolon. -/
def objectEntries (mode : Mode) : List Token → List Event
  | [] => []
  | token :: tokens =>
    if token.kind = .whitespace ∨ token.kind = .semicolon then
      token.fedAt 1 :: objectEntries mode tokens
    else token.fedAt 1 :: (token.tolerance mode ++ tokens.map (Token.fedAt 2))

/-- The entries for the tokens behind the one that opens a statement. -/
def Opener.entries (mode : Mode) (tokens : List Token) : Opener → List Event
  | create | drop => objectEntries mode tokens
  | select | insert | update | delete | truncate | unknown => tokens.map (Token.fedAt 1)

/-- The entry for the end of a statement. -/
def Statement.closing (statement : Statement) : Event :=
  if statement.terminated then .closed statement.type? statement.start statement.last
  else .closedAtEnd statement.type? statement.start

/-- The entries account for the statement. -/
def Statement.IsLoggedAs (mode : Mode) (statement : Statement) (log : List Event) : Prop :=
  ∃ first rest opener, statement.tokens.toList = first :: rest ∧
    Opener.dispatch mode first = .ok opener ∧
    log = .opened opener statement.start :: first.fedAt 0 ::
      (opener.entries mode rest ++ [statement.closing])

/-- Whether the token at fault is one that opens no statement. -/
def ParseError.isLeading : ParseError → Bool
  | unrecognizedLeadingToken .. => true
  | missingPredecessor .. | unexpectedToken .. | alreadyTerminated .. => false

/-- The entries for tokens of a statement, from a stage on. -/
def Stage.entries (mode : Mode) (step : Nat) (tokens : List Token) : Stage → List Event
  | settled _ => tokens.map (Token.fedAt step)
  | awaiting _ _ => objectEntries mode tokens

lemma Opener.entries_eq (mode : Mode) (tokens : List Token) (opener : Opener) :
    opener.entries mode tokens = opener.stage.entries mode 1 tokens := by
  cases opener <;> rfl

/-! ## What a recognizer logs -/

namespace Recognizer

variable {r : Recognizer} {mode : Mode} {draft draft' : Draft} {token : Token}

/-- The entries for a token are those of its verdict and of the end that it may bring. -/
lemma log_eq (hopen : r.statement.terminated = false) (token : Token) :
    r.log token = token.fedAt r.current ::
      ((match (r.feed token).2 with
        | .tolerated step => [.tolerated token.value step]
        | .accepted | .rejected _ => []) ++
      if (r.feed token).1.statement.terminated then
        [.closed (r.feed token).1.statement.type? (r.feed token).1.statement.start token.last]
      else []) := by
  simp only [log, feed, hopen, Bool.false_eq_true, if_false, record]
  rfl

namespace Follows

lemma log_semicolon (h : r.Follows mode draft) (hkind : token.kind = .semicolon) :
    r.log token = [token.fedAt r.current, (draft.close token).closing] := by
  obtain ⟨haccepted, hterminated, hclose⟩ := h.feed_semicolon hkind
  have htype := congrArg Statement.type? hclose
  have hstart := congrArg Statement.start hclose
  simp only at htype hstart
  rw [log_eq h.terminated_eq_false, haccepted, hterminated, htype, hstart]
  rfl

lemma current_eq_one {verb : ObjectVerb} {spaced : Bool} (h : r.Follows mode draft)
    (hstage : draft.stage = .awaiting verb spaced) : r.current = 1 := by
  have hat := h.isAt
  rw [hstage] at hat
  exact hat.2.1

lemma entries_semicolon (h : r.Follows mode draft) (hkind : token.kind = .semicolon) :
    draft.stage.entries mode r.current [token] = [token.fedAt r.current] := by
  cases hstage : draft.stage with
  | settled type => rfl
  | awaiting verb spaced => simp [Stage.entries, objectEntries, hkind, h.current_eq_one hstage]

lemma log_refused {error : ParseError} (h : r.Follows mode draft) (hkind : token.kind ≠ .semicolon)
    (hnext : draft.next mode token = .error error) : r.log token = [token.fedAt 1] := by
  have hverdict := h.feed hkind
  rw [hnext] at hverdict
  simp only at hverdict
  cases hstage : draft.stage with
  | settled type => simp [Draft.next, hstage, Stage.next, Except.map] at hnext
  | awaiting verb spaced =>
    -- White space is never refused, so the token went to the step that takes the object.
    have hspace : token.kind ≠ .whitespace := by
      intro hspace
      simp [Draft.next, hstage, Stage.next, hspace, Except.map] at hnext
    have hopen : (r.feed token).1.statement.terminated = false := by
      rw [h.feed_object hstage hkind hspace] at hverdict ⊢
      cases hrefusal : r.refusal? (Step.onObject verb) token with
      | some error' => exact h.terminated_eq_false
      | none =>
        rw [hrefusal] at hverdict
        simp only at hverdict
        split_ifs at hverdict
    rw [log_eq h.terminated_eq_false, hverdict, hopen, h.current_eq_one hstage]
    rfl

/-- What a recognizer logs for a token that the draft takes is the first part of what is to be told
from the stage of the draft on. -/
lemma entries_cons (h : r.Follows mode draft) (hkind : token.kind ≠ .semicolon)
    (hnext : draft.next mode token = .ok draft') (tokens : List Token) :
    draft.stage.entries mode r.current (token :: tokens) =
      r.log token ++ draft'.stage.entries mode (r.feed token).1.current tokens := by
  have hfeed := h.feed hkind
  rw [hnext] at hfeed
  rw [log_eq h.terminated_eq_false, hfeed.2.terminated_eq_false]
  obtain ⟨stage, hstage', rfl⟩ := map_eq_ok_iff.1 hnext
  cases hstage : draft.stage with
  | settled type =>
    rw [hstage] at hstage'
    cases hstage'
    rw [h.feed_settled hstage hkind]
    rfl
  | awaiting verb spaced =>
    rw [hstage, Stage.next] at hstage'
    have hcurrent := h.current_eq_one hstage
    by_cases hspace : token.kind = .whitespace
    · rw [if_pos hspace] at hstage'
      cases hstage'
      rw [h.feed_space hspace]
      simp [Stage.entries, objectEntries, hspace, hcurrent]
    · rw [if_neg hspace] at hstage'
      split_ifs at hstage' with hspaced hstrict
      cases hstage'
      rw [h.feed_object hstage hkind hspace, h.refusal?_eq hstage, if_neg hspaced,
        if_neg hstrict]
      have haccepts : (Step.onObject verb).accepts token = token.isObject := rfl
      have htaken : ((r.take (Step.onObject verb) token).record token).current = 2 := by
        simp [Recognizer.take, record, remember, advance, Step.onObject, Step.onKeyword,
          Step.after, hcurrent]
      simp only [Stage.entries, objectEntries, hspace, hkind, or_self, if_false, hcurrent,
        haccepts, htaken, Bool.false_eq_true, List.append_nil]
      -- In strict mode the token is an object, and so it is never let pass there.
      cases hobject : token.isObject with
      | true => simp [Token.tolerance, hobject]
      | false =>
        have hlenient : mode = .lenient := by
          cases mode with
          | strict => exact absurd ⟨rfl, hobject⟩ hstrict
          | lenient => rfl
        simp [Token.tolerance, hobject, hlenient]

end Follows

end Recognizer

lemma Opener.current_feed {mode : Mode} {token : Token} {opener : Opener}
    (h : dispatch mode token = .ok opener) :
    ((opener.recognizer mode).feed token).1.current = 1 := by
  rw [feed_open (ofToken?_of_dispatch h)]

/-! ## What a run logs -/

namespace Splitter

variable {s s' : Splitter} {mode : Mode} {draft : Draft} {r : Recognizer} {token : Token}
  {tokens : List Token} {b : Outline}

lemma logAll_cons (h : s.step token = .ok s') (tokens : List Token) :
    s.logAll (token :: tokens) = s.log token ++ s'.logAll tokens := by
  rw [logAll, h]

lemma logAll_cons_of_error {error : ParseError} (h : s.step token = .error error)
    (tokens : List Token) : s.logAll (token :: tokens) = s.log token := by
  rw [logAll, h, List.append_nil]

lemma log_of_dispatch {opener : Opener} (hblank : token.isBlank = false)
    (hdispatch : Opener.dispatch mode token = .ok opener) (script : Script) :
    (⟨mode, script, none⟩ : Splitter).log token =
      [.opened opener token.start, token.fedAt 0] := by
  obtain ⟨-, haccepted, hfollows⟩ := step_of_dispatch hblank hdispatch script
  have hopen : (opener.recognizer mode).statement.terminated = false := rfl
  simp only [log, hblank, Bool.false_eq_true, if_false, hdispatch,
    Recognizer.log_eq hopen, haccepted, hfollows.terminated_eq_false]
  rfl

/-- A run from an open statement logs the tokens that this takes and its end, and goes on outside
all statements. -/
lemma exists_logAll_of_open (hr : r.Follows mode draft)
    (h : outlineFrom mode (some draft) tokens = .ok b) (script : Script) (last : Nat) :
    ∃ xs ys statement c script', tokens = xs ++ ys ∧ outlineFrom mode none ys = .ok c ∧
      b.statements last = statement :: c.statements last ∧
      statement.start = draft.first.start ∧ statement.tokens.toList = draft.tokens ++ xs ∧
      logAll ⟨mode, script, some r⟩ tokens = draft.stage.entries mode r.current xs ++
        statement.closing :: logAll ⟨mode, script', none⟩ ys := by
  induction tokens generalizing draft r b with
  | nil =>
    cases h
    refine ⟨[], [], draft.closeAt last, ⟨[], none⟩, script, rfl, rfl, rfl, rfl, ?_, ?_⟩
    · exact (List.append_nil _).symm
    · have hentries : draft.stage.entries mode r.current [] = [] := by
        cases draft.stage <;> rfl
      rw [hentries]
      simp only [logAll, logEnd, hr.statement_eq]
      rfl
  | cons token tokens ih =>
    obtain ⟨a, c, hadvance, hrest, rfl⟩ := outlineFrom_cons_eq_ok_iff.1 h
    cases hadvance with
    | closes hkind =>
      have hstep : step ⟨mode, script, some r⟩ token = _ := feed_of_semicolon hr hkind script
      refine ⟨[token], tokens, draft.close token, c, script.addStatement (draft.close token), rfl,
        hrest, rfl, rfl, rfl, ?_⟩
      have hlog : (⟨mode, script, some r⟩ : Splitter).log token = _ := hr.log_semicolon hkind
      rw [logAll_cons hstep, hlog, hr.entries_semicolon hkind]
      rfl
    | @grows _ draft' _ hkind hnext =>
      obtain ⟨hfeed, hfollows⟩ := feed_of_next hr hkind hnext script
      have hstep : step ⟨mode, script, some r⟩ token = _ := hfeed
      obtain ⟨xs, ys, statement, d, script', rfl, hd, hstatements, hstart, htokens, hlog⟩ :=
        ih hfollows hrest
      have hfirst : draft'.first = draft.first := by
        obtain ⟨stage, -, rfl⟩ := map_eq_ok_iff.1 hnext
        rfl
      refine ⟨token :: xs, ys, statement, d, script', rfl, hd, hstatements, ?_, ?_, ?_⟩
      · rw [hstart, hfirst]
      · rw [htokens, Draft.tokens_of_next hnext, List.append_assoc, List.singleton_append]
      · rw [hr.entries_cons hkind hnext, List.append_assoc, ← hlog]
        exact logAll_cons hstep _

/-- A run from between two statements logs the statements one behind the other, and each of them
as it is. -/
lemma exists_logAll (tokens : List Token) {c : Outline} (h : outlineFrom mode none tokens = .ok c)
    (script : Script) (last : Nat) :
    ∃ logs, logAll ⟨mode, script, none⟩ tokens = logs.flatten ∧
      List.Forall₂ (Statement.IsLoggedAs mode) (c.statements last) logs := by
  match tokens with
  | [] =>
    cases h
    exact ⟨[], rfl, .nil⟩
  | token :: tokens =>
    obtain ⟨a, b, hadvance, hrest, rfl⟩ := outlineFrom_cons_eq_ok_iff.1 h
    cases hadvance with
    | blank hblank =>
      have hstep : step ⟨mode, script, none⟩ token =
          .ok ⟨mode, script.addBlank token, none⟩ := by
        rw [step, if_pos hblank]
      obtain ⟨logs, hlogs, hall⟩ := exists_logAll tokens hrest (script.addBlank token) last
      refine ⟨logs, ?_, hall⟩
      rw [logAll_cons hstep, hlogs, log]
      simp [hblank]
    | opens hblank hopening =>
      obtain ⟨opener, hdispatch, rfl⟩ := map_eq_ok_iff.1 hopening
      obtain ⟨hstep, -, hfollows⟩ := step_of_dispatch hblank hdispatch script
      obtain ⟨xs, ys, statement, d, script', rfl, hd, hstatements, hstart, htokens, hlog⟩ :=
        exists_logAll_of_open hfollows hrest script last
      obtain ⟨logs, hlogs, hall⟩ := exists_logAll ys hd script' last
      rw [Opener.current_feed hdispatch, ← Opener.entries_eq] at hlog
      refine ⟨(.opened opener statement.start :: token.fedAt 0 ::
        (opener.entries mode xs ++ [statement.closing])) :: logs, ?_, ?_⟩
      · rw [logAll_cons hstep, log_of_dispatch hblank hdispatch, hlog, hlogs, hstart]
        simp
      · have hall' : (Outline.andThen ⟨[], some ⟨token, [], opener.stage⟩⟩ b).statements last =
            statement :: d.statements last := by
          rw [Outline.statements_andThen, hstatements]
          rfl
        rw [hall']
        exact .cons ⟨token, xs, opener, htokens, hdispatch, rfl⟩ hall
termination_by tokens.length

lemma feed_withScript (mode : Mode) (script script' : Script) (r : Recognizer) (token : Token) :
    match feed mode script r token with
    | .ok s => ∃ script'', feed mode script' r token = .ok { s with script := script'' }
    | .error error => feed mode script' r token = .error error := by
  simp only [feed]
  cases (r.feed token).2.error? with
  | some error => rfl
  | none =>
    by_cases hterminated : (r.feed token).1.statement.terminated = true
    · simp only [if_pos hterminated]
      exact ⟨_, rfl⟩
    · simp only [if_neg hterminated]
      exact ⟨_, rfl⟩

lemma step_withScript (s : Splitter) (token : Token) (script : Script) :
    match s.step token with
    | .ok s' => ∃ script', { s with script }.step token = .ok { s' with script := script' }
    | .error error => { s with script }.step token = .error error := by
  obtain ⟨mode, own, _ | r⟩ := s
  · by_cases hblank : token.isBlank = true
    · simp only [step, if_pos hblank]
      exact ⟨_, rfl⟩
    · simp only [step, if_neg hblank]
      cases Opener.dispatch mode token with
      | error error => rfl
      | ok opener => exact feed_withScript mode own script (opener.recognizer mode) token
  · exact feed_withScript mode own script r token

lemma logAll_withScript (s : Splitter) (tokens : List Token) (script : Script) :
    { s with script }.logAll tokens = s.logAll tokens := by
  induction tokens generalizing s script with
  | nil => rfl
  | cons token tokens ih =>
    have hlog : { s with script }.log token = s.log token := rfl
    have hstep := s.step_withScript token script
    cases h : s.step token with
    | error error =>
      rw [h] at hstep
      rw [logAll_cons_of_error h, logAll_cons_of_error hstep, hlog]
    | ok s' =>
      rw [h] at hstep
      obtain ⟨script', hstep⟩ := hstep
      rw [logAll_cons h, logAll_cons hstep, hlog, ih]

/-- A run over tokens that are taken logs the same, whether it ends there or goes on. -/
lemma exists_front {before : List Token} (h : before.foldlM step s = .ok s') :
    ∃ front, s.logAll before = front ++ s'.logEnd ∧
      ∀ after, s.logAll (before ++ after) = front ++ s'.logAll after := by
  induction before generalizing s with
  | nil =>
    cases h
    exact ⟨[], rfl, fun _ => rfl⟩
  | cons token before ih =>
    rw [List.foldlM_cons] at h
    cases hstep : s.step token with
    | error error =>
      rw [hstep] at h
      cases h
    | ok s₁ =>
      rw [hstep] at h
      obtain ⟨front, hend, hafter⟩ := ih h
      refine ⟨s.log token ++ front, ?_, fun after => ?_⟩
      · rw [logAll_cons hstep, hend, List.append_assoc]
      · rw [List.cons_append, logAll_cons hstep, hafter, List.append_assoc]

/-- What is logged for a token at fault, and what would be logged if the script ended before it.
Outside all statements that is nothing.  In an open one the token is fed, and otherwise the
statement would be closed. -/
lemma log_fault {length : Nat} {o : Outline} {error : ParseError} (h : s.Shows mode length o)
    (hfault : advance mode o.open? token = .error error) :
    if error.isLeading then s.log token = [] ∧ s.logEnd = []
    else s.log token = [token.fedAt 1] ∧ ∃ type? start, s.logEnd = [.closedAtEnd type? start] := by
  obtain ⟨smode, script, active?⟩ := s
  obtain ⟨rfl, -, hopens⟩ := h
  cases ho : o.open? with
  | none =>
    cases hr : active? with
    | some r => simp [Opens, ho, hr] at hopens
    | none =>
      rw [ho, advance] at hfault
      split_ifs at hfault with hblank
      have hdispatch := map_eq_error_iff.1 (map_eq_error_iff.1 hfault)
      have hlog : (⟨smode, script, none⟩ : Splitter).log token = [] := by
        simp only [log, if_neg hblank, hdispatch]
      unfold Opener.dispatch at hdispatch
      split at hdispatch
      · cases hdispatch
      · cases hdispatch
        exact ⟨hlog, rfl⟩
  | some draft =>
    cases hr : active? with
    | none => simp [Opens, ho, hr] at hopens
    | some r =>
      rw [ho, hr] at hopens
      rw [ho, advance] at hfault
      split_ifs at hfault with hkind
      have hnext := map_eq_error_iff.1 hfault
      have hlog : (⟨smode, script, some r⟩ : Splitter).log token = [token.fedAt 1] :=
        hopens.log_refused hkind hnext
      have hrefused := map_eq_error_iff.1 hnext
      cases hstage : draft.stage with
      | settled type =>
        rw [hstage] at hrefused
        cases hrefused
      | awaiting verb spaced =>
        rw [hstage, Stage.next] at hrefused
        split_ifs at hrefused <;> cases hrefused <;> exact ⟨hlog, _, _, rfl⟩

end Splitter

lemma exists_slice_of_tokenize_eq {input : String} {before after : List Token} {token : Token}
    (h : tokenize input = before ++ token :: after) :
    ∃ text, Text.slice? input.toList 0 token.start = some text ∧ tokenize text = before := by
  obtain ⟨a, b, rfl, ha, -, -, hstart, -⟩ := exists_parts_of_append h
  rw [hstart]
  exact ⟨a, Text.slice?_left a b, ha⟩

/-- The log of a run that ends at a token at fault, and that of the text before the token. -/
lemma events_of_fault {input text : String} {mode : Mode} {before after : List Token}
    {token : Token} {o : Outline} {error : ParseError}
    (h : tokenize input = before ++ token :: after) (htext : tokenize text = before)
    (hbefore : outline mode before = .ok o) (hfault : advance mode o.open? token = .error error) :
    if error.isLeading then
      Parser.events { input, mode } = Parser.events { input := text, mode }
    else ∃ front type? start,
      Parser.events { input := text, mode } = front ++ [.closedAtEnd type? start] ∧
        Parser.events { input, mode } = front ++ [token.fedAt 1] := by
  have hrun := Splitter.foldlM_shows (Splitter.shows_start mode input.utf8ByteSize) before
  rw [outline] at hbefore
  simp only [hbefore] at hrun
  obtain ⟨s, hs, hshows⟩ := hrun
  obtain ⟨front, hend, hgoesOn⟩ := Splitter.exists_front hs
  have hfull : Parser.events { input, mode } = front ++ s.log token := by
    have hstep := Splitter.step_shows hshows token
    have hopen : (Outline.andThen ⟨[], none⟩ o).open? = o.open? := rfl
    rw [hopen, hfault] at hstep
    show Splitter.logAll _ (tokenize input) = _
    rw [h, hgoesOn, Splitter.logAll_cons_of_error hstep]
  have hcut : Parser.events { input := text, mode } = front ++ s.logEnd := by
    -- The two runs differ in the length of the script at the start, which is never looked at.
    show Splitter.logAll { Splitter.start mode input.utf8ByteSize with
      script := .spanning text.utf8ByteSize } (tokenize text) = _
    rw [Splitter.logAll_withScript, htext, hend]
  have hlog := Splitter.log_fault hshows hfault
  rw [hfull, hcut]
  split_ifs at hlog ⊢ with hleading
  · rw [hlog.1, hlog.2]
  · obtain ⟨hfed, type?, start, hclosing⟩ := hlog
    exact ⟨front, type?, start, by rw [hclosing], by rw [hfed]⟩

/-- The log of a run is an account of the script that it gives.  If the run ends in an error, the
log is that of the text before the token at fault: all of it if the token opens no statement, and
otherwise with the entry for the token in the place of the one that closes the open statement. -/
theorem events_account (input : String) (mode : Mode) :
    match parse input mode with
    | .ok script => ∃ logs, Parser.events { input, mode } = logs.flatten ∧
        List.Forall₂ (Statement.IsLoggedAs mode) script.statements.toList logs
    | .error error => ∃ text before token,
        Text.slice? input.toList 0 error.position = some text ∧ parse text mode = .ok before ∧
        token ∈ tokenize input ∧ error.Names token ∧
        if error.isLeading then
          Parser.events { input, mode } = Parser.events { input := text, mode }
        else ∃ front type? start,
          Parser.events { input := text, mode } = front ++ [.closedAtEnd type? start] ∧
            Parser.events { input, mode } = front ++ [token.fedAt 1] := by
  have hmap := parse_eq_map input mode
  cases ho : outline mode (tokenize input) with
  | ok o =>
    rw [ho] at hmap
    rw [hmap]
    exact Splitter.exists_logAll (tokenize input) ho (.spanning input.utf8ByteSize) _
  | error error =>
    rw [ho] at hmap
    rw [hmap]
    obtain ⟨before, token, after, a, htokens, hbefore, hfault⟩ := exists_of_outlineFrom_error ho
    have hnames := advance_names hfault
    obtain ⟨text, hslice, htext⟩ := exists_slice_of_tokenize_eq htokens
    have hparse : parse text mode = .ok (a.script text.utf8ByteSize) := by
      rw [parse_eq_map, htext, outline, hbefore]
      rfl
    refine ⟨text, _, token, ?_, hparse, ?_, hnames, ?_⟩
    · rw [hnames.position_eq]
      exact hslice
    · rw [htokens]
      simp
    exact events_of_fault htokens htext hbefore hfault

/-- What is dropped is no object, which is let pass. -/
example : Parser.events { input := "DROP é;", mode := .lenient } =
    [.opened .drop 0, .fed .keyword "DROP" 0, .fed .whitespace " " 1, .fed .unknown "é" 1,
      .tolerated "é" 1, .fed .semicolon ";" 2, .closed (some .unknown) 0 7] := by
  decide +kernel

end SqlSplit
