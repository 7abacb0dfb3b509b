import SqlSplit.Parser
import SqlSplit.Proofs.Statements.Feeding

/-!
# Statements and their recognizers

A splitter hands the tokens of a statement one by one to a recognizer, and has no hand in what the
statement becomes but for its last offset.  So every statement of a script is what a recognizer
makes of the statement's own tokens, whatever the tokenizer that gave them.

The main statement is `isRecognized_of_parse`.  `Splitter.Recognizes` is the invariant that carries
it from token to token.
-/

namespace SqlSplit

/-- A recognizer of the mode, opened by the first of the tokens, has taken them all. -/
structure Recognizer.HasTaken (r : Recognizer) (mode : Mode) (opener : Opener) (first : Token)
    (rest : List Token) : Prop where
  dispatch_eq : Opener.dispatch mode first = .ok opener
  run_eq : (opener.recognizer mode).run (first :: rest) = r
  tokens_eq : r.statement.tokens.toList = first :: rest

/-- The statement is, but for its last offset, what a recognizer makes of its tokens. -/
def Statement.IsRecognized (statement : Statement) (mode : Mode) : Prop :=
  ∃ r opener first rest, Recognizer.HasTaken r mode opener first rest ∧
    statement = { r.statement with last := statement.last }

namespace Recognizer.HasTaken

variable {r : Recognizer} {mode : Mode} {opener : Opener} {first token : Token} {rest : List Token}

lemma feed_first (h : Opener.dispatch mode first = .ok opener) :
    ((opener.recognizer mode).feed first).1.HasTaken mode opener first [] where
  dispatch_eq := h
  run_eq := rfl
  tokens_eq := ((opener.recognizer mode).feeds_feed first).tokens_eq

lemma feed (h : r.HasTaken mode opener first rest) (hopen : r.statement.terminated = false)
    (token : Token) : (r.feed token).1.HasTaken mode opener first (rest ++ [token]) where
  dispatch_eq := h.dispatch_eq
  run_eq := by
    rw [← List.cons_append, run_append, h.run_eq, run_cons, run_nil]
  tokens_eq := by
    rw [(r.feeds_feed token).tokens_eq, hopen, h.tokens_eq]
    rfl

end Recognizer.HasTaken

namespace Splitter

variable {s s' : Splitter} {mode : Mode} {script : Script} {r : Recognizer} {token : Token}

/-- What is closed is recognized, and what is open has a recognizer that has taken its tokens. -/
structure Recognizes (s : Splitter) (mode : Mode) : Prop where
  mode_eq : s.mode = mode
  closed : ∀ statement ∈ s.script.statements.toList, statement.IsRecognized mode
  active : ∀ r, s.active? = some r → r.statement.terminated = false ∧
    ∃ opener first rest, r.HasTaken mode opener first rest

lemma recognizes_start (mode : Mode) (length : Nat) : (start mode length).Recognizes mode where
  mode_eq := rfl
  closed := by simp [start, Script.spanning]
  active := by simp [start]

lemma recognizes_feed {opener : Opener} {first : Token} {rest : List Token}
    (hscript : ∀ statement ∈ script.statements.toList, statement.IsRecognized mode)
    (hr : (r.feed token).1.HasTaken mode opener first rest)
    (h : feed mode script r token = .ok s') : s'.Recognizes mode := by
  simp only [feed] at h
  split at h
  · cases h
  split at h
  · cases Except.ok.inj h
    refine ⟨rfl, ?_, nofun⟩
    simp only [Script.addStatement, Array.toList_push, List.forall_mem_append,
      List.forall_mem_singleton]
    exact ⟨hscript, _, opener, first, rest, hr, rfl⟩
  · next hopen =>
    cases Except.ok.inj h
    refine ⟨rfl, hscript, ?_⟩
    rintro _ ⟨⟩
    exact ⟨Bool.eq_false_iff.2 hopen, opener, first, rest, hr⟩

lemma Recognizes.step (h : s.Recognizes mode) (hstep : s.step token = .ok s') :
    s'.Recognizes mode := by
  obtain ⟨smode, script, active?⟩ := s
  obtain ⟨rfl, hscript, hactive⟩ := h
  cases active? with
  | some r =>
    obtain ⟨hopen, opener, first, rest, hr⟩ := hactive r rfl
    exact recognizes_feed hscript (hr.feed hopen token) hstep
  | none =>
    simp only [Splitter.step] at hstep
    split at hstep
    · cases Except.ok.inj hstep
      exact ⟨rfl, hscript, nofun⟩
    · cases hdispatch : Opener.dispatch smode token with
      | error error =>
        rw [hdispatch] at hstep
        cases hstep
      | ok opener =>
        rw [hdispatch] at hstep
        exact recognizes_feed hscript (.feed_first hdispatch) hstep

lemma Recognizes.foldlM {tokens : List Token} (h : s.Recognizes mode)
    (hrun : tokens.foldlM Splitter.step s = .ok s') : s'.Recognizes mode := by
  induction tokens generalizing s with
  | nil =>
    cases Except.ok.inj hrun
    exact h
  | cons token tokens ih =>
    rw [List.foldlM_cons] at hrun
    cases hstep : s.step token with
    | error error =>
      rw [hstep] at hrun
      cases hrun
    | ok next =>
      rw [hstep] at hrun
      exact ih (h.step hstep) hrun

lemma Recognizes.finish (h : s.Recognizes mode) :
    ∀ statement ∈ s.finish.statements.toList, statement.IsRecognized mode := by
  unfold Splitter.finish
  cases hactive : s.active? with
  | none => exact h.closed
  | some r =>
    obtain ⟨-, opener, first, rest, hr⟩ := h.active r hactive
    simp only [Script.addStatement, Array.toList_push, List.forall_mem_append,
      List.forall_mem_singleton]
    exact ⟨h.closed, _, opener, first, rest, hr, rfl⟩

end Splitter

/-- Every statement of a script is, but for its last offset, what a recognizer makes of its tokens,
whatever the tokenizer. -/
theorem isRecognized_of_parse {parser : Parser} {script : Script}
    (h : parser.parse = .ok script) :
    ∀ statement ∈ script.statements.toList, statement.IsRecognized parser.mode := by
  unfold Parser.parse Script.ofTokens at h
  cases hrun : parser.tokens.foldlM Splitter.step
      (Splitter.start parser.mode parser.input.utf8ByteSize) with
  | error error =>
    rw [hrun] at h
    cases h
  | ok s =>
    rw [hrun] at h
    cases Except.ok.inj h
    exact ((Splitter.recognizes_start _ _).foldlM hrun).finish

end SqlSplit
