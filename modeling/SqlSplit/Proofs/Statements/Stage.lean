import Mathlib.Tactic.Lemma
import SqlSplit.Opener

/-!
# The stages of an open statement

A recognizer keeps a table, the number of steps left behind, the kind of the last token and a
statement half filled in.  Of all this only little can matter once a statement is open: either its
type is settled and every token will do, or its first word was `CREATE` or `DROP` and the object is
still awaited, in which case it matters whether white space came right before.

This file makes that precise.  A `Draft` is an open statement given by its tokens and its `Stage`,
and `Draft.next` says what a token does to it.  `Recognizer.Follows` ties a recognizer to a draft.
The two main statements are `follows_open`, on the token that opens a statement, and
`Follows.feed`, on every token after it: the recognizer and the draft refuse the same tokens with
the same errors, and otherwise go on side by side.  `Follows.feed_semicolon` is about the token
that ends the statement.
-/

namespace SqlSplit

lemma map_eq_ok_iff {ε α β : Type} {f : α → β} {x : Except ε α} {b : β} :
    x.map f = .ok b ↔ ∃ a, x = .ok a ∧ f a = b := by
  cases x <;> simp [Except.map]

lemma map_eq_error_iff {ε α β : Type} {f : α → β} {x : Except ε α} {e : ε} :
    x.map f = .error e ↔ x = .error e := by
  cases x <;> simp [Except.map]

lemma exists_eq_ok_of_isOk {ε α : Type} {x : Except ε α} (h : x.isOk = true) : ∃ a, x = .ok a := by
  cases x with
  | error error => cases h
  | ok a => exact ⟨a, rfl⟩

lemma exists_eq_ok_of_map_toOption {ε α β : Type} {x : Except ε α} {f : α → β} {b : β}
    (h : x.toOption.map f = some b) : ∃ a, x = .ok a ∧ f a = b := by
  cases x with
  | error error => cases h
  | ok a => exact ⟨a, rfl, Option.some.inj h⟩

/-! ## Stages -/

/-- How far the type of an open statement is settled. -/
inductive Stage where
  /-- The type is settled. -/
  | settled (type : StatementType)
  /-- The object of the verb is awaited.  The flag says that white space came right before. -/
  | awaiting (verb : ObjectVerb) (spaced : Bool)
  deriving DecidableEq, Repr

namespace Stage

/-- The type of a statement that ends at this stage. -/
def type? : Stage → Option StatementType
  | settled type => some type
  | awaiting _ _ => none

end Stage

/-- The stage behind the token that opens a statement. -/
def Opener.stage : Opener → Stage
  | select => .settled .select
  | insert => .settled .insert
  | update => .settled .update
  | delete => .settled .delete
  | create => .awaiting .create false
  | drop => .awaiting .drop false
  | truncate => .settled .truncate
  | unknown => .settled .unknown

/-- The objects that a statement creates or drops, as patterns. -/
def objectPatterns : List Pattern :=
  [Pattern.keyword .table, Pattern.keyword .database]

/-- Whether a token is the keyword of an object. -/
def Token.isObject (token : Token) : Bool :=
  objectPatterns.any fun pattern => pattern.isMatch token

/-- The stage behind a token that is no semicolon, or the error that it may not stand here. -/
def Stage.next (mode : Mode) (token : Token) : Stage → Except ParseError Stage
  | settled type => .ok (.settled type)
  | awaiting verb spaced =>
    if token.kind = .whitespace then .ok (.awaiting verb true)
    else if spaced = false then
      .error (.missingPredecessor 1 [.whitespace] token.value token.start)
    else if mode = .strict ∧ token.isObject = false then
      .error (.unexpectedToken 1 objectPatterns token.kind token.value token.start)
    else .ok (.settled (verb.typeOn token.value))

namespace Stage

variable {mode : Mode} {token : Token} {verb : ObjectVerb}

lemma next_space {spaced : Bool} (h : token.kind = .whitespace) :
    next mode token (.awaiting verb spaced) = .ok (.awaiting verb true) := by
  rw [next, if_pos h]

lemma next_unspaced (h : token.kind ≠ .whitespace) :
    next mode token (.awaiting verb false) =
      .error (.missingPredecessor 1 [.whitespace] token.value token.start) := by
  rw [next, if_neg h, if_pos rfl]

lemma next_strict (h : token.kind ≠ .whitespace) (hobject : token.isObject = false) :
    next .strict token (.awaiting verb true) =
      .error (.unexpectedToken 1 objectPatterns token.kind token.value token.start) := by
  rw [next, if_neg h, if_neg (Bool.noConfusion ·), if_pos ⟨rfl, hobject⟩]

lemma next_lenient (h : token.kind ≠ .whitespace) :
    next .lenient token (.awaiting verb true) = .ok (.settled (verb.typeOn token.value)) := by
  rw [next, if_neg h, if_neg (Bool.noConfusion ·), if_neg fun hstrict => nomatch hstrict.1]

end Stage

/-! ## Drafts -/

/-- An open statement: its tokens, of which there is a first one, and its stage. -/
structure Draft where
  /-- The token that opened the statement. -/
  first : Token
  /-- The tokens behind the first, in order. -/
  rest : List Token
  stage : Stage
  deriving DecidableEq, Repr

namespace Draft

/-- The tokens, in order. -/
def tokens (draft : Draft) : List Token :=
  draft.first :: draft.rest

/-- The statement as it stands. -/
def statement (draft : Draft) : Statement :=
  { type? := draft.stage.type?, start := draft.first.start, tokens := draft.tokens.toArray }

/-- The statement that a semicolon ends. -/
def close (draft : Draft) (semicolon : Token) : Statement :=
  { type? := draft.stage.type?, start := draft.first.start, last := semicolon.last
    terminated := true, tokens := (draft.tokens ++ [semicolon]).toArray }

/-- The statement that the end of the script ends, at the given last byte. -/
def closeAt (draft : Draft) (last : Nat) : Statement :=
  { draft.statement with last }

/-- What opens with a token, or the error that nothing does. -/
def opening (mode : Mode) (token : Token) : Except ParseError Draft :=
  (Opener.dispatch mode token).map fun opener => ⟨token, [], opener.stage⟩

/-- The draft with one more token that is no semicolon, or the error that it may not stand here. -/
def next (mode : Mode) (draft : Draft) (token : Token) : Except ParseError Draft :=
  (draft.stage.next mode token).map fun stage => ⟨draft.first, draft.rest ++ [token], stage⟩

lemma next_of_settled {mode : Mode} {draft : Draft} {type : StatementType}
    (h : draft.stage = .settled type) (token : Token) :
    draft.next mode token = .ok ⟨draft.first, draft.rest ++ [token], .settled type⟩ := by
  rw [next, h]
  rfl

end Draft

/-! ## A recognizer that follows a draft -/

/-- The step that takes the object of a verb. -/
def Step.onObject (verb : ObjectVerb) : Step :=
  (Step.onKeyword [.table, .database] (.object verb)).after [.whitespace]

namespace Recognizer

/-- What a recognizer has to remember at a stage: nothing once the type is settled. -/
def IsAt (r : Recognizer) : Stage → Prop
  | .settled _ => True
  | .awaiting verb spaced =>
    r.step? = some (Step.onObject verb) ∧ r.current = 1 ∧
      (Step.onObject verb).mayFollow r.previous? = spaced

/-- The recognizer has taken the tokens of the draft and stands at its stage. -/
structure Follows (r : Recognizer) (mode : Mode) (draft : Draft) : Prop where
  mode_eq : r.mode = mode
  statement_eq : r.statement = draft.statement
  isAt : r.IsAt draft.stage

namespace Follows

variable {r : Recognizer} {mode : Mode} {draft : Draft} {token : Token}

lemma terminated_eq_false (h : r.Follows mode draft) : r.statement.terminated = false := by
  rw [h.statement_eq]
  rfl

lemma type?_eq (h : r.Follows mode draft) : r.statement.type? = draft.stage.type? := by
  rw [h.statement_eq]
  rfl

lemma record_tokens (h : r.Follows mode draft) (token : Token) :
    r.statement.tokens.push token = (draft.first :: (draft.rest ++ [token])).toArray := by
  rw [h.statement_eq]
  simp [Draft.statement, Draft.tokens]

lemma feed_semicolon (h : r.Follows mode draft) (hkind : token.kind = .semicolon) :
    (r.feed token).2 = .accepted ∧ (r.feed token).1.statement.terminated = true ∧
      { (r.feed token).1.statement with last := token.last } = draft.close token := by
  have hopen := h.terminated_eq_false
  simp only [feed, hopen, consider, hkind, record, Bool.false_eq_true, if_false]
  refine ⟨trivial, trivial, ?_⟩
  rw [h.record_tokens token, h.statement_eq]
  simp [Draft.close, Draft.statement, Draft.tokens]

lemma feed_settled {type : StatementType} (h : r.Follows mode draft)
    (hstage : draft.stage = .settled type) (hkind : token.kind ≠ .semicolon) :
    r.feed token = ((r.remember token.kind).record token, .accepted) := by
  have hopen := h.terminated_eq_false
  have htype : r.statement.type? = some type := by rw [h.type?_eq, hstage]; rfl
  cases hk : token.kind <;> simp_all [feed, consider]

lemma feed_space (h : r.Follows mode draft) (hkind : token.kind = .whitespace) :
    r.feed token = ((r.remember .whitespace).record token, .accepted) := by
  simp [feed, h.terminated_eq_false, consider, hkind]

/-- While the object is awaited, any other token goes to the step that takes it. -/
lemma feed_object {verb : ObjectVerb} {spaced : Bool} (h : r.Follows mode draft)
    (hstage : draft.stage = .awaiting verb spaced) (hkind : token.kind ≠ .semicolon)
    (hspace : token.kind ≠ .whitespace) :
    r.feed token =
      match r.refusal? (Step.onObject verb) token with
      | some error => (r.record token, .rejected error)
      | none =>
        ((r.take (Step.onObject verb) token).record token,
          if (Step.onObject verb).accepts token then .accepted else .tolerated r.current) := by
  have hopen := h.terminated_eq_false
  have htype : r.statement.type? = none := by rw [h.type?_eq, hstage]; rfl
  have hstep : r.step? = some (Step.onObject verb) := by
    have := h.isAt
    rw [hstage] at this
    exact this.1
  have henter : r.enter = r := by
    rw [enter, hstep]
    rfl
  have hconsider : r.consider token = r.classify token := by
    unfold consider
    cases hk : token.kind <;> simp_all
  simp only [feed, hopen, Bool.false_eq_true, if_false, hconsider, classify, henter, hstep]
  cases r.refusal? (Step.onObject verb) token <;> rfl

/-- The step that takes the object refuses a token for the reasons that the stage gives. -/
lemma refusal?_eq {verb : ObjectVerb} {spaced : Bool} (h : r.Follows mode draft)
    (hstage : draft.stage = .awaiting verb spaced) :
    r.refusal? (Step.onObject verb) token =
      if spaced = false then
        some (.missingPredecessor 1 [.whitespace] token.value token.start)
      else if mode = .strict ∧ token.isObject = false then
        some (.unexpectedToken 1 objectPatterns token.kind token.value token.start)
      else none := by
  obtain ⟨-, hcurrent, hspaced⟩ : r.step? = some (Step.onObject verb) ∧ r.current = 1 ∧
      (Step.onObject verb).mayFollow r.previous? = spaced := by
    have := h.isAt
    rwa [hstage] at this
  have haccepts : (Step.onObject verb).accepts token = token.isObject := rfl
  have hpatterns : (Step.onObject verb).patterns = objectPatterns := rfl
  have hrequired : (Step.onObject verb).predecessors?.getD [] = [.whitespace] := rfl
  rw [refusal?, hspaced, hcurrent, h.mode_eq, haccepts, hpatterns, hrequired]
  cases spaced <;> simp

lemma take_object (h : r.Follows mode draft) (verb : ObjectVerb) (token : Token) :
    ((r.take (Step.onObject verb) token).record token).Follows mode
      ⟨draft.first, draft.rest ++ [token], .settled (verb.typeOn token.value)⟩ where
  mode_eq := h.mode_eq
  statement_eq := by
    have htokens := h.record_tokens token
    simp only [take, record, remember, advance, Step.onObject, Step.onKeyword, Step.after,
      Transition.apply, if_true, htokens]
    rw [h.statement_eq]
    rfl
  isAt := trivial

/-- A recognizer refuses the tokens that its draft refuses, with the same errors, and otherwise
goes on following it. -/
lemma feed (h : r.Follows mode draft) (hkind : token.kind ≠ .semicolon) :
    match draft.next mode token with
    | .ok draft' => (r.feed token).2.error? = none ∧ (r.feed token).1.Follows mode draft'
    | .error error => (r.feed token).2 = .rejected error := by
  cases hstage : draft.stage with
  | settled type =>
    rw [h.feed_settled hstage hkind]
    simp only [Draft.next, hstage, Stage.next, Except.map]
    refine ⟨rfl, ⟨h.mode_eq, ?_, trivial⟩⟩
    simp only [record, remember, h.record_tokens]
    rw [h.statement_eq]
    simp [Draft.statement, Draft.tokens, hstage]
  | awaiting verb spaced =>
    by_cases hspace : token.kind = .whitespace
    · rw [h.feed_space hspace]
      simp only [Draft.next, hstage, Stage.next, if_pos hspace, Except.map]
      have hat := h.isAt
      rw [hstage] at hat
      refine ⟨rfl, ⟨h.mode_eq, ?_, ⟨hat.1, hat.2.1, rfl⟩⟩⟩
      simp only [record, remember, h.record_tokens]
      rw [h.statement_eq]
      simp [Draft.statement, Draft.tokens, hstage, Stage.type?]
    · -- The step and the stage refuse for the same reasons, in the same order.
      rw [h.feed_object hstage hkind hspace, h.refusal?_eq hstage]
      simp only [Draft.next, hstage, Stage.next, if_neg hspace]
      by_cases hs : spaced = false
      · rw [if_pos hs, if_pos hs]
        rfl
      by_cases hm : mode = .strict ∧ token.isObject = false
      · rw [if_neg hs, if_neg hs, if_pos hm, if_pos hm]
        rfl
      · rw [if_neg hs, if_neg hs, if_neg hm, if_neg hm]
        refine ⟨?_, h.take_object verb token⟩
        by_cases haccepts : (Step.onObject verb).accepts token <;> simp [haccepts, Verdict.error?]

end Follows

/-! ## The token that opens a statement -/

lemma feed_first {mode : Mode} {step : Step} {steps : List Step} {token : Token}
    (hbefore : step.advancesBefore = false) (hafter : step.advancesAfter = true)
    (hfree : step.predecessors? = none) (haccepts : step.accepts token = true)
    (hsemicolon : token.kind ≠ .semicolon) (hspace : token.kind ≠ .whitespace) :
    ({ mode, steps := step :: steps } : Recognizer).feed token =
      ({ mode, steps := step :: steps, current := 1, previous? := some token.kind
         statement := { step.transition.apply {} token with
           tokens := (step.transition.apply {} token).tokens.push token } }, .accepted) := by
  have hconsider : ({ mode, steps := step :: steps } : Recognizer).consider token =
      ({ mode, steps := step :: steps } : Recognizer).classify token := by
    unfold consider
    cases hk : token.kind <;> simp_all
  have hrefusal : ({ mode, steps := step :: steps } : Recognizer).refusal? step token = none := by
    simp [refusal?, Step.mayFollow, hfree, haccepts]
  rw [feed, if_neg (by simp), hconsider]
  simp [classify, enter, step?, hbefore, hrefusal, take, hafter, haccepts, advance, remember,
    record]

end Recognizer

namespace Opener

/-- A keyword of its own opens a statement in both modes, an unknown word in lenient mode. -/
lemma ofToken?_eq_some {mode : Mode} {token : Token} {opener : Opener}
    (h : ofToken? mode token = some opener) :
    (token.kind = .keyword ∧ ∃ word, Keyword.ofWord? token.value = some word ∧
      ofKeyword? word = some opener) ∨
    (token.kind = .unknown ∧ mode = .lenient ∧ opener = .unknown) := by
  unfold ofToken? at h
  split at h
  · next hkind =>
    obtain ⟨word, hword, hopener⟩ := Option.bind_eq_some_iff.1 h
    exact .inl ⟨hkind, word, hword, hopener⟩
  · next hkind =>
    exact .inr ⟨hkind, rfl, (Option.some.inj h).symm⟩
  · exact absurd h (by simp)

lemma accepts_onKeyword {token : Token} {word : Keyword} (transition : Transition)
    (hkind : token.kind = .keyword) (hword : Keyword.ofWord? token.value = some word) :
    (Step.onKeyword [word] transition).accepts token = true := by
  have := Keyword.ofWord?_eq_some_iff.1 hword
  simp [Step.onKeyword, Step.accepts, Pattern.isMatch, Pattern.keyword, hkind, this]

/-- What the recognizer of an opener is behind the token that opens the statement. -/
lemma feed_open {mode : Mode} {token : Token} {opener : Opener}
    (h : ofToken? mode token = some opener) :
    (opener.recognizer mode).feed token =
      ({ mode, steps := opener.steps, current := 1, previous? := some token.kind
         statement := (⟨token, [], opener.stage⟩ : Draft).statement }, .accepted) := by
  rcases ofToken?_eq_some h with ⟨hkind, word, hword, hopener⟩ | ⟨hkind, rfl, rfl⟩
  · have hsemicolon : token.kind ≠ .semicolon := by simp [hkind]
    have hspace : token.kind ≠ .whitespace := by simp [hkind]
    have hfirst : ∀ transition steps,
        ({ mode, steps := .onKeyword [word] transition :: steps } : Recognizer).feed token = _ :=
      fun transition _ => Recognizer.feed_first rfl rfl rfl
        (accepts_onKeyword transition hkind hword) hsemicolon hspace
    -- Each table starts with the step of its own word, so its first step is taken.
    cases word <;> cases hopener <;>
      simp only [recognizer, steps, oneWord, wordAndObject, hfirst] <;> rfl
  · have hsemicolon : token.kind ≠ .semicolon := by simp [hkind]
    have hspace : token.kind ≠ .whitespace := by simp [hkind]
    simp only [recognizer, steps]
    rw [Recognizer.feed_first rfl rfl rfl rfl hsemicolon hspace]
    rfl

/-- The recognizer of an opener takes the token that opens the statement. -/
lemma follows_open {mode : Mode} {token : Token} {opener : Opener}
    (h : ofToken? mode token = some opener) :
    ((opener.recognizer mode).feed token).2 = .accepted ∧
      ((opener.recognizer mode).feed token).1.Follows mode ⟨token, [], opener.stage⟩ := by
  have hspace : token.kind ≠ .whitespace := by
    rcases ofToken?_eq_some h with ⟨hkind, -⟩ | ⟨hkind, -⟩ <;> simp [hkind]
  rw [feed_open h]
  refine ⟨rfl, rfl, rfl, ?_⟩
  cases opener <;>
    simp [Recognizer.IsAt, Opener.stage, Recognizer.step?, Step.mayFollow, Step.onObject,
      Step.after, steps, wordAndObject, hspace]

/-- A token that is dispatched opens a statement. -/
lemma ofToken?_of_dispatch {mode : Mode} {token : Token} {opener : Opener}
    (h : dispatch mode token = .ok opener) : ofToken? mode token = some opener := by
  rw [dispatch] at h
  split at h
  · next opener' hopener =>
    rw [hopener, Except.ok.inj h]
  · cases h

end Opener

end SqlSplit
