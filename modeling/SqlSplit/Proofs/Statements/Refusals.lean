import Mathlib.Tactic.SplitIfs
import SqlSplit.Proofs.Statements.Lockstep

/-!
# Tokens that are refused

A recognizer goes on after a token that it refuses.  The refusal stands between the writes of a
step: a step that is left before its token is looked at is left by then, and everything else a
token does is still to be done.  So the token is kept in the statement, a step may be left, and
recognition stays as it was.  `Feeds.isUntouched` states this of one token.

The tokens that are kept are never looked at again (`Feeds.withTokens`), and two recognizers that
differ in them alone say the same of all that comes.  Over a table whose steps are not left early a
refused token might as well not have come, except that it is there among the others.  This is the
main statement, `untouched_of_refused`.
-/

namespace SqlSplit

/-- The token came when the statement had ended. -/
def ParseError.isLate : ParseError → Bool
  | alreadyTerminated _ => true
  | unrecognizedLeadingToken .. | missingPredecessor .. | unexpectedToken .. => false

/-- What a statement keeps of a token that is refused: the token, unless it came too late. -/
def ParseError.kept (error : ParseError) (token : Token) : List Token :=
  if error.isLate then [] else [token]

namespace Recognizer

variable {r r' : Recognizer} {token : Token} {tokens : List Token} {verdict : Verdict}
  {error : ParseError}

/-! ## One token -/

/-- The next step is left before its token is looked at. -/
def leavesEarly (r : Recognizer) : Bool :=
  r.step?.any Step.advancesBefore

lemma enter_of_leavesEarly (h : r.leavesEarly = true) : r.enter = r.advance := by
  obtain ⟨step, hstep, hbefore⟩ := (Option.any_eq_true _ _).1 h
  simp only [enter, hstep, hbefore, if_true]

lemma enter_of_not_leavesEarly (h : r.leavesEarly = false) : r.enter = r := by
  unfold enter
  cases hstep : r.step? with
  | none => rfl
  | some step =>
    have hbefore : step.advancesBefore = false := by simpa [leavesEarly, hstep] using h
    simp only [hbefore, Bool.false_eq_true, if_false]

lemma leavesEarly_eq_false (h : ∀ step ∈ r.steps, step.advancesBefore = false) :
    r.leavesEarly = false := by
  unfold leavesEarly
  cases hstep : r.step? with
  | none => rfl
  | some step => exact h step (List.mem_of_getElem? hstep)

lemma isLate_of_refusal? {step : Step} (h : r.refusal? step token = some error) :
    error.isLate = false := by
  unfold refusal? at h
  split_ifs at h <;> cases h <;> rfl

/-- The second recognizer is the first one behind a token that it refused with the error. -/
structure IsUntouched (r r' : Recognizer) (token : Token) (error : ParseError) : Prop where
  mode_eq : r'.mode = r.mode
  steps_eq : r'.steps = r.steps
  type?_eq : r'.statement.type? = r.statement.type?
  start_eq : r'.statement.start = r.statement.start
  last_eq : r'.statement.last = r.statement.last
  terminated_eq : r'.statement.terminated = r.statement.terminated
  previous?_eq : r'.previous? = r.previous?
  tokens_eq : r'.statement.tokens.toList = r.statement.tokens.toList ++ error.kept token
  current_eq : r'.current = r.current + if !error.isLate && r.leavesEarly then 1 else 0

/-- A token that is refused is kept unless it came too late, and may have left a step.  Nothing else
changes. -/
lemma Feeds.isUntouched (h : r.Feeds token r' (.rejected error)) :
    r.IsUntouched r' token error := by
  generalize hverdict : Verdict.rejected error = verdict at h
  cases h with
  | late hended =>
    cases hverdict
    constructor <;> simp [ParseError.kept, ParseError.isLate]
  | ends hopen hkind | passes hopen hkind hfree => cases hverdict
  | exhausts h hstep => cases hverdict
  | takes h hstep hrefusal => split_ifs at hverdict
  | refuses h hstep hrefusal =>
    cases hverdict
    have hlate := isLate_of_refusal? hrefusal
    cases hearly : r.leavesEarly with
    | true =>
      rw [enter_of_leavesEarly hearly]
      constructor <;> simp [record, advance, ParseError.kept, hlate, hearly]
    | false =>
      rw [enter_of_not_leavesEarly hearly]
      constructor <;> simp [record, ParseError.kept, hlate, hearly]

/-! ## The tokens that are kept -/

/-- The recognizer with other tokens in its statement. -/
def withTokens (r : Recognizer) (kept : Array Token) : Recognizer :=
  { r with statement := { r.statement with tokens := kept } }

/-- If no step was left early, a refused token changes no more than the tokens that are kept. -/
lemma IsUntouched.eq_withTokens (h : r.IsUntouched r' token error)
    (hearly : r.leavesEarly = false) : r' = r.withTokens r'.statement.tokens := by
  obtain ⟨hmode, hsteps, htype, hstart, hlast, hterminated, hprevious, -, hcurrent⟩ := h
  rw [hearly, Bool.and_false] at hcurrent
  obtain ⟨mode, steps, current, previous?, statement⟩ := r
  obtain ⟨mode', steps', current', previous?', statement'⟩ := r'
  obtain ⟨type?, start, last, terminated, kept⟩ := statement
  obtain ⟨type?', start', last', terminated', kept'⟩ := statement'
  simp_all [withTokens]

lemma enter_withTokens (r : Recognizer) (kept : Array Token) :
    (r.withTokens kept).enter = r.enter.withTokens kept := by
  have hearly : (r.withTokens kept).leavesEarly = r.leavesEarly := rfl
  cases h : r.leavesEarly with
  | true =>
    rw [enter_of_leavesEarly h, enter_of_leavesEarly (hearly.trans h)]
    rfl
  | false => rw [enter_of_not_leavesEarly h, enter_of_not_leavesEarly (hearly.trans h)]

lemma take_withTokens (r : Recognizer) (kept : Array Token) (step : Step) (token : Token) :
    (r.withTokens kept).take step token = (r.take step token).withTokens kept := by
  unfold take
  cases step.advancesAfter <;> cases step.transition <;> rfl

lemma Examines.withTokens (h : r.Examines token) (kept : Array Token) :
    (r.withTokens kept).Examines token :=
  ⟨h.terminated_eq, h.type?_eq, h.not_semicolon, h.not_space⟩

/-- The tokens that are kept have no part in what a token does. -/
lemma Feeds.withTokens (h : r.Feeds token r' verdict) (kept : Array Token) :
    ∃ kept', (r.withTokens kept).Feeds token (r'.withTokens kept') verdict := by
  cases h with
  | late hended => exact ⟨kept, .late hended⟩
  | ends hopen hkind => exact ⟨kept.push token, .ends hopen hkind⟩
  | passes hopen hkind hfree => exact ⟨kept.push token, .passes hopen hkind hfree⟩
  | exhausts h hstep =>
    have hfeeds : (r.withTokens kept).Feeds token _ _ :=
      .exhausts (h.withTokens kept) (by rw [enter_withTokens]; exact hstep)
    rw [enter_withTokens] at hfeeds
    exact ⟨kept.push token, hfeeds⟩
  | refuses h hstep hrefusal =>
    have hfeeds : (r.withTokens kept).Feeds token _ _ :=
      .refuses (h.withTokens kept) (by rw [enter_withTokens]; exact hstep)
        (by rw [enter_withTokens]; exact hrefusal)
    rw [enter_withTokens] at hfeeds
    exact ⟨kept.push token, hfeeds⟩
  | takes h hstep hrefusal =>
    have hfeeds : (r.withTokens kept).Feeds token _ _ :=
      .takes (h.withTokens kept) (by rw [enter_withTokens]; exact hstep)
        (by rw [enter_withTokens]; exact hrefusal)
    rw [enter_withTokens, take_withTokens] at hfeeds
    exact ⟨kept.push token, hfeeds⟩

lemma exists_run_withTokens (r : Recognizer) (kept : Array Token) (tokens : List Token) :
    (r.withTokens kept).verdicts tokens = r.verdicts tokens ∧
      ∃ kept', (r.withTokens kept).run tokens = (r.run tokens).withTokens kept' := by
  induction tokens generalizing r kept with
  | nil => exact ⟨rfl, kept, rfl⟩
  | cons token tokens ih =>
    obtain ⟨kept', hfeeds⟩ := (r.feeds_feed token).withTokens kept
    obtain ⟨hverdicts, hrun⟩ := ih (r.feed token).1 kept'
    rw [verdicts, verdicts, run_cons, run_cons, hfeeds.feed_eq]
    exact ⟨congrArg _ hverdicts, hrun⟩

lemma tokens_run (r : Recognizer) (tokens : List Token) :
    (r.run tokens).statement.tokens.toList = r.statement.tokens.toList ++
      if r.statement.terminated = true then [] else throughSemicolon tokens := by
  induction tokens generalizing r with
  | nil => cases r.statement.terminated <;> simp [throughSemicolon]
  | cons token tokens ih =>
    have hfeeds := r.feeds_feed token
    rw [run_cons, ih, hfeeds.tokens_eq]
    simp only [hfeeds.terminated_iff]
    by_cases hended : r.statement.terminated = true
    · simp [hended]
    by_cases hkind : token.kind = .semicolon
    · simp [hended, hkind, throughSemicolon]
    · simp [hended, hkind, throughSemicolon]

/-! ## Runs -/

/-- Behind a token that was refused without a step being left, a run says the same as without the
token, and comes to the same statement but for the token. -/
lemma IsUntouched.run (h : r.IsUntouched r' token error) (hearly : r.leavesEarly = false)
    (tokens : List Token) :
    r'.verdicts tokens = r.verdicts tokens ∧
      ∃ behind, (r.run tokens).statement.tokens.toList = r.statement.tokens.toList ++ behind ∧
        (r'.run tokens).statement =
          { (r.run tokens).statement with
            tokens := (r.statement.tokens.toList ++ error.kept token ++ behind).toArray } := by
  obtain ⟨hverdicts, kept, hrun⟩ := r.exists_run_withTokens r'.statement.tokens tokens
  rw [← h.eq_withTokens hearly] at hverdicts hrun
  refine ⟨hverdicts, _, r.tokens_run tokens, ?_⟩
  have hkept := r'.tokens_run tokens
  rw [h.tokens_eq, h.terminated_eq] at hkept
  rw [← hkept, hrun]
  rfl

/-- The recognizer of a table has been fed some tokens and refuses the next one.  Then the type, the
start, the last offset and the end of its statement and the kind it has in mind are as before.  The
token is kept, unless the statement had ended.  The place in the table is the same, or one step
further if the statement had not ended and this step is left before its token is looked at.  Over a
table of which no step is left so, all that comes behind the token has the same verdicts as without
it, and comes to the same statement but for the token. -/
theorem untouched_of_refused {mode : Mode} {steps : List Step} {before : List Token} {token : Token}
    {error : ParseError}
    (h : ((run { mode, steps } before).feed token).2 = .rejected error) :
    let fresh : Recognizer := { mode, steps }
    (fresh.run before).IsUntouched (fresh.run (before ++ [token])) token error ∧
    ((∀ step ∈ steps, step.advancesBefore = false) → ∀ tokens,
      (fresh.run (before ++ [token])).verdicts tokens = (fresh.run before).verdicts tokens ∧
      ∃ behind,
        (fresh.run (before ++ tokens)).statement.tokens.toList =
            (fresh.run before).statement.tokens.toList ++ behind ∧
          (fresh.run (before ++ token :: tokens)).statement =
            { (fresh.run (before ++ tokens)).statement with
              tokens := ((fresh.run before).statement.tokens.toList ++ error.kept token ++
                behind).toArray }) := by
  intro fresh
  have hfeeds := (fresh.run before).feeds_feed token
  rw [h] at hfeeds
  have hstep : fresh.run (before ++ [token]) = ((fresh.run before).feed token).1 := by
    rw [run_append, run_cons, run_nil]
  rw [hstep]
  refine ⟨hfeeds.isUntouched, ?_⟩
  intro hsteps tokens
  have hearly : (fresh.run before).leavesEarly = false := by
    apply leavesEarly_eq_false
    rw [((hasRead_nil mode steps).run before).steps_eq]
    exact hsteps
  rw [run_append, run_append, run_cons]
  exact hfeeds.isUntouched.run hearly tokens

/-- The comment behind `DROP` is refused, and the object behind it is recognized all the same. -/
theorem untouched_of_refused_comment :
    let steps : List Step :=
      [.onKeyword [.drop] .start,
        (Step.onKeyword [.table, .database] (.object .drop)).after [.whitespace]]
    let fresh : Recognizer := { mode := .strict, steps }
    let drop : Token := ⟨.keyword, "DROP", 3, 6⟩
    let comment : Token := ⟨.blockComment, "/**/", 7, 10⟩
    let tokens : List Token :=
      [⟨.whitespace, " ", 11, 11⟩, ⟨.keyword, "table", 12, 16⟩, ⟨.semicolon, ";", 17, 17⟩]
    (fresh.run [drop]).IsUntouched (fresh.run [drop, comment]) comment
        (.missingPredecessor 1 [.whitespace] "/**/" 7) ∧
      (fresh.run [drop, comment]).verdicts tokens = [.accepted, .accepted, .accepted] ∧
      (fresh.run (drop :: comment :: tokens)).statement.type? = some .dropTable := by
  intro steps fresh drop comment tokens
  have hrefused : ((fresh.run [drop]).feed comment).2 =
      .rejected (.missingPredecessor 1 [.whitespace] "/**/" 7) := by
    decide +kernel
  obtain ⟨huntouched, hrest⟩ := untouched_of_refused hrefused
  obtain ⟨hverdicts, behind, -, hstatement⟩ := hrest (by decide +kernel) tokens
  refine ⟨huntouched, hverdicts.trans (by decide +kernel), ?_⟩
  have htype : (fresh.run ([drop] ++ tokens)).statement.type? = some .dropTable := by
    decide +kernel
  exact (congrArg Statement.type? hstatement).trans htype

end Recognizer

end SqlSplit
