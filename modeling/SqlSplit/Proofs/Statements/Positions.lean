import SqlSplit.Opener
import SqlSplit.Proofs.Statements.Refusals

/-!
# Matching tokens by position

A recognizer keeps its place in the table, the kind of the last token and a statement half filled
in, and writes each of them at some of its exits only.  Over a table whose steps are taken in turn,
none of this needs to be kept: it can be read off the *history*, which lists the tokens so far and
what became of them.

A token is *significant* if it is neither white space nor a semicolon and comes before the end of
the statement and before its type is settled.  Significant tokens are matched with the table by
position: if `k` of them were accepted so far, the next one is judged by the step at place `k`.
`History.judge` says how, `History.ofTokens` is the history that comes of it, and
`History.statement` the statement.  The main statement is `remembers_run`: the verdicts and the
state of a recognizer are those of the history.
-/

namespace SqlSplit

/-- The steps are taken in turn: none is left before its token is looked at, and each is left behind
its token. -/
def TakenInTurn (steps : List Step) : Prop :=
  ∀ step ∈ steps, step.advancesBefore = false ∧ step.advancesAfter = true

instance (steps : List Step) : Decidable (TakenInTurn steps) :=
  inferInstanceAs (Decidable (∀ step ∈ steps, _ ∧ _))

lemma Opener.takenInTurn (opener : Opener) : TakenInTurn opener.steps := by
  cases opener <;> decide

/-! ## Judging a token by one step -/

namespace Step

variable {step : Step} {previous? : Option TokenKind} {token : Token}

/-- The step asks for predecessors, and the token before is none of them. -/
def Lacks (step : Step) (previous? : Option TokenKind) : Prop :=
  ∃ kinds, step.predecessors? = some kinds ∧ ∀ kind, previous? = some kind → kind ∉ kinds

/-- The step asks for patterns, and the token matches none of them. -/
def Mismatches (step : Step) (token : Token) : Prop :=
  ∃ patterns, step.accepted? = some patterns ∧ ∀ pattern ∈ patterns, pattern.isMatch token = false

lemma lacks_iff : step.Lacks previous? ↔ step.mayFollow previous? = false := by
  unfold Lacks mayFollow
  cases step.predecessors? <;> cases previous? <;> simp

lemma mismatches_iff : step.Mismatches token ↔ step.accepts token = false := by
  unfold Mismatches accepts
  cases step.accepted? <;> simp

instance (step : Step) (previous? : Option TokenKind) : Decidable (step.Lacks previous?) :=
  decidable_of_iff _ lacks_iff.symm

instance (step : Step) (token : Token) : Decidable (step.Mismatches token) :=
  decidable_of_iff _ mismatches_iff.symm

/-- What becomes of a token at the step of the given place, behind a token of the given kind. -/
def judge (step : Step) (mode : Mode) (place : Nat) (previous? : Option TokenKind)
    (token : Token) : Verdict :=
  if step.Lacks previous? then
    .rejected (.missingPredecessor place (step.predecessors?.getD []) token.value token.start)
  else if step.Mismatches token then
    match mode with
    | .strict =>
      .rejected (.unexpectedToken place (step.accepted?.getD []) token.kind token.value token.start)
    | .lenient => .tolerated place
  else .accepted

end Step

/-- A recognizer judges a token by its step in this way. -/
lemma Recognizer.judge_eq (r : Recognizer) (step : Step) (token : Token) :
    step.judge r.mode r.current r.previous? token =
      match r.refusal? step token with
      | some error => .rejected error
      | none => if step.accepts token then .accepted else .tolerated r.current := by
  simp only [Step.judge, Step.lacks_iff, Step.mismatches_iff]
  cases hmode : r.mode with
  | strict =>
    rw [refusal?_strict hmode]
    cases step.mayFollow r.previous? <;> cases step.accepts token <;> rfl
  | lenient =>
    rw [refusal?_lenient hmode]
    cases step.mayFollow r.previous? <;> cases step.accepts token <;> rfl

/-! ## Histories -/

/-- What the steps make of tokens, the first step of the first token and so on, until either of them
run out. -/
def placement (steps : List Step) (tokens : List Token) : Statement :=
  (steps.zip tokens).foldl (fun statement pair => pair.1.transition.apply statement pair.2) {}

/-- The tokens so far, in order, each with what became of it. -/
abbrev History := List (Token × Verdict)

namespace History

/-- The tokens that were not refused, in order. -/
def accepted (past : History) : List Token :=
  (past.filter fun entry => entry.2.error?.isNone).map Prod.fst

/-- The kind of the latest token that was not refused. -/
def latest? (past : History) : Option TokenKind :=
  past.accepted.getLast?.map Token.kind

/-- A semicolon has ended the statement. -/
def HasEnded (past : History) : Prop :=
  HasSemicolon (past.map Prod.fst)

instance (past : History) : Decidable past.HasEnded :=
  inferInstanceAs (Decidable (HasSemicolon _))

/-- Behind significant tokens that were accepted, a token of a statement that has not ended is
significant if the type is not settled yet and the token is neither white space nor a semicolon. -/
def Counts (steps : List Step) (placed : List Token) (token : Token) : Prop :=
  (placement steps placed).type? = none ∧ token.kind ≠ .whitespace ∧ token.kind ≠ .semicolon

instance (steps : List Step) (placed : List Token) (token : Token) :
    Decidable (Counts steps placed token) :=
  inferInstanceAs (Decidable (_ ∧ _))

/-- The significant tokens that were accepted, in order.  Nothing is accepted behind the end, so
that the end need not be asked for. -/
def placed (past : History) (steps : List Step) : List Token :=
  past.foldl (fun placed entry =>
    if entry.2.error? = none ∧ Counts steps placed entry.1 then placed ++ [entry.1] else placed) []

/-- What becomes of the next token.  A significant one is judged by the step at the place that the
number of those before it gives, if there is a step left. -/
def judge (past : History) (mode : Mode) (steps : List Step) (token : Token) : Verdict :=
  if past.HasEnded then .rejected (.alreadyTerminated token.start)
  else if Counts steps (past.placed steps) token then
    match steps[(past.placed steps).length]? with
    | none => .accepted
    | some step => step.judge mode (past.placed steps).length past.latest? token
  else .accepted

/-- The history of tokens that are matched with the steps by position. -/
def ofTokens (mode : Mode) (steps : List Step) (tokens : List Token) : History :=
  tokens.foldl (fun past token => past ++ [(token, past.judge mode steps token)]) []

/-- The statement that has this history: its type and its start are what the steps make of the
significant tokens that were accepted. -/
def statement (past : History) (steps : List Step) : Statement :=
  { placement steps (past.placed steps) with
    terminated := decide past.HasEnded
    tokens := (throughSemicolon (past.map Prod.fst)).toArray }

/-! ## One token more -/

variable {past : History} {steps : List Step} {token : Token} {verdict : Verdict}

lemma latest?_concat :
    latest? (past ++ [(token, verdict)]) =
      if verdict.error? = none then some token.kind else past.latest? := by
  cases h : verdict.error? <;> simp [latest?, accepted, h]

lemma hasEnded_concat :
    HasEnded (past ++ [(token, verdict)]) ↔ past.HasEnded ∨ token.kind = .semicolon := by
  rw [HasEnded, List.map_append, List.map_singleton, hasSemicolon_concat]
  rfl

lemma placed_concat :
    placed (past ++ [(token, verdict)]) steps =
      if verdict.error? = none ∧ Counts steps (past.placed steps) token then
        past.placed steps ++ [token]
      else past.placed steps := by
  rw [placed, List.foldl_append]
  rfl

lemma throughSemicolon_concat_of_open (h : ¬ past.HasEnded) :
    throughSemicolon ((past ++ [(token, verdict)]).map Prod.fst) =
      throughSemicolon (past.map Prod.fst) ++ [token] := by
  rw [List.map_append, List.map_singleton, throughSemicolon_concat]
  exact if_neg h

end History

section Placement

variable {steps : List Step} {tokens : List Token} {step : Step} {token : Token}

lemma zip_concat_of_getElem? (h : steps[tokens.length]? = some step) :
    steps.zip (tokens ++ [token]) = steps.zip tokens ++ [(step, token)] := by
  induction tokens generalizing steps with
  | nil =>
    obtain ⟨rest, rfl⟩ : ∃ rest, steps = step :: rest := by
      cases steps with
      | nil => cases h
      | cons first rest => exact ⟨rest, by rw [Option.some.inj h]⟩
    simp
  | cons first tokens ih =>
    cases steps with
    | nil => cases h
    | cons head steps =>
      rw [List.length_cons, List.getElem?_cons_succ] at h
      simp [ih h]

/-- One token more takes one step more. -/
lemma placement_concat (h : steps[tokens.length]? = some step) :
    placement steps (tokens ++ [token]) =
      step.transition.apply (placement steps tokens) token := by
  rw [placement, zip_concat_of_getElem? h, List.foldl_append]
  rfl

lemma placement_append_of_le (h : steps.length ≤ tokens.length) (behind : List Token) :
    placement steps (tokens ++ behind) = placement steps tokens := by
  have hzip : steps.zip (tokens ++ behind) = steps.zip tokens := by
    induction steps generalizing tokens with
    | nil => rfl
    | cons head steps ih =>
      cases tokens with
      | nil => cases h
      | cons first tokens =>
        rw [List.cons_append, List.zip_cons_cons, List.zip_cons_cons, ih (by simpa using h)]
  rw [placement, hzip]
  rfl

end Placement

/-! ## A recognizer and its history -/

namespace Recognizer

variable {r r' : Recognizer} {mode : Mode} {steps : List Step} {past : History} {token : Token}
  {verdict : Verdict}

/-- What the recognizer keeps is what the history shows. -/
structure Remembers (r : Recognizer) (mode : Mode) (steps : List Step) (past : History) :
    Prop where
  mode_eq : r.mode = mode
  steps_eq : r.steps = steps
  current_eq : r.current = min (past.placed steps).length steps.length
  /-- Behind the end no token asks for the one before it. -/
  previous?_eq : ¬ past.HasEnded → r.previous? = past.latest?
  statement_eq : r.statement = past.statement steps

namespace Remembers

lemma fresh (mode : Mode) (steps : List Step) :
    ({ mode, steps } : Recognizer).Remembers mode steps [] where
  mode_eq := rfl
  steps_eq := rfl
  current_eq := by simp [History.placed]
  previous?_eq _ := rfl
  statement_eq := by
    simp [History.statement, History.placed, History.HasEnded, HasSemicolon, placement,
      throughSemicolon]

lemma terminated_iff (h : r.Remembers mode steps past) :
    r.statement.terminated = true ↔ past.HasEnded := by
  rw [h.statement_eq]
  exact decide_eq_true_iff

lemma not_hasEnded (h : r.Remembers mode steps past) (hopen : r.statement.terminated = false) :
    ¬ past.HasEnded := by
  rw [← h.terminated_iff, hopen]
  exact Bool.false_ne_true

lemma step?_eq (h : r.Remembers mode steps past) :
    r.step? = steps[(past.placed steps).length]? := by
  rw [step?, h.steps_eq, h.current_eq]
  by_cases hle : (past.placed steps).length ≤ steps.length
  · rw [Nat.min_eq_left hle]
  · have hge : steps.length ≤ (past.placed steps).length := Nat.le_of_not_le hle
    rw [Nat.min_eq_right hge, List.getElem?_eq_none hge, List.getElem?_eq_none (Nat.le_refl _)]

lemma enter_eq (h : r.Remembers mode steps past) (hturn : TakenInTurn steps) : r.enter = r := by
  apply enter_of_not_leavesEarly
  apply leavesEarly_eq_false
  rw [h.steps_eq]
  exact fun step hmem => (hturn step hmem).1

/-- An open statement is what its significant tokens make of it, with all its tokens. -/
lemma statement_eq_of_open (h : r.Remembers mode steps past) (hopen : ¬ past.HasEnded) :
    r.statement =
      { placement steps (past.placed steps) with
        terminated := false
        tokens := (throughSemicolon (past.map Prod.fst)).toArray } := by
  rw [h.statement_eq, History.statement, decide_eq_false hopen]

lemma examines_iff (h : r.Remembers mode steps past) (hopen : ¬ past.HasEnded) :
    r.Examines token ↔ History.Counts steps (past.placed steps) token := by
  have htype : r.statement.type? = (placement steps (past.placed steps)).type? := by
    rw [h.statement_eq]
    rfl
  have hterminated := Bool.eq_false_iff.2 (mt h.terminated_iff.1 hopen)
  constructor
  · intro hexamines
    exact ⟨htype ▸ hexamines.type?_eq, hexamines.not_space, hexamines.not_semicolon⟩
  · rintro ⟨hnone, hspace, hsemicolon⟩
    exact ⟨hterminated, htype ▸ hnone, hsemicolon, hspace⟩

lemma record {s : Recognizer} (hopen : ¬ past.HasEnded) (hkind : token.kind ≠ .semicolon)
    (hmode : s.mode = mode) (hsteps : s.steps = steps)
    (hcurrent : s.current =
      min (History.placed (past ++ [(token, verdict)]) steps).length steps.length)
    (hprevious : s.previous? = History.latest? (past ++ [(token, verdict)]))
    (hstatement : s.statement =
      { placement steps (History.placed (past ++ [(token, verdict)]) steps) with
        terminated := false
        tokens := (throughSemicolon (past.map Prod.fst)).toArray }) :
    (s.record token).Remembers mode steps (past ++ [(token, verdict)]) where
  mode_eq := hmode
  steps_eq := hsteps
  current_eq := hcurrent
  previous?_eq _ := hprevious
  statement_eq := by
    have hended : ¬ History.HasEnded (past ++ [(token, verdict)]) := by
      rw [History.hasEnded_concat]
      exact not_or.2 ⟨hopen, hkind⟩
    rw [History.statement, decide_eq_false hended, History.throughSemicolon_concat_of_open hopen]
    simp [Recognizer.record, hstatement]

/-- A significant token is judged by the step that the recognizer stands at. -/
lemma judge_eq (h : r.Remembers mode steps past) (hexamines : r.Examines token) :
    past.judge mode steps token =
      match r.step? with
      | none => .accepted
      | some step => step.judge r.mode r.current r.previous? token := by
  have hopen := h.not_hasEnded hexamines.terminated_eq
  rw [History.judge, if_neg hopen, if_pos ((h.examines_iff hopen).1 hexamines), ← h.step?_eq]
  cases hstep : r.step? with
  | none => rfl
  | some step =>
    have hlt : (past.placed steps).length < steps.length := by
      rw [h.step?_eq] at hstep
      exact (List.getElem?_eq_some_iff.1 hstep).1
    have hcurrent : r.current = (past.placed steps).length :=
      h.current_eq.trans (Nat.min_eq_left (Nat.le_of_lt hlt))
    rw [h.mode_eq, hcurrent, h.previous?_eq hopen]

end Remembers

/-- Writing to the end and to the tokens of a statement commutes with a transition. -/
lemma apply_with (transition : Transition) (statement : Statement) (token : Token)
    (terminated : Bool) (tokens : Array Token) :
    transition.apply { statement with terminated, tokens } token =
      { transition.apply statement token with terminated, tokens } := by
  cases transition <;> rfl

lemma Remembers.late (h : r.Remembers mode steps past) (hpast : past.HasEnded)
    (hverdict : verdict.error? ≠ none) :
    r.Remembers mode steps (past ++ [(token, verdict)]) := by
  have hplaced : History.placed (past ++ [(token, verdict)]) steps = past.placed steps := by
    rw [History.placed_concat]
    exact if_neg fun hboth => hverdict hboth.1
  have hended : History.HasEnded (past ++ [(token, verdict)]) :=
    History.hasEnded_concat.2 (.inl hpast)
  constructor
  case mode_eq => exact h.mode_eq
  case steps_eq => exact h.steps_eq
  case current_eq =>
    rw [hplaced]
    exact h.current_eq
  case previous?_eq => exact fun hopen => absurd hended hopen
  case statement_eq =>
    rw [h.statement_eq, History.statement, History.statement, hplaced, decide_eq_true hpast,
      decide_eq_true hended, List.map_append, List.map_singleton, throughSemicolon_concat]
    simp only [if_pos (show HasSemicolon (past.map Prod.fst) from hpast)]

lemma Remembers.ends (h : r.Remembers mode steps past) (hopen : ¬ past.HasEnded)
    (hkind : token.kind = .semicolon) :
    (r.terminate.record token).Remembers mode steps (past ++ [(token, .accepted)]) := by
  have hplaced : History.placed (past ++ [(token, .accepted)]) steps = past.placed steps := by
    rw [History.placed_concat]
    exact if_neg fun hboth => hboth.2.2.2 hkind
  have hended : History.HasEnded (past ++ [(token, .accepted)]) :=
    History.hasEnded_concat.2 (.inr hkind)
  constructor
  case mode_eq => exact h.mode_eq
  case steps_eq => exact h.steps_eq
  case current_eq =>
    rw [hplaced]
    exact h.current_eq
  case previous?_eq => exact fun hstill => absurd hended hstill
  case statement_eq =>
    rw [History.statement, hplaced, decide_eq_true hended,
      History.throughSemicolon_concat_of_open hopen]
    simp [terminate, Recognizer.record, h.statement_eq_of_open hopen]

lemma Remembers.passes (h : r.Remembers mode steps past) (hopen : ¬ past.HasEnded)
    (hkind : token.kind ≠ .semicolon) (hfree : ¬ r.Examines token) :
    ((r.remember token.kind).record token).Remembers mode steps (past ++ [(token, .accepted)]) := by
  have hplaced : History.placed (past ++ [(token, .accepted)]) steps = past.placed steps := by
    rw [History.placed_concat]
    exact if_neg fun hboth => hfree ((h.examines_iff hopen).2 hboth.2)
  apply Remembers.record (s := r.remember token.kind) hopen hkind h.mode_eq h.steps_eq
  case hcurrent =>
    rw [hplaced]
    exact h.current_eq
  case hprevious => exact (History.latest?_concat.trans (if_pos rfl)).symm
  case hstatement =>
    rw [hplaced]
    exact h.statement_eq_of_open hopen

lemma Remembers.exhausts (h : r.Remembers mode steps past) (hexamines : r.Examines token)
    (hstep : r.step? = none) :
    ((r.remember token.kind).record token).Remembers mode steps (past ++ [(token, .accepted)]) := by
  have hopen := h.not_hasEnded hexamines.terminated_eq
  have hplaced : History.placed (past ++ [(token, .accepted)]) steps =
      past.placed steps ++ [token] := by
    -- The token is counted all the same.  No step stands at its place.
    rw [History.placed_concat]
    exact if_pos ⟨rfl, (h.examines_iff hopen).1 hexamines⟩
  have hle : steps.length ≤ (past.placed steps).length := by
    rw [h.step?_eq] at hstep
    exact List.getElem?_eq_none_iff.1 hstep
  apply Remembers.record (s := r.remember token.kind) hopen hexamines.not_semicolon h.mode_eq
    h.steps_eq
  case hcurrent =>
    have hcurrent := h.current_eq
    rw [hplaced, List.length_append, List.length_singleton]
    simp only [remember]
    omega
  case hprevious => exact (History.latest?_concat.trans (if_pos rfl)).symm
  case hstatement =>
    rw [hplaced, placement_append_of_le hle]
    exact h.statement_eq_of_open hopen

lemma Remembers.refuses (h : r.Remembers mode steps past) (hexamines : r.Examines token)
    (error : ParseError) :
    (r.record token).Remembers mode steps (past ++ [(token, .rejected error)]) := by
  have hopen := h.not_hasEnded hexamines.terminated_eq
  have hplaced : History.placed (past ++ [(token, .rejected error)]) steps = past.placed steps := by
    rw [History.placed_concat]
    exact if_neg fun hboth => nomatch hboth.1
  apply Remembers.record hopen hexamines.not_semicolon h.mode_eq h.steps_eq
  case hcurrent =>
    rw [hplaced]
    exact h.current_eq
  case hprevious => rw [History.latest?_concat, if_neg nofun, h.previous?_eq hopen]
  case hstatement =>
    rw [hplaced]
    exact h.statement_eq_of_open hopen

lemma Remembers.takes {step : Step} (h : r.Remembers mode steps past)
    (hexamines : r.Examines token) (hstep : r.step? = some step)
    (hafter : step.advancesAfter = true) (hverdict : verdict.error? = none) :
    ((r.take step token).record token).Remembers mode steps (past ++ [(token, verdict)]) := by
  have hopen := h.not_hasEnded hexamines.terminated_eq
  have hplaced : History.placed (past ++ [(token, verdict)]) steps =
      past.placed steps ++ [token] := by
    rw [History.placed_concat]
    exact if_pos ⟨hverdict, (h.examines_iff hopen).1 hexamines⟩
  rw [h.step?_eq] at hstep
  have hlt := (List.getElem?_eq_some_iff.1 hstep).1
  have htake : r.take step token =
      { r with
        current := r.current + 1
        previous? := some token.kind
        statement := step.transition.apply r.statement token } := by
    simp [take, hafter, advance, remember]
  apply Remembers.record (s := r.take step token) hopen hexamines.not_semicolon
  all_goals rw [htake]
  case hmode => exact h.mode_eq
  case hsteps => exact h.steps_eq
  case hcurrent =>
    have hcurrent := h.current_eq
    rw [hplaced, List.length_append, List.length_singleton]
    show r.current + 1 = _
    omega
  case hprevious => rw [History.latest?_concat, if_pos hverdict]
  case hstatement =>
    rw [hplaced, placement_concat hstep]
    show step.transition.apply r.statement token = _
    rw [h.statement_eq_of_open hopen, apply_with]

/-- A recognizer says of a token what its history says, and then has the history with this token. -/
lemma Remembers.feeds (h : r.Remembers mode steps past) (hturn : TakenInTurn steps)
    (hfeeds : r.Feeds token r' verdict) :
    verdict = past.judge mode steps token ∧
      r'.Remembers mode steps (past ++ [(token, verdict)]) := by
  have henter := h.enter_eq hturn
  cases hfeeds with
  | late hended =>
    have hpast := h.terminated_iff.1 hended
    exact ⟨(if_pos hpast).symm, h.late hpast nofun⟩
  | ends hopen hkind =>
    have hstill := h.not_hasEnded hopen
    refine ⟨?_, h.ends hstill hkind⟩
    rw [History.judge, if_neg hstill, if_neg fun hcounts => hcounts.2.2 hkind]
  | passes hopen hkind hfree =>
    have hstill := h.not_hasEnded hopen
    have hfree' : ¬ r.Examines token := fun hexamines =>
      hfree.elim hexamines.not_space (absurd hexamines.type?_eq)
    refine ⟨?_, h.passes hstill hkind hfree'⟩
    rw [History.judge, if_neg hstill, if_neg (mt (h.examines_iff hstill).2 hfree')]
  | exhausts hexamines hstep =>
    rw [henter] at hstep ⊢
    refine ⟨?_, h.exhausts hexamines hstep⟩
    rw [h.judge_eq hexamines, hstep]
  | @refuses step error hexamines hstep hrefusal =>
    rw [henter] at hstep hrefusal ⊢
    refine ⟨?_, h.refuses hexamines error⟩
    rw [h.judge_eq hexamines, hstep]
    simp only [r.judge_eq, hrefusal]
  | @takes step hexamines hstep hrefusal =>
    rw [henter] at hstep hrefusal ⊢
    have hmem : step ∈ steps := by
      rw [h.step?_eq] at hstep
      exact List.mem_of_getElem? hstep
    refine ⟨?_, h.takes hexamines hstep (hturn step hmem).2 ?_⟩
    · rw [h.judge_eq hexamines, hstep]
      simp only [r.judge_eq, hrefusal]
    · split_ifs <;> rfl

/-! ## Runs -/

/-- The verdicts of a run and the recognizer behind it are those of the history. -/
lemma Remembers.run (h : r.Remembers mode steps past) (hturn : TakenInTurn steps)
    (tokens : List Token) :
    past ++ tokens.zip (r.verdicts tokens) =
        tokens.foldl (fun (past : History) token =>
          past ++ [(token, past.judge mode steps token)]) past ∧
      (r.run tokens).Remembers mode steps (past ++ tokens.zip (r.verdicts tokens)) := by
  -- Both the recognizer and its history are those of the tokens before, so neither is fixed.
  induction tokens generalizing r past with
  | nil => simpa using h
  | cons token tokens ih =>
    obtain ⟨hverdict, hnext⟩ := h.feeds hturn (r.feeds_feed token)
    obtain ⟨hhistory, hrun⟩ := ih hnext
    rw [List.append_assoc] at hhistory hrun
    rw [List.foldl_cons, ← hverdict]
    exact ⟨hhistory, hrun⟩

/-- Over a table whose steps are taken in turn, such as those of all openers, and in either mode:
the verdicts on any tokens are those that matching the tokens with the steps by position gives, and
the state behind them is what the history of this matching shows. -/
theorem remembers_run :
    (∀ opener : Opener, TakenInTurn opener.steps) ∧
    ∀ (mode : Mode) (steps : List Step), TakenInTurn steps → ∀ tokens : List Token,
      tokens.zip (verdicts { mode, steps } tokens) = History.ofTokens mode steps tokens ∧
        (run { mode, steps } tokens).Remembers mode steps (History.ofTokens mode steps tokens) := by
  refine ⟨Opener.takenInTurn, ?_⟩
  intro mode steps hturn tokens
  obtain ⟨hhistory, hrun⟩ := (Remembers.fresh mode steps).run hturn tokens
  rw [List.nil_append] at hhistory hrun
  rw [← History.ofTokens] at hhistory
  rw [← hhistory]
  exact ⟨rfl, hrun⟩

/-- The comments behind `DROP` are refused.  The second place is left for the object, which may
follow the white space although a comment stands between them. -/
theorem remembers_run_comments :
    let drop : Token := ⟨.keyword, "DROP", 0, 3⟩
    let first : Token := ⟨.blockComment, "/**/", 4, 7⟩
    let space : Token := ⟨.whitespace, " ", 8, 8⟩
    let second : Token := ⟨.blockComment, "/**/", 9, 12⟩
    let table : Token := ⟨.keyword, "table", 13, 17⟩
    let semicolon : Token := ⟨.semicolon, ";", 18, 18⟩
    let tokens : List Token := [drop, first, space, second, table, semicolon]
    tokens.zip (verdicts { mode := .strict, steps := Opener.drop.steps } tokens) =
        [(drop, .accepted),
          (first, .rejected (.missingPredecessor 1 [.whitespace] "/**/" 4)),
          (space, .accepted),
          (second, .rejected (.unexpectedToken 1 [.keyword .table, .keyword .database]
            .blockComment "/**/" 9)),
          (table, .accepted), (semicolon, .accepted)] ∧
      (run { mode := .strict, steps := Opener.drop.steps } tokens).statement.type? =
        some .dropTable := by
  intro drop first space second table semicolon tokens
  obtain ⟨hhistory, hrun⟩ := remembers_run.2 .strict Opener.drop.steps (by decide) tokens
  refine ⟨hhistory.trans (by decide +kernel), ?_⟩
  rw [hrun.statement_eq]
  decide +kernel

end Recognizer

end SqlSplit
