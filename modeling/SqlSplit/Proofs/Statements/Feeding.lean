import Mathlib.Tactic.Lemma
import SqlSplit.Recognizer

/-!
# Recognizers over any table

The tables that openers come with are short and alike.  A recognizer itself takes any list of
steps, and any tokens, and goes on after it has refused one.  This file says what can be relied on
then.

`Feeds` lists the ways a token can go.  `feeds_feed` states that the list is complete, and
`Feeds.feed_eq` that a token goes one way only; nothing behind these looks into `feed` again.
`HasRead` is what a recognizer keeps up from token to token: which tokens are in its statement,
whether the statement has ended, and how far it is in its table.  The main statement is
`isSteady_run`, on what a recognizer is like after any tokens over any table.
-/

namespace SqlSplit

/-- The tokens up to and including the first semicolon, or all of them if there is none. -/
def throughSemicolon : List Token → List Token
  | [] => []
  | token :: tokens =>
    if token.kind = .semicolon then [token] else token :: throughSemicolon tokens

/-- One of the tokens is a semicolon. -/
def HasSemicolon (tokens : List Token) : Prop :=
  .semicolon ∈ tokens.map Token.kind

instance (tokens : List Token) : Decidable (HasSemicolon tokens) :=
  inferInstanceAs (Decidable (_ ∈ _))

lemma hasSemicolon_concat {tokens : List Token} {token : Token} :
    HasSemicolon (tokens ++ [token]) ↔ HasSemicolon tokens ∨ token.kind = .semicolon := by
  simp [HasSemicolon, eq_comm]

lemma throughSemicolon_concat (tokens : List Token) (token : Token) :
    throughSemicolon (tokens ++ [token]) =
      if HasSemicolon tokens then throughSemicolon tokens
      else throughSemicolon tokens ++ [token] := by
  induction tokens with
  | nil => simp [throughSemicolon, HasSemicolon]
  | cons head tokens ih =>
    by_cases hkind : head.kind = .semicolon
    · simp [throughSemicolon, HasSemicolon, hkind]
    · have hhead : HasSemicolon (head :: tokens) ↔ HasSemicolon tokens := by
        simp [HasSemicolon, Ne.symm hkind]
      simp only [List.cons_append, throughSemicolon, if_neg hkind, ih, hhead]
      by_cases htokens : HasSemicolon tokens
      · rw [if_pos htokens, if_pos htokens]
      · rw [if_neg htokens, if_neg htokens]

namespace Recognizer

variable {r r' : Recognizer} {step : Step} {token : Token} {verdict : Verdict}

/-! ## The ways a token can go -/

/-- The token goes to a step of the table: the statement is open, its type is not settled, and the
token is neither a semicolon nor white space. -/
structure Examines (r : Recognizer) (token : Token) : Prop where
  terminated_eq : r.statement.terminated = false
  type?_eq : r.statement.type? = none
  not_semicolon : token.kind ≠ .semicolon
  not_space : token.kind ≠ .whitespace

/-- Ends the statement. -/
def terminate (r : Recognizer) : Recognizer :=
  { r with statement := { r.statement with terminated := true } }

/-- What feeding a token comes to. -/
inductive Feeds (r : Recognizer) (token : Token) : Recognizer → Verdict → Prop
  /-- The statement has ended before. -/
  | late (hended : r.statement.terminated = true) :
      Feeds r token r (.rejected (.alreadyTerminated token.start))
  /-- The token ends the statement. -/
  | ends (hopen : r.statement.terminated = false) (hkind : token.kind = .semicolon) :
      Feeds r token (r.terminate.record token) .accepted
  /-- No step is asked. -/
  | passes (hopen : r.statement.terminated = false) (hkind : token.kind ≠ .semicolon)
      (hfree : token.kind = .whitespace ∨ r.statement.type? ≠ none) :
      Feeds r token ((r.remember token.kind).record token) .accepted
  /-- No step is left that could be asked. -/
  | exhausts (h : r.Examines token) (hstep : r.enter.step? = none) :
      Feeds r token ((r.enter.remember token.kind).record token) .accepted
  | refuses {step : Step} {error : ParseError} (h : r.Examines token)
      (hstep : r.enter.step? = some step) (hrefusal : r.enter.refusal? step token = some error) :
      Feeds r token (r.enter.record token) (.rejected error)
  | takes {step : Step} (h : r.Examines token) (hstep : r.enter.step? = some step)
      (hrefusal : r.enter.refusal? step token = none) :
      Feeds r token ((r.enter.take step token).record token)
        (if step.accepts token then .accepted else .tolerated r.enter.current)

lemma feed_of_semicolon (hopen : r.statement.terminated = false) (hkind : token.kind = .semicolon) :
    r.feed token = (r.terminate.record token, .accepted) := by
  simp only [feed, hopen, consider, hkind]
  rfl

lemma feed_of_free (hopen : r.statement.terminated = false) (hkind : token.kind ≠ .semicolon)
    (hfree : token.kind = .whitespace ∨ r.statement.type? ≠ none) :
    r.feed token = ((r.remember token.kind).record token, .accepted) := by
  rw [feed, if_neg (by simp [hopen])]
  rcases hfree with hspace | htype
  · simp only [consider, hspace]
  · have hsome := Option.isSome_iff_ne_none.2 htype
    unfold consider
    cases hkind' : token.kind <;> simp_all

lemma Examines.feed_eq (h : r.Examines token) :
    r.feed token = ((r.classify token).1.record token, (r.classify token).2) := by
  have hopen := h.terminated_eq
  have htype := h.type?_eq
  have hsemicolon := h.not_semicolon
  have hspace := h.not_space
  have hconsider : r.consider token = r.classify token := by
    unfold consider
    cases hkind : token.kind <;> simp_all
  rw [feed, if_neg (by simp [hopen]), hconsider]

/-- There are no other ways. -/
lemma feeds_feed (r : Recognizer) (token : Token) :
    r.Feeds token (r.feed token).1 (r.feed token).2 := by
  by_cases hended : r.statement.terminated = true
  · rw [feed, if_pos hended]
    exact .late hended
  have hopen : r.statement.terminated = false := Bool.eq_false_iff.2 hended
  by_cases hsemicolon : token.kind = .semicolon
  · rw [feed_of_semicolon hopen hsemicolon]
    exact .ends hopen hsemicolon
  by_cases hfree : token.kind = .whitespace ∨ r.statement.type? ≠ none
  · rw [feed_of_free hopen hsemicolon hfree]
    exact .passes hopen hsemicolon hfree
  · obtain ⟨hspace, htype⟩ := not_or.1 hfree
    have h : r.Examines token := ⟨hopen, Classical.not_not.1 htype, hsemicolon, hspace⟩
    rw [h.feed_eq, classify]
    cases hstep : r.enter.step? with
    | none => exact .exhausts h hstep
    | some step =>
      simp only
      cases hrefusal : r.enter.refusal? step token with
      | some error => exact .refuses h hstep hrefusal
      | none => exact .takes h hstep hrefusal

/-- A token goes one way only. -/
lemma Feeds.feed_eq (h : r.Feeds token r' verdict) : r.feed token = (r', verdict) := by
  cases h with
  | late hended => rw [feed, if_pos hended]
  | ends hopen hkind => exact feed_of_semicolon hopen hkind
  | passes hopen hkind hfree => exact feed_of_free hopen hkind hfree
  | exhausts h hstep => simp only [h.feed_eq, classify, hstep]
  | refuses h hstep hrefusal => simp only [h.feed_eq, classify, hstep, hrefusal]
  | takes h hstep hrefusal => simp only [h.feed_eq, classify, hstep, hrefusal]

/-! ## What a token leaves as it is -/

lemma enter_eq (r : Recognizer) :
    r.enter = r ∨ r.enter = r.advance ∧ r.current < r.steps.length := by
  unfold enter
  cases hstep : r.step? with
  | none => exact .inl rfl
  | some step =>
    by_cases hbefore : step.advancesBefore = true
    · exact .inr ⟨if_pos hbefore, (List.getElem?_eq_some_iff.1 hstep).1⟩
    · exact .inl (if_neg hbefore)

@[simp] lemma statement_enter (r : Recognizer) : r.enter.statement = r.statement := by
  rcases r.enter_eq with h | ⟨h, -⟩ <;> rw [h]; rfl

@[simp] lemma steps_enter (r : Recognizer) : r.enter.steps = r.steps := by
  rcases r.enter_eq with h | ⟨h, -⟩ <;> rw [h]; rfl

lemma current_enter (r : Recognizer) (h : r.current ≤ r.steps.length) :
    r.current ≤ r.enter.current ∧ r.enter.current ≤ r.current + 1 ∧
      r.enter.current ≤ r.steps.length := by
  rcases r.enter_eq with henter | ⟨henter, hlt⟩
  · rw [henter]
    exact ⟨Nat.le_refl _, Nat.le_succ _, h⟩
  · rw [henter]
    exact ⟨Nat.le_succ _, Nat.le_refl _, hlt⟩

@[simp] lemma steps_take (r : Recognizer) (step : Step) (token : Token) :
    (r.take step token).steps = r.steps := by
  unfold take
  cases step.advancesAfter <;> rfl

@[simp] lemma statement_take (r : Recognizer) (step : Step) (token : Token) :
    (r.take step token).statement = step.transition.apply r.statement token := by
  unfold take
  cases step.advancesAfter <;> rfl

lemma current_take (r : Recognizer) (step : Step) (token : Token) :
    r.current ≤ (r.take step token).current ∧ (r.take step token).current ≤ r.current + 1 := by
  unfold take
  cases step.advancesAfter
  · exact ⟨Nat.le_refl _, Nat.le_succ _⟩
  · exact ⟨Nat.le_succ _, Nat.le_refl _⟩

/-- A transition settles the type and the start, and nothing else. -/
lemma apply_eq (transition : Transition) (statement : Statement) (token : Token) :
    (transition.apply statement token).last = statement.last ∧
      (transition.apply statement token).terminated = statement.terminated ∧
      (transition.apply statement token).tokens = statement.tokens := by
  cases transition <;> exact ⟨rfl, rfl, rfl⟩

namespace Feeds

/-- The table stays, and the place in it moves on by two steps at most and never out of it. -/
lemma current_le (h : r.Feeds token r' verdict) (hle : r.current ≤ r.steps.length) :
    r'.steps = r.steps ∧ r.current ≤ r'.current ∧ r'.current ≤ r.current + 2 ∧
      r'.current ≤ r.steps.length := by
  have henter := r.current_enter hle
  cases h with
  | late hended => exact ⟨rfl, by omega, by omega, hle⟩
  | ends hopen hkind => exact ⟨rfl, Nat.le_refl _, Nat.le_add_right _ 2, hle⟩
  | passes hopen hkind hfree => exact ⟨rfl, Nat.le_refl _, Nat.le_add_right _ 2, hle⟩
  | exhausts h hstep =>
    refine ⟨r.steps_enter, ?_⟩
    simp only [record, remember]
    omega
  | refuses h hstep hrefusal =>
    refine ⟨r.steps_enter, ?_⟩
    simp only [record]
    omega
  | @takes step h hstep hrefusal =>
    have hlt : r.enter.current < r.enter.steps.length := (List.getElem?_eq_some_iff.1 hstep).1
    have htake := r.enter.current_take step token
    rw [steps_enter] at hlt
    refine ⟨by simp [record], ?_⟩
    simp only [record]
    omega

lemma last_eq (h : r.Feeds token r' verdict) : r'.statement.last = r.statement.last := by
  cases h with
  | takes h hstep hrefusal => simp [record, apply_eq]
  | _ => simp [record, remember, terminate]

/-- A token is recorded unless the statement has ended, whether it is refused or not. -/
lemma tokens_eq (h : r.Feeds token r' verdict) :
    r'.statement.tokens.toList =
      if r.statement.terminated = true then r.statement.tokens.toList
      else r.statement.tokens.toList ++ [token] := by
  cases h with
  | late hended => rw [if_pos hended]
  | ends hopen hkind | passes hopen hkind hfree =>
    simp [hopen, record, remember, terminate]
  | exhausts h hstep | refuses h hstep hrefusal => simp [h.terminated_eq, record, remember]
  | takes h hstep hrefusal => simp [h.terminated_eq, record, apply_eq]

/-- A semicolon ends the statement, and nothing else does. -/
lemma terminated_iff (h : r.Feeds token r' verdict) :
    r'.statement.terminated = true ↔
      r.statement.terminated = true ∨ token.kind = .semicolon := by
  cases h with
  | late hended => simp [hended]
  | ends hopen hkind => simp [record, terminate, hkind]
  | passes hopen hkind hfree => simp [record, remember, hopen, hkind]
  | exhausts h hstep | refuses h hstep hrefusal =>
    simp [record, remember, h.terminated_eq, h.not_semicolon]
  | takes h hstep hrefusal => simp [record, apply_eq, h.terminated_eq, h.not_semicolon]

/-- Once the type is settled, it stays and so does the start. -/
lemma type?_eq {type : StatementType} (h : r.Feeds token r' verdict)
    (htype : r.statement.type? = some type) :
    r'.statement.type? = some type ∧ r'.statement.start = r.statement.start := by
  cases h with
  | late hended | ends hopen hkind | passes hopen hkind hfree => exact ⟨htype, rfl⟩
  | exhausts h hstep | refuses h hstep hrefusal | takes h hstep hrefusal =>
    rw [h.type?_eq] at htype
    cases htype

/-- A token that comes before the end is accepted if the type is settled or the token itself is the
end. -/
lemma verdict_eq (h : r.Feeds token r' verdict) (hopen : r.statement.terminated = false)
    (hfree : r.statement.type? ≠ none ∨ token.kind = .semicolon) : verdict = .accepted := by
  cases h with
  | late hended =>
    rw [hopen] at hended
    cases hended
  | ends hopen hkind | passes hopen hkind hfree => rfl
  | exhausts h hstep => rfl
  | refuses h hstep hrefusal | takes h hstep hrefusal =>
    exact absurd hfree (by simp [h.type?_eq, h.not_semicolon])

lemma of_terminated (h : r.Feeds token r' verdict) (hended : r.statement.terminated = true) :
    r' = r ∧ verdict = .rejected (.alreadyTerminated token.start) := by
  cases h with
  | late hended' => exact ⟨rfl, rfl⟩
  | ends hopen hkind | passes hopen hkind hfree =>
    rw [hopen] at hended
    cases hended
  | exhausts h hstep | refuses h hstep hrefusal | takes h hstep hrefusal =>
    rw [h.terminated_eq] at hended
    cases hended

end Feeds

/-! ## Runs -/

/-- The recognizer behind all the tokens, whether it refuses some of them or not. -/
def run (r : Recognizer) (tokens : List Token) : Recognizer :=
  tokens.foldl (fun r token => (r.feed token).1) r

@[simp] lemma run_nil (r : Recognizer) : r.run [] = r := rfl

@[simp] lemma run_cons (r : Recognizer) (token : Token) (tokens : List Token) :
    r.run (token :: tokens) = (r.feed token).1.run tokens := rfl

lemma run_append (r : Recognizer) (xs ys : List Token) :
    r.run (xs ++ ys) = (r.run xs).run ys := by
  simp [run]

/-- The recognizer of the table has been fed the tokens. -/
structure HasRead (r : Recognizer) (steps : List Step) (tokens : List Token) : Prop where
  steps_eq : r.steps = steps
  current_le : r.current ≤ steps.length
  last_eq : r.statement.last = 0
  terminated_iff : r.statement.terminated = true ↔ HasSemicolon tokens
  tokens_eq : r.statement.tokens.toList = throughSemicolon tokens

lemma HasRead.feed {steps : List Step} {tokens : List Token} (h : r.HasRead steps tokens)
    (token : Token) : (r.feed token).1.HasRead steps (tokens ++ [token]) := by
  have hfeeds := r.feeds_feed token
  have hle : r.current ≤ r.steps.length := by
    rw [h.steps_eq]
    exact h.current_le
  obtain ⟨hsteps, -, -, hcurrent⟩ := hfeeds.current_le hle
  constructor
  case steps_eq => rw [hsteps, h.steps_eq]
  case current_le =>
    rw [← h.steps_eq]
    exact hcurrent
  case last_eq => rw [hfeeds.last_eq, h.last_eq]
  case terminated_iff => rw [hfeeds.terminated_iff, hasSemicolon_concat, h.terminated_iff]
  case tokens_eq =>
    simp only [hfeeds.tokens_eq, throughSemicolon_concat, h.terminated_iff, h.tokens_eq]

lemma HasRead.run {steps : List Step} {tokens : List Token} (h : r.HasRead steps tokens)
    (behind : List Token) : (r.run behind).HasRead steps (tokens ++ behind) := by
  induction behind generalizing r tokens with
  | nil => simpa using h
  | cons token behind ih =>
    have hrest := ih (h.feed token)
    rwa [List.append_assoc, List.singleton_append] at hrest

lemma hasRead_nil (mode : Mode) (steps : List Step) :
    ({ mode, steps } : Recognizer).HasRead steps [] where
  steps_eq := rfl
  current_le := Nat.zero_le _
  last_eq := rfl
  terminated_iff := by simp [HasSemicolon]
  tokens_eq := rfl

lemma run_type?_eq {type : StatementType} (htype : r.statement.type? = some type)
    (tokens : List Token) :
    (r.run tokens).statement.type? = some type ∧
      (r.run tokens).statement.start = r.statement.start := by
  induction tokens generalizing r with
  | nil => exact ⟨htype, rfl⟩
  | cons token tokens ih =>
    obtain ⟨htype', hstart⟩ := (r.feeds_feed token).type?_eq htype
    obtain ⟨hrest, hstart'⟩ := ih htype'
    exact ⟨hrest, hstart'.trans hstart⟩

/-! ## What a run can be relied on for -/

/-- What a recognizer of the table, fed the tokens, can be relied on for. -/
structure IsSteady (r : Recognizer) (steps : List Step) (tokens : List Token) : Prop where
  type_stays : ∀ type, r.statement.type? = some type → ∀ behind,
    (r.run behind).statement.type? = some type ∧
      (r.run behind).statement.start = r.statement.start
  accepts_settled : r.statement.type? ≠ none → ¬ HasSemicolon tokens →
    ∀ token, (r.feed token).2 = .accepted
  accepts_semicolon : ¬ HasSemicolon tokens →
    ∀ token, token.kind = .semicolon → (r.feed token).2 = .accepted
  terminated_iff : r.statement.terminated = true ↔ HasSemicolon tokens
  feed_terminated : HasSemicolon tokens →
    ∀ token, r.feed token = (r, .rejected (.alreadyTerminated token.start))
  tokens_eq : r.statement.tokens.toList = throughSemicolon tokens
  last_eq : r.statement.last = 0
  steps_eq : r.steps = steps
  current_le : r.current ≤ steps.length
  current_enter_le : r.enter.current ≤ steps.length
  current_feed : ∀ token,
    r.current ≤ (r.feed token).1.current ∧ (r.feed token).1.current ≤ r.current + 2

/-- Over any table, in either mode and with any tokens, some of which it may have refused: once the
type is settled, the type and the start stay, and tokens are accepted up to and including the first
semicolon.  This one is always accepted, and ends the statement.  Behind it every token is refused
and changes nothing.  The statement has the tokens up to the first semicolon, refused or not, and
its last offset is not written.  The place in the table only moves on, by two steps at most for a
token, and never leaves the table. -/
theorem isSteady_run (mode : Mode) (steps : List Step) (tokens : List Token) :
    (run { mode, steps } tokens).IsSteady steps tokens := by
  have hread : (run { mode, steps } tokens).HasRead steps tokens :=
    (hasRead_nil mode steps).run tokens
  -- From here on nothing but `HasRead` is known of the run.
  generalize run { mode, steps } tokens = r at hread ⊢
  have hle : r.current ≤ r.steps.length := by
    rw [hread.steps_eq]
    exact hread.current_le
  have hopen : ¬ HasSemicolon tokens → r.statement.terminated = false := by
    rw [← hread.terminated_iff]
    exact Bool.eq_false_iff.2
  constructor
  case type_stays => exact fun type htype behind => run_type?_eq htype behind
  case accepts_settled =>
    exact fun htype hnone token => (r.feeds_feed token).verdict_eq (hopen hnone) (.inl htype)
  case accepts_semicolon =>
    exact fun hnone token hkind => (r.feeds_feed token).verdict_eq (hopen hnone) (.inr hkind)
  case terminated_iff => exact hread.terminated_iff
  case feed_terminated =>
    intro hsome token
    obtain ⟨hsame, hverdict⟩ :=
      (r.feeds_feed token).of_terminated (hread.terminated_iff.2 hsome)
    exact Prod.ext hsame hverdict
  case tokens_eq => exact hread.tokens_eq
  case last_eq => exact hread.last_eq
  case steps_eq => exact hread.steps_eq
  case current_le => exact hread.current_le
  case current_enter_le =>
    rw [← hread.steps_eq]
    exact (r.current_enter hle).2.2
  case current_feed =>
    intro token
    obtain ⟨-, hge, hle, -⟩ := (r.feeds_feed token).current_le hle
    exact ⟨hge, hle⟩

end Recognizer

end SqlSplit
