import SqlSplit.Error

/-!
# Recognizing a statement

A recognizer takes the tokens of one statement in turn and walks through a table of steps until
the type of the statement is settled.  From then on tokens are only collected, until a semicolon
ends the statement.

White space and the semicolon never take a step.  A token that a step refuses is kept in the
statement but changes nothing else, except that a step which is left before its token is looked at
stays left.  In lenient mode no step refuses a token for matching none of its patterns: the token
takes the step all the same and is *tolerated*.
-/

namespace SqlSplit

/-- What became of a token. -/
inductive Verdict where
  /-- The token may stand where it stands. -/
  | accepted
  /-- The token matches no pattern of the step, which is let pass. -/
  | tolerated (step : Nat)
  /-- The token may not stand where it stands. -/
  | rejected (error : ParseError)
  deriving DecidableEq, Repr

/-- The error of a verdict that has one. -/
def Verdict.error? : Verdict → Option ParseError
  | accepted => none
  | tolerated _ => none
  | rejected error => some error

/-- A statement in the course of being recognized. -/
structure Recognizer where
  /-- Whether tokens that match no pattern are refused. -/
  mode : Mode
  /-- The table of steps. -/
  steps : List Step
  /-- The number of steps left behind. -/
  current : Nat := 0
  /-- The kind of the last token that was not refused. -/
  previous? : Option TokenKind := none
  /-- The statement so far. -/
  statement : Statement := {}
  deriving DecidableEq, Repr

namespace Recognizer

/-- The step that the next token would take. -/
def step? (r : Recognizer) : Option Step :=
  r.steps[r.current]?

/-- Goes on to the next step. -/
def advance (r : Recognizer) : Recognizer :=
  { r with current := r.current + 1 }

/-- Keeps a kind in mind for the token to come. -/
def remember (r : Recognizer) (kind : TokenKind) : Recognizer :=
  { r with previous? := some kind }

/-- Puts a token into the statement. -/
def record (r : Recognizer) (token : Token) : Recognizer :=
  { r with statement := { r.statement with tokens := r.statement.tokens.push token } }

/-- Leaves the current step if it is to be left before its token. -/
def enter (r : Recognizer) : Recognizer :=
  match r.step? with
  | some step => if step.advancesBefore then r.advance else r
  | none => r

/-- Why a step refuses a token, if it does. -/
def refusal? (r : Recognizer) (step : Step) (token : Token) : Option ParseError :=
  if !step.mayFollow r.previous? then
    some (.missingPredecessor r.current (step.predecessors?.getD []) token.value token.start)
  else if r.mode = .strict ∧ step.accepts token = false then
    some (.unexpectedToken r.current step.patterns token.kind token.value token.start)
  else none

/-- Takes a step with a token. -/
def take (r : Recognizer) (step : Step) (token : Token) : Recognizer :=
  let r := { r with statement := step.transition.apply r.statement token }
  let r := if step.advancesAfter then r.advance else r
  r.remember token.kind

/-- Looks at a token that may take a step. -/
def classify (r : Recognizer) (token : Token) : Recognizer × Verdict :=
  let r := r.enter
  match r.step? with
  | none => (r.remember token.kind, .accepted)
  | some step =>
    match r.refusal? step token with
    | some error => (r, .rejected error)
    | none =>
      (r.take step token, if step.accepts token then .accepted else .tolerated r.current)

/-- Looks at a token of a statement that has not ended. -/
def consider (r : Recognizer) (token : Token) : Recognizer × Verdict :=
  match token.kind with
  | .semicolon => ({ r with statement := { r.statement with terminated := true } }, .accepted)
  | .whitespace => (r.remember .whitespace, .accepted)
  | kind => if r.statement.type?.isSome then (r.remember kind, .accepted) else r.classify token

/-- Takes the next token.  A statement that has ended takes none. -/
def feed (r : Recognizer) (token : Token) : Recognizer × Verdict :=
  if r.statement.terminated then (r, .rejected (.alreadyTerminated token.start))
  else
    let (r, verdict) := r.consider token
    (r.record token, verdict)

end Recognizer

end SqlSplit
