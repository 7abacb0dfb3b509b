import SqlSplit.Opener
import SqlSplit.Script

/-!
# Splitting tokens into statements

A splitter takes the tokens of a script in turn.  Between statements it puts blank tokens aside,
and any other token opens a statement or is an error.  Within a statement every token goes to its
recognizer, until a semicolon closes the statement.  A statement that is still open at the end of
the script is closed there.  The first error ends the run.
-/

namespace SqlSplit

/-- A script in the course of being split. -/
structure Splitter where
  mode : Mode
  /-- What is closed so far. -/
  script : Script
  /-- The open statement, if there is one. -/
  active? : Option Recognizer := none
  deriving DecidableEq, Repr

namespace Splitter

/-- The splitter before the first token of a text of the given number of bytes. -/
def start (mode : Mode) (length : Nat) : Splitter :=
  { mode, script := Script.spanning length }

/-- Feeds a token to the recognizer of the open statement, and closes the statement if the token
ends it. -/
def feed (mode : Mode) (script : Script) (r : Recognizer) (token : Token) :
    Except ParseError Splitter :=
  let (r, verdict) := r.feed token
  match verdict.error? with
  | some error => .error error
  | none =>
    if r.statement.terminated then
      .ok { mode, script := script.addStatement { r.statement with last := token.last } }
    else .ok { mode, script, active? := some r }

/-- Takes the next token. -/
def step : Splitter → Token → Except ParseError Splitter
  | ⟨mode, script, some r⟩, token => feed mode script r token
  | ⟨mode, script, none⟩, token =>
    if token.isBlank then .ok { mode, script := script.addBlank token }
    else
      match Opener.dispatch mode token with
      | .error error => .error error
      | .ok opener => feed mode script (opener.recognizer mode) token

/-- The script at its end: a statement that is still open is closed there. -/
def finish (s : Splitter) : Script :=
  match s.active? with
  | none => s.script
  | some r => s.script.addStatement { r.statement with last := s.script.last }

end Splitter

/-- Splits the tokens of a text of the given number of bytes into statements. -/
def Script.ofTokens (mode : Mode) (length : Nat) (tokens : List Token) :
    Except ParseError Script :=
  (tokens.foldlM Splitter.step (Splitter.start mode length)).map Splitter.finish

end SqlSplit
