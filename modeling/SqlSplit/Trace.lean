import SqlSplit.Parser

/-!
# The log of a run

While a script is split, a log is kept of the statements that are opened and closed, and of every
token that is fed to a recognizer.  The log of a run that ends in an error stops with the events of
the token at fault.
-/

namespace SqlSplit

/-- An entry of the log. -/
inductive Event where
  /-- A statement opens at the position. -/
  | opened (opener : Opener) (position : Nat)
  /-- A token is fed to the recognizer that has left the given number of steps behind. -/
  | fed (kind : TokenKind) (value : String) (step : Nat)
  /-- The token that was just fed matches no pattern of the step, which is let pass. -/
  | tolerated (value : String) (step : Nat)
  /-- A semicolon closes the statement. -/
  | closed (type? : Option StatementType) (start last : Nat)
  /-- The end of the script closes the statement. -/
  | closedAtEnd (type? : Option StatementType) (start : Nat)
  deriving DecidableEq, Repr

namespace Event

/-- How much detail an entry gives. -/
inductive Level where
  | debug
  | trace
  deriving DecidableEq, Repr

/-- Entries on statements are of level `debug`, those on tokens of level `trace`. -/
def level : Event → Level
  | opened .. | closed .. | closedAtEnd .. => .debug
  | fed .. | tolerated .. => .trace

/-- The text of an entry. -/
def message : Event → String
  | opened .. => "statement opened"
  | fed .. => "statement token"
  | tolerated .. => "tolerating unexpected token"
  | closed .. => "statement closed"
  | closedAtEnd .. => "closing statement at end of input"

end Event

/-- The entries for a token that is fed to a recognizer. -/
def Recognizer.log (r : Recognizer) (token : Token) : List Event :=
  if r.statement.terminated then []
  else
    let (r', verdict) := r.consider token
    let tolerance :=
      match verdict with
      | .tolerated step => [Event.tolerated token.value step]
      | .accepted | .rejected _ => []
    let closing :=
      if r'.statement.terminated then
        [Event.closed r'.statement.type? r'.statement.start token.last]
      else []
    .fed token.kind token.value r.current :: (tolerance ++ closing)

namespace Splitter

/-- The entries for the next token. -/
def log (s : Splitter) (token : Token) : List Event :=
  match s.active? with
  | some r => r.log token
  | none =>
    if token.isBlank then []
    else
      match Opener.dispatch s.mode token with
      | .error _ => []
      | .ok opener => .opened opener token.start :: (opener.recognizer s.mode).log token

/-- The entries for the end of the script. -/
def logEnd (s : Splitter) : List Event :=
  match s.active? with
  | none => []
  | some r => [.closedAtEnd r.statement.type? r.statement.start]

/-- The entries for the tokens up to the end of the script or the first error. -/
def logAll (s : Splitter) : List Token → List Event
  | [] => s.logEnd
  | token :: tokens =>
    s.log token ++
      match s.step token with
      | .error _ => []
      | .ok s => s.logAll tokens

end Splitter

/-- The log of a parser's run. -/
def Parser.events (parser : Parser) : List Event :=
  (Splitter.start parser.mode parser.input.utf8ByteSize).logAll parser.tokens

end SqlSplit
