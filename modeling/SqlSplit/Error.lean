import SqlSplit.Step

/-!
# Errors

A script is refused at its first token that cannot stand where it stands.  Each error names that
token and what was asked for in its place.
-/

namespace SqlSplit

/-- How much a script may stray from what is known. -/
inductive Mode where
  /-- Every statement must be of a known type. -/
  | strict
  /-- A statement may open with an unknown word, and create or drop an unknown object. -/
  | lenient
  deriving DecidableEq, Repr, Inhabited

/-- Why a script is refused. -/
inductive ParseError where
  /-- The token opens no statement. -/
  | unrecognizedLeadingToken (value : String) (position : Nat)
  /-- The token right before the one at fault is of none of the required kinds. -/
  | missingPredecessor (step : Nat) (required : List TokenKind) (value : String) (position : Nat)
  /-- The token matches none of the expected patterns. -/
  | unexpectedToken (step : Nat) (expected : List Pattern) (kind : TokenKind) (value : String)
      (position : Nat)
  /-- The token comes behind the semicolon of its statement. -/
  | alreadyTerminated (position : Nat)
  deriving DecidableEq, Repr

namespace ParseError

/-- The offset of the token at fault. -/
def position : ParseError → Nat
  | unrecognizedLeadingToken _ position => position
  | missingPredecessor _ _ _ position => position
  | unexpectedToken _ _ _ _ position => position
  | alreadyTerminated position => position

/-- Alternatives as messages list them. -/
def alternatives (choices : List String) : String :=
  " or ".intercalate choices

/-- The text of an error. -/
def message : ParseError → String
  | unrecognizedLeadingToken value position =>
    s!"Invalid statement parser \"{value}\" at position {position}"
  | missingPredecessor step required value _ =>
    let kinds := alternatives (required.map TokenKind.name)
    s!"Expected any of these tokens {kinds} before \"{value}\" (currentStep={step})"
  | unexpectedToken step expected kind value _ =>
    let patterns := alternatives (expected.map Pattern.describe)
    s!"Expected any of these tokens {patterns} instead of " ++
      s!"type=\"{kind.name}\" value=\"{value}\" (currentStep={step})"
  | alreadyTerminated position =>
    s!"This statement has already got to the end (token at position {position})"

end ParseError

end SqlSplit
