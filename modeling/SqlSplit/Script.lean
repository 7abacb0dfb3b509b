import SqlSplit.Statement

/-!
# Scripts

A script that has been read: its statements in order, and the blank tokens that stand before,
between and after them.
-/

namespace SqlSplit

/-- A script that has been read. -/
structure Script where
  /-- The offset of the first byte. -/
  start : Nat := 0
  /-- The offset of the last byte. -/
  last : Nat := 0
  /-- The statements, in order. -/
  statements : Array Statement := #[]
  /-- The white space and comments outside all statements, in order. -/
  blanks : Array Token := #[]
  deriving DecidableEq, Repr, Inhabited

namespace Script

/-- The script over a text of the given number of bytes, nothing of it read.  The last byte of an
empty text is said to be at offset zero. -/
def spanning (length : Nat) : Script :=
  { last := length - 1 }

/-- The types of the statements. -/
def types (script : Script) : List StatementType :=
  script.statements.toList.map Statement.type

/-- The parts of a text that the statements span, if all of them lie within it. -/
def texts? (script : Script) (input : String) : Option (List String) :=
  let cs := input.toList
  script.statements.toList.mapM fun statement => statement.sliceOf? cs

/-- Puts a token outside all statements. -/
def addBlank (script : Script) (token : Token) : Script :=
  { script with blanks := script.blanks.push token }

/-- Puts a statement behind the others. -/
def addStatement (script : Script) (statement : Statement) : Script :=
  { script with statements := script.statements.push statement }

end Script

end SqlSplit
