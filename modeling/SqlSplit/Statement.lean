import SqlSplit.Text.Bytes
import SqlSplit.Text.Case
import SqlSplit.Token

/-!
# Statements

A statement is a run of tokens of a script, up to and including its semicolon or the end of the
script, with the type that its first words give it.  A statement that ends before its type is
settled counts as *incomplete*.
-/

namespace SqlSplit

/-! ## Types -/

/-- The types of statements. -/
inductive StatementType where
  | select
  | insert
  | update
  | delete
  | createTable
  | createDatabase
  | dropTable
  | dropDatabase
  | truncate
  /-- Opened by a word that is no keyword, or by `CREATE` or `DROP` of some other object. -/
  | unknown
  /-- Ended before its type was settled. -/
  | incomplete
  deriving DecidableEq, Repr, Inhabited

namespace StatementType

/-- The types, each once. -/
def all : List StatementType :=
  [select, insert, update, delete, createTable, createDatabase, dropTable, dropDatabase, truncate,
    unknown, incomplete]

/-- The name a type goes by. -/
def name : StatementType → String
  | select => "SELECT"
  | insert => "INSERT"
  | update => "UPDATE"
  | delete => "DELETE"
  | createTable => "CREATE_TABLE"
  | createDatabase => "CREATE_DATABASE"
  | dropTable => "DROP_TABLE"
  | dropDatabase => "DROP_DATABASE"
  | truncate => "TRUNCATE"
  | unknown => "UNKNOWN"
  | incomplete => "INCOMPLETE"

/-- The type of the given name, letter for letter. -/
def ofName? (name : String) : Option StatementType :=
  all.find? fun type => type.name == name

@[simp] theorem ofName?_name (type : StatementType) : ofName? type.name = some type := by
  cases type <;> decide

/-- Why a text names no type. -/
inductive NameError where
  /-- No type has this name in any mix of cases. -/
  | unknownName (text : String)
  deriving DecidableEq, Repr

/-- The text of a name error. -/
def NameError.message : NameError → String
  | unknownName _ => "Unknown statement type name"

/-- Reads the name of a type, in any mix of capital and small letters. -/
def read (text : String) : Except NameError StatementType :=
  match all.find? fun type => Text.eqIgnoringCase type.name text with
  | some type => .ok type
  | none => .error (.unknownName text)

end StatementType

/-! ## Statements -/

/-- A statement of a script. -/
structure Statement where
  /-- The type, once it is settled. -/
  type? : Option StatementType := none
  /-- The offset of the first byte. -/
  start : Nat := 0
  /-- The offset of the last byte. -/
  last : Nat := 0
  /-- Whether a semicolon ended the statement. -/
  terminated : Bool := false
  /-- The tokens, in order. -/
  tokens : Array Token := #[]
  deriving DecidableEq, Repr, Inhabited

namespace Statement

/-- The type of the statement, incomplete if it was never settled. -/
def type (statement : Statement) : StatementType :=
  statement.type?.getD .incomplete

/-- The statement's part of a text given by its characters. -/
def sliceOf? (statement : Statement) (cs : List Char) : Option String :=
  Text.slice? cs statement.start (statement.last + 1)

/-- The statement's part of a text. -/
def text? (statement : Statement) (input : String) : Option String :=
  statement.sliceOf? input.toList

end Statement

end SqlSplit
