import SqlSplit.Audit

/-!
# Sample scripts

Scripts that are made up from parts, so that the types of their statements are known beforehand.
The parts include semicolons, quotes and keywords in places where they must not count.
-/

namespace SqlSplit

namespace Sample

/-- The words that a statement opens with. -/
inductive Opening where
  | select
  | insert
  | update
  | delete
  | createTable
  | createDatabase
  | dropTable
  | dropDatabase
  | truncate
  deriving DecidableEq, Repr, Inhabited

/-- The text of an opening. -/
def Opening.text : Opening → String
  | select => "SELECT"
  | insert => "INSERT"
  | update => "UPDATE"
  | delete => "DELETE"
  | createTable => "CREATE TABLE"
  | createDatabase => "CREATE DATABASE"
  | dropTable => "DROP TABLE"
  | dropDatabase => "DROP DATABASE"
  | truncate => "TRUNCATE"

/-- The type of the statement that opens with the words. -/
def Opening.type : Opening → StatementType
  | select => .select
  | insert => .insert
  | update => .update
  | delete => .delete
  | createTable => .createTable
  | createDatabase => .createDatabase
  | dropTable => .dropTable
  | dropDatabase => .dropDatabase
  | truncate => .truncate

/-- What stands before a statement or behind the last one. -/
inductive Gap where
  | none
  | space
  /-- Line breaks and an indentation. -/
  | newline
  | inlineComment
  | blockComment
  deriving DecidableEq, Repr, Inhabited

/-- The text of a gap. -/
def Gap.text : Gap → String
  | none => ""
  | space => " "
  | newline => "\n\n    "
  | inlineComment => "-- next; statement\n"
  | blockComment => "/* next; statement */ "

/-- What may follow the opening of a statement. -/
inductive Word where
  | identifier
  | star
  | number
  /-- Quoted text with a semicolon in it. -/
  | string
  /-- A quoted name with a semicolon in it. -/
  | quotedIdentifier
  /-- A keyword that would open a statement elsewhere. -/
  | keyword
  | parenthesized
  /-- A comment with a semicolon in it, and the line break behind it. -/
  | comment
  deriving DecidableEq, Repr, Inhabited

/-- The text of a word. -/
def Word.text : Word → String
  | identifier => "Persons"
  | star => "*"
  | number => "42"
  | string => "'a;b'"
  | quotedIdentifier => "\"Per;sons\""
  | keyword => "SELECT"
  | parenthesized => "(id, name)"
  | comment => "-- trailing;\n"

/-- A statement of a sample script. -/
structure Entry where
  opening : Opening
  /-- Whether the opening is written in small letters. -/
  lowercase : Bool
  /-- What stands before the statement. -/
  leading : Gap
  body : List Word
  /-- Whether a semicolon ends the statement if it is the last one; the others always have one. -/
  terminated : Bool
  deriving DecidableEq, Repr

/-- The statement without its semicolon. -/
def Entry.text (entry : Entry) : String :=
  let opening := entry.opening.text
  let opening := if entry.lowercase then Text.lowercase opening else opening
  opening ++ String.join (entry.body.map fun word => " " ++ word.text)

/-- The texts of statements with their gaps: all but the last end in a semicolon. -/
def renderEntries : List Entry → String
  | [] => ""
  | [entry] => entry.leading.text ++ entry.text ++ (if entry.terminated then ";" else "")
  | entry :: entries => entry.leading.text ++ entry.text ++ ";" ++ renderEntries entries

end Sample

/-- A script made up from parts. -/
structure Sample where
  entries : List Sample.Entry
  /-- What stands behind the last statement. -/
  trailing : Sample.Gap
  deriving DecidableEq, Repr

namespace Sample

/-- The text of a sample script. -/
def sql (sample : Sample) : String :=
  renderEntries sample.entries ++ sample.trailing.text

/-- The types of the statements, as they were meant. -/
def types (sample : Sample) : List StatementType :=
  sample.entries.map fun entry => entry.opening.type

/-- Whether the statements are found to be of the types that were meant, and are read soundly. -/
def isIdentified (sample : Sample) : Bool :=
  match identify sample.sql with
  | .error _ => false
  | .ok types => types == sample.types && readsSoundly sample.sql

end Sample

end SqlSplit
