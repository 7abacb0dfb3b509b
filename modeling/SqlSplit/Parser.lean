import SqlSplit.Splitter
import SqlSplit.Tokenizer

/-!
# Reading a script

A parser is a text with a choice of mode and of tokenizer.  `parse`, `identify` and `split?` read
SQL scripts with the usual tokenizer; the latter two in strict mode.
-/

namespace SqlSplit

/-- A text to be read, and how. -/
structure Parser where
  input : String
  mode : Mode := .strict
  tokenizer : Tokenizer := .sql

namespace Parser

/-- The tokens of the text. -/
def tokens (parser : Parser) : List Token :=
  parser.tokenizer.tokens parser.input

/-- Reads the text. -/
def parse (parser : Parser) : Except ParseError Script :=
  Script.ofTokens parser.mode parser.input.utf8ByteSize parser.tokens

/-- The types of the statements of the text. -/
def identify (parser : Parser) : Except ParseError (List StatementType) :=
  parser.parse.map Script.types

/-- The texts of the statements of the text, if they lie within it. -/
def split? (parser : Parser) : Except ParseError (Option (List String)) :=
  parser.parse.map fun script => script.texts? parser.input

end Parser

/-- Reads an SQL script. -/
def parse (input : String) (mode : Mode) : Except ParseError Script :=
  Parser.parse { input, mode }

/-- The types of the statements of an SQL script in which all types are known. -/
def identify (input : String) : Except ParseError (List StatementType) :=
  Parser.identify { input }

/-- The texts of the statements of an SQL script in which all types are known. -/
def split? (input : String) : Except ParseError (Option (List String)) :=
  Parser.split? { input }

end SqlSplit
