import SqlSplit.Json.Basic
import SqlSplit.Script

/-!
# Scripts as JSON

Each kind of record is written as an object with its fields in a fixed order, and each kind of name
as a string.  Reading is more generous: members may come in any order and with others among them,
a record may also be an array of exactly its fields, and a name may also be the single key of an
object with the value null.  Of members with the same name the last one counts.  A statement whose
type is missing has none.

Offsets are natural numbers below 2^64; no other number is one, and nothing is converted.
-/

namespace SqlSplit

namespace Json

/-! ## Reading parts of a value -/

/-- The number of different offsets. -/
def offsetBound : Nat := UInt64.size

/-- An offset. -/
def offset? : Json → Option Nat
  | natural n => if n < offsetBound then some n else none
  | _ => none

/-- A truth value. -/
def bool? : Json → Option Bool
  | bool value => some value
  | _ => none

/-- A text. -/
def string? : Json → Option String
  | string value => some value
  | _ => none

/-- A value of a type whose members go by names. -/
def named? {α : Type} (ofName? : String → Option α) : Json → Option α
  | string name => ofName? name
  | object members =>
    match lasting members with
    | [(name, null)] => ofName? name
    | _ => none
  | _ => none

/-- A value that may be null. -/
def optional? {α : Type} (read? : Json → Option α) : Json → Option (Option α)
  | null => some none
  | value => (read? value).map some

/-- The items of an array. -/
def list? {α : Type} (read? : Json → Option α) : Json → Option (List α)
  | array items => items.mapM read?
  | _ => none

/-- The fields of a record, each under its name if it is there. -/
def fields? (names : List String) : Json → Option (List (Option Json))
  | object members => some (names.map fun name => List.lookup name (lasting members))
  | array items => if items.length = names.length then some (items.map some) else none
  | _ => none

end Json

/-! ## Names -/

/-- A kind of token as JSON. -/
def TokenKind.toJson (kind : TokenKind) : Json :=
  .string kind.name

/-- Reads a kind of token. -/
def TokenKind.ofJson? : Json → Option TokenKind :=
  Json.named? TokenKind.ofName?

/-- A type of statement as JSON. -/
def StatementType.toJson (type : StatementType) : Json :=
  .string type.name

/-- Reads a type of statement. -/
def StatementType.ofJson? : Json → Option StatementType :=
  Json.named? StatementType.ofName?

/-! ## Records -/

/-- A token as JSON. -/
def Token.toJson (token : Token) : Json :=
  .object
    [("type", token.kind.toJson), ("value", .string token.value), ("start", .natural token.start),
      ("end", .natural token.last)]

/-- Reads a token. -/
def Token.ofJson? (value : Json) : Option Token :=
  match value.fields? ["type", "value", "start", "end"] with
  | some [some kind, some text, some start, some last] => do
    return {
      kind := ← TokenKind.ofJson? kind
      value := ← text.string?
      start := ← start.offset?
      last := ← last.offset? }
  | _ => none

/-- A statement as JSON. -/
def Statement.toJson (statement : Statement) : Json :=
  .object
    [("type", (statement.type?.map StatementType.toJson).getD .null),
      ("start", .natural statement.start), ("end", .natural statement.last),
      ("terminated", .bool statement.terminated),
      ("tokens", .array (statement.tokens.toList.map Token.toJson))]

/-- Reads a statement. -/
def Statement.ofJson? (value : Json) : Option Statement :=
  match value.fields? ["type", "start", "end", "terminated", "tokens"] with
  | some [type, some start, some last, some terminated, some tokens] => do
    return {
      type? := ← (type.getD .null).optional? StatementType.ofJson?
      start := ← start.offset?
      last := ← last.offset?
      terminated := ← terminated.bool?
      tokens := (← tokens.list? Token.ofJson?).toArray }
  | _ => none

/-- A script as JSON. -/
def Script.toJson (script : Script) : Json :=
  .object
    [("start", .natural script.start), ("end", .natural script.last),
      ("body", .array (script.statements.toList.map Statement.toJson)),
      ("tokens", .array (script.blanks.toList.map Token.toJson))]

/-- Reads a script. -/
def Script.ofJson? (value : Json) : Option Script :=
  match value.fields? ["start", "end", "body", "tokens"] with
  | some [some start, some last, some statements, some blanks] => do
    return {
      start := ← start.offset?
      last := ← last.offset?
      statements := (← statements.list? Statement.ofJson?).toArray
      blanks := (← blanks.list? Token.ofJson?).toArray }
  | _ => none

end SqlSplit
