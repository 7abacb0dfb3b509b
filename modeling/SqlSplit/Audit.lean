import SqlSplit.Parser

/-!
# Auditing a script that has been read

Two checks tie a script to the text it was read from.  `covers`: the tokens of the script and its
statements, put in order, follow each other through the whole text, and each shows the text where
it stands.  `isOrdered`: the statements follow each other, and each one starts with a token that is
not blank, ends with its last token, shows the text where it stands, and is terminated exactly if
its last token is a semicolon.
-/

namespace SqlSplit

namespace Script

/-- All tokens, in order of their start. -/
def tokensInOrder (script : Script) : List Token :=
  let tokens := script.blanks.toList ++ script.statements.toList.flatMap (·.tokens.toList)
  tokens.mergeSort fun a b => a.start ≤ b.start

/-- Whether tokens follow each other from an offset through the rest of a text to its end, each
with the text where it stands as its value. -/
def tile : List Token → Nat → List Char → Bool
  | [], _, rest => rest.isEmpty
  | token :: tokens, offset, rest =>
    let value := token.value.toList
    token.start == offset && token.stop == offset + Text.byteLength value &&
      value.isPrefixOf rest && tile tokens token.stop (rest.drop value.length)

/-- Whether the tokens make up the text. -/
def covers (script : Script) (input : String) : Bool :=
  tile script.tokensInOrder 0 input.toList

/-- Whether each statement ends before the next one starts. -/
def isDisjoint : List Statement → Bool
  | a :: b :: statements => a.last < b.start && isDisjoint (b :: statements)
  | _ => true

end Script

/-- Whether a statement of a text, given by its characters, is what its tokens make it. -/
def Statement.isSound (statement : Statement) (cs : List Char) : Bool :=
  match statement.tokens[0]?, statement.tokens.back? with
  | some first, some last =>
    !first.isBlank && statement.start == first.start && statement.last == last.last &&
      statement.sliceOf? cs == some (String.join (statement.tokens.toList.map Token.value)) &&
      statement.terminated == (last.kind == .semicolon)
  | _, _ => false

namespace Script

/-- Whether the statements stand in order and are what their tokens make them. -/
def isOrdered (script : Script) (input : String) : Bool :=
  let cs := input.toList
  isDisjoint script.statements.toList && script.statements.all fun statement => statement.isSound cs

/-- Whether a script passes both checks. -/
def isSound (script : Script) (input : String) : Bool :=
  script.covers input && script.isOrdered input

end Script

/-- Whether a text that can be read in either mode is read soundly.  Reading it a second time in the
same mode gives the same script, `parse` being a function, so nothing is said of this. -/
def readsSoundly (input : String) : Bool :=
  [Mode.strict, Mode.lenient].all fun mode =>
    match parse input mode with
    | .error _ => true
    | .ok script => script.isSound input

end SqlSplit
