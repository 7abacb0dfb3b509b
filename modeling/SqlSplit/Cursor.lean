import SqlSplit.Text.Bytes
import SqlSplit.Token

/-!
# Cursors

A cursor is a place in a text that is being read: the text, the offset of the next unread byte
and the unread characters.  Moving past a token is possible when the cursor *admits* it: the token
starts at the cursor, takes at least one byte, and ends within the text, not inside a character.

`admits_token` says that the token which takes the next characters, as many as one likes, is
admitted; `length_rest_past_lt` that moving past an admitted token leaves less to read.
-/

namespace SqlSplit

/-- A place in a text that is being read. -/
structure Cursor where
  /-- The whole text. -/
  input : String
  /-- The offset of the next unread byte. -/
  position : Nat
  /-- The unread characters. -/
  rest : List Char
  /-- The unread characters are what follows the position. -/
  rest_eq : Text.dropBytes? position input.toList = some rest

namespace Cursor

/-- The cursor before the first character of a text. -/
def start (input : String) : Cursor where
  input := input
  position := 0
  rest := input.toList
  rest_eq := Text.dropBytes?_zero _

/-- Whether all of the text is read. -/
def atEnd (cursor : Cursor) : Bool :=
  cursor.rest.isEmpty

theorem rest_ne_nil {cursor : Cursor} (h : cursor.atEnd = false) : cursor.rest ≠ [] :=
  List.isEmpty_eq_false_iff.1 h

/-- A token that stands at the cursor: it starts there, takes at least one byte, and ends within
the text on a boundary between characters. -/
structure Admits (cursor : Cursor) (token : Token) : Prop where
  start_eq : token.start = cursor.position
  start_le_last : cursor.position ≤ token.last
  boundary : Text.IsBoundary cursor.input.toList token.stop

theorem dropBytes?_rest {cursor : Cursor} {offset : Nat} (h : cursor.position ≤ offset) :
    Text.dropBytes? (offset - cursor.position) cursor.rest =
      Text.dropBytes? offset cursor.input.toList := by
  rw [← Text.dropBytes?_add cursor.rest_eq, Nat.add_sub_cancel' h]

theorem Admits.position_lt_stop {cursor : Cursor} {token : Token} (h : cursor.Admits token) :
    cursor.position < token.stop :=
  Nat.lt_succ_of_le h.start_le_last

theorem Admits.isSome_dropBytes? {cursor : Cursor} {token : Token} (h : cursor.Admits token) :
    (Text.dropBytes? (token.stop - cursor.position) cursor.rest).isSome := by
  rw [dropBytes?_rest (Nat.le_of_lt h.position_lt_stop)]
  exact Text.isBoundary_iff.1 h.boundary

/-- The cursor behind a token that stands at the cursor. -/
def past (cursor : Cursor) (token : Token) (h : cursor.Admits token) : Cursor where
  input := cursor.input
  position := token.stop
  rest := (Text.dropBytes? (token.stop - cursor.position) cursor.rest).get h.isSome_dropBytes?
  rest_eq := by
    rw [Option.some_get]
    exact (dropBytes?_rest (Nat.le_of_lt h.position_lt_stop)).symm

theorem length_rest_past_lt (cursor : Cursor) (token : Token) (h : cursor.Admits token) :
    (cursor.past token h).rest.length < cursor.rest.length :=
  Text.length_lt_of_dropBytes? (Nat.sub_pos_of_lt h.position_lt_stop)
    (Option.some_get h.isSome_dropBytes?).symm

/-- The token of the given kind that takes the next character and up to `more` further ones.  Its
value is the text it takes, unless another value is given. -/
def token (cursor : Cursor) (kind : TokenKind) (more : Nat) (value? : Option String) : Token :=
  let text := cursor.rest.take (more + 1)
  { kind
    value := value?.getD (String.ofList text)
    start := cursor.position
    last := cursor.position + Text.byteLength text - 1 }

theorem stop_token {cursor : Cursor} (h : cursor.rest ≠ []) (kind : TokenKind) (more : Nat)
    (value? : Option String) :
    (cursor.token kind more value?).stop =
      cursor.position + Text.byteLength (cursor.rest.take (more + 1)) := by
  have hpos : 0 < Text.byteLength (cursor.rest.take (more + 1)) :=
    Text.byteLength_pos (by simpa using h)
  simp only [Token.stop, token]
  omega

theorem admits_token {cursor : Cursor} (h : cursor.rest ≠ []) (kind : TokenKind) (more : Nat)
    (value? : Option String) : cursor.Admits (cursor.token kind more value?) where
  start_eq := rfl
  start_le_last := by
    have hpos : 0 < Text.byteLength (cursor.rest.take (more + 1)) :=
      Text.byteLength_pos (by simpa using h)
    simp only [token]
    omega
  boundary := by
    rw [Text.isBoundary_iff, stop_token h, Text.dropBytes?_add cursor.rest_eq]
    have := Text.dropBytes?_append (cursor.rest.take (more + 1)) (cursor.rest.drop (more + 1))
    rw [List.take_append_drop] at this
    rw [this]
    rfl

end Cursor

end SqlSplit
