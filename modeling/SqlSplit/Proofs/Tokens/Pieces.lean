import Mathlib.Tactic.SplitIfs
import SqlSplit.Tokenizer
import SqlSplit.Proofs.Tokens.Shapes

/-!
# Pieces

What the lexemes of a text are does not depend on where the text stands.  A *piece* is a lexeme
with its characters and without a place.  `pieces` divides characters into pieces, and
`tokenize_eq_place` states that the tokens of an SQL script are its pieces, put one behind the
other.

Nor does a lexeme depend on what stands around it.  A text that is cut between two of its pieces
falls into two texts, and `pieces_of_append` states that their pieces are those of the whole.  In
the other direction `pieces_append` states that a text can be continued without any effect on its
pieces but the last.
-/

namespace SqlSplit

open Text (byteLength)

/-! ## Pieces and their places -/

/-- A part of a text with its lexical kind. -/
structure Piece where
  kind : TokenKind
  text : List Char
  deriving DecidableEq, Repr

namespace Piece

/-- The token that the piece is at an offset. -/
def token (piece : Piece) (offset : Nat) : Token where
  kind := piece.kind
  value := String.ofList piece.text
  start := offset
  last := offset + byteLength piece.text - 1

/-- The characters of pieces, one behind the other. -/
def chars (ps : List Piece) : List Char :=
  ps.flatMap text

@[simp] lemma chars_nil : chars [] = [] := rfl

@[simp] lemma chars_cons (p : Piece) (ps : List Piece) : chars (p :: ps) = p.text ++ chars ps := rfl

@[simp] lemma chars_append (ps qs : List Piece) : chars (ps ++ qs) = chars ps ++ chars qs :=
  List.flatMap_append

end Piece

/-- The pieces of a text. -/
def pieces : List Char → List Piece
  | [] => []
  | c :: cs =>
    ⟨(Lexeme.scan c cs).kind, c :: cs.take (Lexeme.scan c cs).more⟩ ::
      pieces (cs.drop (Lexeme.scan c cs).more)
termination_by cs => cs.length
decreasing_by
  rw [List.length_drop, List.length_cons]
  omega

/-- The tokens of pieces that stand one behind the other from an offset on. -/
def place (offset : Nat) : List Piece → List Token
  | [] => []
  | p :: ps => p.token offset :: place (offset + byteLength p.text) ps

/-- The piece that the token is, wherever it stands. -/
def Token.piece (token : Token) : Piece :=
  ⟨token.kind, token.value.toList⟩

@[simp] lemma Piece.piece_token (piece : Piece) (offset : Nat) :
    (piece.token offset).piece = piece := by
  rw [Token.piece, token, String.toList_ofList]

lemma map_piece_place (offset : Nat) (ps : List Piece) :
    (place offset ps).map Token.piece = ps := by
  induction ps generalizing offset with
  | nil => rfl
  | cons p ps ih => rw [place, List.map_cons, Piece.piece_token, ih]

lemma chars_pieces (cs : List Char) : Piece.chars (pieces cs) = cs := by
  fun_induction pieces cs with
  | case1 => rfl
  | case2 c cs ih =>
    rw [Piece.chars_cons, ih, List.cons_append, List.take_append_drop]

lemma Cursor.rest_past {cursor : Cursor} {token : Token} (h : cursor.Admits token)
    {taken rest : List Char} (hrest : cursor.rest = taken ++ rest)
    (hstop : token.stop = cursor.position + byteLength taken) :
    (cursor.past token h).rest = rest := by
  have hdrop : Text.dropBytes? (token.stop - cursor.position) cursor.rest = some rest := by
    rw [hstop, Nat.add_sub_cancel_left, hrest]
    exact Text.dropBytes?_append taken rest
  simp only [past, hdrop, Option.get_some]

namespace Piece

variable {p : Piece} {offset : Nat}

lemma stop_token (h : p.text ≠ []) : (p.token offset).stop = offset + byteLength p.text := by
  have := Text.byteLength_pos h
  simp only [Token.stop, token]
  omega

end Piece

lemma scan_sql_eq {cursor : Cursor} {c : Char} {cs : List Char} (hrest : cursor.rest = c :: cs)
    (turn : Nat) (h : cursor.atEnd = false) :
    Tokenizer.sql.scan turn cursor h =
      Piece.token ⟨(Lexeme.scan c cs).kind, c :: cs.take (Lexeme.scan c cs).more⟩
        cursor.position := by
  simp only [Tokenizer.sql, Tokenizer.ofRule, hrest, Cursor.token, Option.getD_none,
    List.take_succ_cons, Piece.token]

lemma tokensFrom_eq_place (turn : Nat) (cursor : Cursor) :
    Tokenizer.sql.tokensFrom turn cursor = place cursor.position (pieces cursor.rest) := by
  fun_induction Tokenizer.tokensFrom Tokenizer.sql turn cursor with
  | case1 turn cursor h token ih =>
    obtain ⟨c, cs, hrest⟩ := List.exists_cons_of_ne_nil (Cursor.rest_ne_nil h)
    have htoken : token = _ := scan_sql_eq hrest turn h
    have hstop : token.stop =
        cursor.position + byteLength (c :: cs.take (Lexeme.scan c cs).more) := by
      rw [htoken]
      exact Piece.stop_token (List.cons_ne_nil _ _)
    have hcs : cursor.rest = (c :: cs.take (Lexeme.scan c cs).more) ++
        cs.drop (Lexeme.scan c cs).more := by
      rw [hrest, List.cons_append, List.take_append_drop]
    have hpast := Cursor.rest_past (Tokenizer.sql.admits turn cursor h) hcs hstop
    rw [hpast, show (cursor.past token _).position = token.stop from rfl, hstop] at ih
    rw [hrest, pieces, place, ih, htoken]
  | case2 turn cursor h =>
    have hnil : cursor.rest = [] := by simpa [Cursor.atEnd] using h
    rw [hnil, pieces]
    rfl

/-- The tokens of an SQL script are its pieces, from the start on. -/
theorem tokenize_eq_place (input : String) : tokenize input = place 0 (pieces input.toList) :=
  tokensFrom_eq_place 0 (Cursor.start input)

lemma map_piece_tokenize (input : String) :
    (tokenize input).map Token.piece = pieces input.toList := by
  rw [tokenize_eq_place, map_piece_place]

lemma piece_mem_pieces {input : String} {token : Token} (h : token ∈ tokenize input) :
    token.piece ∈ pieces input.toList := by
  rw [← map_piece_tokenize]
  exact List.mem_map_of_mem h

/-- A token is its piece, put where the token starts. -/
lemma token_piece_of_mem_place {offset : Nat} {ps : List Piece} {token : Token}
    (h : token ∈ place offset ps) : token.piece.token token.start = token := by
  induction ps generalizing offset with
  | nil => cases h
  | cons p ps ih =>
    rw [place] at h
    rcases List.mem_cons.1 h with rfl | hrest
    · rw [Piece.piece_token]
      rfl
    · exact ih hrest

lemma token_piece_of_mem {input : String} {token : Token} (h : token ∈ tokenize input) :
    token.piece.token token.start = token := by
  rw [tokenize_eq_place] at h
  exact token_piece_of_mem_place h

lemma join_map_value_place (offset : Nat) (ps : List Piece) :
    String.join ((place offset ps).map Token.value) = String.ofList (Piece.chars ps) := by
  induction ps generalizing offset with
  | nil => rfl
  | cons p ps ih =>
    rw [place, List.map_cons, String.join_cons, ih, Piece.chars_cons, String.ofList_append]
    rfl

lemma join_map_value_tokenize (input : String) :
    String.join ((tokenize input).map Token.value) = input := by
  rw [tokenize_eq_place, join_map_value_place, chars_pieces, String.ofList_toList]

/-! ## Pieces of a part of a text -/

/-- A text that is cut between two of its pieces falls into two texts with these pieces. -/
lemma pieces_of_append {cs : List Char} {ps qs : List Piece} (h : pieces cs = ps ++ qs) :
    pieces (Piece.chars ps) = ps ∧ pieces (Piece.chars qs) = qs := by
  induction ps generalizing cs with
  | nil =>
    rw [List.nil_append] at h
    refine ⟨by rw [Piece.chars_nil, pieces], ?_⟩
    rw [← h, chars_pieces]
  | cons p ps ih =>
    cases cs with
    | nil => simp [pieces] at h
    | cons c cs =>
      rw [pieces, List.cons_append] at h
      obtain ⟨rfl, hrest⟩ := List.cons.inj h
      obtain ⟨hps, hqs⟩ := ih hrest
      refine ⟨?_, hqs⟩
      have hmore := Lexeme.more_scan_le c cs
      have hdrop : cs.drop (Lexeme.scan c cs).more = Piece.chars ps ++ Piece.chars qs := by
        rw [← Piece.chars_append, ← hrest, chars_pieces]
      have hcs : cs = cs.take (Lexeme.scan c cs).more ++ Piece.chars ps ++ Piece.chars qs := by
        rw [List.append_assoc, ← hdrop, List.take_append_drop]
      have hlength : (cs.take (Lexeme.scan c cs).more).length = (Lexeme.scan c cs).more := by
        rw [List.length_take]
        omega
      -- The first lexeme ends within the first text, so it is a lexeme of that text.
      have hscan : Lexeme.scan c (cs.take (Lexeme.scan c cs).more ++ Piece.chars ps) =
          Lexeme.scan c cs := by
        have hmore' : (Lexeme.scan c (cs.take (Lexeme.scan c cs).more ++ Piece.chars ps ++
            Piece.chars qs)).more ≤
              (cs.take (Lexeme.scan c cs).more ++ Piece.chars ps).length := by
          rw [← hcs, List.length_append]
          omega
        have hshort := Lexeme.scan_append hmore'
        rw [← hcs] at hshort
        exact hshort.symm
      rw [Piece.chars_cons, List.cons_append, pieces, hscan, List.take_left' hlength,
        List.drop_left' hlength, hps]

/-! ## Pieces of a longer text -/

lemma exists_of_mem_pieces {cs : List Char} {p : Piece} (h : p ∈ pieces cs) :
    ∃ c ds, p = ⟨(Lexeme.scan c ds).kind, c :: ds.take (Lexeme.scan c ds).more⟩ := by
  fun_induction pieces cs with
  | case1 => simp at h
  | case2 c cs ih =>
    rcases List.mem_cons.1 h with hp | hrest
    · exact ⟨c, cs, hp⟩
    · exact ih hrest

lemma ne_nil_of_mem_pieces {cs : List Char} {p : Piece} (h : p ∈ pieces cs) : p.text ≠ [] := by
  obtain ⟨c, ds, rfl⟩ := exists_of_mem_pieces h
  exact List.cons_ne_nil _ _

/-- What is put behind a text can change none of its pieces but the last. -/
lemma pieces_append {as bs : List Char} {ps : List Piece} {p : Piece}
    (h : pieces as = ps ++ [p]) : pieces (as ++ bs) = ps ++ pieces (p.text ++ bs) := by
  induction ps generalizing as with
  | nil =>
    have has : as = p.text := by
      rw [← chars_pieces as, h]
      simp
    rw [has, List.nil_append]
  | cons q ps ih =>
    cases as with
    | nil => simp [pieces] at h
    | cons c cs =>
      rw [pieces, List.cons_append] at h
      obtain ⟨rfl, hrest⟩ := List.cons.inj h
      -- Something is left of the text behind its first lexeme, so that lexeme stays.
      have hmore : (Lexeme.scan c cs).more < cs.length := by
        have hne : cs.drop (Lexeme.scan c cs).more ≠ [] := by
          intro hnil
          rw [hnil, pieces] at hrest
          simp at hrest
        rwa [ne_eq, List.drop_eq_nil_iff, Nat.not_le] at hne
      have hscan : Lexeme.scan c (cs ++ bs) = Lexeme.scan c cs := Lexeme.scan_append_of_lt hmore bs
      have hle := Nat.le_of_lt hmore
      rw [List.cons_append, pieces, hscan, List.take_append_of_le_length hle,
        List.drop_append_of_le_length hle, ih hrest, List.cons_append]

/-- Whether a text falls apart at a place depends on no character behind the place but the first. -/
lemma pieces_append_of_head? {as bs ds : List Char}
    (h : pieces (as ++ bs) = pieces as ++ pieces bs) (hhead : ds.head? = bs.head?) :
    pieces (as ++ ds) = pieces as ++ pieces ds := by
  fun_induction pieces as with
  | case1 => rfl
  | case2 c cs ih =>
    rw [List.cons_append, pieces, List.cons_append] at h
    obtain ⟨hfirst, hrest⟩ := List.cons.inj h
    have hle := Lexeme.more_scan_le c cs
    have hle' := Lexeme.more_scan_le c (cs ++ bs)
    -- Both lexemes have the same characters, so they end at the same place.
    have hmore : (Lexeme.scan c (cs ++ bs)).more = (Lexeme.scan c cs).more := by
      have hlength := congrArg List.length (List.cons.inj (congrArg Piece.text hfirst)).2
      rw [List.length_take, List.length_take] at hlength
      omega
    have hscan := Lexeme.scan_append (Nat.le_trans (Nat.le_of_eq hmore) hle)
    have hsame := Lexeme.scan_append_of_head? (Nat.le_trans (Nat.le_of_eq hmore) hle) hhead
    rw [hmore, List.drop_append_of_le_length hle] at hrest
    rw [List.cons_append, pieces, hsame, hscan, List.take_append_of_le_length hle,
      List.drop_append_of_le_length hle, ih hrest, List.cons_append]

/-! ## Cutting a script between two tokens -/

lemma exists_of_place_eq_append {offset : Nat} {rs : List Piece} {xs ys : List Token}
    (h : place offset rs = xs ++ ys) :
    ∃ ps qs, rs = ps ++ qs ∧ place offset ps = xs ∧
      place (offset + byteLength (Piece.chars ps)) qs = ys := by
  induction xs generalizing offset rs with
  | nil => exact ⟨[], rs, rfl, rfl, h⟩
  | cons x xs ih =>
    cases rs with
    | nil => simp [place] at h
    | cons r rs =>
      rw [place, List.cons_append] at h
      obtain ⟨rfl, hrest⟩ := List.cons.inj h
      obtain ⟨ps, qs, rfl, hps, hqs⟩ := ih hrest
      refine ⟨r :: ps, qs, rfl, by rw [place, hps], ?_⟩
      rw [Piece.chars_cons, Text.byteLength_append, ← Nat.add_assoc]
      exact hqs

/-- A script that is cut between two of its tokens falls into two texts.  The tokens of the first
are those before the cut, and those behind it are the pieces of the second. -/
theorem exists_of_tokenize_eq_append {input : String} {xs ys : List Token}
    (h : tokenize input = xs ++ ys) :
    ∃ as bs, input.toList = as ++ bs ∧ tokenize (String.ofList as) = xs ∧
      place (byteLength as) (pieces bs) = ys := by
  rw [tokenize_eq_place] at h
  obtain ⟨ps, qs, hpieces, hps, hqs⟩ := exists_of_place_eq_append h
  obtain ⟨hfirst, hsecond⟩ := pieces_of_append hpieces
  refine ⟨Piece.chars ps, Piece.chars qs, ?_, ?_, ?_⟩
  · rw [← Piece.chars_append, ← hpieces, chars_pieces]
  · rw [tokenize_eq_place, String.toList_ofList, hfirst, hps]
  · rw [hsecond, ← hqs, Nat.zero_add]

/-- A token that stands in the middle of a text divides it into three. -/
lemma pieces_around {as w bs : List Char} {token : Token}
    (hmem : token ∈ tokenize (String.ofList (as ++ (w ++ bs))))
    (hstart : token.start = byteLength as) (hvalue : token.value = String.ofList w) :
    pieces (as ++ (w ++ bs)) = pieces as ++ pieces (w ++ bs) ∧
      pieces (w ++ bs) = ⟨token.kind, w⟩ :: pieces bs := by
  rw [tokenize_eq_place, String.toList_ofList] at hmem
  obtain ⟨before, after, hsplit⟩ := List.append_of_mem hmem
  obtain ⟨ps, qs, hpieces, -, hplace⟩ := exists_of_place_eq_append hsplit
  obtain ⟨hps, hqs⟩ := pieces_of_append hpieces
  have htext : as ++ (w ++ bs) = Piece.chars ps ++ Piece.chars qs := by
    rw [← Piece.chars_append, ← hpieces, chars_pieces]
  cases qs with
  | nil => cases hplace
  | cons p qs =>
    rw [place] at hplace
    obtain ⟨rfl, -⟩ := List.cons.inj hplace
    have hlength : byteLength as = byteLength (Piece.chars ps) := by
      rw [← hstart, Nat.zero_add]
      rfl
    -- The token is where the first text ends, so the pieces before it make up that text.
    obtain ⟨rfl, hrest⟩ := Text.append_inj_of_byteLength_eq htext hlength
    obtain rfl : p.text = w := String.ofList_injective hvalue
    rw [Piece.chars_cons] at hrest
    obtain rfl := List.append_cancel_left hrest
    obtain ⟨-, hbehind⟩ := pieces_of_append (hqs.trans (List.singleton_append).symm)
    refine ⟨?_, ?_⟩
    · rw [hpieces, hps, ← hrest, ← Piece.chars_cons, hqs]
    · rw [← Piece.chars_cons, hqs, hbehind]
      rfl

end SqlSplit
