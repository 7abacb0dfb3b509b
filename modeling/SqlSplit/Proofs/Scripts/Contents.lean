import SqlSplit.Proofs.Scripts.Revision
import SqlSplit.Proofs.Tokens.Enclosures
import SqlSplit.Proofs.Tokens.Shift

/-!
# The content of literals and comments

What a literal or a comment contains has no part in how a script is read.  Another content may be
longer or shorter, and may have semicolons, keywords or the marks of other literals in it.  All the
same, the token remains one token of its kind, those around it remain as they are but for their
places, and they are put into the same statements or refused for the same reason.

`Revision.replacing` says what becomes of all tokens if one of them is given another text, and
`tokenize_replace_content` that this is what happens to the tokens of a script.  The main statement
is `parse_replace_content`.
-/

namespace SqlSplit

open Text (byteLength)

/-! ## A piece in the middle of a text -/

/-- The tokens of a text that a piece divides into three. -/
lemma tokenize_eq_of_pieces {a b : String} (p : Piece) (hne : p.text ≠ [])
    (h : pieces (a.toList ++ (p.text ++ b.toList)) = pieces a.toList ++ p :: pieces b.toList) :
    tokenize (a ++ String.ofList p.text ++ b) =
      tokenize a ++ p.token a.utf8ByteSize ::
        (tokenize b).map (Token.shift (p.token a.utf8ByteSize).stop) := by
  have hbehind := place_pieces (p.token a.utf8ByteSize).stop b.toList
  rw [String.ofList_toList] at hbehind
  rw [tokenize_eq_place, String.toList_append, String.toList_append, String.toList_ofList,
    List.append_assoc, h, place_append, place, chars_pieces, Nat.zero_add, Text.byteLength_toList,
    ← tokenize_eq_place, ← hbehind, Piece.stop_token hne]

/-! ## Another text for a token -/

/-- The token with another text, at the same place. -/
def Token.withText (token : Token) (text : String) : Token :=
  { token with value := text, last := token.start + text.utf8ByteSize - 1 }

namespace Revision

/-- One token is given another text, and what stands behind it moves. -/
def replacing (old : Token) (text : String) : Revision where
  value token := if token = old then text else token.value
  offset n := if n < old.last then n else (old.withText text).last + (n - old.last)

variable {old token : Token} {text : String}

lemma token_replacing_of_lt (h : token.last < old.last) (hle : token.start ≤ token.last) :
    (replacing old text).token token = token := by
  have hne : token ≠ old := by
    rintro rfl
    exact Nat.lt_irrefl _ h
  simp [Revision.token, replacing, hne, h, Nat.lt_of_le_of_lt hle h]

lemma token_replacing_self (h : old.start < old.last) :
    (replacing old text).token old = old.withText text := by
  simp [Revision.token, replacing, h, Token.withText]

lemma offset_replacing_add (n : Nat) :
    (replacing old text).offset (old.last + n) = (old.withText text).last + n := by
  simp only [replacing, if_neg (Nat.not_lt.2 (Nat.le_add_right old.last n)),
    Nat.add_sub_cancel_left]

lemma token_replacing_shift (h : old.start ≤ old.last) :
    (replacing old text).token (token.shift old.stop) =
      token.shift (old.withText text).stop := by
  have hne : token.shift old.stop ≠ old := by
    intro heq
    have hstart : token.start + old.stop = old.start := congrArg Token.start heq
    rw [Token.stop] at hstart
    omega
  have hvalue : (replacing old text).value (token.shift old.stop) = token.value := if_neg hne
  have hoffset : ∀ n, (replacing old text).offset (n + old.stop) =
      n + (old.withText text).stop := by
    intro n
    rw [Token.stop, Nat.add_left_comm, Nat.add_comm n, offset_replacing_add, Token.stop]
    omega
  have hstart : (token.shift old.stop).start = token.start + old.stop := rfl
  have hlast : (token.shift old.stop).last = token.last + old.stop := rfl
  rw [Revision.token, hvalue, hstart, hlast, hoffset, hoffset]
  rfl

end Revision

/-! ## Another content -/

namespace Enclosure

variable (e : Enclosure)

lemma around_ne_nil (content : List Char) : e.around content ≠ [] := by
  obtain ⟨c, -, haround⟩ := e.exists_around_eq
  obtain ⟨cs, -, hcs⟩ := haround content
  rw [hcs]
  exact List.cons_ne_nil _ _

lemma utf8ByteSize_write (content : String) :
    (e.write content).utf8ByteSize = byteLength (e.around content.toList) := by
  rw [← Text.byteLength_toList, toList_write]

lemma one_lt_utf8ByteSize_write (content : String) : 1 < (e.write content).utf8ByteSize := by
  obtain ⟨c, -, haround⟩ := e.exists_around_eq
  obtain ⟨cs, hne, hcs⟩ := haround content.toList
  have hlength := Text.length_le_byteLength (e.around content.toList)
  have hpos := List.length_pos_iff.2 hne
  rw [hcs, List.length_cons, ← hcs] at hlength
  rw [utf8ByteSize_write]
  omega

lemma token_piece (content : String) (offset : Nat) :
    (e.piece content.toList).token offset =
      ⟨e.kind, e.write content, offset, offset + (e.write content).utf8ByteSize - 1⟩ := by
  rw [utf8ByteSize_write]
  rfl

lemma head?_around_append (content content' rest : List Char) :
    (e.around content' ++ rest).head? = (e.around content ++ rest).head? := by
  obtain ⟨c, -, haround⟩ := e.exists_around_eq
  obtain ⟨cs, -, hcs⟩ := haround content
  obtain ⟨cs', -, hcs'⟩ := haround content'
  rw [hcs, hcs']
  rfl

end Enclosure

variable {a b content content' : String} {e : Enclosure} {token : Token}

/-- The pieces around enclosed text, before and after it has been given another content. -/
lemma pieces_around_replaced (hmem : token ∈ tokenize (a ++ e.write content ++ b))
    (hstart : token.start = a.utf8ByteSize) (hvalue : token.value = e.write content)
    (hcontent : e.Allows content'.toList) :
    token.kind = e.kind ∧
    pieces (a.toList ++ (e.around content.toList ++ b.toList)) =
      pieces a.toList ++ e.piece content.toList :: pieces b.toList ∧
    pieces (a.toList ++ (e.around content'.toList ++ b.toList)) =
      pieces a.toList ++ e.piece content'.toList :: pieces b.toList := by
  have htext : a ++ e.write content ++ b =
      String.ofList (a.toList ++ (e.around content.toList ++ b.toList)) := by
    simp [Enclosure.write, String.append_assoc]
  rw [htext] at hmem
  rw [← Text.byteLength_toList] at hstart
  obtain ⟨hbefore, henclosed⟩ := pieces_around hmem hstart hvalue
  obtain ⟨hkind, hends⟩ := Enclosure.endsBefore_of_pieces henclosed
  have hafter := pieces_append_of_head? hbefore
    (e.head?_around_append content.toList content'.toList b.toList)
  refine ⟨hkind, ?_, ?_⟩
  · rw [hbefore, henclosed, hkind]
    rfl
  · rw [hafter, Enclosure.pieces_around_append hcontent hends]

lemma withText_write (hmem : token ∈ tokenize (a ++ e.write content ++ b))
    (hvalue : token.value = e.write content) (hkind : token.kind = e.kind) :
    token.withText (e.write content) = token := by
  have hpiece : token.piece = e.piece content.toList := by
    rw [Token.piece, hvalue, hkind, Enclosure.toList_write, Enclosure.piece]
  have htoken := token_piece_of_mem hmem
  rw [hpiece, e.token_piece, ← hkind] at htoken
  exact htoken

lemma tokenize_around (h : pieces (a.toList ++ (e.around content.toList ++ b.toList)) =
      pieces a.toList ++ e.piece content.toList :: pieces b.toList)
    (hkind : token.kind = e.kind) (hstart : token.start = a.utf8ByteSize) :
    tokenize (a ++ e.write content ++ b) = tokenize a ++ token.withText (e.write content) ::
      (tokenize b).map (Token.shift (token.withText (e.write content)).stop) := by
  have htoken : token.withText (e.write content) =
      (e.piece content.toList).token a.utf8ByteSize := by
    rw [e.token_piece, Token.withText, hkind, hstart]
  rw [htoken]
  exact tokenize_eq_of_pieces (e.piece content.toList) (e.around_ne_nil _) h

/-- After one token of a script, which is enclosed, has been given another content, the tokens are
as they were, with the new text for this one. -/
lemma tokenize_replace_content (hmem : token ∈ tokenize (a ++ e.write content ++ b))
    (hstart : token.start = a.utf8ByteSize) (hvalue : token.value = e.write content)
    (hcontent : e.Allows content'.toList) :
    tokenize (a ++ e.write content' ++ b) =
      (tokenize (a ++ e.write content ++ b)).map
        (Revision.replacing token (e.write content')).token := by
  obtain ⟨hkind, hold, hnew⟩ := pieces_around_replaced hmem hstart hvalue hcontent
  have hsize := e.one_lt_utf8ByteSize_write content
  have hsame := withText_write hmem hvalue hkind
  have hlast : token.last = token.start + (e.write content).utf8ByteSize - 1 :=
    congrArg Token.last hsame.symm
  have htokens := tokenize_around hold hkind hstart
  rw [hsame] at htokens
  rw [tokenize_around hnew hkind hstart, htokens, List.map_append, List.map_cons, List.map_map,
    Revision.token_replacing_self (by omega)]
  -- The tokens before this one stay where they are, and those behind it move with its end.
  refine congrArg₂ (· ++ ·) ?_ (congrArg₂ List.cons rfl ?_)
  · have hbefore : ∀ other ∈ tokenize a,
        (Revision.replacing token (e.write content')).token other = other := by
      intro other hother
      obtain ⟨-, hle, hstop⟩ := (tiles_tokens .sql a).le_start_of_mem hother
      rw [Token.stop] at hstop
      exact Revision.token_replacing_of_lt (by omega) hle
    rw [List.map_congr_left hbefore, List.map_id']
  · refine List.map_congr_left fun other _ => ?_
    exact (Revision.token_replacing_shift (by omega)).symm

/-- Take a token of a script that is a quoted text, a block comment or a line comment, and give it
another content that can stand there.  The tokens of the script are as before, with the new text for
this token and with the tokens behind it moved.  If the script could be read, it is read as before,
with its tokens, and the places of its statements, changed in the same way.  If it was refused, it
is refused with the same error, about the same token. -/
theorem parse_replace_content {mode : Mode} (hmem : token ∈ tokenize (a ++ e.write content ++ b))
    (hstart : token.start = a.utf8ByteSize) (hvalue : token.value = e.write content)
    (hcontent : e.Allows content'.toList) :
    let revision := Revision.replacing token (e.write content')
    tokenize (a ++ e.write content' ++ b) =
      (tokenize (a ++ e.write content ++ b)).map revision.token ∧
    (∀ script, parse (a ++ e.write content ++ b) mode = .ok script →
      parse (a ++ e.write content' ++ b) mode = .ok (revision.script script)) ∧
    ∀ error, parse (a ++ e.write content ++ b) mode = .error error →
      ∃ fault ∈ tokenize (a ++ e.write content ++ b), error.Names fault ∧
        parse (a ++ e.write content' ++ b) mode =
          .error (error.about (revision.token fault)) := by
  intro revision
  have htokens := tokenize_replace_content hmem hstart hvalue hcontent
  refine ⟨htokens, parse_revised mode htokens ?_ ?_⟩
  · intro other _
    -- Enclosed text spells no keyword, whatever it contains.
    by_cases hsame : other = token
    · have hnew : revision.value other = e.write content' := if_pos hsame
      rw [Revision.KeepsKeyword, hnew, hsame, hvalue, e.ofWord?_write, e.ofWord?_write]
    · have hkept : revision.value other = other.value := if_neg hsame
      rw [Revision.KeepsKeyword, hkept]
  · obtain ⟨hkind, -, -⟩ := pieces_around_replaced hmem hstart hvalue hcontent
    have hsize := e.one_lt_utf8ByteSize_write content
    have hsize' := e.one_lt_utf8ByteSize_write content'
    have hlast : token.last = token.start + (e.write content).utf8ByteSize - 1 :=
      congrArg Token.last (withText_write hmem hvalue hkind).symm
    have hlast' : (token.withText (e.write content')).last =
        token.start + (e.write content').utf8ByteSize - 1 := rfl
    have hend : (a ++ e.write content ++ b).utf8ByteSize - 1 = token.last + b.utf8ByteSize := by
      rw [String.utf8ByteSize_append, String.utf8ByteSize_append]
      omega
    rw [hend, Revision.offset_replacing_add, String.utf8ByteSize_append,
      String.utf8ByteSize_append]
    omega

/-- A literal gets a quote, a semicolon and a comment mark into it, in a script that is read, and a
comment gets a semicolon and a quote, in a script that is refused. -/
theorem parse_replace_content_with_marks :
    (∃ script, parse "SELECT 'é' t;" .strict = .ok script ∧
      parse "SELECT ''';--' t;" .strict =
        .ok ((Revision.replacing ⟨.string, "'é'", 7, 10⟩ "''';--'").script script)) ∧
    ∃ fault ∈ tokenize "/*a*/;", (ParseError.unrecognizedLeadingToken ";" 5).Names fault ∧
      parse "/*;'*/;" .lenient = .error ((ParseError.unrecognizedLeadingToken ";" 5).about
        ((Revision.replacing ⟨.blockComment, "/*a*/", 0, 4⟩ "/*;'*/").token fault)) := by
  obtain ⟨script, hscript⟩ :=
    exists_eq_ok_of_isOk (x := parse "SELECT 'é' t;" .strict) (by decide +kernel)
  have hrefused : parse "/*a*/;" .lenient = .error (.unrecognizedLeadingToken ";" 5) := by
    decide +kernel
  have hquoted := @parse_replace_content "SELECT " " t;" "é" "';--" (.quotes '\x27' rfl)
    ⟨.string, "'é'", 7, 10⟩ .strict (by decide +kernel) (by decide +kernel) (by decide +kernel)
    trivial
  have hcomment := @parse_replace_content "" ";" "a" ";'" .block
    ⟨.blockComment, "/*a*/", 0, 4⟩ .lenient (by decide +kernel) (by decide +kernel)
    (by decide +kernel) (by decide)
  exact ⟨⟨script, hscript, hquoted.2.1 script hscript⟩, hcomment.2.2 _ hrefused⟩

end SqlSplit
