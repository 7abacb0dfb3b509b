import SqlSplit.Proofs.Scripts.Excerpts

/-!
# The audit passes

An audit of a script puts all its tokens in order and compares them with the text, and does the same
with the statements.  It computes, for one text, what was stated of the layout of every script.

`readsSoundly_eq_true` states that there is no text at which the audit finds anything wrong, in
either mode.  The tokens pass because they are pieces of the text (`Script.tile_place`), and a
statement passes because its tokens are those of the text that it cuts out.
-/

namespace SqlSplit

namespace Script

/-- Pieces, put one behind the other, pass as the tokens of the text that they make up. -/
lemma tile_place {ps : List Piece} (h : ∀ p ∈ ps, p.text ≠ []) (offset : Nat) :
    tile (place offset ps) offset (Piece.chars ps) = true := by
  induction ps generalizing offset with
  | nil => rfl
  | cons p ps ih =>
    obtain ⟨hp, hps⟩ := List.forall_mem_cons.1 h
    have hvalue : (p.token offset).value.toList = p.text := String.toList_ofList
    have hstop : (p.token offset).stop = offset + Text.byteLength p.text := Piece.stop_token hp
    have hrest := ih hps (offset + Text.byteLength p.text)
    simp only [place, tile, hvalue, hstop, Piece.chars_cons, List.drop_left, hrest]
    simp [Piece.token]

lemma tile_tokenize (input : String) : tile (tokenize input) 0 input.toList = true := by
  have hne : ∀ p ∈ pieces input.toList, p.text ≠ [] := fun p => ne_nil_of_mem_pieces
  have htile := tile_place hne 0
  rwa [chars_pieces, ← tokenize_eq_place] at htile

lemma isDisjoint_of_pairwise {statements : List Statement}
    (h : statements.Pairwise fun a b => a.last < b.start) : isDisjoint statements = true := by
  induction statements with
  | nil => rfl
  | cons a statements ih =>
    obtain ⟨ha, hrest⟩ := List.pairwise_cons.1 h
    cases statements with
    | nil => rfl
    | cons b statements =>
      rw [isDisjoint, ih hrest]
      simp [ha b List.mem_cons_self]

end Script

namespace Outline

variable {mode : Mode} {o : Outline} {input : String} {statement : Statement}

lemma isSound_of_mem (ho : o.IsDerived mode) (htokens : o.tokens = tokenize input)
    (h : statement ∈ o.statements (input.utf8ByteSize - 1)) :
    statement.isSound input.toList = true := by
  have htiles : Tiles 0 o.tokens input.utf8ByteSize := by
    rw [htokens]
    exact tiles_tokens .sql input
  obtain ⟨first, last, hwhole⟩ := exists_isWhole ho htiles h
  obtain ⟨text, htext, hmoved, -⟩ := exists_text ho htokens h
  -- Moving the tokens leaves their values, which make up the text that has these tokens alone.
  have hvalues : String.join (statement.tokens.toList.map Token.value) = text := by
    rw [hmoved, List.map_map]
    exact join_map_value_tokenize text
  have hfirst : statement.tokens[0]? = some first := by
    rw [← Array.getElem?_toList, ← List.head?_eq_getElem?, hwhole.head?_eq]
  have hlast : statement.tokens.back? = some last := by
    rw [← Array.getLast?_toList, hwhole.getLast?_eq]
  have hterminated : statement.terminated = (last.kind == .semicolon) := by
    rw [Bool.eq_iff_iff, beq_iff_eq]
    exact hwhole.terminated_iff
  have hslice : statement.sliceOf? input.toList = some text := htext
  rw [Statement.isSound, hfirst, hlast]
  simp [hwhole.first_not_blank, hwhole.start_eq, hwhole.last_eq, hvalues, hslice, hterminated]

lemma isSound_script (ho : o.IsDerived mode) (htokens : o.tokens = tokenize input) :
    (o.script input.utf8ByteSize).isSound input = true := by
  have htiles : Tiles 0 o.tokens input.utf8ByteSize := by
    rw [htokens]
    exact tiles_tokens .sql input
  have hcovers : (o.script input.utf8ByteSize).covers input = true := by
    rw [Script.covers, tokensInOrder_script htiles, htokens]
    exact Script.tile_tokenize input
  have hordered : (o.script input.utf8ByteSize).isOrdered input = true := by
    have hall : ∀ statement ∈ o.statements (input.utf8ByteSize - 1),
        statement.isSound input.toList = true :=
      fun statement hmem => isSound_of_mem ho htokens hmem
    rw [Script.isOrdered, toList_statements_script, ← Array.all_toList, toList_statements_script,
      Script.isDisjoint_of_pairwise (pairwise_statements ho htiles), List.all_eq_true.2 hall]
    rfl
  rw [Script.isSound, hcovers, hordered]
  rfl

end Outline

/-- Every text is read soundly. -/
theorem readsSoundly_eq_true (input : String) : readsSoundly input = true := by
  refine List.all_eq_true.2 fun mode _ => ?_
  cases hparse : parse input mode with
  | error error => rfl
  | ok script =>
    obtain ⟨o, ho, htokens, rfl⟩ := Parser.exists_outline hparse
    exact Outline.isSound_script ho htokens

end SqlSplit
