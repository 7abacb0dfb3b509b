import Mathlib.Tactic.Lemma
import SqlSplit.Tokenizer

/-!
# Tokens tile their text

A tokenizer may choose the kinds, the values and the extents of its tokens as it likes, but each
token starts where the one before it stops.  This file draws the consequences.  `Covers` says that
tokens lie one behind the other over some characters, `Tiles` says the same of byte offsets alone.

`covers_tokens` is the main statement: the tokens of a text cover it.  From `Covers` follow the
slices that tokens cut out of their text (`Covers.slices`), and from `Tiles` all that is said about
offsets: tokens come in order (`Tiles.pairwise`), every byte lies in one (`Tiles.exists_mem`), and
sorting tokens that were collected from several places puts them back (`Tiles.mergeSort_eq`).
-/

namespace SqlSplit

open Text (byteLength)

/-! ## Tokens over characters -/

/-- Tokens lie one behind the other over characters that start at an offset, and each takes at
least one of them. -/
inductive Covers : Nat → List Char → List Token → Prop
  | nil {offset : Nat} : Covers offset [] []
  | cons {offset : Nat} {token : Token} {tokens : List Token} {piece cs : List Char}
      (hne : piece ≠ []) (hstart : token.start = offset)
      (hstop : token.stop = offset + byteLength piece)
      (htokens : Covers token.stop cs tokens) :
      Covers offset (piece ++ cs) (token :: tokens)

namespace Cursor

/-- A token that is admitted takes some characters and leaves the cursor behind them. -/
lemma Admits.exists_piece {cursor : Cursor} {token : Token} (h : cursor.Admits token) :
    ∃ piece, piece ≠ [] ∧ cursor.rest = piece ++ (cursor.past token h).rest ∧
      token.stop = cursor.position + byteLength piece := by
  have hlt := h.position_lt_stop
  obtain ⟨rest, hrest⟩ := Option.isSome_iff_exists.1 h.isSome_dropBytes?
  obtain ⟨piece, hpiece, hlength⟩ := Text.dropBytes?_eq_some_iff.1 hrest
  have hpast : (cursor.past token h).rest = rest := by
    simp only [past, hrest, Option.get_some]
  refine ⟨piece, ?_, by rw [hpast, hpiece], by omega⟩
  rintro rfl
  simp only [Text.byteLength_nil] at hlength
  omega

end Cursor

/-- The tokens from a cursor on cover what is left of the text. -/
lemma covers_tokensFrom (tokenizer : Tokenizer) (turn : Nat) (cursor : Cursor) :
    Covers cursor.position cursor.rest (tokenizer.tokensFrom turn cursor) := by
  fun_induction Tokenizer.tokensFrom tokenizer turn cursor with
  | case1 turn cursor h token ih =>
    obtain ⟨piece, hne, hrest, hstop⟩ := (tokenizer.admits turn cursor h).exists_piece
    rw [hrest]
    exact .cons hne (tokenizer.admits turn cursor h).start_eq hstop ih
  | case2 turn cursor h =>
    have hnil : cursor.rest = [] := by simpa [Cursor.atEnd] using h
    rw [hnil]
    exact .nil

/-- The tokens of a text cover it. -/
theorem covers_tokens (tokenizer : Tokenizer) (input : String) :
    Covers 0 input.toList (tokenizer.tokens input) :=
  covers_tokensFrom tokenizer 0 (Cursor.start input)

namespace Covers

variable {offset : Nat} {cs : List Char} {tokens xs ys : List Token} {token : Token}

lemma append_inv (h : Covers offset cs (xs ++ ys)) :
    ∃ as bs, cs = as ++ bs ∧ Covers offset as xs ∧ Covers (offset + byteLength as) bs ys := by
  induction xs generalizing offset cs with
  | nil => exact ⟨[], cs, rfl, .nil, h⟩
  | cons x xs ih =>
    cases h with
    | @cons _ _ _ piece cs hne hstart hstop htokens =>
      obtain ⟨as, bs, rfl, hxs, hys⟩ := ih htokens
      refine ⟨piece ++ as, bs, by simp, .cons hne hstart hstop hxs, ?_⟩
      rw [Text.byteLength_append, ← Nat.add_assoc, ← hstop]
      exact hys

lemma length_le (h : Covers offset cs tokens) : tokens.length ≤ byteLength cs := by
  induction h with
  | nil => simp
  | cons hne hstart hstop htokens ih =>
    have := Text.byteLength_pos hne
    simp only [List.length_cons, Text.byteLength_append]
    omega

end Covers

/-- The part of a text, given by its characters, that a token spans. -/
def Token.sliceOf? (token : Token) (cs : List Char) : Option String :=
  Text.slice? cs token.start token.stop

lemma Covers.slices {before cs after : List Char} {tokens : List Token}
    (h : Covers (byteLength before) cs tokens) :
    ∃ slices, tokens.mapM (fun token => token.sliceOf? (before ++ cs ++ after)) = some slices ∧
      String.join slices = String.ofList cs := by
  generalize hoffset : byteLength before = offset at h
  induction h generalizing before with
  | nil => exact ⟨[], by simp, by simp⟩
  | @cons offset token tokens piece cs hne hstart hstop htokens ih =>
    have hbefore : byteLength (before ++ piece) = token.stop := by
      rw [Text.byteLength_append, hstop, hoffset]
    obtain ⟨slices, hslices, hjoin⟩ := ih hbefore
    have htext : before ++ (piece ++ cs) ++ after = before ++ piece ++ cs ++ after := by
      simp
    have hslice : token.sliceOf? (before ++ piece ++ cs ++ after) = some (String.ofList piece) := by
      rw [Token.sliceOf?, hstart, hstop, ← hoffset, List.append_assoc _ cs]
      exact Text.slice?_append before piece (cs ++ after)
    refine ⟨String.ofList piece :: slices, ?_, ?_⟩
    · rw [htext, List.mapM_cons, hslice, hslices]
      rfl
    · rw [String.join_cons, hjoin, String.ofList_append]

/-! ## Tokens over bytes -/

/-- Tokens follow each other without gap from one offset to another, each over at least one
byte. -/
def Tiles (start : Nat) : List Token → Nat → Prop
  | [], stop => start = stop
  | token :: tokens, stop =>
    token.start = start ∧ token.start ≤ token.last ∧ Tiles token.stop tokens stop

lemma Covers.tiles {offset : Nat} {cs : List Char} {tokens : List Token}
    (h : Covers offset cs tokens) : Tiles offset tokens (offset + byteLength cs) := by
  induction h with
  | nil => rfl
  | @cons offset token tokens piece cs hne hstart hstop htokens ih =>
    have hpos := Text.byteLength_pos hne
    have hlast : token.start ≤ token.last := by
      rw [Token.stop] at hstop
      omega
    rw [Text.byteLength_append, ← Nat.add_assoc, ← hstop]
    exact ⟨hstart, hlast, ih⟩

lemma Covers.tiles_input {input : String} {tokens : List Token}
    (h : Covers 0 input.toList tokens) : Tiles 0 tokens input.utf8ByteSize := by
  have htiles := h.tiles
  rwa [Nat.zero_add, Text.byteLength_toList] at htiles

/-- The tokens of a text tile its bytes. -/
theorem tiles_tokens (tokenizer : Tokenizer) (input : String) :
    Tiles 0 (tokenizer.tokens input) input.utf8ByteSize :=
  (covers_tokens tokenizer input).tiles_input

namespace Tiles

variable {start stop : Nat} {tokens xs ys collected : List Token} {token first last : Token}

lemma append_iff : Tiles start (xs ++ ys) stop ↔ ∃ mid, Tiles start xs mid ∧ Tiles mid ys stop := by
  induction xs generalizing start with
  | nil => simp [Tiles]
  | cons x xs ih => simp [Tiles, ih, and_assoc]

lemma le (h : Tiles start tokens stop) : start ≤ stop := by
  induction tokens generalizing start with
  | nil => exact Nat.le_of_eq h
  | cons token tokens ih =>
    obtain ⟨hstart, hlast, htokens⟩ := h
    have hstop := ih htokens
    simp only [Token.stop] at hstop
    omega

lemma stop_unique {stop' : Nat} (h : Tiles start tokens stop) (h' : Tiles start tokens stop') :
    stop = stop' := by
  induction tokens generalizing start with
  | nil => exact h.symm.trans h'
  | cons token tokens ih => exact ih h.2.2 h'.2.2

lemma le_start_of_mem (h : Tiles start tokens stop) (hmem : token ∈ tokens) :
    start ≤ token.start ∧ token.start ≤ token.last ∧ token.stop ≤ stop := by
  obtain ⟨before, after, rfl⟩ := List.append_of_mem hmem
  obtain ⟨mid, hbefore, hstart, hlast, hafter⟩ := append_iff.1 h
  have := hbefore.le
  have := hafter.le
  exact ⟨by omega, hlast, by omega⟩

lemma pairwise (h : Tiles start tokens stop) : tokens.Pairwise fun a b => a.last < b.start := by
  induction tokens generalizing start with
  | nil => exact .nil
  | cons token tokens ih =>
    obtain ⟨hstart, hlast, htokens⟩ := h
    refine .cons (fun b hb => ?_) (ih htokens)
    exact (htokens.le_start_of_mem hb).1

lemma exists_mem (h : Tiles start tokens stop) {offset : Nat} (hge : start ≤ offset)
    (hlt : offset < stop) : ∃ token ∈ tokens, token.start ≤ offset ∧ offset ≤ token.last := by
  induction tokens generalizing start with
  | nil =>
    have hend : start = stop := h
    omega
  | cons token tokens ih =>
    obtain ⟨hstart, hlast, htokens⟩ := h
    by_cases hin : offset ≤ token.last
    · exact ⟨token, List.mem_cons_self, by omega, hin⟩
    · obtain ⟨found, hmem, hfound⟩ := ih htokens (by rw [Token.stop]; omega)
      exact ⟨found, List.mem_cons_of_mem _ hmem, hfound⟩

/-- A cut lies before a token, and then before its start, or behind it. -/
lemma before_or_behind {length : Nat} {before after : List Token} (hxs : Tiles start xs stop)
    (hys : Tiles stop ys length) (h : xs ++ ys = before ++ token :: after) :
    (∃ zs, before = xs ++ zs ∧ stop ≤ token.start) ∨
      ∃ zs, xs = before ++ token :: zs ∧ token.start < stop := by
  rcases List.append_eq_append_iff.1 h with ⟨zs, hbefore, rfl⟩ | ⟨zs, rfl, htail⟩
  · exact .inl ⟨zs, hbefore, (hys.le_start_of_mem (by simp)).1⟩
  · cases zs with
    | nil =>
      rw [List.nil_append] at htail
      subst htail
      exact .inl ⟨[], by simp, (hys.le_start_of_mem List.mem_cons_self).1⟩
    | cons z zs =>
      obtain ⟨rfl, -⟩ := List.cons.inj htail
      have hmem : token ∈ before ++ token :: zs := by simp
      obtain ⟨-, hlast, hstop⟩ := hxs.le_start_of_mem hmem
      rw [Token.stop] at hstop
      exact .inr ⟨zs, rfl, by omega⟩

/-! ### The ends of a run -/

lemma start_eq_of_head? (h : Tiles start tokens stop) (hfirst : tokens.head? = some first) :
    first.start = start := by
  cases tokens with
  | nil => cases hfirst
  | cons token tokens =>
    cases hfirst
    exact h.1

lemma stop_eq_of_getLast? (h : Tiles start tokens stop) (hlast : tokens.getLast? = some last) :
    last.stop = stop := by
  obtain ⟨before, rfl⟩ := List.getLast?_eq_some_iff.1 hlast
  obtain ⟨mid, -, -, -, hstop⟩ := append_iff.1 h
  exact hstop

/-! ### Order -/

lemma pairwise_start (h : Tiles start tokens stop) :
    tokens.Pairwise fun a b => a.start < b.start := by
  refine h.pairwise.imp_of_mem ?_
  intro a b ha _ hab
  have := h.le_start_of_mem ha
  omega

lemma eq_of_start_eq (h : Tiles start tokens stop) :
    ∀ ⦃a⦄, a ∈ tokens → ∀ ⦃b⦄, b ∈ tokens → a.start = b.start → a = b := by
  have hstrict := h.pairwise_start
  refine List.Pairwise.forall_of_forall_of_flip (fun _ _ _ => rfl) ?_ ?_
  · exact hstrict.imp fun hlt heq => absurd heq (Nat.ne_of_lt hlt)
  · exact hstrict.imp fun hlt heq => absurd heq.symm (Nat.ne_of_lt hlt)

/-- Sorting puts the tokens back in their order, in whatever order they were collected. -/
lemma mergeSort_eq (h : Tiles start tokens stop) (hperm : collected.Perm tokens) :
    collected.mergeSort (fun a b => a.start ≤ b.start) = tokens := by
  have hsort := List.mergeSort_perm collected fun a b => a.start ≤ b.start
  have hsorted : (collected.mergeSort fun a b => a.start ≤ b.start).Pairwise
      fun a b => a.start ≤ b.start := by
    have hle : (collected.mergeSort fun a b => a.start ≤ b.start).Pairwise
        fun a b => decide (a.start ≤ b.start) = true :=
      List.pairwise_mergeSort (by simp only [decide_eq_true_eq]; omega)
        (by simp only [Bool.or_eq_true, decide_eq_true_eq]; omega) collected
    simpa only [decide_eq_true_eq] using hle
  have htokens : tokens.Pairwise fun a b => a.start ≤ b.start :=
    h.pairwise_start.imp Nat.le_of_lt
  refine List.Perm.eq_of_pairwise ?_ hsorted htokens (hsort.trans hperm)
  intro a b ha hb hab hba
  exact h.eq_of_start_eq ((hsort.trans hperm).mem_iff.1 ha) hb (Nat.le_antisymm hab hba)

end Tiles

end SqlSplit
