import SqlSplit.Proofs.Scripts.Derivation
import SqlSplit.Proofs.Tokens.Regions

/-!
# Where statements end

A script is divided at its semicolon tokens and nowhere else: each of them closes a statement, as
no blank token is one and an open statement collects none (`Outline.map_last_closed`).  Which
characters the semicolon tokens are was said in terms of regions.  `map_last_terminated_eq` puts
the two together: the closed statements end at the semicolons in code, in order.
-/

namespace SqlSplit

lemma semicolonTokens_eq_nil_iff {tokens : List Token} :
    semicolonTokens tokens = [] ↔ NoSemicolon tokens := by
  simp [semicolonTokens, NoSemicolon]

lemma semicolonTokens_append (xs ys : List Token) :
    semicolonTokens (xs ++ ys) = semicolonTokens xs ++ semicolonTokens ys :=
  List.filter_append ..

namespace Part

variable {mode : Mode} {part : Part}

/-- A part holds one semicolon if it is a statement, and none if it is blank. -/
lemma IsDerived.semicolonTokens_eq (h : part.IsDerived mode) :
    (semicolonTokens part.tokens).map Token.last = part.statement?.toList.map Statement.last := by
  cases part with
  | blank token =>
    have hblank : token.isBlank = true := h
    have hkind : NoSemicolon [token] := by
      rw [NoSemicolon, List.forall_mem_singleton]
      intro hkind
      rw [Token.isBlank, hkind] at hblank
      cases hblank
    rw [tokens, semicolonTokens_eq_nil_iff.2 hkind]
    rfl
  | closed draft semicolon =>
    obtain ⟨hdraft, hkind⟩ := h
    have hnone : NoSemicolon draft.tokens := hdraft.derives.noSemicolon
    have hsingle : semicolonTokens [semicolon] = [semicolon] := by
      simp [semicolonTokens, hkind]
    rw [tokens, semicolonTokens_append, semicolonTokens_eq_nil_iff.2 hnone, hsingle]
    rfl

end Part

namespace Outline

variable {mode : Mode} {o : Outline}

lemma map_last_closed (h : o.IsDerived mode) :
    o.closed.map Statement.last = (semicolonTokens o.tokens).map Token.last := by
  have hparts : ∀ parts : List Part, (∀ part ∈ parts, part.IsDerived mode) →
      (parts.filterMap Part.statement?).map Statement.last =
        (semicolonTokens (parts.flatMap Part.tokens)).map Token.last := by
    intro parts hderived
    induction parts with
    | nil => rfl
    | cons part parts ih =>
      obtain ⟨hpart, hrest⟩ := List.forall_mem_cons.1 hderived
      rw [List.flatMap_cons, semicolonTokens_append, List.map_append, hpart.semicolonTokens_eq,
        ← ih hrest, List.filterMap_cons]
      cases part.statement? <;> rfl
  -- A semicolon in the open statement would have closed it.
  have hopen : semicolonTokens (openTokens o.open?) = [] := by
    cases ho : o.open? with
    | none => rfl
    | some draft =>
      have hdraft : NoSemicolon draft.tokens := (h.open? draft ho).derives.noSemicolon
      exact semicolonTokens_eq_nil_iff.2 hdraft
  rw [tokens, semicolonTokens_append, ← openTokens, hopen, List.append_nil]
  exact hparts o.parts h.parts

lemma filter_terminated (o : Outline) (last : Nat) :
    (o.statements last).filter (·.terminated) = o.closed := by
  have hclosed : o.closed.filter (·.terminated) = o.closed :=
    List.filter_eq_self.2 fun statement => terminated_of_mem_closed
  have hopen : (o.open?.map fun draft => draft.closeAt last).toList.filter (·.terminated) = [] := by
    cases o.open? <;> rfl
  rw [statements, List.filter_append, hclosed, hopen, List.append_nil]

end Outline

/-- The semicolon tokens of an SQL script are the semicolons that a pass over its characters meets
in code, and when the script is read, these are where its terminated statements end. -/
theorem map_last_terminated_eq (input : String) :
    (semicolonTokens (tokenize input)).map Token.start = semicolonsFrom .code 0 input.toList ∧
      ∀ mode script, parse input mode = .ok script →
        (script.statements.toList.filter (·.terminated)).map Statement.last =
          semicolonsFrom .code 0 input.toList := by
  rw [semicolonTokens_tokenize]
  refine ⟨?_, ?_⟩
  · rw [List.map_map]
    exact List.map_id _
  · intro mode script hscript
    obtain ⟨o, hderived, htokens, rfl⟩ := Parser.exists_outline hscript
    have hstatements : (o.script input.utf8ByteSize).statements.toList =
        o.statements (input.utf8ByteSize - 1) := rfl
    rw [hstatements, o.filter_terminated, Outline.map_last_closed hderived, htokens]
    show (semicolonTokens (tokenize input)).map Token.last = semicolonsFrom .code 0 input.toList
    rw [semicolonTokens_tokenize, List.map_map]
    exact List.map_id _

/-- Of five semicolons two are in code. -/
theorem map_last_terminated_of_quoted :
    ∃ script, parse "SELECT ';',\x22;\x22;--;\nDROP;" .strict = .ok script ∧
      (script.statements.toList.filter (·.terminated)).map Statement.last = [14, 23] := by
  have hcode : semicolonsFrom .code 0 "SELECT ';',\x22;\x22;--;\nDROP;".toList = [14, 23] := by
    decide +kernel
  obtain ⟨script, hscript⟩ :=
    exists_eq_ok_of_isOk (x := parse "SELECT ';',\x22;\x22;--;\nDROP;" .strict) (by decide +kernel)
  refine ⟨script, hscript, ?_⟩
  rw [(map_last_terminated_eq _).2 .strict script hscript]
  exact hcode

end SqlSplit
