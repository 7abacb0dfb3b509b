import SqlSplit.Proofs.Scripts.Concatenation
import SqlSplit.Proofs.Scripts.Layout

/-!
# Excerpts of a script

The text that a statement cuts out of a script is a script of its own.  It is read as this one
statement, only that it starts at offset zero (`Outline.exists_isTextOf`): neither what stands
before the statement nor what follows it has a part in how it is read.

So a script can be taken apart and put together again.  `ReadsAs` says what a text is read as, and
`IsTextOf.readsAs_append` puts the text of a statement before another text.  `parse_join_texts`
states that the texts of the statements, one directly behind the other, are read as the same
statements, although all blank text between them is gone.  Each of them but the last ends in a
semicolon, and behind a semicolon every text is read as it is read alone.
-/

namespace SqlSplit

open Text (byteLength)

/-! ## Slices of a longer text -/

namespace Text

lemma slice?_eq_some_iff {cs : List Char} {start stop : Nat} {text : String} :
    slice? cs start stop = some text ↔
      ∃ before taken after, cs = before ++ taken ++ after ∧ byteLength before = start ∧
        byteLength before + byteLength taken = stop ∧ String.ofList taken = text := by
  constructor
  · intro h
    unfold slice? at h
    split_ifs at h with hle
    obtain ⟨rest, hrest, hbehind⟩ := Option.bind_eq_some_iff.1 h
    obtain ⟨after, hafter, htext⟩ := Option.bind_eq_some_iff.1 hbehind
    obtain ⟨before, rfl, hbefore⟩ := dropBytes?_eq_some_iff.1 hrest
    obtain ⟨taken, rfl, htaken⟩ := dropBytes?_eq_some_iff.1 hafter
    refine ⟨before, taken, after, (List.append_assoc ..).symm, hbefore, by omega, ?_⟩
    simpa using htext
  · rintro ⟨before, taken, after, rfl, rfl, rfl, rfl⟩
    exact slice?_append before taken after

lemma slice?_append_behind {cs : List Char} {start stop : Nat} {text : String}
    (h : slice? cs start stop = some text) (behind : List Char) :
    slice? (cs ++ behind) start stop = some text := by
  obtain ⟨before, taken, after, rfl, hstart, hstop, htext⟩ := slice?_eq_some_iff.1 h
  refine slice?_eq_some_iff.2 ⟨before, taken, after ++ behind, ?_, hstart, hstop, htext⟩
  simp

lemma slice?_append_before (before cs : List Char) (start stop : Nat) :
    slice? (before ++ cs) (start + byteLength before) (stop + byteLength before) =
      slice? cs start stop := by
  have hdrop : dropBytes? (start + byteLength before) (before ++ cs) = dropBytes? start cs := by
    rw [Nat.add_comm]
    exact dropBytes?_add (dropBytes?_append before cs)
  simp only [slice?, hdrop, Nat.add_le_add_iff_right, Nat.add_sub_add_right]

end Text

/-! ## The text of a statement -/

/-- Read alone, the text is the statement from its start to its end. -/
structure IsTextOf (mode : Mode) (text : String) (statement : Statement) : Prop where
  parse_eq : parse text mode =
    .ok { last := text.utf8ByteSize - 1, statements := #[statement] }
  text?_eq : statement.text? text = some text
  ends : statement.terminated = true → EndsInSemicolon (tokenize text)

lemma Statement.text?_eq_self {statement : Statement} {text : String} (hstart : statement.start = 0)
    (hlast : statement.last + 1 = text.utf8ByteSize) : statement.text? text = some text := by
  have hslice := Text.slice?_left text ""
  rw [String.append_empty] at hslice
  rw [Statement.text?, Statement.sliceOf?, hstart, hlast, hslice]

namespace Sentence.Derives

variable {mode : Mode} {sentence : Sentence} {semicolon : Token} {text : String}

/-- The tokens of a sentence are read as one statement, which stays open. -/
lemma exists_outline (h : sentence.Derives mode) :
    ∃ own : Outline, outline mode sentence.tokens = .ok own ∧ own.blanks = [] ∧
      ∀ last, own.statements last = [sentence.closeAt last] := by
  obtain ⟨draft, rfl, hrun⟩ := exists_of_derives h
  exact ⟨⟨[], some draft⟩, hrun, rfl, fun _ => rfl⟩

lemma exists_outline_close (h : sentence.Derives mode) (hkind : semicolon.kind = .semicolon) :
    ∃ own : Outline, outline mode (sentence.tokens ++ [semicolon]) = .ok own ∧ own.blanks = [] ∧
      ∀ last, own.statements last = [sentence.close semicolon] := by
  obtain ⟨draft, rfl, hrun⟩ := exists_of_derives h
  have hsemicolon : outlineFrom mode (some draft) [semicolon] =
      .ok ⟨[.closed draft semicolon], none⟩ :=
    outlineFrom_cons_eq_ok_iff.2 ⟨_, _, .closes hkind, rfl, rfl⟩
  refine ⟨⟨[.closed draft semicolon], none⟩, ?_, rfl, fun _ => rfl⟩
  rw [outline, outlineFrom_append, hrun]
  simp only [hsemicolon]
  rfl

lemma isTextOf_closeAt (h : sentence.Derives mode) (htokens : tokenize text = sentence.tokens) :
    IsTextOf mode text (sentence.closeAt (text.utf8ByteSize - 1)) where
  parse_eq := by
    obtain ⟨own, hrun, hblanks, hstatements⟩ := h.exists_outline
    rw [parse_eq_map, htokens, hrun]
    simp [Except.map, Outline.script, hblanks, hstatements]
  text?_eq := by
    have htiles := tiles_tokens .sql text
    have hfirst : sentence.first ∈ tokenize text := by
      rw [htokens]
      exact List.mem_cons_self
    have hhead : (tokenize text).head? = some sentence.first := by
      rw [htokens]
      rfl
    have hle := (htiles.le_start_of_mem hfirst).2.2
    rw [Token.stop] at hle
    have hlast : text.utf8ByteSize - 1 + 1 = text.utf8ByteSize := by omega
    exact Statement.text?_eq_self (htiles.start_eq_of_head? hhead) hlast
  ends := nofun

lemma isTextOf_close (h : sentence.Derives mode) (hkind : semicolon.kind = .semicolon)
    (htokens : tokenize text = sentence.tokens ++ [semicolon]) :
    IsTextOf mode text (sentence.close semicolon) where
  parse_eq := by
    obtain ⟨own, hrun, hblanks, hstatements⟩ := h.exists_outline_close hkind
    rw [parse_eq_map, htokens, hrun]
    simp [Except.map, Outline.script, hblanks, hstatements]
  text?_eq := by
    have htiles := tiles_tokens .sql text
    have hhead : (tokenize text).head? = some sentence.first := by
      rw [htokens]
      rfl
    have hlast : (tokenize text).getLast? = some semicolon := by
      rw [htokens]
      exact List.getLast?_concat
    exact Statement.text?_eq_self (htiles.start_eq_of_head? hhead)
      (htiles.stop_eq_of_getLast? hlast)
  ends := by
    intro _
    rw [EndsInSemicolon, htokens, List.getLast?_concat, Option.map_some, hkind]

end Sentence.Derives

namespace Outline

variable {mode : Mode} {o : Outline} {last : Nat} {statement : Statement}

/-- The tokens of a statement have an outline of their own, with this one statement in it. -/
lemma exists_own (ho : o.IsDerived mode) (h : statement ∈ o.statements last) :
    ∃ own : Outline, outline mode statement.tokens.toList = .ok own ∧ own.blanks = [] ∧
      own.statements statement.last = [statement] := by
  rcases mem_statements_iff.1 h with ⟨draft, semicolon, hmem, rfl⟩ | ⟨draft, hopen, rfl⟩
  · obtain ⟨hdraft, hkind⟩ := ho.parts _ hmem
    obtain ⟨own, hrun, hblanks, hstatements⟩ := hdraft.derives.exists_outline_close hkind
    exact ⟨own, hrun, hblanks, hstatements _⟩
  · obtain ⟨own, hrun, hblanks, hstatements⟩ := (ho.open? draft hopen).derives.exists_outline
    exact ⟨own, hrun, hblanks, hstatements _⟩

/-- Where a statement stands in a text, its tokens are those of the text it cuts out. -/
lemma exists_text {input : String} (ho : o.IsDerived mode) (htokens : o.tokens = tokenize input)
    (h : statement ∈ o.statements (input.utf8ByteSize - 1)) :
    ∃ text, statement.text? input = some text ∧
      statement.tokens.toList = (tokenize text).map (Token.shift statement.start) ∧
      text.utf8ByteSize + statement.start = statement.last + 1 := by
  obtain ⟨before, after, haround⟩ := exists_around h
  rw [htokens, List.append_assoc] at haround
  obtain ⟨as, rest, hinput, hbefore, hrest⟩ := exists_of_tokenize_eq_append haround
  obtain ⟨ps, qs, hpieces, hps, -⟩ := exists_of_place_eq_append hrest
  obtain ⟨hown, -⟩ := pieces_of_append hpieces
  let text := String.ofList (Piece.chars ps)
  have hmoved : statement.tokens.toList = (tokenize text).map (Token.shift (byteLength as)) := by
    rw [← place_pieces, hown, hps]
  have htiles : Tiles 0 o.tokens input.utf8ByteSize := by
    rw [htokens]
    exact tiles_tokens .sql input
  obtain ⟨hspan, -, -⟩ := exists_tiles ho htiles h
  have hplace : Tiles (0 + byteLength as) statement.tokens.toList
      (text.utf8ByteSize + byteLength as) := by
    rw [hmoved]
    exact (tiles_tokens .sql text).shift _
  rw [Nat.zero_add] at hplace
  -- Both places of the tokens begin with the same token, so they are the same.
  have hstart : byteLength as = statement.start := by
    obtain ⟨first, _, hwhole⟩ := exists_isWhole ho htiles h
    have hfirst := hplace.start_eq_of_head? hwhole.head?_eq
    rw [← hfirst, hspan.start_eq_of_head? hwhole.head?_eq]
  rw [hstart] at hmoved hplace
  have hlength := hplace.stop_unique hspan
  refine ⟨text, ?_, hmoved, hlength⟩
  have hsize : text.utf8ByteSize = byteLength (Piece.chars ps) := by
    rw [← Text.byteLength_toList, String.toList_ofList]
  rw [Statement.text?, Statement.sliceOf?, ← hlength, ← hstart, hsize, Nat.add_comm, hinput]
  have hrestchars : rest = Piece.chars ps ++ Piece.chars qs := by
    rw [← Piece.chars_append, ← hpieces, chars_pieces]
  rw [hrestchars, ← List.append_assoc]
  exact Text.slice?_append as (Piece.chars ps) (Piece.chars qs)

/-- The text that a statement cuts out is, read alone, this statement at offset zero. -/
theorem exists_isTextOf {input : String} (ho : o.IsDerived mode)
    (htokens : o.tokens = tokenize input) (h : statement ∈ o.statements (input.utf8ByteSize - 1)) :
    ∃ text own, statement.text? input = some text ∧ own.shift statement.start = statement ∧
      IsTextOf mode text own := by
  obtain ⟨text, htext, hmoved, hlength⟩ := exists_text ho htokens h
  obtain ⟨run, hrun, hblanks, hstatements⟩ := exists_own ho h
  -- The run over the tokens of the statement is that over the tokens of its text, moved.
  rw [hmoved, outline_shift] at hrun
  obtain ⟨alone, halone, rfl⟩ := shiftRun_eq_ok_iff.1 hrun
  have htiles : Tiles 0 o.tokens input.utf8ByteSize := by
    rw [htokens]
    exact tiles_tokens .sql input
  obtain ⟨-, hle, -⟩ := exists_tiles ho htiles h
  have hlast : statement.last = text.utf8ByteSize - 1 + statement.start := by omega
  rw [hlast, statements_shift _ _ fun _ => rfl] at hstatements
  obtain ⟨own, hown, hshift⟩ := List.map_eq_singleton_iff.1 hstatements
  rw [blanks_shift, List.map_eq_nil_iff] at hblanks
  refine ⟨text, own, htext, hshift, ?_, ?_, ?_⟩
  · rw [parse_eq_map, halone]
    simp [Except.map, script, hown, hblanks]
  · have hstart : own.start + statement.start = statement.start := congrArg Statement.start hshift
    have hstop : own.last + statement.start = statement.last := congrArg Statement.last hshift
    have hzero : own.start = 0 := by omega
    exact Statement.text?_eq_self hzero (by omega)
  · intro hterminated
    obtain ⟨first, last, hwhole⟩ := exists_isWhole ho htiles h
    have hsame : (own.shift statement.start).terminated = statement.terminated :=
      congrArg Statement.terminated hshift
    have hkind := hwhole.terminated_iff.1 (hsame.symm.trans hterminated)
    rw [← endsInSemicolon_map_shift (n := statement.start), ← hmoved, EndsInSemicolon,
      hwhole.getLast?_eq, Option.map_some, hkind]

end Outline

/-! ## Texts put together -/

lemma Script.texts?_eq_mapM (script : Script) (input : String) :
    script.texts? input = script.statements.toList.mapM fun statement => statement.text? input :=
  rfl

lemma split?_eq_map (input : String) :
    split? input = (parse input .strict).map fun script => script.texts? input :=
  rfl

/-- The text can be read, and has statements of these types, which cut out these texts. -/
def ReadsAs (mode : Mode) (text : String) (types : List StatementType) (texts : List String) :
    Prop :=
  ∃ script, parse text mode = .ok script ∧ script.types = types ∧ script.texts? text = some texts

section ReadsAs

variable {mode : Mode} {text rest : String} {types : List StatementType} {texts : List String}

lemma mapM_text?_shift (text rest : String) (statements : List Statement) :
    (statements.map (Statement.shift text.utf8ByteSize)).mapM
        (fun statement => statement.text? (text ++ rest)) =
      statements.mapM fun statement => statement.text? rest := by
  have hshift : (fun statement : Statement => statement.text? (text ++ rest)) ∘
      Statement.shift text.utf8ByteSize = fun statement => statement.text? rest := by
    funext statement
    have hslice := Text.slice?_append_before text.toList rest.toList statement.start
      (statement.last + 1)
    rw [Text.byteLength_toList, ← String.toList_append, Nat.add_right_comm] at hslice
    exact hslice
  rw [List.mapM_map, hshift]

lemma Outline.closed_map_blank (tokens : List Token) (open? : Option Draft) :
    (Outline.mk (tokens.map Part.blank) open?).closed = [] := by
  simp [closed, List.filterMap_map, Function.comp_def, Part.statement?]

lemma readsAs_of_blank (h : AllBlank (tokenize text)) : ReadsAs mode text [] [] := by
  have hrun : outline mode (tokenize text) = .ok ⟨(tokenize text).map Part.blank, none⟩ :=
    outlineFrom_blanks h
  refine ⟨_, by rw [parse_eq_map, hrun]; rfl, ?_, ?_⟩
  · simp [Script.types, Outline.toList_statements_script, Outline.statements,
      Outline.closed_map_blank]
  · simp [Script.texts?_eq_mapM, Outline.toList_statements_script, Outline.statements,
      Outline.closed_map_blank]

/-- Blank text before a script changes nothing, unless a token reaches across. -/
lemma ReadsAs.append_blank {blank : String} (hblank : AllBlank (tokenize blank))
    (htokens : tokenize (blank ++ text) =
      tokenize blank ++ (tokenize text).map (Token.shift blank.utf8ByteSize))
    (h : ReadsAs mode text types texts) : ReadsAs mode (blank ++ text) types texts := by
  obtain ⟨script, hscript, rfl, htexts⟩ := h
  have hrun : outline mode (tokenize blank) = .ok ⟨(tokenize blank).map Part.blank, none⟩ :=
    outlineFrom_blanks hblank
  have hparse := parse_append_of_closed htokens hrun rfl
  rw [hscript, Outline.closed_map_blank] at hparse
  refine ⟨_, hparse, ?_, ?_⟩
  · simp [Script.types, Function.comp_def]
  · rw [Script.texts?_eq_mapM] at htexts ⊢
    rw [← htexts, ← mapM_text?_shift blank text]
    simp

namespace IsTextOf

variable {own : Statement}

lemma readsAs (h : IsTextOf mode text own) : ReadsAs mode text [own.type] [text] := by
  refine ⟨_, h.parse_eq, rfl, ?_⟩
  rw [Script.texts?_eq_mapM]
  simp [h.text?_eq]

lemma readsAs_append (h : IsTextOf mode text own) (hterminated : own.terminated = true)
    (hrest : ReadsAs mode rest types texts) :
    ReadsAs mode (text ++ rest) (own.type :: types) (text :: texts) := by
  obtain ⟨behind, hbehind, rfl, htexts⟩ := hrest
  have hparse := parse_append_of_ok (b := rest) (h.ends hterminated) h.parse_eq
  rw [hbehind] at hparse
  have hown : own.text? (text ++ rest) = some text := by
    have hslice := Text.slice?_append_behind h.text?_eq rest.toList
    rw [← String.toList_append] at hslice
    exact hslice
  refine ⟨_, hparse, ?_, ?_⟩
  · simp [Script.types, Function.comp_def]
  · rw [Script.texts?_eq_mapM] at htexts ⊢
    rw [← mapM_text?_shift text rest] at htexts
    simp [hown, htexts]

end IsTextOf

lemma ReadsAs.identify_eq (h : ReadsAs .strict text types texts) : identify text = .ok types := by
  obtain ⟨script, hscript, rfl, -⟩ := h
  have hmap : identify text = (parse text .strict).map Script.types := rfl
  rw [hmap, hscript, Except.map]

lemma ReadsAs.split?_eq (h : ReadsAs .strict text types texts) :
    split? text = .ok (some texts) := by
  obtain ⟨script, hscript, -, htexts⟩ := h
  rw [split?_eq_map, hscript, Except.map, htexts]

end ReadsAs

/-- Texts of statements, all but the last of which a semicolon ends, are read together as these
statements. -/
lemma exists_join {mode : Mode} {input : String} {statements : List Statement}
    (h : ∀ statement ∈ statements, ∃ text own, statement.text? input = some text ∧
      own.shift statement.start = statement ∧ IsTextOf mode text own)
    (hclosed : ∀ statement ∈ statements.dropLast, statement.terminated = true) :
    ∃ texts, statements.mapM (fun statement => statement.text? input) = some texts ∧
      (∀ text ∈ texts, ∃ own, IsTextOf mode text own) ∧
      ReadsAs mode (String.join texts) (statements.map Statement.type) texts := by
  induction statements with
  | nil =>
    refine ⟨[], rfl, by simp, readsAs_of_blank ?_⟩
    rw [String.join_nil, tokenize_eq_place]
    simp [pieces, place, AllBlank]
  | cons statement rest ih =>
    obtain ⟨⟨text, own, htext, hshift, hown⟩, hrest⟩ := List.forall_mem_cons.1 h
    have htype : own.type = statement.type := by rw [← hshift, Statement.type_shift]
    by_cases hlast : rest = []
    · -- The last text is read alone, whether a semicolon ends it or not.
      subst hlast
      refine ⟨[text], by simp [htext], by simpa using ⟨own, hown⟩, ?_⟩
      have hreads := hown.readsAs
      rw [htype] at hreads
      simpa using hreads
    · have hdropLast : (statement :: rest).dropLast = statement :: rest.dropLast :=
        List.dropLast_cons_of_ne_nil hlast
      rw [hdropLast] at hclosed
      obtain ⟨hterminated, hclosed⟩ := List.forall_mem_cons.1 hclosed
      obtain ⟨texts, htexts, hall, hreads⟩ := ih hrest hclosed
      have hown_terminated : own.terminated = true := by
        rw [← hterminated, ← hshift]
        rfl
      refine ⟨text :: texts, ?_, List.forall_mem_cons.2 ⟨⟨own, hown⟩, hall⟩, ?_⟩
      · rw [List.mapM_cons, htext, htexts]
        rfl
      · rw [String.join_cons, List.map_cons, ← htype]
        exact hown.readsAs_append hown_terminated hreads

/-- Take a script that has been read, and the texts that its statements cut out.  Each text can be
read alone, in the same mode, and gives no blank tokens and one statement, which is the statement
that cut it out, at offset zero.  All texts, one directly behind the other, can be read, and give
statements of the same types with the same texts.  So splitting a text of a statement changes
nothing, and neither does splitting what was split and put together. -/
theorem parse_join_texts {input : String} {mode : Mode} {script : Script}
    (h : parse input mode = .ok script) :
    ∃ texts, script.texts? input = some texts ∧
      (∀ statement ∈ script.statements, ∃ text own, statement.text? input = some text ∧
        parse text mode =
          .ok { start := 0, last := text.utf8ByteSize - 1, statements := #[own], blanks := #[] } ∧
        own.shift statement.start = statement) ∧
      (∃ joined, parse (String.join texts) mode = .ok joined ∧ joined.types = script.types ∧
        joined.texts? (String.join texts) = some texts) ∧
      (mode = .strict → split? input = .ok (some texts) ∧
        (∀ text ∈ texts, split? text = .ok (some [text])) ∧
        split? (String.join texts) = split? input) := by
  obtain ⟨o, ho, htokens, rfl⟩ := Parser.exists_outline h
  have halone : ∀ statement ∈ o.statements (input.utf8ByteSize - 1), ∃ text own,
      statement.text? input = some text ∧ own.shift statement.start = statement ∧
        IsTextOf mode text own :=
    fun statement hmem => Outline.exists_isTextOf ho htokens hmem
  obtain ⟨texts, htexts, hall, joined, hparse, htypes, hslices⟩ := exists_join halone
    fun statement hmem => Outline.terminated_of_mem_closed (Outline.mem_closed_of_mem_dropLast hmem)
  refine ⟨texts, htexts, ?_, ⟨joined, hparse, htypes, hslices⟩, ?_⟩
  · intro statement hmem
    rw [← Array.mem_toList_iff, Outline.toList_statements_script] at hmem
    obtain ⟨text, own, htext, hshift, hown⟩ := halone statement hmem
    exact ⟨text, own, htext, hown.parse_eq, hshift⟩
  · rintro rfl
    have hinput : split? input = .ok (some texts) := by
      rw [split?_eq_map, h, Except.map]
      exact congrArg Except.ok htexts
    refine ⟨hinput, ?_, ?_⟩
    · intro text hmem
      obtain ⟨own, hown⟩ := hall text hmem
      exact hown.readsAs.split?_eq
    · rw [hinput, split?_eq_map, hparse, Except.map, hslices]

/-- Blank text before and between the statements is gone, and an unclosed quotation stays last. -/
theorem parse_join_texts_of_open_end :
    split? " INSERT ';';\n-- ;\nUPDATE 'é;" = .ok (some ["INSERT ';';", "UPDATE 'é;"]) ∧
      split? "UPDATE 'é;" = .ok (some ["UPDATE 'é;"]) ∧
      split? "INSERT ';';UPDATE 'é;" = .ok (some ["INSERT ';';", "UPDATE 'é;"]) := by
  obtain ⟨script, hscript⟩ := exists_eq_ok_of_isOk
    (x := parse " INSERT ';';\n-- ;\nUPDATE 'é;" .strict) (by decide +kernel)
  have hinput : split? " INSERT ';';\n-- ;\nUPDATE 'é;" =
      .ok (some ["INSERT ';';", "UPDATE 'é;"]) := by
    decide +kernel
  obtain ⟨texts, -, -, -, hsplit⟩ := parse_join_texts hscript
  obtain ⟨htexts, hsingle, hjoin⟩ := hsplit rfl
  have heq : texts = ["INSERT ';';", "UPDATE 'é;"] :=
    Option.some.inj (Except.ok.inj (htexts.symm.trans hinput))
  subst heq
  exact ⟨hinput, hsingle _ (by simp), hjoin.trans hinput⟩

end SqlSplit
