import SqlSplit.Sample
import SqlSplit.Proofs.Scripts.Auditing
import SqlSplit.Proofs.Scripts.Semicolons
import SqlSplit.Proofs.Tokens.Inert

/-!
# Samples are read as they were meant

A sample script is written down from parts with semicolons, quotes and keywords in them.  Reading
its text gives back one statement for each entry, of the type that was meant, although tokens know
nothing of the parts: a comment runs up to the line break behind it, and blank text behind an open
statement falls to this statement.

The writing side is `Entry.isInert`: the text of an entry has no semicolon that could end it,
whatever is in its body.  With the words that it opens with this makes it a sentence
(`Entry.exists_sentence`).  On the reading side are the lemmas about `ReadsAs`, by which a script is
put together from the texts of its statements.  The two meet in `readsAs_renderEntries`, by
induction on the entries, and the main statement is `Sample.reads_sql`.
-/

namespace SqlSplit

open Lexeme (isWordCharacter)
open Text (byteLength)

/-! ## Texts that are sentences -/

section Sentences

variable {mode : Mode} {text : String} {rest behind : List Char} {word : Keyword}
  {verb : ObjectVerb} {type : StatementType}

/-- A text without semicolon that opens with a keyword is a sentence, if this settles a type. -/
lemma Keyword.Opens.exists_sentence (hopens : word.Opens text.toList rest)
    (htype : word.type? = some type) (hnone : NoSemicolon (tokenize text)) :
    ∃ sentence : Sentence, sentence.Derives mode ∧ tokenize text = sentence.tokens ∧
      sentence.type? = some type := by
  obtain ⟨p, hspells, hpieces⟩ := opens_iff.1 hopens
  rw [tokenize_eq_place, hpieces, place] at hnone ⊢
  obtain ⟨-, hrest⟩ := List.forall_mem_cons.1 hnone
  exact ⟨⟨p.token 0, _, some type⟩, .word hspells htype hrest, rfl, rfl⟩

/-- A text without semicolon that opens with a verb, a space and an object is a sentence. -/
lemma ObjectVerb.exists_sentence (hopens : verb.keyword.Opens text.toList (' ' :: behind))
    (hobject : word.Opens behind rest) (htype : verb.typeWith? word = some type)
    (hnone : NoSemicolon (tokenize text)) :
    ∃ sentence : Sentence, sentence.Derives mode ∧ tokenize text = sentence.tokens ∧
      sentence.type? = some type := by
  obtain ⟨p, hspells, hpieces⟩ := opens_iff.1 hopens
  obtain ⟨o, hspelled, hbehind⟩ := opens_iff.1 hobject
  have hhead := isWhiteSpace_of_head? (head?_of_opens hobject)
  have hshape : Lexeme.Shape ' ' ([] ++ behind) _ := .space (by decide) (by decide)
  rw [takeWhile_append_of_head? (by simp) hhead] at hshape
  have hspace : pieces (' ' :: behind) = ⟨.whitespace, [' ']⟩ :: pieces behind :=
    pieces_append_of_shape hshape
  rw [tokenize_eq_place, hpieces, hspace, hbehind, place, place, place] at hnone ⊢
  obtain ⟨-, hmore⟩ := List.forall_mem_cons.1 hnone
  obtain ⟨-, hmore⟩ := List.forall_mem_cons.1 hmore
  obtain ⟨-, hrest⟩ := List.forall_mem_cons.1 hmore
  have hspaces : AllSpace [Piece.token ⟨.whitespace, [' ']⟩ (0 + byteLength p.text)] := by
    simp [AllSpace, Piece.token]
  exact ⟨⟨p.token 0, [_] ++ o.token _ :: _, some type⟩,
    .object hspells (List.cons_ne_nil _ _) hspaces hspelled htype hrest, rfl, rfl⟩

end Sentences

/-! ## Keywords as they are written -/

/-- A keyword in small or in capital letters. -/
def Keyword.written (lowercase : Bool) (word : Keyword) : String :=
  if lowercase then Text.lowercase word.spelling else word.spelling

namespace Keyword

variable (lowercase : Bool) (word : Keyword)

lemma eqIgnoringCase_written :
    Text.eqIgnoringCase word.spelling (word.written lowercase) = true := by
  have hlower : (word.spelling.toList.map Char.toLower).map Char.toLower =
      word.spelling.toList.map Char.toLower := by
    cases word <;> rfl
  rw [Text.eqIgnoringCase_iff]
  cases lowercase with
  | false => rfl
  | true => exact ((congrArg (List.map Char.toLower) (Text.toList_lowercase _)).trans hlower).symm

lemma isWordCharacter_of_mem_written : ∀ c ∈ (word.written lowercase).toList,
    isWordCharacter c = true := by
  have hword : ofWord? (String.ofList (word.written lowercase).toList) = some word := by
    rw [String.ofList_toList]
    exact ofWord?_eq_some_iff.2 (word.eqIgnoringCase_written lowercase)
  exact isWordCharacter_of_ofWord? hword

/-- A text that begins with a written keyword opens with it, if no word character follows. -/
lemma opens_written {rest : List Char}
    (hrest : ∀ c, rest.head? = some c → isWordCharacter c = false) :
    word.Opens ((word.written lowercase).toList ++ rest) rest := by
  refine ⟨_, rfl, word.isWordCharacter_of_mem_written lowercase, hrest, ?_⟩
  rw [String.ofList_toList]
  exact word.eqIgnoringCase_written lowercase

lemma isInert_written : IsInert (word.written lowercase).toList :=
  isInert_of_isPlain fun c hc =>
    Lexeme.isPlain_of_isWordCharacter (word.isWordCharacter_of_mem_written lowercase c hc)

end Keyword

namespace Sample

/-! ## Gaps -/

namespace Gap

variable (gap : Gap)

lemma isInert : IsInert gap.text.toList := by
  cases gap with
  | none => exact isInert_nil
  | space => exact isInert_of_all (by decide)
  | newline => exact isInert_of_all (by decide)
  | inlineComment =>
    exact isInert_of_eq_around .line " next; statement" (by decide) (by decide)
  | blockComment =>
    have hcomment : IsInert "/* next; statement */".toList :=
      isInert_of_eq_around .block " next; statement "
        (by simp [Enclosure.Allows, List.infix_cons_iff]) (by decide)
    exact hcomment.append isInert_space

lemma allBlank : AllBlank (tokenize gap.text) := by
  cases gap <;> decide +kernel

lemma isWordCharacter_of_head? :
    ∀ c, gap.text.toList.head? = some c → isWordCharacter c = false := by
  cases gap <;> simp [text] <;> decide

/-- Gaps are nothing, or end in white space: no token reaches from a gap into a word. -/
lemma tokenize_append {text : String}
    (h : ∃ c, text.toList.head? = some c ∧ isWordCharacter c = true) :
    tokenize (gap.text ++ text) =
      tokenize gap.text ++ (tokenize text).map (Token.shift gap.text.utf8ByteSize) := by
  have hspace := isWhiteSpace_of_head? h
  refine tokenize_append_of_pieces ?_
  cases gap with
  | none => simp [Gap.text, pieces]
  | _ => exact pieces_append_of_space (by decide +kernel) hspace

lemma readsAs_append {mode : Mode} {text : String} {types : List StatementType}
    {texts : List String} (hword : ∃ c, text.toList.head? = some c ∧ isWordCharacter c = true)
    (h : ReadsAs mode text types texts) : ReadsAs mode (gap.text ++ text) types texts :=
  h.append_blank gap.allBlank (gap.tokenize_append hword)

end Gap

/-! ## Openings -/

namespace Opening

variable (lowercase : Bool) (opening : Opening)

/-- An opening in small or in capital letters. -/
def written : String :=
  if lowercase then Text.lowercase opening.text else opening.text

lemma written_eq :
    (∃ word : Keyword, word.type? = some opening.type ∧
      opening.written lowercase = word.written lowercase) ∨
    ∃ (verb : ObjectVerb) (word : Keyword), verb.typeWith? word = some opening.type ∧
      opening.written lowercase =
        verb.keyword.written lowercase ++ " " ++ word.written lowercase := by
  cases opening with
  | select => exact .inl ⟨.select, rfl, rfl⟩
  | insert => exact .inl ⟨.insert, rfl, rfl⟩
  | update => exact .inl ⟨.update, rfl, rfl⟩
  | delete => exact .inl ⟨.delete, rfl, rfl⟩
  | truncate => exact .inl ⟨.truncate, rfl, rfl⟩
  | createTable => exact .inr ⟨.create, .table, rfl, by cases lowercase <;> decide⟩
  | createDatabase => exact .inr ⟨.create, .database, rfl, by cases lowercase <;> decide⟩
  | dropTable => exact .inr ⟨.drop, .table, rfl, by cases lowercase <;> decide⟩
  | dropDatabase => exact .inr ⟨.drop, .database, rfl, by cases lowercase <;> decide⟩

lemma exists_head? :
    ∃ c, (opening.written lowercase).toList.head? = some c ∧ isWordCharacter c = true := by
  have hany : (opening.written lowercase).toList.head?.any isWordCharacter = true := by
    cases opening <;> cases lowercase <;> decide
  simpa [Option.any_eq_true] using hany

lemma isInert_written : IsInert (opening.written lowercase).toList := by
  rcases opening.written_eq lowercase with ⟨word, -, hwritten⟩ | ⟨verb, word, -, hwritten⟩
  · rw [hwritten]
    exact word.isInert_written _
  · rw [hwritten, String.toList_append, String.toList_append]
    exact ((verb.keyword.isInert_written _).append isInert_space).append (word.isInert_written _)

/-- A text without semicolon that begins with an opening is a sentence of its type, if no word
character follows. -/
lemma exists_sentence {mode : Mode} {text : String} {rest : List Char}
    (htext : text.toList = (opening.written lowercase).toList ++ rest)
    (hrest : ∀ c, rest.head? = some c → isWordCharacter c = false)
    (hnone : NoSemicolon (tokenize text)) :
    ∃ sentence : Sentence, sentence.Derives mode ∧ tokenize text = sentence.tokens ∧
      sentence.type? = some opening.type := by
  rcases opening.written_eq lowercase with ⟨word, htype, hwritten⟩ | ⟨verb, word, htype, hwritten⟩
  · have hopens := word.opens_written lowercase hrest
    rw [← hwritten, ← htext] at hopens
    exact hopens.exists_sentence htype hnone
  · have hobject := word.opens_written lowercase hrest
    have hopens : verb.keyword.Opens text.toList
        (' ' :: ((word.written lowercase).toList ++ rest)) := by
      rw [htext, hwritten, String.toList_append, String.toList_append, List.append_assoc,
        List.append_assoc]
      refine verb.keyword.opens_written lowercase ?_
      intro c hc
      obtain rfl : ' ' = c := Option.some.inj hc
      decide
    exact verb.exists_sentence hopens hobject htype hnone

end Opening

/-! ## Entries -/

lemma Word.isInert (word : Word) : IsInert word.text.toList := by
  cases word with
  | string => exact isInert_of_eq_around (.quotes '\x27' rfl) "a;b" trivial (by decide)
  | quotedIdentifier =>
    exact isInert_of_eq_around (.quotes '\x22' rfl) "Per;sons" trivial (by decide)
  | comment =>
    exact isInert_of_eq_around .line " trailing;" (by decide) (by decide)
  | _ => exact isInert_of_all (by decide)

namespace Entry

variable (entry : Entry)

/-- The words of the body, each behind a space. -/
def tail : String :=
  String.join (entry.body.map fun word => " " ++ word.text)

lemma text_eq : entry.text = entry.opening.written entry.lowercase ++ entry.tail := rfl

lemma isInert_tail : IsInert entry.tail.toList := by
  obtain ⟨-, -, -, body, -⟩ := entry
  induction body with
  | nil => exact isInert_nil
  | cons word body ih =>
    simp only [tail, List.map_cons, String.join_cons, String.toList_append]
    exact (isInert_space.append word.isInert).append ih

/-- Nothing in a statement ends it. -/
theorem isInert : IsInert entry.text.toList := by
  rw [text_eq, String.toList_append]
  exact (entry.opening.isInert_written _).append entry.isInert_tail

lemma isWordCharacter_of_head?_tail {rest : List Char}
    (hrest : ∀ c, rest.head? = some c → isWordCharacter c = false) :
    ∀ c, (entry.tail.toList ++ rest).head? = some c → isWordCharacter c = false := by
  cases hbody : entry.body with
  | nil => simpa [tail, hbody] using hrest
  | cons word body =>
    have hspace : isWordCharacter ' ' = false := by decide
    simp [tail, hbody, hspace]

/-- The text of a statement, with a gap behind it, is a sentence of the type that was meant. -/
lemma exists_sentence (mode : Mode) (gap : Gap) :
    ∃ sentence : Sentence, sentence.Derives mode ∧
      tokenize (entry.text ++ gap.text) = sentence.tokens ∧
      sentence.type? = some entry.opening.type := by
  have hinert : IsInert (entry.text ++ gap.text).toList := by
    rw [String.toList_append]
    exact entry.isInert.append gap.isInert
  have hnone := semicolonTokens_eq_nil_iff.1 hinert.semicolonTokens_eq
  have hrest := entry.isWordCharacter_of_head?_tail gap.isWordCharacter_of_head?
  refine entry.opening.exists_sentence entry.lowercase ?_ hrest hnone
  rw [text_eq, String.toList_append, String.toList_append, List.append_assoc]

lemma exists_isTextOf_semicolon (mode : Mode) :
    ∃ own, IsTextOf mode (entry.text ++ ";") own ∧ own.terminated = true ∧
      own.type = entry.opening.type := by
  obtain ⟨sentence, hderives, htokens, htype⟩ := entry.exists_sentence mode .none
  have hsame : entry.text ++ Gap.none.text = entry.text := String.append_empty
  rw [hsame] at htokens
  have hsemicolon := entry.isInert.tokenize_append_semicolon
  rw [htokens] at hsemicolon
  refine ⟨_, hderives.isTextOf_close rfl hsemicolon, rfl, ?_⟩
  simp [Statement.type, Sentence.close, htype]

lemma exists_isTextOf_gap (mode : Mode) (gap : Gap) :
    ∃ own, IsTextOf mode (entry.text ++ gap.text) own ∧ own.type = entry.opening.type := by
  obtain ⟨sentence, hderives, htokens, htype⟩ := entry.exists_sentence mode gap
  refine ⟨_, hderives.isTextOf_closeAt htokens, ?_⟩
  simp [Statement.type, Sentence.closeAt, htype]

lemma exists_head? (behind : String) :
    ∃ c, (entry.text ++ behind).toList.head? = some c ∧ isWordCharacter c = true := by
  obtain ⟨c, hhead, hc⟩ := entry.opening.exists_head? entry.lowercase
  refine ⟨c, ?_, hc⟩
  rw [text_eq, String.append_assoc, String.toList_append, List.head?_append, hhead, Option.some_or]

end Entry

/-! ## Scripts of entries -/

/-- The texts of the statements: each entry with its semicolon, and a last entry that has none with
the gap behind it. -/
def entryTexts (trailing : Gap) : List Entry → List String
  | [] => []
  | [entry] => [entry.text ++ if entry.terminated then ";" else trailing.text]
  | entry :: entries => (entry.text ++ ";") :: entryTexts trailing entries

/-- Entries that are rendered are read as one statement each. -/
theorem readsAs_renderEntries (mode : Mode) (trailing : Gap) (entries : List Entry) :
    ReadsAs mode (renderEntries entries ++ trailing.text)
      (entries.map fun entry => entry.opening.type) (entryTexts trailing entries) := by
  have htrailing : ReadsAs mode trailing.text [] [] := readsAs_of_blank trailing.allBlank
  fun_induction renderEntries entries with
  | case1 => simpa [entryTexts] using htrailing
  | case2 entry =>
    -- A semicolon of its own leaves what is behind it outside; without one it falls to the entry.
    rw [String.append_assoc, String.append_assoc]
    refine entry.leading.readsAs_append (entry.exists_head? _) ?_
    by_cases hterminated : entry.terminated = true
    · obtain ⟨own, hown, hclosed, htype⟩ := entry.exists_isTextOf_semicolon mode
      have hreads := hown.readsAs_append hclosed htrailing
      rw [htype, String.append_assoc] at hreads
      simpa [entryTexts, hterminated] using hreads
    · obtain ⟨own, hown, htype⟩ := entry.exists_isTextOf_gap mode trailing
      have hreads := hown.readsAs
      rw [htype] at hreads
      simpa [entryTexts, hterminated] using hreads
  | case3 entry entries hne ih =>
    have hbehind : entry.leading.text ++ entry.text ++ ";" ++ renderEntries entries ++
        trailing.text = entry.leading.text ++
          (entry.text ++ (";" ++ (renderEntries entries ++ trailing.text))) := by
      simp only [String.append_assoc]
    rw [hbehind]
    refine entry.leading.readsAs_append (entry.exists_head? _) ?_
    obtain ⟨own, hown, hclosed, htype⟩ := entry.exists_isTextOf_semicolon mode
    have hreads := hown.readsAs_append hclosed ih
    rw [htype, String.append_assoc] at hreads
    rw [entryTexts, List.map_cons]
    · exact hreads
    · exact hne

/-- The texts of the statements of a sample script. -/
def texts (sample : Sample) : List String :=
  entryTexts sample.trailing sample.entries

/-- Every sample is read as it was meant: the types of its statements are those of its entries, the
script is sound, and it is split into one text for each entry, which is the text of the entry with
its semicolon, or with what stands behind the last entry if that has none. -/
theorem reads_sql (sample : Sample) :
    identify sample.sql = .ok sample.types ∧ sample.isIdentified = true ∧
      split? sample.sql = .ok (some sample.texts) := by
  have hreads : ReadsAs .strict sample.sql sample.types sample.texts :=
    readsAs_renderEntries .strict sample.trailing sample.entries
  have hidentify := hreads.identify_eq
  refine ⟨hidentify, ?_, hreads.split?_eq⟩
  rw [isIdentified, hidentify]
  simp [readsSoundly_eq_true]

example : texts ⟨[⟨.dropTable, true, .newline, [.comment], false⟩,
    ⟨.select, false, .inlineComment, [.star], false⟩], .blockComment⟩ =
      ["drop table -- trailing;\n;", "SELECT */* next; statement */ "] := by
  decide

end Sample

end SqlSplit
