import Mathlib.Data.List.Forall2
import Mathlib.Tactic.Lemma
import SqlSplit.Json.Codec
import SqlSplit.Proofs.Json.CompactText

/-!
# Scripts as JSON are read back

There are several ways to spell a script as a JSON value, and one in which it is written.  A name
may be a string or the only key of an object, a record may be an object or an array, the members of
an object may come in any order and with others among them, a name may be given more than once, and
the type of a statement that has none may be null or missing.  `Script.IsSpelledBy` says all this
without a reader, and `Script.ofJson?_eq_some_iff` states that the values that are read as a script
are its spellings, provided that its offsets are in range.

What is written is a spelling (`Script.isSpelledBy_toJson`), so nothing is lost.  Together with
`Json.IsPlain.compact_inj` this gives the main statement, `Script.json_lossless`.
-/

namespace SqlSplit

/-! ## Spellings -/

namespace Json

/-- The value spells a name: it is a string, or an object with the name as its only key, which has
the value null in the end. -/
inductive Names (name : String) : Json → Prop
  | string : Names name (.string name)
  | key {members : List (String × Json)} (hname : ∀ member ∈ members, member.1 = name)
      (hlast : members.getLast? = some (name, .null)) : Names name (.object members)

/-- The value is a record, with what it has for each of the names: an array of exactly as many
items, or an object in which each name is looked up from the end. -/
inductive IsRecord (names : List String) : List (Option Json) → Json → Prop
  | array {items : List Json} (h : items.length = names.length) :
      IsRecord names (items.map some) (.array items)
  | object {members : List (String × Json)} :
      IsRecord names (names.map (List.lookup · members.reverse)) (.object members)

end Json

/-- The value spells the token. -/
def Token.IsSpelledBy (token : Token) (value : Json) : Prop :=
  ∃ kind : Json, kind.Names token.kind.name ∧
    Json.IsRecord ["type", "value", "start", "end"]
      [some kind, some (.string token.value), some (.natural token.start),
        some (.natural token.last)] value

/-- The value, or the lack of one, spells the type of a statement that may have none. -/
def StatementType.IsSpelledBy? : Option StatementType → Option Json → Prop
  | none, value? => value? = none ∨ value? = some .null
  | some type, value? => ∃ value : Json, value? = some value ∧ value.Names type.name

/-- The value spells the statement. -/
def Statement.IsSpelledBy (statement : Statement) (value : Json) : Prop :=
  ∃ type? tokens, StatementType.IsSpelledBy? statement.type? type? ∧
    List.Forall₂ Token.IsSpelledBy statement.tokens.toList tokens ∧
    Json.IsRecord ["type", "start", "end", "terminated", "tokens"]
      [type?, some (.natural statement.start), some (.natural statement.last),
        some (.bool statement.terminated), some (.array tokens)] value

/-- The value spells the script. -/
def Script.IsSpelledBy (script : Script) (value : Json) : Prop :=
  ∃ statements blanks, List.Forall₂ Statement.IsSpelledBy script.statements.toList statements ∧
    List.Forall₂ Token.IsSpelledBy script.blanks.toList blanks ∧
    Json.IsRecord ["start", "end", "body", "tokens"]
      [some (.natural script.start), some (.natural script.last), some (.array statements),
        some (.array blanks)] value

/-! ## Offsets in range -/

/-- The offsets of the token are offsets of 64 bits. -/
def Token.InRange (token : Token) : Prop :=
  token.start < Json.offsetBound ∧ token.last < Json.offsetBound

/-- The offsets of the statement and of its tokens are offsets of 64 bits. -/
structure Statement.InRange (statement : Statement) : Prop where
  start : statement.start < Json.offsetBound
  last : statement.last < Json.offsetBound
  tokens : ∀ token ∈ statement.tokens.toList, token.InRange

/-- The offsets in the script are offsets of 64 bits. -/
structure Script.InRange (script : Script) : Prop where
  start : script.start < Json.offsetBound
  last : script.last < Json.offsetBound
  statements : ∀ statement ∈ script.statements.toList, statement.InRange
  blanks : ∀ token ∈ script.blanks.toList, token.InRange

/-! ## Readers and what they read -/

namespace Json

variable {value : Json}

lemma offset?_eq_some_iff {n : Nat} :
    value.offset? = some n ↔ n < offsetBound ∧ value = .natural n := by
  cases value with
  | natural m =>
    simp only [offset?, natural.injEq]
    split_ifs with hlt
    · simp only [Option.some.injEq]
      constructor
      · rintro rfl
        exact ⟨hlt, rfl⟩
      · exact And.right
    · simp only [false_iff, not_and]
      rintro h rfl
      exact hlt h
  | _ => simp [offset?]

lemma bool?_eq_some_iff {b : Bool} : value.bool? = some b ↔ value = .bool b := by
  cases value <;> simp [bool?]

lemma string?_eq_some_iff {text : String} : value.string? = some text ↔ value = .string text := by
  cases value <;> simp [string?]

lemma fields?_eq_some_iff {names : List String} {fields : List (Option Json)} :
    value.fields? names = some fields ↔ IsRecord names fields value := by
  constructor
  · intro h
    cases value with
    | array items =>
      simp only [fields?] at h
      split_ifs at h with hlength
      cases h
      exact .array hlength
    | object members =>
      simp only [fields?, lookup_lasting] at h
      cases h
      exact .object
    | _ => cases h
  · intro h
    cases h with
    | array hlength => exact if_pos hlength
    | object => simp only [fields?, lookup_lasting]

/-- A name is read from its spellings, if different names mean different things. -/
lemma named?_eq_some_iff {α : Type} {name : α → String} {ofName? : String → Option α}
    (hname : ∀ {text a}, ofName? text = some a ↔ text = name a) {a : α} :
    value.named? ofName? = some a ↔ value.Names (name a) := by
  constructor
  · intro h
    unfold named? at h
    split at h
    · rw [hname.1 h]
      exact .string
    · split at h
      · next hlasting =>
        obtain ⟨hall, hlast⟩ := lasting_eq_singleton_iff.1 hlasting
        rw [hname.1 h] at hall hlast
        exact .key hall hlast
      · cases h
    · cases h
  · intro h
    cases h with
    | string => exact hname.2 rfl
    | key hall hlast =>
      simp only [named?, lasting_eq_singleton_iff.2 ⟨hall, hlast⟩]
      exact hname.2 rfl

lemma mapM_eq_some_iff {α : Type} {read? : Json → Option α} {items : List Json} {as : List α} :
    items.mapM read? = some as ↔ List.Forall₂ (fun a item => read? item = some a) as items := by
  induction items generalizing as with
  | nil => cases as <;> simp
  | cons item items ih =>
    cases as with
    | nil => simp [Option.bind_eq_some_iff]
    | cons a as => simp [Option.bind_eq_some_iff, ih]

lemma list?_eq_some_iff {α : Type} {read? : Json → Option α} {as : List α} :
    value.list? read? = some as ↔
      ∃ items, value = .array items ∧
        List.Forall₂ (fun a item => read? item = some a) as items := by
  cases value <;> simp [list?, mapM_eq_some_iff]

end Json

/-! ## What is read -/

variable {value : Json}

lemma TokenKind.ofName?_eq_some_iff {text : String} {kind : TokenKind} :
    TokenKind.ofName? text = some kind ↔ text = kind.name := by
  constructor
  · intro h
    have hname := List.find?_some h
    exact (beq_iff_eq.1 hname).symm
  · rintro rfl
    exact TokenKind.ofName?_name kind

lemma StatementType.ofName?_eq_some_iff {text : String} {type : StatementType} :
    StatementType.ofName? text = some type ↔ text = type.name := by
  constructor
  · intro h
    have hname := List.find?_some h
    exact (beq_iff_eq.1 hname).symm
  · rintro rfl
    exact StatementType.ofName?_name type

lemma TokenKind.ofJson?_eq_some_iff {kind : TokenKind} :
    TokenKind.ofJson? value = some kind ↔ value.Names kind.name :=
  Json.named?_eq_some_iff TokenKind.ofName?_eq_some_iff

lemma StatementType.ofJson?_eq_some_iff {type : StatementType} :
    StatementType.ofJson? value = some type ↔ value.Names type.name :=
  Json.named?_eq_some_iff StatementType.ofName?_eq_some_iff

/-- A missing type is read like a type that is null. -/
lemma StatementType.optional?_eq_some_iff {value? : Option Json} {type? : Option StatementType} :
    (value?.getD .null).optional? StatementType.ofJson? = some type? ↔
      StatementType.IsSpelledBy? type? value? := by
  cases value? with
  | none => cases type? <;> simp [Json.optional?, StatementType.IsSpelledBy?]
  | some value =>
    by_cases hnull : value = .null
    · subst hnull
      cases type? with
      | none => simp [Json.optional?, StatementType.IsSpelledBy?]
      | some type =>
        simp only [Option.getD_some, Json.optional?, Option.some.injEq, reduceCtorEq, false_iff]
        rintro ⟨value, hvalue, hnames⟩
        cases hvalue
        cases hnames
    · rw [Option.getD_some, Json.optional?]
      · cases type? <;>
          simp [StatementType.IsSpelledBy?, StatementType.ofJson?_eq_some_iff, hnull]
      · exact hnull

/-- The values that are read as a token are its spellings. -/
theorem Token.ofJson?_eq_some_iff {token : Token} :
    Token.ofJson? value = some token ↔ token.InRange ∧ token.IsSpelledBy value := by
  constructor
  · intro h
    unfold Token.ofJson? at h
    split at h
    next kind text start last hfields =>
      simp only [Option.bind_eq_bind, Option.bind_eq_some_iff, Option.pure_def,
        Option.some.injEq, TokenKind.ofJson?_eq_some_iff, Json.string?_eq_some_iff,
        Json.offset?_eq_some_iff] at h
      obtain ⟨_, hkind, _, rfl, _, ⟨hstart, rfl⟩, _, ⟨hlast, rfl⟩, rfl⟩ := h
      exact ⟨⟨hstart, hlast⟩, kind, hkind, Json.fields?_eq_some_iff.1 hfields⟩
    · cases h
  · rintro ⟨⟨hstart, hlast⟩, kind, hkind, hrecord⟩
    unfold Token.ofJson?
    rw [Json.fields?_eq_some_iff.2 hrecord]
    simp [TokenKind.ofJson?_eq_some_iff.2 hkind, Json.string?, Json.offset?, hstart, hlast]

/-- The arrays that are read as a list are those of its members' spellings. -/
lemma Json.list?_eq_some_iff_spelledBy {α : Type} {read? : Json → Option α} {inRange : α → Prop}
    {isSpelledBy : α → Json → Prop}
    (hread : ∀ {item a}, read? item = some a ↔ inRange a ∧ isSpelledBy a item) {as : List α} :
    value.list? read? = some as ↔
      (∀ a ∈ as, inRange a) ∧
        ∃ items, value = .array items ∧ List.Forall₂ isSpelledBy as items := by
  simp only [Json.list?_eq_some_iff, hread, List.forall₂_and_left]
  constructor
  · rintro ⟨items, hvalue, hrange, hspelled⟩
    exact ⟨hrange, items, hvalue, hspelled⟩
  · rintro ⟨hrange, items, hvalue, hspelled⟩
    exact ⟨items, hvalue, hrange, hspelled⟩

/-- The values that are read as a statement are its spellings. -/
theorem Statement.ofJson?_eq_some_iff {statement : Statement} :
    Statement.ofJson? value = some statement ↔
      statement.InRange ∧ statement.IsSpelledBy value := by
  constructor
  · intro h
    unfold Statement.ofJson? at h
    split at h
    next type start last terminated tokens hfields =>
      simp only [Option.bind_eq_bind, Option.bind_eq_some_iff, Option.pure_def,
        Option.some.injEq, StatementType.optional?_eq_some_iff, Json.bool?_eq_some_iff,
        Json.offset?_eq_some_iff, Json.list?_eq_some_iff_spelledBy Token.ofJson?_eq_some_iff] at h
      obtain ⟨_, htype, _, ⟨hstart, rfl⟩, _, ⟨hlast, rfl⟩, _, rfl, _, ⟨hrange, items, rfl, hitems⟩,
        rfl⟩ := h
      exact ⟨⟨hstart, hlast, hrange⟩, type, items, htype, hitems,
        Json.fields?_eq_some_iff.1 hfields⟩
    · cases h
  · rintro ⟨⟨hstart, hlast, hrange⟩, type, items, htype, hitems, hrecord⟩
    have htokens : (Json.array items).list? Token.ofJson? = some statement.tokens.toList :=
      (Json.list?_eq_some_iff_spelledBy Token.ofJson?_eq_some_iff).2 ⟨hrange, items, rfl, hitems⟩
    unfold Statement.ofJson?
    rw [Json.fields?_eq_some_iff.2 hrecord]
    simp [StatementType.optional?_eq_some_iff.2 htype, Json.bool?, Json.offset?, hstart, hlast,
      htokens]

/-- The values that are read as a script are its spellings. -/
theorem Script.ofJson?_eq_some_iff {script : Script} :
    Script.ofJson? value = some script ↔ script.InRange ∧ script.IsSpelledBy value := by
  constructor
  · intro h
    unfold Script.ofJson? at h
    split at h
    next start last statements blanks hfields =>
      simp only [Option.bind_eq_bind, Option.bind_eq_some_iff, Option.pure_def,
        Option.some.injEq, Json.offset?_eq_some_iff,
        Json.list?_eq_some_iff_spelledBy Statement.ofJson?_eq_some_iff,
        Json.list?_eq_some_iff_spelledBy Token.ofJson?_eq_some_iff] at h
      obtain ⟨_, ⟨hstart, rfl⟩, _, ⟨hlast, rfl⟩, _, ⟨hstatements, items, rfl, hitems⟩,
        _, ⟨hblanks, others, rfl, hothers⟩, rfl⟩ := h
      exact ⟨⟨hstart, hlast, hstatements, hblanks⟩, items, others, hitems, hothers,
        Json.fields?_eq_some_iff.1 hfields⟩
    · cases h
  · rintro ⟨⟨hstart, hlast, hstatements, hblanks⟩, items, others, hitems, hothers, hrecord⟩
    have hbody : (Json.array items).list? Statement.ofJson? = some script.statements.toList :=
      (Json.list?_eq_some_iff_spelledBy Statement.ofJson?_eq_some_iff).2
        ⟨hstatements, items, rfl, hitems⟩
    have hrest : (Json.array others).list? Token.ofJson? = some script.blanks.toList :=
      (Json.list?_eq_some_iff_spelledBy Token.ofJson?_eq_some_iff).2 ⟨hblanks, others, rfl, hothers⟩
    unfold Script.ofJson?
    rw [Json.fields?_eq_some_iff.2 hrecord]
    simp [Json.offset?, hstart, hlast, hbody, hrest]

/-! ## What is written -/

namespace Json

lemma isRecord_object {names : List String} {fields : List (Option Json)}
    {members : List (String × Json)} (h : names.map (List.lookup · members.reverse) = fields) :
    IsRecord names fields (.object members) := by
  subst h
  exact .object

lemma forall₂_map {α : Type} {isSpelledBy : α → Json → Prop} {toJson : α → Json}
    (h : ∀ a, isSpelledBy a (toJson a)) (as : List α) :
    List.Forall₂ isSpelledBy as (as.map toJson) :=
  List.forall₂_map_right_iff.2 (List.forall₂_same.2 fun a _ => h a)

lemma isPlain_map {α : Type} {toJson : α → Json} (h : ∀ a, (toJson a).IsPlain) (as : List α) :
    (array (as.map toJson)).IsPlain := by
  refine .array fun item hitem => ?_
  obtain ⟨a, -, rfl⟩ := List.mem_map.1 hitem
  exact h a

end Json

lemma TokenKind.name_injective : Function.Injective TokenKind.name := by
  intro a b h
  have hread : some a = some b := by rw [← ofName?_name a, h, ofName?_name]
  exact Option.some.inj hread

lemma StatementType.name_injective : Function.Injective StatementType.name := by
  intro a b h
  have hread : some a = some b := by rw [← ofName?_name a, h, ofName?_name]
  exact Option.some.inj hread

namespace Token

lemma isSpelledBy_toJson (token : Token) : token.IsSpelledBy token.toJson :=
  ⟨token.kind.toJson, .string, Json.isRecord_object rfl⟩

lemma isPlain_toJson (token : Token) : token.toJson.IsPlain := by
  refine .object ?_
  simp only [List.forall_mem_cons]
  exact ⟨.string _, .string _, .natural _, .natural _, List.forall_mem_nil _⟩

lemma toJson_injective : Function.Injective toJson := by
  rintro ⟨kind, value, start, last⟩ ⟨kind', value', start', last'⟩ h
  simp only [toJson, TokenKind.toJson, Json.object.injEq, List.cons.injEq, Prod.mk.injEq,
    Json.string.injEq, Json.natural.injEq, true_and, and_true] at h
  obtain ⟨hkind, rfl, rfl, rfl⟩ := h
  rw [TokenKind.name_injective hkind]

end Token

namespace StatementType

/-- The type of a statement that may have none, as JSON. -/
lemma isSpelledBy?_toJson (type? : Option StatementType) :
    IsSpelledBy? type? (some ((type?.map toJson).getD .null)) := by
  cases type? with
  | none => exact .inr rfl
  | some type => exact ⟨type.toJson, rfl, .string⟩

lemma isPlain_toJson? (type? : Option StatementType) :
    ((type?.map toJson).getD .null).IsPlain := by
  cases type? with
  | none => exact .null
  | some type => exact .string _

lemma toJson?_injective :
    Function.Injective fun type? : Option StatementType => (type?.map toJson).getD .null := by
  rintro (- | a) (- | b) h
  · rfl
  · cases h
  · cases h
  · exact congrArg some (name_injective (Json.string.inj h))

end StatementType

namespace Statement

lemma isSpelledBy_toJson (statement : Statement) : statement.IsSpelledBy statement.toJson :=
  ⟨_, _, StatementType.isSpelledBy?_toJson statement.type?,
    Json.forall₂_map Token.isSpelledBy_toJson _, Json.isRecord_object rfl⟩

lemma isPlain_toJson (statement : Statement) : statement.toJson.IsPlain := by
  refine .object ?_
  simp only [List.forall_mem_cons]
  exact ⟨StatementType.isPlain_toJson? _, .natural _, .natural _, .bool _,
    Json.isPlain_map Token.isPlain_toJson _, List.forall_mem_nil _⟩

lemma toJson_injective : Function.Injective toJson := by
  rintro ⟨type?, start, last, terminated, tokens⟩ ⟨type?', start', last', terminated', tokens'⟩ h
  simp only [toJson, Json.object.injEq, List.cons.injEq, Prod.mk.injEq, Json.natural.injEq,
    Json.bool.injEq, Json.array.injEq, true_and, and_true] at h
  obtain ⟨htype, rfl, rfl, rfl, htokens⟩ := h
  rw [StatementType.toJson?_injective htype,
    Array.toList_inj.1 (Token.toJson_injective.list_map htokens)]

end Statement

namespace Script

lemma isSpelledBy_toJson (script : Script) : script.IsSpelledBy script.toJson :=
  ⟨_, _, Json.forall₂_map Statement.isSpelledBy_toJson _,
    Json.forall₂_map Token.isSpelledBy_toJson _, Json.isRecord_object rfl⟩

lemma isPlain_toJson (script : Script) : script.toJson.IsPlain := by
  refine .object ?_
  simp only [List.forall_mem_cons]
  exact ⟨.natural _, .natural _, Json.isPlain_map Statement.isPlain_toJson _,
    Json.isPlain_map Token.isPlain_toJson _, List.forall_mem_nil _⟩

lemma toJson_injective : Function.Injective toJson := by
  rintro ⟨start, last, statements, blanks⟩ ⟨start', last', statements', blanks'⟩ h
  simp only [toJson, Json.object.injEq, List.cons.injEq, Prod.mk.injEq, Json.natural.injEq,
    Json.array.injEq, true_and, and_true] at h
  obtain ⟨rfl, rfl, hstatements, hblanks⟩ := h
  rw [Array.toList_inj.1 (Statement.toJson_injective.list_map hstatements),
    Array.toList_inj.1 (Token.toJson_injective.list_map hblanks)]

/-! ## Nothing is lost -/

/-- Two scripts are written as the same text only if they are the same. -/
theorem compact_toJson_inj {a b : Script} (h : a.toJson.compact = b.toJson.compact) : a = b :=
  toJson_injective (a.isPlain_toJson.compact_inj b.isPlain_toJson h)

/-- A value that is read as a script, in the spelling in which the script is written. -/
def canonical? (value : Json) : Option Json :=
  (ofJson? value).map toJson

/-- The canonical spelling of a value is read as the same script, and is its own canonical
spelling. -/
theorem canonical?_canonical {value canonical : Json} (h : canonical? value = some canonical) :
    ofJson? canonical = ofJson? value ∧ canonical? canonical = some canonical := by
  obtain ⟨script, hread, rfl⟩ := Option.map_eq_some_iff.1 h
  have hagain : ofJson? script.toJson = some script :=
    ofJson?_eq_some_iff.2 ⟨(ofJson?_eq_some_iff.1 hread).1, script.isSpelledBy_toJson⟩
  refine ⟨hagain.trans hread.symm, ?_⟩
  rw [canonical?, hagain, Option.map_some]

/-- Writing loses nothing, and reading loses nothing but the choice between the spellings.  What is
written is read back, down to the names, as long as the offsets are in range; different scripts are
written as different texts; the values that are read as a script are its spellings; and of these one
is canonical, which is read as the same script and written again as it is. -/
theorem json_lossless :
    (∀ kind : TokenKind, TokenKind.ofJson? kind.toJson = some kind) ∧
    (∀ type : StatementType, StatementType.ofJson? type.toJson = some type) ∧
    (∀ token : Token, token.InRange → Token.ofJson? token.toJson = some token) ∧
    (∀ statement : Statement, statement.InRange →
      Statement.ofJson? statement.toJson = some statement) ∧
    (∀ script : Script, script.InRange → Script.ofJson? script.toJson = some script) ∧
    (∀ a b : Script, a.toJson.compact = b.toJson.compact → a = b) ∧
    (∀ (value : Json) (script : Script),
      Script.ofJson? value = some script ↔ script.InRange ∧ script.IsSpelledBy value) ∧
    (∀ value canonical : Json, canonical? value = some canonical →
      Script.ofJson? canonical = Script.ofJson? value ∧ canonical? canonical = some canonical) := by
  refine ⟨?_, ?_, ?_, ?_, ?_, ?_, ?_, ?_⟩
  · intro kind
    exact TokenKind.ofJson?_eq_some_iff.2 .string
  · intro type
    exact StatementType.ofJson?_eq_some_iff.2 .string
  · intro token hrange
    exact Token.ofJson?_eq_some_iff.2 ⟨hrange, token.isSpelledBy_toJson⟩
  · intro statement hrange
    exact Statement.ofJson?_eq_some_iff.2 ⟨hrange, statement.isSpelledBy_toJson⟩
  · intro script hrange
    exact ofJson?_eq_some_iff.2 ⟨hrange, script.isSpelledBy_toJson⟩
  · intro a b
    exact compact_toJson_inj
  · intro value script
    exact ofJson?_eq_some_iff
  · intro value canonical
    exact canonical?_canonical

/-- A script with the largest offset, an unsettled statement, an unknown and an incomplete one, and
a text with characters that are escaped. -/
def farFetched : Script where
  last := 18446744073709551615
  statements := #[
    { tokens := #[{ kind := .inlineComment, value := "--\x00\x22\\é", start := 3, last := 2 }] },
    { type? := some .unknown, terminated := true },
    { type? := some .incomplete }]
  blanks := #[{ kind := .whitespace, value := "\n", start := 7, last := 18446744073709551615 }]

/-- A spelling of that script which uses every freedom: other orders, other members, names that are
given twice, arrays for objects, objects for names, and a type that is missing. -/
def farFetchedSpelling : Json :=
  .object
    [("tokens", .array [.array
        [.object [("whitespace", .bool true), ("whitespace", .null)], .string "\n", .natural 7,
          .natural 18446744073709551615]]),
      ("note", .number "-1.5"),
      ("body", .array [
        .object
          [("tokens", .array [.object
              [("end", .null), ("start", .natural 3), ("type", .string "comment-inline"),
                ("value", .string "--\x00\x22\\é"), ("end", .natural 2)]]),
            ("terminated", .bool false), ("start", .natural 0), ("end", .natural 0)],
        .array [.object [("UNKNOWN", .null)], .natural 0, .natural 0, .bool true, .array []],
        .array [.string "INCOMPLETE", .natural 0, .natural 0, .bool false, .array []]]),
      ("end", .natural 18446744073709551615), ("start", .natural 0)]

theorem json_lossless_of_farFetched :
    farFetched.IsSpelledBy farFetchedSpelling ∧
    Script.ofJson? farFetched.toJson = some farFetched ∧
    canonical? farFetchedSpelling = some farFetched.toJson ∧
    canonical? farFetched.toJson = some farFetched.toJson := by
  obtain ⟨-, -, -, -, hscript, -, hspelling, hcanonical⟩ := json_lossless
  have hread : Script.ofJson? farFetchedSpelling = some farFetched := by decide +kernel
  obtain ⟨hrange, hspelled⟩ := (hspelling _ _).1 hread
  have hwrite : canonical? farFetchedSpelling = some farFetched.toJson :=
    congrArg (Option.map toJson) hread
  exact ⟨hspelled, hscript farFetched hrange, hwrite, (hcanonical _ _ hwrite).2⟩

end Script

end SqlSplit
