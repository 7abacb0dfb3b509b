/-!
# JSON values and their compact text

Numbers are told apart by their written form: those written as plain digits are natural numbers,
and all others, with a sign, a fraction or an exponent, are kept as they are written.

An object is kept as it is written too.  A name that is given more than once has the value that it
is given last: `lasting` has the members that count.

The compact text has no blanks outside strings.  Within a string, the quote, the backslash and the
control characters below U+0020 are escaped, five of the latter by a letter; every other character
stands for itself.
-/

namespace SqlSplit

/-- A JSON value. -/
inductive Json where
  | null
  | bool (value : Bool)
  /-- A number written as plain digits. -/
  | natural (value : Nat)
  /-- Any other number, as written. -/
  | number (written : String)
  | string (value : String)
  | array (items : List Json)
  /-- The members in order of writing. -/
  | object (members : List (String × Json))
  deriving Repr, Inhabited

namespace Json

/-! ## Members -/

/-- The members of an object that count: of those with the same name, the last one. -/
def lasting : List (String × Json) → List (String × Json)
  | [] => []
  | (name, value) :: members =>
    if members.any (name == ·.1) then lasting members else (name, value) :: lasting members

theorem lasting_eq_nil_iff {members : List (String × Json)} :
    lasting members = [] ↔ members = [] := by
  induction members with
  | nil => rfl
  | cons member members ih =>
    rw [lasting]
    split
    · next h =>
      have hne : members ≠ [] := by
        rintro rfl
        cases h
      simp [ih, hne]
    · simp

/-- Looking up a name finds the value that it is given last. -/
theorem lookup_lasting (name : String) (members : List (String × Json)) :
    List.lookup name (lasting members) = List.lookup name members.reverse := by
  induction members with
  | nil => rfl
  | cons member members ih =>
    obtain ⟨other, value⟩ := member
    rw [List.reverse_cons, List.lookup_append, ← ih, lasting]
    by_cases hname : name = other
    · subst hname
      split
      · next h =>
        have hsome : (List.lookup name (lasting members)).isSome = true := by
          rw [ih, List.lookup_isSome_iff]
          simpa using h
        rw [Option.or_of_isSome hsome]
      · next h =>
        have hnone : List.lookup name (lasting members) = none := by
          rw [ih, List.lookup_eq_none_iff]
          intro later hmem
          have hne : name ≠ later.1 := fun heq =>
            h (List.any_eq_true.2 ⟨later, List.mem_reverse.1 hmem, beq_iff_eq.2 heq⟩)
          exact bne_iff_ne.2 hne
        rw [hnone, List.lookup_cons_self, List.lookup_cons_self, Option.none_or]
    · have hother : (name == other) = false := beq_false_of_ne hname
      split
      · simp [List.lookup_cons, hother]
      · simp [List.lookup_cons, hother]

/-- A single member counts if all members have its name and it is the last of them. -/
theorem lasting_eq_singleton_iff {members : List (String × Json)} {name : String} {value : Json} :
    lasting members = [(name, value)] ↔
      (∀ member ∈ members, member.1 = name) ∧ members.getLast? = some (name, value) := by
  induction members with
  | nil => simp [lasting]
  | cons member members ih =>
    obtain ⟨other, first⟩ := member
    rw [lasting]
    split
    · next h =>
      -- A later member has the name, so the first one neither counts nor is the last.
      obtain ⟨later, hmem, hsame⟩ := List.any_eq_true.1 h
      have hlast : ((other, first) :: members).getLast? = members.getLast? := by
        cases members with
        | nil => cases hmem
        | cons next members => rfl
      rw [ih, hlast, List.forall_mem_cons]
      constructor
      · rintro ⟨hall, hend⟩
        exact ⟨⟨(beq_iff_eq.1 hsame).trans (hall later hmem), hall⟩, hend⟩
      · rintro ⟨⟨-, hall⟩, hend⟩
        exact ⟨hall, hend⟩
    · next h =>
      rw [List.cons.injEq, lasting_eq_nil_iff]
      constructor
      · rintro ⟨hfirst, rfl⟩
        simpa using hfirst
      · rintro ⟨hall, hend⟩
        cases members with
        | nil => simpa using hend
        | cons later members =>
          rw [List.forall_mem_cons, List.forall_mem_cons] at hall
          obtain ⟨hother, hlater, -⟩ := hall
          have hsame : other = later.1 := hother.trans hlater.symm
          exact h.elim (List.any_eq_true.2 ⟨later, List.mem_cons_self, beq_iff_eq.2 hsame⟩)

/-! ## Compact text -/

/-- The hexadecimal digit of a number below sixteen, in small letters. -/
def hexDigit (n : Nat) : Char :=
  if n < 10 then Char.ofNat ('0'.toNat + n) else Char.ofNat ('a'.toNat + (n - 10))

/-- A character as it stands within a string. -/
def escape (c : Char) : List Char :=
  match c with
  | '\x22' => ['\\', '\x22']
  | '\\' => ['\\', '\\']
  | '\x08' => ['\\', 'b']
  | '\x0c' => ['\\', 'f']
  | '\n' => ['\\', 'n']
  | '\r' => ['\\', 'r']
  | '\t' => ['\\', 't']
  | c =>
    if c.toNat < 0x20 then
      ['\\', 'u', '0', '0', hexDigit (c.toNat / 16), hexDigit (c.toNat % 16)]
    else [c]

/-- A string between quotes. -/
def quoted (text : String) : List Char :=
  '\x22' :: (text.toList.flatMap escape ++ ['\x22'])

mutual

/-- The characters of a value's compact text. -/
def write : Json → List Char
  | null => "null".toList
  | bool true => "true".toList
  | bool false => "false".toList
  | natural value => Nat.toDigits 10 value
  | number written => written.toList
  | string value => quoted value
  | array items => '[' :: writeItems items
  | object members => '\x7b' :: writeMembers members

/-- The characters of the items that follow in an array, and of its end. -/
def writeItems : List Json → List Char
  | [] => [']']
  | [item] => write item ++ [']']
  | item :: items => write item ++ ',' :: writeItems items

/-- The characters of the members that follow in an object, and of its end. -/
def writeMembers : List (String × Json) → List Char
  | [] => ['\x7d']
  | [(name, value)] => quoted name ++ ':' :: (write value ++ ['\x7d'])
  | (name, value) :: members =>
    quoted name ++ ':' :: (write value ++ ',' :: writeMembers members)

end

/-- The compact text of a value. -/
def compact (value : Json) : String :=
  String.ofList value.write

end Json

end SqlSplit
