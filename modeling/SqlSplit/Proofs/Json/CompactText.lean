import Mathlib.Tactic.Lemma
import SqlSplit.Json.Basic

/-!
# Compact text is read in one way

A JSON value can be told from its compact text, and so can where the text of the value ends in a
longer text.  Two things need care.  Nothing marks the end of a number, so the text behind one must
not go on with a digit (`EndsNumber`).  And within a string the escaped forms of the characters have
different lengths, but none of them is the beginning of another one.

The main statement is `IsPlain.write_append_inj`, from which `compact_inj` follows.  Both are about
values whose numbers are written as plain digits: any other number is kept as it is written, and
what is written need not be a number at all.
-/

namespace SqlSplit.Json

/-! ## Strings -/

/-- The characters that do not stand for themselves within a string. -/
def escapedCharacters : List Char :=
  '\x22' :: '\\' :: (List.range 0x20).map Char.ofNat

lemma escape_of_notMem {c : Char} (h : c ∉ escapedCharacters) : escape c = [c] := by
  have hne : ∀ d ∈ escapedCharacters, c ≠ d := by
    rintro d hd rfl
    exact h hd
  have hcontrol : ¬ c.toNat < 0x20 := by
    intro hlt
    have hmem : Char.ofNat c.toNat ∈ (List.range 0x20).map Char.ofNat :=
      List.mem_map_of_mem (List.mem_range.2 hlt)
    rw [Char.ofNat_toNat] at hmem
    exact h (List.mem_cons_of_mem _ (List.mem_cons_of_mem _ hmem))
  unfold escape
  split
  · exact absurd rfl (hne '\x22' (by decide))
  · exact absurd rfl (hne '\\' (by decide))
  · exact absurd rfl (hne '\x08' (by decide))
  · exact absurd rfl (hne '\x0c' (by decide))
  · exact absurd rfl (hne '\n' (by decide))
  · exact absurd rfl (hne '\r' (by decide))
  · exact absurd rfl (hne '\t' (by decide))
  · exact if_neg hcontrol

-- `List.all` makes sure that only these characters are gone through, and not all there are.
lemma head?_escape_of_mem {c : Char} (hc : c ∈ escapedCharacters) :
    (escape c).head? = some '\\' := by
  have hall : (escapedCharacters.all fun c => (escape c).head? = some '\\') = true := by
    decide +kernel
  simpa using List.all_eq_true.1 hall c hc

lemma escape_prefix_inj {c d : Char} (hc : c ∈ escapedCharacters) (hd : d ∈ escapedCharacters)
    (h : escape c <+: escape d) : c = d := by
  have hall : (escapedCharacters.all fun c => escapedCharacters.all fun d =>
      escape c <+: escape d → c = d) = true := by
    decide +kernel
  have hpair := List.all_eq_true.1 (List.all_eq_true.1 hall c hc) d hd
  exact of_decide_eq_true hpair h

/-- What stands for a character begins with something, and not with a quote. -/
lemma exists_escape_eq (c : Char) : ∃ d ds, escape c = d :: ds ∧ d ≠ '\x22' := by
  by_cases hc : c ∈ escapedCharacters
  · obtain ⟨ds, hds⟩ := List.head?_eq_some_iff.1 (head?_escape_of_mem hc)
    exact ⟨'\\', ds, hds, by decide⟩
  · refine ⟨c, [], escape_of_notMem hc, ?_⟩
    rintro rfl
    exact hc (by decide)

lemma escape_append_ne {c d : Char} (hc : c ∈ escapedCharacters) (hd : d ∉ escapedCharacters)
    (xs ys : List Char) : escape c ++ xs ≠ escape d ++ ys := by
  intro h
  obtain ⟨cs, hcs⟩ := List.head?_eq_some_iff.1 (head?_escape_of_mem hc)
  rw [hcs, escape_of_notMem hd, List.cons_append, List.singleton_append] at h
  obtain ⟨rfl, -⟩ := List.cons.inj h
  exact hd (by decide)

lemma escape_append_inj {c d : Char} {xs ys : List Char} (h : escape c ++ xs = escape d ++ ys) :
    c = d ∧ xs = ys := by
  by_cases hc : c ∈ escapedCharacters <;> by_cases hd : d ∈ escapedCharacters
  · have hsame : c = d := by
      rcases List.prefix_or_prefix_of_prefix (List.prefix_append (escape c) xs)
        (h ▸ List.prefix_append (escape d) ys) with hprefix | hprefix
      · exact escape_prefix_inj hc hd hprefix
      · exact (escape_prefix_inj hd hc hprefix).symm
    subst hsame
    exact ⟨rfl, List.append_cancel_left h⟩
  · exact absurd h (escape_append_ne hc hd xs ys)
  · exact absurd h.symm (escape_append_ne hd hc ys xs)
  · rw [escape_of_notMem hc, escape_of_notMem hd] at h
    exact List.cons.inj h

lemma flatMap_escape_append_inj {as bs xs ys : List Char}
    (h : as.flatMap escape ++ '\x22' :: xs = bs.flatMap escape ++ '\x22' :: ys) :
    as = bs ∧ xs = ys := by
  induction as generalizing bs with
  | nil =>
    cases bs with
    | nil => exact ⟨rfl, (List.cons.inj h).2⟩
    | cons b bs =>
      obtain ⟨d, ds, hb, hd⟩ := exists_escape_eq b
      simp [hb, hd.symm] at h
  | cons a as ih =>
    cases bs with
    | nil =>
      obtain ⟨d, ds, ha, hd⟩ := exists_escape_eq a
      simp [ha, hd] at h
    | cons b bs =>
      rw [List.flatMap_cons, List.flatMap_cons, List.append_assoc, List.append_assoc] at h
      obtain ⟨rfl, hrest⟩ := escape_append_inj h
      obtain ⟨rfl, hbehind⟩ := ih hrest
      exact ⟨rfl, hbehind⟩

/-- Where a string ends can be told from the string. -/
lemma quoted_append_inj {a b : String} {xs ys : List Char} (h : quoted a ++ xs = quoted b ++ ys) :
    a = b ∧ xs = ys := by
  simp only [quoted, List.cons_append, List.append_assoc, List.nil_append, List.cons.injEq,
    true_and] at h
  obtain ⟨hchars, hbehind⟩ := flatMap_escape_append_inj h
  exact ⟨String.toList_inj.1 hchars, hbehind⟩

/-! ## Numbers -/

/-- The text does not go on with a digit. -/
def EndsNumber (cs : List Char) : Prop :=
  ∀ c, cs.head? = some c → c.isDigit = false

lemma endsNumber_nil : EndsNumber [] := nofun

lemma endsNumber_cons {c : Char} (h : c.isDigit = false) (cs : List Char) :
    EndsNumber (c :: cs) := by
  rintro d hd
  cases hd
  exact h

/-- Of two runs of digits that end in the same text, neither is the longer one. -/
lemma digits_append_inj {as bs xs ys : List Char} (has : ∀ c ∈ as, c.isDigit = true)
    (hbs : ∀ c ∈ bs, c.isDigit = true) (hxs : EndsNumber xs) (hys : EndsNumber ys)
    (h : as ++ xs = bs ++ ys) : as = bs ∧ xs = ys := by
  rcases List.append_eq_append_iff.1 h with ⟨zs, rfl, rfl⟩ | ⟨zs, rfl, rfl⟩
  · cases zs with
    | nil => simp
    | cons z zs =>
      have hdigit := hbs z (by simp)
      rw [hxs z rfl] at hdigit
      cases hdigit
  · cases zs with
    | nil => simp
    | cons z zs =>
      have hdigit := has z (by simp)
      rw [hys z rfl] at hdigit
      cases hdigit

lemma isDigit_of_mem_toDigits {n : Nat} {c : Char} (h : c ∈ Nat.toDigits 10 n) :
    c.isDigit = true :=
  Nat.isDigit_of_mem_toDigits (by decide) (by decide) h

lemma toDigits_append_inj {m n : Nat} {xs ys : List Char} (hxs : EndsNumber xs)
    (hys : EndsNumber ys) (h : Nat.toDigits 10 m ++ xs = Nat.toDigits 10 n ++ ys) :
    m = n ∧ xs = ys := by
  obtain ⟨hdigits, hbehind⟩ := digits_append_inj (fun _ => isDigit_of_mem_toDigits)
    (fun _ => isDigit_of_mem_toDigits) hxs hys h
  have hvalue := congrArg (Nat.ofDigitChars 10 · 0) hdigits
  simp only [Nat.ofDigitChars_ten_toDigits] at hvalue
  exact ⟨hvalue, hbehind⟩

/-! ## Lists -/

/-- Elements with a comma between any two of them, and a closing character. -/
def writeList {α : Type} (writeOne : α → List Char) (close : Char) : List α → List Char
  | [] => [close]
  | [a] => writeOne a ++ [close]
  | a :: as => writeOne a ++ ',' :: writeList writeOne close as

/-- A member of an object. -/
def writeMember (member : String × Json) : List Char :=
  quoted member.1 ++ ':' :: write member.2

lemma writeItems_eq (items : List Json) : writeItems items = writeList write ']' items := by
  induction items with
  | nil => rw [writeItems, writeList]
  | cons item items ih =>
    cases items with
    | nil => rw [writeItems, writeList]
    | cons next items =>
      rw [writeItems, writeList, ih]
      · simp
      · simp

lemma writeMembers_eq (members : List (String × Json)) :
    writeMembers members = writeList writeMember '\x7d' members := by
  induction members with
  | nil => rw [writeMembers, writeList]
  | cons member members ih =>
    cases members with
    | nil => simp [writeMembers, writeList, writeMember]
    | cons next members =>
      rw [writeMembers, writeList, ih]
      · simp [writeMember]
      · simp
      · simp

section Lists

variable {α : Type} {writeOne : α → List Char} {close : Char} {as bs : List α}

/-- What stands behind the first element of a list. -/
def writeBehind (writeOne : α → List Char) (close : Char) (as : List α) : List Char :=
  if as.isEmpty then [close] else ',' :: writeList writeOne close as

lemma writeList_cons (a : α) (as : List α) :
    writeList writeOne close (a :: as) = writeOne a ++ writeBehind writeOne close as := by
  cases as with
  | nil => rfl
  | cons b as =>
    rw [writeList]
    · rfl
    · simp

lemma endsNumber_writeBehind (hclose : close.isDigit = false) (as : List α) (xs : List Char) :
    EndsNumber (writeBehind writeOne close as ++ xs) := by
  unfold writeBehind
  split
  · exact endsNumber_cons hclose _
  · exact endsNumber_cons (by decide) _

/-- A list can be told from its text if its elements can be told from theirs, and if no element
begins with the closing character. -/
lemma writeList_append_inj (hclose : close.isDigit = false) (hcomma : close ≠ ',')
    (hone : ∀ a ∈ as, ∀ b ∈ bs, ∀ xs ys, EndsNumber xs → EndsNumber ys →
      writeOne a ++ xs = writeOne b ++ ys → a = b ∧ xs = ys)
    (has : ∀ a ∈ as, ∀ xs ys, writeOne a ++ xs ≠ close :: ys)
    (hbs : ∀ b ∈ bs, ∀ xs ys, writeOne b ++ xs ≠ close :: ys) {xs ys : List Char}
    (h : writeList writeOne close as ++ xs = writeList writeOne close bs ++ ys) :
    as = bs ∧ xs = ys := by
  induction as generalizing bs with
  | nil =>
    cases bs with
    | nil => exact ⟨rfl, (List.cons.inj h).2⟩
    | cons b bs =>
      rw [writeList_cons, List.append_assoc] at h
      exact absurd h.symm (hbs b List.mem_cons_self _ _)
  | cons a as ih =>
    cases bs with
    | nil =>
      rw [writeList_cons, List.append_assoc] at h
      exact absurd h (has a List.mem_cons_self _ _)
    | cons b bs =>
      rw [writeList_cons, writeList_cons, List.append_assoc, List.append_assoc] at h
      obtain ⟨rfl, hbehind⟩ := hone a List.mem_cons_self b List.mem_cons_self _ _
        (endsNumber_writeBehind hclose as xs) (endsNumber_writeBehind hclose bs ys) h
      -- Either both lists end here, or a comma stands behind the element in both.
      cases as with
      | nil =>
        cases bs with
        | nil => exact ⟨rfl, (List.cons.inj hbehind).2⟩
        | cons b' bs => exact absurd (List.cons.inj hbehind).1 hcomma
      | cons a' as =>
        cases bs with
        | nil => exact absurd (List.cons.inj hbehind).1.symm hcomma
        | cons b' bs =>
          have htails := (List.cons.inj hbehind).2
          obtain ⟨htail, hend⟩ := ih
            (fun x hx y hy => hone x (List.mem_cons_of_mem _ hx) y (List.mem_cons_of_mem _ hy))
            (fun x hx => has x (List.mem_cons_of_mem _ hx))
            (fun y hy => hbs y (List.mem_cons_of_mem _ hy)) htails
          exact ⟨congrArg (a :: ·) htail, hend⟩

end Lists

/-! ## Values -/

/-- All numbers in the value are written as plain digits. -/
inductive IsPlain : Json → Prop
  | null : IsPlain null
  | bool (value : Bool) : IsPlain (bool value)
  | natural (value : Nat) : IsPlain (natural value)
  | string (value : String) : IsPlain (string value)
  | array {items : List Json} (h : ∀ item ∈ items, IsPlain item) : IsPlain (array items)
  | object {members : List (String × Json)} (h : ∀ member ∈ members, IsPlain member.2) :
      IsPlain (object members)

/-- The character that a value begins with, all digits taken for one. -/
def opening : Json → Char
  | null => 'n'
  | bool true => 't'
  | bool false => 'f'
  | natural _ => '0'
  | number _ => '-'
  | string _ => '\x22'
  | array _ => '['
  | object _ => '\x7b'

/-- A character, all digits taken for one. -/
def digitsAlike (c : Char) : Char :=
  if c.isDigit then '0' else c

/-- What kind of value a text is of can be told from its first character. -/
lemma IsPlain.exists_write_eq {v : Json} (h : v.IsPlain) :
    ∃ c cs, v.write = c :: cs ∧ digitsAlike c = v.opening := by
  cases h with
  | null => exact ⟨_, _, by rw [write]; rfl, rfl⟩
  | bool value => cases value <;> exact ⟨_, _, by rw [write]; rfl, rfl⟩
  | natural value =>
    have hne : Nat.toDigits 10 value ≠ [] := Nat.toDigits_ne_nil
    obtain ⟨c, cs, hdigits⟩ := List.exists_cons_of_ne_nil hne
    have hc : c.isDigit = true := by
      refine isDigit_of_mem_toDigits (n := value) ?_
      rw [hdigits]
      exact List.mem_cons_self
    exact ⟨c, cs, by rw [write, hdigits], by simp [digitsAlike, hc, opening]⟩
  | string value => exact ⟨_, _, by rw [write]; rfl, rfl⟩
  | array h => exact ⟨_, _, by rw [write], rfl⟩
  | object h => exact ⟨_, _, by rw [write], rfl⟩

lemma IsPlain.opening_eq {v w : Json} (hv : v.IsPlain) (hw : w.IsPlain) {xs ys : List Char}
    (h : v.write ++ xs = w.write ++ ys) : v.opening = w.opening := by
  obtain ⟨c, cs, hcs, hc⟩ := hv.exists_write_eq
  obtain ⟨d, ds, hds, hd⟩ := hw.exists_write_eq
  rw [hcs, hds] at h
  obtain ⟨rfl, -⟩ := List.cons.inj h
  exact hc.symm.trans hd

lemma opening_ne (v : Json) : v.opening ≠ ']' := by
  cases v with
  | bool value => cases value <;> simp [opening]
  | _ => simp [opening]

lemma IsPlain.write_append_ne {v : Json} (h : v.IsPlain) (xs ys : List Char) :
    v.write ++ xs ≠ ']' :: ys := by
  intro heq
  obtain ⟨c, cs, hcs, hc⟩ := h.exists_write_eq
  rw [hcs] at heq
  obtain ⟨rfl, -⟩ := List.cons.inj heq
  exact opening_ne v hc.symm

lemma writeMember_append_inj {a b : String × Json} {xs ys : List Char}
    (hvalue : a.2.write ++ xs = b.2.write ++ ys → a.2 = b.2 ∧ xs = ys)
    (h : writeMember a ++ xs = writeMember b ++ ys) : a = b ∧ xs = ys := by
  rw [writeMember, writeMember, List.append_assoc, List.append_assoc] at h
  obtain ⟨hname, hbehind⟩ := quoted_append_inj h
  obtain ⟨hsame, hend⟩ := hvalue (List.cons.inj hbehind).2
  exact ⟨Prod.ext hname hsame, hend⟩

lemma writeMember_append_ne (member : String × Json) (xs ys : List Char) :
    writeMember member ++ xs ≠ '\x7d' :: ys := by
  simp [writeMember, quoted]

/-- The kind of a value: the value itself if it has no parts, or what is left without them. -/
def shell : Json → Json
  | null => null
  | bool value => bool value
  | natural _ => natural 0
  | number _ => number ""
  | string _ => string ""
  | array _ => array []
  | object _ => object []

/-- The kind of the values that begin with a character. -/
def shellOf (c : Char) : Json :=
  if c = 'n' then null
  else if c = 't' then bool true
  else if c = 'f' then bool false
  else if c = '0' then natural 0
  else if c = '-' then number ""
  else if c = '\x22' then string ""
  else if c = '[' then array []
  else object []

lemma shellOf_opening (v : Json) : shellOf v.opening = v.shell := by
  cases v with
  | bool value => cases value <;> rfl
  | _ => rfl

lemma IsPlain.shell_eq {v w : Json} (hv : v.IsPlain) (hw : w.IsPlain) {xs ys : List Char}
    (h : v.write ++ xs = w.write ++ ys) : v.shell = w.shell := by
  rw [← shellOf_opening, ← shellOf_opening, hv.opening_eq hw h]

lemma array_append_inj {items items' : List Json} (hitems : ∀ item ∈ items, item.IsPlain)
    (hitems' : ∀ item ∈ items', item.IsPlain)
    (hone : ∀ a ∈ items, ∀ b ∈ items', ∀ xs ys, EndsNumber xs → EndsNumber ys →
      a.write ++ xs = b.write ++ ys → a = b ∧ xs = ys) {xs ys : List Char}
    (h : (array items).write ++ xs = (array items').write ++ ys) :
    array items = array items' ∧ xs = ys := by
  rw [write, write, writeItems_eq, writeItems_eq] at h
  obtain ⟨rfl, hbehind⟩ := writeList_append_inj (by decide) (by decide) hone
    (fun a ha => (hitems a ha).write_append_ne) (fun b hb => (hitems' b hb).write_append_ne)
    (List.cons.inj h).2
  exact ⟨rfl, hbehind⟩

lemma object_append_inj {members members' : List (String × Json)}
    (hone : ∀ a ∈ members, ∀ b ∈ members', ∀ xs ys, EndsNumber xs → EndsNumber ys →
      a.2.write ++ xs = b.2.write ++ ys → a.2 = b.2 ∧ xs = ys) {xs ys : List Char}
    (h : (object members).write ++ xs = (object members').write ++ ys) :
    object members = object members' ∧ xs = ys := by
  have hmember : ∀ a ∈ members, ∀ b ∈ members', ∀ xs ys, EndsNumber xs → EndsNumber ys →
      writeMember a ++ xs = writeMember b ++ ys → a = b ∧ xs = ys :=
    fun a ha b hb xs ys hxs hys => writeMember_append_inj (hone a ha b hb xs ys hxs hys)
  rw [write, write, writeMembers_eq, writeMembers_eq] at h
  obtain ⟨rfl, hbehind⟩ := writeList_append_inj (by decide) (by decide) hmember
    (fun a _ => writeMember_append_ne a) (fun b _ => writeMember_append_ne b) (List.cons.inj h).2
  exact ⟨rfl, hbehind⟩

/-- A value can be told from its text, and so can where the text ends. -/
theorem IsPlain.write_append_inj {v w : Json} (hv : v.IsPlain) (hw : w.IsPlain)
    {xs ys : List Char} (hxs : EndsNumber xs) (hys : EndsNumber ys)
    (h : v.write ++ xs = w.write ++ ys) : v = w ∧ xs = ys := by
  -- The first character says that both values are of one kind.
  have hshell := hv.shell_eq hw h
  induction hv generalizing w xs ys with
  | null =>
    cases hw with
    | null => exact ⟨rfl, List.append_cancel_left h⟩
    | _ => cases hshell
  | bool a =>
    cases hw with
    | bool b =>
      cases hshell
      exact ⟨rfl, List.append_cancel_left h⟩
    | _ => cases hshell
  | natural m =>
    cases hw with
    | natural n =>
      rw [write, write] at h
      obtain ⟨rfl, hbehind⟩ := toDigits_append_inj hxs hys h
      exact ⟨rfl, hbehind⟩
    | _ => cases hshell
  | string a =>
    cases hw with
    | string b =>
      rw [write, write] at h
      obtain ⟨rfl, hbehind⟩ := quoted_append_inj h
      exact ⟨rfl, hbehind⟩
    | _ => cases hshell
  | array hitems ih =>
    cases hw with
    | array hitems' =>
      refine array_append_inj hitems hitems' (fun a ha b hb xs ys hxs hys hab => ?_) h
      exact ih a ha (hitems' b hb) hxs hys hab ((hitems a ha).shell_eq (hitems' b hb) hab)
    | _ => cases hshell
  | object hmembers ih =>
    cases hw with
    | object hmembers' =>
      refine object_append_inj (fun a ha b hb xs ys hxs hys hab => ?_) h
      exact ih a ha (hmembers' b hb) hxs hys hab ((hmembers a ha).shell_eq (hmembers' b hb) hab)
    | _ => cases hshell

/-- Two values have the same compact text only if they are the same. -/
theorem IsPlain.compact_inj {v w : Json} (hv : v.IsPlain) (hw : w.IsPlain)
    (h : v.compact = w.compact) : v = w := by
  have hchars : v.write ++ [] = w.write ++ [] := by
    rw [List.append_nil, List.append_nil]
    exact String.ofList_injective h
  exact (hv.write_append_inj hw endsNumber_nil endsNumber_nil hchars).1

end SqlSplit.Json
