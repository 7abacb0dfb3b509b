/-!
# Byte offsets into a text

A text is read as its list of characters, and its positions are counted in bytes of its UTF-8
form.  An offset is a *boundary* when it does not fall inside a character and does not pass the
end.  Cutting at an offset is therefore partial: `dropBytes?` and `slice?` answer `none` at an
offset that is no boundary.

The main statement is `dropBytes?_eq_some_iff`: dropping `n` bytes leaves `rest` exactly when the
text is some characters of `n` bytes in all, followed by `rest`.
-/

namespace SqlSplit.Text

/-! ## Length -/

/-- The number of bytes of the UTF-8 form of a list of characters. -/
def byteLength (cs : List Char) : Nat :=
  cs.foldr (fun c n => c.utf8Size + n) 0

@[simp] theorem byteLength_nil : byteLength [] = 0 := rfl

@[simp] theorem byteLength_cons (c : Char) (cs : List Char) :
    byteLength (c :: cs) = c.utf8Size + byteLength cs := rfl

@[simp] theorem byteLength_append (xs ys : List Char) :
    byteLength (xs ++ ys) = byteLength xs + byteLength ys := by
  induction xs with
  | nil => simp
  | cons c cs ih => simp [ih, Nat.add_assoc]

theorem byteLength_pos {cs : List Char} (h : cs ≠ []) : 0 < byteLength cs := by
  cases cs with
  | nil => exact absurd rfl h
  | cons c cs =>
    have := c.utf8Size_pos
    simp only [byteLength_cons]
    omega

theorem length_le_byteLength (cs : List Char) : cs.length ≤ byteLength cs := by
  induction cs with
  | nil => simp
  | cons c cs ih =>
    have := c.utf8Size_pos
    simp only [List.length_cons, byteLength_cons]
    omega

theorem byteLength_toList (text : String) : byteLength text.toList = text.utf8ByteSize := by
  have hlist : ∀ cs : List Char, byteLength cs = (String.ofList cs).utf8ByteSize := by
    intro cs
    induction cs with
    | nil => rfl
    | cons c cs ih =>
      rw [byteLength_cons, ih, String.ofList_cons]
      simp
  rw [hlist, String.ofList_toList]

/-! ## Cutting -/

/-- What is left of a text after its first `n` bytes, if `n` is a boundary. -/
def dropBytes? : Nat → List Char → Option (List Char)
  | 0, cs => some cs
  | _ + 1, [] => none
  | n + 1, c :: cs =>
    if c.utf8Size ≤ n + 1 then dropBytes? (n + 1 - c.utf8Size) cs else none

@[simp] theorem dropBytes?_zero (cs : List Char) : dropBytes? 0 cs = some cs := by
  cases cs <;> rfl

theorem dropBytes?_cons {n : Nat} (hn : 0 < n) (c : Char) (cs : List Char) :
    dropBytes? n (c :: cs) =
      if c.utf8Size ≤ n then dropBytes? (n - c.utf8Size) cs else none := by
  cases n with
  | zero => exact absurd hn (Nat.lt_irrefl 0)
  | succ n => rfl

theorem dropBytes?_append (xs ys : List Char) :
    dropBytes? (byteLength xs) (xs ++ ys) = some ys := by
  induction xs with
  | nil => simp
  | cons c cs ih =>
    have hc := c.utf8Size_pos
    rw [byteLength_cons, List.cons_append, dropBytes?_cons (by omega), if_pos (by omega),
      Nat.add_sub_cancel_left, ih]

/-- Dropping `n` bytes succeeds exactly on the characters that take `n` bytes, whatever follows. -/
theorem dropBytes?_eq_some_iff {n : Nat} {cs rest : List Char} :
    dropBytes? n cs = some rest ↔ ∃ taken, cs = taken ++ rest ∧ byteLength taken = n := by
  constructor
  · intro h
    induction cs generalizing n with
    | nil =>
      cases n with
      | zero =>
        rw [dropBytes?_zero, Option.some.injEq] at h
        exact ⟨[], by simp [h], rfl⟩
      | succ n => simp [dropBytes?] at h
    | cons c cs ih =>
      rcases Nat.eq_zero_or_pos n with rfl | hn
      · rw [dropBytes?_zero, Option.some.injEq] at h
        exact ⟨[], by simp [h], rfl⟩
      · rw [dropBytes?_cons hn] at h
        split at h
        · next hle =>
          obtain ⟨taken, hcs, hlen⟩ := ih h
          refine ⟨c :: taken, by simp [hcs], ?_⟩
          rw [byteLength_cons]
          omega
        · exact absurd h (by simp)
  · rintro ⟨taken, rfl, rfl⟩
    exact dropBytes?_append taken rest

/-- Two divisions of a text at the same byte are the same. -/
theorem append_inj_of_byteLength_eq {as bs cs ds : List Char} (h : as ++ bs = cs ++ ds)
    (hlength : byteLength as = byteLength cs) : as = cs ∧ bs = ds := by
  have hbehind := dropBytes?_append as bs
  rw [h, hlength, dropBytes?_append] at hbehind
  obtain rfl := Option.some.inj hbehind
  exact ⟨List.append_cancel_right h, rfl⟩

theorem dropBytes?_add {m n : Nat} {cs mid : List Char} (h : dropBytes? m cs = some mid) :
    dropBytes? (m + n) cs = dropBytes? n mid := by
  obtain ⟨taken, rfl, rfl⟩ := dropBytes?_eq_some_iff.1 h
  clear h
  induction taken with
  | nil => simp
  | cons c cs ih =>
    have hc := c.utf8Size_pos
    rw [byteLength_cons, List.cons_append, dropBytes?_cons (by omega), if_pos (by omega), ← ih]
    congr 1
    omega

theorem length_lt_of_dropBytes? {n : Nat} {cs rest : List Char} (hn : 0 < n)
    (h : dropBytes? n cs = some rest) : rest.length < cs.length := by
  obtain ⟨taken, rfl, rfl⟩ := dropBytes?_eq_some_iff.1 h
  have htaken : taken ≠ [] := fun h => by simp [h] at hn
  have := List.length_pos_iff.2 htaken
  rw [List.length_append]
  omega

/-- An offset that a text can be cut at. -/
def IsBoundary (cs : List Char) (offset : Nat) : Prop :=
  ∃ before after, cs = before ++ after ∧ byteLength before = offset

theorem isBoundary_iff {cs : List Char} {offset : Nat} :
    IsBoundary cs offset ↔ (dropBytes? offset cs).isSome := by
  rw [Option.isSome_iff_exists]
  constructor
  · rintro ⟨before, after, h⟩
    exact ⟨after, dropBytes?_eq_some_iff.2 ⟨before, h⟩⟩
  · rintro ⟨after, h⟩
    obtain ⟨before, h⟩ := dropBytes?_eq_some_iff.1 h
    exact ⟨before, after, h⟩

instance (cs : List Char) (offset : Nat) : Decidable (IsBoundary cs offset) :=
  decidable_of_iff _ isBoundary_iff.symm

/-- The text from byte `start` up to but excluding byte `stop`: both must be boundaries, in this
order. -/
def slice? (cs : List Char) (start stop : Nat) : Option String :=
  if start ≤ stop then do
    let rest ← dropBytes? start cs
    let after ← dropBytes? (stop - start) rest
    some (String.ofList (rest.take (rest.length - after.length)))
  else none

/-- A slice is cut out between what precedes and what follows it. -/
theorem slice?_append (before taken after : List Char) :
    slice? (before ++ taken ++ after) (byteLength before) (byteLength before + byteLength taken) =
      some (String.ofList taken) := by
  have hrest :
      dropBytes? (byteLength before) (before ++ taken ++ after) = some (taken ++ after) := by
    rw [List.append_assoc]
    exact dropBytes?_append _ _
  have hlen : (taken ++ after).length - after.length = taken.length := by simp
  rw [slice?, if_pos (Nat.le_add_right _ _), hrest, Nat.add_sub_cancel_left]
  simp only [Option.bind_eq_bind, Option.bind_some, dropBytes?_append, hlen, List.take_left]

theorem slice?_left (front behind : String) :
    slice? (front ++ behind).toList 0 front.utf8ByteSize = some front := by
  have hslice := slice?_append [] front.toList behind.toList
  rw [byteLength_toList, String.ofList_toList] at hslice
  simpa using hslice

theorem slice?_right (front behind : String) :
    slice? (front ++ behind).toList front.utf8ByteSize (front ++ behind).utf8ByteSize =
      some behind := by
  have hslice := slice?_append front.toList behind.toList []
  rw [byteLength_toList, byteLength_toList, String.ofList_toList, List.append_nil] at hslice
  rwa [String.toList_append, String.utf8ByteSize_append]

end SqlSplit.Text
