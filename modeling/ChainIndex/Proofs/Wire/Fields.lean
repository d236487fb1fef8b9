import ChainIndex.Envelope.Reader
import ChainIndex.Proofs.Wire.Values

/-!
# Fields come back from the wire

Reading a message is folding its fields into a value, and what the writers of two fields put one behind the
other is folded by the one after the other. `Merges` says this of any bytes: whatever comes after them, and
wherever the message around them ends, a reader that starts in front of the bytes with one value goes on behind
them with another. So it composes by appending (`Merges.append`), and each writer of a field has one rule: a
scalar, a text and a byte string replace what is held, a message goes into an empty field, a list grows by its
elements.

The reader's fuel is no part of the statement. It starts with as much as there are unread bytes, every field
takes at least one, and any amount that is enough will do.

Only bytes that are short enough for their length to be declared are spoken of: the length of a nested message
is itself a number below 2⁶⁴. Since a part is never longer than the whole, the rules carry that bound inward.
-/

namespace ChainIndex.Wire

variable {α β : Type} {read : FieldReader α} {inner : FieldReader β} {depth tag : Nat} {a a' a'' : α}

/-- Reading `data` with `a` held comes to holding `a'`, with whatever is behind `data` unread. -/
def Merges (read : FieldReader α) (depth : Nat) (data : List UInt8) (a a' : α) : Prop :=
  data.length < 2 ^ 64 → ∀ (rest : List UInt8) (limit fuel : Nat), limit ≤ rest.length →
    (data ++ rest).length ≤ fuel → ∃ left, rest.length ≤ left ∧
      fieldsUntil read depth limit fuel a (.ofList (data ++ rest)) =
        fieldsUntil read depth limit left a' (.ofList rest)

namespace Merges

theorem nil : Merges read depth [] a a :=
  fun _ _ _ fuel _ enough => ⟨fuel, enough, rfl⟩

theorem append {front back : List UInt8} (first : Merges read depth front a a')
    (second : Merges read depth back a' a'') : Merges read depth (front ++ back) a a'' := by
  intro short rest limit fuel inside enough
  rw [List.length_append] at short
  rw [List.append_assoc] at enough ⊢
  obtain ⟨fuel', enough', front_read⟩ :=
    first (by omega) (back ++ rest) limit fuel (by rw [List.length_append]; omega) enough
  obtain ⟨fuel'', enough'', back_read⟩ := second (by omega) rest limit fuel' inside enough'
  exact ⟨fuel'', enough'', front_read.trans back_read⟩

/-- A key with a value that the field reader takes. -/
theorem field {wire : WireType} {data : List UInt8} (named : IsTag tag)
    (takes : data.length < 2 ^ 64 → ∀ rest,
      read depth ⟨tag, wire⟩ a (.ofList (data ++ rest)) = .ok (a', .ofList rest)) :
    Merges read depth (Writer.key tag wire ++ data) a a' := by
  intro short rest limit fuel inside enough
  have keyed : 0 < (Writer.key tag wire).length := List.length_pos_iff.2 (Writer.varint_ne_nil _)
  simp only [List.length_append] at short enough
  obtain ⟨fuel, rfl⟩ : ∃ n, fuel = n + 1 := ⟨fuel - 1, by omega⟩
  refine ⟨fuel, by omega, ?_⟩
  have more : limit < (Buffer.ofList (Writer.key tag wire ++ data ++ rest)).size := by
    simp only [Buffer.size_ofList, List.length_append]
    omega
  rw [fieldsUntil, if_pos more, List.append_assoc, key_write named]
  simp only [bare, takes (by omega)]

/-- A value that declares its length, whichever field holds it. -/
theorem declared {data : List UInt8} (named : IsTag tag)
    (takes : data.length < 2 ^ 64 → ∀ rest, read depth ⟨tag, .delimited⟩ a
      (.ofList (Writer.varint data.length ++ data ++ rest)) = .ok (a', .ofList rest)) :
    Merges read depth (Writer.delimited tag data) a a' := by
  rw [Writer.delimited, List.append_assoc]
  refine field named fun short => takes ?_
  rw [List.length_append] at short
  omega

/-! ## Scalars, byte strings and texts -/

section Assigned

variable {parent name : String}

theorem int64 {n : Int64} (put : Int64 → α) (named : IsTag tag)
    (reads : ∀ wire b, read depth ⟨tag, wire⟩ a b = assign parent name (Wire.int64 wire b) put)
    (absent : put 0 = a) (present : put n = a') : Merges read depth (Writer.int64 tag n) a a' := by
  subst present
  unfold Writer.int64
  split
  · next default =>
    rw [default, absent]
    exact nil
  · refine field named fun _ rest => ?_
    rw [reads, int64_write]
    rfl

theorem bytes {data : List UInt8} (put : List UInt8 → α) (named : IsTag tag)
    (reads : ∀ wire b, read depth ⟨tag, wire⟩ a b = assign parent name (Wire.bytes wire b) put)
    (absent : put [] = a) (present : put data = a') : Merges read depth (Writer.bytes tag data) a a' := by
  subst present
  unfold Writer.bytes
  split
  · next default =>
    rw [default, absent]
    exact nil
  · refine declared named fun short rest => ?_
    rw [reads, bytes_write short]
    rfl

/-- A text that is written whether it is empty or not, as the elements of a list are. -/
theorem present_text {s : String} {put : String → α} (named : IsTag tag)
    (reads : ∀ wire b, read depth ⟨tag, wire⟩ a b = assign parent name (Wire.text wire b) put) :
    Merges read depth (Writer.delimited tag s.toUTF8.toList) a (put s) := by
  refine declared named fun short rest => ?_
  rw [reads, text_write short]
  rfl

theorem text {s : String} (put : String → α) (named : IsTag tag)
    (reads : ∀ wire b, read depth ⟨tag, wire⟩ a b = assign parent name (Wire.text wire b) put)
    (absent : put "" = a) (present : put s = a') : Merges read depth (Writer.text tag s) a a' := by
  subst present
  unfold Writer.text Writer.bytes
  split
  · next default =>
    have empty : s = "" := by
      have blank : "".toUTF8.toList = [] := by simp [toList_byteArray]
      have same := fromUTF8?_toUTF8 s
      rw [default, ← blank, fromUTF8?_toUTF8] at same
      exact (Option.some.inj same).symm
    rw [empty, absent]
    exact nil
  · exact present_text named reads

end Assigned

/-! ## Messages in messages -/

/-- Reads a nested message to its end, and no further. -/
theorem message_read {data : List UInt8} {v v' : β} (whole : Merges inner depth data v v')
    (short : data.length < 2 ^ 64) (rest : List UInt8) :
    Wire.message inner (depth + 1) .delimited v (.ofList (Writer.varint data.length ++ data ++ rest)) =
      .ok (v', .ofList rest) := by
  obtain ⟨left, -, same⟩ := whole short rest rest.length (data ++ rest).length (Nat.le_refl _) (Nat.le_refl _)
  have inside : ¬(data ++ rest).length < data.length := by
    rw [List.length_append]
    omega
  have ending : (data ++ rest).length - data.length = rest.length := by
    rw [List.length_append]
    omega
  have stop : fieldsUntil inner depth rest.length left v' (.ofList rest) = .ok (v', .ofList rest) := by
    cases left <;> simp [fieldsUntil]
  rw [List.append_assoc]
  simp only [Wire.message, expect, if_true, bare, varint_write short, bind, Except.bind, Buffer.size_ofList,
    if_neg inside, ending]
  rw [same, stop]

section Nested

variable {parent name : String} {write : β → List UInt8} {empty : β}

/-- A message in a field that holds one at most and that nothing was read into yet. -/
theorem message? {o : Option β} (put : Option β → α) (named : IsTag tag)
    (reads : ∀ wire b, read (depth + 1) ⟨tag, wire⟩ a b =
      Raw.merged parent name inner none empty (depth + 1) ⟨tag, wire⟩ b put)
    (absent : put none = a) (present : put o = a') (whole : ∀ v, Merges inner depth (write v) empty v) :
    Merges read (depth + 1) (Writer.message? tag write o) a a' := by
  subst present
  cases o with
  | none =>
    rw [absent]
    exact nil
  | some v =>
    refine declared named fun short rest => ?_
    rw [reads, Raw.merged, Option.getD_none, message_read (whole v) short]
    rfl

/-- A list of messages, element by element behind what the field holds. -/
theorem messages_after {put : Array β → α} (held : Array β) (vs : List β) (named : IsTag tag)
    (reads : ∀ held wire b, read (depth + 1) ⟨tag, wire⟩ (put held) b =
      Raw.element parent name inner empty (depth + 1) ⟨tag, wire⟩ b fun v => put (held.push v))
    (whole : ∀ v, Merges inner depth (write v) empty v) :
    Merges read (depth + 1) (Writer.messages tag write vs) (put held) (put (held ++ vs.toArray)) := by
  induction vs generalizing held with
  | nil =>
    rw [List.append_toArray, List.append_nil, Array.toArray_toList]
    exact nil
  | cons v vs ih =>
    have one : Merges read (depth + 1) (Writer.delimited tag (write v)) (put held) (put (held.push v)) := by
      refine declared named fun short rest => ?_
      rw [reads, Raw.element, message_read (whole v) short]
      rfl
    have grown : held ++ (v :: vs).toArray = held.push v ++ vs.toArray := by simp
    rw [Writer.messages, List.flatMap_cons, grown]
    exact one.append (ih (held.push v))

theorem messages {vs : Array β} (put : Array β → α) (named : IsTag tag)
    (reads : ∀ held wire b, read (depth + 1) ⟨tag, wire⟩ (put held) b =
      Raw.element parent name inner empty (depth + 1) ⟨tag, wire⟩ b fun v => put (held.push v))
    (absent : put #[] = a) (present : put vs = a') (whole : ∀ v, Merges inner depth (write v) empty v) :
    Merges read (depth + 1) (Writer.messages tag write vs.toList) a a' := by
  subst absent present
  simpa using messages_after (#[] : Array β) vs.toList named reads whole

end Nested

/-- A list of texts, element by element behind what the field holds. -/
theorem texts_after {parent name : String} {put : Array String → α} (held : Array String) (ss : List String)
    (named : IsTag tag)
    (reads : ∀ held wire b, read depth ⟨tag, wire⟩ (put held) b =
      assign parent name (Wire.text wire b) fun s => put (held.push s)) :
    Merges read depth (Writer.texts tag ss) (put held) (put (held ++ ss.toArray)) := by
  induction ss generalizing held with
  | nil => simpa [Writer.texts] using nil
  | cons s ss ih =>
    have one : Merges read depth (Writer.delimited tag s.toUTF8.toList) (put held) (put (held.push s)) :=
      present_text named (reads held)
    have grown : held ++ (s :: ss).toArray = held.push s ++ ss.toArray := by simp
    rw [Writer.texts, List.flatMap_cons, grown]
    exact one.append (ih (held.push s))

theorem texts {parent name : String} {ss : Array String} (put : Array String → α) (named : IsTag tag)
    (reads : ∀ held wire b, read depth ⟨tag, wire⟩ (put held) b =
      assign parent name (Wire.text wire b) fun s => put (held.push s))
    (absent : put #[] = a) (present : put ss = a') : Merges read depth (Writer.texts tag ss.toList) a a' := by
  subst absent present
  simpa using texts_after (#[] : Array String) ss.toList named reads

/-! ## Whole buffers -/

theorem decode {data : List UInt8} (whole : Merges read maxDepth data a a') (short : data.length < 2 ^ 64) :
    Wire.decode read a data = .ok a' := by
  obtain ⟨left, -, same⟩ := whole short [] 0 data.length (Nat.le_refl 0) (by simp)
  rw [List.append_nil] at same
  have stop : fieldsUntil read maxDepth 0 left a' (.ofList []) = .ok (a', .ofList []) := by
    cases left <;> simp [fieldsUntil]
  simp only [Wire.decode, Buffer.size_ofList, same, stop]
  rfl

end Merges

end ChainIndex.Wire
