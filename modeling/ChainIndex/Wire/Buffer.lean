/-!
# Unread bytes

A buffer is a list of bytes that knows its length, so that a declared length can be held against
what is left without counting it again.
-/

namespace ChainIndex.Wire

/-- The bytes that are still to be read, and how many they are. -/
structure Buffer where
  bytes : List UInt8
  size : Nat
  size_eq : bytes.length = size

namespace Buffer

def ofList (bytes : List UInt8) : Buffer :=
  ⟨bytes, bytes.length, rfl⟩

@[simp] theorem bytes_ofList (bytes : List UInt8) : (ofList bytes).bytes = bytes := rfl

@[simp] theorem size_ofList (bytes : List UInt8) : (ofList bytes).size = bytes.length := rfl

@[ext] theorem ext {a b : Buffer} (h : a.bytes = b.bytes) : a = b := by
  obtain ⟨as, n, ha⟩ := a
  obtain ⟨bs, m, hb⟩ := b
  subst ha hb
  cases h
  rfl

/-- The first byte and the rest. -/
def next? : Buffer → Option (UInt8 × Buffer)
  | ⟨[], _, _⟩ => none
  | ⟨b :: rest, size, h⟩ => some (b, ⟨rest, size - 1, by simp at h; omega⟩)

/-- The first `n` bytes and the rest, if there are as many. -/
def take? (n : Nat) (b : Buffer) : Option (List UInt8 × Buffer) :=
  if n ≤ b.size then
    some (b.bytes.take n, ⟨b.bytes.drop n, b.size - n, by rw [List.length_drop, b.size_eq]⟩)
  else
    none

theorem next?_cons (x : UInt8) (rest : List UInt8) :
    (ofList (x :: rest)).next? = some (x, ofList rest) := by
  simp [ofList, next?]

theorem take?_append (front rest : List UInt8) :
    (ofList (front ++ rest)).take? front.length = some (front, ofList rest) := by
  unfold take?
  rw [if_pos (by simp)]
  simp only [bytes_ofList, List.take_left, Option.some.injEq, Prod.mk.injEq, true_and]
  ext1
  simp

end Buffer

end ChainIndex.Wire
