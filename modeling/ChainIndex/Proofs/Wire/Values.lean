import ChainIndex.Wire.Reader
import ChainIndex.Wire.Writer
import Mathlib.Algebra.Group.Nat.Defs

/-!
# Values come back from the wire

What the writers put on the wire the readers take off again: numbers below 2⁶⁴, keys, signed numbers, byte
strings and texts. Every lemma has bytes after the value, and the reader stops in front of them, so that values
can be read one after the other.

A number takes at most ten bytes, and the tenth may only hold one bit. `varintWithin_write` therefore bounds
the number by the bytes that are left: with `budget` more bytes allowed after the first it is below
2 · 128 ^ `budget`.
-/

namespace ChainIndex.Wire

variable {rest : List UInt8}

/-! ## Numbers -/

theorem Writer.varint_of_lt {n : Nat} (h : n < 128) : Writer.varint n = [n.toUInt8] := by
  rw [Writer.varint, if_pos h]

theorem Writer.varint_of_ge {n : Nat} (h : 128 ≤ n) :
    Writer.varint n = (n % 128 + 128).toUInt8 :: Writer.varint (n / 128) := by
  rw [Writer.varint, if_neg (by omega)]

theorem Writer.varint_ne_nil (n : Nat) : Writer.varint n ≠ [] := by
  rw [Writer.varint]
  split <;> simp

theorem toNat_toUInt8 {n : Nat} (h : n < 256) : n.toUInt8.toNat = n := by
  rw [Nat.toUInt8, UInt8.toNat_ofNat']
  exact Nat.mod_eq_of_lt h

theorem varintWithin_write (budget : Nat) {n : Nat} (h : n < 2 * 128 ^ budget) :
    varintWithin (budget + 1) (.ofList (Writer.varint n ++ rest)) = some (n, .ofList rest) := by
  induction budget generalizing n with
  | zero =>
    have small : n < 2 := by simpa using h
    rw [Writer.varint_of_lt (by omega), List.singleton_append, varintWithin, Buffer.next?_cons]
    simp only [toNat_toUInt8 (show n < 256 by omega)]
    rw [if_pos (by omega), if_neg (by omega)]
  | succ budget ih =>
    by_cases last : n < 128
    · rw [Writer.varint_of_lt last, List.singleton_append, varintWithin, Buffer.next?_cons]
      simp only [toNat_toUInt8 (show n < 256 by omega)]
      rw [if_pos last, if_neg (by omega)]
    · have later : n / 128 < 2 * 128 ^ budget := by
        rw [Nat.pow_succ] at h
        omega
      rw [Writer.varint_of_ge (by omega), List.cons_append, varintWithin, Buffer.next?_cons]
      simp only [toNat_toUInt8 (show n % 128 + 128 < 256 by omega), ih later]
      rw [if_neg (by omega)]
      have whole : n % 128 + 128 - 128 + 128 * (n / 128) = n := by omega
      rw [whole]

theorem varint_write {n : Nat} (h : n < 2 ^ 64) :
    varint (.ofList (Writer.varint n ++ rest)) = .ok (n, .ofList rest) := by
  rw [varint, varintWithin_write 9 (by omega)]

/-! ## Keys -/

theorem WireType.code_lt (wire : WireType) : wire.code < 8 := by
  cases wire <;> decide

/-- The fields that a key can name. -/
def IsTag (tag : Nat) : Prop :=
  0 < tag ∧ tag < 2 ^ 29

instance (tag : Nat) : Decidable (IsTag tag) :=
  inferInstanceAs (Decidable (_ ∧ _))

theorem key_write {tag : Nat} (named : IsTag tag) (wire : WireType) :
    key (.ofList (Writer.key tag wire ++ rest)) = .ok (⟨tag, wire⟩, .ofList rest) := by
  obtain ⟨positive, bound⟩ := named
  have code := wire.code_lt
  have layout : (tag * 8 + wire.code) % 8 = wire.code := by omega
  have number : (tag * 8 + wire.code) / 8 = tag := by omega
  have size : ¬UInt32.size ≤ tag * 8 + wire.code := by
    rw [UInt32.size]
    omega
  rw [key, Writer.key, varint_write (by omega)]
  simp only [bind, Except.bind, if_neg size, layout, number, WireType.ofCode?_code]
  rw [if_neg (by omega)]

/-! ## Values -/

theorem int64_write (n : Int64) :
    int64 .varint (.ofList (Writer.varint n.toUInt64.toNat ++ rest)) = .ok (n, .ofList rest) := by
  rw [int64, varint_write n.toUInt64.toNat_lt]
  simp [expect, bind, Except.bind]

theorem bytes_write {data : List UInt8} (short : data.length < 2 ^ 64) :
    bytes .delimited (.ofList (Writer.varint data.length ++ data ++ rest)) = .ok (data, .ofList rest) := by
  rw [bytes, List.append_assoc, varint_write short]
  simp [expect, bind, Except.bind, takeBytes, Buffer.take?_append]

theorem toList_loop (data : ByteArray) (i : Nat) (before : List UInt8) :
    ByteArray.toList.loop data i before = before.reverse ++ data.data.toList.drop i := by
  fun_induction ByteArray.toList.loop data i before with
  | case1 i before more ih =>
    have inside : i < data.data.toList.length := by simpa using more
    rw [ih, List.drop_eq_getElem_cons inside]
    simp [ByteArray.get!, more]
  | case2 i before more =>
    rw [List.drop_eq_nil_of_le (by simpa using Nat.le_of_not_lt more)]
    simp

theorem toList_byteArray (data : ByteArray) : data.toList = data.data.toList := by
  rw [ByteArray.toList, toList_loop]
  simp

theorem fromUTF8?_toUTF8 (s : String) : String.fromUTF8? ⟨s.toUTF8.toList.toArray⟩ = some s := by
  have same : (⟨s.toUTF8.toList.toArray⟩ : ByteArray) = s.toByteArray := by
    rw [toList_byteArray, Array.toArray_toList, String.toUTF8_eq_toByteArray]
  rw [same, String.fromUTF8?, dif_pos s.isValidUTF8]
  rfl

theorem text_write {s : String} (short : s.toUTF8.toList.length < 2 ^ 64) :
    text .delimited (.ofList (Writer.varint s.toUTF8.toList.length ++ s.toUTF8.toList ++ rest)) =
      .ok (s, .ofList rest) := by
  rw [text, bytes_write short]
  simp only [bind, Except.bind, fromUTF8?_toUTF8]

end ChainIndex.Wire
