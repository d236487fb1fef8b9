import ChainIndex.Envelope.Address

/-!
# Account addresses can be written

Twenty bytes are thirty-two groups of five bits, so an account's word is far shorter than the longest that the
checksum is meant for: `encodeAddress` refuses nothing but a wrong number of bytes.
-/

namespace ChainIndex

namespace Bech32

theorem length_bitsOf (width n : Nat) : (bitsOf width n).length = width := by
  induction width with
  | zero => rfl
  | succ width ih => simp [bitsOf, ih]

theorem length_quintets {bits : List Bool} {count : Nat} (whole : bits.length = 5 * count) :
    (quintets bits).length = count := by
  fun_induction quintets bits generalizing count with
  | case1 a b c d e rest ih =>
    simp only [List.length_cons] at whole ⊢
    rw [ih (show rest.length = 5 * (count - 1) by omega)]
    omega
  | case2 => simp only [List.length_nil] at whole ⊢; omega
  | case3 bits more some =>
    -- one to four bits left over are no whole number of groups
    match bits, more, some, whole with
    | [_], _, _, whole => simp at whole; omega
    | [_, _], _, _, whole => simp at whole; omega
    | [_, _, _], _, _, whole => simp at whole; omega
    | [_, _, _, _], _, _, whole => simp at whole; omega
    | a :: b :: c :: d :: e :: rest, more, _, _ => exact absurd rfl (more a b c d e rest)

theorem length_groups {data : List UInt8} {count : Nat} (whole : 8 * data.length = 5 * count) :
    (groups data).length = count := by
  refine length_quintets (Eq.trans ?_ whole)
  simp [List.length_flatMap, length_bitsOf, List.map_const', Nat.mul_comm]

end Bech32

theorem encodeAddress_ok {raw : List UInt8} (account : raw.length = addressLength) :
    ∃ word, ∀ field, encodeAddress field raw = .ok word := by
  have groups : (Bech32.groups raw).length = 32 := by
    refine Bech32.length_groups ?_
    rw [account, addressLength]
  have short : ¬Bech32.maxLength < "g".length + 1 + (Bech32.groups raw).length + 6 := by
    rw [groups]
    decide
  obtain ⟨word, written⟩ : ∃ word, Bech32.encode "g" raw = .ok word := by
    rw [Bech32.encode]
    exact ⟨_, if_neg short⟩
  refine ⟨word, fun field => ?_⟩
  rw [encodeAddress, if_neg (not_not_intro account), written]

end ChainIndex
