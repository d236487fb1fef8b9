import ChainIndex.Proofs.Address.Numbers
import ChainIndex.Proofs.Bytes.Checksum

/-!
# Words stand for accounts

Twenty bytes are thirty-two groups of five bits. The word of an account is `g1`, a letter for each of them, and six
letters more that make it verify. Letters are read in one way only, and the groups hold the bits of the bytes, so the
bytes come back from the word. No two accounts share a word, then, and no two get the same id in a space where
addresses do not share ids.

**Theorem (`encodeAddress_faithful`).** All this for every twenty bytes, and a refusal that tells the length for every
other number of bytes.
-/

namespace ChainIndex

namespace Bech32

/-- A word under `g1` that carries these bytes: thirty-two symbols of data, and a checksum over them. -/
structure Carries (word : String) (raw : List UInt8) (letters : List Char) (symbols : List Nat) : Prop where
  word_eq : word = "g1" ++ String.ofList letters
  length : letters.length = 38
  reads : Reads letters symbols
  verifies : Verifies "g" symbols
  data : ungroup (symbols.take 32) = raw

variable {word : String} {raw raw' : List UInt8} {letters letters' : List Char} {symbols symbols' : List Nat}

theorem Carries.length_word (h : Carries word raw letters symbols) : word.length = 40 := by
  have long : (String.ofList letters).length = 38 := by rw [String.length_ofList, h.length]
  rw [h.word_eq, String.length_append, long]
  rfl

/-- A word carries one byte string at most. -/
theorem Carries.unique (h : Carries word raw letters symbols) (h' : Carries word raw' letters' symbols') :
    raw = raw' := by
  have same : "g1".toList ++ letters = "g1".toList ++ letters' := by
    simpa using congrArg String.toList (h.word_eq.symm.trans h'.word_eq)
  obtain rfl := List.append_cancel_left same
  rw [← h.data, h.reads.unique h'.reads, h'.data]

/-- What is written for twenty bytes carries them. -/
theorem exists_encode (account : raw.length = addressLength) :
    ∃ word letters symbols, encode "g" raw = .ok word ∧ Carries word raw letters symbols := by
  have whole : 8 * raw.length = 5 * 32 := by rw [account, addressLength]
  let symbols := groups raw ++ checksum "g" (groups raw)
  have groups_length : (groups raw).length = 32 := length_groups whole
  have length : symbols.length = 38 := by rw [List.length_append, groups_length, length_checksum]
  have small : ∀ s ∈ symbols, s < 32 := fun s member =>
    (List.mem_append.1 member).elim lt_of_mem_groups lt_of_mem_checksum
  have short : ¬maxLength < "g".length + 1 + (groups raw).length + 6 := by
    rw [groups_length]
    decide
  refine ⟨_, symbols.map letter, symbols, if_neg short, ?_, ?_, reads_letters small, verifies_checksum "g" _, ?_⟩
  · rw [← String.ofList_toList (s := "g1"), ← String.ofList_append]
    rfl
  · rw [List.length_map, length]
  · rw [← groups_length, List.take_left, ungroup_groups whole]

end Bech32

open Bech32

variable {raw raw' : List UInt8} {field field' word : String}

theorem exists_encodeAddress (account : raw.length = addressLength) :
    ∃ word letters symbols, (∀ field, encodeAddress field raw = .ok word) ∧ Carries word raw letters symbols := by
  obtain ⟨word, letters, symbols, written, carries⟩ := exists_encode account
  refine ⟨word, letters, symbols, fun field => ?_, carries⟩
  rw [encodeAddress, if_neg (not_not_intro account), written]

/-- Only accounts have words, so a word tells whose it is. -/
theorem exists_carries (h : encodeAddress field raw = .ok word) :
    ∃ letters symbols, Carries word raw letters symbols := by
  by_cases account : raw.length = addressLength
  · obtain ⟨word', letters, symbols, written, carries⟩ := exists_encodeAddress account
    obtain rfl := Except.ok.inj ((written field).symm.trans h)
    exact ⟨letters, symbols, carries⟩
  · rw [encodeAddress, if_pos account] at h
    cases h

/-- No two accounts share a word, whatever fields they stand in. -/
theorem eq_of_encodeAddress (h : encodeAddress field raw = .ok word) (h' : encodeAddress field' raw' = .ok word) :
    raw = raw' := by
  obtain ⟨letters, symbols, carries⟩ := exists_carries h
  obtain ⟨letters', symbols', carries'⟩ := exists_carries h'
  exact carries.unique carries'

/-- The word of an account is faithful: it has forty characters and verifies, and its data are the bytes. So accounts
that share a word, or the id of their words, are the same. Bytes that are no account are refused with their number. -/
theorem encodeAddress_faithful (raw : List UInt8) :
    (raw.length = 20 → ∃ word letters symbols, (∀ field, encodeAddress field raw = .ok word) ∧
        Carries word raw letters symbols ∧ word.length = 40) ∧
      (∀ raw' field field' word, encodeAddress field raw = .ok word → encodeAddress field' raw' = .ok word →
        raw = raw') ∧
      (∀ (ids : AddressIds) raw' field field' word word' id, ValidIds ids → encodeAddress field raw = .ok word →
        encodeAddress field' raw' = .ok word' → ids[word]? = some id → ids[word']? = some id → raw = raw') ∧
      (raw.length ≠ 20 → ∀ field, encodeAddress field raw = .error (.invalidAddress field raw.length)) := by
  refine ⟨fun account => ?_, fun _ _ _ _ => eq_of_encodeAddress, ?_, fun short field => if_pos short⟩
  · obtain ⟨word, letters, symbols, written, carries⟩ := exists_encodeAddress account
    exact ⟨word, letters, symbols, written, carries, carries.length_word⟩
  · intro ids raw' field field' word word' id valid written written' found found'
    obtain rfl := valid.injective found found'
    exact eq_of_encodeAddress written written'

/-- The account of twenty ones, which no other account shares its word with, and nineteen bytes that are no account. -/
theorem encodeAddress_faithful_ones :
    encodeAddress "caller" (List.replicate 20 1) = .ok "g1qyqszqgpqyqszqgpqyqszqgpqyqszqgpp0aavc" ∧
      (∃ letters symbols, Carries "g1qyqszqgpqyqszqgpqyqszqgpqyqszqgpp0aavc" (List.replicate 20 1) letters symbols) ∧
      (∀ field, encodeAddress field (List.replicate 20 2) ≠ .ok "g1qyqszqgpqyqszqgpqyqszqgpqyqszqgpp0aavc") ∧
      encodeAddress "caller" (List.replicate 19 1) = .error (.invalidAddress "caller" 19) := by
  have written : encodeAddress "caller" (List.replicate 20 1) = .ok "g1qyqszqgpqyqszqgpqyqszqgpqyqszqgpp0aavc" := by
    decide +kernel
  obtain ⟨exists_word, alone, -⟩ := encodeAddress_faithful (List.replicate 20 1)
  obtain ⟨word, letters, symbols, told, carries, -⟩ := exists_word (by decide)
  obtain rfl := Except.ok.inj ((told "caller").symm.trans written)
  refine ⟨written, ⟨letters, symbols, carries⟩, fun field shared => ?_, ?_⟩
  · exact absurd (alone _ _ _ _ written shared) (by decide)
  · exact (encodeAddress_faithful (List.replicate 19 1)).2.2.2 (by decide) _

end ChainIndex
