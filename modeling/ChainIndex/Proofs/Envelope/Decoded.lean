import ChainIndex.Proofs.Address.Learning
import ChainIndex.Rows.Build
import Mathlib.Data.List.Nodup

/-!
# Decoded envelopes

What every transaction has in common that came out of the decoder: it is filed under the digest of its
envelope, its messages are numbered from zero, so that no two have the same number, and its signers are
those of its messages.
-/

namespace ChainIndex

open Raw

/-- A transaction as the decoder gives it. -/
structure Transaction.Decoded (t : Transaction) : Prop where
  length_le : t.messages.length ≤ maxMessages
  counters : t.messages.map (·.counter) = (List.range t.messages.length).map Int16.ofNat
  signers : t.signers = firstOccurrences (t.messages.map (·.message.signer))

theorem Raw.counters_of_interpretFrom {count : Nat} {done : Array NumberedMessage} {index : Nat} {as : List Any}
    {out : List NumberedMessage} (h : interpretFrom count done index as = .ok out) :
    ∃ later, out = done.toList ++ later ∧ later.length = as.length ∧
      later.map (·.counter) = (List.range' index as.length).map Int16.ofNat := by
  induction as generalizing done index with
  | nil =>
    obtain rfl : done.toList = out := Except.ok.inj h
    exact ⟨[], by simp⟩
  | cons a as ih =>
    rw [interpretFrom] at h
    split at h
    · cases h
    · split at h
      · cases h
      · next message _ =>
        obtain ⟨later, rfl, length, counters⟩ := ih h
        exact ⟨⟨Int16.ofNat index, message⟩ :: later, by simp, by simp [length], by simp [counters, List.range'_succ]⟩

theorem Raw.decoded_of_interpret {hash : String} {raw : Tx} {t : Transaction} (h : raw.interpret hash = .ok t) :
    t.hash = hash ∧ t.Decoded := by
  unfold Tx.interpret at h
  by_cases many : maxMessages < raw.messages.size
  · simp only [many, if_true] at h
    cases h
  · simp only [many, if_false] at h
    cases interpreted : interpretFrom raw.messages.size #[] 0 raw.messages.toList with
    | error e =>
      rw [interpreted] at h
      cases h
    | ok messages =>
      rw [interpreted] at h
      obtain rfl := Except.ok.inj h
      obtain ⟨later, same, length, counters⟩ := counters_of_interpretFrom interpreted
      obtain rfl : messages = later := by simpa using same
      refine ⟨rfl, ?_, ?_, rfl⟩
      · simp only [length, Array.length_toList]
        omega
      · rw [counters, length, List.range_eq_range']

theorem decoded_of_decodeTransaction {envelope : List UInt8} {t : Transaction}
    (h : decodeTransaction envelope = .ok t) : t.hash = transactionHash envelope ∧ t.Decoded := by
  unfold decodeTransaction at h
  split at h
  · cases h
  · exact decoded_of_interpret h

/-- A transaction is filed under the digest of the envelope that it was decoded from. -/
theorem decoded_of_decodeTransactionText {text : String} {t : Transaction} (h : decodeTransactionText text = .ok t) :
    transactionHashOfText text = .ok t.hash ∧ t.Decoded := by
  unfold decodeTransactionText at h
  unfold transactionHashOfText
  cases read : envelopeOfText text with
  | error e =>
    rw [read] at h
    cases h
  | ok envelope =>
    rw [read] at h
    obtain ⟨hash, decoded⟩ := decoded_of_decodeTransaction h
    exact ⟨congrArg Except.ok hash.symm, decoded⟩

namespace Transaction.Decoded

variable {t : Transaction}

/-- No number is cut off. -/
theorem toInt_counters (h : t.Decoded) :
    t.messages.map (·.counter.toInt) = (List.range t.messages.length).map Int.ofNat := by
  have bound := h.length_le
  have numbers := congrArg (List.map Int16.toInt) h.counters
  rw [List.map_map, List.map_map] at numbers
  refine numbers.trans (List.map_congr_left fun i inside => ?_)
  rw [List.mem_range] at inside
  exact Int16.toInt_ofNat_of_lt (by simp only [maxMessages] at bound; omega)

/-- Numbers tell the messages apart. -/
theorem nodup_counters (h : t.Decoded) : (t.messages.map (·.counter)).Nodup := by
  rw [h.counters]
  refine List.Nodup.map_on (fun i hi j hj same => ?_) List.nodup_range
  have bound := h.length_le
  rw [List.mem_range] at hi hj
  have := congrArg Int16.toInt same
  rw [Int16.toInt_ofNat_of_lt (by simp only [maxMessages] at bound; omega),
    Int16.toInt_ofNat_of_lt (by simp only [maxMessages] at bound; omega)] at this
  omega

theorem eq_of_counter (h : t.Decoded) {m n : NumberedMessage} (hm : m ∈ t.messages) (hn : n ∈ t.messages)
    (same : m.counter = n.counter) : m = n :=
  List.inj_on_of_nodup_map h.nodup_counters hm hn same

/-- Who signs is named by a message. -/
theorem exists_of_mem_signers (h : t.Decoded) {a : String} (member : a ∈ t.signers) :
    ∃ m ∈ t.messages, a ∈ m.message.addresses := by
  rw [h.signers, mem_firstOccurrences] at member
  obtain ⟨m, present, rfl⟩ := List.mem_map.1 member
  exact ⟨m, present, m.message.signer_mem_addresses⟩

end Transaction.Decoded

/-- Who signs a decoded transaction is among the accounts that its messages name. -/
theorem Transaction.Decoded.signers_subset {d : DecodedExecution} (h : d.envelope.Decoded) {a : String}
    (member : a ∈ d.envelope.signers) : a ∈ d.addresses := by
  obtain ⟨m, present, named⟩ := h.exists_of_mem_signers member
  exact List.mem_flatMap.2 ⟨m, present, named⟩

end ChainIndex
