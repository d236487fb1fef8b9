import ChainIndex.Proofs.Bytes.Base64
import ChainIndex.Proofs.Envelope.Decoded
import Mathlib.Data.List.TakeWhile

/-!
# One spelling for an envelope, one key for a transaction

A text `Spells` an envelope if it is the base64 of its bytes with nothing but white space around it. No sign of
base64 is white space, so trimming such a text gives the base64 back (`trim_of_spells`), and the reader takes
nothing but that (`envelopeOfText_eq_ok`).

Two functions start from the text of an envelope: one decodes it, the other computes the key that a block lists
the transaction under. **`spelling_exact`** says what both do with every text. They turn down the same texts at
the same sign; on all others they agree on the bytes, and the text without its white space is the one spelling of
these. So the key that a transaction is asked for by is the key that it is filed under.
-/

namespace ChainIndex

namespace Text

variable {drop : Char → Bool} {before after cs : List Char}

theorem dropWhile_eq_self (kept : ∀ c ∈ cs, drop c = false) : cs.dropWhile drop = cs := by
  cases cs with
  | nil => rfl
  | cons c cs => rw [List.dropWhile_cons_of_neg (by simp [kept c List.mem_cons_self])]

theorem trimWhile_append (dropped : ∀ c ∈ before, drop c = true) (kept : ∀ c ∈ cs, drop c = false)
    (dropped' : ∀ c ∈ after, drop c = true) : trimWhile drop (before ++ cs ++ after) = cs := by
  have last : (after.reverse ++ cs.reverse).dropWhile drop = cs.reverse := by
    rw [List.dropWhile_append_of_pos (by simpa using dropped'), dropWhile_eq_self (by simpa using kept)]
  rw [trimWhile, List.append_assoc, List.dropWhile_append_of_pos dropped]
  by_cases nothing : cs = []
  · subst nothing
    have gone : after.dropWhile drop = [] := by simpa [List.dropWhile_eq_nil_iff] using dropped'
    rw [List.nil_append, gone]
    rfl
  · obtain ⟨c, more, rfl⟩ := List.exists_cons_of_ne_nil nothing
    have first : (c :: more ++ after).dropWhile drop = c :: more ++ after := by
      rw [List.cons_append, List.dropWhile_cons_of_neg (by simp [kept c List.mem_cons_self])]
    rw [first, List.reverse_append, last, List.reverse_reverse]

theorem exists_trimWhile (drop : Char → Bool) (cs : List Char) :
    ∃ before after, cs = before ++ trimWhile drop cs ++ after ∧ (∀ c ∈ before, drop c = true) ∧
      ∀ c ∈ after, drop c = true := by
  refine ⟨cs.takeWhile drop, ((cs.dropWhile drop).reverse.takeWhile drop).reverse, ?_, ?_, ?_⟩
  · rw [trimWhile, List.append_assoc, ← List.reverse_append, List.takeWhile_append_dropWhile, List.reverse_reverse,
      List.takeWhile_append_dropWhile]
  · exact fun c member => List.mem_takeWhile_imp member
  · exact fun c member => List.mem_takeWhile_imp (List.mem_reverse.1 member)

end Text

/-! ## Texts of an envelope -/

/-- A text with nothing but white space in it. -/
def Text.Blank (s : String) : Prop :=
  ∀ c ∈ s.toList, Text.isBlank c = true

instance (s : String) : Decidable (Text.Blank s) :=
  List.decidableBAll (fun c => Text.isBlank c = true) s.toList

/-- A text is the base64 of some bytes, with white space around it. -/
def Spells (text : String) (bytes : List UInt8) : Prop :=
  ∃ before after, Text.Blank before ∧ Text.Blank after ∧ text = before ++ Base64.encodeText bytes ++ after

variable {text : String} {bytes : List UInt8}

theorem isBlank_encodeText : ∀ c ∈ (Base64.encodeText bytes).toList, Text.isBlank c = false := by
  have signs : ∀ b ∈ Base64.encode bytes, Text.isBlank (Char.ofNat b.toNat) = false :=
    Base64.forall_mem_encode (by decide) (by decide)
  simpa [Base64.encodeText] using signs

theorem trim_of_spells (h : Spells text bytes) : Text.trim text = Base64.encodeText bytes := by
  obtain ⟨before, after, blank, blank', rfl⟩ := h
  rw [Text.trim, String.toList_append, String.toList_append, Text.trimWhile_append blank isBlank_encodeText blank',
    String.ofList_toList]

theorem spells_of_trim (h : Text.trim text = Base64.encodeText bytes) : Spells text bytes := by
  obtain ⟨before, after, parts, blank, blank'⟩ := Text.exists_trimWhile Text.isBlank text.toList
  refine ⟨String.ofList before, String.ofList after, by simpa [Text.Blank] using blank,
    by simpa [Text.Blank] using blank', ?_⟩
  rw [← h, Text.trim, ← String.ofList_append, ← String.ofList_append, ← parts, String.ofList_toList]

/-- The reader takes the spelling of some bytes, and nothing else, for these bytes. -/
theorem envelopeOfText_eq_ok : envelopeOfText text = .ok bytes ↔ Spells text bytes := by
  have read : envelopeOfText text = .ok bytes ↔ Base64.decodeText (Text.trim text) = .ok bytes := by
    rw [envelopeOfText]
    cases Base64.decodeText (Text.trim text) <;> simp
  rw [read, Base64.decodeText_eq_ok]
  exact ⟨spells_of_trim, trim_of_spells⟩

/-! ## What is done with a text -/

theorem decodeTransactionText_of_spells (h : Spells text bytes) :
    decodeTransactionText text = decodeTransaction bytes := by
  rw [decodeTransactionText, envelopeOfText_eq_ok.2 h]
  rfl

theorem transactionHashOfText_of_spells (h : Spells text bytes) :
    transactionHashOfText text = .ok (transactionHash bytes) := by
  rw [transactionHashOfText, envelopeOfText_eq_ok.2 h]
  rfl

/-- A text that spells nothing is turned down by both readers, and for the same reason. -/
theorem invalidBase64_or_spells (text : String) :
    (∃ fault, decodeTransactionText text = .error (.invalidBase64 fault) ∧
        transactionHashOfText text = .error (.invalidBase64 fault)) ∨
      ∃ bytes, Spells text bytes := by
  rw [decodeTransactionText, transactionHashOfText]
  cases read : envelopeOfText text with
  | ok bytes => exact .inr ⟨bytes, envelopeOfText_eq_ok.1 read⟩
  | error e =>
    rw [envelopeOfText] at read
    cases decoded : Base64.decodeText (Text.trim text) with
    | ok bytes =>
      rw [decoded] at read
      cases read
    | error fault =>
      rw [decoded] at read
      obtain rfl := Except.error.inj read
      exact .inl ⟨fault, rfl, rfl⟩

/-- Every spelling of an envelope is read as that envelope, whatever white space stands around it; what is read at
all is such a spelling, the same one for the same bytes; and a transaction is filed under the key that the text it
came from is listed by. -/
theorem spelling_exact :
    (∀ (before after : String) (bytes : List UInt8), Text.Blank before → Text.Blank after →
        decodeTransactionText (before ++ Base64.encodeText bytes ++ after) = decodeTransaction bytes ∧
          transactionHashOfText (before ++ Base64.encodeText bytes ++ after) = .ok (transactionHash bytes)) ∧
      (∀ text : String,
        (∃ fault, decodeTransactionText text = .error (.invalidBase64 fault) ∧
            transactionHashOfText text = .error (.invalidBase64 fault)) ∨
          ∃ bytes, envelopeOfText text = .ok bytes ∧ Text.trim text = Base64.encodeText bytes ∧
            decodeTransactionText text = decodeTransaction bytes ∧
              transactionHashOfText text = .ok (transactionHash bytes)) ∧
      (∀ (text other : String) (bytes : List UInt8), envelopeOfText text = .ok bytes →
        envelopeOfText other = .ok bytes → Text.trim text = Text.trim other) ∧
      ∀ (text : String) (t : Transaction), decodeTransactionText text = .ok t →
        transactionHashOfText text = .ok t.hash := by
  refine ⟨fun before after bytes blank blank' => ?_, fun text => ?_, fun text other bytes read read' => ?_,
    fun text t decoded => ?_⟩
  · have spelt : Spells (before ++ Base64.encodeText bytes ++ after) bytes := ⟨before, after, blank, blank', rfl⟩
    exact ⟨decodeTransactionText_of_spells spelt, transactionHashOfText_of_spells spelt⟩
  · rcases invalidBase64_or_spells text with refused | ⟨bytes, spelt⟩
    · exact .inl refused
    · exact .inr ⟨bytes, envelopeOfText_eq_ok.2 spelt, trim_of_spells spelt, decodeTransactionText_of_spells spelt,
        transactionHashOfText_of_spells spelt⟩
  · rw [trim_of_spells (envelopeOfText_eq_ok.1 read), trim_of_spells (envelopeOfText_eq_ok.1 read')]
  · exact (decoded_of_decodeTransactionText decoded).1

/-- The envelope that holds nothing but the memo `a`, on a line of its own. -/
theorem spelling_exact_memo :
    Text.Blank " " ∧ Text.Blank "\n" ∧ envelopeOfText "IgFh" = .ok [34, 1, 97] ∧
      envelopeOfText " IgFh\n" = .ok [34, 1, 97] ∧ Text.trim "IgFh" = Text.trim " IgFh\n" ∧
      ∃ t, decodeTransactionText (" " ++ Base64.encodeText [34, 1, 97] ++ "\n") = .ok t ∧ t.memo = "a" ∧
        transactionHashOfText (" " ++ Base64.encodeText [34, 1, 97] ++ "\n") = .ok t.hash := by
  have space : Text.Blank " " := by decide +kernel
  have line : Text.Blank "\n" := by decide +kernel
  have bare : envelopeOfText "IgFh" = .ok [34, 1, 97] := by decide +kernel
  have wrapped : envelopeOfText " IgFh\n" = .ok [34, 1, 97] := by decide +kernel
  obtain ⟨spelt, -, same, key⟩ := spelling_exact
  have memo : (decodeTransaction [34, 1, 97]).map (·.memo) = .ok "a" := by decide +kernel
  have read := (spelt " " "\n" [34, 1, 97] space line).1
  cases decoded : decodeTransaction [34, 1, 97] with
  | error e =>
    rw [decoded] at memo
    cases memo
  | ok t =>
    rw [decoded] at read memo
    exact ⟨space, line, bare, wrapped, same _ _ _ bare wrapped, t, read, Except.ok.inj memo, key _ t read⟩

end ChainIndex
