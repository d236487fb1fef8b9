import ChainIndex.Json.Value
import ChainIndex.Proofs.Bytes.Base64
import ChainIndex.Proofs.Json.Reading

/-!
# Texts as they are quoted

A character stands in a string as it is, or as an escape of one letter, or as the code of a control character
(`Escape`). However it stands there, it ends the string neither where it should go on nor otherwise, and it stands for
itself. So a quoted text is read as a string that stands for the text (`denotes_quote`), and no line ends in it
(`newline_not_mem_rawOf`).
-/

namespace ChainIndex.Json

/-- The byte stands for nothing but itself in a string. -/
def IsPlain (b : UInt8) : Prop := ¬b < 32 ∧ b ≠ 34 ∧ b ≠ 92

/-- How a character may stand in a string. -/
inductive Escape : Char → List UInt8 → Prop
  | letter {c : Char} {e : UInt8} (known : e ∈ [34, 92, 98, 102, 110, 114, 116])
      (means : String.utf8EncodeChar c = [escaped e]) : Escape c [92, e]
  | code {c : Char} {e f g h : UInt8} (hex : isHex e ∧ isHex f ∧ isHex g ∧ isHex h)
      (low : hexWord e f g h < 0xD800) (means : utf8 (hexWord e f g h) = String.utf8EncodeChar c) :
      Escape c [92, 117, e, f, g, h]
  | plain {c : Char} (bytes : ∀ b ∈ String.utf8EncodeChar c, IsPlain b) : Escape c (String.utf8EncodeChar c)

theorem isPlain_of_le {n : Nat} (high : 128 ≤ n) (fits : n < 256) : IsPlain (UInt8.ofNat n) := by
  have same : (UInt8.ofNat n).toNat = n := UInt8.toNat_ofNat_of_lt' fits
  refine ⟨?_, ?_, ?_⟩
  · rw [UInt8.lt_iff_toNat_lt, same]
    exact Nat.not_lt.2 (Nat.le_trans (by decide) high)
  all_goals
    intro equal
    rw [equal] at same
    subst same
    exact absurd high (by decide)

/-- The bytes of a character that need not be escaped are plain. -/
theorem isPlain_of_mem {c : Char} (visible : 32 ≤ c.toNat) (unquoted : c.toNat ≠ 34) (straight : c.toNat ≠ 92) :
    ∀ b ∈ String.utf8EncodeChar c, IsPlain b := by
  change 32 ≤ c.val.toNat at visible
  change c.val.toNat ≠ 34 at unquoted
  change c.val.toNat ≠ 92 at straight
  rw [String.utf8EncodeChar]
  generalize c.val.toNat = n at visible unquoted straight
  split
  · next short =>
    intro b member
    obtain rfl := List.mem_singleton.1 member
    have same : (UInt8.ofNat n).toNat = n := UInt8.toNat_ofNat_of_lt' (Nat.lt_of_le_of_lt short (by decide))
    refine ⟨?_, ?_, ?_⟩
    · rw [UInt8.lt_iff_toNat_lt, same]
      exact Nat.not_lt.2 visible
    · exact fun equal => unquoted (same.symm.trans (congrArg UInt8.toNat equal))
    · exact fun equal => straight (same.symm.trans (congrArg UInt8.toNat equal))
  -- The bytes of a longer character have their highest bit set.
  · repeat' split
    all_goals
      simp (disch := omega) only [List.forall_mem_cons, isPlain_of_le, List.not_mem_nil, false_implies, implies_true,
        and_self]

theorem utf8_toNat (c : Char) : utf8 c.toNat = String.utf8EncodeChar c := by
  rw [utf8, Char.ofNat_toNat, Base64.toList_toUTF8]
  simp

/-- The code of a control character is written with two digits that count. -/
theorem code_of_lt : ∀ n : Fin 32, ∃ g h : UInt8,
    bytesOf [lowHex (n / 16), lowHex (n % 16)] = [g, h] ∧ isHex g ∧ isHex h ∧ hexWord 48 48 g h = n := by
  intro n
  refine ⟨(lowHex (n / 16)).toNat.toUInt8, (lowHex (n % 16)).toNat.toUInt8, ?_⟩
  revert n
  decide

theorem escape_escape (c : Char) : Escape c (bytesOf (escape c)) := by
  rw [escape.eq_def]
  split
  · next code =>
    obtain rfl : c = '"' := Char.toNat_inj.1 code
    exact .letter (e := 34) (by decide) (by decide)
  · next code =>
    obtain rfl : c = '\\' := Char.toNat_inj.1 code
    exact .letter (e := 92) (by decide) (by decide)
  · next code =>
    obtain rfl : c = '\x08' := Char.toNat_inj.1 code
    exact .letter (e := 98) (by decide) (by decide)
  · next code =>
    obtain rfl : c = '\x0c' := Char.toNat_inj.1 code
    exact .letter (e := 102) (by decide) (by decide)
  · next code =>
    obtain rfl : c = '\n' := Char.toNat_inj.1 code
    exact .letter (e := 110) (by decide) (by decide)
  · next code =>
    obtain rfl : c = '\r' := Char.toNat_inj.1 code
    exact .letter (e := 114) (by decide) (by decide)
  · next code =>
    obtain rfl : c = '\t' := Char.toNat_inj.1 code
    exact .letter (e := 116) (by decide) (by decide)
  · next unquoted straight _ _ _ _ _ =>
    by_cases control : c.toNat < 32
    · obtain ⟨g, h, digits, hex, hex', same⟩ := code_of_lt ⟨c.toNat, control⟩
      have low : hexWord 48 48 g h < 0xD800 := by
        rw [same]
        exact Nat.lt_trans control (by decide)
      have spelt : bytesOf ['\\', 'u', '0', '0', lowHex (c.toNat / 16), lowHex (c.toNat % 16)] =
          [92, 117, 48, 48, g, h] := congrArg ([92, 117, 48, 48] ++ ·) digits
      rw [if_pos control, spelt]
      exact .code ⟨rfl, rfl, hex, hex'⟩ low (by rw [same]; exact utf8_toNat c)
    · have own : bytesOf [c] = String.utf8EncodeChar c := List.flatMap_singleton _ _
      rw [if_neg control, own]
      exact .plain (isPlain_of_mem (Nat.le_of_not_lt control) unquoted straight)

/-! ## What is between the quotes -/

variable {c : Char} {raw bytes rest : List UInt8}

theorem stringOnto_plain {b : UInt8} (plain : IsPlain b) (done : List UInt8) :
    stringOnto done (b :: rest) = stringOnto (b :: done) rest := by
  obtain ⟨visible, unquoted, straight⟩ := plain
  rw [stringOnto.eq_def]
  split
  · next same => exact absurd (List.cons.inj same).1 unquoted
  · next same => exact absurd (List.cons.inj same).1 straight
  · next same => exact absurd (List.cons.inj same).1 straight
  · next same =>
    obtain ⟨rfl, rfl⟩ := List.cons.inj same
    rw [if_neg (not_or.2 ⟨visible, straight⟩)]
  · next same => cases same

theorem stringOnto_append (plain : ∀ b ∈ bytes, IsPlain b) (done : List UInt8) :
    stringOnto done (bytes ++ rest) = stringOnto (bytes.reverse ++ done) rest := by
  induction bytes generalizing done with
  | nil => rfl
  | cons b bytes ih =>
    obtain ⟨first, plain⟩ := List.forall_mem_cons.1 plain
    rw [List.cons_append, stringOnto_plain first, ih plain, List.reverse_cons, List.append_assoc]
    rfl

/-- However a character stands in a string, the string goes on behind it. -/
theorem Escape.stringOnto (h : Escape c raw) (done : List UInt8) :
    stringOnto done (raw ++ rest) = stringOnto (raw.reverse ++ done) rest := by
  cases h with
  | letter known means =>
    simp only [List.mem_cons, List.not_mem_nil, or_false] at known
    rcases known with rfl | rfl | rfl | rfl | rfl | rfl | rfl <;> rfl
  | @code e f g h hex low means =>
    obtain ⟨he, hf, hg, hh⟩ := hex
    change Json.stringOnto done (92 :: 117 :: e :: f :: g :: h :: rest) = _
    rw [Json.stringOnto, he, hf, hg, hh]
    rfl
  | plain bytes => exact stringOnto_append bytes done

theorem unescapeOnto_plain {b : UInt8} (straight : b ≠ 92) (done : Array UInt8) :
    unescapeOnto done (b :: rest) = unescapeOnto (done.push b) rest := by
  rw [unescapeOnto.eq_def]
  split
  · next same => exact absurd (List.cons.inj same).1 straight
  · next same => exact absurd (List.cons.inj same).1 straight
  · next same => exact absurd (List.cons.inj same).1 straight
  · next same =>
    obtain ⟨rfl, rfl⟩ := List.cons.inj same
    rfl
  · next same => cases same

theorem unescapeOnto_append (plain : ∀ b ∈ bytes, IsPlain b) (done : Array UInt8) :
    unescapeOnto done (bytes ++ rest) = unescapeOnto (done ++ bytes.toArray) rest := by
  induction bytes generalizing done with
  | nil => simp
  | cons b bytes ih =>
    obtain ⟨first, plain⟩ := List.forall_mem_cons.1 plain
    rw [List.cons_append, unescapeOnto_plain first.2.2, ih plain]
    congr 1
    simp

theorem unescapeOnto_letter {e : UInt8} (known : e ≠ 117) (done : Array UInt8) :
    unescapeOnto done (92 :: e :: rest) = unescapeOnto (done.push (escaped e)) rest := by
  rw [unescapeOnto.eq_def]
  split
  · next same => exact absurd (List.cons.inj (List.cons.inj same).2).1 known
  · next same => exact absurd (List.cons.inj (List.cons.inj same).2).1 known
  · next same =>
    obtain ⟨rfl, rfl⟩ := List.cons.inj (List.cons.inj same).2
    rfl
  · next other same => exact (other e rest (List.cons.inj same).1.symm (List.cons.inj same).2.symm).elim
  · next same => cases same

/-- A code stands for its character, and it makes no pair with a code behind it. -/
theorem unescapeOnto_code {e f g h : UInt8} (low : hexWord e f g h < 0xD800) (done : Array UInt8) :
    unescapeOnto done (92 :: 117 :: e :: f :: g :: h :: rest) =
      unescapeOnto (done ++ (utf8 (hexWord e f g h)).toArray) rest := by
  have single : ¬(0xD800 ≤ hexWord e f g h ∧ hexWord e f g h < 0xE000) := fun high => by omega
  have first : ¬(0xD800 ≤ hexWord e f g h ∧ hexWord e f g h < 0xDC00) := fun high => by omega
  have second : ¬(0xDC00 ≤ hexWord e f g h ∧ hexWord e f g h < 0xE000) := fun high => by omega
  rw [unescapeOnto.eq_def]
  split
  · next same =>
    obtain ⟨-, -, rfl, rfl, rfl, rfl, rfl⟩ := by simpa only [List.cons.injEq] using same
    simp only [if_neg first, if_neg second]
  · next same =>
    obtain ⟨-, -, rfl, rfl, rfl, rfl, rfl⟩ := by simpa only [List.cons.injEq] using same
    simp only [if_neg single]
  · next other same =>
    obtain ⟨-, rfl, rfl⟩ := by simpa only [List.cons.injEq] using same
    exact (other e f g h rest rfl rfl).elim
  · next other same =>
    obtain ⟨rfl, rfl⟩ := List.cons.inj same
    exact (other 117 _ rfl rfl).elim
  · next same => cases same

/-- However a character stands in a string, it stands for itself. -/
theorem Escape.unescapeOnto (h : Escape c raw) (done : Array UInt8) :
    unescapeOnto done (raw ++ rest) = unescapeOnto (done ++ (String.utf8EncodeChar c).toArray) rest := by
  cases h with
  | @letter e known means =>
    have letter : e ≠ 117 := by
      rintro rfl
      exact absurd known (by decide)
    rw [means]
    rw [List.cons_append, List.singleton_append, unescapeOnto_letter letter, Array.push_eq_append]
  | code hex low means => exact means ▸ unescapeOnto_code low done
  | plain bytes => exact unescapeOnto_append bytes done

/-- No character stands in a string as the end of a line. -/
theorem Escape.newline_not_mem (h : Escape c raw) : 10 ∉ raw := by
  cases h with
  | letter known means =>
    simp only [List.mem_cons, List.not_mem_nil, or_false] at known
    rcases known with rfl | rfl | rfl | rfl | rfl | rfl | rfl <;> decide
  | @code e f g h hex low means =>
    obtain ⟨he, hf, hg, hh⟩ := hex
    intro member
    simp only [List.mem_cons, List.not_mem_nil, or_false] at member
    rcases member with same | same | rfl | rfl | rfl | rfl
    · cases same
    · cases same
    · cases he
    · cases hf
    · cases hg
    · cases hh
  | plain bytes => exact fun member => (bytes 10 member).1 (by decide)

/-! ## Texts -/

/-- The bytes that stand between the quotes around a text. -/
def rawOf (s : String) : List UInt8 := s.toList.flatMap fun c => bytesOf (escape c)

theorem stringOnto_escaped (cs : List Char) (done : List UInt8) :
    stringOnto done ((cs.flatMap fun c => bytesOf (escape c)) ++ rest) =
      stringOnto ((cs.flatMap fun c => bytesOf (escape c)).reverse ++ done) rest := by
  induction cs generalizing done with
  | nil => rfl
  | cons c cs ih =>
    rw [List.flatMap_cons, List.append_assoc, (escape_escape c).stringOnto, ih, List.reverse_append, List.append_assoc]

theorem unescapeOnto_escaped (cs : List Char) (done : Array UInt8) :
    unescapeOnto done (cs.flatMap fun c => bytesOf (escape c)) = some (done.toList ++ bytesOf cs) := by
  induction cs generalizing done with
  | nil => simp [bytesOf, unescapeOnto]
  | cons c cs ih =>
    rw [List.flatMap_cons, (escape_escape c).unescapeOnto, ih]
    simp [bytesOf]

theorem quotable_rawOf (s : String) : Quotable (rawOf s) := by
  intro done rest
  rw [rawOf, stringOnto_escaped, stringOnto, List.reverse_append, List.reverse_reverse]

/-- What stands between the quotes around a text stands for the text. -/
theorem textOf?_rawOf (s : String) : textOf? (rawOf s) = some s := by
  have bytes : bytesOf s.toList = s.toUTF8.toList := (Base64.toList_toUTF8 s).symm
  rw [textOf?, rawOf, unescapeOnto_escaped]
  simp only [List.nil_append, Option.bind_eq_bind, Option.bind_some, bytes]
  exact Wire.fromUTF8?_toUTF8 s

theorem bytesOf_quote (s : String) : bytesOf (quote s).toList = 34 :: (rawOf s ++ [34]) := by
  rw [quote, String.toList_ofList]
  simp only [bytesOf, List.cons_append, List.flatMap_cons, List.flatMap_append, List.flatMap_nil, List.flatMap_assoc]
  rfl

/-- **A quoted text is read as a string that stands for it.** -/
theorem denotes_quote (s : String) : Denotes (bytesOf (quote s).toList) (.str (rawOf s)) := by
  rw [bytesOf_quote]
  exact denotes_str (quotable_rawOf s)

/-- No line ends in a quoted text. -/
theorem newline_not_mem_rawOf (s : String) : 10 ∉ rawOf s := by
  intro member
  obtain ⟨c, -, inside⟩ := List.mem_flatMap.1 member
  exact (escape_escape c).newline_not_mem inside

end ChainIndex.Json
