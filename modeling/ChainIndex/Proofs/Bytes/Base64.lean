import ChainIndex.Bytes.Base64
import ChainIndex.Proofs.Wire.Values

/-!
# A byte string has one spelling

Up to three bytes are regrouped into values of six bits: `sixes` on the way out, `bytesOf` on the way in. Two
bytes leave two bits of their last value unused and one byte leaves four; `bytesOf` wants them clear, and with
that it undoes `sixes` and `sixes` undoes it. Nothing else about the bits is used below: a spelling is groups of
values, each written by its symbol, and the last group is filled up with the sign for padding.

The main result is **`decode_eq_ok`**: a text is read as some bytes exactly if it is what those bytes are written
as. That is both halves of the code, that the reader understands the writer and that it understands nobody else.
-/

namespace ChainIndex.Base64

/-! ## Symbols -/

theorem value?_symbol {v : Nat} (h : v < 64) : value? (symbol v) = some v := by
  have all : ∀ v : Fin 64, value? (symbol v) = some v.val := by decide
  exact all ⟨v, h⟩

theorem symbol_ne_pad {v : Nat} (h : v < 64) : symbol v ≠ pad := by
  intro same
  have read := value?_symbol h
  rw [same] at read
  cases read

theorem of_value?_eq_some {b : UInt8} {v : Nat} (h : value? b = some v) : v < 64 ∧ b = symbol v := by
  have all : ∀ n : Fin 256, ∀ w ∈ value? (UInt8.ofFin n), w < 64 ∧ UInt8.ofFin n = symbol w := by decide +kernel
  exact all b.toFin v h

theorem valuesFrom_symbols {offset : Nat} {values : List Nat} (small : ∀ v ∈ values, v < 64) :
    valuesFrom offset (values.map symbol) = .ok values := by
  induction values generalizing offset with
  | nil => rfl
  | cons v values ih =>
    obtain ⟨first, later⟩ := List.forall_mem_cons.1 small
    rw [List.map_cons, valuesFrom, valueAt, value?_symbol first, ih later]
    rfl

theorem of_valuesFrom_eq_ok {offset : Nat} {text : List UInt8} {values : List Nat}
    (h : valuesFrom offset text = .ok values) : (∀ v ∈ values, v < 64) ∧ text = values.map symbol := by
  induction text generalizing offset values with
  | nil =>
    obtain rfl : [] = values := Except.ok.inj h
    simp
  | cons b text ih =>
    rw [valuesFrom, valueAt] at h
    cases read : value? b with
    | none =>
      rw [read] at h
      cases h
    | some v =>
      rw [read] at h
      cases rest : valuesFrom (offset + 1) text with
      | error e =>
        rw [rest] at h
        cases h
      | ok later =>
        rw [rest] at h
        obtain rfl : v :: later = values := Except.ok.inj h
        obtain ⟨first, rfl⟩ := of_value?_eq_some read
        obtain ⟨small, rfl⟩ := ih rest
        exact ⟨List.forall_mem_cons.2 ⟨first, small⟩, rfl⟩

/-! ## Groups -/

/-- The values that a group of one, two or three bytes is written with. -/
def sixes : List UInt8 → List Nat
  | [a] => [a.toNat / 4, a.toNat % 4 * 16]
  | [a, b] => [a.toNat / 4, a.toNat % 4 * 16 + b.toNat / 16, b.toNat % 16 * 4]
  | [a, b, c] =>
    [a.toNat / 4, a.toNat % 4 * 16 + b.toNat / 16, b.toNat % 16 * 4 + c.toNat / 64, c.toNat % 64]
  | _ => []

theorem sixes_lt (group : List UInt8) : ∀ v ∈ sixes group, v < 64 := by
  intro v member
  match group with
  | [] => cases member
  | [a] =>
    have := a.toNat_lt
    simp only [sixes, List.mem_cons, List.not_mem_nil, or_false] at member
    omega
  | [a, b] =>
    have := a.toNat_lt
    have := b.toNat_lt
    simp only [sixes, List.mem_cons, List.not_mem_nil, or_false] at member
    omega
  | [a, b, c] =>
    have := a.toNat_lt
    have := b.toNat_lt
    have := c.toNat_lt
    simp only [sixes, List.mem_cons, List.not_mem_nil, or_false] at member
    omega
  | _ :: _ :: _ :: _ :: _ => cases member

theorem toUInt8_eq {n : Nat} {b : UInt8} (h : n = b.toNat) : n.toUInt8 = b := by
  subst h
  exact UInt8.ofNat_toNat

theorem bytesOf_sixes {group : List UInt8} (some : group ≠ []) (short : group.length ≤ 3) :
    bytesOf (sixes group) = .some group := by
  match group, some, short with
  | [a], _, _ =>
    have := a.toNat_lt
    rw [sixes, bytesOf, if_pos (by omega), toUInt8_eq (b := a) (by omega)]
  | [a, b], _, _ =>
    have := a.toNat_lt
    have := b.toNat_lt
    rw [sixes, bytesOf, if_pos (by omega), toUInt8_eq (b := a) (by omega), toUInt8_eq (b := b) (by omega)]
  | [a, b, c], _, _ =>
    have := a.toNat_lt
    have := b.toNat_lt
    have := c.toNat_lt
    rw [sixes, bytesOf, toUInt8_eq (b := a) (by omega), toUInt8_eq (b := b) (by omega),
      toUInt8_eq (b := c) (by omega)]
  | _ :: _ :: _ :: _ :: _, _, short => exact absurd short (by simp only [List.length_cons]; omega)

theorem of_bytesOf_eq_some {values : List Nat} {group : List UInt8} (small : ∀ v ∈ values, v < 64)
    (h : bytesOf values = some group) : group ≠ [] ∧ group.length ≤ 3 ∧ values = sixes group := by
  match values, h with
  | [p, q], h =>
    have := small p (by simp)
    have := small q (by simp)
    rw [bytesOf] at h
    split at h
    · next clear =>
      obtain rfl := Option.some.inj h
      refine ⟨by simp, by simp, ?_⟩
      simp only [sixes, Wire.toNat_toUInt8 (show p * 4 + q / 16 < 256 by omega), List.cons.injEq, and_true]
      omega
    · cases h
  | [p, q, r], h =>
    have := small p (by simp)
    have := small q (by simp)
    have := small r (by simp)
    rw [bytesOf] at h
    split at h
    · next clear =>
      obtain rfl := Option.some.inj h
      refine ⟨by simp, by simp, ?_⟩
      simp only [sixes, Wire.toNat_toUInt8 (show p * 4 + q / 16 < 256 by omega),
        Wire.toNat_toUInt8 (show q % 16 * 16 + r / 4 < 256 by omega), List.cons.injEq, and_true]
      omega
    · cases h
  | [p, q, r, s], h =>
    have := small p (by simp)
    have := small q (by simp)
    have := small r (by simp)
    have := small s (by simp)
    obtain rfl := Option.some.inj h
    refine ⟨by simp, by simp, ?_⟩
    simp only [sixes, Wire.toNat_toUInt8 (show p * 4 + q / 16 < 256 by omega),
      Wire.toNat_toUInt8 (show q % 16 * 16 + r / 4 < 256 by omega),
      Wire.toNat_toUInt8 (show r % 4 * 64 + s < 256 by omega), List.cons.injEq, and_true]
    omega
  | [], h => cases h
  | [_], h => cases h
  | _ :: _ :: _ :: _ :: _ :: _, h => cases h

theorem exists_bytesOf {values : List Nat} (four : values.length = 4) :
    ∃ a b c, bytesOf values = some [a, b, c] := by
  match values, four with
  | [p, q, r, s], _ => exact ⟨_, _, _, rfl⟩

/-! ## Writing -/

theorem toList_encodeOnto (done : Array UInt8) (bytes : List UInt8) :
    (encodeOnto done bytes).toList = done.toList ++ encode bytes := by
  suffices onto : ∀ done : Array UInt8, ∀ more : List UInt8,
      (encodeOnto (more.toArray ++ done) bytes).toList = more ++ (encodeOnto done bytes).toList by
    simpa [encode] using onto #[] done.toList
  intro done more
  fun_induction encodeOnto done bytes with
  | case1 done => simp [encodeOnto]
  | case2 done a x => simp [encodeOnto, x]
  | case3 done a b x y => simp [encodeOnto, x, y]
  | case4 done a b c rest x y z ih => rw [encodeOnto, ← ih, Array.append_assoc]

theorem encode_nil : encode [] = [] := rfl

theorem encode_cons (a b c : UInt8) (rest : List UInt8) :
    encode (a :: b :: c :: rest) = (sixes [a, b, c]).map symbol ++ encode rest := by
  rw [encode, encodeOnto, toList_encodeOnto]
  rfl

/-- How the last bytes are written, three of them or fewer. -/
theorem encode_group {group : List UInt8} (some : group ≠ []) (short : group.length ≤ 3) :
    encode group = (sixes group).map symbol ++ List.replicate (3 - group.length) pad := by
  match group, some, short with
  | [a], _, _ => rfl
  | [a, b], _, _ => rfl
  | [a, b, c], _, _ => rfl
  | _ :: _ :: _ :: _ :: _, _, short => exact absurd short (by simp only [List.length_cons]; omega)

theorem length_sixes {group : List UInt8} (some : group ≠ []) (short : group.length ≤ 3) :
    (sixes group).length = group.length + 1 := by
  match group, some, short with
  | [_], _, _ => rfl
  | [_, _], _, _ => rfl
  | [_, _, _], _, _ => rfl
  | _ :: _ :: _ :: _ :: _, _, short => exact absurd short (by simp only [List.length_cons]; omega)

theorem length_encode_group {group : List UInt8} (some : group ≠ []) (short : group.length ≤ 3) :
    (encode group).length = 4 := by
  rw [encode_group some short, List.length_append, List.length_map, List.length_replicate, length_sixes some short]
  omega

theorem encode_ne_nil : ∀ {bytes : List UInt8}, bytes ≠ [] → encode bytes ≠ []
  | [], h => absurd rfl h
  | [a], _ => List.ne_nil_of_length_eq_add_one (length_encode_group (by simp) (by simp))
  | [a, b], _ => List.ne_nil_of_length_eq_add_one (length_encode_group (by simp) (by simp))
  | a :: b :: c :: rest, _ => by simp [encode_cons, sixes]

/-- A spelling fills its quads. -/
theorem length_encode : ∀ bytes : List UInt8, (encode bytes).length % 4 = 0
  | [] => rfl
  | [a] => by rw [length_encode_group (by simp) (by simp)]
  | [a, b] => by rw [length_encode_group (by simp) (by simp)]
  | a :: b :: c :: rest => by
    have later := length_encode rest
    have four : ((sixes [a, b, c]).map symbol).length = 4 := rfl
    rw [encode_cons, List.length_append]
    omega

/-! ## Reading -/

variable {offset : Nat} {quad text bytes : List UInt8}

/-- A text up to its padding. -/
theorem takeWhile_symbols {values : List Nat} (small : ∀ v ∈ values, v < 64) (count : Nat) :
    (values.map symbol ++ List.replicate count pad).takeWhile (· ≠ pad) = values.map symbol ∧
      (values.map symbol ++ List.replicate count pad).dropWhile (· ≠ pad) = List.replicate count pad := by
  have kept : ∀ b ∈ values.map symbol, decide (b ≠ pad) = true := by
    intro b member
    obtain ⟨v, present, rfl⟩ := List.mem_map.1 member
    exact decide_eq_true (symbol_ne_pad (small v present))
  constructor
  · rw [List.takeWhile_append_of_pos kept]
    cases count <;> simp [List.replicate_succ]
  · rw [List.dropWhile_append_of_pos kept]
    cases count <;> simp [List.replicate_succ]

/-- The last quad of a spelling is read as the bytes it was written for. -/
theorem decodeLast_encode (short : bytes.length ≤ 3) : decodeLast offset (encode bytes) = .ok bytes := by
  by_cases empty : bytes = []
  · subst empty
    rfl
  · have small := sixes_lt bytes
    have length := length_sixes empty short
    have four := length_encode_group empty short
    have positive : 0 < bytes.length := List.length_pos_iff.2 empty
    have written : encode bytes ≠ [] := encode_ne_nil empty
    obtain ⟨symbols, padding⟩ := takeWhile_symbols small (3 - bytes.length)
    rw [encode_group empty short] at written four ⊢
    rw [List.length_append] at four
    rw [decodeLast]
    simp only [symbols, padding, valuesFrom_symbols small, bind, Except.bind, four]
    have two : ¬((sixes bytes).map symbol).length < 2 := by
      rw [List.length_map, length]
      omega
    rw [if_neg, if_neg (fun few => two few.2), if_neg (by decide), if_neg written, bytesOf_sixes empty short]
    rintro ⟨-, few | other⟩
    · exact two few
    · simp at other

theorem eq_replicate_pad {padding : List UInt8} {count : Nat}
    (h : ¬(padding ≠ [] ∧ (count < 2 ∨ padding.any (· ≠ pad)))) : padding = List.replicate padding.length pad := by
  refine List.eq_replicate_of_mem fun b member => Decidable.byContradiction fun other => ?_
  exact h ⟨List.ne_nil_of_mem member, .inr (List.any_eq_true.2 ⟨b, member, decide_eq_true other⟩)⟩

/-- The last quad is read only if it is the spelling of some bytes. -/
theorem of_decodeLast_eq_ok (short : quad.length ≤ 4) (h : decodeLast offset quad = .ok bytes) :
    quad = encode bytes := by
  have parts : quad.takeWhile (· ≠ pad) ++ quad.dropWhile (· ≠ pad) = quad := List.takeWhile_append_dropWhile
  rw [decodeLast] at h
  simp only [bind, Except.bind] at h
  generalize quad.takeWhile (· ≠ pad) = symbols at h parts
  generalize quad.dropWhile (· ≠ pad) = padding at h parts
  cases read : valuesFrom offset symbols with
  | error e =>
    rw [read] at h
    cases h
  | ok values =>
    obtain ⟨small, rfl⟩ := of_valuesFrom_eq_ok read
    simp only [read] at h
    split at h
    · cases h
    next stray =>
    split at h
    · cases h
    next few =>
    split at h
    · cases h
    next whole =>
    split at h
    · next empty =>
      obtain rfl := Except.ok.inj h
      exact empty
    next written =>
    cases meant : bytesOf values with
    | none =>
      rw [meant] at h
      cases h
    | some group =>
      rw [meant] at h
      obtain rfl := Except.ok.inj h
      obtain ⟨some, three, rfl⟩ := of_bytesOf_eq_some small meant
      have length := length_sixes some three
      have total := congrArg List.length parts
      have positive := List.length_pos_iff.2 written
      rw [List.length_append] at total
      rw [List.length_map, length] at whole total
      have rest : padding.length = 3 - group.length := by omega
      rw [encode_group some three, ← parts, ← rest, ← eq_replicate_pad stray]

/-! ## Whole spellings -/

theorem length_le_four (h : ∀ a b c d e rest, quad = a :: b :: c :: d :: e :: rest → False) : quad.length ≤ 4 := by
  match quad with
  | [] | [_] | [_, _] | [_, _, _] | [_, _, _, _] => simp
  | a :: b :: c :: d :: e :: rest => exact (h a b c d e rest rfl).elim

theorem decodeFrom_of_length_le {done : Array UInt8} (short : quad.length ≤ 4) :
    decodeFrom offset done quad = (decodeLast offset quad).map (done.toList ++ ·) := by
  rw [decodeFrom]
  · cases decodeLast offset quad <;> rfl
  · rintro a b c d e rest rfl
    simp only [List.length_cons] at short
    omega

/-- A quad with more after it has no room for padding. -/
theorem decodeFrom_append {done : Array UInt8} {a b c : UInt8} (more : text ≠ []) :
    decodeFrom offset done ((sixes [a, b, c]).map symbol ++ text) =
      decodeFrom (offset + 4) (done ++ #[a, b, c]) text := by
  obtain ⟨e, rest, rfl⟩ := List.exists_cons_of_ne_nil more
  have read : valuesFrom offset ((sixes [a, b, c]).map symbol) = .ok (sixes [a, b, c]) :=
    valuesFrom_symbols (sixes_lt [a, b, c])
  have meant : bytesOf (sixes [a, b, c]) = some [a, b, c] := bytesOf_sixes (by simp) (by simp)
  simp only [sixes, List.map_cons, List.map_nil, List.cons_append, List.nil_append] at read meant ⊢
  rw [decodeFrom, read]
  simp only [meant]
  rfl

theorem decodeFrom_encode (offset : Nat) (done : Array UInt8) (bytes : List UInt8) :
    decodeFrom offset done (encode bytes) = .ok (done.toList ++ bytes) := by
  have alone {group : List UInt8} (some : group ≠ []) (short : group.length ≤ 3) :
      decodeFrom offset done (encode group) = .ok (done.toList ++ group) := by
    rw [decodeFrom_of_length_le (Nat.le_of_eq (length_encode_group some short)), decodeLast_encode short]
    rfl
  match bytes with
  | [] =>
    rw [encode_nil, decodeFrom_of_length_le (by simp)]
    rfl
  | [a] => exact alone (by simp) (by simp)
  | [a, b] => exact alone (by simp) (by simp)
  | [a, b, c] => exact alone (by simp) (by simp)
  | a :: b :: c :: d :: rest =>
    rw [encode_cons, decodeFrom_append (encode_ne_nil (by simp)), decodeFrom_encode]
    simp

theorem of_decodeFrom_eq_ok {done : Array UInt8} (h : decodeFrom offset done text = .ok bytes) :
    ∃ more, bytes = done.toList ++ more ∧ text = encode more := by
  fun_induction decodeFrom offset done text with
  | case1 offset done a b c d e rest fault faulty => cases h
  | case2 offset done a b c d e rest values read ih =>
    obtain ⟨small, same⟩ := of_valuesFrom_eq_ok read
    have four : values.length = 4 := by simpa using (congrArg List.length same).symm
    obtain ⟨x, y, z, meant⟩ := exists_bytesOf four
    obtain ⟨-, -, rfl⟩ := of_bytesOf_eq_some small meant
    obtain ⟨more, rfl, later⟩ := ih h
    refine ⟨x :: y :: z :: more, ?_, ?_⟩
    · simp [meant]
    · rw [encode_cons, ← same, ← later]
      rfl
  | case3 offset done quad last fault faulty => cases h
  | case4 offset done quad last bytes read =>
    obtain rfl := Except.ok.inj h
    exact ⟨bytes, rfl, of_decodeLast_eq_ok (length_le_four last) read⟩

/-- A text stands for some bytes exactly if it is their spelling. -/
theorem decode_eq_ok : decode text = .ok bytes ↔ text = encode bytes := by
  rw [decode]
  constructor
  · intro accepted
    split at accepted
    · cases accepted
    · obtain ⟨more, rfl, spelt⟩ := of_decodeFrom_eq_ok accepted
      simpa using spelt
  · rintro rfl
    have whole := length_encode bytes
    rw [if_neg (by omega), decodeFrom_encode]
    simp

/-! ## Spellings as text -/

theorem mem_encode {b : UInt8} : ∀ {bytes : List UInt8}, b ∈ encode bytes → b = pad ∨ ∃ v < 64, b = symbol v
  | [], member => by cases member
  | [a], member => mem_group (by simp) (by simp) member
  | [a, c], member => mem_group (by simp) (by simp) member
  | a :: c :: d :: rest, member => by
    rw [encode_cons, List.mem_append] at member
    rcases member with member | member
    · obtain ⟨v, present, rfl⟩ := List.mem_map.1 member
      exact .inr ⟨v, sixes_lt _ v present, rfl⟩
    · exact mem_encode member
where
  mem_group {group : List UInt8} (some : group ≠ []) (short : group.length ≤ 3) (member : b ∈ encode group) :
      b = pad ∨ ∃ v < 64, b = symbol v := by
    rw [encode_group some short, List.mem_append] at member
    rcases member with member | member
    · obtain ⟨v, present, rfl⟩ := List.mem_map.1 member
      exact .inr ⟨v, sixes_lt _ v present, rfl⟩
    · exact .inl (List.eq_of_mem_replicate member)

/-- What holds of the padding and of every symbol holds of every sign of a spelling. -/
theorem forall_mem_encode {P : UInt8 → Prop} (padding : P pad) (symbols : ∀ v : Fin 64, P (symbol v)) :
    ∀ b ∈ encode bytes, P b := by
  intro b member
  rcases mem_encode member with rfl | ⟨v, bound, rfl⟩
  · exact padding
  · exact symbols ⟨v, bound⟩

theorem toList_toUTF8 (s : String) : s.toUTF8.toList = s.toList.flatMap String.utf8EncodeChar := by
  obtain ⟨cs, rfl⟩ : ∃ cs, s = String.ofList cs := ⟨s.toList, String.ofList_toList.symm⟩
  rw [Wire.toList_byteArray, String.toUTF8_eq_toByteArray]
  simp [List.utf8Encode]

theorem toUTF8_encodeText (bytes : List UInt8) : (encodeText bytes).toUTF8.toList = encode bytes := by
  have one : ∀ b ∈ encode bytes, String.utf8EncodeChar (Char.ofNat b.toNat) = [b] :=
    forall_mem_encode (by decide) (by decide)
  rw [toList_toUTF8, encodeText, String.toList_ofList, List.flatMap_map]
  rw [List.flatMap_def, List.map_congr_left one, ← List.flatMap_def, List.flatMap_singleton']

theorem decodeText_eq_ok {s : String} : decodeText s = .ok bytes ↔ s = encodeText bytes := by
  rw [decodeText, decode_eq_ok]
  constructor
  · intro spelt
    rw [← toUTF8_encodeText] at spelt
    have read := Wire.fromUTF8?_toUTF8 s
    rw [spelt, Wire.fromUTF8?_toUTF8] at read
    exact (Option.some.inj read).symm
  · rintro rfl
    exact toUTF8_encodeText bytes

end ChainIndex.Base64
