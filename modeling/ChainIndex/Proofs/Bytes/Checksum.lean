import ChainIndex.Proofs.Bytes.Bech32
import Mathlib.Data.List.Forall2
import Mathlib.Tactic.Ring

/-!
# Words end in a checksum that verifies

The remainder of a word is thirty bits, and a division step moves it up by five and takes in the next symbol. A step
is linear in exclusive or, in the remainder and in the symbol together (`step_xor`). So a word that ends in six
symbols has the remainder of the word that ends in six zeros, put together with what the six symbols alone come to.

Six symbols alone never reach the top five bits before the last of them is in, so they come to the number that they
are the digits of (`foldl_step_digits`). The checksum takes its digits from the remainder with the last bit turned
over, and this bit is all that is left (`verifies_checksum`).

The symbols themselves are below thirty-two, each has a letter of its own, and the groups of a whole number of bytes
are the same bits cut in another way (`ungroup_groups`).
-/

namespace ChainIndex.Bech32

/-! ## Steps are linear -/

/-- The bits of the top, each with the number that it puts into the remainder. -/
theorem foldl_xor_of_bits (a b x y : Nat) (gs : List (Nat × Nat)) :
    gs.foldl (fun c (g, i) => if (a ^^^ b) / Nat.pow 2 i % 2 = 1 then c ^^^ g else c) (x ^^^ y) =
      gs.foldl (fun c (g, i) => if a / Nat.pow 2 i % 2 = 1 then c ^^^ g else c) x ^^^
        gs.foldl (fun c (g, i) => if b / Nat.pow 2 i % 2 = 1 then c ^^^ g else c) y := by
  induction gs generalizing x y with
  | nil => rfl
  | cons entry gs ih =>
    obtain ⟨g, i⟩ := entry
    have bit : (a ^^^ b) / Nat.pow 2 i % 2 = 1 ↔ ¬(a / Nat.pow 2 i % 2 = 1 ↔ b / Nat.pow 2 i % 2 = 1) := by
      rw [← Nat.xor_mod_two_eq_one]
      exact Eq.congr_left (congrArg (· % 2) Nat.xor_div_two_pow)
    have next : (if (a ^^^ b) / Nat.pow 2 i % 2 = 1 then x ^^^ y ^^^ g else x ^^^ y) =
        (if a / Nat.pow 2 i % 2 = 1 then x ^^^ g else x) ^^^ (if b / Nat.pow 2 i % 2 = 1 then y ^^^ g else y) := by
      refine Nat.eq_of_testBit_eq fun k => ?_
      by_cases inA : a / Nat.pow 2 i % 2 = 1 <;> by_cases inB : b / Nat.pow 2 i % 2 = 1 <;>
        simp only [bit, inA, inB, Nat.testBit_xor, if_true, if_false, not_true, not_false_iff, iff_true,
          iff_false] <;>
        cases x.testBit k <;> cases y.testBit k <;> cases g.testBit k <;> rfl
    simp only [List.foldl_cons, next]
    exact ih _ _

theorem step_xor (a b s t : Nat) : step (a ^^^ b) (s ^^^ t) = step a s ^^^ step b t := by
  have top : (a ^^^ b) / 33554432 = a / 33554432 ^^^ b / 33554432 := Nat.xor_div_two_pow (n := 25)
  have low : (a ^^^ b) % 33554432 * 32 = a % 33554432 * 32 ^^^ b % 33554432 * 32 := by
    have cut : (a ^^^ b) % 33554432 = a % 33554432 ^^^ b % 33554432 := Nat.xor_mod_two_pow (n := 25)
    have moved := Nat.shiftLeft_xor_distrib (a := a % 33554432) (b := b % 33554432) (i := 5)
    simpa only [cut, Nat.shiftLeft_eq] using moved
  have next : (a ^^^ b) % 33554432 * 32 ^^^ (s ^^^ t) =
      (a % 33554432 * 32 ^^^ s) ^^^ (b % 33554432 * 32 ^^^ t) := by
    rw [low]
    ac_rfl
  simp only [step, top, next]
  exact foldl_xor_of_bits _ _ _ _ _

/-- Two runs of as many symbols, put together symbol by symbol. -/
theorem foldl_step_xor (a b : Nat) {ss ts : List Nat} (long : ss.length = ts.length) :
    (List.zipWith (· ^^^ ·) ss ts).foldl step (a ^^^ b) = ss.foldl step a ^^^ ts.foldl step b := by
  induction ss generalizing a b ts with
  | nil =>
    obtain rfl : ts = [] := List.length_eq_zero_iff.1 long.symm
    rfl
  | cons s ss ih =>
    cases ts with
    | nil => cases long
    | cons t ts =>
      rw [List.zipWith_cons_cons, List.foldl_cons, List.foldl_cons, List.foldl_cons, step_xor]
      exact ih _ _ (Nat.succ.inj long)

/-! ## Remainders and their digits -/

theorem step_lt (chk : Nat) {symbol : Nat} (small : symbol < 32) : step chk symbol < 2 ^ 30 := by
  have within : ∀ (gs : List (Nat × Nat)) (top c : Nat), (∀ g ∈ gs, g.1 < 2 ^ 30) → c < 2 ^ 30 →
      gs.foldl (fun c (g, i) => if top / Nat.pow 2 i % 2 = 1 then c ^^^ g else c) c < 2 ^ 30 := by
    intro gs top
    induction gs with
    | nil => exact fun c _ inside => inside
    | cons entry gs ih =>
      intro c each inside
      obtain ⟨one, more⟩ := List.forall_mem_cons.1 each
      refine ih _ more ?_
      dsimp only
      split
      · exact Nat.xor_lt_two_pow inside one
      · exact inside
  refine within _ _ _ (by decide) (Nat.xor_lt_two_pow ?_ ?_) <;> omega

/-- Below the top five bits a step only moves the remainder up. -/
theorem step_of_lt {chk : Nat} (small : chk < 2 ^ 25) (symbol : Nat) : step chk symbol = chk * 32 ^^^ symbol := by
  have top : chk / 33554432 = 0 := Nat.div_eq_of_lt small
  have low : chk % 33554432 = chk := Nat.mod_eq_of_lt small
  simp only [step, top, low]
  simp [List.zipIdx]

theorem div_mul_xor_mod (n : Nat) : n / 32 * 32 ^^^ n % 32 = n := by
  refine Nat.eq_of_testBit_eq fun i => ?_
  have high : (n / 2 ^ 5 * 2 ^ 5).testBit i = (decide (5 ≤ i) && n.testBit i) := by
    rw [Nat.testBit_mul_two_pow, Nat.testBit_div_two_pow]
    by_cases far : 5 ≤ i
    · simp [far]
    · simp [far]
  have low : (n % 2 ^ 5).testBit i = (decide (i < 5) && n.testBit i) := Nat.testBit_mod_two_pow n 5 i
  rw [Nat.testBit_xor]
  refine (congrArg₂ _ high low).trans ?_
  by_cases far : 5 ≤ i
  · simp [far, Nat.not_lt.2 far]
  · simp [far, Nat.lt_of_not_le far]

/-- The first so many of six digits come to the number without the others. -/
theorem foldl_step_digits {r : Nat} (small : r < 2 ^ 30) {n : Nat} (few : n ≤ 6) :
    ((List.range n).map fun i => r / Nat.pow 32 (5 - i) % 32).foldl step 0 = r / 32 ^ (6 - n) := by
  induction n with
  | zero =>
    have none_ : r / 32 ^ 6 = 0 := Nat.div_eq_of_lt small
    exact none_.symm
  | succ n ih =>
    have next : 6 - n = 5 - n + 1 := by omega
    have before : r / 32 ^ (6 - n) = r / 32 ^ (5 - n) / 32 := by rw [next, Nat.pow_succ, Nat.div_div_eq_div_mul]
    have below : r / 32 ^ (5 - n) / 32 < 2 ^ 25 := by
      have le : r / 32 ^ (5 - n) ≤ r := Nat.div_le_self _ _
      omega
    have after : 6 - (n + 1) = 5 - n := by omega
    rw [List.range_succ, List.map_append, List.foldl_append, ih (by omega), before, after]
    exact (step_of_lt below _).trans (div_mul_xor_mod _)

/-! ## The checksum -/

theorem length_checksum (hrp : String) (data : List Nat) : (checksum hrp data).length = 6 := by
  simp [checksum]

theorem lt_of_mem_checksum {hrp : String} {data : List Nat} {s : Nat} (h : s ∈ checksum hrp data) : s < 32 := by
  obtain ⟨i, -, rfl⟩ := List.mem_map.1 h
  exact Nat.mod_lt _ (by decide)

/-- **A word that ends in its checksum verifies**, under every readable part and for all data symbols. -/
theorem verifies_checksum (hrp : String) (data : List Nat) : Verifies hrp (data ++ checksum hrp data) := by
  let before := remainder (expand hrp ++ data)
  let r := (List.replicate 6 0).foldl step before
  have padded : remainder (expand hrp ++ data ++ List.replicate 6 0) = r := List.foldl_append
  have small : r < 2 ^ 30 := step_lt _ (by decide)
  have digits : (checksum hrp data).foldl step 0 = r ^^^ 1 := by
    have all := foldl_step_digits (Nat.xor_lt_two_pow small (show 1 < 2 ^ 30 by decide)) (Nat.le_refl 6)
    rw [checksum, padded, all]
    exact Nat.div_one _
  have same : List.zipWith (· ^^^ ·) (List.replicate 6 0) (checksum hrp data) = checksum hrp data := by
    rw [checksum]
    simp [List.range_succ]
  have long : (List.replicate 6 0).length = (checksum hrp data).length := by rw [length_checksum, List.length_replicate]
  have together := foldl_step_xor before 0 long
  rw [same, Nat.xor_zero, digits] at together
  have whole : remainder (expand hrp ++ (data ++ checksum hrp data)) = (checksum hrp data).foldl step before := by
    rw [← List.append_assoc, remainder, List.foldl_append]
    rfl
  rw [Verifies, whole, together]
  change r ^^^ (r ^^^ 1) = 1
  rw [← Nat.xor_assoc, Nat.xor_self, Nat.zero_xor]

/-! ## Bits in groups of five -/

theorem foldl_bitsOf (width n start : Nat) :
    (bitsOf width n).foldl (fun n b => 2 * n + b.toNat) start = start * 2 ^ width + n % 2 ^ width := by
  induction width generalizing start with
  | zero => simp [bitsOf, Nat.mod_one]
  | succ width ih =>
    have bit : (n / Nat.pow 2 width % 2 == 1).toNat = n / 2 ^ width % 2 := by
      have two : n / 2 ^ width % 2 < 2 := Nat.mod_lt _ (by decide)
      change (n / 2 ^ width % 2 == 1).toNat = n / 2 ^ width % 2
      rcases Nat.lt_succ_iff_lt_or_eq.1 two with zero | one
      · simp [Nat.lt_one_iff.1 zero]
      · simp [one]
    rw [bitsOf, List.foldl_cons, ih, bit, Nat.mod_pow_succ, Nat.pow_succ]
    ring

/-- The bits of a number give its lowest part back. -/
theorem ofBits_bitsOf (width n : Nat) : ofBits (bitsOf width n) = n % 2 ^ width := by
  rw [ofBits, foldl_bitsOf, Nat.zero_mul, Nat.zero_add]

theorem ofBits_lt (bits : List Bool) : ofBits bits < 2 ^ bits.length := by
  have bounded : ∀ (bits : List Bool) (start : Nat),
      bits.foldl (fun n b => 2 * n + b.toNat) start < (start + 1) * 2 ^ bits.length := by
    intro bits
    induction bits with
    | nil => simp
    | cons b bits ih =>
      intro start
      have one : b.toNat ≤ 1 := Bool.toNat_le b
      calc bits.foldl (fun n b => 2 * n + b.toNat) (2 * start + b.toNat)
          < (2 * start + b.toNat + 1) * 2 ^ bits.length := ih _
        _ ≤ (2 * (start + 1)) * 2 ^ bits.length := Nat.mul_le_mul_right _ (by omega)
        _ = (start + 1) * 2 ^ (b :: bits).length := by rw [List.length_cons, Nat.pow_succ]; ring
  simpa [ofBits] using bounded bits 0

/-- Fewer than five bits are left over. -/
theorem length_lt_five {bits : List Bool} (more : ∀ a b c d e rest, bits = a :: b :: c :: d :: e :: rest → False) :
    bits.length < 5 := by
  rcases bits with _ | ⟨a, _ | ⟨b, _ | ⟨c, _ | ⟨d, _ | ⟨e, rest⟩⟩⟩⟩⟩
  on_goal 6 => exact (more a b c d e rest rfl).elim
  all_goals simp

theorem lt_of_mem_quintets {bits : List Bool} {s : Nat} (h : s ∈ quintets bits) : s < 32 := by
  fun_induction quintets bits with
  | case1 a b c d e rest ih =>
    rcases List.mem_cons.1 h with rfl | later
    · exact ofBits_lt _
    · exact ih later
  | case2 => cases h
  | case3 bits more some =>
    obtain rfl := List.mem_singleton.1 h
    -- what is left over is made five by zeros
    have few := length_lt_five more
    have five : (bits ++ List.replicate (5 - bits.length) false).length = 5 := by
      rw [List.length_append, List.length_replicate]
      omega
    exact Nat.lt_of_lt_of_eq (ofBits_lt _) (congrArg (2 ^ ·) five)

theorem lt_of_mem_groups {data : List UInt8} {s : Nat} (h : s ∈ groups data) : s < 32 :=
  lt_of_mem_quintets h

theorem bitsOf_ofBits (a b c d e : Bool) : bitsOf 5 (ofBits [a, b, c, d, e]) = [a, b, c, d, e] := by
  revert a b c d e
  decide

/-- A whole number of groups holds the same bits. -/
theorem flatMap_quintets {bits : List Bool} {count : Nat} (whole : bits.length = 5 * count) :
    (quintets bits).flatMap (bitsOf 5) = bits := by
  fun_induction quintets bits generalizing count with
  | case1 a b c d e rest ih =>
    simp only [List.length_cons] at whole
    rw [List.flatMap_cons, bitsOf_ofBits, ih (show rest.length = 5 * (count - 1) by omega)]
    rfl
  | case2 => rfl
  | case3 bits more some =>
    have few := length_lt_five more
    have filled : 0 < bits.length := List.length_pos_iff.2 some
    omega

theorem octets_flatMap (data : List UInt8) : octets (data.flatMap fun b => bitsOf 8 b.toNat) = data := by
  induction data with
  | nil => rfl
  | cons b data ih =>
    have back : (ofBits (bitsOf 8 b.toNat)).toUInt8 = b := by
      rw [ofBits_bitsOf, Nat.mod_eq_of_lt b.toNat_lt]
      exact UInt8.ofNat_toNat
    rw [List.flatMap_cons]
    change (ofBits (bitsOf 8 b.toNat)).toUInt8 :: octets (data.flatMap fun b => bitsOf 8 b.toNat) = _
    rw [back, ih]

/-- **Regrouping loses nothing** where the bits of the bytes are a whole number of groups. -/
theorem ungroup_groups {data : List UInt8} {count : Nat} (whole : 8 * data.length = 5 * count) :
    ungroup (groups data) = data := by
  have bits : (data.flatMap fun b => bitsOf 8 b.toNat).length = 5 * count := by
    rw [← whole]
    simp [List.length_flatMap, length_bitsOf, List.map_const', Nat.mul_comm]
  rw [ungroup, groups, flatMap_quintets bits, octets_flatMap]

/-! ## Letters -/

/-- Letters stand for these symbols, one for each. -/
def Reads (letters : List Char) (symbols : List Nat) : Prop :=
  List.Forall₂ (fun c s => alphabet[s]? = some c) letters symbols

instance (letters : List Char) (symbols : List Nat) : Decidable (Reads letters symbols) :=
  inferInstanceAs (Decidable (List.Forall₂ _ letters symbols))

theorem getElem?_alphabet {s : Nat} (small : s < 32) : alphabet[s]? = some (letter s) := by
  have all : ∀ s < 32, alphabet[s]? = some (letter s) := by decide +kernel
  exact all s small

theorem nodup_alphabet : alphabet.Nodup := by
  decide +kernel

theorem reads_letters {symbols : List Nat} (small : ∀ s ∈ symbols, s < 32) : Reads (symbols.map letter) symbols :=
  List.forall₂_map_left_iff.2 (List.forall₂_same.2 fun s member => getElem?_alphabet (small s member))

/-- Letters are read in one way only. -/
theorem Reads.unique {letters : List Char} {symbols symbols' : List Nat} (h : Reads letters symbols)
    (h' : Reads letters symbols') : symbols = symbols' := by
  induction h generalizing symbols' with
  | nil =>
    cases h'
    rfl
  | @cons c s letters symbols one _ ih =>
    cases h' with
    | @cons _ s' _ symbols' one' more' =>
      obtain ⟨inside, -⟩ := List.getElem?_eq_some_iff.1 one
      obtain rfl : s = s' := (List.getElem?_inj inside nodup_alphabet).1 (one.trans one'.symm)
      rw [ih more']

/-- The shortest word that is published as a valid one: `a12uel5l`. -/
example : ∃ symbols, Reads "2uel5l".toList symbols ∧ Verifies "a" symbols :=
  ⟨[10, 28, 25, 31, 20, 31], by decide +kernel⟩

end ChainIndex.Bech32
