import ChainIndex.Proofs.Json.Reading
import ChainIndex.Proofs.Number.Shortest
import Mathlib.Algebra.Order.Field.Basic
import Mathlib.Data.Rat.Cast.Order
import Mathlib.Tactic.IntervalCases
import Mathlib.Tactic.Ring

/-!
# Numbers as they are written

A numeral spells a quantity. What is written for a whole number is a numeral that spells that number
(`bytesOf_toString`), and what is written for a double is one that spells a quantity which is rounded to the double,
whether it is written out or with an exponent (`exists_bytes_write`).
-/

namespace ChainIndex.Json

/-! ## Quantities -/

/-- The number that digits spell. -/
def valueOf (ds : List Nat) : Nat := ds.foldl (fun n d => n * 10 + d) 0

/-- The power of ten in an exponent. -/
def exponentOf : Option (Bool × List Nat) → Int
  | none => 0
  | some (below, ds) => if below then -valueOf ds else valueOf ds

/-- The quantity that a numeral spells without its sign. -/
def Numeral.magnitude (n : Numeral) : ℚ :=
  valueOf (n.whole ++ n.fraction) * 10 ^ (exponentOf n.exponent - n.fraction.length)

/-- The quantity that a numeral spells. -/
def Numeral.quantity (n : Numeral) : ℚ := if n.negative then -n.magnitude else n.magnitude

theorem foldl_value (n : Nat) (ds : List Nat) :
    ds.foldl (fun n d => n * 10 + d) n = n * 10 ^ ds.length + valueOf ds := by
  induction ds generalizing n with
  | nil => simp [valueOf]
  | cons d ds ih =>
    have first : valueOf (d :: ds) = d * 10 ^ ds.length + valueOf ds := by
      rw [valueOf, List.foldl_cons, ih]
      ring
    rw [List.foldl_cons, ih, first, List.length_cons]
    ring

theorem valueOf_append (ds ds' : List Nat) : valueOf (ds ++ ds') = valueOf ds * 10 ^ ds'.length + valueOf ds' := by
  rw [valueOf, List.foldl_append, foldl_value]
  rfl

theorem valueOf_replicate (count : Nat) : valueOf (List.replicate count 0) = 0 := by
  induction count with
  | zero => rfl
  | succ count ih => rwa [List.replicate_succ, valueOf, List.foldl_cons]

/-! ## Decimal digits -/

/-- Digits, by what they count for. -/
def digitsOf (cs : List Char) : List Nat := cs.map fun c => c.toNat - 48

/-- The digits of a number. -/
def decimalDigits (n : Nat) : List Nat := digitsOf (Nat.toDigits 10 n)

theorem bounds_of_isDigit {c : Char} (digit : c.isDigit) : 48 ≤ c.toNat ∧ c.toNat ≤ 57 := by
  simpa [Char.isDigit, UInt32.le_iff_toNat_le] using digit

/-- Digits take a byte each. -/
theorem bytesOf_digits {cs : List Char} (digits : ∀ c ∈ cs, c.isDigit) : bytesOf cs = spell (digitsOf cs) := by
  have one : ∀ c ∈ cs, String.utf8EncodeChar c = [digitByte (c.toNat - 48)] := by
    intro c member
    obtain ⟨lower, upper⟩ := bounds_of_isDigit (digits c member)
    have short : c.val.toNat ≤ 127 := Nat.le_trans upper (by decide)
    rw [String.utf8EncodeChar, if_pos short, digitByte, Nat.add_sub_cancel' lower]
    rfl
  rw [bytesOf, List.flatMap_def, List.map_congr_left one, ← List.flatMap_def, spell, digitsOf, List.map_map]
  exact List.flatMap_pure_eq_map _ _

theorem lt_of_mem_digitsOf {cs : List Char} (digits : ∀ c ∈ cs, c.isDigit) : ∀ d ∈ digitsOf cs, d < 10 := by
  intro d member
  obtain ⟨c, member', rfl⟩ := List.mem_map.1 member
  obtain ⟨lower, upper⟩ := bounds_of_isDigit (digits c member')
  omega

theorem isDigit_of_mem {n : Nat} : ∀ c ∈ Nat.toDigits 10 n, c.isDigit := fun _ member =>
  Nat.isDigit_of_mem_toDigits (by decide) (by decide) member

theorem decimalDigits_ne_nil (n : Nat) : decimalDigits n ≠ [] := by
  simp [decimalDigits, digitsOf, Nat.toDigits_ne_nil]

theorem valueOf_decimalDigits (n : Nat) : valueOf (decimalDigits n) = n := by
  have read : Nat.ofDigitChars 10 (Nat.toDigits 10 n) 0 = n := Nat.ofDigitChars_toDigits (by decide) (by decide)
  rw [decimalDigits, digitsOf, valueOf, List.foldl_map]
  simp only [Nat.ofDigitChars, Nat.mul_comm 10] at read
  exact read

theorem decimalDigits_of_lt {n : Nat} (small : n < 10) : decimalDigits n = [n] := by
  interval_cases n <;> rfl

theorem decimalDigits_of_le {n : Nat} (large : 10 ≤ n) : decimalDigits n = decimalDigits (n / 10) ++ [n % 10] := by
  have last : (n % 10).digitChar.toNat - 48 = n % 10 := by
    have small : n % 10 < 10 := Nat.mod_lt n (by decide)
    generalize n % 10 = d at small
    interval_cases d <;> rfl
  rw [decimalDigits, Nat.toDigits_of_base_le (by decide) large, digitsOf, List.map_append, List.map_singleton, last]
  rfl

/-- The digits of a number that is not zero begin with another digit than zero. -/
theorem head?_decimalDigits {n : Nat} (positive : 0 < n) : (decimalDigits n).head? ≠ some 0 := by
  induction n using Nat.strongRecOn with
  | ind n ih =>
    by_cases small : n < 10
    · rw [decimalDigits_of_lt small]
      exact fun same => absurd (Option.some.inj same) (Nat.ne_of_gt positive)
    · rw [decimalDigits_of_le (Nat.le_of_not_lt small), List.head?_append_of_ne_nil _ (decimalDigits_ne_nil _)]
      exact ih (n / 10) (Nat.div_lt_self positive (by decide)) (Nat.div_pos (Nat.le_of_not_lt small) (by decide))

/-! ## Whole numbers -/

/-- A whole number as it is spelled. -/
def numeralOf (n : Int) : Numeral := ⟨n < 0, decimalDigits n.natAbs, [], none⟩

theorem numeralOf_sound (n : Int) : (numeralOf n).Sound where
  some_ := decimalDigits_ne_nil _
  unpadded zero := by
    have nothing : n.natAbs = 0 := by
      by_contra some_
      exact head?_decimalDigits (Nat.pos_of_ne_zero some_) zero
    rw [numeralOf, nothing]
    rfl
  whole := lt_of_mem_digitsOf isDigit_of_mem
  fraction := nofun
  exponent := nofun

theorem quantity_numeralOf (n : Int) : (numeralOf n).quantity = n := by
  have magnitude : (numeralOf n).magnitude = n.natAbs := by
    simp [numeralOf, Numeral.magnitude, exponentOf, valueOf_decimalDigits]
  rw [Numeral.quantity, magnitude, Nat.cast_natAbs]
  by_cases below : n < 0
  · simp [numeralOf, below, abs_of_neg below]
  · simp [numeralOf, below, abs_of_nonneg (Int.not_lt.1 below)]

theorem toList_toString (n : Nat) : (toString n).toList = Nat.toDigits 10 n := by
  change n.repr.toList = _
  rw [Nat.repr_eq_ofList_toDigits, String.toList_ofList]

theorem toList_toString_int (n : Int) :
    (toString n).toList = if n < 0 then '-' :: Nat.toDigits 10 n.natAbs else Nat.toDigits 10 n.natAbs := by
  cases n with
  | ofNat n => exact toList_toString n
  | negSucc n =>
    change ("-" ++ (n + 1).repr).toList = _
    rw [String.toList_append, if_pos (Int.negSucc_lt_zero n)]
    exact congrArg ('-' :: ·) (toList_toString (n + 1))

/-- **A whole number is written as the numeral that spells it.** -/
theorem bytesOf_toString (n : Int) : bytesOf (toString n).toList = (numeralOf n).bytes := by
  have digits : bytesOf (Nat.toDigits 10 n.natAbs) = spell (decimalDigits n.natAbs) := bytesOf_digits isDigit_of_mem
  have unsigned : (numeralOf n).unsigned = spell (decimalDigits n.natAbs) := List.append_nil _
  rw [toList_toString_int, Numeral.bytes, unsigned, ← digits, numeralOf]
  by_cases below : n < 0
  · simp only [below, decide_true, if_true]
    rfl
  · simp only [below, decide_false, if_false, Bool.false_eq_true]

/-! ## Doubles -/

namespace Numeral

/-- The numeral shows that it is not the spelling of a whole number: it has a point or an exponent. -/
def IsBroken (n : Numeral) : Prop := n.fraction ≠ [] ∨ n.exponent ≠ none

/-- Digits with a point before digit `p`. -/
def positional (negative : Bool) (ds : List Nat) (p : Int) : Numeral :=
  if p ≤ 0 then ⟨negative, [0], List.replicate (-p).toNat 0 ++ ds, none⟩
  else if (ds.length : Int) ≤ p then ⟨negative, ds ++ List.replicate (p.toNat - ds.length) 0, [0], none⟩
  else ⟨negative, ds.take p.toNat, ds.drop p.toNat, none⟩

/-- Digits with a point behind the first, and the power of ten of the first. -/
def scientific (negative : Bool) (ds : List Nat) (p : Int) : Numeral :=
  ⟨negative, ds.take 1, ds.drop 1, some (decide (p - 1 < 0), decimalDigits (p - 1).natAbs)⟩

variable {ds : List Nat} {cs : List Char} {p : Int} {negative : Bool}

theorem positional_negative (negative : Bool) (ds : List Nat) (p : Int) :
    (positional negative ds p).negative = negative := by
  rw [positional]
  repeat' split
  all_goals rfl

theorem positional_broken (negative : Bool) (some_ : ds ≠ []) (p : Int) : (positional negative ds p).IsBroken := by
  rw [positional]
  split
  · exact .inl (by simp [some_])
  · split
    · exact .inl (List.cons_ne_nil _ _)
    · next inside => exact .inl (by simp only [ne_eq, List.drop_eq_nil_iff]; omega)

theorem positional_sound (negative : Bool) (some_ : ds ≠ []) (unpadded : ds.head? ≠ some 0) (small : ∀ d ∈ ds, d < 10)
    (p : Int) : (positional negative ds p).Sound := by
  have zeros (n : Nat) : ∀ d ∈ List.replicate n 0, d < 10 := by simp
  rw [positional]
  split
  · exact ⟨List.cons_ne_nil _ _, fun _ => rfl, by simp, List.forall_mem_append.2 ⟨zeros _, small⟩, nofun⟩
  · next positive =>
    split
    · have first : (ds ++ List.replicate (p.toNat - ds.length) 0).head? = ds.head? :=
        List.head?_append_of_ne_nil _ some_
      exact ⟨by simp [some_], fun zero => absurd (first.symm.trans zero) unpadded,
        List.forall_mem_append.2 ⟨small, zeros _⟩, by simp, nofun⟩
    · have first : (ds.take p.toNat).head? = ds.head? := by
        rw [List.head?_take, if_neg (by omega)]
      refine ⟨?_, fun zero => absurd (first.symm.trans zero) unpadded,
        fun d member => small d (List.mem_of_mem_take member),
        fun d member => small d (List.mem_of_mem_drop member), nofun⟩
      simp only [ne_eq, List.take_eq_nil_iff, some_, or_false]
      omega

theorem magnitude_positional (negative : Bool) (ds : List Nat) (p : Int) :
    (positional negative ds p).magnitude = valueOf ds * 10 ^ (p - ds.length) := by
  rw [positional]
  split
  · next before =>
    have value : valueOf ([0] ++ (List.replicate (-p).toNat 0 ++ ds)) = valueOf ds := by
      rw [valueOf_append, valueOf_append, valueOf_replicate]
      simp [valueOf]
    rw [magnitude, value]
    congr 2
    simp only [exponentOf, List.length_append, List.length_replicate]
    omega
  · split
    · next behind =>
      have value : valueOf (ds ++ List.replicate (p.toNat - ds.length) 0 ++ [0]) =
          valueOf ds * 10 ^ (p.toNat - ds.length + 1) := by
        rw [valueOf_append, valueOf_append, valueOf_replicate]
        simp [valueOf, pow_succ, mul_assoc]
      have power : p - ds.length = (p.toNat - ds.length + 1 : ℕ) + (0 - 1) := by omega
      rw [magnitude, value, power, zpow_add₀ (by norm_num), zpow_natCast]
      push_cast
      exact mul_assoc _ _ _
    · next inside =>
      rw [magnitude, List.take_append_drop]
      congr 2
      simp only [exponentOf, List.length_drop]
      omega

theorem scientific_sound (negative : Bool) (some_ : ds ≠ []) (unpadded : ds.head? ≠ some 0) (small : ∀ d ∈ ds, d < 10)
    (p : Int) : (scientific negative ds p).Sound := by
  refine ⟨by simp [scientific, some_], fun zero => ?_, fun d member => small d (List.mem_of_mem_take member),
    fun d member => small d (List.mem_of_mem_drop member), ?_⟩
  · rw [scientific, List.head?_take, if_neg one_ne_zero] at zero
    exact absurd zero unpadded
  · rintro below digits same
    obtain ⟨-, rfl⟩ := Prod.mk.inj (Option.some.inj same)
    exact ⟨decimalDigits_ne_nil _, lt_of_mem_digitsOf isDigit_of_mem⟩

theorem magnitude_scientific (negative : Bool) (some_ : ds ≠ []) (p : Int) :
    (scientific negative ds p).magnitude = valueOf ds * 10 ^ (p - ds.length) := by
  have count : 0 < ds.length := List.length_pos_iff.2 some_
  have power : exponentOf (some (decide (p - 1 < 0), decimalDigits (p - 1).natAbs)) = p - 1 := by
    simp only [exponentOf, valueOf_decimalDigits, decide_eq_true_eq]
    split <;> omega
  rw [scientific, magnitude, List.take_append_drop]
  dsimp only
  rw [power, List.length_drop]
  congr 2
  omega

/-! ### As characters -/

theorem digitsOf_append (cs cs' : List Char) : digitsOf (cs ++ cs') = digitsOf cs ++ digitsOf cs' := List.map_append

theorem isDigit_of_mem_zeros {n : Nat} : ∀ c ∈ FloatLayout.zeros n, c.isDigit := by simp [FloatLayout.zeros]

theorem digitsOf_zeros (n : Nat) : digitsOf (FloatLayout.zeros n) = List.replicate n 0 := by
  simp [FloatLayout.zeros, digitsOf]

theorem fractionBytes_of_ne_nil (some_ : ds ≠ []) : fractionBytes ds = 46 :: spell ds := by
  cases ds with
  | nil => exact absurd rfl some_
  | cons d ds => rfl

/-- Digits, a point and more digits. -/
theorem unsigned_pointed {whole fraction : List Char} (digits : ∀ c ∈ whole, c.isDigit)
    (digits' : ∀ c ∈ fraction, c.isDigit) (some_ : fraction ≠ []) (exponent : Option (Bool × List Nat)) :
    unsigned ⟨negative, digitsOf whole, digitsOf fraction, exponent⟩ =
      bytesOf (whole ++ '.' :: fraction) ++ exponentBytes exponent := by
  have some_digits : digitsOf fraction ≠ [] := by simp [digitsOf, some_]
  have point : bytesOf ('.' :: fraction) = 46 :: bytesOf fraction := rfl
  rw [unsigned, fractionBytes_of_ne_nil some_digits, bytesOf_append, point, bytesOf_digits digits,
    bytesOf_digits digits', List.append_assoc]

theorem unsigned_positional (negative : Bool) (some_ : cs ≠ []) (digits : ∀ c ∈ cs, c.isDigit) (p : Int) :
    (positional negative (digitsOf cs) p).unsigned = bytesOf (FloatLayout.positional cs p) := by
  have count : (digitsOf cs).length = cs.length := List.length_map _
  rw [positional, FloatLayout.positional, count]
  split
  · have zero : [0] = digitsOf ['0'] := rfl
    rw [← digitsOf_zeros, ← digitsOf_append, zero, unsigned_pointed (by simp)
      (List.forall_mem_append.2 ⟨isDigit_of_mem_zeros, digits⟩) (by simp [some_])]
    exact List.append_nil _
  · next positive =>
    split
    · have zero : [0] = digitsOf ['0'] := rfl
      rw [← digitsOf_zeros, ← digitsOf_append, zero, unsigned_pointed
        (List.forall_mem_append.2 ⟨digits, isDigit_of_mem_zeros⟩) (by simp) (by simp)]
      exact List.append_nil _
    · next inside =>
      have cut : (digitsOf cs).take p.toNat = digitsOf (cs.take p.toNat) := (List.map_take ..).symm
      have left : (digitsOf cs).drop p.toNat = digitsOf (cs.drop p.toNat) := (List.map_drop ..).symm
      have behind : cs.drop p.toNat ≠ [] := by
        simp only [ne_eq, List.drop_eq_nil_iff]
        omega
      rw [cut, left, unsigned_pointed (fun c member => digits c (List.mem_of_mem_take member))
        (fun c member => digits c (List.mem_of_mem_drop member)) behind]
      exact List.append_nil _

theorem exponentBytes_eq (k : Int) :
    exponentBytes (some (decide (k < 0), decimalDigits k.natAbs)) = bytesOf ('e' :: (toString k).toList) := by
  have digits : bytesOf (Nat.toDigits 10 k.natAbs) = spell (decimalDigits k.natAbs) := bytesOf_digits isDigit_of_mem
  rw [toList_toString_int, exponentBytes, ← digits]
  by_cases below : k < 0
  · simp only [below, decide_true, if_true]
    rfl
  · simp only [below, decide_false, if_false, Bool.false_eq_true]
    rfl

theorem unsigned_scientific (negative : Bool) (some_ : cs ≠ []) (digits : ∀ c ∈ cs, c.isDigit) (p : Int) :
    (scientific negative (digitsOf cs) p).unsigned = bytesOf (FloatLayout.scientific cs p) := by
  obtain ⟨c, cs, rfl⟩ := List.exists_cons_of_ne_nil some_
  obtain ⟨first, digits⟩ := List.forall_mem_cons.1 digits
  have before : ∀ d ∈ [c], d.isDigit := by simpa using first
  cases cs with
  | nil =>
    change spell (digitsOf [c]) ++ ([] ++ exponentBytes _) = bytesOf ([c] ++ 'e' :: (toString (p - 1)).toList)
    rw [bytesOf_append, ← exponentBytes_eq, bytesOf_digits before]
    rfl
  | cons d cs =>
    change unsigned ⟨negative, digitsOf [c], digitsOf (d :: cs), _⟩ =
      bytesOf (([c] ++ '.' :: d :: cs) ++ 'e' :: (toString (p - 1)).toList)
    rw [unsigned_pointed before digits (List.cons_ne_nil d cs), exponentBytes_eq, ← bytesOf_append]

end Numeral

/-- A sign and the characters of a numeral without its sign. -/
theorem bytesOf_signed {n : Numeral} {cs : List Char} {negative : Bool} (sign : n.negative = negative)
    (unsigned : n.unsigned = bytesOf cs) :
    bytesOf (String.ofList ((if negative then ['-'] else []) ++ cs)).toList = n.bytes := by
  rw [String.toList_ofList, Numeral.bytes, unsigned, sign]
  cases negative <;> rfl

/-- A decimal is written as a numeral that spells its quantity, on either side of the powers that are written out. -/
theorem exists_bytes_decimal (layout : FloatLayout) (negative : Bool) {d : Decimal} (positive : 0 < d.digits) {p : Int}
    (point : p = d.exponent + (Nat.toDigits 10 d.digits).length) :
    ∃ n : Numeral, n.Sound ∧
      bytesOf (String.ofList ((if negative then ['-'] else []) ++
        if layout.lowest ≤ p ∧ p ≤ 16 then FloatLayout.positional (Nat.toDigits 10 d.digits) p
        else FloatLayout.scientific (Nat.toDigits 10 d.digits) p)).toList = n.bytes ∧
      n.negative = negative ∧ n.IsBroken ∧ n.magnitude = d.toRat := by
  have some_ : Nat.toDigits 10 d.digits ≠ [] := Nat.toDigits_ne_nil
  have digits : ∀ c ∈ Nat.toDigits 10 d.digits, c.isDigit := isDigit_of_mem
  have some_digits : decimalDigits d.digits ≠ [] := decimalDigits_ne_nil _
  have unpadded := head?_decimalDigits positive
  have small : ∀ x ∈ decimalDigits d.digits, x < 10 := lt_of_mem_digitsOf digits
  have value : (valueOf (decimalDigits d.digits) : ℚ) * 10 ^ (p - (decimalDigits d.digits).length) = d.toRat := by
    have count : (decimalDigits d.digits).length = (Nat.toDigits 10 d.digits).length := List.length_map _
    rw [valueOf_decimalDigits, count, point, Int.add_sub_cancel]
    rfl
  by_cases written : layout.lowest ≤ p ∧ p ≤ 16
  · have sign : (Numeral.positional negative (decimalDigits d.digits) p).negative = negative :=
      Numeral.positional_negative ..
    rw [if_pos written]
    exact ⟨_, Numeral.positional_sound negative some_digits unpadded small p,
      bytesOf_signed sign (Numeral.unsigned_positional negative some_ digits p), sign,
      Numeral.positional_broken negative some_digits p, (Numeral.magnitude_positional ..).trans value⟩
  · rw [if_neg written]
    exact ⟨_, Numeral.scientific_sound negative some_digits unpadded small p,
      bytesOf_signed rfl (Numeral.unsigned_scientific negative some_ digits p), rfl, .inr (Option.some_ne_none _),
      (Numeral.magnitude_scientific negative some_digits p).trans value⟩

theorem roundsTo_zero (q : Int) : RoundsTo 0 q 0 := by
  have below : 0 ≤ reachBelow 0 q := by
    rw [reachBelow]
    split <;> positivity
  have above : (0 : ℚ) < 2 ^ (q - 1) := by positivity
  rw [RoundsTo, if_pos (Nat.zero_mod 2)]
  constructor <;> simp [below, above.le]

/-- The significand of a double fits fifty-three bits. -/
theorem bounds_of_finite {bits : UInt64} {negative : Bool} {m : Nat} {q : Int}
    (finite : Binary64.ofBits bits = .finite negative m q) : m < 2 * Binary64.leastNormal ∧ -1074 ≤ q := by
  have fraction : bits.toNat % Binary64.leastNormal < Binary64.leastNormal := Nat.mod_lt _ (by decide)
  rw [Binary64.ofBits] at finite
  split at finite
  · split at finite <;> cases finite
  · split at finite <;> obtain ⟨-, rfl, rfl⟩ := Binary64.finite.inj finite
    · exact ⟨by omega, le_refl _⟩
    · refine ⟨by omega, ?_⟩
      simp only [Int.ofNat_eq_natCast]
      omega

/-- **A double is written as a numeral that spells a quantity which is rounded to it**, and not as a whole number. -/
theorem exists_bytes_write (layout : FloatLayout) {bits : UInt64} {negative : Bool} {m : Nat} {q : Int}
    (finite : Binary64.ofBits bits = .finite negative m q) :
    ∃ n : Numeral, n.Sound ∧ bytesOf (layout.write bits).toList = n.bytes ∧ n.negative = negative ∧ n.IsBroken ∧
      RoundsTo m q n.magnitude := by
  rw [FloatLayout.write, finite]
  dsimp only
  by_cases zero : m = 0
  · have nothing : (⟨negative, [0], [0], none⟩ : Numeral).magnitude = 0 := by simp [Numeral.magnitude, valueOf]
    rw [if_pos zero, zero]
    refine ⟨⟨negative, [0], [0], none⟩, ⟨List.cons_ne_nil _ _, fun _ => rfl, by simp, by simp, nofun⟩,
      bytesOf_signed rfl rfl, rfl, .inl (List.cons_ne_nil _ _), ?_⟩
    rw [nothing]
    exact roundsTo_zero q
  · obtain ⟨fits, least⟩ := bounds_of_finite finite
    obtain ⟨positive, rounds⟩ := roundsTo_shortestDecimal (Nat.pos_of_ne_zero zero) fits least
    obtain ⟨n, sound, bytes, sign, broken, magnitude⟩ := exists_bytes_decimal layout negative positive rfl
    rw [if_neg zero]
    exact ⟨n, sound, bytes, sign, broken, magnitude ▸ rounds⟩

/-! ## Line ends -/

theorem newline_not_mem_spell {ds : List Nat} (small : ∀ d ∈ ds, d < 10) : 10 ∉ spell ds := by
  intro member
  obtain ⟨d, member, same⟩ := List.mem_map.1 member
  have bound := small d member
  interval_cases d <;> cases same

/-- No line ends in a number. -/
theorem newline_not_mem_bytes {n : Numeral} (sound : n.Sound) : 10 ∉ n.bytes := by
  have whole := newline_not_mem_spell sound.whole
  have fraction : 10 ∉ Numeral.fractionBytes n.fraction := by
    by_cases none_ : n.fraction = []
    · simp [none_, Numeral.fractionBytes]
    · simp [Numeral.fractionBytes_of_ne_nil none_, newline_not_mem_spell sound.fraction]
  have exponent : 10 ∉ Numeral.exponentBytes n.exponent := by
    match same : n.exponent with
    | none => simp [Numeral.exponentBytes]
    | some (below, ds) =>
      have digits := newline_not_mem_spell (sound.exponent below ds same).2
      cases below <;> simp [Numeral.exponentBytes, digits]
  rw [Numeral.bytes, Numeral.unsigned]
  split <;> simp [whole, fraction, exponent]

end ChainIndex.Json
