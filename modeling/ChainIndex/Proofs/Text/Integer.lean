import ChainIndex.Text.Integer

/-!
# What is read as a number

`Text.readNat` goes through digits one by one and gives up at the first that takes the number out of bounds. A number
only grows by the digits after it, so that is as good as a look at the whole: what is read is **every decimal spelling
of a number within bounds, and nothing else** (`readNat_eq_ok`). A number may have zeros and one plus sign in front.
-/

namespace ChainIndex.Text

/-- The number that is spelled by the digits of `n` and then some more. -/
def decimal (n : Nat) (digits : List Char) : Nat := digits.foldl (fun n c => n * 10 + (c.toNat - 48)) n

theorem le_decimal (n : Nat) (digits : List Char) : n ≤ decimal n digits := by
  induction digits generalizing n with
  | nil => exact Nat.le_refl n
  | cons c rest ih =>
    have shifted : n * 10 + (c.toNat - 48) ≤ decimal n (c :: rest) := ih _
    omega

variable {limit n m : Nat} {beyond : IntegerFault} {cs : List Char} {s : String}

theorem readDigits_eq_ok (within : n ≤ limit) :
    readDigits limit beyond n cs = .ok m ↔ (∀ c ∈ cs, c.isDigit) ∧ decimal n cs = m ∧ m ≤ limit := by
  induction cs generalizing n with
  | nil =>
    rw [readDigits, Except.ok.injEq]
    constructor
    · rintro rfl
      exact ⟨nofun, rfl, within⟩
    · exact fun ⟨_, same, _⟩ => same
  | cons c rest ih =>
    rw [readDigits, List.forall_mem_cons]
    by_cases digit : c.isDigit
    · have grows := le_decimal (n * 10 + (c.toNat - 48)) rest
      by_cases out : limit < n * 10 + (c.toNat - 48)
      · simp only [digit, Bool.not_true, Bool.false_eq_true, if_false, if_pos out, reduceCtorEq, true_and, false_iff]
        rintro ⟨-, same, fits⟩
        change decimal (n * 10 + (c.toNat - 48)) rest = m at same
        omega
      · simp only [digit, Bool.not_true, Bool.false_eq_true, if_false, if_neg out, true_and]
        exact ih (Nat.le_of_not_lt out)
    · simp [digit]

/-- A text spells a number: it is decimal digits, at least one, and maybe a plus sign in front. -/
def Spelt (s : String) (n : Nat) : Prop :=
  ∃ digits, digits ≠ [] ∧ (∀ c ∈ digits, c.isDigit) ∧ decimal 0 digits = n ∧
    (s.toList = digits ∨ s.toList = '+' :: digits)

/-- **A number is read from every spelling of a number within bounds**, and from nothing else. -/
theorem readNat_eq_ok : readNat limit s = .ok n ↔ Spelt s n ∧ n ≤ limit := by
  have plus (digits : List Char) (all : ∀ c ∈ digits, c.isDigit) (rest : List Char) : digits ≠ '+' :: rest := by
    rintro rfl
    exact absurd (all '+' List.mem_cons_self) (by decide)
  unfold readNat Spelt
  split
  · next empty =>
    refine ⟨nofun, ?_⟩
    rintro ⟨⟨digits, some_, -, -, bare | signed⟩, -⟩
    · exact absurd (bare.symm.trans empty) some_
    · rw [empty] at signed
      cases signed
  · next sign =>
    refine ⟨nofun, ?_⟩
    rintro ⟨⟨digits, some_, all, -, bare | signed⟩, -⟩
    · exact absurd (bare.symm.trans sign) (plus digits all [])
    · rw [sign] at signed
      exact absurd (List.cons.inj signed).2.symm some_
  · next rest some_ sign =>
    rw [readDigits_eq_ok (Nat.zero_le limit)]
    constructor
    · exact fun ⟨all, same, fits⟩ => ⟨⟨rest, fun nothing => some_ (by rw [nothing]), all, same, .inr sign⟩, fits⟩
    · rintro ⟨⟨digits, -, all, same, bare | signed⟩, fits⟩
      · exact absurd (bare.symm.trans sign) (plus digits all rest)
      · rw [sign] at signed
        obtain rfl := (List.cons.inj signed).2
        exact ⟨all, same, fits⟩
  · next some_ _ unsigned =>
    rw [readDigits_eq_ok (Nat.zero_le limit)]
    constructor
    · exact fun ⟨all, same, fits⟩ => ⟨⟨s.toList, some_, all, same, .inl rfl⟩, fits⟩
    · rintro ⟨⟨digits, -, all, same, bare | signed⟩, fits⟩
      · rw [bare]
        exact ⟨all, same, fits⟩
      · exact absurd signed (unsigned digits)

end ChainIndex.Text
