import ChainIndex.Json.Syntax
import Mathlib.Data.List.Forall2
import Mathlib.Tactic.IntervalCases

/-!
# Reading a text that is written without white space

`Takes` says that a text takes the reader from one state to another, wherever it stands. A number goes on as long as it
can, so this is asked only of places where something comes next that may follow a value (`Ends`). Texts that are
written one after another take the reader as far as each of them does, and so what is read in an array or an object
comes down to what is read in its parts (`Denotes.arr`, `Denotes.obj`).

A numeral is sound if it can be spelled: it has digits before its point, the first of which is no zero that could be
left out, and digits behind its exponent's sign if it has an exponent. The text of a sound numeral is read as that
numeral (`denotes_number`).

A text that takes the reader from the beginning of a value to its end is the text of that value
(`parse?_of_denotes`).
-/

namespace ChainIndex.Json

variable {after text text' : List UInt8} {t : Token} {ts ts' : List Token} {s s' s'' : State} {j : Syntax}

/-- Characters as bytes. -/
def bytesOf (cs : List Char) : List UInt8 := cs.flatMap String.utf8EncodeChar

theorem bytesOf_append (cs cs' : List Char) : bytesOf (cs ++ cs') = bytesOf cs ++ bytesOf cs' := List.flatMap_append

/-- What may follow a value: the end, or a character that ends it. -/
def Ends (after : List UInt8) : Prop := ∀ b ∈ after.head?, b = 44 ∨ b = 93 ∨ b = 125

theorem ends_nil : Ends [] := nofun

theorem ends_cons {b : UInt8} (ends : b = 44 ∨ b = 93 ∨ b = 125) (rest : List UInt8) : Ends (b :: rest) := by
  intro b' head
  obtain rfl := Option.some.inj head
  exact ends

/-! ## Cutting -/

/-- Where something follows it, a text that has no white space is cut into tokens. -/
inductive Lexes (after : List UInt8) : List UInt8 → List Token → Prop
  | nil : Lexes after [] []
  | cons {b : UInt8} {own text : List UInt8} {t : Token} {ts : List Token} (visible : isSpace b = false)
      (cut : token? (b :: (own ++ (text ++ after))) = some (t, text ++ after)) (later : Lexes after text ts) :
      Lexes after (b :: (own ++ text)) (t :: ts)

theorem Lexes.append (first : Lexes (text' ++ after) text ts) (second : Lexes after text' ts') :
    Lexes after (text ++ text') (ts ++ ts') := by
  induction first with
  | nil => exact second
  | cons visible cut later ih =>
    rw [List.cons_append, List.append_assoc]
    exact .cons visible (by simpa only [List.append_assoc] using cut) ih

/-- There are no more tokens than characters. -/
theorem Lexes.length_le (h : Lexes after text ts) : ts.length ≤ text.length := by
  induction h with
  | nil => exact Nat.le_refl 0
  | cons visible cut later ih =>
    simp only [List.length_cons, List.length_append]
    omega

theorem tokensOnto_of_lexes (h : Lexes [] text ts) (done : List Token) {fuel : Nat} (enough : ts.length ≤ fuel) :
    tokensOnto done fuel text = some (done.reverse ++ ts) := by
  induction h generalizing done fuel with
  | nil => cases fuel <;> simp [tokensOnto]
  | @cons b own text t ts visible cut later ih =>
    cases fuel with
    | zero => cases enough
    | succ fuel =>
      have shown : (b :: (own ++ text)).dropWhile isSpace = b :: (own ++ text) :=
        List.dropWhile_cons_of_neg (by simp [visible])
      rw [List.append_nil] at cut
      rw [tokensOnto, shown]
      simp only [cut, ih (t :: done) (Nat.le_of_succ_le_succ enough), List.reverse_cons, List.append_assoc,
        List.singleton_append]

theorem tokens_of_lexes (h : Lexes [] text ts) : tokens text = some ts :=
  tokensOnto_of_lexes h [] h.length_le

/-! ## Reading -/

/-- The text takes the reader from a state to another, wherever a value may end behind it. -/
def Takes (text : List UInt8) (s s' : State) : Prop :=
  ∀ after, Ends after → ∃ ts, Lexes after text ts ∧ ∀ more, run s (ts ++ more) = run s' more

theorem Takes.nothing : Takes [] s s := fun _ _ => ⟨[], .nil, fun _ => rfl⟩

/-- One token, which takes its step whatever follows it. -/
theorem Takes.token {b : UInt8} {own : List UInt8} (visible : isSpace b = false)
    (cut : ∀ rest, token? (b :: (own ++ rest)) = some (t, rest)) (steps : step s t = some s')
    (later : Takes text s' s'') : Takes (b :: (own ++ text)) s s'' := by
  intro after ends
  obtain ⟨ts, lexes, reads⟩ := later after ends
  refine ⟨t :: ts, .cons visible (cut _) lexes, fun more => ?_⟩
  rw [List.cons_append, run, steps]
  exact reads more

/-- A token of one character. -/
theorem Takes.sign {b : UInt8} (visible : isSpace b = false) (cut : ∀ rest, token? (b :: rest) = some (t, rest))
    (steps : step s t = some s') (later : Takes text s' s'') : Takes (b :: text) s s'' :=
  show Takes (b :: ([] ++ text)) s s'' from .token visible cut steps later

/-- One text after another, if a value may end before the second. -/
theorem Takes.append (first : Takes text s s') (second : Takes text' s' s'')
    (ends : ∀ {after}, Ends after → Ends (text' ++ after)) : Takes (text ++ text') s s'' := by
  intro after last
  obtain ⟨ts, lexes, reads⟩ := first (text' ++ after) (ends last)
  obtain ⟨ts', lexes', reads'⟩ := second after last
  refine ⟨ts ++ ts', lexes.append lexes', fun more => ?_⟩
  rw [List.append_assoc, reads, reads']

/-- The text is the text of a value, wherever a value may stand. -/
def Denotes (text : List UInt8) (j : Syntax) : Prop := ∀ stack, Takes text (.value stack) (.after j stack)

/-- **The text of a value is read as that value.** -/
theorem parse?_of_denotes (h : Denotes text j) : Syntax.parse? text = some j := by
  obtain ⟨ts, lexes, reads⟩ := h [] [] ends_nil
  have ran := reads []
  rw [List.append_nil] at ran
  simp only [Syntax.parse?, tokens_of_lexes lexes, Option.bind_eq_bind, Option.bind_some, ran, run]

theorem Denotes.single {b : UInt8} {own : List UInt8} (visible : isSpace b = false)
    (cut : ∀ rest, token? (b :: (own ++ rest)) = some (t, rest))
    (starts : ∀ stack, startValue stack t = some (.after j stack)) : Denotes (b :: own) j := by
  intro stack
  have takes : Takes (b :: (own ++ [])) (.value stack) (.after j stack) := .token visible cut (starts stack) .nothing
  rwa [List.append_nil] at takes

theorem denotes_null : Denotes [110, 117, 108, 108] .null := .single rfl (fun _ => rfl) fun _ => rfl

theorem denotes_true : Denotes [116, 114, 117, 101] (.bool true) := .single rfl (fun _ => rfl) fun _ => rfl

theorem denotes_false : Denotes [102, 97, 108, 115, 101] (.bool false) := .single rfl (fun _ => rfl) fun _ => rfl

/-! ## Strings -/

/-- The bytes may stand between quotes. -/
def Quotable (raw : List UInt8) : Prop :=
  ∀ done rest, stringOnto done (raw ++ 34 :: rest) = some (done.reverse ++ raw, rest)

theorem Quotable.token? {raw : List UInt8} (sound : Quotable raw) (rest : List UInt8) :
    token? (34 :: (raw ++ [34] ++ rest)) = some (.str raw, rest) := by
  change (stringOnto [] (raw ++ [34] ++ rest)).map (fun r => (Token.str r.1, r.2)) = _
  rw [List.append_assoc, List.singleton_append, sound]
  rfl

theorem denotes_str {raw : List UInt8} (sound : Quotable raw) : Denotes (34 :: (raw ++ [34])) (.str raw) :=
  .single rfl sound.token? fun _ => rfl

/-! ## Numbers -/

/-- A digit as it is written. -/
def digitByte (d : Nat) : UInt8 := UInt8.ofNat (48 + d)

/-- Digits as they are written. -/
def spell (ds : List Nat) : List UInt8 := ds.map digitByte

/-- A number goes on with no digit. -/
def NoDigit (rest : List UInt8) : Prop := ∀ b ∈ rest.head?, digit? b = none

theorem digit?_digitByte {d : Nat} (small : d < 10) : digit? (digitByte d) = some d := by
  interval_cases d <;> rfl

theorem digitsOnto_spell {ds : List Nat} (small : ∀ d ∈ ds, d < 10) (done : List Nat) {rest : List UInt8}
    (over_ : NoDigit rest) : digitsOnto done (spell ds ++ rest) = (done.reverse ++ ds, rest) := by
  induction ds generalizing done with
  | nil =>
    cases rest with
    | nil => simp [spell, digitsOnto]
    | cons b rest => simp [spell, digitsOnto, over_ b rfl]
  | cons d ds ih =>
    obtain ⟨first, small⟩ := List.forall_mem_cons.1 small
    change digitsOnto done (digitByte d :: (spell ds ++ rest)) = _
    rw [digitsOnto, digit?_digitByte first]
    simpa using ih small (d :: done)

/-- Written digits are read as they are, as far as they go. -/
theorem digits_spell {ds : List Nat} (small : ∀ d ∈ ds, d < 10) {rest : List UInt8} (over_ : NoDigit rest) :
    digits (spell ds ++ rest) = (ds, rest) :=
  digitsOnto_spell small [] over_

namespace Numeral

/-- The part behind a point. -/
def fractionBytes : List Nat → List UInt8
  | [] => []
  | d :: ds => 46 :: spell (d :: ds)

/-- The exponent, if there is one. -/
def exponentBytes : Option (Bool × List Nat) → List UInt8
  | none => []
  | some (below, ds) => 101 :: ((if below then [45] else []) ++ spell ds)

/-- A numeral as it is written, without its sign. -/
def unsigned (n : Numeral) : List UInt8 := spell n.whole ++ (fractionBytes n.fraction ++ exponentBytes n.exponent)

/-- A numeral as it is written. -/
def bytes (n : Numeral) : List UInt8 := if n.negative then 45 :: n.unsigned else n.unsigned

/-- The numeral can be written. -/
structure Sound (n : Numeral) : Prop where
  some_ : n.whole ≠ []
  unpadded : n.whole.head? = some 0 → n.whole = [0]
  whole : ∀ d ∈ n.whole, d < 10
  fraction : ∀ d ∈ n.fraction, d < 10
  exponent : ∀ below ds, n.exponent = some (below, ds) → ds ≠ [] ∧ ∀ d ∈ ds, d < 10

variable {n : Numeral} {rest : List UInt8}

theorem noDigit_of_ends (ends : Ends rest) : NoDigit rest := by
  intro b head
  rcases ends b head with rfl | rfl | rfl <;> rfl

theorem noDigit_exponentBytes (exponent : Option (Bool × List Nat)) (ends : Ends rest) :
    NoDigit (exponentBytes exponent ++ rest) := by
  cases exponent with
  | none => exact noDigit_of_ends ends
  | some e =>
    intro b head
    obtain rfl := Option.some.inj head
    rfl

theorem exponent?_exponentBytes {exponent : Option (Bool × List Nat)}
    (sound : ∀ below ds, exponent = some (below, ds) → ds ≠ [] ∧ ∀ d ∈ ds, d < 10) (ends : Ends rest) :
    exponent? (exponentBytes exponent ++ rest) = some (exponent, rest) := by
  match exponent with
  | none =>
    cases rest with
    | nil => rfl
    | cons b rest =>
      rcases ends b rfl with rfl | rfl | rfl <;> rfl
  | some (below, ds) =>
    obtain ⟨some_, small⟩ := sound below ds rfl
    have read := digits_spell small (noDigit_of_ends ends)
    obtain ⟨d, ds, rfl⟩ := List.exists_cons_of_ne_nil some_
    cases below with
    | true =>
      change exponent? (101 :: 45 :: (spell (d :: ds) ++ rest)) = _
      simp only [exponent?, read, true_or, if_true]
    | false =>
      change digits (digitByte d :: (spell ds ++ rest)) = _ at read
      change exponent? (101 :: digitByte d :: (spell ds ++ rest)) = _
      -- A digit is no sign, so the digits begin where the sign could stand.
      have first := small d List.mem_cons_self
      have unsigned : digitByte d ≠ 45 ∧ digitByte d ≠ 43 := by
        interval_cases d <;> decide
      simp [exponent?, unsigned, read]

theorem fraction?_fractionBytes {fraction : List Nat} (small : ∀ d ∈ fraction, d < 10)
    (exponent : Option (Bool × List Nat)) (ends : Ends rest) :
    fraction? (fractionBytes fraction ++ (exponentBytes exponent ++ rest)) =
      some (fraction, exponentBytes exponent ++ rest) := by
  cases fraction with
  | nil =>
    have pointless : ∀ tail, exponentBytes exponent ++ rest ≠ 46 :: tail := by
      intro tail same
      cases exponent with
      | none => exact absurd (ends 46 (by rw [show rest = 46 :: tail from same]; rfl)) (by decide)
      | some e => cases same
    change fraction? (exponentBytes exponent ++ rest) = _
    rw [fraction?.eq_def]
    split
    · next tail same => exact absurd same (pointless tail)
    · rfl
  | cons d ds =>
    have read := digits_spell small (noDigit_exponentBytes exponent ends)
    change fraction? (46 :: (spell (d :: ds) ++ (exponentBytes exponent ++ rest))) = _
    rw [fraction?, read]

theorem noDigit_fractionBytes (fraction : List Nat) (exponent : Option (Bool × List Nat)) (ends : Ends rest) :
    NoDigit (fractionBytes fraction ++ (exponentBytes exponent ++ rest)) := by
  cases fraction with
  | nil => exact noDigit_exponentBytes exponent ends
  | cons d ds =>
    intro b head
    obtain rfl := Option.some.inj head
    rfl

/-- What follows the sign of a number is read as the rest of it. -/
theorem numeral?_unsigned (sound : n.Sound) (ends : Ends rest) :
    numeral? n.negative (n.unsigned ++ rest) = some (n, rest) := by
  have whole := digits_spell sound.whole (noDigit_fractionBytes n.fraction n.exponent ends)
  have fraction := fraction?_fractionBytes sound.fraction n.exponent ends
  have exponent := exponent?_exponentBytes sound.exponent ends
  rw [unsigned, List.append_assoc, List.append_assoc, numeral?, whole]
  split
  · next same => exact absurd (Prod.mk.inj same).1 sound.some_
  · next d ds _ same =>
    have padded := (Prod.mk.inj same).1
    have alone := sound.unpadded (by rw [padded]; rfl)
    rw [padded] at alone
    cases alone
  · next same =>
    obtain ⟨rfl, rfl⟩ := Prod.mk.inj same
    simp only [fraction, exponent, Option.bind_eq_bind, Option.bind_some]

/-- A number without a sign begins with a digit. -/
theorem exists_unsigned (sound : n.Sound) : ∃ d < 10, ∃ tail, n.unsigned = digitByte d :: tail := by
  obtain ⟨d, ds, first⟩ := List.exists_cons_of_ne_nil sound.some_
  exact ⟨d, sound.whole d (by simp [first]), _, by rw [unsigned, first]; rfl⟩

/-- A digit begins no other token. -/
theorem token?_digit {d : Nat} (small : d < 10) (text : List UInt8) :
    token? (digitByte d :: text) =
      (numeral? false (digitByte d :: text)).map fun (n, rest) => (.number n, rest) := by
  interval_cases d <;> rfl

theorem token?_bytes (sound : n.Sound) (ends : Ends rest) : token? (n.bytes ++ rest) = some (.number n, rest) := by
  have read := numeral?_unsigned sound ends
  rw [bytes]
  cases sign : n.negative with
  | true =>
    rw [sign] at read
    change (numeral? true (n.unsigned ++ rest)).map _ = _
    rw [read]
    rfl
  | false =>
    obtain ⟨d, small, tail, begins⟩ := exists_unsigned sound
    rw [sign, begins] at read
    change token? (n.unsigned ++ rest) = _
    rw [begins, List.cons_append, token?_digit small, ← List.cons_append, read]
    rfl

/-- A number begins with a character that can be seen. -/
theorem exists_bytes (sound : n.Sound) : ∃ b own, n.bytes = b :: own ∧ isSpace b = false := by
  rw [bytes]
  cases n.negative with
  | true => exact ⟨45, n.unsigned, rfl, rfl⟩
  | false =>
    obtain ⟨d, small, tail, begins⟩ := exists_unsigned sound
    exact ⟨digitByte d, tail, begins, by interval_cases d <;> rfl⟩

end Numeral

/-- **The text of a number is read as that number.** -/
theorem denotes_number {n : Numeral} (sound : n.Sound) : Denotes n.bytes (.number n) := by
  intro stack after ends
  have cut := Numeral.token?_bytes sound ends
  obtain ⟨b, own, begins, visible⟩ := Numeral.exists_bytes sound
  rw [begins] at cut ⊢
  have lexes : Lexes after (b :: (own ++ [])) [.number n] := .cons visible cut .nil
  rw [List.append_nil] at lexes
  exact ⟨_, lexes, fun _ => rfl⟩

/-! ## Containers -/

/-- What follows the first of several parts, up to the end of their container. -/
def further (close : UInt8) : List (List UInt8) → List UInt8
  | [] => [close]
  | text :: texts => 44 :: (text ++ further close texts)

/-- Parts between the ends of their container. -/
def enclosed (open_ close : UInt8) : List (List UInt8) → List UInt8
  | [] => [open_, close]
  | text :: texts => open_ :: (text ++ further close texts)

theorem ends_further {close : UInt8} (closes : close = 93 ∨ close = 125) (texts : List (List UInt8)) :
    Ends (further close texts ++ after) := by
  cases texts with
  | nil => exact ends_cons (.inr closes) after
  | cons => exact ends_cons (.inl rfl) _

/-- What begins a value begins an element: no value begins like the end of an array. -/
theorem Takes.firstElement {stack : List Frame}
    (h : Takes text (.value (.array [] :: stack)) (.after j (.array [] :: stack))) :
    Takes text (.arrayStart stack) (.after j (.array [] :: stack)) := by
  intro after ends
  obtain ⟨ts, lexes, reads⟩ := h after ends
  refine ⟨ts, lexes, fun more => ?_⟩
  rw [← reads more]
  cases ts with
  | nil => cases reads []
  | cons t ts =>
    have same : step (.arrayStart stack) t = step (.value (.array [] :: stack)) t := by
      cases t with
      | closeArray => cases reads []
      | _ => rfl
    rw [List.cons_append, run, run, same]

theorem Takes.elements {texts : List (List UInt8)} {js : List Syntax} (each : List.Forall₂ Denotes texts js)
    (done : List Syntax) (j : Syntax) (stack : List Frame) :
    Takes (further 93 texts) (.after j (.array done :: stack)) (.after (.arr (done.reverse ++ j :: js)) stack) := by
  induction each generalizing done j with
  | nil =>
    have closed : step (.after j (.array done :: stack)) .closeArray =
        some (.after (.arr (done.reverse ++ [j])) stack) := by
      rw [← List.reverse_cons]
      rfl
    exact .sign rfl (fun _ => rfl) closed .nothing
  | @cons text j' texts js reads each ih =>
    have rest := ih (j :: done) j'
    rw [List.reverse_cons, List.append_assoc, List.singleton_append] at rest
    have both := (reads (.array (j :: done) :: stack)).append rest fun _ => ends_further (.inl rfl) texts
    exact .sign rfl (fun _ => rfl) rfl both

/-- **An array is read element by element.** -/
theorem Denotes.arr {texts : List (List UInt8)} {js : List Syntax} (each : List.Forall₂ Denotes texts js) :
    Denotes (enclosed 91 93 texts) (.arr js) := by
  intro stack
  cases each with
  | nil => exact .sign rfl (fun _ => rfl) rfl (.sign rfl (fun _ => rfl) rfl .nothing)
  | @cons text j texts js reads each =>
    have first := (reads (.array [] :: stack)).firstElement
    have both := first.append (.elements each [] j stack) fun _ => ends_further (.inl rfl) texts
    exact .sign rfl (fun _ => rfl) rfl both

/-- A key and the text of its value. -/
def fieldText (f : List UInt8 × List UInt8) : List UInt8 := 34 :: (f.1 ++ [34] ++ 58 :: f.2)

/-- A text under a key is the text of a field. -/
def DenotesField (f : List UInt8 × List UInt8) (g : List UInt8 × Syntax) : Prop :=
  f.1 = g.1 ∧ Quotable g.1 ∧ Denotes f.2 g.2

theorem Takes.field {f : List UInt8 × List UInt8} {g : List UInt8 × Syntax} (reads : DenotesField f g)
    {done : List (List UInt8 × Syntax)} {stack : List Frame}
    (keyed : step s (.str g.1) = some (.colon done g.1 stack)) :
    Takes (fieldText f) s (.after g.2 (.field done g.1 :: stack)) := by
  obtain ⟨raw, text⟩ := f
  obtain ⟨raw', v⟩ := g
  obtain ⟨rfl, sound, value⟩ := reads
  exact .token rfl sound.token? keyed (.sign rfl (fun _ => rfl) rfl (value _))

theorem Takes.fields {fs : List (List UInt8 × List UInt8)} {gs : List (List UInt8 × Syntax)}
    (each : List.Forall₂ DenotesField fs gs) (done : List (List UInt8 × Syntax)) (key : List UInt8) (j : Syntax)
    (stack : List Frame) :
    Takes (further 125 (fs.map fieldText)) (.after j (.field done key :: stack))
      (.after (.obj (done.reverse ++ (key, j) :: gs)) stack) := by
  induction each generalizing done key j with
  | nil =>
    have closed : step (.after j (.field done key :: stack)) .closeObject =
        some (.after (.obj (done.reverse ++ [(key, j)])) stack) := by
      rw [← List.reverse_cons]
      rfl
    exact .sign rfl (fun _ => rfl) closed .nothing
  | @cons f g fs gs reads each ih =>
    have rest := ih ((key, j) :: done) g.1 g.2
    rw [List.reverse_cons, List.append_assoc, List.singleton_append] at rest
    have next : Takes (fieldText f) (.key ((key, j) :: done) stack)
        (.after g.2 (.field ((key, j) :: done) g.1 :: stack)) := .field reads rfl
    have both := next.append rest fun _ => ends_further (.inr rfl) (fs.map fieldText)
    exact .sign rfl (fun _ => rfl) rfl both

/-- **An object is read field by field.** -/
theorem Denotes.obj {fs : List (List UInt8 × List UInt8)} {gs : List (List UInt8 × Syntax)}
    (each : List.Forall₂ DenotesField fs gs) : Denotes (enclosed 123 125 (fs.map fieldText)) (.obj gs) := by
  intro stack
  cases each with
  | nil => exact .sign rfl (fun _ => rfl) rfl (.sign rfl (fun _ => rfl) rfl .nothing)
  | @cons f g fs gs reads each =>
    have first : Takes (fieldText f) (.objectStart stack) (.after g.2 (.field [] g.1 :: stack)) := .field reads rfl
    have both := first.append (.fields each [] g.1 g.2 stack) fun _ => ends_further (.inr rfl) (fs.map fieldText)
    exact .sign rfl (fun _ => rfl) rfl both

end ChainIndex.Json
