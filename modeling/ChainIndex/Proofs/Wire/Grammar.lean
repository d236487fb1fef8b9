import ChainIndex.Proofs.Wire.Values

/-!
# What stands on the wire

The wire format, written down without its readers. Bytes spell a number, a number is the key of a field, the layout in
the key says what stands behind it, and a message is a row of such fields (`Items`). What a field holds is bounded in
depth: a group holds a row of fields again, one level further down (`Holds`). Numbers and keys may be spelt longer
than the writers do.

**The readers read exactly this** (`Exact`). A reader succeeds on bytes that begin with what it is for, whatever stands
behind, and on no others. So nothing that it has read hangs on what comes later, and no bytes begin in two ways
(`Exact.unique`): a row of fields can be told apart in one way only (`Items.unique`).
-/

namespace ChainIndex.Wire

/-! ## The format -/

/-- Bytes that spell a number in groups of seven bits, the lowest first; all but the last have the high bit. -/
inductive Spells : List UInt8 → Nat → Prop
  | last {x : UInt8} (low : x.toNat < 128) : Spells [x] x.toNat
  | more {x : UInt8} {data : List UInt8} {n : Nat} (high : 128 ≤ x.toNat) (rest : Spells data n) :
    Spells (x :: data) (x.toNat - 128 + 128 * n)

/-- A number takes ten bytes at most and fits sixty-four bits. -/
structure IsNumber (data : List UInt8) (n : Nat) : Prop where
  spells : Spells data n
  short : data.length ≤ 10
  fits : n < 2 ^ 64

/-- The key of a field is its number and layout, spelt as one number. -/
structure IsKey (data : List UInt8) (k : Key) : Prop where
  named : IsTag k.tag
  number : IsNumber data (k.tag * 8 + k.wire.code)

/-- What a field holds. What stands in a group is not looked at. -/
inductive Value where
  | number (n : Nat)
  | fixed (data : List UInt8)
  | bytes (data : List UInt8)
  | group

/-- Bytes that stand for a value, by their layout. -/
inductive IsValue : WireType → List UInt8 → Value → Prop
  | varint {data : List UInt8} {n : Nat} (number : IsNumber data n) : IsValue .varint data (.number n)
  | fixed64 {data : List UInt8} (length : data.length = 8) : IsValue .fixed64 data (.fixed data)
  | fixed32 {data : List UInt8} (length : data.length = 4) : IsValue .fixed32 data (.fixed data)
  | delimited {head data : List UInt8} (declared : IsNumber head data.length) :
    IsValue .delimited (head ++ data) (.bytes data)

/-- A field: its number, and what it holds. -/
structure Item where
  tag : Nat
  value : Value

/-- A row of fields, given what may stand behind a key. -/
inductive Items (holds : Key → List UInt8 → Value → Prop) : List UInt8 → List Item → Prop
  | nil : Items holds [] []
  | cons {name data rest : List UInt8} {k : Key} {v : Value} {items : List Item} (named : IsKey name k)
    (value : holds k data v) (more : Items holds rest items) : Items holds (name ++ (data ++ rest)) (⟨k.tag, v⟩ :: items)

/-- What may stand behind a key, with so many levels left. A group ends with its own number. -/
def Holds : (depth : Nat) → Key → List UInt8 → Value → Prop
  | 0, _, _, _ => False
  | depth + 1, k, data, v =>
    IsValue k.wire data v ∨ k.wire = .startGroup ∧ v = .group ∧ ∃ inner closing items,
      data = inner ++ closing ∧ Items (Holds depth) inner items ∧ IsKey closing ⟨k.tag, .endGroup⟩

/-! ## Reading exactly -/

theorem Buffer.ofList_bytes (b : Buffer) : .ofList b.bytes = b :=
  Buffer.ext rfl

variable {α β ε : Type} {x y r s data rest : List UInt8} {b b' : Buffer} {n m depth tag : Nat} {k : Key}

/-- The reader takes off what satisfies `P`, and succeeds on nothing else. -/
def Exact (read : Buffer → Except ε (α × Buffer)) (P : List UInt8 → α → Prop) : Prop :=
  ∀ b a b', read b = .ok (a, b') ↔ ∃ data, b.bytes = data ++ b'.bytes ∧ P data a

namespace Exact

variable {read : Buffer → Except ε (α × Buffer)} {P : List UInt8 → α → Prop} {a a' : α}

theorem complete (h : Exact read P) (here : P data a) (rest : List UInt8) :
    read (.ofList (data ++ rest)) = .ok (a, .ofList rest) :=
  (h _ _ _).2 ⟨data, rfl, here⟩

theorem sound (h : Exact read P) (success : read b = .ok (a, b')) : ∃ data, b.bytes = data ++ b'.bytes ∧ P data a :=
  (h _ _ _).1 success

/-- **No bytes begin in two ways.** -/
theorem unique (h : Exact read P) (one : P x a) (other : P y a') (same : x ++ r = y ++ s) : a = a' ∧ x = y ∧ r = s := by
  have first := h.complete one r
  rw [same, h.complete other s] at first
  obtain ⟨rfl, here⟩ := Prod.mk.inj (Except.ok.inj first)
  obtain rfl : s = r := congrArg Buffer.bytes here
  exact ⟨rfl, List.append_cancel_right same, rfl⟩

theorem congr {Q : List UInt8 → α → Prop} (h : Exact read P) (same : ∀ data a, P data a ↔ Q data a) : Exact read Q := by
  intro b a b'
  simp only [h b a b', same]

/-- One reader after another. -/
theorem bind {next : α → Buffer → Except ε (β × Buffer)} {Q : α → List UInt8 → β → Prop} (h : Exact read P)
    (h' : ∀ a, Exact (next a) (Q a)) :
    Exact (fun b => read b >>= fun p => next p.1 p.2) fun data c =>
      ∃ a front back, data = front ++ back ∧ P front a ∧ Q a back c := by
  intro b c b'
  constructor
  · intro success
    change (read b >>= fun p => next p.1 p.2) = .ok (c, b') at success
    cases first : read b with
    | error e =>
      rw [first] at success
      cases success
    | ok p =>
      obtain ⟨a, mid⟩ := p
      rw [first] at success
      obtain ⟨front, here, one⟩ := h.sound first
      obtain ⟨back, there, other⟩ := (h' a).sound success
      exact ⟨front ++ back, by rw [here, there, List.append_assoc], a, front, back, rfl, one, other⟩
  · rintro ⟨data, here, a, front, back, rfl, one, other⟩
    have first := h.complete one (back ++ b'.bytes)
    rw [← List.append_assoc, ← here, b.ofList_bytes] at first
    have second := (h' a).complete other b'.bytes
    rw [b'.ofList_bytes] at second
    change (read b >>= fun p => next p.1 p.2) = .ok (c, b')
    rw [first]
    exact second

theorem pure (a : α) : Exact (fun b => (.ok (a, b) : Except ε (α × Buffer))) fun data c => data = [] ∧ c = a := by
  intro b c b'
  constructor
  · intro success
    obtain ⟨rfl, rfl⟩ := Prod.mk.inj (Except.ok.inj success)
    exact ⟨[], rfl, rfl, rfl⟩
  · rintro ⟨data, here, rfl, rfl⟩
    rw [Buffer.ext (show b.bytes = b'.bytes from here)]

end Exact

/-! ### Numbers -/

theorem Spells.pos (h : Spells data n) : 0 < data.length := by
  cases h <;> simp

theorem varintWithin_of_spells {budget : Nat} (h : Spells data n) (short : data.length ≤ budget + 1)
    (fits : n < 2 * 128 ^ budget) (rest : List UInt8) :
    varintWithin (budget + 1) (.ofList (data ++ rest)) = some (n, .ofList rest) := by
  induction h generalizing budget with
  | @last x low =>
    have last : ¬(budget = 0 ∧ 2 ≤ x.toNat) := by
      rintro ⟨rfl, two⟩
      omega
    rw [List.singleton_append, varintWithin, Buffer.next?_cons]
    simp only [if_pos low, if_neg last]
  | @more x data n high spells ih =>
    have positive := spells.pos
    rw [List.length_cons] at short
    obtain ⟨budget, rfl⟩ : ∃ m, budget = m + 1 := ⟨budget - 1, by omega⟩
    rw [Nat.pow_succ] at fits
    rw [List.cons_append, varintWithin, Buffer.next?_cons]
    have later : varintWithin (budget + 1) (.ofList (data ++ rest)) = some (n, .ofList rest) := ih (by omega) (by omega)
    simp only [if_neg (Nat.not_lt.2 high), later]

theorem spells_of_varintWithin {budget : Nat} (h : varintWithin (budget + 1) b = some (n, b')) :
    ∃ data, b.bytes = data ++ b'.bytes ∧ Spells data n ∧ data.length ≤ budget + 1 ∧ n < 2 * 128 ^ budget := by
  induction budget generalizing b n with
  | zero =>
    obtain ⟨bytes, rfl⟩ : ∃ bytes, b = .ofList bytes := ⟨b.bytes, b.ofList_bytes.symm⟩
    cases bytes with
    | nil => cases h
    | cons x bytes =>
      rw [varintWithin, Buffer.next?_cons] at h
      by_cases low : x.toNat < 128
      · simp only [if_pos low] at h
        split at h
        · cases h
        · next small =>
          obtain ⟨rfl, rfl⟩ := Prod.mk.inj (Option.some.inj h)
          exact ⟨[x], rfl, .last low, Nat.le_refl 1, by simp at small; omega⟩
      · simp only [if_neg low, varintWithin] at h
        cases h
  | succ budget ih =>
    obtain ⟨bytes, rfl⟩ : ∃ bytes, b = .ofList bytes := ⟨b.bytes, b.ofList_bytes.symm⟩
    have one : 0 < 128 ^ budget := Nat.pow_pos (by decide)
    cases bytes with
    | nil => cases h
    | cons x bytes =>
      have bound := x.toNat_lt
      rw [varintWithin, Buffer.next?_cons] at h
      by_cases low : x.toNat < 128
      · simp only [if_pos low] at h
        split at h
        · cases h
        · obtain ⟨rfl, rfl⟩ := Prod.mk.inj (Option.some.inj h)
          exact ⟨[x], rfl, .last low, by simp, by rw [Nat.pow_succ]; omega⟩
      · simp only [if_neg low] at h
        cases later : varintWithin (budget + 1) (.ofList bytes) with
        | none =>
          rw [later] at h
          cases h
        | some p =>
          obtain ⟨m, b₁⟩ := p
          rw [later] at h
          obtain ⟨rfl, rfl⟩ := Prod.mk.inj (Option.some.inj h)
          obtain ⟨data, here, spells, short, fits⟩ := ih later
          refine ⟨x :: data, ?_, .more (Nat.le_of_not_lt low) spells, Nat.succ_le_succ short, ?_⟩
          · exact congrArg (x :: ·) here
          · rw [Nat.pow_succ]
            omega

theorem varint_exact : Exact varint IsNumber := by
  intro b n b'
  rw [varint]
  constructor
  · intro success
    cases read : varintWithin 10 b with
    | none =>
      rw [read] at success
      cases success
    | some p =>
      rw [read] at success
      obtain rfl := Except.ok.inj success
      obtain ⟨data, here, spells, short, fits⟩ := spells_of_varintWithin read
      exact ⟨data, here, spells, short, fits⟩
  · rintro ⟨data, here, number⟩
    have read : varintWithin 10 (.ofList (data ++ b'.bytes)) = some (n, .ofList b'.bytes) :=
      varintWithin_of_spells number.spells number.short number.fits b'.bytes
    rw [← here, b.ofList_bytes, b'.ofList_bytes] at read
    rw [read]

/-! ### Keys -/

theorem WireType.ofCode?_eq_some {code : Nat} {wire : WireType} : WireType.ofCode? code = some wire ↔ code = wire.code := by
  constructor
  · intro h
    unfold WireType.ofCode? at h
    split at h <;> cases h <;> rfl
  · rintro rfl
    exact WireType.ofCode?_code wire

theorem key_exact : Exact key IsKey := by
  intro b k b'
  constructor
  · intro success
    unfold key at success
    cases read : varint b with
    | error e =>
      rw [read] at success
      cases success
    | ok p =>
      obtain ⟨n, b₁⟩ := p
      rw [read] at success
      simp only [bind, Except.bind] at success
      split at success
      · cases success
      · next size =>
        split at success
        · cases success
        · next wire layout =>
          split at success
          · cases success
          · next positive =>
            obtain ⟨rfl, rfl⟩ := Prod.mk.inj (Except.ok.inj success)
            obtain ⟨data, here, number⟩ := varint_exact.sound read
            rw [UInt32.size] at size
            have code := WireType.ofCode?_eq_some.1 layout
            have whole : n / 8 * 8 + wire.code = n := by omega
            exact ⟨data, here, ⟨Nat.pos_of_ne_zero positive, by change n / 8 < 2 ^ 29; omega⟩, whole.symm ▸ number⟩
  · rintro ⟨data, here, ⟨positive, bound⟩, number⟩
    have read := varint_exact.complete number b'.bytes
    rw [← here, b.ofList_bytes, b'.ofList_bytes] at read
    have code := k.wire.code_lt
    have layout : (k.tag * 8 + k.wire.code) % 8 = k.wire.code := by omega
    have number' : (k.tag * 8 + k.wire.code) / 8 = k.tag := by omega
    have size : ¬UInt32.size ≤ k.tag * 8 + k.wire.code := by
      rw [UInt32.size]
      omega
    rw [key, read]
    simp only [bind, Except.bind, if_neg size, layout, number', WireType.ofCode?_code]
    rw [if_neg (by omega)]

theorem IsKey.pos (h : IsKey data k) : 0 < data.length := h.number.spells.pos

/-! ### Values -/

theorem takeBytes_exact (n : Nat) : Exact (takeBytes n) fun data taken => data = taken ∧ taken.length = n := by
  intro b taken b'
  rw [takeBytes, Buffer.take?]
  constructor
  · intro success
    by_cases enough : n ≤ b.size
    · rw [if_pos enough] at success
      obtain ⟨rfl, rfl⟩ := Prod.mk.inj (Except.ok.inj success)
      refine ⟨_, (List.take_append_drop n b.bytes).symm, rfl, ?_⟩
      rw [List.length_take, b.size_eq]
      exact Nat.min_eq_left enough
    · rw [if_neg enough] at success
      cases success
  · rintro ⟨data, here, rfl, rfl⟩
    have size : b.size = data.length + b'.size := by rw [← b.size_eq, here, List.length_append, b'.size_eq]
    rw [if_pos (by omega)]
    refine congrArg Except.ok (Prod.ext ?_ (Buffer.ext ?_))
    · change b.bytes.take data.length = data
      rw [here, List.take_left]
    · change b.bytes.drop data.length = b'.bytes
      rw [here, List.drop_left]

theorem expect_eq_ok {wire expected : WireType} : expect wire expected = .ok () ↔ wire = expected := by
  unfold expect
  split <;> simp [*]

/-- A reader for values of one layout. -/
theorem Exact.expecting {wire expected : WireType} {read : Buffer → Except Fault (α × Buffer)}
    {P : List UInt8 → α → Prop} (h : Exact read P) :
    Exact (fun b => expect wire expected >>= fun _ => read b) fun data a => wire = expected ∧ P data a := by
  intro b a b'
  cases fits : expect wire expected with
  | error e =>
    have other : wire ≠ expected := fun same => by
      rw [expect_eq_ok.2 same] at fits
      cases fits
    constructor
    · intro success
      cases success
    · rintro ⟨-, -, same, -⟩
      exact absurd same other
  | ok _ =>
    have same := expect_eq_ok.1 fits
    exact (h b a b').trans (by simp [same])

theorem int64_exact (wire : WireType) : Exact (int64 wire) fun data v =>
    wire = .varint ∧ ∃ n, IsNumber data n ∧ v = n.toUInt64.toInt64 := by
  have value := varint_exact.bind (ε := Fault) fun n => Exact.pure (ε := Fault) n.toUInt64.toInt64
  refine value.expecting.congr fun data v => and_congr_right fun _ => ?_
  constructor
  · rintro ⟨n, front, back, rfl, number, rfl, rfl⟩
    exact ⟨n, by rwa [List.append_nil], rfl⟩
  · rintro ⟨n, number, rfl⟩
    exact ⟨n, data, [], (List.append_nil _).symm, number, rfl, rfl⟩

theorem bytes_exact (wire : WireType) : Exact (bytes wire) fun data payload =>
    wire = .delimited ∧ ∃ head, data = head ++ payload ∧ IsNumber head payload.length := by
  have value := varint_exact.bind fun n => takeBytes_exact n
  refine value.expecting.congr fun data payload => and_congr_right fun _ => ?_
  constructor
  · rintro ⟨_, head, _, rfl, number, rfl, rfl⟩
    exact ⟨head, rfl, number⟩
  · rintro ⟨head, rfl, number⟩
    exact ⟨_, head, payload, rfl, number, rfl, rfl⟩

theorem text_exact (wire : WireType) : Exact (text wire) fun data s =>
    wire = .delimited ∧ ∃ head payload, data = head ++ payload ∧ IsNumber head payload.length ∧
      String.fromUTF8? ⟨payload.toArray⟩ = some s := by
  intro b s b'
  have decoded : text wire b = .ok (s, b') ↔
      ∃ payload, bytes wire b = .ok (payload, b') ∧ String.fromUTF8? ⟨payload.toArray⟩ = some s := by
    rw [text]
    rcases bytes wire b with e | ⟨payload, b₁⟩
    · simp [bind, Except.bind]
    · cases valid : String.fromUTF8? ⟨payload.toArray⟩ with
      | none =>
        simp only [bind, Except.bind, valid]
        simp only [reduceCtorEq, Except.ok.injEq, Prod.mk.injEq, false_iff]
        rintro ⟨_, ⟨rfl, -⟩, absent⟩
        rw [valid] at absent
        cases absent
      | some t =>
        simp only [bind, Except.bind, valid, Except.ok.injEq, Prod.mk.injEq]
        constructor
        · rintro ⟨rfl, rfl⟩
          exact ⟨payload, ⟨rfl, rfl⟩, valid⟩
        · rintro ⟨_, ⟨rfl, rfl⟩, found⟩
          exact ⟨Option.some.inj (valid.symm.trans found), rfl⟩
  rw [decoded]
  constructor
  · rintro ⟨payload, read, valid⟩
    obtain ⟨_, here, same, head, rfl, number⟩ := (bytes_exact wire).sound read
    exact ⟨_, here, same, head, payload, rfl, number, valid⟩
  · rintro ⟨_, here, same, head, payload, rfl, number, valid⟩
    exact ⟨payload, (bytes_exact wire _ _ _).2 ⟨_, here, same, head, rfl, number⟩, valid⟩

/-! ### Fields that the reader does not know -/

/-- Skipping a value leaves nothing but the bytes behind it. -/
def skipped (depth : Nat) (k : Key) (b : Buffer) : Except Fault (Unit × Buffer) :=
  Prod.mk () <$> skipValue depth k b

theorem skipped_eq_ok : skipped depth k b = .ok ((), b') ↔ skipValue depth k b = .ok b' := by
  rw [skipped]
  cases skipValue depth k b <;> simp [Functor.map, Except.map]

theorem map_snd_eq_ok {read : Except Fault (α × Buffer)} : (·.2) <$> read = .ok b' ↔ ∃ a, read = .ok (a, b') := by
  rcases read with e | ⟨a, b⟩ <;> simp [Functor.map, Except.map]

theorem skipGroup_eq_ok {fuel : Nat} (skips : ∀ k, Exact (skipped depth k) fun data _ => ∃ v, Holds depth k data v)
    (enough : b.size < fuel) :
    skipGroup (skipValue depth) tag fuel b = .ok b' ↔ ∃ inner closing items,
      b.bytes = inner ++ closing ++ b'.bytes ∧ Items (Holds depth) inner items ∧ IsKey closing ⟨tag, .endGroup⟩ := by
  constructor
  · intro success
    clear enough
    induction fuel generalizing b with
    | zero => cases success
    | succ fuel ih =>
      rw [skipGroup] at success
      cases read : key b with
      | error e =>
        rw [read] at success
        cases success
      | ok p =>
        obtain ⟨k, b₁⟩ := p
        obtain ⟨name, here, named⟩ := key_exact.sound read
        simp only [read, bind, Except.bind] at success
        by_cases ending : k.wire = .endGroup
        · rw [if_pos ending] at success
          split at success
          · next same =>
            obtain rfl := Except.ok.inj success
            obtain rfl : k = ⟨tag, .endGroup⟩ := by rw [← same, ← ending]
            exact ⟨[], name, [], here, .nil, named⟩
          · cases success
        · rw [if_neg ending] at success
          cases skip : skipValue depth k b₁ with
          | error e =>
            rw [skip] at success
            cases success
          | ok b₂ =>
            rw [skip] at success
            obtain ⟨data, there, v, value⟩ := (skips k).sound (skipped_eq_ok.2 skip)
            obtain ⟨inner, closing, items, later, more, closed⟩ := ih success
            refine ⟨name ++ (data ++ inner), closing, _, ?_, .cons named value more, closed⟩
            rw [here, there, later]
            simp only [List.append_assoc]
  · rintro ⟨inner, closing, items, here, more, closed⟩
    induction more generalizing b fuel with
    | nil =>
      obtain ⟨fuel, rfl⟩ : ∃ m, fuel = m + 1 := ⟨fuel - 1, by omega⟩
      have read : key b = .ok (⟨tag, .endGroup⟩, b') := (key_exact _ _ _).2 ⟨closing, here, closed⟩
      rw [skipGroup, read]
      simp [bind, Except.bind]
    | @cons name data inner k v items named value more ih =>
      obtain ⟨fuel, rfl⟩ : ∃ m, fuel = m + 1 := ⟨fuel - 1, by omega⟩
      have ending : k.wire ≠ .endGroup := by
        intro same
        cases depth with
        | zero => exact value
        | succ depth =>
          rcases value with value | ⟨start, -⟩
          · rw [same] at value
            cases value
          · rw [same] at start
            cases start
      have read : key b = .ok (k, .ofList (data ++ (inner ++ closing ++ b'.bytes))) :=
        (key_exact _ _ _).2 ⟨name, by rw [here]; simp, named⟩
      have skip : skipValue depth k (.ofList (data ++ (inner ++ closing ++ b'.bytes))) =
          .ok (.ofList (inner ++ closing ++ b'.bytes)) :=
        skipped_eq_ok.1 (((skips k) _ _ _).2 ⟨data, rfl, v, value⟩)
      have fewer : (Buffer.ofList (inner ++ closing ++ b'.bytes)).size < fuel := by
        have whole := congrArg List.length here
        have positive := named.pos
        rw [b.size_eq] at whole
        simp only [List.length_append, Buffer.size_ofList] at whole ⊢
        omega
      rw [skipGroup, read]
      simp only [bind, Except.bind, if_neg ending, skip]
      exact ih fewer rfl

/-- Behind a key that begins no group there stands a value of its layout. -/
theorem holds_iff {v : Value} {wire : WireType} (plain : wire ≠ .startGroup) :
    Holds (depth + 1) ⟨tag, wire⟩ data v ↔ IsValue wire data v :=
  or_iff_left fun group => plain group.1

/-- A value is skipped if it is read and dropped. -/
theorem skips_of_reader {read : Buffer → Except Fault (α × Buffer)} {P : List UInt8 → α → Prop} (exact_ : Exact read P)
    (skips : skipValue depth k b = (·.2) <$> read b) (values : ∀ data, (∃ v, Holds depth k data v) ↔ ∃ a, P data a) :
    skipValue depth k b = .ok b' ↔ ∃ data, b.bytes = data ++ b'.bytes ∧ ∃ v, Holds depth k data v := by
  rw [skips, map_snd_eq_ok]
  constructor
  · rintro ⟨a, success⟩
    obtain ⟨data, here, holds⟩ := exact_.sound success
    exact ⟨data, here, (values data).2 ⟨a, holds⟩⟩
  · rintro ⟨data, here, value⟩
    obtain ⟨a, holds⟩ := (values data).1 value
    exact ⟨a, (exact_ _ _ _).2 ⟨data, here, holds⟩⟩

/-- **What is skipped is a value, and any value can be skipped.** By induction on the depth; in a group the fields stand
one level further down. -/
theorem skipped_exact (depth : Nat) (k : Key) : Exact (skipped depth k) fun data _ => ∃ v, Holds depth k data v := by
  induction depth generalizing k with
  | zero =>
    rintro b - b'
    constructor
    · intro success
      cases success
    · rintro ⟨_, -, v, value⟩
      exact value.elim
  | succ depth ih =>
    rintro b ⟨⟩ b'
    obtain ⟨tag, wire⟩ := k
    rw [skipped_eq_ok]
    cases wire with
    | varint =>
      refine skips_of_reader varint_exact ?_ fun data => ?_
      · rw [skipValue]
        rcases varint b with e | ⟨n, b₁⟩ <;> rfl
      · simp (disch := decide) only [holds_iff]
        constructor
        · rintro ⟨v, value⟩
          cases value with
          | @varint _ n number => exact ⟨n, number⟩
        · rintro ⟨n, number⟩
          exact ⟨_, .varint number⟩
    | fixed64 | fixed32 =>
      refine skips_of_reader (takeBytes_exact _) (by rw [skipValue]) fun data => ?_
      simp (disch := decide) only [holds_iff]
      constructor
      · rintro ⟨v, value⟩
        cases value
        next length => exact ⟨data, rfl, length⟩
      · rintro ⟨_, rfl, length⟩
        first
        | exact ⟨_, .fixed64 length⟩
        | exact ⟨_, .fixed32 length⟩
    | delimited =>
      refine skips_of_reader (bytes_exact .delimited) ?_ fun data => ?_
      · rw [skipValue, bytes, expect, if_pos rfl]
        rcases varint b with e | ⟨n, b₁⟩ <;> rfl
      · simp (disch := decide) only [holds_iff]
        constructor
        · rintro ⟨v, value⟩
          cases value with
          | delimited number => exact ⟨_, trivial, _, rfl, number⟩
        · rintro ⟨payload, -, head, rfl, number⟩
          exact ⟨_, .delimited number⟩
    | startGroup =>
      rw [skipValue, skipGroup_eq_ok ih (Nat.lt_succ_self _)]
      constructor
      · rintro ⟨inner, closing, items, here, more, closed⟩
        exact ⟨_, here, _, .inr ⟨rfl, rfl, inner, closing, items, rfl, more, closed⟩⟩
      · rintro ⟨_, here, v, value | ⟨-, -, inner, closing, items, rfl, more, closed⟩⟩
        · cases value
        · exact ⟨inner, closing, items, here, more, closed⟩
    | endGroup =>
      rw [skipValue]
      constructor
      · intro success
        cases success
      · rintro ⟨_, -, v, value | ⟨other, -⟩⟩
        · cases value
        · cases other

theorem skipValue_complete {v : Value} (value : Holds depth k data v) (rest : List UInt8) :
    skipValue depth k (.ofList (data ++ rest)) = .ok (.ofList rest) :=
  skipped_eq_ok.1 ((skipped_exact depth k).complete (a := ()) ⟨v, value⟩ rest)

/-! ## Fields can be told apart in one way only -/

theorem IsValue.unique {wire : WireType} {v w : Value} (one : IsValue wire data v) (other : IsValue wire data w) :
    v = w := by
  cases one with
  | varint number =>
    cases other with
    | varint number' => rw [(varint_exact.unique (r := []) number number' rfl).1]
  | fixed64 | fixed32 =>
    cases other
    rfl
  | @delimited head payload declared =>
    generalize here : head ++ payload = data at other
    cases other with
    | @delimited head' payload' declared' =>
      have read := (bytes_exact .delimited).unique (r := []) (s := []) ⟨rfl, head, rfl, declared⟩
        ⟨rfl, head', rfl, declared'⟩ (by rw [here])
      rw [read.1]

/-- No bytes begin with two values of one key. -/
theorem Holds.unique {v w : Value} (one : Holds depth k x v) (other : Holds depth k y w) (same : x ++ r = y ++ s) :
    v = w ∧ x = y ∧ r = s := by
  have read : () = () ∧ x = y ∧ r = s := (skipped_exact depth k).unique ⟨v, one⟩ ⟨w, other⟩ same
  obtain rfl := read.2.1
  refine ⟨?_, read.2⟩
  cases depth with
  | zero => exact one.elim
  | succ depth =>
    rcases one with one | ⟨start, rfl, -⟩
    · rcases other with other | ⟨start, -⟩
      · exact one.unique other
      · rw [start] at one
        cases one
    · rcases other with other | ⟨-, rfl, -⟩
      · rw [start] at other
        cases other
      · rfl

/-- **A row of fields is one row only.** -/
theorem Items.unique {items items' : List Item} (one : Items (Holds depth) data items)
    (other : Items (Holds depth) data items') : items = items' := by
  induction one generalizing items' with
  | nil =>
    generalize here : ([] : List UInt8) = data at other
    cases other with
    | nil => rfl
    | cons named _ _ =>
      have positive := named.pos
      rw [List.nil_eq_append_iff] at here
      simp [here.1] at positive
  | @cons name front rest k v items named value more ih =>
    generalize here : name ++ (front ++ rest) = data at other
    cases other with
    | nil =>
      have positive := named.pos
      rw [List.append_eq_nil_iff] at here
      simp [here.1] at positive
    | @cons name' front' rest' k' v' items' named' value' more' =>
      obtain ⟨rfl, -, behind⟩ := key_exact.unique named named' here
      obtain ⟨rfl, -, rfl⟩ := value.unique value' behind
      rw [ih more']

end ChainIndex.Wire
