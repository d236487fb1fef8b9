import ChainIndex.Proofs.Envelope.Decoded
import ChainIndex.Proofs.Envelope.RoundTrip
import ChainIndex.Proofs.Wire.Laws

/-!
# Envelopes that stand one behind the other

The bytes of two envelopes, one behind the other, are an envelope again. Its messages are those of the first and then
those of the second; the memo is the second's if it has one; a fee is overridden field by field, and the coin in it
too. Which of these fields an envelope has is read off the wire without the decoder (`Raw.Carries`).

The reader obeys a law for each message of the envelope (`tx_lawful`, `fee_lawful`, `coin_lawful`): a part is set by
the fields of one number and left by all others (`Sets`), a list grows behind what is held, and what the fields of a
nested message do is what all of them would do in one message (`Through`).

**Theorem (`decodeTransaction_append`).** Envelopes merge in this way, for any bytes that are decoded and as long as
their messages are few enough together; and fields that an envelope has no place for change nothing but the hash,
wherever they are put between its fields.
-/

namespace ChainIndex

namespace Wire

variable {α β γ : Type} {depth tag tag' : Nat} {fs gs fs' gs' : List Item} {f g : α → α}

/-! ## Laws of one part -/

def tags (fs : List Item) : List Nat :=
  fs.map (·.tag)

@[simp] theorem tags_nil : tags [] = [] := rfl

@[simp] theorem tags_cons (item : Item) : tags (item :: fs) = item.tag :: tags fs := rfl

@[simp] theorem tags_append : tags (fs ++ gs) = tags fs ++ tags gs := List.map_append

/-- The fields of one number set a part, whatever is held, and all others leave it. -/
structure Sets (part : α → γ) (tag : Nat) (fs : List Item) (f : α → α) : Prop where
  set : tag ∈ tags fs → ∀ x y, part (f x) = part (f y)
  kept : tag ∉ tags fs → ∀ x, part (f x) = part x

namespace Sets

variable {part : α → γ}

theorem nil : Sets part tag [] id :=
  ⟨nofun, fun _ _ => rfl⟩

theorem append (first : Sets part tag fs f) (second : Sets part tag gs g) : Sets part tag (fs ++ gs) (g ∘ f) where
  set present x y := by
    by_cases later : tag ∈ tags gs
    · exact second.set later (f x) (f y)
    · have earlier : tag ∈ tags fs := by simpa [later] using present
      exact (second.kept later _).trans ((first.set earlier x y).trans (second.kept later _).symm)
  kept absent x := by
    rw [tags_append, List.mem_append, not_or] at absent
    exact (second.kept absent.2 (f x)).trans (first.kept absent.1 x)

theorem one {v : Value} (set : ∀ x y, part (f x) = part (f y)) : Sets part tag [⟨tag, v⟩] f :=
  ⟨fun _ => set, fun absent => absurd (by simp) absent⟩

theorem other {v : Value} (differs : tag' ≠ tag) (kept : ∀ x, part (f x) = part x) : Sets part tag [⟨tag', v⟩] f :=
  ⟨fun present => absurd present (by simpa using differs.symm), fun _ => kept⟩

/-- Reading on top of `x` sets the part as reading on top of anything else does, or leaves it. -/
theorem overrides (sets : Sets part tag gs g) (x y : α) :
    part (g x) = if tag ∈ tags gs then part (g y) else part x := by
  split
  · next present => exact sets.set present x y
  · next absent => exact sets.kept absent x

end Sets

/-- The fields in the messages that stand in the fields of one number, in their order. -/
inductive Inside (depth tag : Nat) : List Item → List Item → Prop
  | nil : Inside depth tag [] []
  | here {data : List UInt8} {inner fs gs : List Item} (row : Items (Holds depth) data inner)
    (more : Inside depth tag fs gs) : Inside depth tag (⟨tag, .bytes data⟩ :: fs) (inner ++ gs)
  | other {item : Item} {fs gs : List Item} (differs : item.tag ≠ tag) (more : Inside depth tag fs gs) :
    Inside depth tag (item :: fs) gs

namespace Inside

theorem append (first : Inside depth tag fs gs) (second : Inside depth tag fs' gs') :
    Inside depth tag (fs ++ fs') (gs ++ gs') := by
  induction first with
  | nil => exact second
  | here row _ ih =>
    rw [List.append_assoc]
    exact .here row ih
  | other differs _ ih => exact .other differs ih

theorem unique (one : Inside depth tag fs gs) (another : Inside depth tag fs gs') : gs = gs' := by
  induction one generalizing gs' with
  | nil =>
    cases another
    rfl
  | here row _ ih =>
    cases another with
    | here row' more' => rw [row.unique row', ih more']
    | other differs _ => exact absurd rfl differs
  | other differs _ ih =>
    cases another with
    | here _ _ => exact absurd rfl differs
    | other _ more' => exact ih more'

end Inside

/-- A part is changed by the fields in the messages of one number, as if they were one message. -/
def Through (depth tag : Nat) (part : α → β) (Law : List Item → (β → β) → Prop) (fs : List Item) (f : α → α) : Prop :=
  ∃ gs g, Inside depth tag fs gs ∧ Law gs g ∧ ∀ x, part (f x) = g (part x)

namespace Through

variable {part : α → β} {Law : List Item → (β → β) → Prop}

theorem nil (law : Law [] id) : Through depth tag part Law [] id :=
  ⟨[], id, .nil, law, fun _ => rfl⟩

theorem append (laws : ∀ {fs gs : List Item} {f g : β → β}, Law fs f → Law gs g → Law (fs ++ gs) (g ∘ f))
    (first : Through depth tag part Law fs f) (second : Through depth tag part Law gs g) :
    Through depth tag part Law (fs ++ gs) (g ∘ f) := by
  obtain ⟨hs, h, inside, law, part_f⟩ := first
  obtain ⟨hs', h', inside', law', part_g⟩ := second
  exact ⟨hs ++ hs', h' ∘ h, inside.append inside', laws law law', fun x => by simp [part_f, part_g]⟩

theorem one {data : List UInt8} {inner : List Item} {g : β → β} (row : Items (Holds depth) data inner)
    (law : Law inner g) (goes : ∀ x, part (f x) = g (part x)) : Through depth tag part Law [⟨tag, .bytes data⟩] f :=
  ⟨inner ++ [], g, .here row .nil, by rwa [List.append_nil], goes⟩

theorem other {v : Value} (differs : tag' ≠ tag) (law : Law [] id) (kept : ∀ x, part (f x) = part x) :
    Through depth tag part Law [⟨tag', v⟩] f :=
  ⟨[], id, .other differs .nil, law, kept⟩

end Through

end Wire

namespace Raw

open Wire

variable {depth : Nat} {fs gs : List Item} {f g : Tx → Tx}

/-! ## The laws of an envelope -/

structure CoinLaw (fs : List Item) (f : Coin → Coin) : Prop where
  denom : Sets Coin.denom 1 fs f
  amount : Sets Coin.amount 2 fs f

/-- The coin of a fee, or the one that stands for none. -/
def Fee.coin (fee : Fee) : Coin :=
  fee.gasFee.getD noCoin

structure FeeLaw (depth : Nat) (fs : List Item) (f : Fee → Fee) : Prop where
  gasWanted : Sets Fee.gasWanted 1 fs f
  coin : Through depth 2 Fee.coin CoinLaw fs f

/-- The fee of an envelope, or the one that stands for none. -/
def Tx.paid (t : Tx) : Fee :=
  t.fee.getD {}

structure TxLaw (depth : Nat) (fs : List Item) (f : Tx → Tx) : Prop where
  messages : ∃ later, ∀ x, (f x).messages = x.messages ++ later
  memo : Sets Tx.memo 4 fs f
  fee : Through (depth + 1) 2 Tx.paid (FeeLaw depth) fs f

theorem coin_lawful (depth : Nat) : Lawful coin (depth + 1) CoinLaw where
  nil := ⟨.nil, .nil⟩
  append first second := ⟨first.denom.append second.denom, first.amount.append second.amount⟩
  field := by
    have unknown {k : Key} (v : Value) (h₁ : k.tag ≠ 1) (h₂ : k.tag ≠ 2) : CoinLaw [⟨k.tag, v⟩] id :=
      ⟨.other h₁ fun _ => rfl, .other h₂ fun _ => rfl⟩
    rintro ⟨tag, wire⟩
    match tag with
    | 0 => exact .passOver (fun _ _ => rfl) fun v => unknown v (by simp) (by simp)
    | 1 =>
      exact .text (fun s c => { c with denom := s }) (fun _ _ => rfl) fun v s =>
        ⟨.one fun _ _ => rfl, .other (by simp) fun _ => rfl⟩
    | 2 =>
      exact .int64 (fun n c => { c with amount := n }) (fun _ _ => rfl) fun v n =>
        ⟨.other (by simp) fun _ => rfl, .one fun _ _ => rfl⟩
    | tag + 3 => exact .passOver (fun _ _ => rfl) fun v => unknown v (by simp) (by simp)

theorem fee_lawful (depth : Nat) : Lawful fee (depth + 2) (FeeLaw (depth + 1)) where
  nil := ⟨.nil, .nil (coin_lawful depth).nil⟩
  append first second :=
    ⟨first.gasWanted.append second.gasWanted, first.coin.append (coin_lawful depth).append second.coin⟩
  field := by
    have unknown {k : Key} (v : Value) (h₁ : k.tag ≠ 1) (h₂ : k.tag ≠ 2) : FeeLaw (depth + 1) [⟨k.tag, v⟩] id :=
      ⟨.other h₁ fun _ => rfl, .other h₂ (coin_lawful depth).nil fun _ => rfl⟩
    rintro ⟨tag, wire⟩
    match tag with
    | 0 => exact .passOver (fun _ _ => rfl) fun v => unknown v (by simp) (by simp)
    | 1 =>
      exact .int64 (fun n f => { f with gasWanted := n }) (fun _ _ => rfl) fun v n =>
        ⟨.one fun _ _ => rfl, .other (by simp) (coin_lawful depth).nil fun _ => rfl⟩
    | 2 =>
      exact .merged (coin_lawful depth) Fee.gasFee (fun c f => { f with gasFee := c }) (fun _ _ => rfl)
        fun data items f row law => ⟨.other (by simp) fun _ => rfl, .one row law fun _ => rfl⟩
    | tag + 3 => exact .passOver (fun _ _ => rfl) fun v => unknown v (by simp) (by simp)

/-- Whatever these two read, the envelope has nothing to say of it. -/
theorem any_lawful (depth : Nat) : Lawful any (depth + 1) fun _ _ => True where
  nil := trivial
  append _ _ := trivial
  field := by
    rintro ⟨tag, wire⟩
    match tag with
    | 0 => exact .passOver (fun _ _ => rfl) fun _ => trivial
    | 1 => exact .text (fun s a => { a with typeUrl := s }) (fun _ _ => rfl) fun _ _ => trivial
    | 2 => exact .bytes (fun v a => { a with value := v }) (fun _ _ => rfl) fun _ _ => trivial
    | tag + 3 => exact .passOver (fun _ _ => rfl) fun _ => trivial

theorem signature_lawful (depth : Nat) : Lawful signature (depth + 2) fun _ _ => True where
  nil := trivial
  append _ _ := trivial
  field := by
    rintro ⟨tag, wire⟩
    match tag with
    | 0 => exact .passOver (fun _ _ => rfl) fun _ => trivial
    | 1 =>
      exact .merged (any_lawful depth) Signature.publicKey (fun a s => { s with publicKey := a }) (fun _ _ => rfl)
        fun _ _ _ _ _ => trivial
    | 2 => exact .bytes (fun v s => { s with signature := v }) (fun _ _ => rfl) fun _ _ => trivial
    | tag + 3 => exact .passOver (fun _ _ => rfl) fun _ => trivial

theorem tx_lawful (depth : Nat) : Lawful tx (depth + 3) (TxLaw (depth + 1)) where
  nil := ⟨⟨#[], fun _ => Array.append_empty.symm⟩, .nil, .nil (fee_lawful depth).nil⟩
  append first second := by
    obtain ⟨later, one⟩ := first.messages
    obtain ⟨later', another⟩ := second.messages
    exact ⟨⟨later ++ later', fun x => by simp [one, another]⟩, first.memo.append second.memo,
      first.fee.append (fee_lawful depth).append second.fee⟩
  field := by
    have stays : ∃ later, ∀ x : Tx, x.messages = x.messages ++ later := ⟨#[], fun _ => Array.append_empty.symm⟩
    have nothing := (fee_lawful depth).nil
    have unknown {k : Key} (v : Value) (h₂ : k.tag ≠ 2) (h₄ : k.tag ≠ 4) : TxLaw (depth + 1) [⟨k.tag, v⟩] id :=
      ⟨stays, .other h₄ fun _ => rfl, .other h₂ nothing fun _ => rfl⟩
    rintro ⟨tag, wire⟩
    match tag with
    | 0 => exact .passOver (fun _ _ => rfl) fun v => unknown v (by simp) (by simp)
    | 1 =>
      exact .element (any_lawful (depth + 1)) (fun a t => { t with messages := t.messages.push a }) (fun _ _ => rfl)
        fun data items f row law =>
          ⟨⟨#[f {}], fun _ => rfl⟩, .other (by simp) fun _ => rfl, .other (by simp) nothing fun _ => rfl⟩
    | 2 =>
      exact .merged (fee_lawful depth) Tx.fee (fun f t => { t with fee := f }) (fun _ _ => rfl)
        fun data items f row law => ⟨stays, .other (by simp) fun _ => rfl, .one row law fun _ => rfl⟩
    | 3 =>
      exact .element (signature_lawful depth) (fun s t => { t with signatures := t.signatures.push s })
        (fun _ _ => rfl) fun data items f row law =>
          ⟨stays, .other (by simp) fun _ => rfl, .other (by simp) nothing fun _ => rfl⟩
    | 4 =>
      exact .text (fun s t => { t with memo := s }) (fun _ _ => rfl) fun v s =>
        ⟨stays, .one fun _ _ => rfl, .other (by simp) nothing fun _ => rfl⟩
    | tag + 5 => exact .passOver (fun _ _ => rfl) fun v => unknown v (by simp) (by simp)

/-! ## What an envelope says -/

/-- The messages are decoded one after the other, each on its own, as long as their numbers fit. -/
theorem messages_of_interpretFrom {count index : Nat} {done : Array NumberedMessage} {as : List Any}
    {out : List NumberedMessage} (h : interpretFrom count done index as = .ok out) :
    ∃ later, out = done.toList ++ later ∧
      List.Forall₂ (fun a m => Any.interpret a = .ok m) as (later.map (·.message)) := by
  induction as generalizing done index with
  | nil =>
    obtain rfl : done.toList = out := Except.ok.inj h
    exact ⟨[], by simp⟩
  | cons a as ih =>
    rw [interpretFrom] at h
    split at h
    · cases h
    · split at h
      · cases h
      · next message read =>
        obtain ⟨later, rfl, more⟩ := ih h
        exact ⟨⟨Int16.ofNat index, message⟩ :: later, by simp, .cons read more⟩

theorem interpretFrom_of_forall₂ (count index : Nat) (done : Array NumberedMessage) {as : List Any} {ms : List Message}
    (readable : List.Forall₂ (fun a m => Any.interpret a = .ok m) as ms) (few : index + as.length ≤ maxMessages + 1) :
    ∃ later, interpretFrom count done index as = .ok (done.toList ++ later) ∧ later.map (·.message) = ms := by
  induction readable generalizing index done with
  | nil => exact ⟨[], by simp [interpretFrom]⟩
  | @cons a m as ms read more ih =>
    rw [List.length_cons] at few
    obtain ⟨later, decoded, told⟩ := ih (index + 1) (done.push ⟨Int16.ofNat index, m⟩) (by omega)
    refine ⟨⟨Int16.ofNat index, m⟩ :: later, ?_, by rw [List.map_cons, told]⟩
    rw [interpretFrom, if_neg (by omega), read]
    simpa using decoded

/-- A decoded transaction says what stands in the envelope. -/
structure Tx.Says (raw : Tx) (t : Transaction) : Prop where
  few : raw.messages.size ≤ maxMessages
  messages : List.Forall₂ (fun a m => Any.interpret a = .ok m) raw.messages.toList (t.messages.map (·.message))
  memo : t.memo = raw.memo
  fee : t.fee = raw.paid.coin
  gasWanted : t.gasWanted = raw.paid.gasWanted

theorem says_of_interpret {raw : Tx} {hash : String} {t : Transaction} (h : raw.interpret hash = .ok t) :
    raw.Says t := by
  unfold Tx.interpret at h
  by_cases many : maxMessages < raw.messages.size
  · simp only [many, if_true] at h
    cases h
  · simp only [many, if_false] at h
    cases read : interpretFrom raw.messages.size #[] 0 raw.messages.toList with
    | error e =>
      rw [read] at h
      cases h
    | ok messages =>
      rw [read] at h
      obtain rfl := Except.ok.inj h
      obtain ⟨later, same, told⟩ := messages_of_interpretFrom read
      obtain rfl : messages = later := by simpa using same
      exact ⟨Nat.le_of_not_lt many, told, rfl, rfl, rfl⟩

/-- Nothing but the hash is taken from outside the envelope. -/
theorem interpret_hash {raw : Tx} {hash : String} {t : Transaction} (hash' : String)
    (h : raw.interpret hash = .ok t) : raw.interpret hash' = .ok { t with hash := hash' } := by
  unfold Tx.interpret at h ⊢
  by_cases many : maxMessages < raw.messages.size
  · simp only [many, if_true] at h
    cases h
  · simp only [many, if_false] at h ⊢
    cases read : interpretFrom raw.messages.size #[] 0 raw.messages.toList with
    | error e =>
      rw [read] at h
      cases h
    | ok messages =>
      rw [read] at h
      obtain rfl := Except.ok.inj h
      rfl

/-- Messages that can be decoded each on its own, and that are few enough, can be decoded together. -/
theorem exists_interpret {raw : Tx} {ms : List Message} (hash : String) (few : raw.messages.size ≤ maxMessages)
    (readable : List.Forall₂ (fun a m => Any.interpret a = .ok m) raw.messages.toList ms) :
    ∃ t, raw.interpret hash = .ok t ∧ t.messages.map (·.message) = ms := by
  have enough : 0 + raw.messages.toList.length ≤ maxMessages + 1 := by
    rw [Array.length_toList]
    omega
  obtain ⟨later, read, told⟩ := interpretFrom_of_forall₂ raw.messages.size 0 #[] readable enough
  rw [Tx.interpret]
  simp only [if_neg (Nat.not_lt.2 few), read, bind, Except.bind]
  exact ⟨_, rfl, by simpa using told⟩

/-- The fields of an envelope, those of all its fees, and those of all coins in these. -/
structure Carries (envelope : List UInt8) (fs gs cs : List Item) : Prop where
  fields : Items (Holds 100) envelope fs
  paid : Inside 99 2 fs gs
  coin : Inside 98 2 gs cs

/-- What the second of two envelopes has overrides the first: its memo, the gas of its fee, and the coin of its fee
one field at a time. -/
structure Overrides (fs gs cs : List Item) (first second both : Transaction) : Prop where
  memo : both.memo = if 4 ∈ tags fs then second.memo else first.memo
  gasWanted : both.gasWanted = if 1 ∈ tags gs then second.gasWanted else first.gasWanted
  denom : both.fee.denom = if 1 ∈ tags cs then second.fee.denom else first.fee.denom
  amount : both.fee.amount = if 2 ∈ tags cs then second.fee.amount else first.fee.amount

theorem exists_read_of_decodeTransaction {envelope : List UInt8} {t : Transaction}
    (h : decodeTransaction envelope = .ok t) :
    ∃ raw, Wire.decode tx {} envelope = .ok raw ∧ raw.interpret (transactionHash envelope) = .ok t := by
  unfold decodeTransaction at h
  split at h
  · cases h
  · next raw read => exact ⟨raw, read, h⟩

/-- An envelope that is decoded is a row of fields, and what these do is known. -/
theorem read_of_decodeTransaction {envelope : List UInt8} {t : Transaction} (h : decodeTransaction envelope = .ok t) :
    ∃ fs f, Items (Holds 100) envelope fs ∧ TxLaw 98 fs f ∧ Takes tx maxDepth envelope f ∧
      (f {}).interpret (transactionHash envelope) = .ok t := by
  obtain ⟨raw, read, interpreted⟩ := exists_read_of_decodeTransaction h
  obtain ⟨fs, f, row, law, rfl, takes⟩ := (tx_lawful 97).decode read
  exact ⟨fs, f, row, law, takes, interpreted⟩

theorem decodeTransaction_of_takes {envelope : List UInt8} {f : Tx → Tx} (takes : Takes tx maxDepth envelope f) :
    decodeTransaction envelope = (f {}).interpret (transactionHash envelope) := by
  rw [decodeTransaction, takes.decode]

theorem overrides_of_laws {data : List UInt8} {fs gs cs : List Item} {f g : Tx → Tx} {s t u : Transaction}
    (law : TxLaw 98 fs g) (carries : Carries data fs gs cs) (first : (f {}).Says s) (second : (g {}).Says t)
    (both : (g (f {})).Says u) : Overrides fs gs cs s t u := by
  obtain ⟨_, pay, inside, feeLaw, paid_g⟩ := law.fee
  obtain rfl := carries.paid.unique inside
  obtain ⟨_, change, inside', coinLaw, coin_pay⟩ := feeLaw.coin
  obtain rfl := carries.coin.unique inside'
  constructor
  · rw [both.memo, second.memo, first.memo]
    exact law.memo.overrides (f {}) {}
  · rw [both.gasWanted, second.gasWanted, first.gasWanted, paid_g, paid_g]
    exact feeLaw.gasWanted.overrides (f {}).paid _
  · rw [both.fee, second.fee, first.fee, paid_g, paid_g, coin_pay, coin_pay]
    exact coinLaw.denom.overrides (f {}).paid.coin _
  · rw [both.fee, second.fee, first.fee, paid_g, paid_g, coin_pay, coin_pay]
    exact coinLaw.amount.overrides (f {}).paid.coin _

theorem carries_of_items {envelope : List UInt8} {fs : List Item} {f : Tx → Tx} (row : Items (Holds 100) envelope fs)
    (law : TxLaw 98 fs f) : ∃ gs cs, Carries envelope fs gs cs := by
  obtain ⟨gs, _, inside, feeLaw, -⟩ := law.fee
  obtain ⟨cs, _, inside', -, -⟩ := feeLaw.coin
  exact ⟨gs, cs, row, inside, inside'⟩

/-- Fields that an envelope has no place for are passed over. -/
theorem takes_unknown {data : List UInt8} {us : List Item} (row : Items (Holds 100) data us)
    (unknown : ∀ u ∈ us, 4 < u.tag) : Takes tx maxDepth data id := by
  induction row with
  | nil => exact .nil
  | @cons name value rest k v items named holds more ih =>
    obtain ⟨outside, others⟩ := List.forall_mem_cons.1 unknown
    have passed (x : Tx) (rest : List UInt8) : tx maxDepth k x (.ofList (value ++ rest)) = .ok (x, .ofList rest) := by
      obtain ⟨tag, wire⟩ := k
      obtain ⟨n, rfl⟩ : ∃ n, tag = n + 5 := ⟨tag - 5, by simp only at outside; omega⟩
      have skip : skipValue maxDepth ⟨n + 5, wire⟩ (.ofList (value ++ rest)) = .ok (.ofList rest) :=
        skipValue_complete holds rest
      change passOver maxDepth ⟨n + 5, wire⟩ x _ = _
      rw [passOver, skip]
      rfl
    rw [← List.append_assoc]
    exact (Takes.field named passed).append (ih others)

end Raw

open Raw Wire

theorem firstOccurrences_append {α : Type} [DecidableEq α] (as bs : List α) :
    firstOccurrences (as ++ bs) =
      firstOccurrences as ++ (firstOccurrences bs).filter fun b => b ∉ firstOccurrences as := by
  induction bs using List.reverseRecOn with
  | nil => simp [firstOccurrences]
  | append_singleton bs b ih =>
    rw [← List.append_assoc, firstOccurrences_append_singleton, firstOccurrences_append_singleton, ih]
    by_cases earlier : b ∈ as
    · by_cases later : b ∈ bs <;> simp [earlier, later]
    · by_cases later : b ∈ bs <;> simp [earlier, later]

/-- Decoding merges envelopes, and passes over what it does not know. -/
theorem decodeTransaction_append :
    (∀ a b s t, decodeTransaction a = .ok s → decodeTransaction b = .ok t →
      s.messages.length + t.messages.length ≤ 32767 → ∃ u, decodeTransaction (a ++ b) = .ok u ∧
        u.messages.map (·.message) = s.messages.map (·.message) ++ t.messages.map (·.message) ∧
        u.messages.map (·.counter.toInt) =
          (List.range (s.messages.length + t.messages.length)).map Int.ofNat ∧
        u.signers = s.signers ++ t.signers.filter (· ∉ s.signers) ∧
        u.hash = transactionHash (a ++ b) ∧
        (∃ fs gs cs, Carries b fs gs cs) ∧ ∀ fs gs cs, Carries b fs gs cs → Overrides fs gs cs s t u) ∧
    ∀ front unknown back fs us t, Items (Holds 100) front fs → Items (Holds 100) unknown us → (∀ u ∈ us, 4 < u.tag) →
      decodeTransaction (front ++ back) = .ok t →
      decodeTransaction (front ++ unknown ++ back) =
        .ok { t with hash := transactionHash (front ++ unknown ++ back) } := by
  constructor
  · intro a b s t decoded decoded' few
    obtain ⟨_, f, -, law, takes, first⟩ := read_of_decodeTransaction decoded
    obtain ⟨fs, g, row, law', takes', second⟩ := read_of_decodeTransaction decoded'
    have told := says_of_interpret first
    have told' := says_of_interpret second
    obtain ⟨ms, one⟩ := law.messages
    obtain ⟨ms', another⟩ := law'.messages
    have held : (g (f {})).messages.toList = (f {}).messages.toList ++ (g {}).messages.toList := by
      simp [one, another]
    have size : (g (f {})).messages.size = s.messages.length + t.messages.length := by
      have length := told.messages.length_eq
      have length' := told'.messages.length_eq
      rw [List.length_map] at length length'
      rw [← Array.length_toList, held, List.length_append, length, length']
    have readable : List.Forall₂ (fun a m => Any.interpret a = .ok m) (g (f {})).messages.toList
        (s.messages.map (·.message) ++ t.messages.map (·.message)) :=
      held ▸ List.rel_append told.messages told'.messages
    obtain ⟨u, both, messages⟩ := exists_interpret (transactionHash (a ++ b)) (by rw [size]; exact few) readable
    have decoded_append : decodeTransaction (a ++ b) = .ok u :=
      (decodeTransaction_of_takes (takes.append takes')).trans both
    have form := decoded_of_decodeTransaction decoded_append
    have length : u.messages.length = s.messages.length + t.messages.length := by
      simpa using congrArg List.length messages
    refine ⟨u, decoded_append, messages, by rw [form.2.toInt_counters, length], ?_, form.1, ?_, ?_⟩
    · have signers (w : Transaction) : w.messages.map (·.message.signer) = (w.messages.map (·.message)).map (·.signer) := by
        simp
      rw [form.2.signers, signers, messages, List.map_append, firstOccurrences_append, ← signers, ← signers,
        ← (decoded_of_decodeTransaction decoded).2.signers, ← (decoded_of_decodeTransaction decoded').2.signers]
    · exact ⟨fs, carries_of_items row law'⟩
    · intro fs' gs cs carries
      obtain rfl := row.unique carries.fields
      exact overrides_of_laws law' carries told told' (says_of_interpret both)
  · intro front unknown back fs us t row row' outside decoded
    obtain ⟨raw, read, interpreted⟩ := exists_read_of_decodeTransaction decoded
    obtain ⟨f, g, takes, takes', rfl⟩ := (tx_lawful 97).decode_append row read
    rw [decodeTransaction_of_takes ((takes.append (takes_unknown row' outside)).append takes')]
    exact interpret_hash _ interpreted

/-- A run with a fee and a memo. -/
def firstRun : Tx :=
  envelope [.run { caller := List.replicate 20 1 }] (some ⟨2000, some ⟨7, "ugnot"⟩⟩) [] "first"

/-- A run by another account, with nothing in its fee but an amount. -/
def secondRun : Tx :=
  envelope [.run { caller := List.replicate 20 2 }] (some ⟨0, some ⟨9, ""⟩⟩) [] ""

/-- A group without fields under a number that no field of an envelope has. -/
def emptyGroup : List UInt8 := [43, 44]

theorem decodeTransaction_append_runs :
    ∃ s t u, decodeTransaction firstRun.write = .ok s ∧ decodeTransaction secondRun.write = .ok t ∧
      decodeTransaction (firstRun.write ++ secondRun.write) = .ok u ∧
      s.messages.length + t.messages.length ≤ 32767 ∧ u.messages.map (·.counter.toInt) = [0, 1] ∧
      (∃ fs gs cs, Carries secondRun.write fs gs cs ∧ Overrides fs gs cs s t u) ∧
      decodeTransaction (firstRun.write ++ emptyGroup ++ secondRun.write) =
        .ok { u with hash := transactionHash (firstRun.write ++ emptyGroup ++ secondRun.write) } := by
  have reads (raw : Tx) (one : (decodeTransaction raw.write).toOption.map (·.messages.length) = some 1) :
      ∃ t, decodeTransaction raw.write = .ok t ∧ t.messages.length = 1 := by
    cases decoded : decodeTransaction raw.write with
    | error e => simp [decoded, Except.toOption] at one
    | ok t => exact ⟨t, rfl, by simpa [decoded, Except.toOption] using one⟩
  obtain ⟨s, first, one⟩ := reads firstRun (by decide +kernel)
  obtain ⟨t, second, one'⟩ := reads secondRun (by decide +kernel)
  have few : s.messages.length + t.messages.length ≤ 32767 := by omega
  obtain ⟨u, both, -, counters, -, -, ⟨fs, gs, cs, carries⟩, overrides⟩ :=
    decodeTransaction_append.1 _ _ s t first second few
  obtain ⟨_, _, row, -⟩ := read_of_decodeTransaction first
  have start : IsKey [43] ⟨5, .startGroup⟩ := ⟨by decide, .last (by decide), by decide, by decide⟩
  have stop : IsKey [44] ⟨5, .endGroup⟩ := ⟨by decide, .last (by decide), by decide, by decide⟩
  have holds : Holds 100 ⟨5, .startGroup⟩ [44] .group := .inr ⟨rfl, rfl, [], [44], [], rfl, .nil, stop⟩
  have group : Items (Holds 100) emptyGroup [⟨5, .group⟩] := .cons start holds .nil
  rw [one, one'] at counters
  exact ⟨s, t, u, first, second, both, few, counters, ⟨fs, gs, cs, carries, overrides _ _ _ carries⟩,
    decodeTransaction_append.2 _ _ _ _ _ u row group (by simp) both⟩

end ChainIndex
