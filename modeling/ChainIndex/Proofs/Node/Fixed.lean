import ChainIndex.Proofs.Envelope.Decoded

/-!
# A node that does not change

A node that always gives the same answer to the same question: for each height one block of that height,
or a failure; for each digest one executed transaction, with an envelope that has that digest and with
the height of the block that lists it, or a failure.
-/

namespace ChainIndex

structure FixedNode where
  block : UInt64 → Option Block
  execution : String → Option Execution
  height_of_block : ∀ {height b}, block height = some b → b.height = height
  hash_of_execution : ∀ {hash e}, execution hash = some e → transactionHashOfText e.envelope = .ok hash
  height_of_execution : ∀ {hash e height b}, execution hash = some e → block height = some b →
    hash ∈ b.transactions → e.height = height

namespace FixedNode

/-- An answer of the node, if this is what it knows. -/
def Answers {ε α : Type} : Option α → Except ε α → Prop
  | some a, r => r = .ok a
  | none, r => ∃ e, r = .error e

variable (node : FixedNode)

/-- The block lists the transaction, the node tells of it, and its envelope can be decoded. It has the
time of the block. -/
def Lists (b : Block) (d : DecodedExecution) : Prop :=
  ∃ hash ∈ b.transactions, ∃ e, node.execution hash = some e ∧ TimedExecution.decode ⟨e, b.time⟩ = .ok d

/-- An address that blocks of these heights name: who proposed or signed one, or an account that a
message of a transaction names. -/
def Names (heights : List UInt64) (role : AddressRole) (a : String) : Prop :=
  a ≠ "" ∧ ∃ height ∈ heights, ∃ b, node.block height = some b ∧
    match role with
    | .validator => a ∈ b.validators
    | .account => ∃ d, node.Lists b d ∧ a ∈ d.addresses

theorem answers_iff {ε α : Type} {known : Option α} {a : α} {r : Except ε α} (h : Answers known r) :
    r = .ok a ↔ known = some a := by
  cases known with
  | some b =>
    obtain rfl : r = .ok b := h
    rw [Except.ok.injEq, Option.some.injEq]
  | none =>
    obtain ⟨e, rfl⟩ := h
    exact ⟨nofun, nofun⟩

theorem exists_answers {ε α : Type} (e : ε) (known : Option α) : ∃ r : Except ε α, Answers known r := by
  cases known with
  | some a => exact ⟨.ok a, rfl⟩
  | none => exact ⟨.error e, e, rfl⟩

variable {node}

theorem Names.mono {heights heights' : List UInt64} (more : ∀ h ∈ heights, h ∈ heights') {role : AddressRole}
    {a : String} (h : node.Names heights role a) : node.Names heights' role a := by
  obtain ⟨filled, height, member, rest⟩ := h
  exact ⟨filled, height, more height member, rest⟩

/-- What is known of a transaction that a block lists: it is listed under the digest of its envelope. -/
structure Listed (node : FixedNode) (b : Block) (d : DecodedExecution) : Prop where
  listed : d.envelope.hash ∈ b.transactions
  executed : node.execution d.envelope.hash = some d.timed.execution
  time : d.timed.time = b.time
  read : d.timed.decode = .ok d
  decoded : d.envelope.Decoded

theorem Lists.listed {b : Block} {d : DecodedExecution} (h : node.Lists b d) : node.Listed b d := by
  obtain ⟨hash, listed, e, executed, read⟩ := h
  have read' := read
  unfold TimedExecution.decode at read
  split at read
  · next envelope text =>
    obtain rfl := Except.ok.inj read
    obtain ⟨digest, decoded⟩ := decoded_of_decodeTransactionText text
    obtain rfl : hash = envelope.hash := Except.ok.inj ((node.hash_of_execution executed).symm.trans digest)
    exact ⟨listed, executed, rfl, read', decoded⟩
  · cases read

/-- A transaction is the same through whatever block it is found. -/
theorem Lists.unique {b b' : Block} {height height' : UInt64} {d d' : DecodedExecution} (h : node.Lists b d)
    (h' : node.Lists b' d') (known : node.block height = some b) (known' : node.block height' = some b')
    (same : d.envelope.hash = d'.envelope.hash) : d = d' := by
  have l := h.listed
  have l' := h'.listed
  have execution : d.timed.execution = d'.timed.execution :=
    Option.some.inj (l.executed.symm.trans (same ▸ l'.executed))
  have heights : height = height' := by
    rw [← node.height_of_execution l.executed known l.listed, ← node.height_of_execution l'.executed known' l'.listed,
      execution]
  obtain rfl : b = b' := Option.some.inj (known.symm.trans (heights ▸ known'))
  have timed : d.timed = d'.timed := by
    have time : d.timed.time = d'.timed.time := l.time.trans l'.time.symm
    calc
      d.timed = ⟨d.timed.execution, d.timed.time⟩ := rfl
      _ = ⟨d'.timed.execution, d'.timed.time⟩ := by rw [execution, time]
  exact Except.ok.inj (l.read.symm.trans (timed ▸ l'.read))

end FixedNode

end ChainIndex
