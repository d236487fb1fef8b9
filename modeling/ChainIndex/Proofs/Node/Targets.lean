import ChainIndex.Node.Http
import Mathlib.Control.Monad.Basic

/-!
# Failures are named after what was asked for

A request can fail at five places: nobody answers, the status says so, the body is not of the shape, the node
reports an error of its own, or what it tells cannot be made into what was asked for. The first four are faults of
the exchange, and a fault gets the name of the request wherever it comes from (`Request.ask`). A block is made
under the height that was asked for.

An executed transaction is made without a look at the request. Its place in the block may be a number that does
not fit, and that failure is named after the hash that the answer gives. **`target_of_answerOf`**: this is the only
failure that can carry another name, and it does so whenever the answer gives another hash.
-/

namespace ChainIndex.Node

variable {url : String} {x : Exchange} {e : Error}

/-! ## The exchange -/

theorem target_of_ask {α : Type} {r : Request} {shape : Json.Shape α} (failed : r.ask url shape x = .error e) :
    e.target = r.target := by
  rw [Request.ask] at failed
  cases outcome : interpret url shape x with
  | error fault =>
    rw [outcome] at failed
    obtain rfl := Except.error.inj failed
    rfl
  | ok a =>
    rw [outcome] at failed
    cases failed

/-- A request fails in the exchange, under its own name, or in what is made of the result. -/
theorem target_or_failed_of_bind {α β : Type} {r : Request} {shape : Json.Shape α} {make : α → Except Error β}
    (failed : r.ask url shape x >>= make = .error e) :
    e.target = r.target ∨ ∃ a, interpret url shape x = .ok a ∧ make a = .error e := by
  cases outcome : interpret url shape x with
  | error fault =>
    have asked : r.ask url shape x = .error ⟨r.target, fault⟩ := by
      rw [Request.ask, outcome]
      rfl
    rw [asked] at failed
    obtain rfl := Except.error.inj failed
    exact .inl rfl
  | ok a =>
    have asked : r.ask url shape x = .ok a := by
      rw [Request.ask, outcome]
      rfl
    rw [asked] at failed
    exact .inr ⟨a, rfl, failed⟩

/-! ## What is made of the result -/

theorem target_of_toBlock {p : BlockParts} {requested : UInt64} (failed : p.toBlock requested = .error e) :
    e.target = .height requested := by
  rw [BlockParts.toBlock] at failed
  by_cases other : p.height ≠ requested
  · rw [if_pos other] at failed
    obtain rfl := Except.error.inj failed
    rfl
  · rw [if_neg other] at failed
    cases hash : p.hash.filter (· ≠ "") with
    | none =>
      rw [hash] at failed
      obtain rfl := Except.error.inj failed
      rfl
    | some hash' =>
      rw [hash] at failed
      cases listed : digests p.envelopes with
      | error e' =>
        simp only [listed] at failed
        obtain rfl := Except.error.inj failed
        rfl
      | ok transactions =>
        simp only [listed] at failed
        cases failed

/-- The failure of an executed transaction whose place in the block does not fit. -/
def ExecutionParts.misplaced (p : ExecutionParts) : Error :=
  ⟨.hash p.hash, .invalidResponse ("transaction index " ++ toString p.index.toNat ++ " out of range")⟩

theorem of_toExecution_eq_error {p : ExecutionParts} (failed : p.toExecution = .error e) :
    UInt32.size ≤ p.index.toNat ∧ e = p.misplaced := by
  rw [ExecutionParts.toExecution] at failed
  by_cases fits : p.index.toNat < UInt32.size
  · rw [if_pos fits] at failed
    cases failed
  · rw [if_neg fits] at failed
    exact ⟨Nat.le_of_not_lt fits, (Except.error.inj failed).symm⟩

/-! ## Requests -/

/-- A failure has the name of what was asked for, whatever the answer says, unless an executed transaction was
asked for and the answer is well formed but for a place in the block that does not fit. -/
theorem target_of_answerOf {r : Request} (failed : r.answerOf url x = .error e) :
    e.target = r.target ∨
      ∃ hash parts, r = .execution hash ∧ interpret url executionParts x = .ok parts ∧ parts.hash ≠ hash ∧
        UInt32.size ≤ parts.index.toNat ∧ e = parts.misplaced := by
  cases r with
  | block height =>
    rcases target_or_failed_of_bind failed with named | ⟨parts, -, failed⟩
    · exact .inl named
    · exact .inl (target_of_toBlock failed)
  | execution hash =>
    rcases target_or_failed_of_bind failed with named | ⟨parts, told, failed⟩
    · exact .inl named
    · obtain ⟨large, rfl⟩ := of_toExecution_eq_error failed
      by_cases same : parts.hash = hash
      · exact .inl (congrArg Target.hash same)
      · exact .inr ⟨hash, parts, rfl, told, same, large, rfl⟩
  | latest => exact .inl (target_of_ask failed)
  | health =>
    rcases target_or_failed_of_bind failed with named | ⟨_, -, failed⟩
    · exact .inl named
    · cases failed

/-- Nobody answers when block 7 is asked for. -/
theorem target_of_answerOf_refused :
    ∃ e, (Request.block 7).answerOf "http://localhost:26657" .refused = .error e ∧ e.target = .height 7 := by
  have failed : (Request.block 7).answerOf "http://localhost:26657" .refused = .error _ := rfl
  refine ⟨_, failed, ?_⟩
  rcases target_of_answerOf failed with named | ⟨_, _, other, -⟩
  · exact named
  · cases other

/-- An answer for another transaction than the one that was asked for, in a place that does not fit. -/
def misplacedBody : List UInt8 :=
  (Json.obj [("result", .obj [("hash", .str "BB=="), ("height", .str "1"), ("index", .str "4294967296"),
    ("tx_result", .obj [("ResponseBase", .obj [])]), ("tx", .str "")])]).render.toUTF8.toList

theorem not_target_of_answerOf :
    (Request.execution "AA==").answerOf "" (.answered 200 .utf8 (some misplacedBody)) =
        .error ⟨.hash "BB==", .invalidResponse "transaction index 4294967296 out of range"⟩ ∧
      Target.hash "BB==" ≠ (Request.execution "AA==").target := by
  constructor
  · have failed : ((Request.execution "AA==").ask "" executionParts (.answered 200 .utf8 (some misplacedBody)) >>=
        ExecutionParts.toExecution) =
          .error ⟨.hash "BB==", .invalidResponse "transaction index 4294967296 out of range"⟩ := by decide +kernel
    exact failed
  · decide

end ChainIndex.Node
