import ChainIndex.Fetch
import ChainIndex.Proofs.Running.Joined

/-!
# What a fetch brings

A fetch repeats its request until the node gives what was asked for, or it is not worth it any longer. So it
brings a value exactly if the node told it that value (`Node.Request.brought_of_fetch`): no answer is lost between two
attempts, and a failure means that no attempt got one.
-/

namespace ChainIndex

namespace Strand.Hears

variable {α β : Type} {told : List Telling} {b : β}

theorem of_pure {a : β} (h : (pure a : Strand β).Hears told b) : told = [] ∧ b = a := by
  cases h
  exact ⟨rfl, rfl⟩

/-- One strand after another is told what the one is told, and then what the other is. -/
theorem of_bind {p : Strand α} {f : α → Strand β} (h : (p >>= f).Hears told b) :
    ∃ a first rest, p.Hears first a ∧ (f a).Hears rest b ∧ told = first ++ rest := by
  change (p.bind f).Hears told b at h
  induction p generalizing told with
  | done a => exact ⟨a, [], told, .done a, h, rfl⟩
  | ask q next ih =>
    cases h with
    | @ask _ _ x told _ plain later =>
      obtain ⟨a, first, rest, one, other, rfl⟩ := ih x later
      exact ⟨a, ⟨q, x⟩ :: first, rest, .ask plain one, other, rfl⟩
    | @store _ _ r _ _ later =>
      obtain ⟨a, first, rest, one, other, rfl⟩ := ih r later
      exact ⟨a, first, rest, .store one, other, rfl⟩

theorem of_query {q : Query} {a : q.Answer} (plain : q.isPlain) (h : (Strand.query q).Hears told a) :
    told = [⟨q, a⟩] := by
  cases h with
  | ask _ rest =>
    cases rest
    rfl
  | store => cases plain

end Strand.Hears

open Strand

variable {told : List Telling}

namespace Node.Request

variable {r : Node.Request}

/-- The strand was told this value by the node. -/
def Brought (r : Node.Request) (v : r.Payload) (told : List Telling) : Prop :=
  ⟨.request r, (.ok v : r.Answer)⟩ ∈ told

theorem brought_append {v : r.Payload} {told' : List Telling} :
    r.Brought v (told ++ told') ↔ r.Brought v told ∨ r.Brought v told' :=
  List.mem_append

theorem brought_of_send {a : r.Answer} (h : r.send.Hears told a) (v : r.Payload) : r.Brought v told ↔ a = .ok v := by
  obtain ⟨x, first, rest, token, request, rfl⟩ := Hears.of_bind h
  rw [Hears.of_query rfl token, Hears.of_query rfl request]
  constructor
  · intro member
    rcases List.mem_pair.1 member with same | same
    · cases same
    · exact (eq_of_heq (Sigma.mk.inj same).2).symm
  · rintro rfl
    exact List.mem_pair.2 (.inr rfl)

/-- Attempts bring what the first that succeeds was told. -/
theorem brought_of_attemptFrom {p : Retry.Params} {retryable : Node.Error → Bool} {more : Nat} {n : UInt32}
    {o : Retry.Outcome Node.Error r.Payload}
    (h : (Retry.attemptFrom Strand.sleep p retryable (fun _ => r.send) more n).Hears told o) (v : r.Payload) :
    r.Brought v told ↔ o.toExcept = .ok v := by
  induction more generalizing n told with
  | zero =>
    obtain ⟨a, first, rest, sent, later, rfl⟩ := Hears.of_bind h
    have one := brought_of_send sent v
    cases a with
    | ok value =>
      obtain ⟨rfl, rfl⟩ := Hears.of_pure later
      rw [List.append_nil, one]
      rfl
    | error e =>
      obtain ⟨rfl, rfl⟩ := Hears.of_pure later
      rw [List.append_nil, one]
      rfl
  | succ more ih =>
    obtain ⟨a, first, rest, sent, later, rfl⟩ := Hears.of_bind h
    have one := brought_of_send sent v
    cases a with
    | ok value =>
      obtain ⟨rfl, rfl⟩ := Hears.of_pure later
      rw [List.append_nil, one]
      rfl
    | error e =>
      simp only at later
      by_cases again : retryable e
      · rw [if_pos again] at later
        obtain ⟨u, slept, rest, sleep, attempts, rfl⟩ := Hears.of_bind later
        have nothing : ¬r.Brought v slept := by
          rw [Hears.of_query rfl sleep]
          intro member
          cases List.mem_singleton.1 member
        rw [brought_append, brought_append, one, ih attempts, or_iff_right nothing, or_iff_right nofun]
      · rw [if_neg again] at later
        obtain ⟨rfl, rfl⟩ := Hears.of_pure later
        rw [List.append_nil, one]
        rfl

/-- **A fetch brings what the node told it**, whatever went wrong before, and a failure is all that it was told. -/
theorem brought_of_fetch {retry : Retry.Params} {a : r.Answer} (h : (r.fetch retry).Hears told a) (v : r.Payload) :
    r.Brought v told ↔ a = .ok v := by
  obtain ⟨o, first, rest, attempts, later, rfl⟩ := Hears.of_bind h
  obtain ⟨rfl, rfl⟩ := Hears.of_pure later
  rw [List.append_nil, brought_of_attemptFrom attempts v]

end Node.Request

end ChainIndex
