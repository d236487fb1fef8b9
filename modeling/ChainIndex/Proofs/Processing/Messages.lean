import ChainIndex.Processing
import ChainIndex.Proofs.Address.Agreement
import ChainIndex.Proofs.Address.Course
import ChainIndex.Proofs.Envelope.RoundTrip
import ChainIndex.Proofs.Envelope.Spelling
import ChainIndex.Proofs.Rows.Messages
import ChainIndex.Proofs.Running.Storing

/-!
# Storing the rows of messages

The operation on messages lets a solver find ids, looks its book up, builds the rows of all transactions with what it
saw, and stores them side by side.

**Theorem (`messages_stored`).** Whatever the solver leaves in the book, and however storage answers, the rows are those
of the transactions of which every account has an id in the book, all of each or none (`MessageRows.HoldsAll`). Every
list of rows that is not empty is put to storage at most once, and nothing else is. If storage refuses none, all of
them are put, and the operation gives the number of rows that were new (`MessageRows.Written`).

Neither the world nor the solver is relied on. What the solver did is seen to its end; then the book is looked into,
once, and from there the text of the operation decides.
-/

namespace ChainIndex

open Storage Running

/-- How rows of messages are stored, as it is seen, and what is told of it. -/
structure Storage.MessageRows.Written (rows : MessageRows) (es : List Running.Event) (r : Except IndexError UInt64) :
    Prop where
  once : (inserted es).Subperm rows.batches
  whole : ¬Refused es → (inserted es).Perm rows.batches ∧ r = .ok (counted es).sum
  refused : Refused es → ∃ e, r = .error (.persistence e)

variable {σ : Type} {E : Environment σ} {w w' : σ} {es es' : List Running.Event} {r : Except IndexError UInt64}

/-- What comes before and after does not change what is stored. -/
theorem Storage.MessageRows.Written.within {rows : MessageRows} {before after : List Running.Event}
    (h : rows.Written es r) (quiet : Unstoring before) (quiet' : Unstoring after) :
    rows.Written (before ++ (es ++ after)) r := by
  have put : inserted (before ++ (es ++ after)) = inserted es := by
    rw [inserted_append, inserted_append, quiet.inserted, quiet'.inserted, List.append_nil, List.nil_append]
  have counts : counted (before ++ (es ++ after)) = counted es := by
    rw [counted_append, counted_append, quiet.counted, quiet'.counted, List.append_nil, List.nil_append]
  have refuses : Refused (before ++ (es ++ after)) ↔ Refused es := by
    rw [refused_append, refused_append, or_iff_right quiet.refused, or_iff_left quiet'.refused]
  refine ⟨put ▸ h.once, ?_, fun bad => h.refused (refuses.1 bad)⟩
  rw [put, counts, refuses]
  exact h.whole

theorem Storage.MessageRows.batches_of_length {rows : MessageRows} (h : rows.length = 0) : rows.batches = [] := by
  refine List.eq_nil_iff_forall_not_mem.2 fun b member => length_of_mem_batches member ?_
  rw [← b.length_rows, List.length_eq_zero_iff, List.eq_nil_iff_forall_not_mem]
  intro row present
  have here := exists_mem_batches.1 ⟨b, member, present⟩
  rw [rows_of_length h] at here
  cases here

/-- Stores the rows of messages side by side and counts the new ones. -/
def Storage.MessageRows.store (rows : MessageRows) : Strand (Except IndexError UInt64) := do
  if rows.length = 0 then
    pure (.ok 0)
  else
    match ← Strand.query (.insertAll rows.batches) with
    | .ok written => pure (.ok written)
    | .error e => pure (.error (.persistence e))

/-- Rows are stored batch by batch, if there are any. -/
theorem Storage.MessageRows.written_of_ends {rows : MessageRows} (h : (Task.ready rows.store).Ends E es r) :
    rows.Written es r := by
  unfold store at h
  by_cases nothing : rows.length = 0
  · rw [if_pos nothing] at h
    obtain ⟨rfl, rfl⟩ := h.of_done
    have none := batches_of_length nothing
    have quiet : rows.Written [] (.ok 0) :=
      ⟨none ▸ List.nil_subperm, fun _ => ⟨none ▸ .nil, rfl⟩, fun bad => absurd bad unstoring_nil.refused⟩
    exact quiet.within unstoring_nil unstoring_ended
  · rw [if_neg nothing] at h
    obtain ⟨answer, storing, rest, rfl, goesOn, stores⟩ := Task.Ends.of_insertAll h
    cases answer with
    | ok n =>
      obtain ⟨rfl, rfl⟩ := goesOn.of_done
      obtain ⟨all, good, rfl⟩ := stores
      have written : rows.Written storing (.ok (counted storing).sum) :=
        ⟨all.subperm, fun _ => ⟨all, rfl⟩, fun bad => absurd bad good⟩
      exact written.within unstoring_nil unstoring_ended
    | error e =>
      obtain ⟨rfl, rfl⟩ := goesOn.of_done
      obtain ⟨among, bad⟩ := stores
      have written : rows.Written storing (.error (.persistence e)) :=
        ⟨among, fun good => absurd bad good, fun _ => ⟨e, rfl⟩⟩
      exact written.within unstoring_nil unstoring_ended

/-- **What the operation on messages does.** If its solver fails, it fails with that failure and has stored nothing.
Otherwise it looks into the book and stores the rows of the transactions that are resolved with what it saw. -/
theorem messages_stored {p : Processor} {executions : List TimedExecution}
    (run : Completes E (.alone (p.messages (decodeAll executions))) w es w' r) :
    ∃ solving storing solved, es = solving ++ storing ∧ Unstoring solving ∧
      (Task.ready (p.accounts.solve p.solver ((decodeAll executions).flatMap DecodedExecution.addresses))).Ends E
        (solving ++ [.ended 0 solved]) solved ∧
      match solved with
      | .error e => r = .error (.persistence e) ∧ Unstoring storing
      | .ok _ => ∃ (accounts : AddressIds) (rest : List Running.Event) (rows : MessageRows),
          storing = .asked ⟨0, none⟩ (.book p.accounts .entries) ::
            .answered ⟨0, none⟩ (.book p.accounts .entries) accounts :: rest ∧
          rows = .concat (keepGood (DecodedExecution.messageRows p.chain accounts) (decodeAll executions)) ∧
          rows.HoldsAll p.chain accounts ((decodeAll executions).filter (·.resolved accounts)) ∧
          rows.Written es r := by
  have asks : (p.accounts.solve p.solver ((decodeAll executions).flatMap DecodedExecution.addresses)).Asks
      fun q => q.isPlain ∧ q.isUnstoring :=
    .solving ⟨rfl, rfl⟩ (fun _ => ⟨rfl, rfl⟩) (fun _ => ⟨rfl, rfl⟩) (fun _ _ => ⟨rfl, rfl⟩)
      fun _ => ⟨rfl, rfl⟩
  obtain ⟨solved, solving, storing, rfl, quiet, solves, goesOn⟩ := run.alone.of_bind asks
  refine ⟨solving, storing, solved, rfl, quiet, solves, ?_⟩
  cases solved with
  | error e =>
    obtain ⟨rfl, rfl⟩ := goesOn.of_done
    exact ⟨rfl, unstoring_ended⟩
  | ok summary =>
    have looks := Task.Ends.of_ask (q := .book p.accounts .entries) rfl goesOn
    obtain ⟨(accounts : AddressIds), rest, -, -, -, stores, rfl⟩ := looks
    refine ⟨accounts, rest, _, rfl, rfl, holdsAll_rows _ _ fun d => decoded_of_mem, ?_⟩
    have written := MessageRows.written_of_ends stores
    have look : Unstoring [.asked ⟨0, none⟩ (.book p.accounts .entries),
        .answered ⟨0, none⟩ (.book p.accounts .entries) accounts] := unstoring_of_plain rfl
    have whole := written.within (quiet.append look) unstoring_nil
    rw [List.append_nil, List.append_assoc] at whole
    exact whole

/-! ## A transaction with two messages -/

namespace OneDeposit

/-- The account that signs both. -/
def account : String := "g1qyqszqgpqyqszqgpqyqszqgpqyqszqgpp0aavc"

def executed : TimedExecution where
  execution :=
    { hash := "h", height := 1, index := 0, envelope := Base64.encodeText depositAndRun.write, gasWanted := 2000
      gasUsed := 1000, error? := none, events := [] }
  time := ⟨0, 0⟩

def decoded : DecodedExecution where
  timed := executed
  envelope :=
    { hash := "z6S/eNBSEOOOlq4LPj1lU51Ol0EPMxwRFRZ5VTLAaws=", signers := [account], memo := "hello"
      fee := ⟨7, "ugnot"⟩, gasWanted := 2000
      messages :=
        [⟨0, .call ⟨account, "gno.land/r/bank", "Put", [], [⟨-5, "ugnot"⟩], []⟩⟩,
          ⟨1, .run ⟨account, ⟨"", "", []⟩, [], []⟩⟩] }

theorem decodeAll_executed : decodeAll [executed] = [decoded] := by
  have spelt : Spells executed.execution.envelope depositAndRun.write :=
    ⟨"", "", by decide, by decide, by simp [executed]⟩
  have read : decodeTransaction depositAndRun.write = .ok decoded.envelope := by decide +kernel
  have built : executed.decode = .ok decoded := by
    rw [TimedExecution.decode, decodeTransactionText_of_spells spelt, read]
    rfl
  simp [decodeAll, keepGood, built, Except.toOption]

def processor : Processor := ⟨"c", ⟨⟨"c", .account⟩, 0⟩, ⟨⟨"c", .validator⟩, 0⟩, ⟨.once, true⟩⟩

/-- The book has the account. -/
def loaded : Site where
  ids _ := ∅
  rows := []
  books ref := if ref = processor.accounts then ⟨(∅ : AddressIds).insert account 5, 5⟩ else .empty

/-- Rows are stored. Ids can be looked up, and none are given. -/
def rule : Rule Site := fun w q =>
  match q with
  | .call (.insert b) => ((.ok (UInt64.ofNat b.length) : Except Storage.Error UInt64), w.insert b.rows)
  | q => OneSolver.rule w q

theorem rule_follows : sharedSite.Follows rule := by
  intro w q
  cases q with
  | call c =>
    cases c with
    | insert b => exact rfl
    | _ => exact OneSolver.rule_follows w _
  | _ => exact OneSolver.rule_follows w _

theorem play_messages : (rule.play (processor.messages (decodeAll [executed])) loaded).1 = .ok 2 := by
  rw [decodeAll_executed]
  decide +kernel

/-- Both messages are stored, each in its table. -/
theorem deposit_stored : ∃ es w',
    Completes sharedSite (.alone (processor.messages (decodeAll [executed]))) loaded es w' (.ok 2) ∧
    ∃ (accounts : AddressIds) (rows : MessageRows),
      rows.HoldsAll "c" accounts ((decodeAll [executed]).filter (·.resolved accounts)) ∧
      (inserted es).Perm rows.batches ∧ (counted es).sum = 2 := by
  obtain ⟨es, run⟩ := (Rule.Gives.alone play_messages).exists_completes rule_follows
  refine ⟨es, _, run, ?_⟩
  obtain ⟨solving, storing, solved, -, -, -, stores⟩ := messages_stored run
  cases solved with
  | error e => cases stores.1
  | ok summary =>
    obtain ⟨accounts, rest, rows, -, -, holds, written⟩ := stores
    have good : ¬Refused es := fun bad => by
      obtain ⟨e, same⟩ := written.refused bad
      cases same
    obtain ⟨all, same⟩ := written.whole good
    exact ⟨accounts, rows, holds, all, (Except.ok.inj same).symm⟩

end OneDeposit

end ChainIndex
