import ChainIndex.Node.Http
import ChainIndex.Proofs.Contract.Member
import ChainIndex.Proofs.Processing.Lookups

/-!
# What the second phase looks up

The operations on blocks and on signings have no solver. They are begun when another operation has found ids for the
validators of the blocks, and they look into its book.

**Theorem (`prepared_rows`).** That operation has ended and left nothing unresolved, whatever runs beside it, in a
database that others write to and that may fail in any way. Whenever an operation on the same blocks is begun
afterwards, it drops no block for a validator with a name: every block yields its signing row if its height can be
stored and all its validators have names, and its own row if its height can be stored, its hash can be read, and its
proposer has a name.

The empty address is no name. The solver passes it over, so nothing is unresolved for it, and no row is stored with a
hole in it. So a block without a proposer may yield neither row, and a block that the empty address signed no signing
row (`nameless_dropped`).
-/

namespace ChainIndex

open Storage Running

variable {chain : String} {ids : AddressIds}

/-! ## Rows of what is resolved -/

namespace Operation.Resolved

variable {bs : List Block} {b : Block}

theorem signings (h : (Operation.signings bs).Resolved ids) (member : b ∈ bs) (small : b.height.toNat < signedBound)
    (named : ∀ a ∈ b.validators, a ≠ "") :
    ∃ row ∈ keepGood (signingRow chain ids) bs, row.Records (Gives ids) chain b := by
  have given : ∀ a ∈ b.validators, ∃ id, Gives ids a id := fun a validates =>
    h a (List.mem_flatMap.2 ⟨b, member, validates⟩) (named a validates)
  obtain ⟨row, built⟩ := exists_signingRow.2 ⟨small, given⟩
  exact ⟨row, mem_keepGood.2 ⟨b, member, built⟩, signingRow_eq_ok.1 built⟩

theorem blocks (h : (Operation.blocks bs).Resolved ids) (member : b ∈ bs) (small : b.height.toNat < signedBound)
    (hash : ∃ hash, Base64.decodeText b.hash = .ok hash) (named : b.proposer ≠ "") :
    ∃ row ∈ keepGood (blockRow chain ids) bs, row.Records (Gives ids) chain b := by
  have given : ∃ id, Gives ids b.proposer id :=
    h b.proposer (List.mem_flatMap.2 ⟨b, member, List.mem_cons_self⟩) named
  obtain ⟨row, built⟩ := exists_blockRow.2 ⟨small, hash, given⟩
  exact ⟨row, mem_keepGood.2 ⟨b, member, built⟩, blockRow_eq_ok.1 built⟩

end Operation.Resolved

/-! ## Operations that are begun later -/

section

variable {p : Processor} {w₀ w w' : Site} {crew crew' : Crew Operation (List Telling × Except IndexError Unit)}
  {told : List Telling} {r : Except IndexError Unit}

/-- The book knows the validators of blocks when the operation that resolves them has left nothing. -/
theorem known_of_ended {bs : List Block} {s : SolveSummary} (agrees : w₀.Agrees)
    (reached : Crew.Reaches sharedSite (Operation.recorded p) w₀ w crew)
    (ended : (.validatorAddresses bs, .ready (.done (told, r))) ∈ crew)
    (solved : (p.validators.solve p.solver (bs.flatMap Block.validators)).Answered told (.ok s))
    (none_left : s.unresolved = 0) :
    ∀ a ∈ bs.flatMap Block.validators, a ≠ "" → a ∈ (w.books p.validators).ids := by
  obtain ⟨sound, meets⟩ := Operation.meets_of_reaches agrees reached
  exact meets _ _ ended w (bookGrowth.refl w) sound s solved none_left

/-- An operation that is begun when the book knows its names sees ids for all of them at its end. -/
theorem Operation.resolved_of_begun {op : Operation} {i : Nat} (looks : op.strand p = op.looking p)
    (agrees : w₀.Agrees) (reached : Crew.Reaches sharedSite (Operation.recorded p) w₀ w crew)
    (known : ∀ a ∈ op.names, a ≠ "" → a ∈ (w.books (p.bookOf op.role)).ids)
    (leads : Crew.Leads sharedSite (Operation.recorded p) w crew w' crew') (new : crew.length ≤ i)
    (there : crew'[i]? = some (op, .ready (.done (told, r)))) : ∃ ids, op.Looked p ids told ∧ op.Resolved ids := by
  obtain ⟨sound, meets⟩ := Operation.meets_of_reaches agrees reached
  obtain ⟨sound', -⟩ := Operation.meets_of_reaches agrees (reached.trans leads)
  have begun : (op.recorded p).Ensures bookContract
      (fun _ x => ∃ ids, op.Looked p ids x.1 ∧ (True → op.Resolved ids)) w := by
    rw [Operation.recorded, looks]
    exact Operation.ensures_looking fun _ => known
  -- others may act before it is begun, and the book keeps what it knows
  obtain ⟨ids, looked, resolved⟩ := leads.meets_begun sharedSite_honors.keeps (fun _ => sharedSite_honors)
    (fun op w _ => op.ensures_recorded w) sound meets (fun _ more _ => Strand.Ensures.later begun more) new there w'
    (bookGrowth.refl w') sound'
  exact ⟨ids, looked, resolved trivial⟩

/-- **Nothing is dropped for a validator that was resolved before.** -/
theorem prepared_rows {bs : List Block} {s : SolveSummary} (agrees : w₀.Agrees)
    (reached : Crew.Reaches sharedSite (Operation.recorded p) w₀ w crew)
    (ended : (.validatorAddresses bs, .ready (.done (told, r))) ∈ crew)
    (solved : (p.validators.solve p.solver (bs.flatMap Block.validators)).Answered told (.ok s))
    (none_left : s.unresolved = 0) (leads : Crew.Leads sharedSite (Operation.recorded p) w crew w' crew') :
    ∀ i told' r', crew.length ≤ i →
      (crew'[i]? = some (.signings bs, .ready (.done (told', r'))) →
        ∃ ids, (Operation.signings bs).Looked p ids told' ∧
          ∀ b ∈ bs, b.height.toNat < signedBound → (∀ a ∈ b.validators, a ≠ "") →
            ∃ row ∈ keepGood (signingRow p.chain ids) bs, row.Records (Gives ids) p.chain b) ∧
      (crew'[i]? = some (.blocks bs, .ready (.done (told', r'))) →
        ∃ ids, (Operation.blocks bs).Looked p ids told' ∧
          ∀ b ∈ bs, b.height.toNat < signedBound → (∃ hash, Base64.decodeText b.hash = .ok hash) → b.proposer ≠ "" →
            ∃ row ∈ keepGood (blockRow p.chain ids) bs, row.Records (Gives ids) p.chain b) := by
  have known := known_of_ended agrees reached ended solved none_left
  refine fun i told' r' new => ⟨fun there => ?_, fun there => ?_⟩
  · obtain ⟨ids, looked, resolved⟩ :=
      Operation.resolved_of_begun Operation.strand_signings agrees reached known leads new there
    exact ⟨ids, looked, fun b member small named => resolved.signings member small named⟩
  · obtain ⟨ids, looked, resolved⟩ :=
      Operation.resolved_of_begun Operation.strand_blocks agrees reached known leads new there
    exact ⟨ids, looked, fun b member small hash named => resolved.blocks member small hash named⟩

end

/-! ## Two phases, one after the other -/

namespace TwoPhases

open OneDeposit (processor rule rule_follows)

/-- Storage has a validator. -/
def validated : Site := Site.empty.setIds ⟨"c", .validator⟩ ((∅ : AddressIds).insert "val" 7)

/-- What is left when the validators of blocks are solved. -/
def prepared (bs : List Block) : Site :=
  (rule.play (processor.validators.solve processor.solver (bs.flatMap Block.validators)) validated).2

/-- The first phase is played to its end. -/
theorem reaches_prepared (bs : List Block) : ∃ told,
    (processor.validators.solve processor.solver (bs.flatMap Block.validators)).Answered told
      (rule.play (processor.validators.solve processor.solver (bs.flatMap Block.validators)) validated).1 ∧
    Crew.Reaches sharedSite (Operation.recorded processor) .empty (prepared bs)
      [(.validatorAddresses bs, .ready (.done (told, Operation.reported
        (rule.play (processor.validators.solve processor.solver (bs.flatMap Block.validators)) validated).1)))] := by
  have others : sharedSite.others .empty validated :=
    Site.numbered_setIds (.first (by simp [Site.empty]) "val" (by decide))
  have stored : Crew.Reaches sharedSite (Operation.recorded processor) .empty validated [] :=
    .step .start (.others others)
  have reached := stored.trans (Crew.leads_begin_play rule_follows [] (.validatorAddresses bs) validated)
  obtain ⟨told, answered, played⟩ := rule.play_recorded_map Operation.reported
    (processor.validators.solve processor.solver (bs.flatMap Block.validators)) validated
  rw [Operation.recorded, Operation.strand_validatorAddresses, played] at reached
  exact ⟨told, answered, reached⟩

/-- An operation without a solver looks into its book as it is. -/
theorem leads_looked (op : Operation) (looks : op.strand processor = op.looking processor) (w : Site)
    (crew : Crew Operation (List Telling × Except IndexError Unit)) : ∃ told r,
    op.Looked processor (w.books (processor.bookOf op.role)).ids told ∧
    Crew.Leads sharedSite (Operation.recorded processor) w crew (rule.play (op.recorded processor) w).2
      (crew ++ [(op, .ready (.done (told, r)))]) := by
  obtain ⟨first, rest, asked, answered, same⟩ := rule.play_recorded_bind
    (Strand.book (processor.bookOf op.role) .entries)
    (fun ids => Except.map (fun _ => ()) <$> op.write processor.chain ids) w
  have looked :
      op.Looked processor (w.books (processor.bookOf op.role)).ids (rule.play (op.recorded processor) w).1.1 := by
    rw [Operation.recorded, looks]
    refine ⟨rest, same.trans ?_, Operation.puts_of_write answered⟩
    rw [asked.of_query]
    rfl
  have leads : Crew.Leads sharedSite (Operation.recorded processor) w crew _ _ :=
    Crew.leads_begin_play rule_follows crew op w
  obtain ⟨⟨told, r⟩, played⟩ : ∃ x, (rule.play (op.recorded processor) w).1 = x := ⟨_, rfl⟩
  rw [played] at leads looked
  exact ⟨told, r, looked, leads⟩

def block (height : UInt64) (proposer : String) (signers : List String) : Block :=
  ⟨height, "AQEB", ⟨0, 0⟩, "dev", proposer, [], signers⟩

/-- A block that the validator proposed and signed. -/
def signed : Block := block 1 "val" ["val"]

theorem solves_signed : (rule.play (processor.validators.solve processor.solver ([signed].flatMap Block.validators))
    validated).1 = .ok { requested := 1, recovered := 1 } := by
  decide +kernel

/-- It yields both its rows. -/
theorem signed_prepared : Site.empty.Agrees ∧ ∃ told w' told₁ r₁ told₂ r₂,
    Crew.Reaches sharedSite (Operation.recorded processor) .empty (prepared [signed])
      [(.validatorAddresses [signed], .ready (.done (told, .ok ())))] ∧
    Crew.Leads sharedSite (Operation.recorded processor) (prepared [signed])
      [(.validatorAddresses [signed], .ready (.done (told, .ok ())))] w'
      [(.validatorAddresses [signed], .ready (.done (told, .ok ()))),
        (.signings [signed], .ready (.done (told₁, r₁))), (.blocks [signed], .ready (.done (told₂, r₂)))] ∧
    (∃ ids, ∃ row ∈ keepGood (signingRow "c" ids) [signed], row.Records (Gives ids) "c" signed) ∧
    ∃ ids, ∃ row ∈ keepGood (blockRow "c" ids) [signed], row.Records (Gives ids) "c" signed := by
  obtain ⟨told, solved, reached⟩ := reaches_prepared [signed]
  rw [solves_signed] at solved reached
  obtain ⟨told₁, r₁, -, signs⟩ := leads_looked (.signings [signed]) Operation.strand_signings (prepared [signed])
    [(.validatorAddresses [signed], .ready (.done (told, .ok ())))]
  obtain ⟨told₂, r₂, -, stores⟩ := leads_looked (.blocks [signed]) Operation.strand_blocks _ _
  have leads := signs.trans stores
  have rows := prepared_rows Site.agrees_empty reached (List.mem_singleton.2 rfl) solved rfl leads
  obtain ⟨ids₁, -, signing⟩ := (rows 1 told₁ r₁ (by simp)).1 rfl
  obtain ⟨ids₂, -, stored⟩ := (rows 2 told₂ r₂ (by simp)).2 rfl
  have small : signed.height.toNat < signedBound := by decide
  have hash : Base64.decodeText signed.hash = .ok [1, 1, 1] := by decide +kernel
  exact ⟨Site.agrees_empty, told, _, told₁, r₁, told₂, r₂, reached, leads,
    ⟨ids₁, signing _ (List.mem_singleton.2 rfl) small (by decide)⟩,
    ⟨ids₂, stored _ (List.mem_singleton.2 rfl) small ⟨_, hash⟩ (by decide)⟩⟩

/-- An answer of the node about a block, with what it says of the proposer and of the signers. -/
def blockAnswer (height : String) (proposer commit : List (String × Json)) : Node.Exchange :=
  let header := [("chain_id", .str "dev"), ("height", .str height), ("time", .str "1970-01-01T00:00:00Z")] ++ proposer
  .answered 200 .utf8 (some (Json.obj [("result", .obj
    [("block_meta", .obj [("block_id", .obj [("hash", .str "AQEB")])]),
      ("block", .obj ([("header", .obj header)] ++ commit))])]).render.toUTF8.toList)

/-- A block without a proposer, and one that was signed by the empty address. -/
def nameless : List Block := [block 1 "" [], block 2 "val" [""]]

theorem answerOf_nameless :
    (Node.Request.block 1).answerOf "" (blockAnswer "1" [] []) = .ok (block 1 "" []) ∧
      (Node.Request.block 2).answerOf "" (blockAnswer "2" [("proposer_address", .str "val")]
        [("last_commit", .obj [("precommits", .arr [.obj [("validator_address", .str "")]])])]) =
          .ok (block 2 "val" [""]) := by
  constructor
  · have told : ((Node.Request.block 1).ask "" Node.blockParts (blockAnswer "1" [] []) >>= (·.toBlock 1)) =
        .ok (block 1 "" []) := by decide +kernel
    exact told
  · have told : ((Node.Request.block 2).ask "" Node.blockParts (blockAnswer "2" [("proposer_address", .str "val")]
        [("last_commit", .obj [("precommits", .arr [.obj [("validator_address", .str "")]])])]) >>= (·.toBlock 2)) =
          .ok (block 2 "val" [""]) := by decide +kernel
    exact told

theorem solves_nameless : (rule.play (processor.validators.solve processor.solver (nameless.flatMap Block.validators))
    validated).1 = .ok { requested := 1, recovered := 1 } := by
  decide +kernel

/-- Nothing is unresolved for the empty address. The rows of the one block and the signing row of the other are
dropped. -/
theorem nameless_dropped :
    ((Node.Request.block 1).answerOf "" (blockAnswer "1" [] []) = .ok (block 1 "" []) ∧
      (Node.Request.block 2).answerOf "" (blockAnswer "2" [("proposer_address", .str "val")]
        [("last_commit", .obj [("precommits", .arr [.obj [("validator_address", .str "")]])])]) =
          .ok (block 2 "val" [""])) ∧
    (∀ b ∈ nameless, b.height.toNat < signedBound ∧ Base64.decodeText b.hash = .ok [1, 1, 1]) ∧
    ∃ told s w' told₁ r₁ told₂ r₂,
      Crew.Reaches sharedSite (Operation.recorded processor) .empty (prepared nameless)
        [(.validatorAddresses nameless, .ready (.done (told, .ok ())))] ∧
      (processor.validators.solve processor.solver (nameless.flatMap Block.validators)).Answered told (.ok s) ∧
      s.unresolved = 0 ∧
      Crew.Leads sharedSite (Operation.recorded processor) (prepared nameless)
        [(.validatorAddresses nameless, .ready (.done (told, .ok ())))] w'
        [(.validatorAddresses nameless, .ready (.done (told, .ok ()))),
          (.signings nameless, .ready (.done (told₁, r₁))), (.blocks nameless, .ready (.done (told₂, r₂)))] ∧
      (∃ ids, (Operation.signings nameless).Looked processor ids told₁ ∧ keepGood (signingRow "c" ids) nameless = []) ∧
      ∃ ids, (Operation.blocks nameless).Looked processor ids told₂ ∧
        (keepGood (blockRow "c" ids) nameless).map (·.height) = [2] := by
  obtain ⟨told, solved, reached⟩ := reaches_prepared nameless
  rw [solves_nameless] at solved reached
  obtain ⟨told₁, r₁, signings, signs⟩ := leads_looked (.signings nameless) Operation.strand_signings
    (prepared nameless) [(.validatorAddresses nameless, .ready (.done (told, .ok ())))]
  obtain ⟨told₂, r₂, blocks, stores⟩ := leads_looked (.blocks nameless) Operation.strand_blocks _ _
  refine ⟨answerOf_nameless, by decide +kernel, told, _, _, told₁, r₁, told₂, r₂, reached, solved, rfl,
    signs.trans stores, ⟨_, signings, ?_⟩, ⟨_, blocks, ?_⟩⟩
  · decide +kernel
  · decide +kernel

end TwoPhases

end ChainIndex
