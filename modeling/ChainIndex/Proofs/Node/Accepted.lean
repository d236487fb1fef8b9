import ChainIndex.Node.Http
import ChainIndex.Proofs.Envelope.Spelling
import ChainIndex.Proofs.Json.Shapes
import ChainIndex.Proofs.Rows.Messages

/-!
# Which blocks are accepted

What the body of an answer tells is written down here field by field (`IsBlock`, `TellsReply`), and a body is read
exactly as that. **A block is accepted if it is whole, and nothing is put in place of one that is not**
(`accepted_exact`): it is the block at the height that was asked for, it has a hash, and each of its envelopes is
spelled in base64, so that each has its key. Whatever else comes back is an error under the name of that height, and
none that is worth repeating: the one that the node reports if the body is of the shape, else a word on what is wrong.
-/

namespace ChainIndex.Node

open Json

/-! ## What a body tells -/

/-- A text that stands for a time. -/
def IsTime (j : Json.Syntax) (t : Moment) : Prop := ∃ s, IsText j s ∧ Timestamp.parse? s = some t

def IsHeader : Json.Syntax → String × UInt64 × Moment × String → Prop :=
  Record ["chain_id", "height", "time", "proposer_address"] fun field (chainId, height, time, proposer) =>
    Given IsText (field "chain_id") chainId ∧
    Given Counts (field "height") height ∧
    Given IsTime (field "time") time ∧
    GivenOr "" IsText (field "proposer_address") proposer

/-- The hash of a block, which may be null or left out. -/
def IsHash : Json.Syntax → Option String → Prop :=
  Record ["block_id"] fun field =>
    Given (Record ["hash"] fun field => GivenOr none (Nullable IsText) (field "hash")) (field "block_id")

/-- The envelopes of a block. Null is as good as none. -/
def IsData : Json.Syntax → List String → Prop :=
  Record ["txs"] fun field => GivenOr [] (NullAs [] (Lists IsText)) (field "txs")

def IsPrecommit : Json.Syntax → String → Prop :=
  Record ["validator_address"] fun field => Given IsText (field "validator_address")

/-- The precommits of a block, with a null for each that is missing. -/
def IsCommit : Json.Syntax → List (Option String) → Prop :=
  Record ["precommits"] fun field => GivenOr [] (NullAs [] (Lists (Nullable IsPrecommit))) (field "precommits")

def IsBlock : Json.Syntax → BlockParts → Prop :=
  Record ["block_meta", "block"] fun field p =>
    Given IsHash (field "block_meta") p.hash ∧ Given IsBody (field "block") p
where
  IsBody : Json.Syntax → BlockParts → Prop :=
    Record ["header", "data", "last_commit"] fun field p =>
      Given IsHeader (field "header") (p.chainId, p.height, p.time, p.proposer) ∧
      GivenOr [] IsData (field "data") p.envelopes ∧
      ∃ commit, GivenOr none (Nullable IsCommit) (field "last_commit") commit ∧ commit.getD [] = p.precommits

/-- An error of the node; its data may be any value that nests no deeper than is read. -/
def IsRefusal : Json.Syntax → Refusal → Prop :=
  Record ["code", "message", "data"] fun field r =>
    Given IsWhole (field "code") r.code ∧
    Given IsText (field "message") r.message ∧
    GivenOr .null (fun j data => ofSyntax? (maxDepth - 2) j = some data) (field "data") r.data

def IsReply {α : Type} (R : Json.Syntax → α → Prop) (j : Json.Syntax) (r : Reply α) : Prop :=
  Structured ["result", "error"] j ∧
    Optional R j (entry ["result", "error"] j "result") r.result ∧
    GivenOr none (Nullable IsRefusal) (entry ["result", "error"] j "error") r.refusal

/-- A body is a text that tells of a result, or an error, or both or neither. -/
def TellsReply {α : Type} (R : Json.Syntax → α → Prop) (body : Option (List UInt8)) (r : Reply α) : Prop :=
  ∃ bytes j, body = some bytes ∧ Syntax.parse? bytes = some j ∧ IsReply R j r

/-! ## Bodies are read as what they tell -/

variable {depth : Nat}

theorem time_exact : Exact time depth IsTime := map?_exact text_exact

theorem header_exact : Exact header (depth + 1) IsHeader := by
  rintro j ⟨chainId, height, time, proposer⟩
  refine bind_members fun reads => ?_
  simp only [Option.bind_eq_bind, Option.bind_eq_some_iff,
    reads.need text_exact (by decide : "chain_id" ∈ _), reads.need word64_exact (by decide : "height" ∈ _),
    reads.need time_exact (by decide : "time" ∈ _), reads.getOr text_exact (by decide : "proposer_address" ∈ _)]
  constructor
  · rintro ⟨_, isChain, _, isHeight, _, isTime, _, isProposer, ⟨⟩⟩
    exact ⟨isChain, isHeight, isTime, isProposer⟩
  · rintro ⟨isChain, isHeight, isTime, isProposer⟩
    exact ⟨_, isChain, _, isHeight, _, isTime, _, isProposer, rfl⟩

theorem blockHash_exact : Exact blockHash (depth + 2) IsHash := fun _ _ =>
  bind_members fun reads =>
    reads.need
      (fun _ _ => bind_members fun reads => reads.getOr (nullable_exact text_exact) (by decide : "hash" ∈ _))
      (by decide : "block_id" ∈ _)

theorem envelopes_exact : Exact envelopes (depth + 2) IsData := fun _ _ =>
  bind_members fun reads => reads.getOr (nullAs_exact (list_exact text_exact)) (by decide : "txs" ∈ _)

theorem precommit_exact : Exact precommit (depth + 1) IsPrecommit := fun _ _ =>
  bind_members fun reads => reads.need text_exact (by decide : "validator_address" ∈ _)

theorem precommits_exact : Exact precommits (depth + 3) IsCommit := fun _ _ =>
  bind_members fun reads =>
    reads.getOr (nullAs_exact (list_exact (nullable_exact precommit_exact))) (by decide : "precommits" ∈ _)

theorem blockParts_exact : Exact blockParts (depth + 5) IsBlock := by
  intro j p
  refine bind_members fun reads => ?_
  simp only [Option.bind_eq_bind, Option.bind_eq_some_iff, reads.need blockHash_exact (by decide : "block_meta" ∈ _)]
  -- The body is read with the hash at hand, which becomes the hash of the parts.
  refine (exists_congr fun hash => and_congr_right fun _ =>
    reads.need (R := fun j p => p.hash = hash ∧ IsBlock.IsBody j p) (fun j p => ?body) (by decide)).trans ?_
  case body =>
    refine (bind_members fun reads => ?_).trans and_left_comm
    simp only [Option.bind_eq_some_iff, reads.need header_exact (by decide : "header" ∈ _),
      reads.getOr envelopes_exact (by decide : "data" ∈ _),
      reads.getOr (nullable_exact precommits_exact) (by decide : "last_commit" ∈ _)]
    constructor
    · rintro ⟨⟨chainId, height, time, proposer⟩, isHeader, envelopes, isData, commit, isCommit, ⟨⟩⟩
      exact ⟨rfl, isHeader, isData, commit, isCommit, rfl⟩
    · rintro ⟨rfl, isHeader, isData, commit, isCommit, same⟩
      refine ⟨_, isHeader, _, isData, _, isCommit, ?_⟩
      rw [same]
  · simp only [given_and]
    constructor
    · rintro ⟨hash, isHash, rfl, isBody⟩
      exact ⟨isHash, isBody⟩
    · rintro ⟨isHash, isBody⟩
      exact ⟨_, isHash, rfl, isBody⟩

theorem whole_exact : Exact (fun _ j => match j with
      | .number n => Int64.ofInt <$> Shape.wholeNumber? n
      | _ => none) depth IsWhole := by
  intro j code
  cases j with
  | number n =>
    simp only [Option.map_eq_map, Option.map_eq_some_iff, wholeNumber?_eq_some]
    constructor
    · rintro ⟨i, ⟨read, fits⟩, rfl⟩
      exact .number read fits
    · rintro ⟨read, fits⟩
      exact ⟨_, ⟨read, fits⟩, rfl⟩
  | _ => exact ⟨nofun, nofun⟩

theorem refusal_exact : Exact refusal (maxDepth - 1) IsRefusal := by
  rintro j ⟨code, message, data⟩
  refine bind_members fun reads => ?_
  have data_exact : Exact Shape.value (maxDepth - 2) fun j data => ofSyntax? (maxDepth - 2) j = some data :=
    fun _ _ => Iff.rfl
  simp only [Option.bind_eq_bind, Option.bind_eq_some_iff, reads.need text_exact (by decide : "message" ∈ _),
    reads.getOr data_exact (by decide : "data" ∈ _)]
  constructor
  · rintro ⟨_, readCode, _, isMessage, _, isData, ⟨⟩⟩
    exact ⟨(reads.need whole_exact (by decide)).1 readCode, isMessage, isData⟩
  · rintro ⟨isCode, isMessage, isData⟩
    exact ⟨_, (reads.need whole_exact (by decide)).2 isCode, _, isMessage, _, isData, rfl⟩

theorem reply_exact {α : Type} {shape : Shape α} {R : Json.Syntax → α → Prop} (part : Exact shape (maxDepth - 1) R) :
    Exact (reply shape) maxDepth (IsReply R) := by
  rintro j ⟨result, refused⟩
  refine bind_members fun reads => ?_
  simp only [Option.bind_eq_bind, Option.bind_eq_some_iff, reads.optional part (by decide : "result" ∈ _),
    reads.getOr (nullable_exact refusal_exact) (by decide : "error" ∈ _)]
  constructor
  · rintro ⟨_, isResult, _, isRefusal, ⟨⟩⟩
    exact ⟨isResult, isRefusal⟩
  · rintro ⟨isResult, isRefusal⟩
    exact ⟨_, isResult, _, isRefusal, rfl⟩

theorem readBody_eq_some {α : Type} {shape : Shape α} {R : Json.Syntax → α → Prop} {body : Option (List UInt8)}
    {r : Reply α} (part : Exact shape (maxDepth - 1) R) :
    readBody (reply shape) body = some r ↔ TellsReply R body r := by
  simp only [readBody, TellsReply, Option.bind_eq_bind, Option.bind_eq_some_iff, (reply_exact part).iff,
    exists_and_left]

/-! ## What is made of a block -/

/-- A text spells an envelope, and the envelope has the key. -/
def Keys (text key : String) : Prop := ∃ bytes, Spells text bytes ∧ key = transactionHash bytes

theorem transactionHashOfText_eq_ok {text key : String} : transactionHashOfText text = .ok key ↔ Keys text key := by
  constructor
  · intro read
    rcases invalidBase64_or_spells text with ⟨fault, -, refused⟩ | ⟨bytes, spelt⟩
    · rw [refused] at read
      cases read
    · rw [transactionHashOfText_of_spells spelt] at read
      exact ⟨bytes, spelt, (Except.ok.inj read).symm⟩
  · rintro ⟨bytes, spelt, rfl⟩
    exact transactionHashOfText_of_spells spelt

theorem digests_eq_ok {texts keys : List String} : digests texts = .ok keys ↔ List.Forall₂ Keys texts keys := by
  rw [digests, mapM_eq_ok]
  simp only [transactionHashOfText_eq_ok]

namespace BlockParts

/-- A block is the one that was asked for, and nothing of it is missing. -/
structure Whole (p : BlockParts) (requested : UInt64) : Prop where
  height : p.height = requested
  hash : ∃ hash, p.hash = some hash ∧ hash ≠ ""
  envelopes : ∀ text ∈ p.envelopes, ∃ bytes, Spells text bytes

/-- A block that repeats what it was made of: every envelope has its key in its place, and those who signed are those
whose precommit is there. -/
structure Makes (p : BlockParts) (b : Block) : Prop where
  height : b.height = p.height
  hash : p.hash = some b.hash
  time : b.time = p.time
  chainId : b.chainId = p.chainId
  proposer : b.proposer = p.proposer
  transactions : List.Forall₂ Keys p.envelopes b.transactions
  signers : b.signers = p.precommits.filterMap id

/-- A block is made of the parts of a whole one, and of no others. -/
theorem toBlock_cases (p : BlockParts) (requested : UInt64) :
    (p.Whole requested ∧ ∃ b, p.Makes b ∧ p.toBlock requested = .ok b) ∨
      (¬p.Whole requested ∧ ∃ text, p.toBlock requested = .error ⟨.height requested, .invalidResponse text⟩) := by
  unfold toBlock
  by_cases same : p.height = requested
  · rw [if_neg (not_not_intro same)]
    cases named : p.hash.filter (· ≠ "") with
    | none =>
      refine .inr ⟨fun whole => ?_, _, rfl⟩
      obtain ⟨hash, told, some_⟩ := whole.hash
      simp [told, some_] at named
    | some hash =>
      obtain ⟨told, some_⟩ := Option.filter_eq_some_iff.1 named
      cases listed : digests p.envelopes with
      | error e =>
        refine .inr ⟨fun whole => ?_, _, rfl⟩
        obtain ⟨keys, each⟩ : ∃ keys, List.Forall₂ Keys p.envelopes keys := exists_forall₂.2 fun text member => by
          obtain ⟨bytes, spelt⟩ := whole.envelopes text member
          exact ⟨_, bytes, spelt, rfl⟩
        rw [digests_eq_ok.2 each] at listed
        cases listed
      | ok keys =>
        have each := digests_eq_ok.1 listed
        refine .inl ⟨⟨same, ⟨hash, told, by simpa using some_⟩, fun text member => ?_⟩, _, ?_, rfl⟩
        · obtain ⟨key, bytes, spelt, -⟩ := exists_forall₂.1 ⟨keys, each⟩ text member
          exact ⟨bytes, spelt⟩
        · exact
            { height := rfl
              hash := told
              time := rfl
              chainId := rfl
              proposer := rfl
              transactions := each
              signers := rfl }
  · rw [if_pos same]
    exact .inr ⟨fun whole => same whole.height, _, rfl⟩

end BlockParts

/-! ## Answers -/

section

variable {α : Type} {shape : Shape α} {R : Json.Syntax → α → Prop} {body : Option (List UInt8)}

/-- A body tells one thing. -/
theorem TellsReply.unique {r r' : Reply α} (part : Exact shape (maxDepth - 1) R) (told : TellsReply R body r)
    (told' : TellsReply R body r') : r = r' := by
  rw [← readBody_eq_some part] at told told'
  exact Option.some_inj.1 (told.symm.trans told')

/-- What comes of an answer: the error that it tells of, else the result that it tells of. -/
theorem resultOf_cases (part : Exact shape (maxDepth - 1) R) (body : Option (List UInt8)) :
    (∃ result refusal, TellsReply R body ⟨result, some refusal⟩ ∧
        resultOf shape body = .error (.refused refusal.code.toInt refusal.describe)) ∨
      (¬∃ result refusal, TellsReply R body ⟨result, some refusal⟩) ∧
        ((∃ a, TellsReply R body ⟨some a, none⟩ ∧ resultOf shape body = .ok a) ∨
          (¬∃ a, TellsReply R body ⟨some a, none⟩) ∧ ∃ text, resultOf shape body = .error (.invalidResponse text)) := by
  simp only [← readBody_eq_some part]
  unfold resultOf
  cases readBody (reply shape) body with
  | none => exact .inr ⟨by simp, .inr ⟨by simp, _, rfl⟩⟩
  | some r =>
    obtain ⟨result, refused⟩ := r
    cases refused with
    | some refusal => exact .inl ⟨result, refusal, rfl, rfl⟩
    | none =>
      refine .inr ⟨by simp, ?_⟩
      cases result with
      | some a => exact .inl ⟨a, rfl, rfl⟩
      | none => exact .inr ⟨by simp, _, rfl⟩

end

/-- The fault of an answer that is not accepted: what the node reports, if the body tells of that, else a word on what
is wrong. -/
def Faults (body : Option (List UInt8)) (fault : Fault) : Prop :=
  (∃ result refusal, TellsReply IsBlock body ⟨result, some refusal⟩ ∧
      fault = .refused refusal.code.toInt refusal.describe) ∨
    (¬∃ result refusal, TellsReply IsBlock body ⟨result, some refusal⟩) ∧ ∃ text, fault = .invalidResponse text

theorem block_answer_cases {status : Nat} (success : Http.isSuccess status) (url : String) (charset : Text.Charset)
    (body : Option (List UInt8)) (h : UInt64) :
    let answer := (Request.block h).answerOf url (.answered status charset body)
    (∃ p b, TellsReply IsBlock body ⟨some p, none⟩ ∧ p.Whole h ∧ p.Makes b ∧ answer = .ok b) ∨
      (¬∃ p, TellsReply IsBlock body ⟨some p, none⟩ ∧ p.Whole h) ∧
        ∃ fault, Faults body fault ∧ answer = .error ⟨.height h, fault⟩ := by
  intro answer
  have told_exact : Exact blockParts (maxDepth - 1) IsBlock := blockParts_exact
  have asked : answer =
      ((resultOf blockParts body).mapError fun fault => (⟨.height h, fault⟩ : Error)) >>= (·.toBlock h) := by
    simp only [answer, Request.answerOf, Request.ask, interpret, if_pos success]
    rfl
  rw [asked]
  rcases resultOf_cases told_exact body with ⟨result, refusal, told, failed⟩ | ⟨quiet, result⟩
  · refine .inr ⟨?_, _, .inl ⟨result, refusal, told, rfl⟩, by rw [failed]; rfl⟩
    rintro ⟨p, told', -⟩
    cases told.unique told_exact told'
  · rcases result with ⟨p, told, read⟩ | ⟨nothing, text, failed⟩
    · rcases p.toBlock_cases h with ⟨whole, b, makes, made⟩ | ⟨torn, text, failed⟩
      · exact .inl ⟨p, b, told, whole, makes, by rw [read]; exact made⟩
      · refine .inr ⟨?_, _, .inr ⟨quiet, text, rfl⟩, by rw [read]; exact failed⟩
        rintro ⟨p', told', whole⟩
        cases told.unique told_exact told'
        exact torn whole
    · exact .inr ⟨fun ⟨p, told, _⟩ => nothing ⟨p, told⟩, _, .inr ⟨quiet, text, rfl⟩, by rw [failed]; rfl⟩

/-- **Only a whole block is accepted.** If the server answers with success, whatever the body, a block comes of it just
where the body tells of a result and of no error, and the result is the whole block at that height; then the block is
made of all that was told. Everything else is an error under the name of the height and not worth repeating: the
error that the body tells of, or one that says what is wrong with the body. -/
theorem accepted_exact {status : Nat} (success : Http.isSuccess status) (url : String) (charset : Text.Charset)
    (body : Option (List UInt8)) (h : UInt64) :
    let answer := (Request.block h).answerOf url (.answered status charset body)
    ((∃ b, answer = .ok b) ↔ ∃ p, TellsReply IsBlock body ⟨some p, none⟩ ∧ p.Whole h) ∧
    (∀ p b, TellsReply IsBlock body ⟨some p, none⟩ → answer = .ok b → p.Makes b) ∧
    ∀ e, answer = .error e → e.target = .height h ∧ e.retryable = false ∧ Faults body e.fault := by
  intro answer
  rcases block_answer_cases success url charset body h with
    ⟨p, b, told, whole, makes, accepted⟩ | ⟨torn, fault, faults, refused⟩
  · change answer = .ok b at accepted
    rw [accepted]
    refine ⟨⟨fun _ => ⟨p, told, whole⟩, fun _ => ⟨b, rfl⟩⟩, fun p' b' told' same => ?_, nofun⟩
    cases told.unique blockParts_exact told'
    obtain rfl := Except.ok.inj same
    exact makes
  · change answer = .error _ at refused
    rw [refused]
    refine ⟨⟨nofun, fun whole => absurd whole torn⟩, nofun, fun e same => ?_⟩
    obtain rfl := Except.error.inj same
    refine ⟨rfl, ?_, faults⟩
    rcases faults with ⟨_, _, _, rfl⟩ | ⟨_, _, rfl⟩
    · rfl
    · rfl

/-- A block with one envelope, which one of two validators signed. -/
def seventh : Json :=
  .obj
    [("block_meta", .obj [("block_id", .obj [("hash", .str "q80=")])]),
      ("block", .obj
        [("header", .obj [("chain_id", .str "dev"), ("height", .str "7"), ("time", .str "2024-01-02T03:04:05Z")]),
          ("data", .obj [("txs", .arr [.str "IgFh"])]),
          ("last_commit", .obj [("precommits", .arr [.null, .obj [("validator_address", .str "g1v")]])])])]

def seventhBody : List UInt8 := (Json.obj [("result", seventh)]).render.toUTF8.toList

theorem seventh_accepted :
    let b : Block :=
      { height := 7
        hash := "q80="
        time := ⟨1704164645, 0⟩
        chainId := "dev"
        proposer := ""
        transactions := ["AJRGJT/HPMDuvO6XHv+eQRthd/Gq30NlvaKqjjIbxDs="]
        signers := ["g1v"] }
    Http.isSuccess 200 ∧ (Request.block 7).answerOf "" (.answered 200 .utf8 (some seventhBody)) = .ok b ∧
      ∃ p, TellsReply IsBlock (some seventhBody) ⟨some p, none⟩ ∧ p.Whole 7 ∧ p.Makes b := by
  intro b
  have success : Http.isSuccess 200 := by decide
  have accepted : ((Request.block 7).ask "" blockParts (.answered 200 .utf8 (some seventhBody)) >>=
      (·.toBlock 7)) = .ok b := by decide +kernel
  obtain ⟨told, makes, -⟩ := accepted_exact success "" .utf8 (some seventhBody) 7
  obtain ⟨p, tells, whole⟩ := told.1 ⟨b, accepted⟩
  exact ⟨success, accepted, p, tells, whole, makes p b tells accepted⟩

end ChainIndex.Node
