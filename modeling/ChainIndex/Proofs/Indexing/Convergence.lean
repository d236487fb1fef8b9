import ChainIndex.Proofs.Indexing.Complete

/-!
# Runs over a range converge

A site at the end of a run without failures `Shows` what the node has at the heights of the range: each
row that the transforms define, once, and an id for each address that the blocks name. Two sites that
show the same are `Alike`: read with addresses in place of ids, they have the same rows.

**Theorem (`historic_alike`).** However a range is cut into chunks and however the work is scheduled, runs
without failures leave sites alike.

**Theorem (`reindexed_alike`).** After a run with whatever failures, a run without leaves what a run
without failures leaves that begins with nothing. What the first run stored stays as it is, and one
more run changes nothing.

The proofs look at the ends only. Whatever happened, the site is sound; a run without failures makes it
complete; and soundness with completeness leaves nothing open but the choice of ids.
-/

namespace ChainIndex

open Storage Running

namespace Site

variable {node : FixedNode} {chain : String} {heights : List UInt64} {w w' : Site}

/-- The rows, read with addresses in place of ids. -/
def view (chain : String) (w : Site) : List (Row × List (Option String)) :=
  w.rows.map (Row.view fun role => owner (w.idsOf chain role))

/-- The rows are those that the node defines, each once; and each address that they need has one id. -/
structure Shows (node : FixedNode) (chain : String) (heights : List UInt64) (w : Site) : Prop where
  rows : ∀ row, row ∈ w.rows ↔ node.Defines chain heights (w.idsOf chain) row
  once : (w.rows.map Row.key).Nodup
  valid : ∀ space, ValidIds (w.ids space)
  named : ∀ space a, a ∈ w.ids space ↔ ∃ role, space = ⟨chain, role⟩ ∧ node.Names heights role a

/-- The same up to ids and the order of rows. -/
structure Alike (chain : String) (w w' : Site) : Prop where
  rows : (w.view chain).Perm (w'.view chain)
  addresses : ∀ space a, a ∈ w.ids space ↔ a ∈ w'.ids space

theorem Sound.shows (sound : w.Sound node chain heights) (complete : w.Complete node chain heights) :
    w.Shows node chain heights where
  rows row := ⟨sound.defined row, complete.rows⟩
  once := sound.keys
  valid := sound.valid
  named space a := by
    refine ⟨sound.named, ?_⟩
    rintro ⟨role, rfl, names⟩
    exact complete.named names

/-! ## Renaming -/

/-- The id that an address has elsewhere, in place of the id that it has here. -/
def rename (chain : String) (w w' : Site) (role : AddressRole) (id : AddressId) : AddressId :=
  ((owner (w.idsOf chain role) id).bind fun a => (w'.idsOf chain role)[a]?).getD 0

namespace Shows

variable (h : w.Shows node chain heights) (h' : w'.Shows node chain heights)

include h h'

theorem exists_id {role : AddressRole} {a : String} {id : AddressId} (found : (w.idsOf chain role)[a]? = some id) :
    ∃ id', (w'.idsOf chain role)[a]? = some id' :=
  exists_of_mem ((h'.named ⟨chain, role⟩ a).2 ((h.named ⟨chain, role⟩ a).1 (mem_of_some found)))

theorem gives_rename {role : AddressRole} {a : String} {id : AddressId} (gives : Gives (w.idsOf chain role) a id) :
    Gives (w'.idsOf chain role) a (rename chain w w' role id) := by
  obtain ⟨id', found⟩ := h.exists_id h' gives.1
  have owned : owner (w.idsOf chain role) id = some a := (h.valid _).owner_eq gives.1
  have renamed : rename chain w w' role id = id' := by simp [rename, owned, found]
  rw [renamed]
  exact ⟨found, Int.ne_of_gt ((h'.valid _).positive found)⟩

theorem owner_rename (role : AddressRole) (id : AddressId) :
    owner (w'.idsOf chain role) (rename chain w w' role id) = owner (w.idsOf chain role) id := by
  have valid : ValidIds (w'.idsOf chain role) := h'.valid _
  cases owned : owner (w.idsOf chain role) id with
  | none => simpa [rename, owned] using valid.owner_zero
  | some a =>
    obtain ⟨id', found⟩ := h.exists_id h' (some_of_owner owned)
    simpa [rename, owned, found] using valid.owner_eq found

/-- Read with addresses in place of ids, a row of one site is a row of the other. -/
theorem view_subset : w.view chain ⊆ w'.view chain := by
  intro v member
  obtain ⟨row, stored, rfl⟩ := List.mem_map.1 member
  have renamed := ((h.rows row).1 stored).map fun role a id => h.gives_rename h'
  refine List.mem_map.2 ⟨_, (h'.rows _).2 renamed, ?_⟩
  exact Row.view_mapIds (h.owner_rename h') row

omit h' in
theorem nodup_view : (w.view chain).Nodup := by
  have keys : (w.view chain).map (·.1.key) = w.rows.map Row.key := by
    rw [view, List.map_map]
    exact List.map_congr_left fun row _ => row.key_view _
  exact List.Nodup.of_map _ (keys ▸ h.once)

/-- **Sites that show the same are alike.** -/
theorem alike : Alike chain w w' where
  rows := (List.perm_ext_iff_of_nodup h.nodup_view h'.nodup_view).2 fun _ =>
    ⟨fun member => h.view_subset h' member, fun member => h'.view_subset h member⟩
  addresses space a := (h.named space a).trans (h'.named space a).symm

/-- A site that shows the same later is the same. -/
theorem unchanged (later : w.Later w') :
    w'.rows = w.rows ∧ ∀ space (a : String), (w'.ids space)[a]? = (w.ids space)[a]? := by
  have ids : ∀ space (a : String), (w'.ids space)[a]? = (w.ids space)[a]? := by
    intro space a
    cases found : (w.ids space)[a]? with
    | some id => exact later.ids found
    | none =>
      refine Std.TreeMap.getElem?_eq_none fun present => ?_
      obtain ⟨id, here⟩ := exists_of_mem ((h.named space a).2 ((h'.named space a).1 present))
      exact nomatch found.symm.trans here
  refine ⟨?_, ids⟩
  obtain ⟨more, same⟩ := later.rows
  have stored : ∀ row ∈ more, row ∈ w.rows := fun row member => by
    have defined := (h'.rows row).1 (same ▸ List.mem_append_right _ member)
    exact (h.rows row).2 (defined.more fun role a id found => (ids _ a).symm.trans found)
  have nothing : more = [] := by
    cases more with
    | nil => rfl
    | cons row more =>
      have once := h'.once
      rw [← same, List.map_append, List.nodup_append] at once
      exact absurd rfl (once.2.2 _ (List.mem_map_of_mem (stored row (by simp))) _ (by simp))
  rw [← same, nothing, List.append_nil]

end Shows

end Site

/-! ## A node with one block -/

namespace OneBlock

def hash : String := transactionHash []

/-- A block with one transaction, whose envelope is empty. -/
def block : Block := ⟨1, "", ⟨0, 0⟩, "c", "val", [hash], ["val"]⟩

def execution : Execution := ⟨hash, 1, 0, "", 0, 0, none, []⟩

theorem transactionHashOfText_empty : transactionHashOfText "" = .ok hash := by
  have read : envelopeOfText "" = .ok [] := by decide +kernel
  rw [transactionHashOfText, read]
  rfl

def node : FixedNode where
  block height := if height = 1 then some block else none
  execution digest := if digest = hash then some execution else none
  height_of_block {height b} h := by
    by_cases one : height = 1
    · obtain rfl : block = b := by simpa [one] using h
      exact one.symm
    · simp [one] at h
  hash_of_execution {digest e} h := by
    by_cases same : digest = hash
    · obtain rfl : execution = e := by simpa [same] using h
      exact same ▸ transactionHashOfText_empty
    · simp [same] at h
  height_of_execution {digest e height b} h known _ := by
    by_cases same : digest = hash
    · obtain rfl : execution = e := by simpa [same] using h
      by_cases one : height = 1
      · exact one.symm
      · simp [one] at known
    · simp [same] at h

/-- An indexer with these sizes of chunks. -/
def indexer (blockChunk transactionChunk : UInt64) : Indexer :=
  { processor := ⟨"c", ⟨⟨"c", .account⟩, 0⟩, ⟨⟨"c", .validator⟩, 0⟩, ⟨.usual, true⟩⟩
    fetchRetry := .usual
    blockChunk
    transactionChunk
    idle := .zero }

theorem wired (blockChunk transactionChunk : UInt64) : (indexer blockChunk transactionChunk).processor.Wired := by
  rintro (_ | _) <;> rfl

end OneBlock

/-! ## Runs over a range -/

section Runs

variable {node : FixedNode} {faulty : Prop} {ix ix' : Indexer} {range : HeightRange}

/-- Along a run over a range a site stays sound. -/
theorem sound_of_steps (wired : ix.processor.Wired) (valid : range.first ≤ range.last) {es : List Running.Event}
    {w w' : Site} {s : Stage (Except IndexError (List ChunkReport))} (sound : w.Sound node ix.processor.chain range.heights)
    (run : Steps (site node faulty) w (start (ix.historic range)) es w' s) :
    w'.Sound node ix.processor.chain range.heights ∧ w.Later w' := by
  obtain ⟨sound', later, -, -⟩ :=
    Steps.meets site_honors run sound (start_meets sound (ensures_historic wired valid))
  exact ⟨sound', later⟩

/-- A run without failures reports none, and leaves what there is to show. -/
theorem shows_of_completes (wired : ix.processor.Wired) (valid : range.first ≤ range.last) {es : List Running.Event}
    {w w' : Site} {r : Except IndexError (List ChunkReport)} (sound : w.Sound node ix.processor.chain range.heights)
    (run : Completes (site node False) (ix.historic range) w es w' r) :
    w'.Shows node ix.processor.chain range.heights ∧ w.Later w' ∧
      ∃ reports, r = .ok reports ∧ failedOf reports = [] := by
  obtain ⟨sound', later, reports, rfl, ends⟩ := run.ensures site_honors sound (ensures_historic wired valid)
  obtain ⟨fine, complete⟩ := ends not_false
  exact ⟨Site.Sound.shows sound' complete, later, reports, rfl, fine⟩

/-- **Chunks and schedules do not matter.** Two runs over a range that begin with nothing, in chunks of
whatever sizes, can be gone on with to their ends, and leave sites that show what the node has at the
heights of the range. -/
theorem historic_alike (wired : ix.processor.Wired) (wired' : ix'.processor.Wired)
    (chain : ix'.processor.chain = ix.processor.chain) (valid : range.first ≤ range.last) :
    (∀ {es w s}, Steps (site node False) .empty (start (ix.historic range)) es w s →
      ∃ es' w' r, Steps (site node False) w s es' w' (.done r)) ∧
    ∀ {es es' w w' r r'}, Completes (site node False) (ix.historic range) .empty es w r →
      Completes (site node False) (ix'.historic range) .empty es' w' r' →
      w.Shows node ix.processor.chain range.heights ∧ w.Alike ix.processor.chain w' ∧
        ∃ reports, r = .ok reports ∧ failedOf reports = [] := by
  refine ⟨fun _ => exists_completion (site_answering node False) _ _, fun run run' => ?_⟩
  obtain ⟨shows_, -, reported⟩ := shows_of_completes wired valid Site.sound_empty run
  obtain ⟨shows', -, -⟩ := shows_of_completes wired' valid Site.sound_empty run'
  rw [chain] at shows'
  exact ⟨shows_, shows_.alike shows', reported⟩

/-- Runs over two heights, at once and one by one. -/
theorem OneBlock.historic_alike_of_sizes : ∃ es w r es' w' r',
    Completes (site OneBlock.node False) ((indexer 5 7).historic ⟨1, 2⟩) .empty es w r ∧
    Completes (site OneBlock.node False) ((indexer 1 0).historic ⟨1, 2⟩) .empty es' w' r' ∧
    w.Shows OneBlock.node "c" (HeightRange.heights ⟨1, 2⟩) ∧ w.Alike "c" w' := by
  have answering := site_answering OneBlock.node False
  obtain ⟨es, w, r, run⟩ := exists_completes answering ((indexer 5 7).historic ⟨1, 2⟩) .empty
  obtain ⟨es', w', r', run'⟩ := exists_completes answering ((indexer 1 0).historic ⟨1, 2⟩) .empty
  obtain ⟨shows_, alike, -⟩ := (historic_alike (wired 5 7) (wired 1 0) rfl (by decide)).2 run run'
  exact ⟨es, w, r, es', w', r', run, run', shows_, alike⟩

/-- **Failures do no damage.** After any part of a run in which storage failed in whatever way, a run
without failures can be brought to its end. It leaves a site like that of a run without failures that
begins with nothing. It keeps the rows and ids that there were, and one more run changes nothing. -/
theorem reindexed_alike (wired : ix.processor.Wired) (valid : range.first ≤ range.last) {es₁ : List Running.Event}
    {w₁ : Site} {s₁ : Stage (Except IndexError (List ChunkReport))}
    (first : Steps (site node True) .empty (start (ix.historic range)) es₁ w₁ s₁) :
    (∃ es₂ w₂ r₂, Completes (site node False) (ix.historic range) w₁ es₂ w₂ r₂) ∧
    ∀ {es₂ w₂ r₂}, Completes (site node False) (ix.historic range) w₁ es₂ w₂ r₂ →
      w₁.Later w₂ ∧ w₂.Shows node ix.processor.chain range.heights ∧
      (∀ {es w r}, Completes (site node False) (ix.historic range) .empty es w r → w₂.Alike ix.processor.chain w) ∧
      ∀ {es₃ w₃ r₃}, Completes (site node False) (ix.historic range) w₂ es₃ w₃ r₃ →
        w₃.rows = w₂.rows ∧ ∀ space (a : String), (w₃.ids space)[a]? = (w₂.ids space)[a]? := by
  obtain ⟨sound₁, -⟩ := sound_of_steps wired valid Site.sound_empty first
  refine ⟨exists_completes (site_answering node False) _ _, fun second => ?_⟩
  obtain ⟨sound₂, later₂⟩ := sound_of_steps wired valid sound₁ second
  obtain ⟨shows₂, -, -⟩ := shows_of_completes wired valid sound₁ second
  refine ⟨later₂, shows₂, fun clean => ?_, fun third => ?_⟩
  · exact shows₂.alike (shows_of_completes wired valid Site.sound_empty clean).1
  · obtain ⟨shows₃, later₃, -⟩ := shows_of_completes wired valid sound₂ third
    exact shows₂.unchanged shows₃ later₃

/-- A run in which storage may fail, and runs after it. -/
theorem OneBlock.reindexed_alike_after_failures : ∃ es₁ w₁ r₁ es₂ w₂ r₂ es w r,
    Completes (site OneBlock.node True) ((indexer 1 1).historic ⟨1, 2⟩) .empty es₁ w₁ r₁ ∧
    Completes (site OneBlock.node False) ((indexer 1 1).historic ⟨1, 2⟩) w₁ es₂ w₂ r₂ ∧
    Completes (site OneBlock.node False) ((indexer 1 1).historic ⟨1, 2⟩) .empty es w r ∧
    w₁.Later w₂ ∧ w₂.Alike "c" w := by
  obtain ⟨es₁, w₁, r₁, first⟩ :=
    exists_completes (site_answering OneBlock.node True) ((indexer 1 1).historic ⟨1, 2⟩) .empty
  obtain ⟨es, w, r, clean⟩ :=
    exists_completes (site_answering OneBlock.node False) ((indexer 1 1).historic ⟨1, 2⟩) .empty
  obtain ⟨⟨es₂, w₂, r₂, second⟩, ends⟩ := reindexed_alike (wired 1 1) (by decide) first
  obtain ⟨later, -, alike, -⟩ := ends second
  exact ⟨es₁, w₁, r₁, es₂, w₂, r₂, es, w, r, first, second, clean, later, alike clean⟩

end Runs

end ChainIndex
