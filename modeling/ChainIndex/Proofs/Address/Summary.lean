import ChainIndex.Proofs.Address.Growing
import ChainIndex.Proofs.Address.Inserted
import Mathlib.Data.Finset.Card
import Mathlib.Data.Finset.Dedup

/-!
# What the summary of a solver says

At a site that only grows, with any number of other writers and with calls that fail in any pattern
(`solve_accounts`):

* *Accounts.* The counts of a call that succeeds add up to the number of its addresses, each counted once and the empty
  one not. No subtraction that they come from is cut off at zero, since no look-up finds more than it was asked for.
* *What is left.* There are as many addresses without an entry as the summary counts, and none if addresses are inserted
  together only. Another call puts nothing to storage but what is left, so after a complete call nothing at all.
* *Sets.* If nothing fails, the summary and the entries that the call makes are given by sets: the addresses, the entries
  that the book had, and what the first look-up found (`SolveSummary.expected`).

Where nobody else acts the first look-up finds what is stored, so a call is a function of the set of its addresses there
(`quiet_of_completes`): what is stored in the end is what was stored before or inserted by the call, and the call inserts
nothing that its first look-up found.
-/

namespace ChainIndex

open Storage Running

section

variable {w w' : Site} {book : BookRef} {settings : SolverSettings} {addresses : List String} {es : List Running.Event}
  {s : SolveSummary} {r : Except Storage.Error SolveSummary}

/-! ## Sets of addresses -/

/-- The addresses that a call is about, in no order. -/
def distinct (addresses : List String) : Finset String := addresses.toFinset.erase ""

@[simp] theorem mem_distinct {a : String} : a ∈ distinct addresses ↔ a ∈ addresses ∧ a ≠ "" := by
  simp [distinct, and_comm]

theorem distinct_congr {addresses' : List String} (same : ∀ a, a ≠ "" → (a ∈ addresses ↔ a ∈ addresses')) :
    distinct addresses = distinct addresses' := by
  ext a
  rw [mem_distinct, mem_distinct]
  exact and_congr_left (same a)

theorem length_eq_card {l : List String} {A : Finset String} (once : l.Nodup) (same : ∀ a, a ∈ l ↔ a ∈ A) :
    l.length = A.card := by
  rw [← List.toFinset_card_of_nodup once]
  congr 1
  ext a
  rw [List.mem_toFinset, same]

theorem size_eq_card {ids : AddressIds} {A : Finset String} (same : ∀ a, a ∈ ids ↔ a ∈ A) : ids.size = A.card := by
  rw [← Std.TreeMap.length_keys]
  exact length_eq_card Std.TreeMap.nodup_keys fun a => Std.TreeMap.mem_keys.trans (same a)

theorem length_wanted (addresses : List String) : (wanted addresses).length = (distinct addresses).card :=
  length_eq_card (nodup_wanted addresses) fun a => by rw [mem_wanted, mem_distinct]

/-! ## Accounts -/

/-- The counts of a call that succeeded add up to the addresses that it was asked for. -/
structure SolveSummary.Accounts (s : SolveSummary) (settings : SolverSettings) (addresses : List String)
    (es : List Running.Event) : Prop where
  requested : s.requested = (distinct addresses).card
  total : s.cached + s.recovered + s.inserted + s.unresolved = s.requested
  recovered : s.recovered = (firstFound (replies es)).size
  /-- No look-up found more than it was asked for, nor was it asked for more than the call was. -/
  bounded : ∀ space asked found, lookup space asked (.ok found) ∈ replies es →
    found.size ≤ asked.length ∧ asked.length ≤ s.requested
  complete : settings.oneByOne = false → s.unresolved = 0

/-- The addresses that a call leaves unresolved, and what another call asks storage for. -/
structure SolveSummary.Leaves (s : SolveSummary) (book : BookRef) (addresses : List String) (w' : Site)
    (left : List String) : Prop where
  once : left.Nodup
  count : left.length = s.unresolved
  inside : ∀ a ∈ left, a ∈ addresses ∧ a ≠ ""
  others : ∀ a ∈ addresses, a ≠ "" → a ∉ left → a ∈ (w'.books book).ids
  again : ∀ settings' w₁ es' w₂ r, w'.Gains w₁ →
    Completes busySite (.alone (book.solve settings' addresses)) w₁ es' w₂ r →
    (∀ c ∈ issued es', ∃ asked ⊆ left, asked ≠ [] ∧
      (c = .find book.space asked ∨ c = .insertAddresses book.space asked)) ∧
    (left = [] → issued es' = [])

theorem issued_eq_replies {r : Except Storage.Error SolveSummary} {σ : Type} {E : Environment σ} {w w' : σ}
    (h : Completes E (.alone (book.solve settings addresses)) w es w' r) : issued es = (replies es).map (·.1) := by
  obtain ⟨entries, w₁, told, -, rfl, -⟩ := h.course
  rw [issued_shown, replies_shown]

/-- Storage is asked only for addresses that are not in the book. -/
theorem about_of_completes {r : Except Storage.Error SolveSummary}
    (h : Completes busySite (.alone (book.solve settings addresses)) w es w' r) :
    ∀ reply ∈ replies es, ∃ asked, asked ≠ [] ∧ (∀ a ∈ asked, a ∈ addresses ∧ a ≠ "" ∧ a ∉ (w.books book).ids) ∧
      ((∃ r, reply = lookup book.space asked r) ∨
        ∃ r, reply = insertion book.space asked r ∧ ∀ a ∈ asked, a ∉ firstFound (replies es)) := by
  obtain ⟨entries, w₁, told, lives, rfl, adding, look, course⟩ := h.course
  rw [replies_look]
  intro reply member
  obtain ⟨asked, inside, filled, what⟩ := course.solving.about reply member
  have known : ∀ a ∈ (w.books book).ids, a ∈ entries := (knows_of_turn look).1
  refine ⟨asked, filled, fun a here => ?_, what⟩
  obtain ⟨named, absent⟩ := mem_without.1 (inside.subset here)
  exact ⟨(mem_wanted.1 named).1, (mem_wanted.1 named).2, fun present => absent (known a present)⟩

/-- Nothing is inserted that was in the book already, or that the first look-up found. -/
theorem inserted_of_completes (h : Completes busySite (.alone (book.solve settings addresses)) w es w' r)
    {space : AddressSpace} {asked : List String} (member : .insertAddresses space asked ∈ issued es) :
    ∀ a ∈ asked, a ∈ addresses ∧ a ≠ "" ∧ a ∉ (w.books book).ids ∧ a ∉ firstFound (replies es) := by
  rw [issued_eq_replies h] at member
  obtain ⟨reply, member, same⟩ := List.mem_map.1 member
  obtain ⟨asked', filled, absent, ⟨r', rfl⟩ | ⟨r', rfl, fresh⟩⟩ := about_of_completes h reply member
  · cases same
  · cases same
    intro a here
    obtain ⟨named, nonempty, unknown⟩ := absent a here
    exact ⟨named, nonempty, unknown, fresh a here⟩

/-- What others leave is in the book, and nothing else is asked for by another call. -/
theorem leaves_of_others {left : List String} (once : left.Nodup) (count : left.length = s.unresolved)
    (inside : ∀ a ∈ left, a ∈ addresses ∧ a ≠ "")
    (others : ∀ a ∈ addresses, a ≠ "" → a ∉ left → a ∈ (w'.books book).ids) : s.Leaves book addresses w' left := by
  refine ⟨once, count, inside, others, fun settings' w₁ es' w₂ r gains again => ?_⟩
  have calls : ∀ c ∈ issued es', ∃ asked ⊆ left, asked ≠ [] ∧
      (c = .find book.space asked ∨ c = .insertAddresses book.space asked) := by
    intro c issued
    rw [issued_eq_replies again] at issued
    obtain ⟨reply, member, rfl⟩ := List.mem_map.1 issued
    obtain ⟨asked, filled, absent, what⟩ := about_of_completes again reply member
    refine ⟨asked, fun a here => ?_, filled, ?_⟩
    · obtain ⟨named, nonempty, unknown⟩ := absent a here
      exact Classical.byContradiction fun known => unknown (gains.books (others a named nonempty known))
    · rcases what with ⟨r, rfl⟩ | ⟨r, rfl, -⟩
      · exact .inl rfl
      · exact .inr rfl
  refine ⟨calls, fun none => List.eq_nil_iff_forall_not_mem.2 fun c issued => ?_⟩
  obtain ⟨asked, inside, filled, -⟩ := calls c issued
  exact filled (List.subset_nil.1 (none ▸ inside))

/-- No look-up finds more than it was asked for, nor is it asked for more than the call was. -/
theorem bounded_of_completes (h : Completes busySite (.alone (book.solve settings addresses)) w es w' r)
    {space : AddressSpace} {asked : List String} {found : AddressIds}
    (member : lookup space asked (.ok found) ∈ replies es) :
    found.size ≤ asked.length ∧ asked.length ≤ (distinct addresses).card := by
  obtain ⟨entries, w₁, told, lives, rfl, adding, look, course⟩ := h.course
  rw [replies_look] at member
  have once : (without entries (wanted addresses)).Nodup := (nodup_wanted addresses).filter _
  obtain ⟨asked', inside, -, ⟨r', same⟩ | ⟨r', same, -⟩⟩ := course.solving.about _ member
  · cases same
    have only : ∀ a ∈ found, a ∈ asked := fun a present =>
      ((knows_of_lives lives adding _ (List.mem_cons_of_mem _ (mem_repliesIn.1 member))).1 a present).1
    have counted := size_add_length_without (once.sublist inside) only
    rw [← length_wanted]
    exact ⟨by omega, (inside.trans sublist_without).length_le⟩
  · cases same

namespace BookRef.Ended

variable {wanted unknown : List String} {told : List Telling} {first second : AddressIds}

/-- What was found and what is missing are all that was unknown, and what was assigned and what is left are all that was
missing. -/
theorem counts (ended : book.Ended settings wanted unknown w told w' s first second) (once : unknown.Nodup) :
    first.size + (without first unknown).length = unknown.length ∧
    second.size + (without second (without first unknown)).length = (without first unknown).length :=
  ⟨size_add_length_without once fun a present => (ended.found a present).1,
    size_add_length_without (once.filter _) ended.assigned⟩

theorem unresolved (ended : book.Ended settings wanted unknown w told w' s first second) (once : unknown.Nodup) :
    s.unresolved = (without second (without first unknown)).length := by
  obtain ⟨-, assigned⟩ := ended.counts once
  rw [ended.summary]
  change (without first unknown).length - second.size = _
  omega

theorem total (ended : book.Ended settings wanted unknown w told w' s first second) (once : unknown.Nodup)
    (fewer : unknown.length ≤ wanted.length) :
    s.cached + s.recovered + s.inserted + s.unresolved = s.requested := by
  obtain ⟨found, assigned⟩ := ended.counts once
  rw [ended.unresolved once, ended.summary]
  change wanted.length - unknown.length + first.size + second.size + _ = wanted.length
  omega

end BookRef.Ended

/-- **A call that succeeds accounts for its addresses.** -/
theorem accounts_of_completes (h : Completes busySite (.alone (book.solve settings addresses)) w es w' (.ok s)) :
    s.Accounts settings addresses es ∧ ∃ left, s.Leaves book addresses w' left := by
  obtain ⟨entries, w₁, told, lives, rfl, adding, look, course⟩ := h.course
  obtain ⟨first, second, ended⟩ := course.ended (List.forall_mem_cons.1 adding).2
  have once : (without entries (wanted addresses)).Nodup := (nodup_wanted addresses).filter _
  have unresolved := ended.unresolved once
  have requested : s.requested = (distinct addresses).card := by rw [ended.summary, ← length_wanted]
  let left := without second (without first (without entries (wanted addresses)))
  have mem_left (a : String) : a ∈ left ↔ (((a ∈ addresses ∧ a ≠ "") ∧ a ∉ entries) ∧ a ∉ first) ∧ a ∉ second := by
    rw [mem_without, mem_without, mem_without, mem_wanted]
  have complete (single : settings.oneByOne = false) : s.unresolved = 0 := by
    rw [unresolved, List.length_eq_zero_iff, without, List.filter_eq_nil_iff]
    intro a here
    simpa using ended.complete (.inl single) a here
  refine ⟨⟨requested, ended.total once sublist_without.length_le, ?_, ?_, complete⟩, left, ?_⟩
  · rw [replies_look, ended.head, ended.summary]
  · intro space asked found member
    rw [requested]
    exact bounded_of_completes h member
  · refine leaves_of_others ((once.filter _).filter _) unresolved.symm (fun a here => ((mem_left a).1 here).1.1.1) ?_
    intro a named nonempty known
    have entered : ∀ a ∈ entries, a ∈ (w'.books book).ids := (knows_of_lives lives adding _ List.mem_cons_self).2
    -- an address that is not left was in the book at first, or one of the look-ups found it
    by_cases present : a ∈ entries
    · exact entered a present
    · refine ended.learnt a (Classical.byContradiction fun nowhere => known ?_)
      rw [not_or] at nowhere
      exact (mem_left a).2 ⟨⟨⟨⟨named, nonempty⟩, present⟩, nowhere.1⟩, nowhere.2⟩

/-! ## Calls that nothing disturbs -/

/-- The summary of a call about a set of addresses, where some are in the book, the first look-up finds some, and nothing
fails. -/
def SolveSummary.expected (about : Finset String) (cached found : AddressIds) : SolveSummary where
  requested := about.card
  cached := (about.filter (· ∈ cached)).card
  recovered := (about.filter fun a => a ∉ cached ∧ a ∈ found).card
  inserted := (about.filter fun a => a ∉ cached ∧ a ∉ found).card
  unresolved := 0

theorem SolveSummary.expected_congr {about : Finset String} {cached cached' found found' : AddressIds}
    (known : ∀ a, a ∈ cached ↔ a ∈ cached') (same : ∀ a ∈ about, a ∉ cached → (a ∈ found ↔ a ∈ found')) :
    expected about cached found = expected about cached' found' := by
  have recovered : about.filter (fun a => a ∉ cached ∧ a ∈ found) = about.filter fun a => a ∉ cached' ∧ a ∈ found' :=
    Finset.filter_congr fun a member => by rw [← known]; exact and_congr_right (same a member)
  have inserted : about.filter (fun a => a ∉ cached ∧ a ∉ found) = about.filter fun a => a ∉ cached' ∧ a ∉ found' :=
    Finset.filter_congr fun a member => by rw [← known]; exact and_congr_right fun out => not_congr (same a member out)
  rw [expected, expected, recovered, inserted, Finset.filter_congr fun a _ => known a]

/-- What a call comes to that nothing failed in. It saw these entries of its book. -/
structure BookRef.Undisturbed (book : BookRef) (addresses : List String) (w : Site) (es : List Running.Event) (w' : Site)
    (r : Except Storage.Error SolveSummary) (entries : AddressIds) : Prop where
  before : ∀ a ∈ (w.books book).ids, a ∈ entries
  after : ∀ a ∈ entries, a ∈ (w'.books book).ids
  stored : ∀ a ∈ distinct addresses, a ∉ entries → a ∈ w.ids book.space → a ∈ firstFound (replies es)
  found : ∀ a ∈ firstFound (replies es), a ∈ w'.ids book.space
  result : r = .ok (.expected (distinct addresses) entries (firstFound (replies es)))
  enters : ∀ ref a, (∃ id, (a, id) ∈ entered ref es) ↔ book = ref ∧ a ∈ distinct addresses ∧ a ∉ entries

theorem exists_mem_toList_append {ids ids' : AddressIds} {a : String} :
    (∃ id, (a, id) ∈ ids.toList ++ ids'.toList) ↔ a ∈ ids ∨ a ∈ ids' := by
  have one (ids : AddressIds) : (∃ id, (a, id) ∈ ids.toList) ↔ a ∈ ids := by
    simp only [Std.TreeMap.mem_toList_iff_getElem?_eq_some]
    exact ⟨fun ⟨id, here⟩ => mem_of_some here, exists_of_mem⟩
  simp only [← one, List.mem_append, exists_or]

namespace BookRef.Ended

variable {entries first second : AddressIds} {told : List Telling}

/-- If nothing is left, what was found and what was assigned are all that was unknown. -/
theorem mem_or_mem {wanted unknown : List String} (ended : book.Ended settings wanted unknown w told w' s first second)
    (complete : ∀ a ∈ without first unknown, a ∈ second) (a : String) : a ∈ first ∨ a ∈ second ↔ a ∈ unknown := by
  constructor
  · rintro (found | assigned)
    · exact (ended.found a found).1
    · exact (mem_without.1 (ended.assigned a assigned)).1
  · intro inside
    exact (Classical.em (a ∈ first)).imp_right fun out => complete a (mem_without.2 ⟨inside, out⟩)

/-- If nothing is left, the summary counts sets. -/
theorem expected
    (ended : book.Ended settings (wanted addresses) (without entries (wanted addresses)) w told w' s first second)
    (complete : ∀ a ∈ without first (without entries (wanted addresses)), a ∈ second) :
    s = .expected (distinct addresses) entries first := by
  have unknown (a : String) : a ∈ without entries (wanted addresses) ↔ a ∈ distinct addresses ∧ a ∉ entries := by
    rw [mem_without, mem_wanted, mem_distinct]
  have once : (without entries (wanted addresses)).Nodup := (nodup_wanted addresses).filter _
  have fresh : (without entries (wanted addresses)).length = ((distinct addresses).filter (· ∉ entries)).card :=
    length_eq_card once fun a => by rw [unknown, Finset.mem_filter]
  have cached : (wanted addresses).length - (without entries (wanted addresses)).length =
      ((distinct addresses).filter (· ∈ entries)).card := by
    have split := Finset.card_filter_add_card_filter_not (s := distinct addresses) (· ∈ entries)
    rw [length_wanted, fresh]
    omega
  have recovered : first.size = ((distinct addresses).filter fun a => a ∉ entries ∧ a ∈ first).card := by
    refine size_eq_card fun a => ?_
    rw [Finset.mem_filter, ← and_assoc, ← unknown]
    exact ⟨fun here => ⟨(ended.found a here).1, here⟩, And.right⟩
  have inserted : second.size = ((distinct addresses).filter fun a => a ∉ entries ∧ a ∉ first).card := by
    refine size_eq_card fun a => ?_
    rw [Finset.mem_filter, ← and_assoc, ← unknown, ← mem_without]
    exact ⟨ended.assigned a, complete a⟩
  have left : (without first (without entries (wanted addresses))).length = second.size := by
    rw [inserted]
    refine length_eq_card (once.filter _) fun a => ?_
    rw [mem_without, unknown, Finset.mem_filter, and_assoc]
  rw [ended.summary, cached, left, recovered, inserted, length_wanted, Nat.sub_self]
  rfl

end BookRef.Ended

/-- **Where nothing fails** the summary is a matter of sets: of what was asked, of what the book had, and of what was
stored already. -/
theorem undisturbed_of_completes (h : Completes busySite (.alone (book.solve settings addresses)) w es w' r)
    (succeeds : ∀ reply ∈ replies es, Reply.Succeeds reply) :
    ∃ entries, book.Undisturbed addresses w es w' r entries := by
  obtain ⟨entries, w₁, told, lives, rfl, adding, look, course⟩ := h.course
  obtain ⟨before, after⟩ : w.Knows ⟨.book book .entries, entries⟩ w' := knows_of_lives lives adding _ List.mem_cons_self
  rw [replies_look] at succeeds
  have ends := course.solving.ok succeeds
  cases r with
  | error e => cases ends
  | ok s =>
  obtain ⟨first, second, ended⟩ := course.ended (List.forall_mem_cons.1 adding).2
  have complete := ended.complete (.inr succeeds)
  have head : firstFound (replies (shown (⟨.book book .entries, entries⟩ :: told) (.ok s : Except Storage.Error _))) =
      first := by rw [replies_look, ended.head]
  refine ⟨entries, before, after, fun a member out here => ?_, fun a here => ?_, ?_, fun ref a => ?_⟩
  · rw [head]
    refine ended.stored a (mem_without.2 ⟨?_, out⟩) ((gains_of_turn rfl look).ids here)
    rwa [mem_wanted, ← mem_distinct]
  · rw [head] at here
    exact (ended.found a here).2
  · rw [head, ended.expected complete]
  · rw [entered_look, ended.entered]
    by_cases here : book = ref
    · rw [if_pos here, and_iff_right here, exists_mem_toList_append, ended.mem_or_mem complete, mem_without, mem_wanted,
        mem_distinct]
    · simp [here]

/-! ## Quiet sites -/

/-- Where no call can fail, no reply is a failure. -/
theorem succeeds_of_completes {σ : Type} {E : Environment σ} {w w' : σ} (unfailing : E.Unfailing)
    (h : Completes E (.alone (book.solve settings addresses)) w es w' r) : ∀ reply ∈ replies es, Reply.Succeeds reply := by
  obtain ⟨entries, w₁, told, lives, rfl, -⟩ := h.course
  rw [replies_shown]
  exact lives.succeeds unfailing

/-- **Where nothing fails and nobody else acts** a call is a function of the set of its addresses. -/
theorem quiet_of_completes {node : FixedNode}
    (h : Completes (site node False) (.alone (book.solve settings addresses)) w es w' r) :
    r = .ok (.expected (distinct addresses) (w.books book).ids (w.ids book.space)) ∧
    ∀ ref a, a ∈ (w'.books ref).ids ↔ a ∈ (w.books ref).ids ∨ book = ref ∧ a ∈ distinct addresses := by
  have busy := h.within (site_within node False)
  obtain ⟨entries, calm⟩ := undisturbed_of_completes busy (succeeds_of_completes (site_unfailing node) h)
  have grown (ref : BookRef) (a : String) : a ∈ (w'.books ref).ids ↔
      a ∈ (w.books ref).ids ∨ book = ref ∧ a ∈ distinct addresses ∧ a ∉ entries := by
    rw [h.books (site_keepsBooks node False) ref, Std.TreeMap.mem_insertMany_list, ← calm.enters]
    simp
  have known (a : String) : a ∈ entries ↔ a ∈ (w.books book).ids := by
    -- what the call saw is in the book in the end, and the call entered nothing that it saw
    refine ⟨fun here => ?_, calm.before a⟩
    exact ((grown book a).1 (calm.after a here)).resolve_right fun new => new.2.2 here
  have found : ∀ a ∈ distinct addresses, a ∉ entries → (a ∈ firstFound (replies es) ↔ a ∈ w.ids book.space) := by
    refine fun a member out => ⟨fun here => ?_, calm.stored a member out⟩
    obtain ⟨_, _, told, lives, rfl, -⟩ := h.course
    -- it is stored in the end, and the call did not insert it, since the look-up had found it
    refine (inserts_of_lives lives (calm.found a here)).resolve_right ?_
    rintro ⟨asked, r', reply, inside⟩
    rw [← replies_shown (b := r)] at reply
    obtain ⟨asked', -, -, ⟨r'', same⟩ | ⟨r'', same, fresh⟩⟩ := about_of_completes busy _ reply
    · cases same
    · cases same
      exact fresh a inside here
  refine ⟨by rw [calm.result, SolveSummary.expected_congr known found], fun ref a => (grown ref a).trans ?_⟩
  refine ⟨Or.imp_right fun ⟨here, member, _⟩ => ⟨here, member⟩, ?_⟩
  rintro (old | ⟨rfl, member⟩)
  · exact .inl old
  · exact (Classical.em (a ∈ entries)).imp (known a).1 fun out => ⟨rfl, member, out⟩

/-! ## What a call comes to -/

/-- **A call accounts for its addresses.** If it succeeds, the counts of its summary add up, what it leaves unresolved is
counted, everything else is in the book, and another call asks storage for what was left and for nothing else. Where
nothing fails, the summary and the entries are a matter of the set of addresses, of what the book had and of what was
stored; so where nobody else acts, neither their order nor their repetition makes a difference. -/
theorem solve_accounts (run : Completes busySite (.alone (book.solve settings addresses)) w es w' r) :
    (∀ s, r = .ok s → s.Accounts settings addresses es ∧ ∃ left, s.Leaves book addresses w' left) ∧
    (∀ space asked, .insertAddresses space asked ∈ issued es → ∀ a ∈ asked,
      a ∈ addresses ∧ a ≠ "" ∧ a ∉ (w.books book).ids ∧ a ∉ firstFound (replies es)) ∧
    ((∀ reply ∈ replies es, Reply.Succeeds reply) → ∃ entries, book.Undisturbed addresses w es w' r entries) ∧
    ∀ node w₀ addresses' settings' es₁ w₁ r₁ es₂ w₂ r₂, (∀ a, a ≠ "" → (a ∈ addresses ↔ a ∈ addresses')) →
      Completes (site node False) (.alone (book.solve settings addresses)) w₀ es₁ w₁ r₁ →
      Completes (site node False) (.alone (book.solve settings' addresses')) w₀ es₂ w₂ r₂ →
      ∃ s, r₁ = .ok s ∧ r₂ = .ok s ∧ ∀ ref a, a ∈ (w₁.books ref).ids ↔ a ∈ (w₂.books ref).ids := by
  refine ⟨?_, fun _ _ => inserted_of_completes run, undisturbed_of_completes run, ?_⟩
  · rintro s rfl
    exact accounts_of_completes run
  · intro node w₀ addresses' settings' es₁ w₁ r₁ es₂ w₂ r₂ same one other
    obtain ⟨ends, books⟩ := quiet_of_completes one
    obtain ⟨ends', books'⟩ := quiet_of_completes other
    rw [← distinct_congr same] at ends' books'
    exact ⟨_, ends, ends', fun ref a => (books ref a).trans (books' ref a).symm⟩

end

namespace OneSolver

/-- A node that tells nothing. -/
def silent : FixedNode where
  block _ := none
  execution _ := none
  height_of_block known := by cases known
  hash_of_execution known := by cases known
  height_of_execution known := by cases known

/-- One address is stored and the other is not. -/
theorem call_accounts : ∃ es w',
    Completes busySite (.alone (book.solve ⟨.once, false⟩ ["g2", "g1", "", "g1"])) stored es w'
      (.ok { requested := 2, recovered := 1, inserted := 1 }) ∧
    SolveSummary.Accounts { requested := 2, recovered := 1, inserted := 1 } ⟨.once, false⟩ ["g2", "g1", "", "g1"] es ∧
    (∃ left, SolveSummary.Leaves { requested := 2, recovered := 1, inserted := 1 } book ["g2", "g1", "", "g1"] w' left) ∧
    (∃ entries, book.Undisturbed ["g2", "g1", "", "g1"] stored es w'
      (.ok { requested := 2, recovered := 1, inserted := 1 }) entries) ∧
    ∃ es₁ w₁, Completes (site silent False) (.alone (book.solve ⟨.once, true⟩ ["g1", "g2"])) stored es₁ w₁
      (.ok { requested := 2, recovered := 1, inserted := 1 }) := by
  have answering := site_answering silent False
  obtain ⟨es, w', r, run⟩ := exists_completes answering (.alone (book.solve ⟨.once, false⟩ ["g2", "g1", "", "g1"])) stored
  obtain ⟨es₁, w₁, r₁, run₁⟩ := exists_completes answering (.alone (book.solve ⟨.once, true⟩ ["g1", "g2"])) stored
  have value : SolveSummary.expected (distinct ["g2", "g1", "", "g1"]) (stored.books book).ids (stored.ids book.space) =
      { requested := 2, recovered := 1, inserted := 1 } := by decide +kernel
  obtain rfl : r = .ok { requested := 2, recovered := 1, inserted := 1 } := value ▸ (quiet_of_completes run).1
  have busy := run.within (site_within silent False)
  obtain ⟨accounts, -, calm, alike⟩ := solve_accounts busy
  obtain ⟨s, one, other, -⟩ := alike silent stored ["g1", "g2"] _ es w' _ es₁ w₁ r₁ (by grind) run run₁
  obtain rfl := Except.ok.inj one
  obtain ⟨counts, leaves⟩ := accounts _ rfl
  exact ⟨es, w', busy, counts, leaves, calm (succeeds_of_completes (site_unfailing silent) run), es₁, w₁, other ▸ run₁⟩

end OneSolver

end ChainIndex
