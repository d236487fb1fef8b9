import ChainIndex.Address.Solver
import ChainIndex.Proofs.Retry.Attempts
import ChainIndex.Proofs.Running.Lived

/-!
# The calls of a solver

What a call to a solver asks storage, and what it makes of the replies, is written down here without the program.
Addresses that the book does not have are looked up. Those that storage does not have either are inserted together
until that succeeds or has failed as often as allowed (`Inserting`); then, if the settings say so, one by one, and
whatever the others came to. A second lookup tells the ids (`Solving`).
-/

namespace ChainIndex

open Storage Running

/-- A call to storage with the reply to it. -/
abbrev Reply : Type := (c : Storage.Call) × c.Answer

/-! ## What is seen of storage -/

namespace Running

/-- The call that an event puts to storage. -/
def Event.call? : Event → Option Storage.Call
  | .asked _ (.call c) => some c
  | _ => none

/-- The reply of storage that an event is. -/
def Event.reply? : Event → Option Reply
  | .answered _ (.call c) r => some ⟨c, r⟩
  | _ => none

/-- All calls that were put to storage, in their order. -/
def issued (es : List Event) : List Storage.Call := es.filterMap Event.call?

/-- All replies of storage, in their order. -/
def replies (es : List Event) : List Reply := es.filterMap Event.reply?

end Running

/-- The reply of storage that a strand was told. -/
def Telling.reply? : Telling → Option Reply
  | ⟨.call c, r⟩ => some ⟨c, r⟩
  | _ => none

/-- The replies of storage among all that a strand was told. -/
def repliesIn (told : List Telling) : List Reply := told.filterMap Telling.reply?

section

variable {β : Type} {told told' : List Telling} {b : β}

@[simp] theorem repliesIn_append : repliesIn (told ++ told') = repliesIn told ++ repliesIn told' := List.filterMap_append

theorem replies_shown : replies (shown told b) = repliesIn told := by
  induction told with
  | nil => rfl
  | cons t told ih =>
    obtain ⟨q, a⟩ := t
    rw [shown_cons]
    cases q with
    | call c => exact congrArg (⟨c, a⟩ :: ·) ih
    | _ => exact ih

/-- Whatever was put to storage was replied to. -/
theorem issued_shown : issued (shown told b) = (repliesIn told).map (·.1) := by
  induction told with
  | nil => rfl
  | cons t told ih =>
    obtain ⟨q, a⟩ := t
    rw [shown_cons]
    cases q with
    | call c => exact congrArg (c :: ·) ih
    | _ => exact ih

theorem mem_repliesIn {c : Storage.Call} {r : c.Answer} : (⟨c, r⟩ : Reply) ∈ repliesIn told ↔ ⟨.call c, r⟩ ∈ told := by
  rw [repliesIn, List.mem_filterMap]
  constructor
  · rintro ⟨⟨q, a⟩, member, same⟩
    cases q with
    | call c' =>
      cases same
      exact member
    | _ => cases same
  · intro member
    exact ⟨_, member, rfl⟩

end

/-! ## The course that a call should take -/

/-- Storage looked addresses up, or failed to. -/
def lookup (space : AddressSpace) (asked : List String) (r : Except Storage.Error AddressIds) : Reply :=
  ⟨.find space asked, r⟩

/-- Storage inserted addresses, or failed to. -/
def insertion (space : AddressSpace) (asked : List String) (r : Except Storage.Error Unit) : Reply :=
  ⟨.insertAddresses space asked, r⟩

/-- How often addresses may be inserted together. -/
def SolverSettings.most (settings : SolverSettings) : Nat := max 1 settings.retry.amount.toNat

/-- Inserting what is missing: the replies, and what comes of it. -/
inductive Inserting (space : AddressSpace) (settings : SolverSettings) (missing : List String) :
    List Reply → Except Storage.Error Unit → Prop
  /-- After some failures all are inserted together. -/
  | together {errors : List Storage.Error} (few : errors.length < settings.most) :
    Inserting space settings missing
      (errors.map (fun e => insertion space missing (.error e)) ++ [insertion space missing (.ok ())]) (.ok ())
  /-- All attempts failed, and nothing else may be tried. -/
  | given_up {errors : List Storage.Error} {last : Storage.Error} (all : errors.length + 1 = settings.most)
      (together : settings.oneByOne = false) :
    Inserting space settings missing ((errors ++ [last]).map fun e => insertion space missing (.error e)) (.error last)
  /-- All attempts failed, and every address is inserted by itself, whatever comes of the others. -/
  | singly {errors : List Storage.Error} {outcomes : List (Except Storage.Error Unit)}
      (all : errors.length = settings.most) (single : settings.oneByOne = true)
      (each : outcomes.length = missing.length) :
    Inserting space settings missing
      (errors.map (fun e => insertion space missing (.error e)) ++
        List.zipWith (fun a r => insertion space [a] r) missing outcomes) (.ok ())

/-- The addresses that are asked for, each once and the empty one not. -/
def wanted (addresses : List String) : List String :=
  (firstOccurrences addresses).filter (· ≠ "")

/-- The addresses that have no id yet. -/
def without (ids : AddressIds) (addresses : List String) : List String :=
  addresses.filter fun a => !ids.contains a

/-- Giving ids to addresses that the book does not have: the replies, and whether it ends with an error. -/
inductive Solving (space : AddressSpace) (settings : SolverSettings) (unknown : List String) :
    List Reply → Except Storage.Error Unit → Prop
  | known (none : unknown = []) : Solving space settings unknown [] (.ok ())
  | unanswered {e : Storage.Error} (some : unknown ≠ []) :
    Solving space settings unknown [lookup space unknown (.error e)] (.error e)
  | recovered {found : AddressIds} (some : unknown ≠ []) (none : without found unknown = []) :
    Solving space settings unknown [lookup space unknown (.ok found)] (.ok ())
  | refused {found : AddressIds} {rs : List Reply} {e : Storage.Error} (some : without found unknown ≠ [])
      (inserting : Inserting space settings (without found unknown) rs (.error e)) :
    Solving space settings unknown (lookup space unknown (.ok found) :: rs) (.error e)
  | unread {found : AddressIds} {rs : List Reply} {e : Storage.Error} (some : without found unknown ≠ [])
      (inserting : Inserting space settings (without found unknown) rs (.ok ())) :
    Solving space settings unknown
      (lookup space unknown (.ok found) :: rs ++ [lookup space (without found unknown) (.error e)]) (.error e)
  | solved {found assigned : AddressIds} {rs : List Reply} (some : without found unknown ≠ [])
      (inserting : Inserting space settings (without found unknown) rs (.ok ())) :
    Solving space settings unknown
      (lookup space unknown (.ok found) :: rs ++ [lookup space (without found unknown) (.ok assigned)]) (.ok ())

/-- What the first reply told, if it was a look-up that did not fail. -/
def firstFound : List Reply → AddressIds
  | ⟨.find _ _, .ok (found : AddressIds)⟩ :: _ => found
  | _ => ∅

/-- The reply is no failure. -/
def Reply.Succeeds (reply : Reply) : Prop := ∃ a, reply.2 = .ok a

section

variable {space : AddressSpace} {settings : SolverSettings} {unknown missing : List String} {rs : List Reply}
  {r : Except Storage.Error Unit}

theorem SolverSettings.most_pos (settings : SolverSettings) : 0 < settings.most :=
  Nat.lt_of_lt_of_le Nat.zero_lt_one (Nat.le_max_left _ _)

theorem SolverSettings.toNat_attempts (settings : SolverSettings) : settings.retry.attempts.toNat = settings.most :=
  settings.retry.toNat_attempts

theorem sublist_without {ids : AddressIds} {addresses : List String} : (without ids addresses).Sublist addresses :=
  List.filter_sublist

theorem mem_without {ids : AddressIds} {addresses : List String} {a : String} :
    a ∈ without ids addresses ↔ a ∈ addresses ∧ a ∉ ids := by
  rw [without, List.mem_filter, Bool.not_eq_true', ← Bool.not_eq_true, Std.TreeMap.contains_iff_mem]

/-- Only what is missing is inserted. -/
theorem Inserting.about (h : Inserting space settings missing rs r) (some : missing ≠ []) :
    ∀ reply ∈ rs, ∃ asked r, asked.Sublist missing ∧ asked ≠ [] ∧ reply = insertion space asked r := by
  have failed {errors : List Storage.Error} {reply : Reply}
      (member : reply ∈ errors.map fun e => insertion space missing (.error e)) :
      ∃ asked r, asked.Sublist missing ∧ asked ≠ [] ∧ reply = insertion space asked r := by
    obtain ⟨e, -, rfl⟩ := List.mem_map.1 member
    exact ⟨missing, _, List.Sublist.refl _, some, rfl⟩
  intro reply member
  cases h with
  | together few =>
    rcases List.mem_append.1 member with early | last
    · exact failed early
    · exact ⟨missing, _, List.Sublist.refl _, some, List.mem_singleton.1 last⟩
  | given_up all together => exact failed member
  | singly all single each =>
    rcases List.mem_append.1 member with early | later
    · exact failed early
    · rw [← List.map_uncurry_zip_eq_zipWith, List.mem_map] at later
      obtain ⟨⟨a, outcome⟩, inside, rfl⟩ := later
      have present := (List.of_mem_zip inside).1
      exact ⟨[a], outcome, List.singleton_sublist.2 present, by simp, rfl⟩

/-- Whatever is asked of storage is about addresses that the book does not have, and nothing is inserted that was
found. -/
theorem Solving.about (h : Solving space settings unknown rs r) :
    ∀ reply ∈ rs, ∃ asked, asked.Sublist unknown ∧ asked ≠ [] ∧
      ((∃ r, reply = lookup space asked r) ∨ ∃ r, reply = insertion space asked r ∧ ∀ a ∈ asked, a ∉ firstFound rs) := by
  have inserts {found : AddressIds} {rs : List Reply} {r : Except Storage.Error Unit} {reply : Reply}
      (some : without found unknown ≠ []) (inserting : Inserting space settings (without found unknown) rs r)
      (member : reply ∈ rs) : ∃ asked, asked.Sublist unknown ∧ asked ≠ [] ∧
        ((∃ r, reply = lookup space asked r) ∨ ∃ r, reply = insertion space asked r ∧ ∀ a ∈ asked, a ∉ found) := by
    obtain ⟨asked, r, inside, filled, rfl⟩ := inserting.about some reply member
    exact ⟨asked, inside.trans sublist_without, filled, .inr ⟨r, rfl, fun a here => (mem_without.1 (inside.subset here)).2⟩⟩
  have filled {found : AddressIds} (some : without found unknown ≠ []) : unknown ≠ [] := by
    rintro rfl
    exact some rfl
  intro reply member
  cases h with
  | known none => simp at member
  | unanswered some =>
    obtain rfl := List.mem_singleton.1 member
    exact ⟨unknown, List.Sublist.refl _, some, .inl ⟨_, rfl⟩⟩
  | recovered some none =>
    obtain rfl := List.mem_singleton.1 member
    exact ⟨unknown, List.Sublist.refl _, some, .inl ⟨_, rfl⟩⟩
  | refused some inserting =>
    rcases List.mem_cons.1 member with rfl | member
    · exact ⟨unknown, List.Sublist.refl _, filled some, .inl ⟨_, rfl⟩⟩
    · exact inserts some inserting member
  | unread some inserting | solved some inserting =>
    rw [List.cons_append, List.mem_cons, List.mem_append, List.mem_singleton] at member
    rcases member with rfl | member | rfl
    · exact ⟨unknown, List.Sublist.refl _, filled some, .inl ⟨_, rfl⟩⟩
    · exact inserts some inserting member
    · exact ⟨_, sublist_without, some, .inl ⟨_, rfl⟩⟩

/-- If nothing fails, the addresses were inserted together. -/
theorem Inserting.ok (h : Inserting space settings missing rs r) (succeeds : ∀ reply ∈ rs, reply.Succeeds) :
    r = .ok () ∧ insertion space missing (.ok ()) ∈ rs := by
  have failed {e : Storage.Error} (member : insertion space missing (.error e) ∈ rs) : False := by
    obtain ⟨a, same⟩ := succeeds _ member
    cases same
  cases h with
  | together few => exact ⟨rfl, by simp⟩
  | @given_up errors last all together =>
    exact (failed (List.mem_map.2 ⟨last, by simp, rfl⟩)).elim
  | @singly errors outcomes all single each =>
    have some : 0 < errors.length := all ▸ settings.most_pos
    obtain ⟨e, more, rfl⟩ := List.exists_cons_of_length_pos some
    exact (failed (List.mem_append_left _ (List.mem_map.2 ⟨e, by simp, rfl⟩))).elim

/-- If nothing fails, there is no error to end with. -/
theorem Solving.ok (h : Solving space settings unknown rs r) (succeeds : ∀ reply ∈ rs, reply.Succeeds) :
    r = .ok () := by
  cases h with
  | known none => rfl
  | recovered some none => rfl
  | solved some inserting => rfl
  | unanswered some =>
    obtain ⟨a, same⟩ := succeeds _ (List.mem_singleton_self _)
    cases same
  | refused some inserting =>
    cases (inserting.ok fun reply member => succeeds reply (List.mem_cons_of_mem _ member)).1
  | unread some inserting =>
    obtain ⟨a, same⟩ := succeeds _ (List.mem_append_right _ (List.mem_singleton_self _))
    cases same

end

end ChainIndex
