import ChainIndex.Program.Query

/-!
# Numbering addresses

A space is `Valid` if its ids are positive and no two addresses share one, so that an id can be read
back as its `owner`. `Numbers` says how a space may grow when addresses are asked to be in it: those
that are in it keep their ids, the others get ids that nobody has. Which ids these are is left open.
-/

namespace ChainIndex

/-- Ids that can be read back as addresses. -/
structure ValidIds (ids : AddressIds) : Prop where
  positive : ∀ {a : String} {id}, ids[a]? = some id → 0 < id
  injective : ∀ {a b : String} {id}, ids[a]? = some id → ids[b]? = some id → a = b

/-- The address that has an id. -/
def owner (ids : AddressIds) (id : AddressId) : Option String := (ids.toList.find? (·.2 = id)).map (·.1)

theorem exists_of_mem {ids : AddressIds} {a : String} (h : a ∈ ids) : ∃ id, ids[a]? = some id :=
  ⟨ids[a], by simp⟩

theorem mem_of_some {ids : AddressIds} {a : String} {id : AddressId} (h : ids[a]? = some id) : a ∈ ids := by
  rw [Std.TreeMap.mem_iff_isSome_getElem?, h]
  rfl

theorem some_of_owner {ids : AddressIds} {a : String} {id : AddressId} (h : owner ids id = some a) :
    ids[a]? = some id := by
  obtain ⟨⟨b, other⟩, found, rfl⟩ := Option.map_eq_some_iff.1 h
  obtain rfl : other = id := by simpa using List.find?_some found
  exact Std.TreeMap.mem_toList_iff_getElem?_eq_some.1 (List.mem_of_find?_eq_some found)

namespace ValidIds

variable {ids : AddressIds} {a : String} {id : AddressId}

theorem empty : ValidIds ∅ := ⟨fun h => by simp at h, fun h => by simp at h⟩

theorem owner_eq (valid : ValidIds ids) (h : ids[a]? = some id) : owner ids id = some a := by
  have member : (a, id) ∈ ids.toList := Std.TreeMap.mem_toList_iff_getElem?_eq_some.2 h
  have found : ∃ b, owner ids id = some b := by
    unfold owner
    cases absent : ids.toList.find? (·.2 = id) with
    | some entry => exact ⟨entry.1, rfl⟩
    | none => simpa using List.find?_eq_none.1 absent _ member
  obtain ⟨b, found⟩ := found
  rw [found, valid.injective (some_of_owner found) h]

theorem owner_zero (valid : ValidIds ids) : owner ids 0 = none := by
  cases found : owner ids 0 with
  | none => rfl
  | some a => exact absurd (valid.positive (some_of_owner found)) (by decide)

end ValidIds

/-- How a space grows when addresses are asked to be in it. -/
structure Numbers (old : AddressIds) (asked : List String) (new : AddressIds) : Prop where
  kept : ∀ {a : String} {id}, old[a]? = some id → new[a]? = some id
  given : ∀ {a}, a ∈ asked → a ∈ new
  only : ∀ {a}, a ∈ new → a ∈ old ∨ a ∈ asked
  fresh : ∀ {a : String} {id}, new[a]? = some id → a ∈ old ∨ 0 < id ∧ ∀ b : String, new[b]? = some id → b = a

namespace Numbers

variable {old new : AddressIds} {asked : List String}

/-- Ids stay valid. -/
theorem valid (h : Numbers old asked new) (valid : ValidIds old) : ValidIds new where
  positive {a id} found := by
    rcases h.fresh found with present | ⟨positive, -⟩
    · obtain ⟨id', known⟩ := exists_of_mem present
      obtain rfl : id' = id := by simpa [h.kept known] using found
      exact valid.positive known
    · exact positive
  injective {a b id} hA hB := by
    rcases h.fresh hA with inA | ⟨-, alone⟩
    · rcases h.fresh hB with inB | ⟨-, alone⟩
      · obtain ⟨idA, knownA⟩ := exists_of_mem inA
        obtain ⟨idB, knownB⟩ := exists_of_mem inB
        obtain rfl : idA = id := by simpa [h.kept knownA] using hA
        obtain rfl : idB = idA := by simpa [h.kept knownB] using hB
        exact valid.injective knownA knownB
      · exact alone a hA
    · exact (alone b hB).symm

theorem refl (old : AddressIds) : Numbers old [] old :=
  ⟨fun found => found, by simp, .inl, fun found => .inl (mem_of_some found)⟩

/-- The first address of a space may get any positive id. -/
theorem first (nothing : old.isEmpty) (a : String) {id : AddressId} (positive : 0 < id) :
    Numbers old [a] ((∅ : AddressIds).insert a id) := by
  have absent (b : String) : b ∉ old := by
    rw [Std.TreeMap.isEmpty_iff_forall_not_mem] at nothing
    exact nothing b
  have only {b : String} {other : AddressId} (found : ((∅ : AddressIds).insert a id)[b]? = some other) :
      b = a ∧ other = id := by
    rw [Std.TreeMap.getElem?_insert] at found
    by_cases same : a = b
    · subst same
      exact ⟨rfl, by simpa using found.symm⟩
    · simp [same] at found
  refine ⟨fun found => absurd (mem_of_some found) (absent _), by simp, fun {b} member => .inr ?_, fun found => .inr ?_⟩
  · obtain ⟨other, found⟩ := exists_of_mem member
    simp [(only found).1]
  · obtain ⟨rfl, rfl⟩ := only found
    exact ⟨positive, fun b other => (only other).1⟩

/-- Some number is above all that are given away. -/
theorem exists_above (ids : AddressIds) :
    ∃ top : AddressId, 0 < top ∧ ∀ (a : String) id, ids[a]? = some id → id < top := by
  have bounded : ∀ entries : List (String × AddressId), ∃ top : AddressId, 0 < top ∧ ∀ e ∈ entries, e.2 < top := by
    intro entries
    induction entries with
    | nil => exact ⟨1, by decide, by simp⟩
    | cons e entries ih =>
      obtain ⟨top, positive, above⟩ := ih
      refine ⟨max top (e.2 + 1), Int.lt_of_lt_of_le positive (Int.le_max_left _ _), fun e' member => ?_⟩
      rcases List.mem_cons.1 member with rfl | member
      · exact Int.lt_of_lt_of_le (Int.lt_succ e'.2) (Int.le_max_right _ _)
      · exact Int.lt_of_lt_of_le (above e' member) (Int.le_max_left _ _)
  obtain ⟨top, positive, above⟩ := bounded ids.toList
  exact ⟨top, positive, fun a id found => above (a, id) (Std.TreeMap.mem_toList_iff_getElem?_eq_some.2 found)⟩

/-- One more address can always be numbered. -/
theorem exists_cons (h : Numbers old asked new) (a : String) : ∃ new', Numbers old (a :: asked) new' := by
  by_cases present : a ∈ new
  · have only : ∀ {b}, b ∈ new → b ∈ old ∨ b ∈ a :: asked := fun member =>
      (h.only member).imp_right (List.mem_cons_of_mem a)
    refine ⟨new, h.kept, fun {b} member => ?_, only, h.fresh⟩
    rcases List.mem_cons.1 member with rfl | member
    · exact present
    · exact h.given member
  · obtain ⟨top, positive, above⟩ := exists_above new
    have absent : new[a]? = none := Std.TreeMap.getElem?_eq_none present
    have others : ∀ {b : String} {id}, new[b]? = some id → (new.insert a top)[b]? = some id := by
      intro b id found
      have : a ≠ b := by
        rintro rfl
        rw [absent] at found
        cases found
      simpa [Std.TreeMap.getElem?_insert, this] using found
    have inserted : ∀ {b : String} {id}, (new.insert a top)[b]? = some id → a = b ∧ top = id ∨ new[b]? = some id := by
      intro b id found
      by_cases same : a = b
      · exact .inl ⟨same, by simpa [Std.TreeMap.getElem?_insert, same] using found⟩
      · exact .inr (by simpa [Std.TreeMap.getElem?_insert, same] using found)
    refine ⟨new.insert a top, fun found => others (h.kept found), fun {b} member => ?_, fun {b} member => ?_, ?_⟩
    · rcases List.mem_cons.1 member with rfl | member
      · simp
      · exact Std.TreeMap.mem_insert.2 (.inr (h.given member))
    · rcases Std.TreeMap.mem_insert.1 member with same | member
      · obtain rfl : a = b := by simpa using same
        exact .inr List.mem_cons_self
      · exact (h.only member).imp_right (List.mem_cons_of_mem a)
    · intro b id found
      rcases inserted found with ⟨rfl, rfl⟩ | here
      · refine .inr ⟨positive, fun c same => ?_⟩
        rcases inserted same with ⟨rfl, -⟩ | known
        · rfl
        · exact absurd (above c _ known) (Int.lt_irrefl _)
      · refine (h.fresh here).imp_right fun ⟨positive', alone⟩ => ⟨positive', fun c same => ?_⟩
        rcases inserted same with ⟨rfl, rfl⟩ | known
        · exact absurd (above b _ here) (Int.lt_irrefl _)
        · exact alone c known

theorem exists_numbers (old : AddressIds) (asked : List String) : ∃ new, Numbers old asked new := by
  induction asked with
  | nil => exact ⟨old, refl old⟩
  | cons a asked ih =>
    obtain ⟨new, numbers⟩ := ih
    exact numbers.exists_cons a

end Numbers

end ChainIndex
