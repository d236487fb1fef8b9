import ChainIndex.Address.Book

/-!
# The books together

Which entries the address books have after a question: those that they had, and what the question
enters. Nothing but a look into a book or an entry into it concerns them.
-/

namespace ChainIndex

/-- All address books. -/
abbrev Books := BookRef → AddressBook

namespace Books

variable {books : Books} {q : Query} {ref : BookRef} {a : String} {id : AddressId}

/-- What a question leaves of the books. -/
def after (books : Books) : Query → Books
  | .book ref step => fun other => if other = ref then ((books ref).step step).2 else books other
  | _ => books

theorem ids_after_entries : (books.after (.book ref .entries) ref).ids = (books ref).ids := by
  simp [after, AddressBook.step]

theorem ids_after_learn : (books.after (.book ref (.learn a id)) ref).ids = (books ref).ids.insert a id := by
  simp [after, AddressBook.step]

theorem mem_after_learn : a ∈ (books.after (.book ref (.learn a id)) ref).ids := by
  rw [ids_after_learn]
  simp

theorem entry_of_after (h : (books.after q ref).ids[a]? = some id) :
    (books ref).ids[a]? = some id ∨ q = .book ref (.learn a id) := by
  cases q with
  | book target step =>
    by_cases same : ref = target
    · subst same
      cases step with
      | learn b new =>
        rw [ids_after_learn, Std.TreeMap.getElem?_insert] at h
        by_cases equal : b = a
        · subst equal
          obtain rfl : new = id := by simpa using h
          exact .inr rfl
        · exact .inl (by simpa [equal] using h)
      | clear => simp [after, AddressBook.step] at h
      | _ => exact .inl (by simpa [after, AddressBook.step] using h)
    · exact .inl (by simpa [after, same] using h)
  | _ => exact .inl h

/-- Entries stay, unless the book is cleared or they are entered anew. -/
theorem mem_after (h : a ∈ (books ref).ids) (kept : q ≠ .book ref .clear) : a ∈ (books.after q ref).ids := by
  cases q with
  | book target step =>
    by_cases same : ref = target
    · subst same
      cases step with
      | learn b new =>
        rw [ids_after_learn]
        simp [h]
      | clear => exact absurd rfl kept
      | _ => simpa [after, AddressBook.step] using h
    · simpa [after, same] using h
  | _ => exact h

/-- An entry keeps its id, unless the book is cleared or it is entered with another. -/
theorem entry_after (h : (books ref).ids[a]? = some id) (kept : q ≠ .book ref .clear)
    (same : ∀ new, q = .book ref (.learn a new) → new = id) : (books.after q ref).ids[a]? = some id := by
  cases q with
  | book target step =>
    by_cases here : ref = target
    · subst here
      cases step with
      | learn b new =>
        rw [ids_after_learn, Std.TreeMap.getElem?_insert]
        by_cases equal : b = a
        · subst equal
          simp [same new rfl]
        · simpa [equal] using h
      | clear => exact absurd rfl kept
      | _ => simpa [after, AddressBook.step] using h
    · simpa [after, here] using h
  | _ => exact h

end Books

end ChainIndex
