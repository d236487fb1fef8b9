import ChainIndex.Program.Query

/-!
# Address books

A book holds addresses of one space with their ids, as storage gave them. It never makes an id up. Its
mark is the id up to which it is complete: every address of the space with an id up to the mark has an
entry.
-/

namespace ChainIndex

structure AddressBook where
  ids : AddressIds
  mark : AddressId

namespace AddressBook

def empty : AddressBook := ⟨∅, 0⟩

def size (b : AddressBook) : Nat := b.ids.size

/-- Answers one look into the book, or makes one entry. -/
def step (b : AddressBook) : (s : BookStep) → s.Answer × AddressBook
  | .entries => (b.ids, b)
  | .learn address id => ((), { b with ids := b.ids.insert address id })
  | .clear => ((), { b with ids := ∅ })
  | .mark => (b.mark, b)
  | .setMark id => ((), { b with mark := id })
  | .raiseMark id => ((), { b with mark := max b.mark id })

end AddressBook

end ChainIndex
