/-!
# Cutting lists into pieces

A list is cut into pieces of one size; only the last piece may be shorter, and there is no empty one. Put
together again in their order they are the list.
-/

namespace ChainIndex

variable {α : Type}

/-- A list in pieces of `size` elements, the last one shorter if need be. A size of zero counts as one. -/
def pieces (size : Nat) : List α → List (List α)
  | [] => []
  | a :: rest => (a :: rest.take (size - 1)) :: pieces size (rest.drop (size - 1))
termination_by as => as.length
decreasing_by
  simp only [List.length_drop, List.length_cons]
  omega

@[simp] theorem pieces_nil (size : Nat) : pieces size ([] : List α) = [] := by
  rw [pieces]

/-- The pieces put together are the list. -/
theorem flatten_pieces (size : Nat) (as : List α) : (pieces size as).flatten = as := by
  fun_induction pieces size as with
  | case1 => rfl
  | case2 a rest ih => simp [ih]

/-- No piece is longer than its size. -/
theorem length_le_of_mem_pieces {size : Nat} (positive : 0 < size) {as piece : List α}
    (h : piece ∈ pieces size as) : piece.length ≤ size := by
  fun_induction pieces size as with
  | case1 => simp at h
  | case2 a rest ih =>
    rcases List.mem_cons.mp h with rfl | later
    · simp only [List.length_cons, List.length_take]
      omega
    · exact ih later

end ChainIndex
