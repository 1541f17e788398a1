/-!
# Data — SortBy

Lists put in ascending order of an integer key, members with one key left in the order they had.

* `sortBy_perm`: nothing is added or lost.
* `sortBy_pairwise`: the keys of the result ascend.
-/

namespace ProxyNode

variable {α : Type}

/-- `x` put before the first member whose key is not below its own. -/
def insertBy (key : α → Int) (x : α) : List α → List α
  | [] => [x]
  | y :: rest => if key x ≤ key y then x :: y :: rest else y :: insertBy key x rest

/-- The list in ascending order of `key`, equal keys in their old order. -/
def sortBy (key : α → Int) : List α → List α
  | [] => []
  | x :: rest => insertBy key x (sortBy key rest)

theorem insertBy_perm (key : α → Int) (x : α) (l : List α) :
    (insertBy key x l).Perm (x :: l) := by
  induction l with
  | nil => exact .refl _
  | cons y rest ih =>
    by_cases h : key x ≤ key y
    · simp [insertBy, h]
    · simp only [insertBy, h, if_false]
      exact (ih.cons y).trans (.swap x y rest)

theorem sortBy_perm (key : α → Int) (l : List α) : (sortBy key l).Perm l := by
  induction l with
  | nil => exact .refl _
  | cons x rest ih => exact (insertBy_perm key x _).trans (ih.cons x)

theorem insertBy_pairwise {key : α → Int} {x : α} {l : List α}
    (h : l.Pairwise fun a b => key a ≤ key b) :
    (insertBy key x l).Pairwise fun a b => key a ≤ key b := by
  induction l with
  | nil => simp [insertBy]
  | cons y rest ih =>
    rw [List.pairwise_cons] at h
    by_cases hx : key x ≤ key y
    · simp only [insertBy, hx, if_true, List.pairwise_cons]
      refine ⟨?_, h⟩
      intro b hb
      rcases List.mem_cons.mp hb with rfl | hb
      · exact hx
      · exact Int.le_trans hx (h.1 b hb)
    · simp only [insertBy, hx, if_false, List.pairwise_cons]
      refine ⟨?_, ih h.2⟩
      intro b hb
      rcases List.mem_cons.mp ((insertBy_perm key x rest).mem_iff.mp hb) with rfl | hb
      · exact Int.le_of_lt (Int.not_le.mp hx)
      · exact h.1 b hb

theorem sortBy_pairwise (key : α → Int) (l : List α) :
    (sortBy key l).Pairwise fun a b => key a ≤ key b := by
  induction l with
  | nil => exact .nil
  | cons x rest ih => exact insertBy_pairwise ih

end ProxyNode
