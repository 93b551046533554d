/-
How many cells of a heap are of a kind.

`Heap.tally p` counts the cells that have been handed out and satisfy `p`.  The three ways
a heap changes have an equation each, so that a conservation law over a heap is a sum of
tallies and one `omega` for every kind of step.
-/
import AmxxCurl.Lib.Heap
import Mathlib.Data.List.Range

namespace AmxxCurl

namespace Heap

variable {α β : Type} {h h' : Heap α} {p q : α → Bool}

/-- The number of cells below `next` that satisfy `p`. -/
def tally (h : Heap α) (p : α → Bool) : Nat := (List.range h.next).countP fun i => p (h.cell i)

theorem tally_alloc (h : Heap α) (x : α) (p : α → Bool) :
    (h.alloc x).tally p = h.tally p + if p x then 1 else 0 := by
  have hold : (List.range h.next).countP (fun i => p ((h.alloc x).cell i)) = h.tally p :=
    List.countP_congr fun i hi => by rw [alloc_cell_lt _ _ (List.mem_range.mp hi)]
  unfold tally
  rw [alloc_next, List.range_succ, List.countP_append, List.countP_singleton, hold]
  simp only [alloc_cell_next]
  rfl

theorem tally_map (h : Heap α) (f : α → β) (p : β → Bool) :
    (h.map f).tally p = h.tally fun x => p (f x) := rfl

/-- Two predicates on numbers that differ at `i` only. -/
theorem countP_range {g g' : Nat → Bool} {i : Nat} (hg : ∀ j, j ≠ i → g' j = g j) :
    ∀ n, i < n → (List.range n).countP g' + (if g i then 1 else 0) =
      (List.range n).countP g + if g' i then 1 else 0 := by
  intro n
  induction n with
  | zero => exact fun hi => absurd hi (Nat.not_lt_zero i)
  | succ n ih =>
      intro hi
      rw [List.range_succ, List.countP_append, List.countP_append, List.countP_singleton,
        List.countP_singleton]
      by_cases hin : i = n
      · have hsame : (List.range n).countP g' = (List.range n).countP g := by
          refine List.countP_congr fun j hj => ?_
          have hj := List.mem_range.mp hj
          rw [hg j (by omega)]
        rw [hsame, hin]
        omega
      · have hih := ih (by omega)
        rw [hg n (Ne.symm hin)]
        omega

/-- A cell that is rewritten counts by what it holds now instead of what it held. -/
theorem tally_modify {i : Nat} (hi : i < h.next) (f : α → α) (p : α → Bool) :
    (h.modify i f).tally p + (if p (h.cell i) then 1 else 0) =
      h.tally p + if p (f (h.cell i)) then 1 else 0 := by
  have hrest : ∀ j, j ≠ i → p ((h.modify i f).cell j) = p (h.cell j) := by
    intro j hj
    rw [modify_cell_ne _ _ hj]
  have hcount := countP_range hrest h.next hi
  rw [modify_cell_self] at hcount
  exact hcount

/-- Two kinds are as many as two others if that is so of each cell. -/
theorem tally_add {p' q' : α → Bool} (hpq : ∀ x,
    (p x).toNat + (q x).toNat = (p' x).toNat + (q' x).toNat) :
    h.tally p + h.tally q = h.tally p' + h.tally q' := by
  unfold tally
  induction List.range h.next with
  | nil => rfl
  | cons i l ih =>
      have hi := hpq (h.cell i)
      simp only [List.countP_cons]
      have hif : ∀ b : Bool, (if b = true then 1 else 0) = b.toNat := by
        intro b
        cases b <;> rfl
      rw [hif, hif, hif, hif]
      omega

/-- At most one cell is of a kind that only the newest cell can be of. -/
theorem tally_le_one (hp : ∀ i, i < h.next → p (h.cell i) = true → i + 1 = h.next) :
    h.tally p ≤ 1 := by
  unfold tally
  cases hn : h.next with
  | zero => simp
  | succ n =>
      rw [hn] at hp
      have hnone : (List.range n).countP (fun i => p (h.cell i)) = 0 := by
        refine List.countP_eq_zero.mpr fun i hi hpi => ?_
        have hi := List.mem_range.mp hi
        have := hp i (by omega) hpi
        omega
      rw [List.range_succ, List.countP_append, hnone, List.countP_singleton]
      split <;> omega

end Heap

end AmxxCurl
