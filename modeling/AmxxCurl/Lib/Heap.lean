/-
A heap of cells under numbers that are never handed out twice.

`alloc` writes the next number and nothing frees one, so a number names one object
for the whole run: what a pointer comparison means as long as somebody holds the
pointer.  The cells beyond `next` are junk nobody has named yet.
-/
import Mathlib.Logic.Function.Basic

namespace AmxxCurl

/-- Cells numbered below `next`. -/
structure Heap (α : Type) where
  next : Nat
  cell : Nat → α

namespace Heap

variable {α β : Type}

/-- No cell allocated; `junk` fills the cells that nobody has named. -/
def empty (junk : α) : Heap α := ⟨0, fun _ => junk⟩

/-- Allocate a cell holding `x`; its number is the old `next`. -/
def alloc (h : Heap α) (x : α) : Heap α := ⟨h.next + 1, Function.update h.cell h.next x⟩

/-- Rewrite one cell. -/
def modify (h : Heap α) (i : Nat) (f : α → α) : Heap α :=
  { h with cell := Function.update h.cell i (f (h.cell i)) }

/-- Rewrite every cell. -/
def map (h : Heap α) (f : α → β) : Heap β := ⟨h.next, fun i => f (h.cell i)⟩

@[simp] theorem empty_next (junk : α) : (empty junk).next = 0 := rfl

@[simp] theorem alloc_next (h : Heap α) (x : α) : (h.alloc x).next = h.next + 1 := rfl

@[simp] theorem modify_next (h : Heap α) (i : Nat) (f : α → α) : (h.modify i f).next = h.next := rfl

@[simp] theorem map_next (h : Heap α) (f : α → β) : (h.map f).next = h.next := rfl

@[simp] theorem map_cell (h : Heap α) (f : α → β) (i : Nat) : (h.map f).cell i = f (h.cell i) := rfl

theorem alloc_cell (h : Heap α) (x : α) (i : Nat) :
    (h.alloc x).cell i = if i = h.next then x else h.cell i :=
  Function.update_apply ..

@[simp] theorem alloc_cell_next (h : Heap α) (x : α) : (h.alloc x).cell h.next = x := by
  rw [alloc_cell, if_pos rfl]

@[simp] theorem alloc_cell_lt (h : Heap α) (x : α) {i : Nat} (hi : i < h.next) :
    (h.alloc x).cell i = h.cell i := by
  rw [alloc_cell, if_neg (Nat.ne_of_lt hi)]

theorem modify_cell (h : Heap α) (i j : Nat) (f : α → α) :
    (h.modify i f).cell j = if j = i then f (h.cell i) else h.cell j :=
  Function.update_apply ..

@[simp] theorem modify_cell_self (h : Heap α) (i : Nat) (f : α → α) :
    (h.modify i f).cell i = f (h.cell i) := by
  rw [modify_cell, if_pos rfl]

@[simp] theorem modify_cell_ne (h : Heap α) {i j : Nat} (f : α → α) (hij : j ≠ i) :
    (h.modify i f).cell j = h.cell j := by
  rw [modify_cell, if_neg hij]

theorem modify_modify (h : Heap α) (i : Nat) (f g : α → α) :
    (h.modify i f).modify i g = h.modify i fun x => g (f x) := by
  simp [modify]

theorem map_alloc (h : Heap α) (f : α → β) (x : α) : (h.alloc x).map f = (h.map f).alloc (f x) :=
  congrArg (Heap.mk _) (Function.comp_update f h.cell h.next x)

/-- Rewriting a cell commutes with `map` where it does so for the value there. -/
theorem map_modify (h : Heap α) {f : α → β} {i : Nat} {g : α → α} {k : β → β}
    (hk : f (g (h.cell i)) = k (f (h.cell i))) : (h.modify i g).map f = (h.map f).modify i k := by
  refine congrArg (Heap.mk _) ((Function.comp_update f h.cell i _).trans ?_)
  rw [hk]
  rfl

/-- Only the value at the cell matters. -/
theorem modify_congr (h : Heap α) {i : Nat} {f g : α → α} (hfg : f (h.cell i) = g (h.cell i)) :
    h.modify i f = h.modify i g := by
  unfold modify
  rw [hfg]

/-- Rewriting a cell to what it holds changes nothing. -/
theorem modify_eq_self (h : Heap α) {i : Nat} {f : α → α} (hf : f (h.cell i) = h.cell i) :
    h.modify i f = h := by
  unfold modify
  rw [hf, Function.update_eq_self]

@[simp] theorem modify_id (h : Heap α) (i : Nat) : h.modify i id = h := h.modify_eq_self rfl

end Heap

end AmxxCurl
