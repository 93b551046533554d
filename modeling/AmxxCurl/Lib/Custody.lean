/-
Things that are allocated, handed on and freed.

Somebody holds one thing at most, under a number that is not handed out twice.  `Op` lists
what may happen: a holder frees what it holds, or takes a new thing, or gives its own to
somebody who has none; and a thing may be freed where it was allocated.  `Sound` says that
nothing is lost and nothing is freed twice, and every `Op` keeps it.
-/
import Mathlib.Logic.Relation
import Mathlib.Data.List.Nodup

namespace AmxxCurl

/-- Who holds which thing; `next` is the number of the next one. -/
@[ext] structure Custody (κ : Type) where
  next : Nat
  holds : κ → Option Nat
  freed : List Nat

namespace Custody

variable {κ : Type} {c c' : Custody κ} {d : Nat}

section Ops

variable [DecidableEq κ]

/-- `x` frees what it holds. -/
def free (c : Custody κ) (x : κ) : Custody κ :=
  { c with holds := Function.update c.holds x none, freed := c.freed ++ (c.holds x).toList }

/-- `x` frees what it holds, and gets a new thing. -/
def take (c : Custody κ) (x : κ) : Custody κ where
  next := c.next + 1
  holds := Function.update c.holds x (some c.next)
  freed := c.freed ++ (c.holds x).toList

/-- A new thing is freed by whoever has allocated it. -/
def waste (c : Custody κ) : Custody κ :=
  { c with next := c.next + 1, freed := c.freed ++ [c.next] }

/-- `x` hands what it holds to `y`. -/
def hand (c : Custody κ) (x y : κ) : Custody κ :=
  { c with holds := Function.update (Function.update c.holds x none) y (c.holds x) }

theorem free_holds (c : Custody κ) (x y : κ) :
    (c.free x).holds y = if y = x then none else c.holds y := Function.update_apply ..

theorem hand_holds (c : Custody κ) (x y z : κ) : (c.hand x y).holds z =
    if z = y then c.holds x else if z = x then none else c.holds z := by
  show Function.update (Function.update c.holds x none) y (c.holds x) z = _
  rw [Function.update_apply, Function.update_apply]

inductive Op (c : Custody κ) : Custody κ → Prop
  | free (x : κ) : Op c (c.free x)
  | take (x : κ) : Op c (c.take x)
  | waste : Op c c.waste
  | hand (x y : κ) (hne : y ≠ x) (hfree : c.holds y = none) : Op c (c.hand x y)

end Ops

/-- What is not freed is held by exactly one, and what is freed by nobody. -/
structure Sound (c : Custody κ) : Prop where
  heldLt : ∀ {x d}, c.holds x = some d → d < c.next
  heldOnce : ∀ {x y d}, c.holds x = some d → c.holds y = some d → x = y
  heldOnly : ∀ {x d}, c.holds x = some d → d ∉ c.freed
  freedLt : ∀ {d}, d ∈ c.freed → d < c.next
  freedOnce : c.freed.Nodup
  kept : ∀ {d}, d < c.next → d ∉ c.freed → ∃ x, c.holds x = some d

namespace Sound

/-- Nothing is allocated yet. -/
theorem init : Sound (⟨0, fun _ => none, []⟩ : Custody κ) where
  heldLt := by simp
  heldOnce := by simp
  heldOnly := by simp
  freedLt := by simp
  freedOnce := List.nodup_nil
  kept := by simp

/-- When nobody holds anything, everything has been freed, and once. -/
theorem all_freed (h : Sound c) (hnone : ∀ x, c.holds x = none) (hd : d < c.next) :
    c.freed.count d = 1 := by
  refine List.count_eq_one_of_mem h.freedOnce ?_
  by_contra hnot
  obtain ⟨x, hx⟩ := h.kept hd hnot
  rw [hnone x] at hx
  simp at hx

theorem waste (h : Sound c) : Sound c.waste := by
  constructor
  · intro x d hx
    exact Nat.lt_succ_of_lt (h.heldLt hx)
  · exact h.heldOnce
  · intro x d hx hd
    rcases List.mem_append.mp hd with hfreed | hnew
    · exact h.heldOnly hx hfreed
    · rw [List.mem_singleton.mp hnew] at hx
      exact absurd (h.heldLt hx) (Nat.lt_irrefl _)
  · intro d hd
    rcases List.mem_append.mp hd with hfreed | hnew
    · exact Nat.lt_succ_of_lt (h.freedLt hfreed)
    · rw [List.mem_singleton.mp hnew]
      exact Nat.lt_succ_self _
  · refine List.nodup_append'.mpr ⟨h.freedOnce, List.nodup_singleton _, ?_⟩
    intro d hd hnew
    rw [List.mem_singleton.mp hnew] at hd
    exact absurd (h.freedLt hd) (Nat.lt_irrefl _)
  · intro d hlt hd
    have hnot : d ∉ c.freed := fun hfreed => hd (List.mem_append_left _ hfreed)
    refine h.kept ?_ hnot
    have hne : d ≠ c.next := fun he => hd (List.mem_append_right _ (List.mem_singleton.mpr he))
    have hlt : d < c.next + 1 := hlt
    omega

variable [DecidableEq κ]

theorem holds_free (c : Custody κ) (x : κ) {y : κ} :
    (c.free x).holds y = some d ↔ y ≠ x ∧ c.holds y = some d := by
  rw [free_holds]
  by_cases hy : y = x
  · simp [hy]
  · simp [hy]

theorem free (h : Sound c) (x : κ) : Sound (c.free x) := by
  have hmem : ∀ {d}, d ∈ (c.free x).freed ↔ d ∈ c.freed ∨ c.holds x = some d := by
    intro d
    show d ∈ c.freed ++ (c.holds x).toList ↔ _
    rw [List.mem_append, Option.mem_toList]
  constructor
  · intro y d hy
    exact h.heldLt ((holds_free c x).mp hy).2
  · intro y z d hy hz
    exact h.heldOnce ((holds_free c x).mp hy).2 ((holds_free c x).mp hz).2
  · intro y d hy hd
    obtain ⟨hne, hheld⟩ := (holds_free c x).mp hy
    rcases hmem.mp hd with hfreed | hx
    · exact h.heldOnly hheld hfreed
    · exact hne (h.heldOnce hheld hx)
  · intro d hd
    rcases hmem.mp hd with hfreed | hx
    · exact h.freedLt hfreed
    · exact h.heldLt hx
  · refine List.nodup_append'.mpr ⟨h.freedOnce, ?_, ?_⟩
    · cases c.holds x with
      | none => exact List.nodup_nil
      | some d => exact List.nodup_singleton d
    · intro d hd hx
      exact h.heldOnly (Option.mem_toList.mp hx) hd
  · intro d hlt hd
    have hnot : d ∉ c.freed := fun hfreed => hd (hmem.mpr (Or.inl hfreed))
    obtain ⟨y, hy⟩ := h.kept hlt hnot
    refine ⟨y, (holds_free c x).mpr ⟨?_, hy⟩⟩
    intro hyx
    subst hyx
    exact hd (hmem.mpr (Or.inr hy))

/-- A holder with nothing gets a new thing. -/
theorem grant (h : Sound c) {x : κ} (hx : c.holds x = none) : Sound
    { c with next := c.next + 1, holds := Function.update c.holds x (some c.next) } := by
  have hold : ∀ {y d}, Function.update c.holds x (some c.next) y = some d ↔
      y = x ∧ d = c.next ∨ y ≠ x ∧ c.holds y = some d := by
    intro y d
    rw [Function.update_apply]
    by_cases hy : y = x
    · simp [hy, eq_comm]
    · simp [hy]
  constructor
  · intro y d hy
    rcases hold.mp hy with ⟨-, rfl⟩ | ⟨-, hy⟩
    · exact Nat.lt_succ_self _
    · exact Nat.lt_succ_of_lt (h.heldLt hy)
  · intro y z d hy hz
    rcases hold.mp hy with ⟨rfl, rfl⟩ | ⟨hne, hy⟩
    · rcases hold.mp hz with ⟨rfl, -⟩ | ⟨-, hz⟩
      · rfl
      · exact absurd (h.heldLt hz) (Nat.lt_irrefl _)
    · rcases hold.mp hz with ⟨-, rfl⟩ | ⟨-, hz⟩
      · exact absurd (h.heldLt hy) (Nat.lt_irrefl _)
      · exact h.heldOnce hy hz
  · intro y d hy hd
    rcases hold.mp hy with ⟨-, rfl⟩ | ⟨-, hy⟩
    · exact absurd (h.freedLt hd) (Nat.lt_irrefl _)
    · exact h.heldOnly hy hd
  · intro d hd
    exact Nat.lt_succ_of_lt (h.freedLt hd)
  · exact h.freedOnce
  · intro d hlt hd
    by_cases hnew : d = c.next
    · exact ⟨x, hold.mpr (Or.inl ⟨rfl, hnew⟩)⟩
    · have hlt : d < c.next := by
        have hlt : d < c.next + 1 := hlt
        omega
      obtain ⟨y, hy⟩ := h.kept hlt hd
      refine ⟨y, hold.mpr (Or.inr ⟨?_, hy⟩)⟩
      intro hyx
      rw [hyx, hx] at hy
      simp at hy

theorem take (h : Sound c) (x : κ) : Sound (c.take x) := by
  have hgrant := (h.free x).grant (Function.update_self ..)
  have hsame : c.take x = { c.free x with
      next := c.next + 1
      holds := Function.update (c.free x).holds x (some c.next) } := by
    refine Custody.ext rfl ?_ rfl
    exact (Function.update_idem ..).symm
  rw [hsame]
  exact hgrant

theorem hand (h : Sound c) {x y : κ} (hne : y ≠ x) (hy : c.holds y = none) :
    Sound (c.hand x y) := by
  have hold : ∀ {z d}, (c.hand x y).holds z = some d ↔
      z = y ∧ c.holds x = some d ∨ z ≠ x ∧ z ≠ y ∧ c.holds z = some d := by
    intro z d
    rw [hand_holds]
    by_cases hzy : z = y
    · simp [hzy]
    · by_cases hzx : z = x
      · simp [hzx, Ne.symm hne]
      · simp [hzy, hzx]
  -- whoever holds it now, somebody held it before
  have hback : ∀ {z d}, (c.hand x y).holds z = some d → ∃ z', c.holds z' = some d := by
    intro z d hz
    rcases hold.mp hz with ⟨-, hx⟩ | ⟨-, -, hz⟩
    · exact ⟨x, hx⟩
    · exact ⟨z, hz⟩
  constructor
  · intro z d hz
    obtain ⟨z', hz'⟩ := hback hz
    exact h.heldLt hz'
  · intro z z' d hz hz'
    rcases hold.mp hz with ⟨hzy, hx⟩ | ⟨hzx, -, hz⟩
    · rcases hold.mp hz' with ⟨hzy', -⟩ | ⟨hzx', -, hz'⟩
      · rw [hzy, hzy']
      · exact absurd (h.heldOnce hz' hx) hzx'
    · rcases hold.mp hz' with ⟨-, hx⟩ | ⟨-, -, hz'⟩
      · exact absurd (h.heldOnce hz hx) hzx
      · exact h.heldOnce hz hz'
  · intro z d hz hd
    obtain ⟨z', hz'⟩ := hback hz
    exact h.heldOnly hz' hd
  · exact h.freedLt
  · exact h.freedOnce
  · intro d hlt hd
    obtain ⟨z, hz⟩ := h.kept hlt hd
    by_cases hzx : z = x
    · rw [hzx] at hz
      exact ⟨y, hold.mpr (Or.inl ⟨rfl, hz⟩)⟩
    · refine ⟨z, hold.mpr (Or.inr ⟨hzx, ?_, hz⟩)⟩
      intro hzy
      rw [hzy, hy] at hz
      simp at hz

/-- **Whatever happens, nothing is lost and nothing is freed twice.** -/
theorem op (h : Sound c) (hop : Op c c') : Sound c' := by
  cases hop with
  | free x => exact h.free x
  | take x => exact h.take x
  | waste => exact h.waste
  | hand x y hne hy => exact h.hand hne hy

theorem ops (h : Sound c) (hops : Relation.ReflTransGen Op c c') : Sound c' := by
  induction hops with
  | refl => exact h
  | tail _ hop ih => exact ih.op hop

end Sound

end Custody

end AmxxCurl
