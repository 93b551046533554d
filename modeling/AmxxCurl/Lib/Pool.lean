/-
A pool of numbers: those in use, and a queue of numbers given back.

`Turn` is one change to a pool.  A number is issued from the head of the queue, or
made up while the queue is empty; numbers in use are given back to its end; the whole
pool may be cleared.  As long as what is made up is not in use, no number is ever
both in use and queued, none is queued twice, and a number given back was in use and
is not any more.
-/
import Mathlib.Data.Finset.Basic
import Mathlib.Data.Int.Interval

namespace AmxxCurl

/-- The numbers in use, and those to be issued next, in order. -/
structure Pool (κ : Type) where
  used : Finset κ
  free : List κ

namespace Pool

variable {κ : Type} {p p' : Pool κ} {valid : κ → Prop}

/-- `k` may be issued, and `rest` is then left of the queue. -/
def Draws (p : Pool κ) (valid : κ → Prop) (k : κ) (rest : List κ) : Prop :=
  p.free = k :: rest ∨ p.free = [] ∧ rest = [] ∧ k ∉ p.used ∧ valid k

/-- No number is queued twice, or queued and in use. -/
structure Sound (valid : κ → Prop) (p : Pool κ) : Prop where
  nodup : p.free.Nodup
  apart : ∀ k ∈ p.free, k ∉ p.used
  queued : ∀ k ∈ p.free, valid k
  used : ∀ k ∈ p.used, valid k

namespace Sound

theorem empty : Sound valid (⟨∅, []⟩ : Pool κ) := ⟨by simp, by simp, by simp, by simp⟩

/-- A number that is drawn is valid, not in use, and not queued any more. -/
theorem draws (h : Sound valid p) {k : κ} {rest : List κ} (hd : p.Draws valid k rest) :
    valid k ∧ k ∉ p.used ∧ k ∉ rest ∧ rest.Nodup ∧ ∀ j ∈ rest, j ∈ p.free := by
  rcases hd with hfree | ⟨-, rfl, hnew, hvalid⟩
  · have hk : k ∈ p.free := by
      rw [hfree]
      exact List.mem_cons_self ..
    have hnodup := h.nodup
    rw [hfree, List.nodup_cons] at hnodup
    refine ⟨h.queued k hk, h.apart k hk, hnodup.1, hnodup.2, fun j hj => ?_⟩
    rw [hfree]
    exact List.mem_cons_of_mem _ hj
  · exact ⟨hvalid, hnew, by simp, List.nodup_nil, by simp⟩

end Sound

variable [DecidableEq κ]

/-- One change to a pool. -/
inductive Turn (valid : κ → Prop) (p : Pool κ) : Pool κ → Prop
  | issue (k : κ) (rest : List κ) (hd : p.Draws valid k rest) : Turn valid p ⟨insert k p.used, rest⟩
  /-- A number is drawn, and nobody gets it. -/
  | lose (k : κ) (rest : List κ) (hd : p.Draws valid k rest) : Turn valid p ⟨p.used, rest⟩
  | giveBack (ks : List κ) (hn : ks.Nodup) (hu : ∀ k ∈ ks, k ∈ p.used) :
      Turn valid p ⟨p.used \ ks.toFinset, p.free ++ ks⟩
  /-- A number goes out of use for good. -/
  | drop (k : κ) : Turn valid p ⟨p.used.erase k, p.free⟩
  | forget : Turn valid p ⟨p.used, []⟩

theorem Sound.turn (h : Sound valid p) (ht : Turn valid p p') : Sound valid p' := by
  cases ht with
  | issue k rest hd =>
      obtain ⟨hvalid, hnew, hk, hnodup, hsub⟩ := h.draws hd
      refine ⟨hnodup, fun j hj => ?_, fun j hj => h.queued j (hsub j hj), fun j hj => ?_⟩
      · rw [Finset.mem_insert]
        rintro (rfl | hused)
        · exact hk hj
        · exact h.apart j (hsub j hj) hused
      · rcases Finset.mem_insert.mp hj with rfl | hj
        · exact hvalid
        · exact h.used j hj
  | lose k rest hd =>
      obtain ⟨-, -, -, hnodup, hsub⟩ := h.draws hd
      exact ⟨hnodup, fun j hj => h.apart j (hsub j hj), fun j hj => h.queued j (hsub j hj), h.used⟩
  | giveBack ks hn hu =>
      refine ⟨?_, fun k hk => ?_, fun k hk => ?_, fun k hk => h.used k (Finset.mem_sdiff.mp hk).1⟩
      · refine List.nodup_append.mpr ⟨h.nodup, hn, fun k hk j hj => ?_⟩
        rintro rfl
        exact h.apart k hk (hu k hj)
      · rw [Finset.mem_sdiff, List.mem_toFinset]
        rintro ⟨hused, hks⟩
        rcases List.mem_append.mp hk with hk | hk
        · exact h.apart k hk hused
        · exact hks hk
      · rcases List.mem_append.mp hk with hk | hk
        · exact h.queued k hk
        · exact h.used k (hu k hk)
  | drop k =>
      exact ⟨h.nodup, fun j hj hused => h.apart j hj (Finset.mem_of_mem_erase hused), h.queued,
        fun j hj => h.used j (Finset.mem_of_mem_erase hj)⟩
  | forget => exact ⟨List.nodup_nil, by simp, by simp, h.used⟩

/-- Giving nothing back. -/
theorem Turn.refl : Turn valid p p := by
  have h : Turn valid p ⟨p.used \ List.toFinset [], p.free ++ []⟩ :=
    .giveBack [] List.nodup_nil (by simp)
  simpa using h

/-! ### How far the numbers go

Where a number that is made up is the first one past the size of the pool that is not in
use, the numbers stay together: they reach no further than the pool has ever been large,
but for those that were lost.
-/

/-- The numbers are among the first `n`, and at most `lost` of these are nowhere. -/
structure Spans (lost n : Nat) (p : Pool Int) : Prop where
  within : ∀ k, k ∈ p.used ∨ k ∈ p.free → 1 ≤ k ∧ k ≤ n
  few : n ≤ p.used.card + p.free.length + lost

namespace Spans

variable {lost n : Nat} {p : Pool Int} {k : Int} {rest : List Int}

theorem empty : Spans 0 0 (⟨∅, []⟩ : Pool Int) := ⟨by simp, by simp⟩

theorem mono {lost' : Nat} (h : p.Spans lost n) (hle : lost ≤ lost') : p.Spans lost' n :=
  ⟨h.within, Nat.le_trans h.few (Nat.add_le_add_left hle _)⟩

/-- The first number of the queue is issued. -/
theorem issue (h : p.Spans lost n) (hfree : p.free = k :: rest) (hk : k ∉ p.used) :
    (⟨insert k p.used, rest⟩ : Pool Int).Spans lost n := by
  have hfew := h.few
  rw [hfree, List.length_cons] at hfew
  refine ⟨fun j hj => h.within j ?_, ?_⟩
  · rw [hfree, List.mem_cons]
    rcases hj with hj | hj
    · rcases Finset.mem_insert.mp hj with hj | hj
      · exact Or.inr (Or.inl hj)
      · exact Or.inl hj
    · exact Or.inr (Or.inr hj)
  · show n ≤ (insert k p.used).card + rest.length + lost
    rw [Finset.card_insert_of_notMem hk]
    omega

/-- No more of them are in use than there are. -/
theorem card_le (h : p.Spans lost n) : p.used.card ≤ n := by
  have hsub : p.used ⊆ Finset.Icc 1 (n : Int) := fun j hj =>
    Finset.mem_Icc.mpr (h.within j (Or.inl hj))
  have hcard := Finset.card_le_card hsub
  rw [Int.card_Icc] at hcard
  omega

/-- The queue is empty, and the first unused number past the size is issued. -/
theorem makeUp (h : p.Spans lost n) (hfree : p.free = []) (hk : k ∉ p.used)
    (hsize : (p.used.card : Int) + 1 ≤ k)
    (hfirst : ∀ j, (p.used.card : Int) + 1 ≤ j → j < k → j ∈ p.used) :
    ∃ n', (⟨insert k p.used, []⟩ : Pool Int).Spans lost n' ∧
      (n' = n ∨ n' ≤ (insert k p.used).card + lost) := by
  have hfew := h.few
  rw [hfree, List.length_nil] at hfew
  have hcard := Finset.card_insert_of_notMem hk
  by_cases hkn : k ≤ n
  · refine ⟨n, ⟨fun j hj => ?_, ?_⟩, Or.inl rfl⟩
    · rcases Finset.mem_insert.mp (hj.resolve_right (by simp)) with rfl | hj
      · omega
      · exact h.within j (Or.inl hj)
    · show n ≤ (insert k p.used).card + 0 + lost
      omega
  · -- what is below `k` is in use, so `k` is next to the greatest number there is
    have hnext : k ≤ n + 1 := by
      have hle := h.card_le
      by_contra hgap
      have hmem := hfirst (k - 1) (by omega) (by omega)
      have := h.within _ (Or.inl hmem)
      omega
    refine ⟨n + 1, ⟨fun j hj => ?_, ?_⟩, Or.inr (by omega)⟩
    · rcases Finset.mem_insert.mp (hj.resolve_right (by simp)) with rfl | hj
      · omega
      · have := h.within j (Or.inl hj)
        omega
    · show n + 1 ≤ (insert k p.used).card + 0 + lost
      omega

/-- A number is drawn and lost. -/
theorem lose (h : p.Spans lost n) (hfree : p.free = k :: rest ∨ p.free = [] ∧ rest = []) :
    (⟨p.used, rest⟩ : Pool Int).Spans (lost + 1) n := by
  have hfew := h.few
  rcases hfree with hfree | ⟨hfree, rfl⟩
  · rw [hfree, List.length_cons] at hfew
    refine ⟨fun j hj => h.within j ?_, ?_⟩
    · rw [hfree]
      exact hj.imp_right (List.mem_cons_of_mem k)
    · show n ≤ p.used.card + rest.length + (lost + 1)
      omega
  · rw [hfree, List.length_nil] at hfew
    refine ⟨fun j hj => h.within j (Or.inl (hj.resolve_right (by simp))), ?_⟩
    show n ≤ p.used.card + 0 + (lost + 1)
    omega

theorem giveBack {ks : List Int} (h : p.Spans lost n) (hn : ks.Nodup) (hu : ∀ k ∈ ks, k ∈ p.used) :
    (⟨p.used \ ks.toFinset, p.free ++ ks⟩ : Pool Int).Spans lost n := by
  refine ⟨fun j hj => h.within j ?_, ?_⟩
  · rcases hj with hj | hj
    · exact Or.inl (Finset.mem_sdiff.mp hj).1
    · rcases List.mem_append.mp hj with hj | hj
      · exact Or.inr hj
      · exact Or.inl (hu j hj)
  · have hsub : ks.toFinset ⊆ p.used := fun k hk => hu k (List.mem_toFinset.mp hk)
    have hcard := Finset.card_sdiff_add_card_eq_card hsub
    rw [List.toFinset_card_of_nodup hn] at hcard
    have hfew := h.few
    show n ≤ (p.used \ ks.toFinset).card + (p.free ++ ks).length + lost
    rw [List.length_append]
    omega

/-- Where nothing was lost, the numbers are the first so many. -/
theorem full {valid : Int → Prop} (h : p.Spans 0 n) (hs : p.Sound valid) (k : Int) :
    (k ∈ p.used ∨ k ∈ p.free) ↔ 1 ≤ k ∧ k ≤ (p.used.card : Int) + p.free.length := by
  have hdisjoint : Disjoint p.used p.free.toFinset := by
    rw [Finset.disjoint_right]
    intro j hj
    exact hs.apart j (List.mem_toFinset.mp hj)
  have hcard : (p.used ∪ p.free.toFinset).card = p.used.card + p.free.length := by
    rw [Finset.card_union_of_disjoint hdisjoint, List.toFinset_card_of_nodup hs.nodup]
  have hsub : p.used ∪ p.free.toFinset ⊆ Finset.Icc 1 (n : Int) := by
    intro j hj
    rw [Finset.mem_union, List.mem_toFinset] at hj
    exact Finset.mem_Icc.mpr (h.within j hj)
  have hicc : (Finset.Icc 1 (n : Int)).card = n := by
    rw [Int.card_Icc]
    omega
  have hfew := h.few
  have heq := Finset.eq_of_subset_of_card_le hsub (by omega)
  have hn : n = p.used.card + p.free.length := by
    rw [heq] at hcard
    omega
  have hmem : (k ∈ p.used ∨ k ∈ p.free) ↔ k ∈ Finset.Icc 1 (n : Int) := by
    rw [← heq, Finset.mem_union, List.mem_toFinset]
  rw [hmem, Finset.mem_Icc, hn, Nat.cast_add]

end Spans

end Pool

end AmxxCurl
