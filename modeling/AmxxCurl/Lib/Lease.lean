/-
Things that are known by a number and have to be given back.

A number is acquired by somebody while nobody has it, used by whoever has it, and released
once.  `leases` is the machine of these calls: its state says who has what, and a list of
calls is legal if the machine takes it.  In a legal list each number is released as often
as it is acquired, but for the once that it may still be held (`acquired_eq`).
-/
import AmxxCurl.Lib.Machine

namespace AmxxCurl

/-- A call about the number `i`, on behalf of `k`. -/
inductive Lease (ι κ : Type)
  | acquire (i : ι) (k : κ)
  | use (i : ι) (k : κ)
  | release (i : ι)
  deriving DecidableEq

namespace Lease

section Outstanding

variable {ι κ : Type} {held : ι → Option κ} {i : ι} {k : κ}

/-- One if somebody has it. -/
def outstanding (held : ι → Option κ) (i : ι) : Nat := (held i).toList.length

theorem outstanding_none (h : held i = none) : outstanding held i = 0 := by
  rw [outstanding, h]
  rfl

theorem outstanding_some (h : held i = some k) : outstanding held i = 1 := by
  rw [outstanding, h]
  rfl

theorem outstanding_ne [DecidableEq ι] {j : ι} {v : Option κ} (h : i ≠ j) :
    outstanding (Function.update held j v) i = outstanding held i := by
  rw [outstanding, outstanding, Function.update_of_ne h]

end Outstanding

variable {ι κ : Type} [DecidableEq ι] [DecidableEq κ]

/-- Who has which number; a call that is not legal has no next state. -/
def leases (ι κ : Type) [DecidableEq ι] [DecidableEq κ] : Machine (ι → Option κ) (Lease ι κ) where
  init := fun _ => none
  next := fun held l =>
    match l with
    | acquire i k => if held i = none then some (Function.update held i (some k)) else none
    | use i k => if held i = some k then some held else none
    | release i => if held i = none then none else some (Function.update held i none)

/-- The calls are legal where `held` says who has what, and leave it as `held'`. -/
def Legal (held : ι → Option κ) (ls : List (Lease ι κ)) (held' : ι → Option κ) : Prop :=
  (leases ι κ).exec Machine.Free held ls = some held'

variable {held held' held'' : ι → Option κ} {ls ls' : List (Lease ι κ)} {l : Lease ι κ}
  {i : ι} {k : κ}

namespace Legal

theorem nil : Legal held [] held := rfl

theorem append (h : Legal held ls held') (h' : Legal held' ls' held'') :
    Legal held (ls ++ ls') held'' := by
  unfold Legal at *
  rw [Machine.exec_append, h]
  exact h'

theorem cons_iff : Legal held (l :: ls) held' ↔
    ∃ held₁, (leases ι κ).next held l = some held₁ ∧ Legal held₁ ls held' := by
  unfold Legal
  rw [Machine.exec_free_cons]
  exact Option.bind_eq_some_iff

theorem acquire (hfree : held i = none) :
    Legal held [.acquire i k] (Function.update held i (some k)) :=
  cons_iff.mpr ⟨_, if_pos hfree, nil⟩

theorem use (hheld : held i = some k) : Legal held [.use i k] held :=
  cons_iff.mpr ⟨_, if_pos hheld, nil⟩

theorem release (hheld : held i ≠ none) :
    Legal held [.release i] (Function.update held i none) :=
  cons_iff.mpr ⟨_, if_neg hheld, nil⟩

/-- Different numbers that are held are released in any order. -/
theorem releases : ∀ {is : List ι} (held : ι → Option κ), is.Nodup → (∀ i ∈ is, held i ≠ none) →
    Legal held (is.map .release) fun i => if i ∈ is then none else held i := by
  intro is
  induction is with
  | nil =>
      intro held _ _
      simpa using nil
  | cons i is ih =>
      intro held hnodup hheld
      obtain ⟨hnot, hnodup⟩ := List.nodup_cons.mp hnodup
      have hone := release (hheld i (List.mem_cons_self ..))
      have hrest := ih (Function.update held i none) hnodup fun j hj => by
        have hne : j ≠ i := fun he => hnot (he ▸ hj)
        rw [Function.update_of_ne hne]
        exact hheld j (List.mem_cons_of_mem _ hj)
      have hsame : (fun j => if j ∈ is then none else Function.update held i none j) =
          fun j => if j ∈ i :: is then none else held j := by
        funext j
        rw [Function.update_apply]
        by_cases hj : j = i
        · simp [hj]
        · simp [hj]
      rw [hsame] at hrest
      exact hone.append hrest

/-- Somebody who has at most one number gives it back and gets another, or none. -/
theorem replace {old new : Option ι} (hold : ∀ i, held i = some k ↔ old = some i)
    (hnew : ∀ i ∈ new, held i = none ∨ old = some i) :
    ∃ held', Legal held (old.toList.map Lease.release ++ new.toList.map (Lease.acquire · k)) held' ∧
      ∀ i u, held' i = some u ↔ held i = some u ∧ u ≠ k ∨ u = k ∧ new = some i := by
  have hgiven : ∃ held₁, Legal held (old.toList.map .release) held₁ ∧
      ∀ i u, held₁ i = some u ↔ held i = some u ∧ u ≠ k := by
    cases old with
    | none =>
        refine ⟨held, nil, fun i u => (and_iff_left_of_imp ?_).symm⟩
        rintro hu rfl
        exact nomatch (hold i).mp hu
    | some j =>
        have hj : held j = some k := (hold j).mpr rfl
        refine ⟨_, release (by rw [hj]; exact Option.some_ne_none k), fun i u => ?_⟩
        rw [Function.update_apply]
        by_cases hi : i = j
        · subst hi
          rw [if_pos rfl, hj]
          simp [eq_comm]
        · rw [if_neg hi]
          refine (and_iff_left_of_imp ?_).symm
          rintro hu rfl
          exact hi (Option.some.inj ((hold i).mp hu)).symm
  obtain ⟨held₁, hlegal, hkept⟩ := hgiven
  cases new with
  | none =>
      refine ⟨held₁, hlegal.append nil, fun i u => ?_⟩
      rw [hkept]
      simp
  | some j =>
      have hj : held₁ j = none := by
        refine Option.eq_none_iff_forall_ne_some.mpr fun u hu => ?_
        obtain ⟨hu, hne⟩ := (hkept j u).mp hu
        rcases hnew j rfl with hfree | hmine
        · rw [hfree] at hu
          nomatch hu
        · rw [(hold j).mpr hmine] at hu
          exact hne (Option.some.inj hu).symm
      refine ⟨_, hlegal.append (acquire hj), fun i u => ?_⟩
      rw [Function.update_apply]
      by_cases hi : i = j
      · subst hi
        have hnot : ¬(held i = some u ∧ u ≠ k) := by
          rw [← hkept, hj]
          simp
        rw [if_pos rfl, or_iff_right hnot]
        simp [eq_comm]
      · rw [if_neg hi, hkept]
        simp [Ne.symm hi]

end Legal

/-! ### How often -/

def acquires (i : ι) : Lease ι κ → Bool
  | .acquire j _ => j == i
  | _ => false

def releases (i : ι) : Lease ι κ → Bool
  | .release j => j == i
  | _ => false

/-- One call. -/
theorem next_acquired (hn : (leases ι κ).next held l = some held') (i : ι) :
    outstanding held i + (if l.acquires i then 1 else 0) =
      (if l.releases i then 1 else 0) + outstanding held' i := by
  cases l with
  | acquire j k =>
      simp only [leases] at hn
      split at hn
      · rename_i hfree
        obtain rfl := Option.some.inj hn
        by_cases hj : i = j
        · subst hj
          rw [outstanding_none hfree, outstanding_some (Function.update_self ..)]
          simp [acquires, releases]
        · rw [outstanding_ne hj]
          simp [acquires, releases, Ne.symm hj]
      · simp at hn
  | use j k =>
      simp only [leases] at hn
      split at hn
      · obtain rfl := Option.some.inj hn
        simp [acquires, releases]
      · simp at hn
  | release j =>
      simp only [leases] at hn
      split at hn
      · simp at hn
      · rename_i hheld
        obtain rfl := Option.some.inj hn
        obtain ⟨k, hk⟩ := Option.ne_none_iff_exists'.mp hheld
        by_cases hj : i = j
        · subst hj
          rw [outstanding_some hk, outstanding_none (Function.update_self ..)]
          simp [acquires, releases]
        · rw [outstanding_ne hj]
          simp [acquires, releases, Ne.symm hj]

/-- What is acquired is released once, or still held. -/
theorem Legal.acquired (h : Legal held ls held') (i : ι) :
    outstanding held i + ls.countP (·.acquires i) =
      ls.countP (·.releases i) + outstanding held' i := by
  induction ls generalizing held with
  | nil =>
      obtain rfl := Option.some.inj h
      simp
  | cons l ls ih =>
      obtain ⟨held₁, hn, h₁⟩ := Legal.cons_iff.mp h
      have hone := next_acquired hn i
      have hrest := ih h₁
      rw [List.countP_cons, List.countP_cons]
      omega

/-- From the start: acquired as often as released, and once more while it is held. -/
theorem Legal.acquired_eq (h : Legal (fun _ => none) ls held) (i : ι) :
    ls.countP (·.acquires i) = ls.countP (·.releases i) + outstanding held i := by
  have hall := h.acquired i
  rwa [show outstanding (fun _ => none : ι → Option κ) i = 0 from rfl, Nat.zero_add] at hall

end Lease

end AmxxCurl
