/-
Logs that only grow.

A history is a list of events, the newest last.  `Appends P l l'` says that `l'` is
`l` with further events, each satisfying `P`: what a caller needs to know of a
function that writes to the log.  `Each P l` says that every event of `l` stands in
the relation `P` to the events before it: what a protocol asks of a log.
-/
import Mathlib.Data.List.Basic

namespace AmxxCurl

/-- `l'` extends `l` by events that satisfy `P`. -/
def Appends {ε : Type} (P : ε → Prop) (l l' : List ε) : Prop :=
  ∃ new, l' = l ++ new ∧ ∀ e ∈ new, P e

namespace Appends

variable {ε : Type} {P Q : ε → Prop} {l l' l'' : List ε}

theorem refl (l : List ε) : Appends P l l := ⟨[], by simp, by simp⟩

theorem one {e : ε} (h : P e) : Appends P l (l ++ [e]) := ⟨[e], rfl, by simpa using h⟩

theorem trans (h : Appends P l l') (h' : Appends P l' l'') : Appends P l l'' := by
  obtain ⟨new, rfl, hn⟩ := h
  obtain ⟨new', rfl, hn'⟩ := h'
  refine ⟨new ++ new', by simp, ?_⟩
  intro e he
  rcases List.mem_append.mp he with he | he
  · exact hn e he
  · exact hn' e he

theorem mono (h : Appends P l l') (hPQ : ∀ e, P e → Q e) : Appends Q l l' := by
  obtain ⟨new, rfl, hn⟩ := h
  exact ⟨new, rfl, fun e he => hPQ e (hn e he)⟩

theorem mem (h : Appends P l l') {e : ε} (he : e ∈ l) : e ∈ l' := by
  obtain ⟨new, rfl, -⟩ := h
  exact List.mem_append_left _ he

/-- An event of the longer log is old or satisfies `P`. -/
theorem mem_or (h : Appends P l l') {e : ε} (he : e ∈ l') : e ∈ l ∨ P e := by
  obtain ⟨new, rfl, hn⟩ := h
  rcases List.mem_append.mp he with he | he
  · exact Or.inl he
  · exact Or.inr (hn e he)

/-- Events that never satisfy `P` are as many as before. -/
theorem countP_eq (h : Appends P l l') {q : ε → Bool} (hq : ∀ e, P e → q e = false) :
    l'.countP q = l.countP q := by
  obtain ⟨new, rfl, hn⟩ := h
  rw [List.countP_append, Nat.add_eq_left, List.countP_eq_zero]
  intro e he
  simp [hq e (hn e he)]

end Appends

/-- Every event of the log stands in the relation `P` to those before it. -/
def Each {ε : Type} (P : List ε → ε → Prop) (l : List ε) : Prop :=
  ∀ ⦃pre e post⦄, l = pre ++ e :: post → P pre e

namespace Each

variable {ε : Type} {P : List ε → ε → Prop} {l : List ε}

theorem nil : Each P [] := by
  intro pre e post h
  simp at h

theorem snoc {e : ε} (h : Each P l) (he : P l e) : Each P (l ++ [e]) := by
  intro pre e' post heq
  rcases List.eq_nil_or_concat post with rfl | ⟨post, e'', rfl⟩
  · obtain ⟨rfl, hlast⟩ := List.append_inj' heq rfl
    obtain rfl := (List.cons.inj hlast).1
    exact he
  · rw [List.concat_eq_append, ← List.cons_append, ← List.append_assoc] at heq
    exact h (List.append_inj' heq rfl).1

/-- Events that `P` asks nothing of. -/
theorem append (h : Each P l) {es : List ε} (hes : ∀ e ∈ es, ∀ pre, P pre e) :
    Each P (l ++ es) := by
  induction es generalizing l with
  | nil =>
      rw [List.append_nil]
      exact h
  | cons e es ih =>
      rw [List.append_cons]
      exact ih (h.snoc (hes e (List.mem_cons_self ..) l)) fun e' he' =>
        hes e' (List.mem_cons_of_mem _ he')

/-- A relation that only concerns the events `q` keeps may be checked on those. -/
theorem of_filter {q : ε → Bool} (h : Each P (l.filter q))
    (hskip : ∀ pre e, q e = false → P pre e) (hpre : ∀ pre e, P (pre.filter q) e → P pre e) :
    Each P l := by
  rintro pre e post rfl
  cases hq : q e with
  | false => exact hskip pre e hq
  | true =>
      rw [List.filter_append, List.filter_cons_of_pos hq] at h
      exact hpre pre e (h rfl)

end Each

end AmxxCurl
