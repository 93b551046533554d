/-
When nobody can tell two states of a machine apart.

An observer sees `obs s a` of the action `a` in the state `s`, and whether it can happen at
all.  A transcript is what is seen of a list of actions, up to the first that cannot.  Two
states are indistinguishable if all their transcripts are the same: a relation that every
step keeps shows that they are, and as long as they are, what one of them can do the other
can do, and nothing is seen between them.
-/
import AmxxCurl.Lib.Machine

namespace AmxxCurl

namespace Machine

variable {σ α β : Type} {M : Machine σ α} {obs : σ → α → β} {s t s' : σ} {a : α}

/-- What is seen of the actions, one after another. -/
def transcript (M : Machine σ α) (obs : σ → α → β) : σ → List α → List β
  | _, [] => []
  | s, a :: as => obs s a :: ((M.next s a).map fun s' => M.transcript obs s' as).getD []

/-- Nothing that can be done tells the two states apart. -/
def Indistinguishable (M : Machine σ α) (obs : σ → α → β) (s t : σ) : Prop :=
  ∀ as, M.transcript obs s as = M.transcript obs t as

theorem transcript_cons (s : σ) (a : α) (as : List α) : M.transcript obs s (a :: as) =
    obs s a :: ((M.next s a).map fun s' => M.transcript obs s' as).getD [] := rfl

theorem transcript_next (hn : M.next s a = some s') (as : List α) :
    M.transcript obs s (a :: as) = obs s a :: M.transcript obs s' as := by
  rw [transcript_cons, hn]
  rfl

theorem transcript_stuck (hn : M.next s a = none) (as : List α) :
    M.transcript obs s (a :: as) = [obs s a] := by
  rw [transcript_cons, hn]
  rfl

/-- A relation of states that look the same, and still do after every step. -/
structure Bisimulation (M : Machine σ α) (obs : σ → α → β) (R : σ → σ → Prop) : Prop where
  seen : ∀ ⦃s t⦄ a, R s t → obs s a = obs t a
  next : ∀ ⦃s t⦄ a, R s t → Option.Rel R (M.next s a) (M.next t a)

theorem Bisimulation.indistinguishable {R : σ → σ → Prop} (h : Bisimulation M obs R) (hR : R s t) :
    M.Indistinguishable obs s t := by
  intro as
  induction as generalizing s t with
  | nil => rfl
  | cons a as ih =>
      have hnext := h.next a hR
      rw [transcript_cons, transcript_cons, h.seen a hR]
      generalize M.next s a = x at hnext ⊢
      generalize M.next t a = y at hnext ⊢
      cases hnext with
      | none => rfl
      | some hR' => exact congrArg (obs t a :: ·) (ih hR')

namespace Indistinguishable

theorem seen (h : M.Indistinguishable obs s t) (a : α) : obs s a = obs t a :=
  (List.cons.inj (h [a])).1

/-- What one of them can do the other can do, and they are indistinguishable afterwards. -/
theorem next (h : M.Indistinguishable obs s t) (hn : M.next s a = some s') :
    ∃ t', M.next t a = some t' ∧ M.Indistinguishable obs s' t' := by
  cases ht : M.next t a with
  | none =>
      -- the transcript of `t` stops here, that of `s` does not
      have hlong := congrArg List.length (h [a, a])
      rw [transcript_next hn, transcript_stuck ht] at hlong
      simp [transcript] at hlong
  | some t' =>
      refine ⟨t', rfl, fun as => ?_⟩
      have hcons := h (a :: as)
      rw [transcript_next hn, transcript_next ht] at hcons
      exact (List.cons.inj hcons).2

end Indistinguishable

end Machine

end AmxxCurl
