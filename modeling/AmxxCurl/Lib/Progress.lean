/-
What a run can still be continued to.

Safety is about what never happens along a run; here the question is whether something
good remains possible.  `M.Reaches C A P tr` says that the run `tr` can be continued by
actions in `A`, to a state where `P` holds.  `A` is what somebody can bring about without
the help of the rest of the environment.

Stages are put one after the other by `Reaches.trans`.  A single stage is a measure: as
long as `P` does not hold, an action in `A` is enabled that makes it smaller.

`Run.countdown` is the other direction, what every continuation has to contain: a measure
that some actions make smaller by one, and the others leave alone, counts those.
-/
import AmxxCurl.Lib.Machine

namespace AmxxCurl

namespace Machine

variable {σ α : Type} {M : Machine σ α} {C : σ → α → Prop} {A B : α → Prop}

/-- What holds at the end of a run and actions in `A` keep survives a continuation by those. -/
theorem Run.kept_by {P : σ → Prop} {t₁ : List α} {s₁ : σ} (h₁ : M.Run C t₁ s₁) (hP : P s₁)
    (hkeep : ∀ tr s a s', M.Run C tr s → P s → A a → C s a → M.next s a = some s' → P s')
    {t₂ : List α} {s₂ : σ} (h : M.Run C (t₁ ++ t₂) s₂) (hA : ∀ a ∈ t₂, A a) : P s₂ := by
  induction t₂ using List.reverseRecOn generalizing s₂ with
  | nil =>
      rw [List.append_nil] at h
      rw [h.unique h₁]
      exact hP
  | append_singleton t₂ a ih =>
      rw [← List.append_assoc] at h
      obtain ⟨s, hr, hc, hn⟩ := h.last
      have hPs : P s := ih hr fun b hb => hA b (List.mem_append_left _ hb)
      exact hkeep _ _ _ _ hr hPs (hA a (List.mem_append_right _ (List.mem_singleton_self a))) hc hn

/-- What a run has brought about and every further step keeps holds at its end. -/
theorem Run.kept_on {P : σ → Prop} {t₁ : List α} {s₁ : σ} (h₁ : M.Run C t₁ s₁) (hP : P s₁)
    (hkeep : ∀ tr s a s', M.Run C tr s → P s → C s a → M.next s a = some s' → P s')
    {t₂ : List α} {s₂ : σ} (h : M.Run C (t₁ ++ t₂) s₂) : P s₂ :=
  h₁.kept_by (A := fun _ => True) hP (fun tr s a s' hr hP _ => hkeep tr s a s' hr hP) h
    fun _ _ => trivial

/-- The same while the run goes through states in `Q`. -/
theorem Run.kept_while {P Q : σ → Prop} {t₁ : List α} {s₁ : σ} (h₁ : M.Run C t₁ s₁) (hP : P s₁)
    (hkeep : ∀ tr s a s', M.Run C tr s → P s → Q s → Q s' → M.next s a = some s' → P s')
    {t₂ : List α} {s₂ : σ} (h : M.Run C (t₁ ++ t₂) s₂)
    (hQ : ∀ t s, t <+: t₂ → M.Run C (t₁ ++ t) s → Q s) : P s₂ := by
  induction t₂ using List.reverseRecOn generalizing s₂ with
  | nil =>
      rw [List.append_nil] at h
      rw [h.unique h₁]
      exact hP
  | append_singleton t₂ a ih =>
      have hend : Q s₂ := hQ _ s₂ (List.prefix_refl _) h
      rw [← List.append_assoc] at h
      obtain ⟨s, hr, -, hn⟩ := h.last
      have hsub : t₂ <+: t₂ ++ [a] := List.prefix_append ..
      have hPs : P s := ih hr fun t s ht => hQ t s (ht.trans hsub)
      exact hkeep _ _ _ _ hr hPs (hQ t₂ s hsub hr) hend hn

/-- Actions in `A` can continue the run `tr` to a state in `P`. -/
def Reaches (M : Machine σ α) (C : σ → α → Prop) (A : α → Prop) (P : σ → Prop) (tr : List α) :
    Prop :=
  ∃ tr' s, (∀ a ∈ tr', A a) ∧ M.Run C (tr ++ tr') s ∧ P s

namespace Reaches

variable {P Q : σ → Prop} {tr : List α} {s s' : σ} {a : α}

/-- The state is there already. -/
theorem here (h : M.Run C tr s) (hP : P s) : M.Reaches C A P tr := by
  refine ⟨[], s, fun a ha => absurd ha List.not_mem_nil, ?_, hP⟩
  rw [List.append_nil]
  exact h

/-- One stage after the other. -/
theorem trans (h : M.Reaches C A P tr)
    (hQ : ∀ tr' s, M.Run C (tr ++ tr') s → P s → M.Reaches C A Q (tr ++ tr')) :
    M.Reaches C A Q tr := by
  obtain ⟨t₁, s₁, hA₁, hr₁, hP⟩ := h
  obtain ⟨t₂, s₂, hA₂, hr₂, hs₂⟩ := hQ t₁ s₁ hr₁ hP
  refine ⟨t₁ ++ t₂, s₂, fun a ha => ?_, ?_, hs₂⟩
  · exact (List.mem_append.mp ha).elim (hA₁ a) (hA₂ a)
  · rw [← List.append_assoc]
    exact hr₂

theorem mono (h : M.Reaches C A P tr) (hPQ : ∀ s, P s → Q s) : M.Reaches C A Q tr := by
  obtain ⟨tr', s, hA, hr, hP⟩ := h
  exact ⟨tr', s, hA, hr, hPQ s hP⟩

/-- More actions than are needed. -/
theorem weaken (h : M.Reaches C A P tr) (hAB : ∀ a, A a → B a) : M.Reaches C B P tr := by
  obtain ⟨tr', s, hA, hr, hP⟩ := h
  exact ⟨tr', s, fun a ha => hAB a (hA a ha), hr, hP⟩

/-- What the actions in `A` keep holds of the state that is reached too. -/
theorem keeping {I : σ → Prop} (h : M.Reaches C A P tr) (h₀ : M.Run C tr s) (hI : I s)
    (hkeep : ∀ tr s a s', M.Run C tr s → I s → A a → C s a → M.next s a = some s' → I s') :
    M.Reaches C A (fun s => I s ∧ P s) tr := by
  obtain ⟨tr', s', hA, hr, hP⟩ := h
  exact ⟨tr', s', hA, hr, h₀.kept_by hI hkeep hr hA, hP⟩

/-- One action. -/
theorem step (h : M.Run C tr s) (hA : A a) (hc : C s a) (hn : M.next s a = some s')
    (hrest : M.Reaches C A P (tr ++ [a])) : M.Reaches C A P tr := by
  have hone : M.Reaches C A (· = s') tr := by
    refine ⟨[a], s', fun b hb => ?_, .snoc h hc hn, rfl⟩
    rw [List.mem_singleton.mp hb]
    exact hA
  obtain ⟨t₂, s₂, hA₂, hr₂, hs₂⟩ := hrest
  refine ⟨a :: t₂, s₂, fun b hb => ?_, ?_, hs₂⟩
  · rcases List.mem_cons.mp hb with rfl | hb
    · exact hA
    · exact hA₂ b hb
  · rw [List.append_assoc] at hr₂
    exact hr₂

/--
**As long as it is not there, something can be done that brings it closer.**  `J` is what
the stage keeps, and may use the invariants of every run.
-/
theorem of_measure {J : σ → Prop} (μ : σ → Nat)
    (hstep : ∀ {tr s}, M.Run C tr s → J s → ¬P s →
      ∃ a s', A a ∧ C s a ∧ M.next s a = some s' ∧ J s' ∧ μ s' < μ s)
    (h : M.Run C tr s) (hJ : J s) : M.Reaches C A (fun s => J s ∧ P s) tr := by
  induction hμ : μ s using Nat.strongRecOn generalizing tr s with
  | _ n ih =>
      by_cases hP : P s
      · exact here h ⟨hJ, hP⟩
      · obtain ⟨a, s', hA, hc, hn, hJ', hlt⟩ := hstep h hJ hP
        exact step h hA hc hn (ih (μ s') (hμ ▸ hlt) (.snoc h hc hn) hJ' rfl)

end Reaches

/-- Where the actions in `p` take one off a measure and the others nothing, it counts them. -/
theorem Run.countdown {J : σ → Prop} {μ : σ → Nat} {p : α → Bool} {t₁ : List α} {s₁ : σ}
    (h₁ : M.Run C t₁ s₁) (hJ : J s₁)
    (hstep : ∀ tr s a s', M.Run C tr s → J s → C s a → M.next s a = some s' →
      J s' ∧ (if p a then 1 else 0) + μ s' = μ s) {t₂ : List α} {s₂ : σ}
    (h : M.Run C (t₁ ++ t₂) s₂) : J s₂ ∧ t₂.countP p + μ s₂ = μ s₁ := by
  induction t₂ using List.reverseRecOn generalizing s₂ with
  | nil =>
      rw [List.append_nil] at h
      obtain rfl := h₁.unique h
      exact ⟨hJ, Nat.zero_add _⟩
  | append_singleton t₂ a ih =>
      rw [← List.append_assoc] at h
      obtain ⟨s, hr, hc, hn⟩ := h.last
      obtain ⟨hJs, hcount⟩ := ih hr
      obtain ⟨hJ₂, hone⟩ := hstep _ _ _ _ hr hJs hc hn
      refine ⟨hJ₂, ?_⟩
      rw [List.countP_append, List.countP_singleton]
      omega

end Machine

end AmxxCurl
