/-
Labelled machines and what holds along their runs.

A machine is an initial state and a partial function: `next s a` is the state
after action `a`, or `none` where `a` is not enabled in `s`.  Everything a program
does not decide for itself is in the action, so `next` stays executable and a run
can be evaluated.

`Run C tr s` says that the trace `tr` leads from the initial state to `s` and that
every step of it met the condition `C`.  The unrestricted run is the one whose
condition is `Free`; an assumption about the environment is a stronger `C`.
A few rules carry the proofs: `Run.invariant` for a property of states,
`Run.history` for one that relates the state to the trace that led there,
`Run.since` and `Run.origin` to follow a fact from the step that brought it about
to the end of the run and back.

`observe` runs a monitor beside the machine: `f b s a s'` is what an observer who has
noted `b` notes after the step from `s` to `s'`.  What a statement says of a trace
("the bytes delivered since") is such a note, and `Run.noted` relates it to the state.
-/
import Mathlib.Data.List.Induction

namespace AmxxCurl

/-- An initial state and the partial step function of the labelled actions. -/
structure Machine (σ α : Type) where
  init : σ
  next : σ → α → Option σ

namespace Machine

variable {σ α : Type} {M : Machine σ α}

/-- The condition every step meets. -/
def Free : σ → α → Prop := fun _ _ => True

/-- `tr` leads from the initial state to `s`, each step meeting `C` where it starts. -/
inductive Run (M : Machine σ α) (C : σ → α → Prop) : List α → σ → Prop
  | init : Run M C [] M.init
  | snoc {tr : List α} {s s' : σ} {a : α} (h : Run M C tr s) (hc : C s a)
      (hn : M.next s a = some s') : Run M C (tr ++ [a]) s'

namespace Run

variable {C D : σ → α → Prop} {tr : List α} {s : σ}

theorem mono (hCD : ∀ s a, C s a → D s a) (h : M.Run C tr s) : M.Run D tr s := by
  induction h with
  | init => exact .init
  | snoc _ hc hn ih => exact .snoc ih (hCD _ _ hc) hn

theorem free (h : M.Run C tr s) : M.Run Free tr s := h.mono fun _ _ _ => trivial

/-- A state property that starts true and survives every step holds of every state reached. -/
theorem invariant {P : σ → Prop} (h0 : P M.init)
    (hstep : ∀ s a s', P s → C s a → M.next s a = some s' → P s') (h : M.Run C tr s) : P s := by
  induction h with
  | init => exact h0
  | snoc _ hc hn ih => exact hstep _ _ _ ih hc hn

/-- The same for a property that also reads the trace. -/
theorem history {P : List α → σ → Prop} (h0 : P [] M.init)
    (hstep : ∀ tr s a s', M.Run C tr s → P tr s → C s a → M.next s a = some s' → P (tr ++ [a]) s')
    (h : M.Run C tr s) : P tr s := by
  induction h with
  | init => exact h0
  | snoc hr hc hn ih => exact hstep _ _ _ _ hr ih hc hn

/-- What a state property may use: it holds before the step, and so does any invariant. -/
theorem invariant_of {I P : σ → Prop} (hI : ∀ {tr s}, M.Run C tr s → I s) (h0 : P M.init)
    (hstep : ∀ s a s', I s → P s → C s a → M.next s a = some s' → P s') (h : M.Run C tr s) :
    P s := by
  induction h with
  | init => exact h0
  | snoc hr hc hn ih => exact hstep _ _ _ (hI hr) ih hc hn

/-- The last step of a nonempty run. -/
theorem last {a : α} (h : M.Run C (tr ++ [a]) s) :
    ∃ s₀, M.Run C tr s₀ ∧ C s₀ a ∧ M.next s₀ a = some s := by
  generalize he : tr ++ [a] = l at h
  cases h with
  | init => simp at he
  | snoc hr hc hn =>
      obtain ⟨rfl, ha⟩ := List.append_inj' he rfl
      obtain rfl := List.cons.inj ha |>.1
      exact ⟨_, hr, hc, hn⟩

/-- A run passes through a state after each of its prefixes. -/
theorem prefix_run {t₁ : List α} : ∀ {t₂ : List α} {s : σ}, M.Run C (t₁ ++ t₂) s →
    ∃ s₁, M.Run C t₁ s₁ := by
  intro t₂
  induction t₂ using List.reverseRecOn with
  | nil => intro s h; exact ⟨s, by simpa using h⟩
  | append_singleton t₂ a ih =>
      intro s h
      rw [← List.append_assoc] at h
      obtain ⟨s₀, h₀, -, -⟩ := h.last
      exact ih h₀

/-- A step in the middle of a run: the states on either side of it. -/
theorem split {t₁ t₂ : List α} {a : α} (h : M.Run C (t₁ ++ a :: t₂) s) :
    ∃ s₁ s₂, M.Run C t₁ s₁ ∧ C s₁ a ∧ M.next s₁ a = some s₂ ∧ M.Run C (t₁ ++ [a]) s₂ := by
  have hassoc : t₁ ++ a :: t₂ = (t₁ ++ [a]) ++ t₂ := by simp
  rw [hassoc] at h
  obtain ⟨s₂, h₂⟩ := prefix_run h
  obtain ⟨s₁, h₁, hc, hn⟩ := h₂.last
  exact ⟨s₁, s₂, h₁, hc, hn, h₂⟩

/-- The machine is deterministic once the actions are given. -/
theorem unique {s' : σ} (h : M.Run C tr s) (h' : M.Run D tr s') : s = s' := by
  induction h generalizing s' with
  | init =>
      generalize he : ([] : List α) = l at h'
      cases h' with
      | init => rfl
      | snoc => simp at he
  | snoc _ _ hn ih =>
      obtain ⟨s₀, hr, -, hn'⟩ := h'.last
      rw [ih hr, hn'] at hn
      exact (Option.some.inj hn).symm

/-- What holds after a prefix and is kept by every step holds at the end. -/
theorem kept {P : σ → Prop} {t₁ : List α} {s₁ : σ} (h₁ : M.Run D t₁ s₁) (hP : P s₁)
    (hkeep : ∀ s b s', P s → C s b → M.next s b = some s' → P s') :
    ∀ {t₂ : List α} {s : σ}, M.Run C (t₁ ++ t₂) s → P s := by
  intro t₂
  induction t₂ using List.reverseRecOn with
  | nil =>
      intro s h
      rw [List.append_nil] at h
      rw [h.unique h₁]
      exact hP
  | append_singleton t₂ b ih =>
      intro s h
      rw [← List.append_assoc] at h
      obtain ⟨s₀, h₀, hc, hn⟩ := h.last
      exact hkeep s₀ b s (ih h₀) hc hn

/-- What the step `a` brings about and every step keeps holds at the end. -/
theorem since {P : σ → Prop} {t₁ : List α} {a : α}
    (hat : ∀ s₁ s₂, M.Run C t₁ s₁ → C s₁ a → M.next s₁ a = some s₂ → P s₂)
    (hkeep : ∀ s b s', P s → C s b → M.next s b = some s' → P s') {t₂ : List α} {s : σ}
    (h : M.Run C (t₁ ++ a :: t₂) s) : P s := by
  obtain ⟨s₁, s₂, hr₁, hc, hn, hr₂⟩ := h.split
  have hassoc : t₁ ++ a :: t₂ = (t₁ ++ [a]) ++ t₂ := by simp
  rw [hassoc] at h
  exact hr₂.kept (hat s₁ s₂ hr₁ hc hn) hkeep h

/-- What does not hold at the start and does at the end was brought about by some step. -/
theorem origin {Q : σ → Prop} (h : M.Run C tr s) (h0 : ¬Q M.init) (hQ : Q s) :
    ∃ t₁ a t₂ s₁ s₂, tr = t₁ ++ a :: t₂ ∧ M.Run C t₁ s₁ ∧ C s₁ a ∧ M.next s₁ a = some s₂ ∧
      ¬Q s₁ ∧ Q s₂ := by
  induction h with
  | init => exact absurd hQ h0
  | @snoc tr s₁ s₂ a hr hc hn ih =>
      by_cases hQ₁ : Q s₁
      · obtain ⟨t₁, b, t₂, s₀, s₀', rfl, hrest⟩ := ih hQ₁
        exact ⟨t₁, b, t₂ ++ [a], s₀, s₀', by simp, hrest⟩
      · exact ⟨tr, a, [], s₁, s₂, rfl, hr, hc, hn, hQ₁, hQ⟩

/-- Two conditions that agree along a run hold of all its steps or of not all its steps alike. -/
theorem iff_of {P Q : σ → α → Prop} (h : M.Run C tr s)
    (hiff : ∀ {tr s a s'}, M.Run C tr s → C s a → M.next s a = some s' → (P s a ↔ Q s a)) :
    M.Run P tr s ↔ M.Run Q tr s := by
  induction h with
  | init => exact ⟨fun _ => .init, fun _ => .init⟩
  | snoc hr hc hn ih =>
      have hsame : ∀ {D : σ → α → Prop} {s₀ : σ}, M.Run D _ s₀ → s₀ = _ := fun h => h.unique hr
      constructor
      · intro h
        obtain ⟨s₀, hr₀, hp, -⟩ := h.last
        obtain rfl := hsame hr₀
        exact .snoc (ih.mp hr₀) ((hiff hr hc hn).mp hp) hn
      · intro h
        obtain ⟨s₀, hr₀, hq, -⟩ := h.last
        obtain rfl := hsame hr₀
        exact .snoc (ih.mpr hr₀) ((hiff hr hc hn).mpr hq) hn

/--
A property that holds while every step meets `D`, and that is lost by a step that does not,
holds all along a run iff each of its steps meets `D`.
-/
theorem always_iff {P : σ → Prop} (hkeep : ∀ {tr s}, M.Run D tr s → P s)
    (hlost : ∀ {tr s a s'}, M.Run C tr s → C s a → M.next s a = some s' → P s' → D s a)
    (h : M.Run C tr s) :
    (∀ t₁ t₂ s₁, tr = t₁ ++ t₂ → M.Run C t₁ s₁ → P s₁) ↔ M.Run D tr s := by
  constructor
  · intro hP
    induction h with
    | init => exact .init
    | @snoc tr s s' a hr hc hn ih =>
        have hprefix : ∀ t₁ t₂ s₁, tr = t₁ ++ t₂ → M.Run C t₁ s₁ → P s₁ := by
          intro t₁ t₂ s₁ he hr₁
          refine hP t₁ (t₂ ++ [a]) s₁ ?_ hr₁
          rw [he, List.append_assoc]
        exact .snoc (ih hprefix) (hlost hr hc hn (hP _ [] s' (by simp) (hr.snoc hc hn))) hn
  · intro hD t₁ t₂ s₁ he hr₁
    rw [he] at hD
    obtain ⟨s₁', hD₁⟩ := hD.prefix_run
    rw [hr₁.unique hD₁]
    exact hkeep hD₁

end Run

/-! ### Executing a trace is running it -/

instance (s : σ) (a : α) : Decidable (Free s a) := .isTrue trivial

section Exec

variable {C : σ → α → Prop} [∀ s a, Decidable (C s a)]

/-- Execute a trace; `none` where some action is not enabled or does not meet `C`. -/
def exec (M : Machine σ α) (C : σ → α → Prop) [∀ s a, Decidable (C s a)] :
    σ → List α → Option σ
  | s, [] => some s
  | s, a :: tr => if C s a then (M.next s a).bind fun s' => M.exec C s' tr else none

theorem exec_append (t₁ t₂ : List α) :
    ∀ s, M.exec C s (t₁ ++ t₂) = (M.exec C s t₁).bind fun s' => M.exec C s' t₂ := by
  induction t₁ with
  | nil => intro s; rfl
  | cons a t₁ ih =>
      intro s
      simp only [List.cons_append, exec]
      split
      · cases M.next s a with
        | none => rfl
        | some s' => exact ih s'
      · rfl

theorem run_of_exec : ∀ {tr : List α} {s : σ}, M.exec C M.init tr = some s → M.Run C tr s := by
  intro tr
  induction tr using List.reverseRecOn with
  | nil => intro s h; obtain rfl := Option.some.inj h; exact .init
  | append_singleton tr a ih =>
      intro s h
      rw [exec_append] at h
      obtain ⟨s₀, h₀, h₁⟩ := Option.bind_eq_some_iff.mp h
      simp only [exec] at h₁
      split at h₁
      · rename_i hc
        obtain ⟨s₁, hn, hs⟩ := Option.bind_eq_some_iff.mp h₁
        obtain rfl := Option.some.inj hs
        exact .snoc (ih h₀) hc hn
      · simp at h₁

theorem exec_free_cons (s : σ) (a : α) (tr : List α) : M.exec Free s (a :: tr) =
    (M.next s a).bind fun s' => M.exec Free s' tr :=
  if_pos trivial

/-- A run is executed by its trace, whatever condition its steps met. -/
theorem exec_of_run {C : σ → α → Prop} {tr : List α} {s : σ} (h : M.Run C tr s) :
    M.exec Free M.init tr = some s := by
  induction h with
  | init => rfl
  | @snoc tr s s' a _ _ hn ih =>
      rw [exec_append, ih, Option.bind_some, exec_free_cons, hn]
      rfl

end Exec

/-! ### Watching a run -/

section Observe

variable {β : Type}

/-- What the monitor `f` has noted after a trace; it stops where an action is not enabled. -/
def observe (M : Machine σ α) (f : β → σ → α → σ → β) : β → σ → List α → β
  | b, _, [] => b
  | b, s, a :: tr =>
      match M.next s a with
      | none => b
      | some s' => M.observe f (f b s a s') s' tr

variable {C : σ → α → Prop} {f : β → σ → α → σ → β} {b : β}

theorem observe_cons {s s' : σ} {a : α} (hn : M.next s a = some s') (tr : List α) :
    M.observe f b s (a :: tr) = M.observe f (f b s a s') s' tr := by
  show (match M.next s a with
    | none => b
    | some s' => M.observe f (f b s a s') s' tr) = _
  rw [hn]

/-- The last step of a run is the last one the monitor sees. -/
theorem Run.observe_snoc {tr : List α} {s s' : σ} {a : α} (h : M.Run C tr s)
    (hn : M.next s a = some s') : M.observe f b M.init (tr ++ [a]) =
      f (M.observe f b M.init tr) s a s' := by
  -- the monitor may start anywhere the rest of the run can be executed from
  have key : ∀ (t : List α) (s₀ : σ) (b : β), M.exec Free s₀ t = some s →
      M.observe f b s₀ (t ++ [a]) = f (M.observe f b s₀ t) s a s' := by
    intro t
    induction t with
    | nil =>
        intro s₀ b he
        obtain rfl := Option.some.inj he
        exact observe_cons hn []
    | cons c t ih =>
        intro s₀ b he
        rw [exec_free_cons] at he
        obtain ⟨s₁, hc, he⟩ := Option.bind_eq_some_iff.mp he
        rw [List.cons_append, observe_cons hc, observe_cons hc]
        exact ih s₁ _ he
  exact key tr M.init b (exec_of_run h)

/-- A relation between what is noted and the state that every step keeps. -/
theorem Run.noted {tr : List α} {s : σ} {P : β → σ → Prop} (h0 : P b M.init)
    (hstep : ∀ tr s a s', M.Run C tr s → P (M.observe f b M.init tr) s → C s a →
      M.next s a = some s' → P (f (M.observe f b M.init tr) s a s') s')
    (h : M.Run C tr s) : P (M.observe f b M.init tr) s := by
  refine h.history (P := fun tr s => P (M.observe f b M.init tr) s) h0 ?_
  intro tr s a s' hr hP hc hn
  rw [hr.observe_snoc hn]
  exact hstep tr s a s' hr hP hc hn

end Observe

end Machine

end AmxxCurl
