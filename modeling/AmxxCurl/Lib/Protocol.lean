/-
Protocols, and programs that keep to them.

What the author of an interface asks of its users is a machine as well: its actions are the
calls, its state is what the calls have left behind, and a call that is not enabled is one
nobody may make.  A program keeps to the protocol where the calls it logs are a run of that
machine.

`Speaks` is the same for a piece of the program: from states that correspond, the calls it
adds can be followed, and lead to states that correspond.  Pieces are put together with
`Speaks.trans`, and `Run.protocol` makes a run of them.
-/
import AmxxCurl.Lib.Machine

namespace AmxxCurl

namespace Machine

variable {σ α τ ε : Type} {M : Machine σ α} {N : Machine τ ε}

/-- The calls `es`, one after the other, lead from `t` to `t'`. -/
def Follows (N : Machine τ ε) (t : τ) (es : List ε) (t' : τ) : Prop := N.exec Free t es = some t'

namespace Follows

variable {t t' t'' : τ} {e : ε} {es es' : List ε}

theorem nil (t : τ) : N.Follows t [] t := rfl

theorem eq_of_nil (h : N.Follows t [] t') : t' = t := (Option.some.inj h).symm

theorem cons (hn : N.next t e = some t') (h : N.Follows t' es t'') : N.Follows t (e :: es) t'' := by
  unfold Follows
  rw [exec_free_cons, hn]
  exact h

theorem of_cons (h : N.Follows t (e :: es) t'') :
    ∃ t', N.next t e = some t' ∧ N.Follows t' es t'' := by
  unfold Follows at h
  rw [exec_free_cons] at h
  exact Option.bind_eq_some_iff.mp h

theorem one (hn : N.next t e = some t') : N.Follows t [e] t' := .cons hn (.nil t')

theorem append (h : N.Follows t es t') (h' : N.Follows t' es' t'') :
    N.Follows t (es ++ es') t'' := by
  unfold Follows
  rw [exec_append, h]
  exact h'

/-- A run goes on as long as the calls can be followed. -/
theorem run {l : List ε} (hr : N.Run Free l t) (h : N.Follows t es t') :
    N.Run Free (l ++ es) t' := by
  refine run_of_exec ?_
  rw [exec_append, exec_of_run hr]
  exact h

end Follows

/-- From `s` to `s'` calls are made that `N` allows, and that keep the states in `R`. -/
def Speaks (N : Machine τ ε) (calls : σ → List ε) (R : σ → τ → Prop) (s s' : σ) : Prop :=
  ∃ es, calls s' = calls s ++ es ∧ ∀ t, R s t → ∃ t', N.Follows t es t' ∧ R s' t'

namespace Speaks

variable {calls : σ → List ε} {R : σ → τ → Prop} {s s' s'' : σ}

/-- Nothing is called. -/
theorem quiet (hcalls : calls s' = calls s) (hR : ∀ t, R s t → R s' t) :
    N.Speaks calls R s s' :=
  ⟨[], by rw [hcalls, List.append_nil], fun t ht => ⟨t, .nil t, hR t ht⟩⟩

theorem refl (s : σ) : N.Speaks calls R s s := quiet rfl fun _ => id

theorem trans (h : N.Speaks calls R s s') (h' : N.Speaks calls R s' s'') :
    N.Speaks calls R s s'' := by
  obtain ⟨es, hes, hfollow⟩ := h
  obtain ⟨es', hes', hfollow'⟩ := h'
  refine ⟨es ++ es', by rw [hes', hes, List.append_assoc], fun t ht => ?_⟩
  obtain ⟨t', hf, ht'⟩ := hfollow t ht
  obtain ⟨t'', hf', ht''⟩ := hfollow' t' ht'
  exact ⟨t'', hf.append hf', ht''⟩

/-- One call. -/
theorem call {e : ε} (hcalls : calls s' = calls s ++ [e])
    (h : ∀ t, R s t → ∃ t', N.next t e = some t' ∧ R s' t') : N.Speaks calls R s s' := by
  refine ⟨[e], hcalls, fun t ht => ?_⟩
  obtain ⟨t', hn, ht'⟩ := h t ht
  exact ⟨t', .one hn, ht'⟩

end Speaks

/-- Where every step speaks `N`, the calls of a run are a run of `N`. -/
theorem Run.protocol {C : σ → α → Prop} {calls : σ → List ε} {R : σ → τ → Prop}
    (hempty : calls M.init = []) (h0 : R M.init N.init)
    (hstep : ∀ tr s a s', M.Run C tr s → C s a → M.next s a = some s' → N.Speaks calls R s s')
    {tr : List α} {s : σ} (h : M.Run C tr s) : ∃ t, N.Run Free (calls s) t ∧ R s t := by
  induction h with
  | init =>
      rw [hempty]
      exact ⟨N.init, .init, h0⟩
  | @snoc tr s s' a hr hc hn ih =>
      obtain ⟨t, hrun, ht⟩ := ih
      obtain ⟨es, hes, hfollow⟩ := hstep tr s a s' hr hc hn
      obtain ⟨t', hf, ht'⟩ := hfollow t ht
      rw [hes]
      exact ⟨t', hf.run hrun, ht'⟩

end Machine

end AmxxCurl
