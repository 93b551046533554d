/-
Natives on handles whose plugin is gone.

A handle outlives its plugin, and any plugin may pass its number to a native.  The
destructor and the completion ask whether somebody lives at `amx_` first; `setopt`,
`perform` and `reset` do not.  As long as no address is used twice, these three are the
only way to name a plugin that is gone, and they do so whenever they are called on its
handle.
-/
import AmxxCurl.Amx.Changes
import AmxxCurl.Amx.Refinement

namespace AmxxCurl

open AmxCurlController
open Transfers (Records)

namespace AmxCurlController

/-- A call with the AMX or a forward of a plugin that is not loaded. -/
def Event.touchesDead : Event → Bool
  | .mf (.amxFindPublic live) _ => !live
  | .mf (.registerSPForwardByName live ..) _ => !live
  | .mf (.unregisterSPForward live _) _ => !live
  | _ => false

/-- The object whose plugin a native is about to name without asking. -/
def named (m : AmxCurlController) : Action → Option ObjId
  | .setCallback h (some _) .. => m.amxCurl.lookup h
  | .easyPerform h _ _ _ => (m.amxCurl.lookup h).filter fun o => !(m.obj o).isTransferInProgress
  | .easyReset h => (m.amxCurl.lookup h).filter fun o =>
      !(m.obj o).isTransferInProgress && !(m.obj o).forwards.isEmpty
  | _ => none

/-- That plugin is still loaded. -/
def Guarded (m : AmxCurlController) (a : Action) : Prop :=
  ∀ o ∈ m.named a, m.isLive (m.obj o).amx (m.obj o).creator = true

instance (m : AmxCurlController) (a : Action) : Decidable (m.Guarded a) :=
  inferInstanceAs (Decidable (∀ o ∈ m.named a, _))

/-- No plugin is loaded where one has been that had a handle. -/
def NoReuse (m : AmxCurlController) : Action → Prop
  | .load b => ∀ o < m.objs.next, (m.obj o).amx ≠ b
  | _ => True

instance (m : AmxCurlController) (a : Action) : Decidable (m.NoReuse a) := by
  unfold NoReuse
  split <;> infer_instance

end AmxCurlController

namespace Plugins

variable {p p' : Plugins} {o : ObjId} {c : CallbackOption}

/-- While no address is used twice, `amx_` is the creator's or nobody's. -/
structure Tenants (p : Plugins) : Prop where
  owner : ∀ ⦃o q⦄, o < p.objs.next → p.amxx.loaded (p.obj o).amx = some q → q = (p.obj o).creator
  mine : ∀ ⦃o c f⦄, (p.obj o).registered c = some f → f.2 = (p.obj o).creator

namespace Tenants

/-- Nobody is loaded, nobody is made, and nothing registered. -/
theorem less (h : Tenants p) (hnext : p'.objs.next = p.objs.next)
    (hl : ∀ ⦃a q⦄, p'.amxx.loaded a = some q → p.amxx.loaded a = some q)
    (hobj : ∀ o, Less (p.obj o) (p'.obj o)) : Tenants p' where
  owner := by
    intro o q ho hq
    rw [(hobj o).amx] at hq
    rw [(hobj o).creator]
    exact h.owner (hnext ▸ ho) (hl hq)
  mine := by
    intro o c f hf
    rw [(hobj o).creator]
    exact h.mine ((hobj o).registered hf)

theorem same (h : Tenants p) (hobjs : p'.objs = p.objs) (hl : p'.amxx.loaded = p.amxx.loaded) :
    Tenants p' :=
  h.less (congrArg Heap.next hobjs) (fun _ _ hq => hl ▸ hq) fun o => by
    rw [show p'.obj o = p.obj o from congrArg (Heap.cell · o) hobjs]
    exact .refl _

theorem drop (h : Tenants p) : Tenants (p.drop o c) :=
  h.less p.drop_next (fun _ _ hq => p.drop_loaded ▸ hq) fun _ => p.drop_less

theorem release (h : Tenants p) : Tenants (p.release o) :=
  h.less rfl (fun _ _ hq => p.release_loaded ▸ hq) fun _ => p.release_less

theorem destroy (h : Tenants p) : Tenants (p.destroy o) :=
  h.less p.destroy_next (fun _ _ hq => p.destroy_loaded ▸ hq) fun _ => p.destroy_less

/-- What is registered for an object is registered for the plugin at its address. -/
theorem register (h : Tenants p) {reply : Option ForwardId} (ho : o < p.objs.next) :
    Tenants (p.register o c reply) := by
  rcases p.register_cases o c reply with ⟨q, f, hq, -, heq⟩ | heq
  · rw [heq]
    let live := p.isLoaded (p.obj o).amx (p.obj o).creator
    let called := { p.mf (.registerSPForwardByName live o c (some f)) with
      amxx := p.amxx.register (p.obj o).amx f }
    have hcalled : Tenants called := h.same rfl rfl
    refine ⟨fun o' q' ho' hq' => ?_, fun o' c' f' hf' => ?_⟩
    · by_cases hne : o' = o
      · subst hne
        rw [setObj_cell] at hq' ⊢
        exact h.owner ho hq'
      · rw [setObj_cell_ne _ _ hne] at hq' ⊢
        exact h.owner ho' hq'
    · by_cases hne : o' = o
      · subst hne
        rw [setObj_cell] at hf' ⊢
        have hf' : Function.update (p.obj o').registered c (some (f, q)) c' = some f' := hf'
        rw [Function.update_apply] at hf'
        split at hf'
        · obtain rfl := Option.some.inj hf'
          exact h.owner ho hq
        · exact h.mine hf'
      · rw [setObj_cell_ne _ _ hne] at hf' ⊢
        exact h.mine hf'
  · rw [heq]
    exact h.same rfl rfl

theorem alloc (h : Tenants p) {a : AmxPtr} {q : PluginId} (hq : p.amxx.loaded a = some q) :
    Tenants (p.alloc a q) := by
  refine ⟨fun o q' ho hq' => ?_, fun o c f hf => ?_⟩
  · by_cases hne : o = p.objs.next
    · subst hne
      have hnew : (p.alloc a q).obj p.objs.next = .new a q := Heap.alloc_cell_next ..
      rw [hnew] at hq' ⊢
      exact Option.some.inj (hq'.symm.trans hq)
    · have hlt : o < p.objs.next + 1 := ho
      have hold : (p.alloc a q).obj o = p.obj o := Heap.alloc_cell_lt _ _ (by omega)
      rw [hold] at hq' ⊢
      exact h.owner (by omega) hq'
  · by_cases hne : o = p.objs.next
    · subst hne
      have hnew : (p.alloc a q).obj p.objs.next = .new a q := Heap.alloc_cell_next ..
      rw [hnew] at hf
      simp [Owner.new] at hf
    · have hold : (p.alloc a q).obj o = p.obj o := by
        show (p.objs.alloc _).cell o = _
        rw [Heap.alloc_cell, if_neg hne]
      rw [hold] at hf ⊢
      exact h.mine hf

/-- A plugin is loaded where nobody with a handle has been. -/
theorem load (h : Tenants p) {b : AmxPtr} (hb : p.amxx.loaded b = none)
    (hfresh : ∀ o < p.objs.next, (p.obj o).amx ≠ b) : Tenants { p with amxx := p.amxx.load b hb } where
  owner := by
    intro o q ho hq
    have hq : (p.amxx.load b hb).loaded (p.obj o).amx = some q := hq
    rw [Amxx.load_loaded, if_neg (hfresh o ho)] at hq
    exact h.owner ho hq
  mine := h.mine

theorem unload (h : Tenants p) (b : AmxPtr) : Tenants { p with amxx := p.amxx.unload b } := by
  refine h.less rfl (fun a q hq => ?_) fun o => .refl _
  have hq : (p.amxx.unload b).loaded a = some q := hq
  rw [Amxx.unload_loaded] at hq
  split at hq
  · simp at hq
  · exact hq

/-- Where the creator lives, a forward of the object may be named. -/
theorem named (h : Tenants p) {f : ForwardId × PluginId} (hf : (p.obj o).registered c = some f)
    (hl : p.amxx.loaded (p.obj o).amx = some (p.obj o).creator) :
    p.isLoaded (p.obj o).amx f.2 = true := by
  unfold isLoaded
  rw [hl, h.mine hf, beq_self_eq_true]

end Tenants

end Plugins

namespace AmxCurlController

open Plugins (Tenants Seated)

variable {m m' : AmxCurlController} {a : Action} {p : Plugins}

theorem Change.tenants (hc : Change m a p) (hr : Records m.transfers) (hfresh : m.NoReuse a)
    (h : m.plugins.Tenants) : p.Tenants := by
  cases hc with
  | same => exact h
  | detach => exact h.same rfl rfl
  | load b ha hb =>
      subst ha
      exact h.load hb hfresh
  | unload b => exact h.unload b
  | alloc b q hb => exact h.alloc hb
  | setup o' o c reply ha hh =>
      exact h.drop.register (by rw [Plugins.drop_next]; exact hr.objLt ⟨_, hh⟩)
  | find => exact h.same rfl rfl
  | reset => exact h.release
  | destroy os => exact List.foldlRecOn os Plugins.destroy h fun p hp o _ => hp.destroy
  | complete => exact h.same rfl rfl
  | execute => exact h.same rfl rfl
  | completed => exact h.same rfl rfl
  | executed => exact h.same rfl rfl

/-- Guarded natives name nobody who is gone, and neither does anything else. -/
theorem Change.spoken (hc : Change m a p) (hr : Records m.transfers) (h : m.plugins.Tenants)
    (hs : m.plugins.Seated) (hg : m.Guarded a) :
    Appends (fun e => e.touchesDead = false) m.plugins.log p.log := by
  cases hc with
  | same => exact .refl _
  | detach => exact .refl _
  | load => exact .refl _
  | unload => exact .refl _
  | alloc => exact .refl _
  | setup n o c reply ha hh hfree =>
      subst ha
      have hl : m.isLive (m.obj o).amx (m.obj o).creator = true := hg o hh
      have hless : Plugins.Less (m.plugins.obj o) ((m.plugins.drop o c).obj o) :=
        m.plugins.drop_less
      refine ((m.plugins.drop_log (o := o) (c := c)).mono ?_).trans ?_
      · rintro e ⟨f, hf, rfl⟩
        show (!_) = false
        rw [h.named hf (beq_iff_eq.mp hl)]
        rfl
      · rw [Plugins.register_log]
        refine .one ?_
        show (!_) = false
        rw [Plugins.isLoaded, Plugins.drop_loaded, hless.amx, hless.creator]
        rw [show (m.plugins.amxx.loaded (m.plugins.obj o).amx == some (m.plugins.obj o).creator) = true
          from hl]
        rfl
  | find n o found fun_ dataLen ha hh hidle =>
      subst ha
      refine .one ?_
      show (!_) = false
      rw [hg o (by simp [named, hh, hidle])]
      rfl
  | reset n o ha hh hidle =>
      subst ha
      refine ⟨_, m.plugins.release_log, fun e he => ?_⟩
      obtain ⟨f, hf, rfl⟩ := List.mem_map.mp he
      have hne : (m.obj o).forwards ≠ [] := List.ne_nil_of_mem hf
      have hl := hg o (by simp [named, hh, hidle, hne])
      obtain ⟨c, hc⟩ := Owner.mem_forwards.mp hf
      show (!_) = false
      rw [h.named hc (beq_iff_eq.mp hl)]
      rfl
  | destroy os hos =>
      have hlt : ∀ o ∈ os, o < m.plugins.objs.next := by
        intro o ho
        obtain ⟨n, hn, -⟩ := hos o ho
        exact hr.objLt ⟨n, hn⟩
      refine (List.foldlRecOn (motive := fun p : Plugins => p.Tenants ∧
        p.objs.next = m.plugins.objs.next ∧
        Appends (fun e => e.touchesDead = false) m.plugins.log p.log) os Plugins.destroy
        ⟨h, rfl, .refl _⟩ fun p hp o ho => ?_).2.2
      obtain ⟨ht, hnext, hlog⟩ := hp
      refine ⟨ht.destroy, by rw [Plugins.destroy_next, hnext], hlog.trans (p.destroy_log.mono ?_)⟩
      rintro e ⟨hv, f, hf, rfl⟩
      obtain ⟨c, hc⟩ := Owner.mem_forwards.mp hf
      unfold Plugins.isValid at hv
      rw [Bool.and_eq_true, Option.isSome_iff_exists] at hv
      obtain ⟨-, q, hq⟩ := hv
      obtain rfl := ht.owner (hnext ▸ hlt o ho) hq
      show (!_) = false
      rw [ht.named hc hq]
      rfl
  | complete => exact ⟨_, Plugins.complete_log _, by simp [Event.touchesDead]⟩
  | execute => exact .one rfl
  | completed b q f data rest hstack =>
      refine .one ?_
      have hmem : Frame.completion b q f data ∈ m.plugins.pawn := by
        rw [hstack]
        exact List.mem_cons_self ..
      have hq := hs.completion hmem
      show (!_) = false
      unfold Plugins.isLoaded
      rw [show m.plugins.amxx.loaded b = some q from hq, beq_self_eq_true]
      rfl
  | executed => exact .refl _

/-- A native that is not guarded names somebody who is gone. -/
theorem unguarded_speaks (hn : m.next a = some m') (h : m.plugins.Tenants) (hg : ¬m.Guarded a) :
    ∃ e ∈ m'.plugins.log, e.touchesDead = true := by
  unfold Guarded at hg
  push Not at hg
  obtain ⟨o, ho, hgone⟩ := hg
  have hgone : m.isLive (m.obj o).amx (m.obj o).creator = false := by simpa using hgone
  cases a with
  | setCallback n c reply codes =>
      cases c with
      | none => simp [named] at ho
      | some c =>
          have ho : m.amxCurl.lookup n = some o := ho
          cases next_fires hn with
          | setCallback _ _ _ _ hp hfree =>
              rcases m.curlSetupAmxCallback_plugins n (some c) reply codes with
                ⟨-, hno⟩ | ⟨o', c', hh, hc, heq⟩
              · rcases hno with hno | hno
                · rw [ho] at hno
                  simp at hno
                · simp at hno
              · obtain rfl := Option.some.inj (ho.symm.trans hh)
                obtain rfl := Option.some.inj hc
                have hless : Plugins.Less (m.plugins.obj o) ((m.plugins.drop o c).obj o) :=
                  m.plugins.drop_less
                rw [heq, Plugins.register_log]
                refine ⟨_, List.mem_append_right _ (List.mem_singleton.mpr rfl), ?_⟩
                show (!_) = true
                rw [Plugins.isLoaded, Plugins.drop_loaded, hless.amx, hless.creator]
                rw [show (m.plugins.amxx.loaded (m.plugins.obj o).amx
                  == some (m.plugins.obj o).creator) = false from hgone]
                rfl
  | easyPerform n found fun_ dataLen =>
      have ho : (m.amxCurl.lookup n).filter (fun o => !(m.obj o).isTransferInProgress) = some o := ho
      obtain ⟨ho, hidle⟩ := Option.filter_eq_some_iff.mp ho
      cases next_fires hn with
      | easyPerform _ _ _ _ hp =>
          rcases m.amxCurlEasyPerform_plugins n found fun_ dataLen with
            ⟨-, hbusy⟩ | ⟨o', hh, -, heq⟩
          · simp [hbusy o ho] at hidle
          · obtain rfl := Option.some.inj (ho.symm.trans hh)
            rw [heq]
            refine ⟨_, List.mem_append_right _ (List.mem_singleton.mpr rfl), ?_⟩
            show (!_) = true
            rw [hgone]
            rfl
  | easyReset n =>
      have ho : (m.amxCurl.lookup n).filter (fun o =>
          !(m.obj o).isTransferInProgress && !(m.obj o).forwards.isEmpty) = some o := ho
      obtain ⟨ho, hcond⟩ := Option.filter_eq_some_iff.mp ho
      rw [Bool.and_eq_true] at hcond
      cases next_fires hn with
      | easyReset _ hp =>
          rcases curlReset_plugins (m := m) (h := n) with ⟨-, hbusy⟩ | ⟨o', hh, -, heq⟩
          · simp [hbusy o ho] at hcond
          · obtain rfl := Option.some.inj (ho.symm.trans hh)
            -- some forward is registered, and it was so for the creator
            have hne : (m.obj o).forwards ≠ [] := by simpa using hcond.2
            obtain ⟨f, hf⟩ := List.exists_mem_of_ne_nil _ hne
            have hmem : f ∈ (m.plugins.obj o).forwards := hf
            obtain ⟨c, hc⟩ := Owner.mem_forwards.mp hmem
            rw [heq, Plugins.release_log]
            refine ⟨_, List.mem_append_right _ (List.mem_map.mpr ⟨f, hf, rfl⟩), ?_⟩
            show (!_) = true
            rw [Plugins.isLoaded, h.mine hc]
            rw [show (m.plugins.amxx.loaded (m.plugins.obj o).amx
              == some (m.plugins.obj o).creator) = false from hgone]
            rfl
  | _ => simp [named] at ho

/-! ### Runs -/

variable {C : AmxCurlController → Action → Prop} {tr : List Action}

theorem run_tenants (hC : ∀ m a, C m a → m.NoReuse a) (h : machine.Run C tr m) :
    m.plugins.Tenants :=
  h.invariant_of (I := fun m => Records m.transfers) (P := fun m => m.plugins.Tenants) run_records
    ⟨by simp [plugins, machine, boot], fun _ _ _ hf => nomatch hf⟩
    fun _ _ _ hr ht hc hn => (next_plugins hn).tenants hr (hC _ _ hc) ht

/-- The calls that touch a plugin which is gone are on the plugin side. -/
theorem touchesDead_plugins :
    (∀ e ∈ m.log, e.touchesDead = false) ↔ ∀ e ∈ m.plugins.log, e.touchesDead = false := by
  constructor
  · intro h e he
    exact h e (List.mem_filter.mp he).1
  · intro h e he
    cases hd : e.touchesDead with
    | false => rfl
    | true =>
        rw [← hd]
        refine h e (List.mem_filter.mpr ⟨he, ?_⟩)
        cases e with
        | mf c d => cases c <;> first | rfl | simp [Event.touchesDead] at hd
        | _ => simp [Event.touchesDead] at hd

/-- **Where no address is used twice, a plugin that is gone is touched by a native that
`setopt`s, performs or resets one of its handles, and by nothing else.** -/
theorem natives_on_live_iff (h : machine.Run NoReuse tr m) :
    (∀ e ∈ m.log, e.touchesDead = false) ↔
      machine.Run (fun m a => m.NoReuse a ∧ m.Guarded a) tr m := by
  rw [touchesDead_plugins]
  induction h with
  | init => exact ⟨fun _ => .init, fun _ e he => by simp [machine, boot, plugins] at he⟩
  | @snoc tr m m' a hr hfresh hn ih =>
      have ht := run_tenants (fun _ _ hc => hc) hr
      have hrec := run_records hr
      have hc := next_plugins hn
      constructor
      · intro hall
        by_cases hg : m.Guarded a
        · refine .snoc (ih.mp fun e he => hall e ?_) ⟨hfresh, hg⟩ hn
          exact (hc.spoken hrec ht (run_seated hr) hg).mem he
        · obtain ⟨e, he, hdead⟩ := unguarded_speaks hn ht hg
          rw [hall e he] at hdead
          simp at hdead
      · intro hrun e he
        obtain ⟨m₀, hr₀, ⟨-, hg⟩, hn₀⟩ := hrun.last
        obtain rfl := hr.unique hr₀
        rcases (hc.spoken hrec ht (run_seated hr) hg).mem_or he with he | hlive
        · exact ih.mpr hr₀ e he
        · exact hlive

/-- A plugin makes a handle with two callbacks and is unloaded; another is loaded elsewhere. -/
def orphan : List Action :=
  [.load 7, .easyInit 7 (some 100), .setCallback 1 (some .writeFunction) (some 0) (0, 0),
    .setCallback 1 (some .readFunction) (some 1) (0, 0), .unload 7, .load 8]

/-- The other plugin cleans the handle up. -/
def inherited : AmxCurlController :=
  (machine.exec (fun m a => m.NoReuse a ∧ m.Guarded a) boot (orphan ++ [.easyCleanup 1])).get
    (by decide)

theorem natives_on_live_iff_inherited : inherited.log.any Event.touchesDead = false := by
  have h : machine.Run (fun m a => m.NoReuse a ∧ m.Guarded a)
      (orphan ++ [Action.easyCleanup 1]) inherited :=
    Machine.run_of_exec (Option.some_get _).symm
  have hlive := (natives_on_live_iff (h.mono fun _ _ hc => hc.1)).mpr h
  exact List.any_eq_false.mpr fun e he => by simp [hlive e he]

/-- It sets one of the callbacks, resets the handle and performs it. -/
def misused : AmxCurlController :=
  (machine.exec NoReuse boot (orphan ++ [.setCallback 1 (some .writeFunction) none (0, 0),
    .easyReset 1, .easyPerform 1 true 0 0])).get (by decide)

/-- Each of the three names the plugin that is gone. -/
theorem natives_touch_dead : (∃ tr, machine.Run NoReuse tr misused) ∧
    .mf (.unregisterSPForward false 0) false ∈ misused.log ∧
    .mf (.registerSPForwardByName false 0 .writeFunction none) false ∈ misused.log ∧
    .mf (.amxFindPublic false) false ∈ misused.log :=
  ⟨⟨_, Machine.run_of_exec (Option.some_get _).symm⟩, by decide, by decide, by decide⟩

end AmxCurlController

end AmxxCurl
