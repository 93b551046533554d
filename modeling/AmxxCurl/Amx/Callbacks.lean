/-
Whom the asynchronous callbacks reach.

A completion and a data callback find their plugin by an address and a forward id, and
both may mean somebody else by then: the address when another plugin has been loaded
there, the id when it was unregistered behind the back of the object that holds it and
handed out again.  The ids stay what they are as long as nobody unregisters a forward
of another plugin, which `Sound` says; the address is right where it is nobody's or the
creator's.
-/
import AmxxCurl.Amx.Changes
import AmxxCurl.Amx.Refinement

namespace AmxxCurl

open AmxCurlController
open Transfers (Records)

/-- The forward a completion registered for itself. -/
def AmxCurlController.Frame.forward : Frame → Option ForwardId
  | .completion _ _ f _ => some f
  | _ => none

namespace Plugins

variable {p p' : Plugins} {o o' : ObjId} {c c' : CallbackOption} {f g : ForwardId × PluginId}

/-- An option has a forward of a plugin that is still there. -/
def Holds (p : Plugins) (o : ObjId) (c : CallbackOption) (f : ForwardId × PluginId) : Prop :=
  (p.obj o).registered c = some f ∧ p.amxx.loaded (p.obj o).amx = some f.2

/-- The id an option has is not somebody else's forward by now. -/
def Unrecycled (p : Plugins) (o : ObjId) (c : CallbackOption) : Prop :=
  ∀ f ∈ (p.obj o).registered c, ∀ q ∈ p.amxx.forwards f.1, q = f.2

/-- The forward ids mean what those who hold them think. -/
structure Sound (p : Plugins) : Prop where
  made : ∀ ⦃o⦄, o < p.objs.next → (p.obj o).creator < p.amxx.nextPlugin
  old : ∀ ⦃o c f⦄, (p.obj o).registered c = some f →
    f.2 < p.amxx.nextPlugin ∧ (p.obj o).creator < p.amxx.nextPlugin
  home : ∀ ⦃o c f b⦄, (p.obj o).registered c = some f → p.amxx.loaded b = some f.2 →
    b = (p.obj o).amx
  mine : ∀ ⦃o c f⦄, (p.obj o).registered c = some f →
    p.amxx.loaded (p.obj o).amx = some (p.obj o).creator → f.2 = (p.obj o).creator
  held : ∀ ⦃o c f⦄, p.Holds o c f → p.amxx.forwards f.1 = some f.2
  distinct : ∀ ⦃o c f o' c' g⦄, p.Holds o c f → p.Holds o' c' g → f.1 = g.1 → o = o' ∧ c = c'
  called : ∀ ⦃b q f data⦄, .completion b q f data ∈ p.pawn → p.amxx.forwards f = some q
  apart : ∀ ⦃b q f data o c g⦄, .completion b q f data ∈ p.pawn → p.Holds o c g → g.1 ≠ f
  nodup : (p.pawn.filterMap Frame.forward).Nodup

namespace Sound

/-- An id that has not been recycled is still the object's, if it is registered at all. -/
theorem holds (h : Sound p) (hu : p.Unrecycled o c) (hf : (p.obj o).registered c = some f)
    {q : PluginId} (hq : p.amxx.forwards f.1 = some q) : q = f.2 ∧ p.Holds o c f := by
  obtain rfl := hu f hf q hq
  obtain ⟨b, hb⟩ := p.amxx.forward_loaded _ _ hq
  obtain rfl := h.home hf hb
  exact ⟨rfl, hf, hb⟩

/--
Nobody makes anything, and no forward goes that somebody is left with.  A plugin that
has been loaded since is none that is known here.
-/
theorem less (h : Sound p) (hplugins : p.amxx.nextPlugin ≤ p'.amxx.nextPlugin)
    (hnext : p'.objs.next = p.objs.next) (hobj : ∀ o, Less (p.obj o) (p'.obj o))
    (hl : ∀ ⦃a q⦄, q < p.amxx.nextPlugin → p'.amxx.loaded a = some q → p.amxx.loaded a = some q)
    (hheld : ∀ ⦃o c f⦄, p.Holds o c f → p'.Holds o c f → p'.amxx.forwards f.1 = p.amxx.forwards f.1)
    (hcalled : ∀ ⦃b q f data⦄, .completion b q f data ∈ p'.pawn →
      .completion b q f data ∈ p.pawn ∧ p'.amxx.forwards f = p.amxx.forwards f)
    (hnodup : (p'.pawn.filterMap Frame.forward).Nodup) : Sound p' := by
  have hholds : ∀ {o c f}, p'.Holds o c f → p.Holds o c f := by
    rintro o c f ⟨hf, hq⟩
    have hf := (hobj o).registered hf
    rw [(hobj o).amx] at hq
    exact ⟨hf, hl (h.old hf).1 hq⟩
  refine ⟨fun o ho => ?_, fun o c f hf => ?_, fun o c f b hf hb => ?_, fun o c f hf hq => ?_,
    fun o c f hf => ?_, fun o c f o' c' g hf hg => h.distinct (hholds hf) (hholds hg),
    fun b q f data hf => ?_, fun b q f data o c g hf hg => h.apart (hcalled hf).1 (hholds hg), hnodup⟩
  · rw [(hobj o).creator]
    exact (h.made (hnext ▸ ho)).trans_le hplugins
  · obtain ⟨hq, hc⟩ := h.old ((hobj o).registered hf)
    rw [(hobj o).creator]
    exact ⟨hq.trans_le hplugins, hc.trans_le hplugins⟩
  · have hf := (hobj o).registered hf
    rw [(hobj o).amx]
    exact h.home hf (hl (h.old hf).1 hb)
  · have hf := (hobj o).registered hf
    rw [(hobj o).amx, (hobj o).creator] at hq
    rw [(hobj o).creator]
    exact h.mine hf (hl (h.old hf).2 hq)
  · rw [hheld (hholds hf) hf]
    exact h.held (hholds hf)
  · rw [(hcalled hf).2]
    exact h.called (hcalled hf).1

theorem same (h : Sound p) (hamxx : p'.amxx = p.amxx) (hobjs : p'.objs = p.objs)
    (hpawn : p'.pawn = p.pawn) : Sound p' := by
  refine h.less (by rw [hamxx]) (by rw [hobjs]) (fun o => ?_) (fun _ _ _ hq => hamxx ▸ hq)
    (fun _ _ _ _ _ => by rw [hamxx]) (fun _ _ _ _ hf => ⟨hpawn ▸ hf, by rw [hamxx]⟩)
    (by rw [hpawn]; exact h.nodup)
  rw [show p'.obj o = p.obj o from congrArg (Heap.cell · o) hobjs]
  exact .refl _

/-! ### Giving forwards up -/

/-- Forwards are unregistered that nobody else has. -/
theorem free (h : Sound p) (hs : CallbackOption → Prop) (hu : ∀ c, hs c → p.Unrecycled o c)
    (hplugins : p'.amxx.nextPlugin = p.amxx.nextPlugin) (hl : p'.amxx.loaded = p.amxx.loaded)
    (hnext : p'.objs.next = p.objs.next) (hobj : ∀ o, Less (p.obj o) (p'.obj o))
    (hgone : ∀ c, hs c → (p'.obj o).registered c = none) (hpawn : p'.pawn = p.pawn)
    (hfree : ∀ i, p'.amxx.forwards i = p.amxx.forwards i ∨
      ∃ c f, hs c ∧ (p.obj o).registered c = some f ∧ f.1 = i) : Sound p' := by
  refine h.less hplugins.ge hnext hobj (fun _ _ _ hq => hl ▸ hq) (fun o' c' g hg hg' => ?_)
    (fun b q i data hi => ⟨hpawn ▸ hi, ?_⟩) (by rw [hpawn]; exact h.nodup)
  · rcases hfree g.1 with heq | ⟨c, f, hc, hf, hfg⟩
    · exact heq
    · -- the one who has it is the one who gives it up
      obtain ⟨-, hheld⟩ := h.holds (hu c hc) hf (hfg ▸ h.held hg)
      obtain ⟨rfl, rfl⟩ := h.distinct hheld hg hfg
      have hnone := hgone c hc
      rw [hg'.1] at hnone
      simp at hnone
  · have hi : .completion b q i data ∈ p.pawn := hpawn ▸ hi
    rcases hfree i with heq | ⟨c, f, hc, hf, hfi⟩
    · exact heq
    · obtain ⟨-, hheld⟩ := h.holds (hu c hc) hf (hfi ▸ h.called hi)
      exact absurd hfi (h.apart hi hheld)

theorem drop (h : Sound p) (hu : p.Unrecycled o c) : Sound (p.drop o c) := by
  refine h.free (fun c' => c' = c) (fun c' hc => hc ▸ hu) p.drop_nextPlugin p.drop_loaded
    p.drop_next (fun _ => p.drop_less) (fun c' hc => hc ▸ p.drop_self) p.drop_pawn fun i => ?_
  exact (p.drop_forwards i).imp_right fun ⟨f, hf, hi⟩ => ⟨c, f, rfl, hf, hi⟩

theorem release (h : Sound p) (hu : ∀ c, p.Unrecycled o c) : Sound (p.release o) := by
  refine h.free (fun _ => True) (fun c _ => hu c) p.release_nextPlugin p.release_loaded rfl
    (fun _ => p.release_less) (fun _ _ => p.release_self) rfl fun i => ?_
  exact (p.release_forwards i).imp_right fun ⟨c, f, hf, hi⟩ => ⟨c, f, trivial, hf, hi⟩

/-- An object is destroyed; where its plugin is gone, its ids are just forgotten. -/
theorem destroy (h : Sound p) (hu : p.isValid o = true → ∀ c, p.Unrecycled o c) :
    Sound (p.destroy o) := by
  unfold Plugins.destroy
  split
  · rename_i hv
    exact h.release (hu hv)
  · exact h.less le_rfl rfl (fun _ => .setObj p .clear) (fun _ _ _ hq => hq) (fun _ _ _ _ _ => rfl)
      (fun _ _ _ _ hf => ⟨hf, rfl⟩) h.nodup

/-- A completion unregisters its own forward. -/
theorem unregister (h : Sound p) {b : AmxPtr} {q : PluginId} {i : ForwardId} {data : Option DataId}
    {rest : List Frame} (hs : p.pawn = .completion b q i data :: rest) :
    Sound ({ p with pawn := rest }.unregister b (i, q)) := by
  have hmem : ∀ {g}, g ∈ rest → g ∈ p.pawn := fun hg => hs ▸ List.mem_cons_of_mem _ hg
  have hnodup : (i :: rest.filterMap Frame.forward).Nodup := by
    have hall := h.nodup
    rw [hs] at hall
    exact hall
  obtain ⟨hnot, hrest⟩ := List.nodup_cons.mp hnodup
  have hkeep : ∀ {j}, j ≠ i → (p.amxx.unregister i).forwards j = p.amxx.forwards j := by
    intro j hj
    rw [Amxx.unregister_forwards, if_neg hj]
  refine h.less le_rfl rfl (fun _ => .refl _) (fun _ _ _ hq => hq) (fun o c f hf _ => hkeep ?_)
    (fun b' q' j data' hj => ⟨hmem hj, hkeep ?_⟩) hrest
  · exact h.apart (by rw [hs]; exact List.mem_cons_self ..) hf
  · rintro rfl
    exact hnot (List.mem_filterMap.mpr ⟨_, hj, rfl⟩)

/-! ### Plugins come and go -/

theorem load (h : Sound p) {b : AmxPtr} (hb : p.amxx.loaded b = none) :
    Sound { p with amxx := p.amxx.load b hb } := by
  refine h.less (Nat.le_succ _) rfl (fun _ => .refl _) (fun a q hlt hq => ?_) (fun _ _ _ _ _ => rfl)
    (fun _ _ _ _ hf => ⟨hf, rfl⟩) h.nodup
  have hq : (p.amxx.load b hb).loaded a = some q := hq
  rw [Amxx.load_loaded] at hq
  split at hq
  · obtain rfl := Option.some.inj hq
    exact absurd hlt (lt_irrefl _)
  · exact hq

/-- A plugin goes whose code is not on the stack; the forwards that go are its own. -/
theorem unload (h : Sound p) {b : AmxPtr} {q : PluginId} (hb : p.amxx.loaded b = some q)
    (hs : ∀ f ∈ p.pawn, f.plugin ≠ some q) : Sound { p with amxx := p.amxx.unload b } := by
  have hl : ∀ {a q'}, (p.amxx.unload b).loaded a = some q' → a ≠ b ∧ p.amxx.loaded a = some q' := by
    intro a q' hq'
    rw [Amxx.unload_loaded] at hq'
    split at hq'
    · simp at hq'
    · rename_i hne
      exact ⟨hne, hq'⟩
  have hkeep : ∀ {i q'}, p.amxx.forwards i = some q' → q' ≠ q →
      (p.amxx.unload b).forwards i = p.amxx.forwards i := by
    intro i q' hi hne
    refine if_neg ?_
    rw [hi, hb]
    exact fun heq => hne (Option.some.inj heq)
  refine h.less le_rfl rfl (fun _ => .refl _) (fun a q' _ hq' => (hl hq').2)
    (fun o c f hf hf' => hkeep (h.held hf) ?_) (fun b' q' i data hi => ⟨hi, hkeep (h.called hi) ?_⟩)
    h.nodup
  · rintro rfl
    exact (hl hf'.2).1 (p.amxx.loaded_inj _ _ _ hf.2 hb)
  · rintro rfl
    exact hs _ hi rfl

/-- A new object has nothing registered. -/
theorem alloc (h : Sound p) {a : AmxPtr} {q : PluginId} (hq : p.amxx.loaded a = some q) :
    Sound (p.alloc a q) := by
  have hnew : (p.alloc a q).obj p.objs.next = .new a q := Heap.alloc_cell_next ..
  have hold : ∀ {o}, o ≠ p.objs.next → (p.alloc a q).obj o = p.obj o := fun hne =>
    (Heap.alloc_cell ..).trans (if_neg hne)
  have hne : ∀ {o c f}, ((p.alloc a q).obj o).registered c = some f → o ≠ p.objs.next := by
    rintro o c f hf rfl
    rw [hnew] at hf
    simp [Owner.new] at hf
  have hreg : ∀ {o c f}, ((p.alloc a q).obj o).registered c = some f →
      (p.obj o).registered c = some f := fun hf => hold (hne hf) ▸ hf
  have hholds : ∀ {o c f}, (p.alloc a q).Holds o c f → p.Holds o c f := by
    rintro o c f ⟨hf, hl⟩
    have hobj := hold (hne hf)
    rw [hobj] at hf hl
    exact ⟨hf, hl⟩
  refine ⟨fun o ho => ?_, fun o c f hf => ?_, fun o c f b hf hb => ?_, fun o c f hf hl => ?_,
    fun o c f hf => h.held (hholds hf), fun o c f o' c' g hf hg => h.distinct (hholds hf) (hholds hg),
    h.called, fun b q i data o c g hi hg => h.apart hi (hholds hg), h.nodup⟩
  · by_cases hlast : o = p.objs.next
    · subst hlast
      rw [hnew]
      exact p.amxx.loaded_lt _ _ hq
    · have hlt : o < p.objs.next + 1 := ho
      rw [hold hlast]
      exact h.made (by omega)
  · rw [hold (hne hf)]
    exact h.old (hreg hf)
  · rw [hold (hne hf)]
    exact h.home (hreg hf) hb
  · rw [hold (hne hf)] at hl ⊢
    exact h.mine (hreg hf) hl

/-! ### Registering -/

/-- A forward is registered under an id that is free, and nobody is told of it yet. -/
theorem fresh (h : Sound p) {i : ForwardId} (hi : p.amxx.forwards i = none) (a : AmxPtr) :
    Sound { p with amxx := p.amxx.register a i } := by
  have hkeep : ∀ {j q}, p.amxx.forwards j = some q →
      (p.amxx.register a i).forwards j = p.amxx.forwards j := by
    intro j q hj
    rw [Amxx.register_forwards, if_neg]
    rintro rfl
    rw [hi] at hj
    simp at hj
  exact h.less le_rfl rfl (fun _ => .refl _) (fun _ _ _ hq => hq) (fun _ _ _ hf _ => hkeep (h.held hf))
    (fun _ _ _ _ hf => ⟨hf, hkeep (h.called hf)⟩) h.nodup

/-- An option remembers a forward that nobody else knows of. -/
theorem keep (h : Sound p) {i : ForwardId} {q : PluginId} (ho : o < p.objs.next)
    (hq : p.amxx.loaded (p.obj o).amx = some q) (hi : p.amxx.forwards i = some q)
    (hheld : ∀ o' c' g, p.Holds o' c' g → g.1 ≠ i)
    (hcalled : ∀ b q data, .completion b q i data ∉ p.pawn) :
    Sound (p.setObj o (.keep c (i, q))) := by
  let p' := p.setObj o (.keep c (i, q))
  have hamx : ∀ o', (p'.obj o').amx = (p.obj o').amx ∧ (p'.obj o').creator = (p.obj o').creator := by
    intro o'
    by_cases hne : o' = o
    · subst hne
      rw [show p'.obj o' = _ from setObj_cell ..]
      exact ⟨rfl, rfl⟩
    · rw [show p'.obj o' = _ from setObj_cell_ne _ _ hne]
      exact ⟨rfl, rfl⟩
  have hreg : ∀ {o' c' f}, (p'.obj o').registered c' = some f →
      (o' = o ∧ c' = c ∧ f = (i, q)) ∨ (p.obj o').registered c' = some f := by
    intro o' c' f hf
    by_cases hne : o' = o
    · subst hne
      rw [show p'.obj o' = _ from setObj_cell ..] at hf
      have hf : Function.update (p.obj o').registered c (some (i, q)) c' = some f := hf
      rw [Function.update_apply] at hf
      split at hf
      · rename_i hc
        exact Or.inl ⟨rfl, hc, (Option.some.inj hf).symm⟩
      · exact Or.inr hf
    · rw [show p'.obj o' = _ from setObj_cell_ne _ _ hne] at hf
      exact Or.inr hf
  have hholds : ∀ {o' c' f}, p'.Holds o' c' f →
      (o' = o ∧ c' = c ∧ f = (i, q)) ∨ p.Holds o' c' f := by
    rintro o' c' f ⟨hf, hl⟩
    rw [(hamx o').1] at hl
    exact (hreg hf).imp_right fun hf => ⟨hf, hl⟩
  refine ⟨fun o' ho' => ?_, fun o' c' f hf => ?_, fun o' c' f b hf hb => ?_, fun o' c' f hf hl => ?_,
    fun o' c' f hf => ?_, fun o₁ c₁ f o₂ c₂ g hf hg hfg => ?_, h.called,
    fun b q' j data o' c' g hj hg => ?_, h.nodup⟩
  · rw [(hamx o').2]
    exact h.made ho'
  · rw [(hamx o').2]
    rcases hreg hf with ⟨rfl, -, rfl⟩ | hf
    · exact ⟨p.amxx.loaded_lt _ _ hq, h.made ho⟩
    · exact h.old hf
  · rw [(hamx o').1]
    rcases hreg hf with ⟨rfl, -, rfl⟩ | hf
    · exact p.amxx.loaded_inj _ _ _ hb hq
    · exact h.home hf hb
  · rw [(hamx o').1, (hamx o').2] at hl
    rw [(hamx o').2]
    rcases hreg hf with ⟨rfl, -, rfl⟩ | hf
    · exact Option.some.inj (hq.symm.trans hl)
    · exact h.mine hf hl
  · rcases hholds hf with ⟨-, -, rfl⟩ | hf
    · exact hi
    · exact h.held hf
  · rcases hholds hf with ⟨rfl, rfl, rfl⟩ | hf' <;> rcases hholds hg with ⟨rfl, rfl, rfl⟩ | hg'
    · exact ⟨rfl, rfl⟩
    · exact absurd hfg.symm (hheld _ _ _ hg')
    · exact absurd hfg (hheld _ _ _ hf')
    · exact h.distinct hf' hg' hfg
  · rcases hholds hg with ⟨-, -, rfl⟩ | hg
    · rintro rfl
      exact hcalled b q' data hj
    · exact h.apart hj hg

theorem register (h : Sound p) {reply : Option ForwardId} (ho : o < p.objs.next)
    (hfree : ∀ i ∈ reply, p.amxx.forwards i = none) : Sound (p.register o c reply) := by
  rcases p.register_cases o c reply with ⟨q, i, hq, rfl, heq⟩ | heq
  · rw [heq]
    have hi := hfree i rfl
    have hcalled : Sound (p.mf (.registerSPForwardByName
        (p.isLoaded (p.obj o).amx (p.obj o).creator) o c (some i))) := h.same rfl rfl rfl
    refine (hcalled.fresh hi (p.obj o).amx).keep ho hq ?_ (fun o' c' g hg => ?_)
      fun b q' data hin => ?_
    · show (p.amxx.register (p.obj o).amx i).forwards i = some q
      rw [Amxx.register_forwards, if_pos rfl, hq]
    · rintro rfl
      have hheld : p.amxx.forwards g.1 = some g.2 := h.held hg
      rw [hi] at hheld
      simp at hheld
    · have hheld : p.amxx.forwards i = some q' := h.called hin
      rw [hi] at hheld
      simp at hheld
  · rw [heq]
    exact h.same rfl rfl rfl

/-! ### Calling -/

/-- A completion has a forward of its own. -/
theorem complete (h : Sound p) {q : PluginId} {i : ForwardId} {data : Option DataId}
    (hq : p.amxx.loaded (p.obj o).amx = some q) (hi : p.amxx.forwards i = none) :
    Sound (p.complete o q i data) := by
  have hfresh := h.fresh hi (p.obj o).amx
  have hown : (p.amxx.register (p.obj o).amx i).forwards i = some q := by
    rw [Amxx.register_forwards, if_pos rfl, hq]
  refine ⟨h.made, h.old, h.home, h.mine, hfresh.held, h.distinct, fun b q' j data' hj => ?_,
    fun b q' j data' o' c g hj hg => ?_, ?_⟩
  · rcases List.mem_cons.mp hj with heq | hj
    · cases heq
      exact hown
    · exact hfresh.called hj
  · rcases List.mem_cons.mp hj with heq | hj
    · cases heq
      intro hgi
      have hheld : p.amxx.forwards g.1 = some g.2 := h.held hg
      rw [hgi, hi] at hheld
      simp at hheld
    · exact h.apart hj hg
  · show (i :: p.pawn.filterMap Frame.forward).Nodup
    refine List.nodup_cons.mpr ⟨fun hin => ?_, h.nodup⟩
    obtain ⟨fr, hfr, hfi⟩ := List.mem_filterMap.mp hin
    cases fr with
    | completion b q' j data' =>
        obtain rfl := Option.some.inj hfi
        have hheld := h.called hfr
        rw [hi] at hheld
        simp at hheld
    | _ => simp [Frame.forward] at hfi

theorem execute (h : Sound p) {i : ForwardId} {expected : Int} : Sound (p.execute o c i expected) := by
  refine h.less le_rfl rfl (fun _ => .refl _) (fun _ _ _ hq => hq) (fun _ _ _ _ _ => rfl)
    (fun b q j data hj => ⟨?_, rfl⟩) ?_
  · rcases List.mem_append.mp hj with hj | hj
    · obtain ⟨q', -, heq⟩ := List.mem_map.mp hj
      simp at heq
    · exact hj
  · show (List.filterMap Frame.forward (_ ++ p.pawn)).Nodup
    rw [List.filterMap_append]
    cases p.amxx.forwards i with
    | none => exact h.nodup
    | some q => exact h.nodup

/-- A data callback returns. -/
theorem resume (h : Sound p) {q : PluginId} {expected : Int} {rest : List Frame}
    (hs : p.pawn = .dataCallback o c q expected :: rest) : Sound { p with pawn := rest } := by
  refine h.less le_rfl rfl (fun _ => .refl _) (fun _ _ _ hq => hq) (fun _ _ _ _ _ => rfl)
    (fun b q' i data hi => ⟨hs ▸ List.mem_cons_of_mem _ hi, rfl⟩) ?_
  have hall := h.nodup
  rw [hs] at hall
  exact hall

end Sound

end Plugins

namespace AmxCurlController

open Plugins (Sound Seated Less)

variable {m m' : AmxCurlController} {a : Action} {p : Plugins}

/-- A forward is registered and executed for nobody or for the creator of the handle. -/
def Event.reachesCreator : Event → Bool
  | .mf (.registerSPForward creator target _) _ => target.all (· == creator)
  | .mf (.executeForward creator target ..) _ => target.all (· == creator)
  | _ => true

/-- The object whose completion or data callback gets as far as asking for its plugin. -/
def reached (m : AmxCurlController) : Action → Option ObjId
  | .removeReturn _ =>
      match m.stack with
      | .removing o _ _ :: _ => if m.isDetached then none else some o
      | _ => none
  | .callback o k =>
      if m.isDetached || (m.obj o).interrupt || ((m.obj o).registeredCallbacks k.option).isNone
      then none else some o
  | _ => none

/-- The step unregisters what option `c` of the handle has. -/
def frees (m : AmxCurlController) (h : AmxCurlHandle) (o : ObjId) (c : CallbackOption) :
    Action → Bool
  | .setCallback h' c' .. => h' == h && c' == some c
  | .easyReset h' => h' == h && !(m.obj o).isTransferInProgress
  | .easyCleanup h' => h' == h && !(m.obj o).isTransferInProgress && m.plugins.isValid o
  | .sweep order =>
      order.contains h && (m.obj o).cleanupDeferred && !(m.obj o).isTransferInProgress &&
        m.plugins.isValid o
  | _ => false

/--
Nobody is mistaken for somebody else: an asynchronous callback finds nobody at `amx_`
or the creator, and an id that is unregistered is not another plugin's by now.
-/
def Unmistaken (m : AmxCurlController) (a : Action) : Prop :=
  (∀ o ∈ m.reached a, ∀ q ∈ m.amxx.loaded (m.obj o).amx, q = (m.obj o).creator) ∧
  ∀ h ∈ m.amxCurl.keys, ∀ o ∈ m.amxCurl.lookup h, ∀ c ∈ CallbackOption.all,
    m.frees h o c a = true → m.plugins.Unrecycled o c

instance (p : Plugins) (o : ObjId) (c : CallbackOption) : Decidable (p.Unrecycled o c) :=
  inferInstanceAs (Decidable (∀ f ∈ _, ∀ q ∈ _, _))

instance (m : AmxCurlController) (a : Action) : Decidable (m.Unmistaken a) :=
  inferInstanceAs (Decidable (_ ∧ _))

theorem Unmistaken.unrecycled (hu : m.Unmistaken a) {h : AmxCurlHandle} {o : ObjId}
    {c : CallbackOption} (hh : m.amxCurl.lookup h = some o) (hf : m.frees h o c a = true) :
    m.plugins.Unrecycled o c := by
  have hkey : h ∈ m.amxCurl.keys := by
    rw [Finmap.mem_keys, ← Finmap.lookup_isSome, hh]
    rfl
  exact hu.2 h hkey o hh c (by cases c <;> decide) hf

/-- What is destroyed has no id that is somebody else's. -/
theorem Destroys.unrecycled (hr : Records m.transfers) (hu : m.Unmistaken a) {h : AmxCurlHandle}
    {o : ObjId} (hh : m.amxCurl.lookup h = some o) (hd : m.Destroys h o a)
    (hv : m.plugins.isValid o = true) (c : CallbackOption) : m.plugins.Unrecycled o c := by
  refine hu.unrecycled hh ?_
  cases a with
  | easyCleanup h' =>
      obtain ⟨rfl, hidle⟩ := hd
      simp [frees, hidle, hv]
  | sweep order =>
      obtain ⟨hmem, hdef, hidle⟩ := hd
      simp [frees, hmem, hdef, hidle, hv]
  | teardown order =>
      -- the flag is set, and nobody is asked
      obtain ⟨actor, todo, hph⟩ := hd
      have hflags := hr.flags
      unfold Transfers.Flags at hflags
      rw [show m.transfers.phase = m.phase from rfl, hph] at hflags
      have hdet : m.plugins.isDetached = true := hflags.1
      simp [Plugins.isValid, hdet] at hv
  | _ => exact hd.elim

theorem Change.sound (hc : Change m a p) (hr : Records m.transfers) (hu : m.Unmistaken a)
    (h : m.plugins.Sound) : p.Sound := by
  cases hc with
  | same => exact h
  | detach => exact h.same rfl rfl rfl
  | load b ha hb => exact h.load hb
  | unload b q hb hs => exact h.unload hb fun f hf => hs f (List.mem_filter.mp hf).1
  | alloc b q hb => exact h.alloc hb
  | setup n o c reply ha hh hfree =>
      subst ha
      have hdrop := h.drop (hu.unrecycled (c := c) hh (by simp [frees]))
      refine hdrop.register (by rw [Plugins.drop_next]; exact hr.objLt ⟨n, hh⟩) fun i hi => ?_
      -- the id is free, or it is the one that was given up
      rcases m.plugins.drop_forwards (o := o) (c := c) i with heq | ⟨f, hf, rfl⟩
      · rcases hfree i hi with hnone | hown
        · rw [heq]
          exact hnone
        · obtain ⟨f, hf, rfl⟩ := Option.map_eq_some_iff.mp hown
          exact m.plugins.drop_freed hf
      · exact m.plugins.drop_freed hf
  | find => exact h.same rfl rfl rfl
  | reset n o ha hh hidle =>
      subst ha
      exact h.release fun c => hu.unrecycled hh (by simp [frees, hidle])
  | destroy os hos =>
      refine (List.foldlRecOn (motive := fun p : Plugins => p.Sound ∧
        p.isDetached = m.plugins.isDetached ∧ p.amxx.loaded = m.plugins.amxx.loaded ∧
        (∀ o, Less (m.plugins.obj o) (p.obj o)) ∧
        ∀ i q, p.amxx.forwards i = some q → m.plugins.amxx.forwards i = some q) os Plugins.destroy
        ⟨h, rfl, rfl, fun _ => .refl _, fun _ _ hi => hi⟩ fun p hp o ho => ?_).1
      obtain ⟨hs, hdet, hl, hless, hfw⟩ := hp
      obtain ⟨n, hn, hd⟩ := hos o ho
      refine ⟨hs.destroy fun hv c f hf q hq => ?_, p.destroy_isDetached.trans hdet,
        p.destroy_loaded.trans hl, fun o' => (hless o').trans p.destroy_less,
        fun i q hi => hfw i q (p.destroy_forwards hi)⟩
      have hv : m.plugins.isValid o = true := by
        unfold Plugins.isValid at hv ⊢
        rwa [hdet, hl, (hless o).amx] at hv
      exact hd.unrecycled hr hu hn hv c f ((hless o).registered hf) q (hfw _ _ hq)
  | complete o pid res rest q f data ha hs hd hq hf => exact h.complete hq hf
  | execute => exact h.execute
  | completed b q f data rest hs => exact h.unregister hs
  | executed o c q expected rest hs => exact h.resume hs

/-- No step reaches another plugin than the creator. -/
theorem Change.reaches (hc : Change m a p) (hu : m.Unmistaken a) (h : m.plugins.Sound) :
    Appends (fun e => e.reachesCreator = true) m.plugins.log p.log := by
  have hcreator : ∀ o, (m.plugins.obj o).creator = (m.obj o).creator := fun _ => rfl
  cases hc with
  | same => exact .refl _
  | detach => exact .refl _
  | load => exact .refl _
  | unload => exact .refl _
  | alloc => exact .refl _
  | setup n o c =>
      refine ((m.plugins.drop_log (o := o) (c := c)).mono ?_).trans ?_
      · rintro e ⟨f, -, rfl⟩
        rfl
      · rw [Plugins.register_log]
        exact .one rfl
  | find => exact .one rfl
  | reset n o =>
      refine ⟨_, m.plugins.release_log, fun e he => ?_⟩
      obtain ⟨f, -, rfl⟩ := List.mem_map.mp he
      rfl
  | destroy os =>
      refine List.foldlRecOn (motive := fun p : Plugins =>
        Appends (fun e : Event => e.reachesCreator = true) m.plugins.log p.log) os Plugins.destroy
        (.refl _) ?_
      intro p hp o _
      refine hp.trans (p.destroy_log.mono ?_)
      rintro e ⟨-, f, -, rfl⟩
      rfl
  | complete o pid res rest q f data ha hs hd hq hf =>
      subst ha
      obtain rfl := hu.1 o (by simp [reached, hs, hd]) q hq
      exact ⟨_, m.plugins.complete_log, by simp [Event.reachesCreator, hcreator]⟩
  | execute o k f expected ha he hd hint hf hq =>
      subst ha
      obtain ⟨q, hq⟩ := Option.isSome_iff_exists.mp hq
      obtain rfl := hu.1 o (by simp [reached, hd, hint, hf]) q hq
      -- what is registered for an object whose creator is there is the creator's
      have hmine : f.2 = (m.obj o).creator := h.mine (o := o) hf hq
      have hheld : m.plugins.amxx.forwards f.1 = some f.2 :=
        h.held (o := o) ⟨hf, by rw [hmine]; exact hq⟩
      refine .one ?_
      rw [hheld, hmine]
      simp [Event.reachesCreator, hcreator]
  | completed => exact .one rfl
  | executed => exact .refl _

/-! ### Runs -/

variable {C : AmxCurlController → Action → Prop} {tr : List Action}

theorem run_sound (h : machine.Run Unmistaken tr m) : m.plugins.Sound := by
  refine h.invariant_of (I := fun m => Records m.transfers) (P := fun m => m.plugins.Sound)
    run_records ?_ fun _ _ _ hr hs hc hn => (next_plugins hn).sound hr hc hs
  have hnone : ∀ {o c f}, ¬(machine.init.plugins.obj o).registered c = some f :=
    fun hf => nomatch hf
  exact ⟨by simp [plugins, machine, boot], fun _ _ _ hf => absurd hf hnone,
    fun _ _ _ _ hf => absurd hf hnone, fun _ _ _ hf => absurd hf hnone,
    fun _ _ _ hf => absurd hf.1 hnone, fun _ _ _ _ _ _ hf => absurd hf.1 hnone,
    by simp [plugins, machine, boot], by simp [plugins, machine, boot],
    by simp [plugins, machine, boot]⟩

/-- **As long as nobody is mistaken for somebody else, asynchronous callbacks reach the
creator of the handle or nobody**, and what runs is the code of a plugin that is loaded. -/
theorem callbacks_reach_creator (h : machine.Run Unmistaken tr m) :
    (∀ e ∈ m.log, e.reachesCreator = true) ∧
      ∀ f ∈ m.stack, ∀ q ∈ f.plugin, ∃ b, m.amxx.loaded b = some q := by
  constructor
  · have hnaming : ∀ e ∈ m.plugins.log, e.reachesCreator = true := by
      induction h with
      | init => simp [machine, boot, plugins]
      | snoc hr hc hn ih =>
          intro e he
          exact ((next_plugins hn).reaches hc (run_sound hr)).mem_or he |>.elim (ih e) id
    intro e he
    cases e with
    | mf c d =>
        cases c with
        | registerSPForward => exact hnaming _ (List.mem_filter.mpr ⟨he, rfl⟩)
        | executeForward => exact hnaming _ (List.mem_filter.mpr ⟨he, rfl⟩)
        | _ => rfl
    | _ => rfl
  · intro f hf q hq
    refine (run_seated h).running f (List.mem_filter.mpr ⟨hf, ?_⟩) q hq
    rw [hq]
    rfl

/-- A handle is used while its plugin is there, and once more when it is gone. -/
def outlived : AmxCurlController :=
  (machine.exec Unmistaken boot [.load 7, .easyInit 7 (some 100),
    .setCallback 1 (some .writeFunction) (some 0) (0, 0), .easyPerform 1 true 3 0,
    .addReturn true, .poll, .callback 0 (.write [1]), .pawnReturn 1, .postDone 100 0,
    .socketActionReturn, .readMessage, .removeReturn 5, .pawnReturn 0, .checkMultiInfoReturn,
    .easyPerform 1 true 3 0, .addReturn true, .unload 7, .load 8, .poll,
    .callback 0 (.write [1]), .postDone 100 0, .socketActionReturn, .readMessage,
    .removeReturn 5, .checkMultiInfoReturn]).get (by decide)

theorem callbacks_reach_creator_outlived : outlived.log.all Event.reachesCreator = true := by
  have hrun : machine.Run Unmistaken _ outlived := Machine.run_of_exec (Option.some_get _).symm
  exact List.all_eq_true.mpr (callbacks_reach_creator hrun).1

/-- The plugin of a handle in flight is unloaded, and another takes its address and its forward id. -/
def impersonated : AmxCurlController :=
  (machine.exec Machine.Free boot [.load 7, .easyInit 7 (some 100),
    .setCallback 1 (some .writeFunction) (some 0) (0, 0), .easyPerform 1 true 3 0,
    .addReturn true, .unload 7, .load 7, .easyInit 7 (some 101),
    .setCallback 2 (some .readFunction) (some 0) (0, 0), .poll, .callback 0 (.write [1]),
    .pawnReturn 1, .postDone 100 0, .socketActionReturn, .readMessage,
    .removeReturn 5]).get (by decide)

/-- An idle handle is reset after its plugin is gone and its id has gone to a second plugin; the
id then goes to a third. -/
def crossed : AmxCurlController :=
  (machine.exec Machine.Free boot [.load 7, .easyInit 7 (some 100),
    .setCallback 1 (some .writeFunction) (some 0) (0, 0), .unload 7, .load 8,
    .easyInit 8 (some 101), .setCallback 2 (some .writeFunction) (some 0) (0, 0), .easyReset 1,
    .load 9, .easyInit 9 (some 102), .setCallback 3 (some .readFunction) (some 0) (0, 0),
    .easyPerform 2 true 3 0, .addReturn true, .poll, .callback 1 (.write [1])]).get (by decide)

/-- A data callback and a completion run the code of the plugin that took the address over; and
a data callback runs that of the plugin its id went to. -/
theorem callbacks_reach_others :
    (∃ tr, machine.Run Machine.Free tr impersonated) ∧
    .mf (.executeForward 0 (some 1) 0 (.option 0 .writeFunction)) false ∈ impersonated.log ∧
    .mf (.executeForward 0 (some 1) 5 .completion) false ∈ impersonated.log ∧
    .mf (.registerSPForward 0 (some 1) 5) false ∈ impersonated.log ∧
    (∃ tr, machine.Run Machine.Free tr crossed) ∧
    .mf (.executeForward 1 (some 2) 0 (.option 1 .writeFunction)) false ∈ crossed.log :=
  ⟨⟨_, Machine.run_of_exec (Option.some_get _).symm⟩, by decide, by decide, by decide,
    ⟨_, Machine.run_of_exec (Option.some_get _).symm⟩, by decide⟩

end AmxCurlController

end AmxxCurl
