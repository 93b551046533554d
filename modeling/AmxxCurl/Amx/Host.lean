/-
The AMXX core, as far as the module uses it: which plugin lives where, and the
forwards registered for single plugins.

A plugin instance is numbered once, when it is loaded, and the number is never
reused; an `AMX*` names an address, which the next plugin may get.  `Amxx` carries
what the core keeps true by itself: an instance lives at one address, and a forward
belongs to a loaded instance.  Unloading a plugin frees its forwards, and with them
their ids.
-/
import Mathlib.Logic.Function.Basic

namespace AmxxCurl

/-- An `AMX*`. -/
abbrev AmxPtr := Nat

/-- A plugin instance, from its load to its unload. -/
abbrev PluginId := Nat

/-- A forward id; the core hands out ids that are not negative. -/
abbrev ForwardId := Nat

/-- The loaded plugins and their forwards. -/
structure Amxx where
  loaded : AmxPtr → Option PluginId
  nextPlugin : PluginId
  forwards : ForwardId → Option PluginId
  loaded_lt : ∀ a p, loaded a = some p → p < nextPlugin
  loaded_inj : ∀ a b p, loaded a = some p → loaded b = some p → a = b
  forward_loaded : ∀ f p, forwards f = some p → ∃ a, loaded a = some p

namespace Amxx

/-- No plugin loaded. -/
def boot : Amxx where
  loaded := fun _ => none
  nextPlugin := 0
  forwards := fun _ => none
  loaded_lt := by simp
  loaded_inj := by simp
  forward_loaded := by simp

/-- Load a plugin at a free address. -/
def load (x : Amxx) (a : AmxPtr) (ha : x.loaded a = none) : Amxx where
  loaded := Function.update x.loaded a (some x.nextPlugin)
  nextPlugin := x.nextPlugin + 1
  forwards := x.forwards
  loaded_lt := by
    intro b p h
    rw [Function.update_apply] at h
    split at h
    · obtain rfl := Option.some.inj h
      exact Nat.lt_succ_self _
    · exact Nat.lt_succ_of_lt (x.loaded_lt b p h)
  loaded_inj := by
    intro b c p hb hc
    rw [Function.update_apply] at hb hc
    split at hb <;> split at hc
    · rename_i h₁ h₂
      rw [h₁, h₂]
    · obtain rfl := Option.some.inj hb
      exact absurd (x.loaded_lt c _ hc) (Nat.lt_irrefl _)
    · obtain rfl := Option.some.inj hc
      exact absurd (x.loaded_lt b _ hb) (Nat.lt_irrefl _)
    · exact x.loaded_inj b c p hb hc
  forward_loaded := by
    intro f p h
    obtain ⟨b, hb⟩ := x.forward_loaded f p h
    have hne : b ≠ a := by
      rintro rfl
      rw [ha] at hb
      simp at hb
    exact ⟨b, by rw [Function.update_of_ne hne, hb]⟩

/-- Unload what lives at an address, with its forwards. -/
def unload (x : Amxx) (a : AmxPtr) : Amxx where
  loaded := Function.update x.loaded a none
  nextPlugin := x.nextPlugin
  forwards := fun f => if x.forwards f = x.loaded a then none else x.forwards f
  loaded_lt := by
    intro b p h
    rw [Function.update_apply] at h
    split at h
    · simp at h
    · exact x.loaded_lt b p h
  loaded_inj := by
    intro b c p hb hc
    rw [Function.update_apply] at hb hc
    split at hb
    · simp at hb
    · split at hc
      · simp at hc
      · exact x.loaded_inj b c p hb hc
  forward_loaded := by
    intro f p h
    split at h
    · simp at h
    · rename_i hne
      obtain ⟨b, hb⟩ := x.forward_loaded f p h
      have hba : b ≠ a := by
        rintro rfl
        exact hne (h.trans hb.symm)
      exact ⟨b, by rw [Function.update_of_ne hba, hb]⟩

/-- `MF_RegisterSPForward` for the plugin at `a`; nothing is registered where there is none. -/
def register (x : Amxx) (a : AmxPtr) (f : ForwardId) : Amxx where
  loaded := x.loaded
  nextPlugin := x.nextPlugin
  forwards := Function.update x.forwards f (x.loaded a)
  loaded_lt := x.loaded_lt
  loaded_inj := x.loaded_inj
  forward_loaded := by
    intro g p h
    rw [Function.update_apply] at h
    split at h
    · exact ⟨a, h⟩
    · exact x.forward_loaded g p h

/-- `MF_UnregisterSPForward`. -/
def unregister (x : Amxx) (f : ForwardId) : Amxx where
  loaded := x.loaded
  nextPlugin := x.nextPlugin
  forwards := Function.update x.forwards f none
  loaded_lt := x.loaded_lt
  loaded_inj := x.loaded_inj
  forward_loaded := by
    intro g p h
    rw [Function.update_apply] at h
    split at h
    · simp at h
    · exact x.forward_loaded g p h

/-- `MF_UnregisterSPForward` for each of the ids. -/
def unregisterAll (x : Amxx) (fs : List ForwardId) : Amxx := fs.foldl unregister x

variable (x : Amxx)

@[simp] theorem register_loaded (a : AmxPtr) (f : ForwardId) : (x.register a f).loaded = x.loaded :=
  rfl

@[simp] theorem unregister_loaded (f : ForwardId) : (x.unregister f).loaded = x.loaded := rfl

theorem register_forwards (a : AmxPtr) (f g : ForwardId) :
    (x.register a f).forwards g = if g = f then x.loaded a else x.forwards g :=
  Function.update_apply ..

theorem unregister_forwards (f g : ForwardId) :
    (x.unregister f).forwards g = if g = f then none else x.forwards g :=
  Function.update_apply ..

@[simp] theorem unregisterAll_loaded (fs : List ForwardId) :
    (x.unregisterAll fs).loaded = x.loaded := by
  unfold unregisterAll
  induction fs generalizing x with
  | nil => rfl
  | cons f fs ih => exact ih (x.unregister f)

theorem unregisterAll_nextPlugin (fs : List ForwardId) :
    (x.unregisterAll fs).nextPlugin = x.nextPlugin := by
  unfold unregisterAll
  induction fs generalizing x with
  | nil => rfl
  | cons f fs ih => exact ih (x.unregister f)

theorem unregisterAll_forwards (fs : List ForwardId) (g : ForwardId) :
    (x.unregisterAll fs).forwards g = if g ∈ fs then none else x.forwards g := by
  unfold unregisterAll
  induction fs generalizing x with
  | nil => simp
  | cons f fs ih =>
      rw [List.foldl_cons, ih, unregister_forwards]
      by_cases hg : g ∈ fs
      · simp [hg]
      · by_cases hf : g = f <;> simp [hg, hf]

theorem load_loaded (a b : AmxPtr) (ha : x.loaded a = none) :
    (x.load a ha).loaded b = if b = a then some x.nextPlugin else x.loaded b :=
  Function.update_apply ..

theorem unload_loaded (a b : AmxPtr) :
    (x.unload a).loaded b = if b = a then none else x.loaded b :=
  Function.update_apply ..

/-! ### Ids do not run out -/

/-- From some id on nothing is registered. -/
def Bounded : Prop := ∃ n : Nat, ∀ f : Nat, n ≤ f → x.forwards f = none

variable {x} {y : Amxx}

theorem Bounded.free (h : x.Bounded) : ∃ f, x.forwards f = none := by
  obtain ⟨n, hn⟩ := h
  exact ⟨n, hn n (Nat.le_refl n)⟩

/-- Fewer forwards are registered. -/
theorem Bounded.mono (h : x.Bounded)
    (hxy : ∀ f, y.forwards f = none ∨ y.forwards f = x.forwards f) : y.Bounded := by
  obtain ⟨n, hn⟩ := h
  refine ⟨n, fun f hf => ?_⟩
  rcases hxy f with hy | hy
  · exact hy
  · rw [hy, hn f hf]

theorem Bounded.register (h : x.Bounded) (a : AmxPtr) (g : Nat) : (x.register a g).Bounded := by
  obtain ⟨n, hn⟩ := h
  refine ⟨max n (g + 1), fun f hf => ?_⟩
  have hne : f ≠ g := by omega
  rw [register_forwards, if_neg hne]
  exact hn f (by omega)

theorem Bounded.unregister (h : x.Bounded) (g : ForwardId) : (x.unregister g).Bounded := by
  refine h.mono fun f => ?_
  rw [unregister_forwards]
  split
  · exact Or.inl rfl
  · exact Or.inr rfl

theorem Bounded.unregisterAll (h : x.Bounded) (fs : List ForwardId) :
    (x.unregisterAll fs).Bounded := by
  refine h.mono fun f => ?_
  rw [unregisterAll_forwards]
  split
  · exact Or.inl rfl
  · exact Or.inr rfl

theorem Bounded.unload (h : x.Bounded) (a : AmxPtr) : (x.unload a).Bounded := by
  refine h.mono fun f => ?_
  unfold Amxx.unload
  dsimp only
  split
  · exact Or.inl rfl
  · exact Or.inr rfl

end Amxx

end AmxxCurl
