/-
The plugins behind the handles.

What the controller keeps of a plugin is an address and some forward ids, and neither
says who is meant once that plugin is gone.  `Plugins` is this part of the state, with
the calls into AMXX that name a plugin or a forward, and an operation for each thing
the module does to it.
-/
import AmxxCurl.Amx.Step
import AmxxCurl.Lib.Appends

namespace AmxxCurl

open AmxCurlController

/-- What an object keeps of the plugin it belongs to. -/
structure Owner where
  amx : AmxPtr
  creator : PluginId
  registered : CallbackOption → Option (ForwardId × PluginId)

namespace Owner

/-- Nothing is registered for a new object. -/
def new (a : AmxPtr) (q : PluginId) : Owner := ⟨a, q, fun _ => none⟩

/-- The forward of an option is given up. -/
def drop (c : CallbackOption) (w : Owner) : Owner :=
  { w with registered := Function.update w.registered c none }

/-- The forward of an option is remembered. -/
def keep (c : CallbackOption) (f : ForwardId × PluginId) (w : Owner) : Owner :=
  { w with registered := Function.update w.registered c (some f) }

/-- All of them are given up. -/
def clear (w : Owner) : Owner := { w with registered := fun _ => none }

def forwards (w : Owner) : List (ForwardId × PluginId) := CallbackOption.all.filterMap w.registered

theorem mem_forwards {w : Owner} {f : ForwardId × PluginId} :
    f ∈ w.forwards ↔ ∃ c, w.registered c = some f := by
  unfold forwards
  rw [List.mem_filterMap]
  constructor
  · rintro ⟨c, -, hc⟩
    exact ⟨c, hc⟩
  · rintro ⟨c, hc⟩
    refine ⟨c, ?_, hc⟩
    cases c <;> decide

end Owner

/-- The plugins, what the objects keep of them, and the calls that name one. -/
structure Plugins where
  amxx : Amxx
  isDetached : Bool
  objs : Heap Owner
  /-- The calls on the stack that wait for Pawn code. -/
  pawn : List Frame
  log : List Event

namespace Plugins

variable (p : Plugins)

abbrev obj (o : ObjId) : Owner := p.objs.cell o

def mf (c : MfCall) : Plugins := { p with log := p.log ++ [.mf c p.isDetached] }

def setObj (o : ObjId) (f : Owner → Owner) : Plugins := { p with objs := p.objs.modify o f }

def isLoaded (a : AmxPtr) (q : PluginId) : Bool := p.amxx.loaded a == some q

/-- A forward that was registered for the plugin at `a` is unregistered. -/
def unregister (a : AmxPtr) (f : ForwardId × PluginId) : Plugins :=
  { p.mf (.unregisterSPForward (p.isLoaded a f.2) f.1) with amxx := p.amxx.unregister f.1 }

/-- An option gives up its forward, if it has one. -/
def drop (o : ObjId) (c : CallbackOption) : Plugins :=
  match (p.obj o).registered c with
  | none => p
  | some f => (p.unregister (p.obj o).amx f).setObj o (.drop c)

/-- An option asks for a forward. -/
def register (o : ObjId) (c : CallbackOption) (reply : Option ForwardId) : Plugins :=
  let w := p.obj o
  let called (id : Option ForwardId) : Plugins :=
    p.mf (.registerSPForwardByName (p.isLoaded w.amx w.creator) o c id)
  match p.amxx.loaded w.amx, reply with
  | some q, some f =>
      { called (some f) with amxx := p.amxx.register w.amx f }.setObj o (.keep c (f, q))
  | _, _ => called none

/-- The forwards of an object are unregistered. -/
def release (o : ObjId) : Plugins :=
  let w := p.obj o
  { p with
    log := p.log ++ w.forwards.map fun f : ForwardId × PluginId =>
      Event.mf (.unregisterSPForward (p.isLoaded w.amx f.2) f.1) p.isDetached
    amxx := p.amxx.unregisterAll (w.forwards.map Prod.fst) }.setObj o .clear

/-- `MF_FindScriptByAmx` finds somebody at the address, and may be asked. -/
def isValid (o : ObjId) : Bool := !p.isDetached && (p.amxx.loaded (p.obj o).amx).isSome

/-- An object is destroyed. -/
def destroy (o : ObjId) : Plugins := if p.isValid o then p.release o else p.setObj o .clear

/-- An object is made for the plugin at an address. -/
def alloc (a : AmxPtr) (q : PluginId) : Plugins := { p with objs := p.objs.alloc (.new a q) }

/-- A completion is called, with a forward of its own. -/
def complete (o : ObjId) (q : PluginId) (f : ForwardId) (data : Option DataId) : Plugins :=
  let w := p.obj o
  { (p.mf (.registerSPForward w.creator (some q) f)).mf
      (.executeForward w.creator (some q) f .completion) with
    amxx := p.amxx.register w.amx f
    pawn := .completion w.amx q f data :: p.pawn }

/-- A data callback is called; Pawn code runs if the id is registered. -/
def execute (o : ObjId) (c : CallbackOption) (f : ForwardId) (expected : Int) : Plugins :=
  { p.mf (.executeForward (p.obj o).creator (p.amxx.forwards f) f (.option o c)) with
    pawn := ((p.amxx.forwards f).toList.map fun q => .dataCallback o c q expected) ++ p.pawn }

@[simp] theorem setObj_cell (o : ObjId) (f : Owner → Owner) :
    (p.setObj o f).obj o = f (p.obj o) := Heap.modify_cell_self ..

@[simp] theorem setObj_cell_ne {o o' : ObjId} (f : Owner → Owner) (hne : o' ≠ o) :
    (p.setObj o f).obj o' = p.obj o' := Heap.modify_cell_ne _ _ hne

/-- With nothing registered there is nothing to unregister. -/
theorem destroy_new {o : ObjId} {a : AmxPtr} {q : PluginId} (ho : p.obj o = .new a q) :
    p.destroy o = p := by
  have hclear : p.setObj o .clear = p := by
    unfold setObj
    rw [Heap.modify_eq_self _ (by rw [show p.objs.cell o = .new a q from ho]; rfl)]
  unfold destroy
  split
  · unfold release
    rw [ho]
    simpa [Owner.new, Owner.forwards, Amxx.unregisterAll] using hclear
  · exact hclear

/-! ### What the operations leave as it was -/

variable {o o' : ObjId} {c c' : CallbackOption} {reply : Option ForwardId}

@[simp] theorem drop_loaded : (p.drop o c).amxx.loaded = p.amxx.loaded := by
  unfold drop
  split <;> rfl

@[simp] theorem register_loaded : (p.register o c reply).amxx.loaded = p.amxx.loaded := by
  unfold register
  dsimp only
  split <;> rfl

@[simp] theorem release_loaded : (p.release o).amxx.loaded = p.amxx.loaded :=
  Amxx.unregisterAll_loaded ..

@[simp] theorem destroy_loaded : (p.destroy o).amxx.loaded = p.amxx.loaded := by
  unfold destroy
  split
  · exact p.release_loaded
  · rfl

@[simp] theorem drop_pawn : (p.drop o c).pawn = p.pawn := by
  unfold drop
  split <;> rfl

@[simp] theorem register_pawn : (p.register o c reply).pawn = p.pawn := by
  unfold register
  dsimp only
  split <;> rfl

@[simp] theorem destroy_pawn : (p.destroy o).pawn = p.pawn := by
  unfold destroy
  split <;> rfl

@[simp] theorem drop_next : (p.drop o c).objs.next = p.objs.next := by
  unfold drop
  split <;> rfl

@[simp] theorem register_next : (p.register o c reply).objs.next = p.objs.next := by
  unfold register
  dsimp only
  split <;> rfl

@[simp] theorem destroy_next : (p.destroy o).objs.next = p.objs.next := by
  unfold destroy
  split <;> rfl

section Bounded

variable {p}

theorem drop_bounded (h : p.amxx.Bounded) : (p.drop o c).amxx.Bounded := by
  unfold drop
  split
  · exact h
  · exact h.unregister _

theorem register_bounded (h : p.amxx.Bounded) : (p.register o c reply).amxx.Bounded := by
  unfold register
  dsimp only
  split
  · exact h.register _ _
  · exact h

theorem destroy_bounded (h : p.amxx.Bounded) : (p.destroy o).amxx.Bounded := by
  unfold destroy
  split
  · exact h.unregisterAll _
  · exact h

end Bounded

/-- An owner is as before, but for forwards it has given up. -/
structure Less (w w' : Owner) : Prop where
  amx : w'.amx = w.amx
  creator : w'.creator = w.creator
  registered : ∀ ⦃c f⦄, w'.registered c = some f → w.registered c = some f

namespace Less

theorem refl (w : Owner) : Less w w := ⟨rfl, rfl, fun _ _ h => h⟩

theorem trans {w w' w'' : Owner} (h : Less w w') (h' : Less w' w'') : Less w w'' :=
  ⟨h'.amx.trans h.amx, h'.creator.trans h.creator, fun _ _ hf => h.registered (h'.registered hf)⟩

theorem drop (w : Owner) (c : CallbackOption) : Less w (w.drop c) := by
  refine ⟨rfl, rfl, fun c' f hf => ?_⟩
  have hf : Function.update w.registered c none c' = some f := hf
  rw [Function.update_apply] at hf
  split at hf
  · simp at hf
  · exact hf

theorem clear (w : Owner) : Less w w.clear := ⟨rfl, rfl, fun c f hf => by simp [Owner.clear] at hf⟩

theorem setObj {f : Owner → Owner} (hf : ∀ w, Less w (f w)) :
    Less (p.obj o') ((p.setObj o f).obj o') := by
  by_cases ho : o' = o
  · subst ho
    rw [setObj_cell]
    exact hf _
  · rw [setObj_cell_ne _ _ ho]
    exact .refl _

end Less

theorem drop_less : Less (p.obj o') ((p.drop o c).obj o') := by
  unfold Plugins.drop
  split
  · exact .refl _
  · exact Less.setObj (p.unregister (p.obj o).amx _) fun w => .drop w c

theorem release_less : Less (p.obj o') ((p.release o).obj o') := Less.setObj p .clear

theorem destroy_less : Less (p.obj o') ((p.destroy o).obj o') := by
  unfold destroy
  split <;> exact Less.setObj p .clear

/-- The option has given its forward up. -/
theorem drop_self : ((p.drop o c).obj o).registered c = none := by
  unfold Plugins.drop
  split
  · rename_i hnone
    exact hnone
  · rw [setObj_cell]
    exact Function.update_self ..

theorem release_self : ((p.release o).obj o).registered c = none := by
  show ((p.setObj o .clear).obj o).registered c = none
  rw [setObj_cell]
  rfl

theorem drop_nextPlugin : (p.drop o c).amxx.nextPlugin = p.amxx.nextPlugin := by
  unfold Plugins.drop
  split <;> rfl

/-- The one id that may be unregistered is the option's. -/
theorem drop_forwards (i : ForwardId) : (p.drop o c).amxx.forwards i = p.amxx.forwards i ∨
    ∃ f, (p.obj o).registered c = some f ∧ f.1 = i := by
  unfold Plugins.drop
  split
  · exact Or.inl rfl
  · rename_i f hf
    by_cases hi : i = f.1
    · exact Or.inr ⟨f, hf, hi.symm⟩
    · refine Or.inl ?_
      show (p.amxx.unregister f.1).forwards i = _
      rw [Amxx.unregister_forwards, if_neg hi]

/-- The id an option had is free once the option has given it up. -/
theorem drop_freed {f : ForwardId × PluginId} (hf : (p.obj o).registered c = some f) :
    (p.drop o c).amxx.forwards f.1 = none := by
  unfold Plugins.drop
  rw [hf]
  show (p.amxx.unregister f.1).forwards f.1 = none
  rw [Amxx.unregister_forwards, if_pos rfl]

theorem release_nextPlugin : (p.release o).amxx.nextPlugin = p.amxx.nextPlugin :=
  Amxx.unregisterAll_nextPlugin ..

theorem release_forwards (i : ForwardId) : (p.release o).amxx.forwards i = p.amxx.forwards i ∨
    ∃ c f, (p.obj o).registered c = some f ∧ f.1 = i := by
  show (p.amxx.unregisterAll _).forwards i = _ ∨ _
  rw [Amxx.unregisterAll_forwards]
  split
  · rename_i hi
    obtain ⟨f, hf, hfi⟩ := List.mem_map.mp hi
    obtain ⟨c, hc⟩ := Owner.mem_forwards.mp hf
    exact Or.inr ⟨c, f, hc, hfi⟩
  · exact Or.inl rfl

/-- Destroying an object registers nothing. -/
theorem destroy_forwards {i : ForwardId} {q : PluginId}
    (h : (p.destroy o).amxx.forwards i = some q) : p.amxx.forwards i = some q := by
  unfold destroy at h
  split at h
  · have h : (p.amxx.unregisterAll _).forwards i = some q := h
    rw [Amxx.unregisterAll_forwards] at h
    split at h
    · simp at h
    · exact h
  · exact h

theorem destroy_isDetached : (p.destroy o).isDetached = p.isDetached := by
  unfold destroy
  split <;> rfl

/-- An option is told what was registered for whom, or that nothing was. -/
theorem register_cases (o : ObjId) (c : CallbackOption) (reply : Option ForwardId) :
    (∃ q f, p.amxx.loaded (p.obj o).amx = some q ∧ reply = some f ∧ p.register o c reply =
      { p.mf (.registerSPForwardByName
          (p.isLoaded (p.obj o).amx (p.obj o).creator) o c (some f)) with
        amxx := p.amxx.register (p.obj o).amx f }.setObj o (.keep c (f, q))) ∨
    p.register o c reply =
      p.mf (.registerSPForwardByName (p.isLoaded (p.obj o).amx (p.obj o).creator) o c none) := by
  unfold register
  dsimp only
  split
  · rename_i q f hq
    exact Or.inl ⟨q, f, hq, rfl, rfl⟩
  · exact Or.inr rfl

/-! ### What they say to AMXX -/

theorem drop_log : Appends (fun e => ∃ f, (p.obj o).registered c = some f ∧
    e = .mf (.unregisterSPForward (p.isLoaded (p.obj o).amx f.2) f.1) p.isDetached)
    p.log (p.drop o c).log := by
  unfold Plugins.drop
  split
  · exact .refl _
  · rename_i f hf
    exact .one ⟨f, hf, rfl⟩

/-- The id an option gets: there is none to be had of a plugin that is not there. -/
def grantedId (o : ObjId) (reply : Option ForwardId) : Option ForwardId :=
  (p.amxx.loaded (p.obj o).amx).bind fun _ => reply

theorem register_log : (p.register o c reply).log = p.log ++
    [Event.mf (.registerSPForwardByName (p.isLoaded (p.obj o).amx (p.obj o).creator) o c
      (p.grantedId o reply)) p.isDetached] := by
  unfold register grantedId
  dsimp only
  cases p.amxx.loaded (p.obj o).amx with
  | none => rfl
  | some q => cases reply <;> rfl

theorem release_log : (p.release o).log = p.log ++ (p.obj o).forwards.map fun f =>
    Event.mf (.unregisterSPForward (p.isLoaded (p.obj o).amx f.2) f.1) p.isDetached := rfl

theorem destroy_log : Appends (fun e => p.isValid o = true ∧ ∃ f ∈ (p.obj o).forwards,
    e = .mf (.unregisterSPForward (p.isLoaded (p.obj o).amx f.2) f.1) p.isDetached)
    p.log (p.destroy o).log := by
  unfold destroy
  split
  · rename_i hv
    refine ⟨_, p.release_log, fun e he => ?_⟩
    obtain ⟨f, hf, rfl⟩ := List.mem_map.mp he
    exact ⟨hv, f, hf, rfl⟩
  · exact .refl _

theorem complete_log {q : PluginId} {f : ForwardId} {data : Option DataId} :
    (p.complete o q f data).log = p.log ++
      [Event.mf (.registerSPForward (p.obj o).creator (some q) f) p.isDetached,
        .mf (.executeForward (p.obj o).creator (some q) f .completion) p.isDetached] :=
  List.append_assoc ..

/-! ### Pawn code runs in loaded plugins -/

/-- The calls that wait for Pawn code wait for a plugin that is loaded. -/
structure Seated (p : Plugins) : Prop where
  running : ∀ f ∈ p.pawn, ∀ q ∈ f.plugin, ∃ a, p.amxx.loaded a = some q
  completion : ∀ ⦃b q f data⦄, .completion b q f data ∈ p.pawn → p.amxx.loaded b = some q

namespace Seated

variable {p} {p' : Plugins}

theorem same (h : Seated p) (hl : p'.amxx.loaded = p.amxx.loaded)
    (hp : ∀ f ∈ p'.pawn, f ∈ p.pawn) : Seated p' where
  running := fun f hf => hl ▸ h.running f (hp f hf)
  completion := fun _ _ _ _ hf => hl ▸ h.completion (hp _ hf)

end Seated

end Plugins

end AmxxCurl
