/-
The plugin side of the controller, and what the steps do to it.

`plugins` forgets what the plugins are not concerned with.  `Spares` says that a function
leaves it alone; the others get one lemma each, and `next_plugins` says once for all
what any step does to it.
-/
import AmxxCurl.Amx.Cases
import AmxxCurl.Amx.Plugins

namespace AmxxCurl

open AmxCurlController

/-- The plugin side of an object. -/
def AmxCurl.owner (x : AmxCurl) : Owner := ⟨x.amx, x.creator, x.registeredCallbacks⟩

namespace AmxCurlController

variable {m m' m'' : AmxCurlController} {o : ObjId} {h : AmxCurlHandle}

/-- The option a data callback is set with. -/
def Callback.option : Callback → CallbackOption
  | .write _ => .writeFunction
  | .read => .readFunction
  | .ioctl => .ioctlFunction
  | .seek => .seekFunction
  | .sockopt => .sockoptFunction
  | .progress => .progressFunction
  | .header _ => .headerFunction
  | .debug => .debugFunction
  | .sslCtx => .sslCtxFunction
  | .interleave _ => .interleaveFunction

/-- The calls into AMXX that name a plugin or a forward. -/
def Event.isNaming : Event → Bool
  | .mf (.amxFindPublic _) _ => true
  | .mf (.registerSPForwardByName ..) _ => true
  | .mf (.registerSPForward ..) _ => true
  | .mf (.unregisterSPForward ..) _ => true
  | .mf (.executeForward ..) _ => true
  | _ => false

/-- The plugin side of the controller. -/
def plugins (m : AmxCurlController) : Plugins where
  amxx := m.amxx
  isDetached := m.isDetached
  objs := m.objs.map AmxCurl.owner
  pawn := m.stack.filter fun f => f.plugin.isSome
  log := m.log.filter Event.isNaming

theorem emit_plugins (es : List Event) : (m.emit es).plugins =
    { m.plugins with log := m.plugins.log ++ es.filter Event.isNaming } := by
  simp only [plugins, emit, List.filter_append]

theorem setObj_plugins {f : AmxCurl → AmxCurl} {g : Owner → Owner}
    (h : (f (m.obj o)).owner = g (m.obj o).owner) :
    (m.setObj o f).plugins = m.plugins.setObj o g := by
  unfold setObj plugins Plugins.setObj
  rw [Heap.map_modify _ h]

theorem mf_plugins {c : MfCall} (hc : (Event.mf c m.isDetached).isNaming = true) :
    (m.mf c).plugins = m.plugins.mf c := by
  rw [mf, emit_plugins, List.filter_cons_of_pos hc]
  rfl

/-! ### What leaves the plugins alone -/

/-- The plugin side is the same. -/
def Spares (m m' : AmxCurlController) : Prop := m'.plugins = m.plugins

namespace Spares

theorem refl (m : AmxCurlController) : Spares m m := rfl

theorem trans (h : Spares m m') (h' : Spares m' m'') : Spares m m'' := Eq.trans h' h

theorem emit {es : List Event} (hes : ∀ e ∈ es, e.isNaming = false) : Spares m (m.emit es) := by
  unfold Spares
  rw [emit_plugins, List.filter_eq_nil_iff.mpr fun e he => by simp [hes e he], List.append_nil]

theorem mf {c : MfCall} (hc : (Event.mf c m.isDetached).isNaming = false) : Spares m (m.mf c) :=
  emit (by simpa using hc)

/-- A call, and `BindCallback` after it. -/
theorem binding {code : CurlCode} {e : Event} (he : e.isNaming = false) :
    Spares m (m.emit (e :: AmxCurlController.bindCallback o code)) := by
  refine .emit fun e' he' => ?_
  rcases List.mem_cons.mp he' with rfl | he'
  · exact he
  · rw [mem_bindCallback he']
    rfl

theorem libcurl {c : LibCall} : Spares m (m.libcurl c) := emit (by simp [Event.isNaming])

theorem returned {c : CallbackOption} {v : Int} : Spares m (m.emit [.returned o c v]) :=
  emit (by simp [Event.isNaming])

theorem deleteData {d : Option DataId} : Spares m (m.deleteData d) := by
  refine emit fun e he => ?_
  obtain ⟨d', -, rfl⟩ := List.mem_map.mp he
  rfl

theorem setObj {f : AmxCurl → AmxCurl} (hf : (f (m.obj o)).owner = (m.obj o).owner) :
    Spares m (m.setObj o f) := by
  unfold Spares
  rw [setObj_plugins (g := id) hf, Plugins.setObj, Heap.modify_id]

/-- A frame that waits for no Pawn code may come and go. -/
theorem stack {s : List Frame}
    (hs : s.filter (fun f => f.plugin.isSome) = m.stack.filter fun f => f.plugin.isSome) :
    Spares m { m with stack := s } := by
  unfold Spares plugins
  rw [hs]

theorem isAmxValid : Spares m (m.isAmxValid o).1 := by
  unfold AmxCurlController.isAmxValid
  split
  · exact .refl m
  · exact .mf rfl

theorem captureBody {chunk : List UInt8} : Spares m (m.captureBody o chunk) := by
  unfold AmxCurlController.captureBody
  split
  · split
    · exact (Spares.setObj rfl).trans (.mf rfl)
    · exact .refl m
  · exact .setObj rfl

theorem curlSetOption {d : Option (CallbackOption × Int)} : Spares m (m.curlSetOption h d) := by
  unfold AmxCurlController.curlSetOption
  split
  · exact .mf rfl
  · split
    · exact .setObj rfl
    · exact .libcurl

theorem tryInterruptAllTransfers : Spares m m.tryInterruptAllTransfers := rfl

theorem dataCallbackReturn {c : CallbackOption} {expected result : Int} :
    Spares m (m.dataCallbackReturn o c expected result) := by
  unfold AmxCurlController.dataCallbackReturn
  dsimp only
  split
  · exact (Spares.mf rfl).trans .returned
  · exact .returned

theorem addCurl {args : PerformArgs} : Spares m (m.addCurl o args) := by
  unfold AmxCurlController.addCurl
  have hmap : Spares m { m with
      curlMap := if (m.curlMap.lookup (m.obj o).curl).isSome then m.curlMap
        else m.curlMap.insert (m.obj o).curl o
      performs := m.performs.alloc args
      stack := .adding o m.performs.next :: m.stack } := rfl
  exact hmap.trans (.emit (by simp [Event.isNaming]))

theorem performAdded {p : PerformId} {ok : Bool} : Spares m (m.performAdded o p ok) := by
  unfold AmxCurlController.performAdded
  dsimp only
  split
  · have hattached : Spares m { m with attached := m.attached.insert (m.obj o).curl p } := rfl
    exact hattached.trans ((Spares.emit (by simp [Event.isNaming])).trans (.setObj rfl))
  · have hsaid : Spares m ((m.libcurl (.added o false)).mf .printSrvConsole) :=
      Spares.libcurl.trans (.mf rfl)
    have hmap : Spares m { (m.libcurl (.added o false)).mf .printSrvConsole with
        curlMap := m.curlMap.erase (m.obj o).curl } := hsaid
    exact hmap.trans (Spares.deleteData.trans (.setObj rfl))

theorem removeHandle : Spares m (m.removeHandle o) :=
  (Spares.libcurl (c := .removeHandle o)).trans rfl

theorem checkMultiInfo : Spares m m.checkMultiInfo := by
  unfold AmxCurlController.checkMultiInfo
  split
  · exact .libcurl
  · rename_i e p res rest hmsg
    have hread : Spares m { m.libcurl .infoRead with messages := rest } :=
      (Spares.libcurl (c := .infoRead)).trans rfl
    dsimp only
    split
    · exact hread
    · rename_i o hmap
      have hmap : Spares m { m.libcurl .infoRead with
          messages := rest
          curlMap := m.curlMap.erase (m.obj o).curl } := hread.trans rfl
      exact hmap.trans (.stack rfl)

theorem removeTransfer : Spares m (m.removeTransfer h) := by
  unfold AmxCurlController.removeTransfer
  split
  · exact .refl m
  · rename_i o hh
    split
    · have hmap : Spares m { m with curlMap := m.curlMap.erase (m.obj o).curl } := rfl
      exact hmap.trans .removeHandle
    · exact .refl m

theorem shutdown : Spares m m.shutdown := by
  unfold AmxCurlController.shutdown
  split
  · exact (Spares.libcurl (c := .multiCleanup)).trans rfl
  · exact .refl m

end Spares

/-! ### `CurlCallbackAmx` -/

theorem isAmxValid_snd : (m.isAmxValid o).2 = m.plugins.isValid o := by
  unfold isAmxValid Plugins.isValid
  rw [show m.plugins.isDetached = m.isDetached from rfl]
  split
  · rename_i hd
    simp [hd]
  · rename_i hd
    rw [show m.isDetached = false by simpa using hd]
    rfl

theorem unregisterSPForward_plugins {a : AmxPtr} {f : ForwardId × PluginId} :
    (m.unregisterSPForward a f).plugins = m.plugins.unregister a f :=
  congrArg (fun p : Plugins => { p with amxx := m.amxx.unregister f.1 })
    (mf_plugins (m := m) (c := .unregisterSPForward (m.isLive a f.2) f.1) rfl)

theorem dropForward_plugins {c : CallbackOption} :
    (m.dropForward o c).plugins = m.plugins.drop o c := by
  unfold dropForward Plugins.drop
  cases hf : (m.obj o).registeredCallbacks c with
  | none => rw [show (m.plugins.obj o).registered c = none from hf]
  | some f =>
      rw [show (m.plugins.obj o).registered c = some f from hf]
      dsimp only
      rw [setObj_plugins (g := .drop c) rfl, unregisterSPForward_plugins]
      rfl

theorem registerForward_plugins (m : AmxCurlController) (o : ObjId) (c : CallbackOption)
    (reply : Option ForwardId) :
    (m.registerForward o c reply).plugins = m.plugins.register o c reply := by
  have hcalled := fun id : Option ForwardId => mf_plugins (m := m)
    (c := .registerSPForwardByName (m.isLive (m.obj o).amx (m.obj o).creator) o c id) rfl
  have hsaid : ∀ {m₁ : AmxCurlController}, Spares m₁ (m₁.mf .printSrvConsole) := .mf rfl
  unfold registerForward Plugins.register
  dsimp only
  cases hq : m.amxx.loaded (m.obj o).amx with
  | none =>
      rw [show m.plugins.amxx.loaded (m.plugins.obj o).amx = none from hq]
      exact Eq.trans hsaid (hcalled none)
  | some q =>
      rw [show m.plugins.amxx.loaded (m.plugins.obj o).amx = some q from hq]
      cases reply with
      | none => exact Eq.trans hsaid (hcalled none)
      | some f =>
          dsimp only
          rw [setObj_plugins (g := .keep c (f, q)) rfl]
          refine congrArg (fun p : Plugins => p.setObj o (.keep c (f, q))) (Eq.trans hsaid ?_)
          exact congrArg (fun p : Plugins => { p with amxx := m.amxx.register (m.obj o).amx f })
            (hcalled (some f))

theorem resetAmxCallbacks_plugins : (m.resetAmxCallbacks o).plugins = m.plugins.release o := by
  unfold resetAmxCallbacks Plugins.release
  dsimp only
  rw [setObj_plugins (g := .clear) rfl]
  refine congrArg (fun p : Plugins => p.setObj o .clear) ?_
  let calls : List Event := (m.obj o).forwards.map fun f =>
    .mf (.unregisterSPForward (m.isLive (m.obj o).amx f.2) f.1) m.isDetached
  have hcalls : calls.filter Event.isNaming = calls := by
    rw [List.filter_eq_self]
    intro e he
    obtain ⟨f, -, rfl⟩ := List.mem_map.mp he
    rfl
  have hemit : (m.emit calls).plugins = { m.plugins with log := m.plugins.log ++ calls } := by
    rw [emit_plugins, hcalls]
  exact congrArg (fun p : Plugins =>
    { p with amxx := m.amxx.unregisterAll ((m.obj o).forwards.map Prod.fst) }) hemit

theorem destroyAmxCurl_plugins : (m.destroyAmxCurl o).plugins = m.plugins.destroy o := by
  have hcleaned : Spares m (m.cleanedUp o) :=
    (Spares.deleteData.trans (.libcurl (c := .easyCleanup o))).trans rfl
  have hvalid : Spares m ((m.cleanedUp o).isAmxValid o).1 := hcleaned.trans .isAmxValid
  have hsnd := isAmxValid_snd (m := m.cleanedUp o) (o := o)
  rw [show (m.cleanedUp o).plugins = m.plugins from hcleaned] at hsnd
  unfold Plugins.destroy
  rw [destroyAmxCurl_eq]
  split
  · rename_i ht
    rw [resetAmxCallbacks_plugins, hvalid, if_pos (hsnd.symm.trans ht)]
  · rename_i hf
    rw [setObj_plugins (g := .clear) rfl, hvalid, if_neg (hsnd ▸ hf)]

/-! ### Handles -/

/-- The step destroys the object of the handle: it is idle, or the map is being cleared. -/
def Destroys (m : AmxCurlController) (h : AmxCurlHandle) (o : ObjId) : Action → Prop
  | .easyCleanup h' => h' = h ∧ (m.obj o).isTransferInProgress = false
  | .sweep order =>
      h ∈ order ∧ (m.obj o).cleanupDeferred = true ∧ (m.obj o).isTransferInProgress = false
  | .teardown _ => ∃ actor todo, m.phase = .clearing actor (h :: todo)
  | _ => False

theorem createCurl_plugins (m : AmxCurlController) (a : AmxPtr) (q : PluginId)
    (reply : Option CurlPtr) :
    (m.createCurl a q reply).plugins = m.plugins ∨
      (m.createCurl a q reply).plugins = m.plugins.alloc a q := by
  cases reply with
  | none =>
      refine Or.inl ?_
      rcases m.createCurl_lost a q with heq | ⟨-, heq⟩ <;> rw [heq]
      · rfl
      · exact Spares.mf (m := { m with freeHandles := m.getCurlHandle.2 }) rfl
  | some e =>
      refine Or.inr ?_
      unfold createCurl
      dsimp only
      let made := { m with
        freeHandles := m.getCurlHandle.2
        objs := m.objs.alloc (.new a q e)
        easies := m.easies.insert e m.objs.next }
      have hmade : made.plugins = m.plugins.alloc a q :=
        congrArg (fun c : Heap Owner => { m.plugins with objs := c })
          (Heap.map_alloc m.objs AmxCurl.owner (.new a q e))
      have hset : (made.emit (.libcurl (.easyInit m.objs.next) ::
          bindCallback m.objs.next curleOk)).plugins = m.plugins.alloc a q :=
        Eq.trans (Spares.binding rfl) hmade
      split
      · rw [destroyAmxCurl_plugins]
        refine (congrArg (fun p : Plugins => p.destroy m.objs.next) hset).trans ?_
        exact Plugins.destroy_new _ (Heap.alloc_cell_next ..)
      · exact hset

theorem curlSetupAmxCallback_plugins (m : AmxCurlController) (h : AmxCurlHandle)
    (c : Option CallbackOption) (reply : Option ForwardId) (codes : CurlCode × CurlCode) :
    (m.curlSetupAmxCallback h c reply codes).plugins = m.plugins ∧
        (m.amxCurl.lookup h = none ∨ c = none) ∨
      ∃ o c', m.amxCurl.lookup h = some o ∧ c = some c' ∧
        (m.curlSetupAmxCallback h c reply codes).plugins =
          (m.plugins.drop o c').register o c' reply := by
  rcases m.curlSetupAmxCallback_cases h c reply codes with
    ⟨heq, hno⟩ | ⟨o, c', es, hh, hc, hes, heq⟩ <;> rw [heq]
  · exact Or.inl ⟨Spares.mf rfl, hno⟩
  · have hset := (m.dropForward o c').registerForward_plugins o c' reply
    rw [dropForward_plugins] at hset
    refine Or.inr ⟨o, c', hh, hc, Eq.trans (Spares.emit fun e he => ?_) hset⟩
    rcases hes e he with rfl | ⟨detached, rfl⟩ <;> rfl

theorem removeTask_plugins : (m.removeTask h).plugins = m.plugins ∨
    ∃ o, m.amxCurl.lookup h = some o ∧ (m.obj o).isTransferInProgress = false ∧
      (m.removeTask h).plugins = m.plugins.destroy o := by
  unfold removeTask
  split
  · exact Or.inl (Spares.mf rfl)
  · rename_i o hh
    split
    · exact Or.inl (Spares.trans (Spares.mf rfl) (.setObj rfl))
    · rename_i hidle
      exact Or.inr ⟨o, hh, by simpa using hidle, destroyAmxCurl_plugins⟩

theorem curlReset_plugins : (m.curlReset h).plugins = m.plugins ∧
      (∀ o, m.amxCurl.lookup h = some o → (m.obj o).isTransferInProgress = true) ∨
    ∃ o, m.amxCurl.lookup h = some o ∧ (m.obj o).isTransferInProgress = false ∧
      (m.curlReset h).plugins = m.plugins.release o := by
  unfold curlReset
  split
  · rename_i hh
    exact Or.inl ⟨Spares.mf rfl, fun o ho => by simp [hh] at ho⟩
  · rename_i o hh
    split
    · rename_i hbusy
      refine Or.inl ⟨Spares.mf rfl, fun o' ho' => ?_⟩
      obtain rfl := Option.some.inj (hh.symm.trans ho')
      exact hbusy
    · rename_i hidle
      refine Or.inr ⟨o, hh, by simpa using hidle, ?_⟩
      exact Eq.trans (Spares.binding rfl) resetAmxCallbacks_plugins

/-- Destroying an object says nothing new about who is to be destroyed. -/
theorem destroyAmxCurl_obj (o' : ObjId) : (m.destroyAmxCurl o).amxCurl = m.amxCurl ∧
    ((m.destroyAmxCurl o).obj o').cleanupDeferred = (m.obj o').cleanupDeferred ∧
      ((m.destroyAmxCurl o).obj o').isTransferInProgress = (m.obj o').isTransferInProgress := by
  have hset : ∀ {m₁ : AmxCurlController} {f : AmxCurl → AmxCurl},
      (f (m₁.obj o)).cleanupDeferred = (m₁.obj o).cleanupDeferred →
      (f (m₁.obj o)).isTransferInProgress = (m₁.obj o).isTransferInProgress → m₁.objs = m.objs →
      m₁.amxCurl = m.amxCurl → (m₁.setObj o f).amxCurl = m.amxCurl ∧
        ((m₁.setObj o f).obj o').cleanupDeferred = (m.obj o').cleanupDeferred ∧
        ((m₁.setObj o f).obj o').isTransferInProgress = (m.obj o').isTransferInProgress := by
    intro m₁ f hdef hprog hobjs hhandles
    refine ⟨hhandles, ?_⟩
    show ((m₁.objs.modify o f).cell o').cleanupDeferred = (m.objs.cell o').cleanupDeferred ∧
      ((m₁.objs.modify o f).cell o').isTransferInProgress = (m.objs.cell o').isTransferInProgress
    rw [← hobjs, Heap.modify_cell]
    split
    · rename_i heq
      rw [heq]
      exact ⟨hdef, hprog⟩
    · exact ⟨rfl, rfl⟩
  have hvalid : ((m.cleanedUp o).isAmxValid o).1.objs = m.objs ∧
      ((m.cleanedUp o).isAmxValid o).1.amxCurl = m.amxCurl := by
    unfold isAmxValid
    split <;> exact ⟨rfl, rfl⟩
  rw [destroyAmxCurl_eq]
  split
  · exact hset rfl rfl hvalid.1 hvalid.2
  · exact hset rfl rfl hvalid.1 hvalid.2

theorem sweepOne_plugins : (m.sweepOne h = m) ∨
    ∃ o free, m.amxCurl.lookup h = some o ∧ (m.obj o).cleanupDeferred = true ∧
      (m.obj o).isTransferInProgress = false ∧
      m.sweepOne h = { m with amxCurl := m.amxCurl.erase h, freeHandles := free }.destroyAmxCurl o := by
  unfold sweepOne
  split
  · exact Or.inl rfl
  · rename_i o hh
    split
    · rename_i hcond
      rw [Bool.and_eq_true, Bool.not_eq_true'] at hcond
      exact Or.inr ⟨o, _, hh, hcond.1, hcond.2, rfl⟩
    · exact Or.inl rfl

/-- The sweep destroys some objects, each of which was to be destroyed at its start. -/
theorem sweepDeferredCleanups_plugins (m : AmxCurlController) (order : List AmxCurlHandle) :
    ∃ os : List ObjId,
      (∀ o ∈ os, ∃ h, m.amxCurl.lookup h = some o ∧ m.Destroys h o (.sweep order)) ∧
      (m.sweepDeferredCleanups order).plugins = os.foldl Plugins.destroy m.plugins := by
  unfold sweepDeferredCleanups
  induction order generalizing m with
  | nil => exact ⟨[], by simp, rfl⟩
  | cons h order ih =>
      obtain ⟨os, hos, hfold⟩ := ih (m := m.sweepOne h)
      rw [List.foldl_cons, hfold]
      rcases sweepOne_plugins (m := m) (h := h) with hone | ⟨o, free, hh, hdef, hidle, hone⟩
      · rw [hone] at hos ⊢
        refine ⟨os, fun o ho => ?_, rfl⟩
        obtain ⟨h', hh', hmem, hrest⟩ := hos o ho
        exact ⟨h', hh', List.mem_cons_of_mem _ hmem, hrest⟩
      · refine ⟨o :: os, fun o' ho' => ?_, ?_⟩
        · rcases List.mem_cons.mp ho' with rfl | ho'
          · exact ⟨h, hh, List.mem_cons_self .., hdef, hidle⟩
          · obtain ⟨h', hh', hmem, hdef', hidle'⟩ := hos o' ho'
            obtain ⟨hhandles, hdefEq, hidleEq⟩ := destroyAmxCurl_obj
              (m := { m with amxCurl := m.amxCurl.erase h, freeHandles := free }) (o := o) o'
            rw [hone] at hh' hdef' hidle'
            rw [hhandles] at hh'
            rw [hdefEq] at hdef'
            rw [hidleEq] at hidle'
            exact ⟨h', (Table.lookup_erase_eq_some.mp hh').2, List.mem_cons_of_mem _ hmem, hdef',
              hidle'⟩
        · rw [hone, destroyAmxCurl_plugins]
          rfl

/-! ### Transfers and callbacks -/

theorem amxCurlEasyPerform_plugins (m : AmxCurlController) (h : AmxCurlHandle) (found : Bool)
    (fun_ dataLen : Int) :
    (m.amxCurlEasyPerform h found fun_ dataLen).plugins = m.plugins ∧
        (∀ o, m.amxCurl.lookup h = some o → (m.obj o).isTransferInProgress = true) ∨
      ∃ o, m.amxCurl.lookup h = some o ∧ (m.obj o).isTransferInProgress = false ∧
        (m.amxCurlEasyPerform h found fun_ dataLen).plugins =
          m.plugins.mf (.amxFindPublic (m.isLive (m.obj o).amx (m.obj o).creator)) := by
  have htask : ∀ (next : DataId) {data : Option DataId},
      ({ m with nextData := next }.curlPerformTask h found fun_ data dataLen).plugins = m.plugins ∧
        (∀ o, m.amxCurl.lookup h = some o → (m.obj o).isTransferInProgress = true) ∨
      ∃ o, m.amxCurl.lookup h = some o ∧ (m.obj o).isTransferInProgress = false ∧
        ({ m with nextData := next }.curlPerformTask h found fun_ data dataLen).plugins =
          m.plugins.mf (.amxFindPublic (m.isLive (m.obj o).amx (m.obj o).creator)) := by
    intro next data
    unfold curlPerformTask
    split
    · rename_i hh
      have hh : m.amxCurl.lookup h = none := hh
      exact Or.inl ⟨Spares.deleteData.trans (.mf rfl), fun o ho => by simp [hh] at ho⟩
    · rename_i o hh
      have hh : m.amxCurl.lookup h = some o := hh
      split
      · rename_i hbusy
        refine Or.inl ⟨Spares.trans (Spares.mf rfl) .deleteData, fun o' ho' => ?_⟩
        obtain rfl := Option.some.inj (hh.symm.trans ho')
        exact hbusy
      · rename_i hidle
        refine Or.inr ⟨o, hh, Bool.eq_false_iff.mpr hidle, ?_⟩
        let called := { m with nextData := next }.mf
          (.amxFindPublic (m.isLive (m.obj o).amx (m.obj o).creator))
        have hlooked : Spares called (called.setObj o fun x => { x with amxCallbackFun := fun_ }) :=
          .setObj rfl
        have hcalled : called.plugins =
            m.plugins.mf (.amxFindPublic (m.isLive (m.obj o).amx (m.obj o).creator)) :=
          mf_plugins rfl
        unfold perform
        dsimp only
        split
        · exact Eq.trans (hlooked.trans (Spares.deleteData.trans (.mf rfl))) hcalled
        · exact Eq.trans (hlooked.trans ((Spares.deleteData.trans (.setObj rfl)).trans .addCurl))
            hcalled
  unfold amxCurlEasyPerform
  split
  · exact htask (m.nextData + 1)
  · exact htask m.nextData

/-- A completion reaches AMXX where somebody is found at the address. -/
theorem performRemoved_plugins {p : PerformId} {f : ForwardId} :
    (m.performRemoved o p f).plugins = m.plugins ∧
        (m.isDetached = true ∨ m.amxx.loaded (m.obj o).amx = none) ∨
      ∃ q data, m.isDetached = false ∧ m.amxx.loaded (m.obj o).amx = some q ∧
        (m.performRemoved o p f).plugins = m.plugins.complete o q f data := by
  have hsettled : Spares m (m.settled o p) :=
    Spares.trans (Spares.trans .removeHandle (.setObj rfl)) (.emit (by simp [Event.isNaming]))
  have hasked : Spares m ((m.settled o p).mf .findScriptByAmx) := hsettled.trans (.mf rfl)
  rcases m.performRemoved_cases o p f with ⟨hd, heq⟩ | ⟨hd, hq, heq⟩ | ⟨q, hd, hq, heq⟩
  · exact Or.inl ⟨heq ▸ hsettled.trans .deleteData, Or.inl hd⟩
  · exact Or.inl ⟨heq ▸ (hasked.trans (.mf rfl)).trans .deleteData, Or.inr hq⟩
  · let x := m.obj o
    refine Or.inr ⟨q, x.amxCallbackData, hd, hq, ?_⟩
    have hcalled : ((((m.settled o p).mf .findScriptByAmx).mf
        (.registerSPForward x.creator (some q) f)).mf
          (.executeForward x.creator (some q) f .completion)).plugins =
        (m.plugins.mf (.registerSPForward x.creator (some q) f)).mf
          (.executeForward x.creator (some q) f .completion) := by
      rw [mf_plugins rfl, mf_plugins rfl, hasked]
    rw [heq]
    exact congrArg (fun p : Plugins =>
      { p with
        amxx := m.amxx.register x.amx f
        pawn := .completion x.amx q f x.amxCallbackData :: p.pawn }) hcalled

theorem completionReturn_plugins {a : AmxPtr} {q : PluginId} {f : ForwardId}
    {data : Option DataId} : (m.completionReturn a q f data).plugins = m.plugins.unregister a (f, q) := by
  unfold completionReturn
  rw [unregisterSPForward_plugins, show (m.deleteData data).plugins = m.plugins from Spares.deleteData]

theorem executeForward_plugins {c : CallbackOption} {f : ForwardId} {expected : Int} :
    (m.executeForward o c f expected).plugins = m.plugins.execute o c f expected := by
  have hcalled := mf_plugins (m := m)
    (c := .executeForward (m.obj o).creator (m.amxx.forwards f) f (.option o c)) rfl
  unfold executeForward Plugins.execute
  dsimp only
  split
  · rename_i q hq
    rw [show m.plugins.amxx.forwards f = some q from hq]
    rw [show (m.mf _).amxx = m.amxx from rfl] at hq
    rw [hq] at hcalled ⊢
    exact congrArg
      (fun p : Plugins => { p with pawn := .dataCallback o c q expected :: p.pawn }) hcalled
  · rename_i hq
    rw [show m.plugins.amxx.forwards f = none from hq]
    refine Eq.trans Spares.returned ?_
    rw [show (m.mf _).amxx = m.amxx from rfl] at hq
    rw [hq] at hcalled ⊢
    exact hcalled

/-- A data callback reaches AMXX with a forward it has, where somebody is found at the address. -/
theorem callback_plugins {k : Callback} : (m.callback o k).plugins = m.plugins ∨
    ∃ f expected, m.isDetached = false ∧ (m.obj o).interrupt = false ∧
      (m.obj o).registeredCallbacks k.option = some f ∧
      (m.amxx.loaded (m.obj o).amx).isSome ∧
      (m.callback o k).plugins = m.plugins.execute o k.option f.1 expected := by
  have hvalid := Spares.isAmxValid (m := m) (o := o)
  have hsnd := isAmxValid_snd (m := m) (o := o)
  have hask : ∀ {m₁ : AmxCurlController}, m.isAmxValid o = (m₁, true) → m.isDetached = false ∧
      (m.amxx.loaded (m.obj o).amx).isSome := by
    intro m₁ he
    rw [he] at hsnd
    have hboth : (!m.isDetached && (m.amxx.loaded (m.obj o).amx).isSome) = true := hsnd.symm
    rwa [Bool.and_eq_true, Bool.not_eq_true'] at hboth
  have hdata : ∀ {c : CallbackOption} {u i : Int}, (m.dataCallback o c u i).plugins = m.plugins ∨
      ∃ f expected, m.isDetached = false ∧ (m.obj o).interrupt = false ∧
        (m.obj o).registeredCallbacks c = some f ∧ (m.amxx.loaded (m.obj o).amx).isSome ∧
        (m.dataCallback o c u i).plugins = m.plugins.execute o c f.1 expected := by
    intro c u i
    unfold dataCallback
    split
    · exact Or.inl Spares.returned
    · rename_i hint
      split
      · exact Or.inl Spares.returned
      · rename_i f hf
        split
        · rename_i m₁ he
          rw [he] at hvalid
          exact Or.inl ((hvalid.trans (.setObj rfl)).trans .returned)
        · rename_i m₁ he
          obtain ⟨hd, hsome⟩ := hask he
          rw [he] at hvalid
          refine Or.inr ⟨f, 0, hd, by simpa using hint, hf, hsome, ?_⟩
          rw [executeForward_plugins, hvalid]
  cases k with
  | write chunk =>
      show (m.writeCallback o chunk).plugins = m.plugins ∨ ∃ f expected, m.isDetached = false ∧
        (m.obj o).interrupt = false ∧ (m.obj o).registeredCallbacks .writeFunction = some f ∧
        (m.amxx.loaded (m.obj o).amx).isSome ∧
        (m.writeCallback o chunk).plugins = m.plugins.execute o .writeFunction f.1 expected
      unfold writeCallback
      split
      · exact Or.inl Spares.returned
      · rename_i hint
        split
        · exact Or.inl (Spares.captureBody.trans .returned)
        · rename_i f hf
          split
          · rename_i m₁ he
            rw [he] at hvalid
            exact Or.inl ((hvalid.trans (.setObj rfl)).trans .returned)
          · rename_i m₁ he
            obtain ⟨hd, hsome⟩ := hask he
            rw [he] at hvalid
            refine Or.inr ⟨f, chunk.length, hd, by simpa using hint, hf, hsome, ?_⟩
            rw [executeForward_plugins, hvalid]
  | _ => exact hdata

theorem dropEntry_plugins : (m.dropEntry h).plugins = m.plugins ∨
    ∃ o, m.amxCurl.lookup h = some o ∧ (m.dropEntry h).plugins = m.plugins.destroy o := by
  unfold dropEntry
  split
  · exact Or.inl rfl
  · rename_i o hh
    exact Or.inr ⟨o, hh, destroyAmxCurl_plugins⟩

/-! ### Steps -/

/-- What a step does to the plugin side. -/
inductive Change (m : AmxCurlController) (a : Action) : Plugins → Prop
  | same : Change m a m.plugins
  | detach : Change m a { m.plugins with isDetached := true }
  | load (b : AmxPtr) (ha : a = .load b) (hb : m.amxx.loaded b = none) :
      Change m a { m.plugins with amxx := m.amxx.load b hb }
  | unload (b : AmxPtr) (q : PluginId) (hb : m.amxx.loaded b = some q)
      (hs : ∀ f ∈ m.stack, f.plugin ≠ some q) (ha : a = .unload b) :
      Change m a { m.plugins with amxx := m.amxx.unload b }
  | alloc (b : AmxPtr) (q : PluginId) (hb : m.amxx.loaded b = some q) :
      Change m a (m.plugins.alloc b q)
  | setup {codes : CurlCode × CurlCode} (h : AmxCurlHandle) (o : ObjId) (c : CallbackOption)
      (reply : Option ForwardId) (ha : a = .setCallback h (some c) reply codes)
      (hh : m.amxCurl.lookup h = some o)
      (hfree : ∀ f ∈ reply, m.amxx.forwards f = none ∨
        ((m.obj o).registeredCallbacks c).map Prod.fst = some f) :
      Change m a ((m.plugins.drop o c).register o c reply)
  | find (h : AmxCurlHandle) (o : ObjId) (found : Bool) (fun_ dataLen : Int)
      (ha : a = .easyPerform h found fun_ dataLen) (hh : m.amxCurl.lookup h = some o)
      (hidle : (m.obj o).isTransferInProgress = false) :
      Change m a (m.plugins.mf (.amxFindPublic (m.isLive (m.obj o).amx (m.obj o).creator)))
  | reset (h : AmxCurlHandle) (o : ObjId) (ha : a = .easyReset h) (hh : m.amxCurl.lookup h = some o)
      (hidle : (m.obj o).isTransferInProgress = false) : Change m a (m.plugins.release o)
  | destroy (os : List ObjId)
      (hos : ∀ o ∈ os, ∃ h, m.amxCurl.lookup h = some o ∧ m.Destroys h o a) :
      Change m a (os.foldl Plugins.destroy m.plugins)
  | complete (o : ObjId) (p : PerformId) (res : CurlCode) (rest : List Frame) (q : PluginId)
      (f : ForwardId) (data : Option DataId) (ha : a = .removeReturn f)
      (hs : m.stack = .removing o p res :: rest) (hd : m.isDetached = false)
      (hq : m.amxx.loaded (m.obj o).amx = some q) (hf : m.amxx.forwards f = none) :
      Change m a (m.plugins.complete o q f data)
  | execute (o : ObjId) (k : Callback) (f : ForwardId × PluginId) (expected : Int)
      (ha : a = .callback o k) (he : m.easies.lookup (m.obj o).curl = some o)
      (hd : m.isDetached = false) (hint : (m.obj o).interrupt = false)
      (hf : (m.obj o).registeredCallbacks k.option = some f)
      (hq : (m.amxx.loaded (m.obj o).amx).isSome) :
      Change m a (m.plugins.execute o k.option f.1 expected)
  | completed (b : AmxPtr) (q : PluginId) (f : ForwardId) (data : Option DataId) (rest : List Frame)
      (hs : m.plugins.pawn = .completion b q f data :: rest) (ha : ∃ result, a = .pawnReturn result) :
      Change m a ({ m.plugins with pawn := rest }.unregister b (f, q))
  | executed (o : ObjId) (c : CallbackOption) (q : PluginId) (expected : Int) (rest : List Frame)
      (hs : m.plugins.pawn = .dataCallback o c q expected :: rest)
      (ha : ∃ result, a = .pawnReturn result) :
      Change m a { m.plugins with pawn := rest }

theorem change_of_eq {a : Action} {p p' : Plugins} (h : Change m a p) (he : p' = p) :
    Change m a p' := he ▸ h

/-- A frame that waits for no Pawn code is left. -/
theorem pop_plugins {f : Frame} {rest : List Frame} (hs : m.stack = f :: rest)
    (hf : f.plugin = none) : { m with stack := rest }.plugins = m.plugins := by
  refine Spares.stack ?_
  rw [hs, List.filter_cons_of_neg (by simp [hf])]

theorem teardown_plugins {order : List AmxCurlHandle} (hn : m.TearsDown order m') :
    Change m (.teardown order) m'.plugins := by
  cases hn with
  | visit actor h todo hph => exact change_of_eq .same Spares.removeTransfer
  | drop actor h todo hph =>
      rcases dropEntry_plugins (m := m) (h := h) with heq | ⟨o, hh, heq⟩
      · exact change_of_eq .same heq
      · refine change_of_eq (.destroy [o] ?_) heq
        simpa using ⟨h, hh, actor, todo, hph⟩
  | shutdown hph => exact change_of_eq .same Spares.shutdown
  | shutdownLast actor hph ha => exact change_of_eq .same Spares.shutdown
  | globalCleanup hph =>
      exact change_of_eq .same ((Spares.libcurl (c := .globalCleanup)).trans rfl)
  | guard hph hd ho => exact .detach
  | _ => exact .same

/-- **What a step of the machine does to the plugin side.** -/
theorem next_plugins {a : Action} (hn : m.next a = some m') : Change m a m'.plugins := by
  cases next_fires hn with
  | load b hb => exact .load b rfl hb
  | unload b q hb hs => exact .unload b q hb hs rfl
  | easyInit b q reply hb hp hfree =>
      rcases m.createCurl_plugins b q reply with heq | heq
      · exact change_of_eq .same heq
      · exact change_of_eq (.alloc b q hb) heq
  | setCallback h c reply codes hp hfree =>
      rcases m.curlSetupAmxCallback_plugins h c reply codes with ⟨heq, -⟩ | ⟨o, c', hh, rfl, heq⟩
      · exact change_of_eq .same heq
      · refine change_of_eq (.setup h o c' reply rfl hh fun f hf => ?_) heq
        have hfree := hfree f hf
        unfold replaced at hfree
        rw [hh] at hfree
        exact hfree
  | setOption h d hp => exact change_of_eq .same Spares.curlSetOption
  | easyPerform h found fun_ dataLen hp =>
      rcases m.amxCurlEasyPerform_plugins h found fun_ dataLen with
        ⟨heq, -⟩ | ⟨o, hh, hidle, heq⟩
      · exact change_of_eq .same heq
      · exact change_of_eq (.find h o found fun_ dataLen rfl hh hidle) heq
  | easyCleanup h hp =>
      rcases removeTask_plugins (m := m) (h := h) with heq | ⟨o, hh, hidle, heq⟩
      · exact change_of_eq .same heq
      · refine change_of_eq (.destroy [o] ?_) heq
        simpa using ⟨h, hh, rfl, hidle⟩
  | easyReset h hp =>
      rcases curlReset_plugins (m := m) (h := h) with ⟨heq, -⟩ | ⟨o, hh, hidle, heq⟩
      · exact change_of_eq .same heq
      · exact change_of_eq (.reset h o rfl hh hidle) heq
  | addReturn ok o p rest hs hok =>
      exact change_of_eq .same (Eq.trans Spares.performAdded (pop_plugins hs rfl))
  | removeReturn f o p res rest hs hf =>
      have hpop := pop_plugins hs rfl
      rcases performRemoved_plugins (m := { m with stack := rest }) (o := o) (p := p) (f := f) with
        ⟨heq, -⟩ | ⟨q, data, hd, hq, heq⟩
      · exact change_of_eq .same (heq.trans hpop)
      · refine change_of_eq (.complete o p res rest q f data rfl hs hd hq hf) ?_
        rw [heq, hpop]
  | callback o k hl he =>
      rcases callback_plugins (m := m) (o := o) (k := k) with
        heq | ⟨f, expected, hd, hint, hf, hq, heq⟩
      · exact change_of_eq .same heq
      · exact change_of_eq (.execute o k f expected rfl he hd hint hf hq) heq
  | socketActionReturn rest hs =>
      refine change_of_eq .same (Spares.stack ?_)
      rw [hs]
      rfl
  | readMessage rest hs hm => exact change_of_eq .same Spares.checkMultiInfo
  | checkMultiInfoReturn rest hs hm =>
      have hread : Spares m (m.libcurl .infoRead) := .libcurl
      have hstack : (m.libcurl .infoRead).stack = .checkMultiInfo :: rest := hs
      exact change_of_eq .same (Eq.trans (pop_plugins hstack rfl) hread)
  | completionReturn result b q f data rest hs =>
      refine change_of_eq (.completed b q f data (rest.filter fun f => f.plugin.isSome) ?_
        ⟨result, rfl⟩) completionReturn_plugins
      show m.stack.filter _ = _
      rw [hs]
      rfl
  | dataCallbackReturn result o c q expected rest hs =>
      refine change_of_eq (.executed o c q expected (rest.filter fun f => f.plugin.isSome) ?_
        ⟨result, rfl⟩) Spares.dataCallbackReturn
      show m.stack.filter _ = _
      rw [hs]
      rfl
  | poll hs hm hph =>
      have hcalled : Spares m (m.libcurl .socketAction) := .libcurl
      refine change_of_eq .same (hcalled.trans (.stack ?_))
      rw [show (m.libcurl .socketAction).stack = m.stack from rfl, hs]
      rfl
  | sweep order hs hph ho =>
      obtain ⟨os, hos, heq⟩ := m.sweepDeferredCleanups_plugins order
      exact change_of_eq (.destroy os hos) heq
  | onAmxxDetach hs hph =>
      exact change_of_eq .same (Spares.trans (Spares.mf rfl) .tryInterruptAllTransfers)
  | drained timedOut order hs hph hc ho =>
      have hsaid : Spares m (if m.isAllTransfersCompleted then m else m.mf .printSrvConsole) := by
        split
        · exact .refl m
        · exact .mf rfl
      exact change_of_eq .detach (congrArg (fun p : Plugins => { p with isDetached := true }) hsaid)
  | teardown order m' hs hn => exact teardown_plugins hn
  | _ => exact .same

/-! ### Pawn code runs in loaded plugins -/

theorem foldl_destroy_next (os : List ObjId) :
    ∀ p : Plugins, (os.foldl Plugins.destroy p).objs.next = p.objs.next := by
  induction os with
  | nil => exact fun _ => rfl
  | cons o os ih => exact fun p => (ih (p.destroy o)).trans (Plugins.destroy_next ..)

/-- Objects are only added. -/
theorem Change.next_le {a : Action} {p : Plugins} (hc : Change m a p) :
    m.objs.next ≤ p.objs.next := by
  cases hc with
  | alloc b q hb => exact Nat.le_succ _
  | setup h o c reply ha hh hfree =>
      rw [Plugins.register_next, Plugins.drop_next]
      exact Nat.le_refl _
  | destroy os hos =>
      rw [foldl_destroy_next]
      exact Nat.le_refl _
  | _ => exact Nat.le_refl _

theorem next_le {a : Action} (hn : m.next a = some m') : m.objs.next ≤ m'.objs.next :=
  (next_plugins hn).next_le

theorem Change.seated {a : Action} {p : Plugins} (hc : Change m a p) (h : m.plugins.Seated) :
    p.Seated := by
  cases hc with
  | same => exact h
  | detach => exact h.same rfl fun _ hf => hf
  | load b ha hb =>
      have hload : ∀ {c q}, m.amxx.loaded c = some q → (m.amxx.load b hb).loaded c = some q := by
        intro c q hc
        rw [Amxx.load_loaded, if_neg ?_, hc]
        rintro rfl
        rw [hb] at hc
        simp at hc
      refine ⟨fun f hf q hq => ?_, fun c q f data hf => hload (h.completion hf)⟩
      obtain ⟨c, hc⟩ := h.running f hf q hq
      exact ⟨c, hload hc⟩
  | unload b q hb hs =>
      have hkeep : ∀ {f : Frame} {c q'}, f ∈ m.plugins.pawn → f.plugin = some q' →
          m.amxx.loaded c = some q' → (m.amxx.unload b).loaded c = some q' := by
        intro f c q' hf hq' hc
        rw [Amxx.unload_loaded, if_neg ?_, hc]
        rintro rfl
        refine hs f (List.mem_filter.mp hf).1 ?_
        rw [hq', ← hb, hc]
      refine ⟨fun f hf q' hq' => ?_, fun c q' f data hf => hkeep hf rfl (h.completion hf)⟩
      obtain ⟨c, hc⟩ := h.running f hf q' hq'
      exact ⟨c, hkeep hf hq' hc⟩
  | alloc => exact h.same rfl fun _ hf => hf
  | setup => exact h.same (by simp) (by simp)
  | find => exact h.same rfl fun _ hf => hf
  | reset => exact h.same (by simp) fun _ hf => hf
  | destroy os hos =>
      exact List.foldlRecOn os Plugins.destroy h fun p hp o _ => hp.same (by simp) (by simp)
  | complete o pid res rest q f data ha hs hd hq hf =>
      refine ⟨fun g hg q' hq' => ?_, fun c q' g data' hg => ?_⟩
      · rcases List.mem_cons.mp hg with rfl | hg
        · obtain rfl := Option.some.inj hq'
          exact ⟨_, hq⟩
        · exact h.running g hg q' hq'
      · rcases List.mem_cons.mp hg with heq | hg
        · cases heq
          exact hq
        · exact h.completion hg
  | execute o k f expected ha he hd hint hf hq =>
      refine ⟨fun g hg q' hq' => ?_, fun c q' g data' hg => ?_⟩
      · rcases List.mem_append.mp hg with hg | hg
        · obtain ⟨q, hq, rfl⟩ := List.mem_map.mp hg
          obtain rfl := Option.some.inj hq'
          exact m.amxx.forward_loaded _ _ (Option.mem_toList.mp hq)
        · exact h.running g hg q' hq'
      · rcases List.mem_append.mp hg with hg | hg
        · obtain ⟨q, -, heq⟩ := List.mem_map.mp hg
          simp at heq
        · exact h.completion hg
  | completed b q f data rest hs =>
      exact h.same rfl fun g hg => hs ▸ List.mem_cons_of_mem _ hg
  | executed o c q expected rest hs =>
      exact h.same rfl fun g hg => hs ▸ List.mem_cons_of_mem _ hg

theorem run_seated {C : AmxCurlController → Action → Prop} {tr : List Action}
    (h : machine.Run C tr m) : m.plugins.Seated :=
  h.invariant (P := fun m => m.plugins.Seated)
    ⟨by simp [plugins, machine, boot], by simp [plugins, machine, boot]⟩
    fun _ _ _ hs _ hn => (next_plugins hn).seated hs

/-! ### Ids do not run out -/

theorem Change.bounded {a : Action} {p : Plugins} (hc : Change m a p) (h : m.amxx.Bounded) :
    p.amxx.Bounded := by
  cases hc with
  | same => exact h
  | detach => exact h
  | load b ha hb => exact h
  | unload b q hb hs ha => exact h.unload b
  | alloc b q hb => exact h
  | setup n o c reply ha hh hfree => exact Plugins.register_bounded (Plugins.drop_bounded h)
  | find n o found fun_ dataLen ha hh hidle => exact h
  | reset n o ha hh hidle => exact h.unregisterAll _
  | destroy os hos =>
      exact List.foldlRecOn (motive := fun p : Plugins => p.amxx.Bounded) os Plugins.destroy h
        fun p hp o _ => Plugins.destroy_bounded hp
  | complete o p res rest q f data ha hs hd hq hf => exact h.register _ _
  | execute o k f expected ha he hd hint hf hq => exact h
  | completed b q f data rest hs ha => exact h.unregister _
  | executed o c q expected rest hs ha => exact h

theorem run_bounded {C : AmxCurlController → Action → Prop} {tr : List Action}
    (h : machine.Run C tr m) : m.amxx.Bounded :=
  h.invariant (P := fun m => m.amxx.Bounded) ⟨0, fun _ _ => rfl⟩
    fun _ _ _ hm _ hn => (next_plugins hn).bounded hm

end AmxCurlController

end AmxxCurl
