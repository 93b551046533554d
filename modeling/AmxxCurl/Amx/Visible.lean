/-
What of an object somebody may still read.

`amx_callback_fun_` and `task_handle_` are read when a transfer completes, and written when
one begins: while none is in progress they are left over.  Of `data_` a data callback reads
the value of one option, where nothing stands for zero, and it reads it only to run a
forward: once the module is detached nobody does.  `visible` forgets all of this, and no
step can tell: what the module does is the same without it.
-/
import AmxxCurl.Amx.Arguments
import AmxxCurl.Amx.Objects

namespace AmxxCurl

open AmxCurlController

/-- What is left of an object where nobody reads the rest. -/
def AmxCurl.visible (x : AmxCurl) (detached : Bool) : AmxCurl :=
  { x with
    amxCallbackFun := if x.isTransferInProgress then x.amxCallbackFun else 0
    taskHandle := if x.isTransferInProgress then x.taskHandle else 0
    data := fun c => if detached then none else some (x.userData c).toInt }

/-- The module with what is visible of its objects. -/
def AmxCurlController.visible (m : AmxCurlController) : AmxCurlController :=
  { m with objs := m.objs.map (·.visible m.isDetached) }

namespace AmxCurl

variable (x : AmxCurl) (d : Bool)

theorem visible_data (c : CallbackOption) :
    (x.visible false).data c = some (x.userData c).toInt := rfl

theorem userData_eq (c : CallbackOption) : x.userData c = BitVec.ofInt 32 ((x.data c).getD 0) := rfl

theorem ofInt_toInt (w : Varargs.Word) : BitVec.ofInt 32 w.toInt = w := BitVec.ofInt_toInt

theorem visible_userData (c : CallbackOption) : (x.visible false).userData c = x.userData c := by
  rw [userData_eq, visible_data]
  exact ofInt_toInt _

theorem visible_data_detached (c : CallbackOption) : (x.visible true).data c = none := rfl

/-- What is not seen is not missed later. -/
theorem visible_visible {d d' : Bool} (hd : d = true → d' = true) :
    (x.visible d).visible d' = x.visible d' := by
  have hfun : ∀ v : Int, (if x.isTransferInProgress then
      (if x.isTransferInProgress then v else 0) else 0) =
      if x.isTransferInProgress then v else 0 := by
    intro v
    split
    · rfl
    · rfl
  have hdata : ((x.visible d).visible d').data = (x.visible d').data := by
    funext c
    by_cases hd' : d' = true
    · rw [hd', visible_data_detached, visible_data_detached]
    · obtain rfl : d = false := Bool.eq_false_iff.mpr fun h => hd' (hd h)
      obtain rfl : d' = false := Bool.eq_false_iff.mpr hd'
      rw [visible_data, visible_data, visible_userData]
  have hsame : (x.visible d).visible d' = { x.visible d' with
      amxCallbackFun := if x.isTransferInProgress then
        (if x.isTransferInProgress then x.amxCallbackFun else 0) else 0
      taskHandle := if x.isTransferInProgress then
        (if x.isTransferInProgress then x.taskHandle else 0) else 0
      data := ((x.visible d).visible d').data } := rfl
  rw [hsame, hdata, hfun, hfun]
  rfl

/-! ### What the members write

Some of it is left over, or is written over what nobody sees. -/

variable {x d}

theorem visible_refuse {fun_ : Int} :
    ((x.visible d).refuse fun_).visible d = (x.refuse fun_).visible d :=
  congrArg (fun y : AmxCurl =>
    { y with amxCallbackFun := if x.isTransferInProgress then fun_ else 0 })
    (x.visible_visible fun h => h)

theorem visible_settle : ((x.visible d).settle).visible d = x.settle.visible d :=
  congrArg (fun y : AmxCurl => { y.settle with amxCallbackFun := 0, taskHandle := 0 })
    (x.visible_visible fun h => h)

theorem setData_userData {c c' : CallbackOption} {v : Int} :
    (x.setData c v).userData c' = if c' = c then BitVec.ofInt 32 v else x.userData c' := by
  have hdata : (x.setData c v).data c' = if c' = c then some v else x.data c' :=
    Function.update_apply ..
  rw [userData_eq, hdata]
  split
  · rfl
  · rfl

theorem visible_setData {c : CallbackOption} {v : Int} :
    ((x.visible d).setData c v).visible d = (x.setData c v).visible d := by
  have hdata : (((x.visible d).setData c v).visible d).data = ((x.setData c v).visible d).data := by
    funext c'
    cases d with
    | true => rw [visible_data_detached, visible_data_detached]
    | false =>
        rw [visible_data, visible_data, setData_userData, setData_userData, visible_userData]
  have hsame : ((x.visible d).setData c v).visible d =
      { (x.visible d).visible d with data := (((x.visible d).setData c v).visible d).data } := rfl
  rw [hsame, hdata, x.visible_visible fun h => h]
  rfl

end AmxCurl

namespace AmxCurlController

variable {m m' : AmxCurlController} {o : ObjId} {h : AmxCurlHandle}

/-! ### Strictly -/

theorem visible_emit (es : List Event) : (m.emit es).visible = m.visible.emit es := rfl

theorem visible_setObj {f : AmxCurl → AmxCurl}
    (hf : (f (m.obj o)).visible m.isDetached = f ((m.obj o).visible m.isDetached)) :
    (m.setObj o f).visible = m.visible.setObj o f :=
  congrArg (fun objs => { m with objs }) (Heap.map_modify m.objs hf)

theorem isAmxValid_visible :
    m.visible.isAmxValid o = ((m.isAmxValid o).1.visible, (m.isAmxValid o).2) := by
  unfold isAmxValid
  by_cases hd : m.isDetached = true
  · rw [if_pos hd]
    exact if_pos hd
  · rw [if_neg hd]
    exact if_neg hd

theorem resetAmxCallbacks_visible :
    m.visible.resetAmxCallbacks o = (m.resetAmxCallbacks o).visible := by
  unfold resetAmxCallbacks
  dsimp only
  rw [visible_setObj rfl]
  rfl

theorem dropForward_visible {c : CallbackOption} :
    m.visible.dropForward o c = (m.dropForward o c).visible := by
  have hsame : (m.visible.obj o).registeredCallbacks c = (m.obj o).registeredCallbacks c := rfl
  unfold dropForward
  rw [hsame]
  cases hf : (m.obj o).registeredCallbacks c with
  | none => rfl
  | some f =>
      dsimp only
      rw [visible_setObj rfl]
      rfl

theorem registerForward_visible {c : CallbackOption} {reply : Option ForwardId} :
    m.visible.registerForward o c reply = (m.registerForward o c reply).visible := by
  have hsame : m.visible.amxx.loaded (m.visible.obj o).amx = m.amxx.loaded (m.obj o).amx := rfl
  unfold registerForward
  dsimp only
  rw [hsame]
  cases hq : m.amxx.loaded (m.obj o).amx with
  | none => rfl
  | some q =>
      cases reply with
      | none => rfl
      | some f =>
          dsimp only
          rw [visible_setObj rfl]
          rfl

theorem setupAmxCallback_visible {c : CallbackOption} {reply : Option ForwardId} :
    m.visible.setupAmxCallback o c reply = (m.setupAmxCallback o c reply).visible := by
  unfold setupAmxCallback
  rw [dropForward_visible, registerForward_visible]

theorem curlSetupAmxCallback_visible {c : Option CallbackOption} {reply : Option ForwardId}
    {codes : CurlCode × CurlCode} :
    m.visible.curlSetupAmxCallback h c reply codes =
      (m.curlSetupAmxCallback h c reply codes).visible := by
  have hsame : m.visible.amxCurl = m.amxCurl := rfl
  unfold curlSetupAmxCallback
  rw [hsame]
  cases m.amxCurl.lookup h with
  | none => rfl
  | some o =>
      cases c with
      | none => rfl
      | some c =>
          dsimp only
          rw [setupAmxCallback_visible]
          split <;> rfl

/-! ### The data callbacks -/

theorem executeForward_visible {c : CallbackOption} {f : ForwardId} {expected : Int} :
    m.visible.executeForward o c f expected = (m.executeForward o c f expected).visible := by
  have hcalled : m.visible.mf
      (.executeForward (m.visible.obj o).creator (m.visible.amxx.forwards f) f (.option o c)) =
        (m.mf (.executeForward (m.obj o).creator (m.amxx.forwards f) f (.option o c))).visible :=
      rfl
  unfold executeForward
  dsimp only
  rw [hcalled]
  generalize m.mf (.executeForward (m.obj o).creator (m.amxx.forwards f) f (.option o c)) = m₁
  have hsame : m₁.visible.amxx = m₁.amxx := rfl
  rw [hsame]
  cases m₁.amxx.forwards f with
  | none => rfl
  | some q => rfl

/-- A callback whose plugin is gone. -/
theorem interrupt_visible {e : Event} :
    (m.visible.setObj o fun x => { x with interrupt := true }).emit [e] =
      ((m.setObj o fun x => { x with interrupt := true }).emit [e]).visible := by
  rw [visible_emit, visible_setObj rfl]

theorem dataCallback_visible {c : CallbackOption} {unregistered invalid : Int} :
    m.visible.dataCallback o c unregistered invalid =
      (m.dataCallback o c unregistered invalid).visible := by
  have hint : (m.visible.obj o).interrupt = (m.obj o).interrupt := rfl
  have hreg : (m.visible.obj o).registeredCallbacks = (m.obj o).registeredCallbacks := rfl
  unfold dataCallback
  rw [hint, hreg]
  by_cases hi : (m.obj o).interrupt = true
  · rw [if_pos hi, if_pos hi]
    rfl
  · rw [if_neg hi, if_neg hi]
    cases (m.obj o).registeredCallbacks c with
    | none => rfl
    | some f =>
        dsimp only
        rw [isAmxValid_visible]
        cases m.isAmxValid o with
        | mk m₁ valid =>
            cases valid with
            | true => exact executeForward_visible
            | false => exact interrupt_visible

theorem captureBody_visible {chunk : List UInt8} :
    m.visible.captureBody o chunk = (m.captureBody o chunk).visible := by
  have hbody : (m.visible.obj o).responseBody = (m.obj o).responseBody := rfl
  have hroom : remaining (m.visible.obj o) = remaining (m.obj o) := rfl
  unfold captureBody
  rw [hbody, hroom]
  by_cases hfull : (m.obj o).responseBody.length + chunk.length > maxResponseBody
  · rw [if_pos hfull, if_pos hfull]
    by_cases hsome : remaining (m.obj o) > 0
    · rw [if_pos hsome, if_pos hsome]
      unfold mf
      rw [visible_emit, visible_setObj rfl]
      rfl
    · rw [if_neg hsome, if_neg hsome]
  · rw [if_neg hfull, if_neg hfull]
    exact (visible_setObj rfl).symm

theorem writeCallback_visible {chunk : List UInt8} :
    m.visible.writeCallback o chunk = (m.writeCallback o chunk).visible := by
  have hint : (m.visible.obj o).interrupt = (m.obj o).interrupt := rfl
  have hreg : (m.visible.obj o).registeredCallbacks = (m.obj o).registeredCallbacks := rfl
  unfold writeCallback
  rw [hint, hreg]
  by_cases hi : (m.obj o).interrupt = true
  · rw [if_pos hi, if_pos hi]
    rfl
  · rw [if_neg hi, if_neg hi]
    cases (m.obj o).registeredCallbacks .writeFunction with
    | none =>
        dsimp only
        rw [captureBody_visible]
        rfl
    | some f =>
        dsimp only
        rw [isAmxValid_visible]
        cases m.isAmxValid o with
        | mk m₁ valid =>
            cases valid with
            | true => exact executeForward_visible
            | false => exact interrupt_visible

theorem callback_visible {k : Callback} : m.visible.callback o k = (m.callback o k).visible := by
  cases k with
  | write chunk => exact writeCallback_visible
  | _ => exact dataCallback_visible

/-! ### Destroying -/

theorem destroyAmxCurl_visible :
    m.visible.destroyAmxCurl o = (m.destroyAmxCurl o).visible := by
  have hclean : m.visible.cleanedUp o = (m.cleanedUp o).visible := rfl
  rw [destroyAmxCurl_eq, destroyAmxCurl_eq, hclean, isAmxValid_visible]
  dsimp only
  split
  · exact resetAmxCallbacks_visible
  · exact (visible_setObj rfl).symm

theorem removeTask_visible : m.visible.removeTask h = (m.removeTask h).visible := by
  have hlookup : m.visible.amxCurl.lookup h = m.amxCurl.lookup h := rfl
  unfold removeTask
  rw [hlookup]
  cases m.amxCurl.lookup h with
  | none => rfl
  | some o =>
      have hbusy : (m.visible.obj o).isTransferInProgress = (m.obj o).isTransferInProgress := rfl
      dsimp only
      rw [hbusy]
      split
      · rw [visible_setObj rfl]
        rfl
      · rw [← destroyAmxCurl_visible]
        rfl

theorem curlReset_visible : m.visible.curlReset h = (m.curlReset h).visible := by
  have hlookup : m.visible.amxCurl.lookup h = m.amxCurl.lookup h := rfl
  unfold curlReset
  rw [hlookup]
  cases m.amxCurl.lookup h with
  | none => rfl
  | some o =>
      have hbusy : (m.visible.obj o).isTransferInProgress = (m.obj o).isTransferInProgress := rfl
      dsimp only
      rw [hbusy]
      split
      · rfl
      · rw [visible_emit, resetAmxCallbacks_visible]

theorem sweepOne_visible : m.visible.sweepOne h = (m.sweepOne h).visible := by
  have hlookup : m.visible.amxCurl.lookup h = m.amxCurl.lookup h := rfl
  unfold sweepOne
  rw [hlookup]
  cases m.amxCurl.lookup h with
  | none => rfl
  | some o =>
      have hbusy : (m.visible.obj o).isTransferInProgress = (m.obj o).isTransferInProgress := rfl
      have hdue : (m.visible.obj o).cleanupDeferred = (m.obj o).cleanupDeferred := rfl
      dsimp only
      rw [hbusy, hdue]
      split
      · rw [← destroyAmxCurl_visible]
        rfl
      · rfl

theorem sweepDeferredCleanups_visible (order : List AmxCurlHandle) :
    m.visible.sweepDeferredCleanups order = (m.sweepDeferredCleanups order).visible := by
  unfold sweepDeferredCleanups
  induction order generalizing m with
  | nil => rfl
  | cons h order ih =>
      rw [List.foldl_cons, List.foldl_cons, sweepOne_visible]
      exact ih

theorem dropEntry_visible : m.visible.dropEntry h = (m.dropEntry h).visible := by
  have hlookup : m.visible.amxCurl.lookup h = m.amxCurl.lookup h := rfl
  unfold dropEntry
  rw [hlookup]
  cases m.amxCurl.lookup h with
  | none => rfl
  | some o =>
      dsimp only
      rw [← destroyAmxCurl_visible]
      rfl

theorem removeTransfer_visible : m.visible.removeTransfer h = (m.removeTransfer h).visible := by
  have hlookup : m.visible.amxCurl.lookup h = m.amxCurl.lookup h := rfl
  unfold removeTransfer
  rw [hlookup]
  cases m.amxCurl.lookup h with
  | none => rfl
  | some o =>
      have hbusy : (m.visible.obj o).isTransferInProgress = (m.obj o).isTransferInProgress := rfl
      dsimp only
      rw [hbusy]
      split
      · rfl
      · rfl

/-! ### Up to what is left over -/

theorem map_visible_map {h : Heap AmxCurl} {d : Bool} (d' : Bool) (hd : d = true → d' = true) :
    (h.map (·.visible d)).map (·.visible d') = h.map (·.visible d') :=
  congrArg (Heap.mk _) (funext fun i => (h.cell i).visible_visible hd)

theorem visible_visible : m.visible.visible = m.visible :=
  congrArg (fun objs => { m with objs }) (map_visible_map _ fun h => h)

/-- Assigning to an object, where what is left over may be assigned to as well. -/
theorem assign_visible {f : AmxCurl → AmxCurl}
    (hf : (f ((m.obj o).visible m.isDetached)).visible m.isDetached =
      (f (m.obj o)).visible m.isDetached) :
    (m.visible.setObj o f).visible = (m.setObj o f).visible := by
  let g : AmxCurl → AmxCurl := fun _ => (f (m.obj o)).visible m.isDetached
  have hleft : (m.visible.objs.modify o f).map (·.visible m.isDetached) =
      (m.visible.objs.map (·.visible m.isDetached)).modify o g := Heap.map_modify _ hf
  have hright : (m.objs.modify o f).map (·.visible m.isDetached) =
      (m.objs.map (·.visible m.isDetached)).modify o g := Heap.map_modify _ rfl
  have hsame : m.visible.objs.map (·.visible m.isDetached) = m.objs.map (·.visible m.isDetached) :=
    map_visible_map _ fun h => h
  show { m with objs := (m.visible.objs.modify o f).map (·.visible m.isDetached) } =
    { m with objs := (m.objs.modify o f).map (·.visible m.isDetached) }
  rw [hleft, hright, hsame]

theorem strictly (h : m' = m.visible) : m'.visible = m.visible := by
  rw [h, visible_visible]

theorem alloc_visible (x : AmxCurl) : (m.visible.objs.alloc x).map (·.visible m.isDetached) =
    (m.objs.alloc x).map (·.visible m.isDetached) := by
  have hsame : m.visible.objs.map (·.visible m.isDetached) = m.objs.map (·.visible m.isDetached) :=
    map_visible_map _ fun h => h
  rw [Heap.map_alloc, Heap.map_alloc, hsame]

theorem createCurl_visible {a : AmxPtr} {q : PluginId} {reply : Option CurlPtr} :
    (m.visible.createCurl a q reply).visible = (m.createCurl a q reply).visible := by
  cases reply with
  | none =>
      let lost : AmxCurlController := { m with freeHandles := m.getCurlHandle.2 }
      unfold createCurl
      dsimp only
      by_cases hd : m.isDetached = true
      · rw [if_pos hd]
        exact (congrArg visible (if_pos hd)).trans (visible_visible (m := lost))
      · rw [if_neg hd]
        exact (congrArg visible (if_neg hd)).trans
          (visible_visible (m := lost.mf .findScriptByAmx))
  | some e =>
      have hmade : (m.visible.made a q e).visible = (m.made a q e).visible :=
        congrArg (fun objs => { m.made a q e with objs }) (alloc_visible (.new a q e))
      have hlookup : m.visible.amxCurl.lookup m.visible.getCurlHandle.1 =
          m.amxCurl.lookup m.getCurlHandle.1 := rfl
      cases hh : m.amxCurl.lookup m.getCurlHandle.1 with
      | none =>
          rw [createCurl_new hh, createCurl_new (hlookup.trans hh)]
          exact congrArg (fun y : AmxCurlController =>
            { y with amxCurl := m.amxCurl.insert m.getCurlHandle.1 m.objs.next }) hmade
      | some o =>
          have hnext : m.visible.objs.next = m.objs.next := rfl
          rw [createCurl_taken hh, createCurl_taken (hlookup.trans hh), ← destroyAmxCurl_visible,
            ← destroyAmxCurl_visible, hmade, hnext]

theorem curlSetOption_visible {d : Option (CallbackOption × Int)} :
    (m.visible.curlSetOption h d).visible = (m.curlSetOption h d).visible := by
  have hlookup : m.visible.amxCurl.lookup h = m.amxCurl.lookup h := rfl
  unfold curlSetOption
  rw [hlookup]
  cases m.amxCurl.lookup h with
  | none => exact visible_visible (m := m.mf .logError)
  | some o =>
      cases d with
      | none => exact visible_visible (m := m.libcurl (.setopt o))
      | some d => exact assign_visible AmxCurl.visible_setData

theorem performAdded_visible {p : PerformId} {ok : Bool} :
    (m.visible.performAdded o p ok).visible = (m.performAdded o p ok).visible := by
  cases ok with
  | true =>
      refine strictly ?_
      unfold performAdded
      dsimp only
      rw [if_pos rfl, if_pos rfl, visible_setObj rfl]
      rfl
  | false =>
      exact assign_visible (f := AmxCurl.settle)
        (m := ({ (m.libcurl (.added o false)).mf .printSrvConsole with
          curlMap := m.curlMap.erase (m.obj o).curl }).deleteData (m.obj o).amxCallbackData)
        AmxCurl.visible_settle

/-- A perform that finds its callback. -/
theorem perform_found {task : AmxCurlHandle} {fun_ dataLen : Int} {data : Option DataId} :
    m.perform o task true fun_ data dataLen =
      (((m.mf (.amxFindPublic (m.isLive (m.obj o).amx (m.obj o).creator))).deleteData
        (m.obj o).amxCallbackData).setObj o (·.start ⟨fun_, task, data, dataLen⟩)).addCurl o
          ⟨fun_, task, data, dataLen⟩ := by
  let called := (m.mf (.amxFindPublic (m.isLive (m.obj o).amx (m.obj o).creator))).deleteData
    (m.obj o).amxCallbackData
  have hobjs : (called.objs.modify o (·.refuse fun_)).modify o (fun x =>
      { x with
        amxCallbackData := data
        amxCallbackDataLen := dataLen
        taskHandle := task
        isTransferInProgress := true }) =
      called.objs.modify o (·.start ⟨fun_, task, data, dataLen⟩) := Heap.modify_modify ..
  exact congrArg (fun objs => addCurl { called with objs } o ⟨fun_, task, data, dataLen⟩) hobjs

theorem perform_visible {task : AmxCurlHandle} {found : Bool} {fun_ dataLen : Int}
    {data : Option DataId} : (m.visible.perform o task found fun_ data dataLen).visible =
      (m.perform o task found fun_ data dataLen).visible := by
  cases found with
  | true =>
      refine strictly ?_
      rw [perform_found, perform_found]
      have hadd : ∀ (y : AmxCurlController) (args : PerformArgs),
          (y.addCurl o args).visible = y.visible.addCurl o args := fun _ _ => rfl
      rw [hadd, visible_setObj rfl]
      rfl
  | false =>
      have hthrows : ∀ y : AmxCurlController, y.perform o task false fun_ data dataLen =
          (((y.mf (.amxFindPublic (y.isLive (y.obj o).amx (y.obj o).creator))).setObj o
            (·.refuse fun_)).deleteData data).mf .logError := fun _ => rfl
      have hassign := assign_visible (o := o) (f := (·.refuse fun_))
        (m := m.mf (.amxFindPublic (m.isLive (m.obj o).amx (m.obj o).creator)))
        AmxCurl.visible_refuse
      rw [hthrows, hthrows]
      exact congrArg (fun y : AmxCurlController => (y.deleteData data).mf .logError) hassign

theorem curlPerformTask_visible {found : Bool} {fun_ dataLen : Int} {data : Option DataId} :
    (m.visible.curlPerformTask h found fun_ data dataLen).visible =
      (m.curlPerformTask h found fun_ data dataLen).visible := by
  have hlookup : m.visible.amxCurl.lookup h = m.amxCurl.lookup h := rfl
  unfold curlPerformTask
  rw [hlookup]
  cases m.amxCurl.lookup h with
  | none => exact visible_visible (m := (m.deleteData data).mf .logError)
  | some o =>
      have hbusy : (m.visible.obj o).isTransferInProgress = (m.obj o).isTransferInProgress := rfl
      dsimp only
      rw [hbusy]
      split
      · exact visible_visible (m := (m.mf .printSrvConsole).deleteData data)
      · exact perform_visible

theorem amxCurlEasyPerform_visible {found : Bool} {fun_ dataLen : Int} :
    (m.visible.amxCurlEasyPerform h found fun_ dataLen).visible =
      (m.amxCurlEasyPerform h found fun_ dataLen).visible := by
  unfold amxCurlEasyPerform
  split
  · exact curlPerformTask_visible (m := { m with nextData := m.nextData + 1 })
  · exact curlPerformTask_visible

/-! ### Completing -/

/-- While the transfer is in progress what the completion is called with is seen. -/
theorem amxCallbackFun_visible (hbusy : (m.obj o).isTransferInProgress = true) :
    (m.visible.obj o).amxCallbackFun = (m.obj o).amxCallbackFun := if_pos hbusy

theorem taskHandle_visible (hbusy : (m.obj o).isTransferInProgress = true) :
    (m.visible.obj o).taskHandle = (m.obj o).taskHandle := if_pos hbusy

theorem settled_visible {p : PerformId} (hbusy : (m.obj o).isTransferInProgress = true) :
    (m.visible.settled o p).visible = (m.settled o p).visible := by
  have hassign := assign_visible (m := m.removeHandle o) (o := o) (f := AmxCurl.settle)
    AmxCurl.visible_settle
  unfold settled
  dsimp only
  rw [amxCallbackFun_visible hbusy, taskHandle_visible hbusy]
  exact congrArg (fun y : AmxCurlController => y.emit [.completed p
    ⟨(m.obj o).amxCallbackFun, (m.obj o).taskHandle, (m.obj o).amxCallbackData,
      (m.obj o).amxCallbackDataLen⟩]) hassign

theorem performRemoved_visible {p : PerformId} {f : ForwardId}
    (hbusy : (m.obj o).isTransferInProgress = true) :
    (m.visible.performRemoved o p f).visible = (m.performRemoved o p f).visible := by
  have hsettled := settled_visible (p := p) hbusy
  rcases m.performRemoved_cases o p f with ⟨hd, heq⟩ | ⟨hd, hq, heq⟩ | ⟨q, hd, hq, heq⟩
  · have hsame : m.visible.performRemoved o p f =
        (m.visible.settled o p).deleteData (m.obj o).amxCallbackData :=
      performRemoved_detached (m := m.visible) hd p f
    rw [heq, hsame]
    exact congrArg (deleteData · (m.obj o).amxCallbackData) hsettled
  · have hsame : m.visible.performRemoved o p f =
        (((m.visible.settled o p).mf .findScriptByAmx).mf .printSrvConsole).deleteData
          (m.obj o).amxCallbackData := performRemoved_gone (m := m.visible) hd hq p f
    rw [heq, hsame]
    exact congrArg (fun y : AmxCurlController =>
      ((y.mf .findScriptByAmx).mf .printSrvConsole).deleteData (m.obj o).amxCallbackData) hsettled
  · have hsame : m.visible.performRemoved o p f = m.visible.called o p q f :=
      performRemoved_called (m := m.visible) hd hq p f
    rw [heq, hsame]
    exact congrArg (fun y : AmxCurlController =>
      { ((y.mf .findScriptByAmx).mf (.registerSPForward (m.obj o).creator (some q) f)).mf
          (.executeForward (m.obj o).creator (some q) f .completion) with
        amxx := m.amxx.register (m.obj o).amx f
        stack := .completion (m.obj o).amx q f (m.obj o).amxCallbackData :: m.stack }) hsettled

theorem checkMultiInfo_visible : m.visible.checkMultiInfo = m.checkMultiInfo.visible := by
  have hmessages : m.visible.messages = m.messages := rfl
  have hmap : (m.libcurl .infoRead).curlMap = m.curlMap := rfl
  have hmap' : (m.visible.libcurl .infoRead).curlMap = m.curlMap := rfl
  unfold checkMultiInfo
  rw [hmessages]
  cases m.messages with
  | nil => rfl
  | cons msg rest =>
      obtain ⟨e, p, res⟩ := msg
      dsimp only
      rw [hmap, hmap']
      cases m.curlMap.lookup e with
      | none => rfl
      | some o => rfl

theorem dataCallbackReturn_visible {c : CallbackOption} {expected result : Int} :
    m.visible.dataCallbackReturn o c expected result =
      (m.dataCallbackReturn o c expected result).visible := by
  unfold dataCallbackReturn
  dsimp only
  split
  · rfl
  · rfl

/-! ### Every step -/

/-- A step that can be made or not. -/
theorem checked_visible {c : Prop} [Decidable c] (h : m'.visible = m.visible) :
    (if c then some m' else none).map visible = (if c then some m else none).map visible := by
  split
  · exact congrArg some h
  · rfl

theorem detach_visible (phase : Phase) :
    visible { m.visible with isDetached := true, phase := phase } =
      visible { m with isDetached := true, phase := phase } :=
  congrArg (fun objs => { m with objs := objs, isDetached := true, phase := phase })
    (map_visible_map true fun _ => rfl)

theorem shutdown_visible : m.visible.shutdown = m.shutdown.visible := by
  have hmulti : m.visible.curlMulti = m.curlMulti := rfl
  unfold shutdown
  rw [hmulti]
  split
  · rfl
  · rfl

theorem teardown_visible (order : List AmxCurlHandle) :
    (m.visible.teardown order).map visible = (m.teardown order).map visible := by
  have hphase : m.visible.phase = m.phase := rfl
  have hmove : ∀ {y y' : AmxCurlController} (phase : Phase), y' = y.visible →
      Option.map visible (some { y' with phase := phase }) =
        Option.map visible (some { y with phase := phase }) := by
    intro y y' phase hy
    rw [hy]
    exact congrArg some (visible_visible (m := { y with phase := phase }))
  unfold teardown
  rw [hphase]
  cases m.phase with
  | removing actor todo =>
      cases todo with
      | nil =>
          exact checked_visible (visible_visible (m := { m with phase := .clearing actor order }))
      | cons h todo => exact hmove _ removeTransfer_visible
  | clearing actor todo =>
      cases todo with
      | cons h todo => exact hmove _ dropEntry_visible
      | nil =>
          cases actor with
          | onAmxxDetach => exact hmove (y := { m with freeHandles := [] }) _ rfl
          | detachGuard =>
              exact checked_visible (visible_visible
                (m := { m with freeHandles := [], phase := .clearing .destructor order }))
          | destructor => exact hmove (y := m) _ rfl
  | shutdown actor =>
      cases actor with
      | onAmxxDetach => exact hmove _ shutdown_visible
      | detachGuard => exact hmove _ shutdown_visible
      | destructor => exact hmove _ shutdown_visible
  | globalCleanup => exact hmove (y := m.libcurl .globalCleanup) _ rfl
  | exiting =>
      have hdetached : m.visible.isDetached = m.isDetached := rfl
      dsimp only
      rw [hdetached]
      by_cases ho : m.Walks order
      · have ho' : m.visible.Walks order := ho
        rw [if_pos ho, if_pos ho']
        split
        · exact hmove (y := m) _ rfl
        · exact congrArg some (detach_visible _)
      · have ho' : ¬m.visible.Walks order := ho
        rw [if_neg ho, if_neg ho']
  | _ => rfl

/-- The frame of a member that is inside `curl_multi_remove_handle`: its transfer is in progress. -/
def Removing (m : AmxCurlController) : Prop :=
  ∀ ⦃o p res rest⦄, m.stack = .removing o p res :: rest → (m.obj o).isTransferInProgress = true

/-- **No step reads what is not visible.** -/
theorem next_visible (hm : m.Removing) (a : Action) :
    (m.visible.next a).map visible = (m.next a).map visible := by
  have hstack : m.visible.stack = m.stack := rfl
  cases a with
  | load b =>
      by_cases hb : m.amxx.loaded b = none
      · have hleft : m.visible.next (.load b) =
            some { m.visible with amxx := m.amxx.load b hb } := dif_pos hb
        have hright : m.next (.load b) = some { m with amxx := m.amxx.load b hb } := dif_pos hb
        rw [hleft, hright]
        exact congrArg some (visible_visible (m := { m with amxx := m.amxx.load b hb }))
      · have hleft : m.visible.next (.load b) = none := dif_neg hb
        have hright : m.next (.load b) = none := dif_neg hb
        rw [hleft, hright]
  | unload b =>
      have hamxx : m.visible.amxx = m.amxx := rfl
      simp only [next]
      rw [hamxx, hstack]
      cases m.amxx.loaded b with
      | none => rfl
      | some q =>
          exact checked_visible (visible_visible (m := { m with amxx := m.amxx.unload b }))
  | easyInit b reply =>
      have hamxx : m.visible.amxx = m.amxx := rfl
      simp only [next]
      rw [hamxx]
      cases m.amxx.loaded b with
      | none => rfl
      | some q => exact checked_visible createCurl_visible
  | setCallback h c reply codes => exact checked_visible (strictly curlSetupAmxCallback_visible)
  | setOption h d => exact checked_visible curlSetOption_visible
  | easyPerform h found fun_ dataLen => exact checked_visible amxCurlEasyPerform_visible
  | easyCleanup h => exact checked_visible (strictly removeTask_visible)
  | easyReset h => exact checked_visible (strictly curlReset_visible)
  | addReturn ok =>
      simp only [next]
      rw [hstack]
      split
      · rename_i o p rest hs
        exact checked_visible (performAdded_visible (m := { m with stack := rest }))
      · rfl
  | removeReturn f =>
      simp only [next]
      rw [hstack]
      split
      · rename_i o p res rest hs
        exact checked_visible (performRemoved_visible (m := { m with stack := rest }) (hm hs))
      · rfl
  | postDone e res =>
      have hattached : m.visible.attached = m.attached := rfl
      simp only [next]
      rw [hattached]
      cases m.attached.lookup e with
      | none => rfl
      | some p =>
          exact checked_visible (visible_visible
            (m := { m with messages := m.messages ++ [(e, p, res)], posted := p :: m.posted }))
  | callback o k => exact checked_visible (strictly callback_visible)
  | socketActionReturn =>
      simp only [next]
      rw [hstack]
      split
      · rename_i rest hs
        exact congrArg some (visible_visible (m := { m with stack := .checkMultiInfo :: rest }))
      · rfl
  | readMessage =>
      simp only [next]
      rw [hstack]
      split
      · have hmessages : m.visible.messages = m.messages := rfl
        rw [hmessages]
        split
        · rfl
        · exact congrArg some (strictly checkMultiInfo_visible)
      · rfl
  | checkMultiInfoReturn =>
      simp only [next]
      rw [hstack]
      split
      · rename_i rest hs
        rw [checkMultiInfo_visible]
        exact checked_visible (visible_visible (m := { m.checkMultiInfo with stack := rest }))
      · rfl
  | pawnReturn result =>
      simp only [next]
      rw [hstack]
      split
      · rename_i b q f data rest hs
        exact congrArg some
          (visible_visible (m := completionReturn { m with stack := rest } b q f data))
      · rename_i o c q expected rest hs
        exact congrArg some (strictly (dataCallbackReturn_visible (m := { m with stack := rest })))
      · rfl
  | poll =>
      exact checked_visible (visible_visible
        (m := { m.libcurl .socketAction with stack := [.socketAction] }))
  | sweep order => exact checked_visible (strictly (sweepDeferredCleanups_visible order))
  | onAmxxDetach =>
      exact checked_visible (visible_visible
        (m := { (m.mf .unregModuleFrameFunc).tryInterruptAllTransfers with phase := .draining }))
  | drained timedOut order =>
      have hdone : m.visible.isAllTransfersCompleted = m.isAllTransfersCompleted := rfl
      have hpick : (if m.isAllTransfersCompleted then m.visible else m.visible.mf .printSrvConsole) =
          (if m.isAllTransfersCompleted then m else m.mf .printSrvConsole).visible := by
        split
        · rfl
        · rfl
      simp only [next]
      rw [hdone, hpick]
      exact checked_visible (detach_visible (m := if _ then _ else _) _)
  | exit => exact checked_visible (visible_visible (m := { m with phase := .exiting }))
  | teardown order =>
      simp only [next]
      rw [hstack]
      split
      · exact teardown_visible order
      · rfl

end AmxCurlController

end AmxxCurl
