/-
The transfers of the controller, and what leaves them alone.

`transfers` forgets what the transfers do not depend on.  Most of the module only
talks to plugins: it registers and runs forwards, stores options, captures a body.
`Keeps` says that the transfers are the same afterwards, so that only the few
functions that start and end one are left to be accounted for.
-/
import AmxxCurl.Amx.Cases
import AmxxCurl.Amx.Transfers

namespace AmxxCurl

/-- What an object says of its transfer. -/
def AmxCurl.transfer (x : AmxCurl) : Transfer :=
  ⟨x.curl, ⟨x.amxCallbackFun, x.taskHandle, x.amxCallbackData, x.amxCallbackDataLen⟩,
    x.isTransferInProgress⟩

namespace AmxCurlController

variable {m m' m'' : AmxCurlController}

/-- The object a frame is a member function of, while it is inside libcurl. -/
def Frame.task : Frame → Option (ObjId × Task)
  | .adding o p => some (o, .adding p)
  | .removing o p res => some (o, .removing p res)
  | _ => none

/-- Events about a perform, or about an easy handle's place in libcurl. -/
def Event.isMajor : Event → Bool
  | .mf _ _ => false
  | .deleted _ => false
  | .returned _ _ _ => false
  | .libcurl (.setopt _) => false
  | .libcurl .infoRead => false
  | .libcurl .socketAction => false
  | _ => true

/-- The transfers, and all that says which are in flight. -/
def transfers (m : AmxCurlController) : Transfers where
  handles := m.amxCurl
  objs := m.objs.map AmxCurl.transfer
  curlMap := m.curlMap
  easies := m.easies
  attached := m.attached
  messages := m.messages
  posted := m.posted
  performs := m.performs
  tasks := m.stack.filterMap Frame.task
  phase := m.phase
  isDetached := m.isDetached
  curlMulti := m.curlMulti
  log := m.log.filter Event.isMajor

theorem emit_transfers (es : List Event) :
    (m.emit es).transfers = m.transfers.emit (es.filter Event.isMajor) := by
  simp only [transfers, emit, Transfers.emit, List.filter_append]

theorem setObj_transfers {o : ObjId} {f : AmxCurl → AmxCurl} {g : Transfer → Transfer}
    (h : (f (m.obj o)).transfer = g (m.obj o).transfer) :
    (m.setObj o f).transfers = m.transfers.setObj o g := by
  unfold setObj transfers Transfers.setObj
  rw [Heap.map_modify _ h]

/-- The transfers are the same. -/
def Keeps (m m' : AmxCurlController) : Prop := m'.transfers = m.transfers

namespace Keeps

theorem refl (m : AmxCurlController) : Keeps m m := rfl

theorem trans (h : Keeps m m') (h' : Keeps m' m'') : Keeps m m'' := Eq.trans h' h

theorem emit {es : List Event} (hes : ∀ e ∈ es, e.isMajor = false) : Keeps m (m.emit es) := by
  unfold Keeps
  rw [emit_transfers, List.filter_eq_nil_iff.mpr fun e he => by simp [hes e he]]
  simp [Transfers.emit]

theorem mf {c : MfCall} : Keeps m (m.mf c) := emit (by simp [Event.isMajor])

theorem infoRead : Keeps m (m.libcurl .infoRead) := emit (by simp [Event.isMajor])

theorem deleteData {d : Option DataId} : Keeps m (m.deleteData d) := by
  refine emit fun e he => ?_
  obtain ⟨d', -, rfl⟩ := List.mem_map.mp he
  rfl

theorem setObj {o : ObjId} {f : AmxCurl → AmxCurl}
    (hf : (f (m.obj o)).transfer = (m.obj o).transfer) : Keeps m (m.setObj o f) := by
  unfold Keeps
  rw [setObj_transfers (g := id) hf, Transfers.setObj, Heap.modify_id]

theorem amxx {x : Amxx} : Keeps m { m with amxx := x } := rfl

/-- A frame that is no task may come and go. -/
theorem stack {s : List Frame} (hs : s.filterMap Frame.task = m.stack.filterMap Frame.task) :
    Keeps m { m with stack := s } := by
  unfold Keeps transfers
  rw [hs]

end Keeps

/-! ### What neither starts a transfer nor ends one -/

/-- Calls into AMXX, options set, and answers to libcurl. -/
def Event.isMinor : Event → Bool
  | .mf _ _ => true
  | .returned _ _ _ => true
  | .libcurl (.setopt _) => true
  | _ => false

theorem Event.isMajor_of_isMinor {e : Event} (h : e.isMinor = true) : e.isMajor = false := by
  cases e with
  | libcurl c =>
      cases c with
      | setopt o => rfl
      | _ => simp [Event.isMinor] at h
  | mf c d => rfl
  | returned o c v => rfl
  | _ => simp [Event.isMinor] at h

/-- All that the callbacks and the options do: calls, assignments, and the frame of a callback. -/
inductive Minor (m : AmxCurlController) : AmxCurlController → Prop
  | refl : Minor m m
  | emit {m' : AmxCurlController} {es : List Event} (h : Minor m m')
      (hes : ∀ e ∈ es, e.isMinor = true) : Minor m (m'.emit es)
  | setObj {m' : AmxCurlController} {o : ObjId} {f : AmxCurl → AmxCurl} (h : Minor m m')
      (hf : (f (m'.obj o)).transfer = (m'.obj o).transfer) : Minor m (m'.setObj o f)
  | amxx {m' : AmxCurlController} (h : Minor m m') (x : Amxx) : Minor m { m' with amxx := x }
  | push {m' : AmxCurlController} (h : Minor m m') (o : ObjId) (c : CallbackOption) (q : PluginId)
      (n : Int) : Minor m { m' with stack := .dataCallback o c q n :: m'.stack }

namespace Minor

variable {o : ObjId} {h : AmxCurlHandle}

theorem trans (hm : Minor m m') (hm' : Minor m' m'') : Minor m m'' := by
  induction hm' with
  | refl => exact hm
  | emit _ hes ih => exact ih.emit hes
  | setObj _ hf ih => exact ih.setObj hf
  | amxx _ x ih => exact ih.amxx x
  | push _ o c q n ih => exact ih.push o c q n

theorem keeps (hm : Minor m m') : Keeps m m' := by
  induction hm with
  | refl => exact .refl m
  | emit _ hes ih => exact ih.trans (.emit fun e he => Event.isMajor_of_isMinor (hes e he))
  | setObj _ hf ih => exact ih.trans (.setObj hf)
  | amxx _ x ih => exact ih.trans .amxx
  | push _ o c q n ih => exact ih.trans (.stack rfl)

theorem mf {c : MfCall} (hm : Minor m m') : Minor m (m'.mf c) := hm.emit (by simp [Event.isMinor])

theorem setopt (hm : Minor m m') : Minor m (m'.libcurl (.setopt o)) :=
  hm.emit (by simp [Event.isMinor])

theorem returned {c : CallbackOption} {v : Int} (hm : Minor m m') :
    Minor m (m'.emit [.returned o c v]) := hm.emit (by simp [Event.isMinor])

/-! ### `CurlCallbackAmx` -/

theorem isAmxValid : Minor m (m.isAmxValid o).1 := by
  unfold AmxCurlController.isAmxValid
  split
  · exact .refl
  · exact mf .refl

theorem unregisterSPForward {a : AmxPtr} {f : ForwardId × PluginId} (hm : Minor m m') :
    Minor m (m'.unregisterSPForward a f) := hm.mf.amxx _

theorem resetAmxCallbacks : Minor m (m.resetAmxCallbacks o) := by
  refine setObj (amxx (emit refl ?_) _) rfl
  intro e he
  obtain ⟨f, -, rfl⟩ := List.mem_map.mp he
  rfl

theorem dropForward {c : CallbackOption} : Minor m (m.dropForward o c) := by
  unfold AmxCurlController.dropForward
  split
  · exact .refl
  · exact setObj (unregisterSPForward .refl) rfl

theorem registerForward {c : CallbackOption} {reply : Option ForwardId} :
    Minor m (m.registerForward o c reply) := by
  unfold AmxCurlController.registerForward
  dsimp only
  split
  · exact setObj (mf (amxx (mf .refl) _)) rfl
  · exact mf (mf .refl)

theorem setupAmxCallback {c : CallbackOption} {reply : Option ForwardId} :
    Minor m (m.setupAmxCallback o c reply) := dropForward.trans registerForward

/-! ### The data callbacks -/

theorem executeForward {c : CallbackOption} {f : ForwardId} {expected : Int} :
    Minor m (m.executeForward o c f expected) := by
  unfold AmxCurlController.executeForward
  dsimp only
  split
  · exact push (mf .refl) _ _ _ _
  · exact returned (mf .refl)

theorem dataCallback {c : CallbackOption} {unregistered invalid : Int} :
    Minor m (m.dataCallback o c unregistered invalid) := by
  unfold AmxCurlController.dataCallback
  split
  · exact returned .refl
  · split
    · exact returned .refl
    · rename_i f _
      have hvalid := isAmxValid (m := m) (o := o)
      split
      · rename_i m₁ he
        rw [he] at hvalid
        exact returned (hvalid.setObj rfl)
      · rename_i m₁ he
        rw [he] at hvalid
        exact hvalid.trans .executeForward

theorem captureBody {chunk : List UInt8} : Minor m (m.captureBody o chunk) := by
  unfold AmxCurlController.captureBody
  split
  · split
    · exact mf (setObj .refl rfl)
    · exact .refl
  · exact setObj .refl rfl

theorem writeCallback {chunk : List UInt8} : Minor m (m.writeCallback o chunk) := by
  unfold AmxCurlController.writeCallback
  split
  · exact returned .refl
  · split
    · exact returned captureBody
    · rename_i f _
      have hvalid := isAmxValid (m := m) (o := o)
      split
      · rename_i m₁ he
        rw [he] at hvalid
        exact returned (hvalid.setObj rfl)
      · rename_i m₁ he
        rw [he] at hvalid
        exact hvalid.trans .executeForward

theorem callback {k : Callback} : Minor m (m.callback o k) := by
  cases k
  · exact .writeCallback
  all_goals exact .dataCallback

theorem dataCallbackReturn {c : CallbackOption} {expected result : Int} :
    Minor m (m.dataCallbackReturn o c expected result) := by
  unfold AmxCurlController.dataCallbackReturn
  dsimp only
  split
  · exact returned (mf .refl)
  · exact returned .refl

/-! ### The natives that start and end no transfer -/

theorem curlSetupAmxCallback {c : Option CallbackOption} {reply : Option ForwardId}
    {codes : CurlCode × CurlCode} :
    Minor m (m.curlSetupAmxCallback h c reply codes) := by
  rcases m.curlSetupAmxCallback_cases h c reply codes with
    ⟨heq, -⟩ | ⟨o, c', es, -, -, hes, heq⟩ <;> rw [heq]
  · exact mf .refl
  · refine emit setupAmxCallback fun e he => ?_
    rcases hes e he with rfl | ⟨detached, rfl⟩ <;> rfl

theorem curlSetOption {d : Option (CallbackOption × Int)} : Minor m (m.curlSetOption h d) := by
  unfold AmxCurlController.curlSetOption
  split
  · exact mf .refl
  · split
    · exact setObj .refl rfl
    · exact setopt .refl

end Minor

namespace Keeps

theorem isAmxValid {o : ObjId} : Keeps m (m.isAmxValid o).1 := Minor.isAmxValid.keeps

theorem resetAmxCallbacks {o : ObjId} : Keeps m (m.resetAmxCallbacks o) :=
  Minor.resetAmxCallbacks.keeps

theorem callback {o : ObjId} {k : Callback} : Keeps m (m.callback o k) := Minor.callback.keeps

theorem dataCallbackReturn {o : ObjId} {c : CallbackOption} {expected result : Int} :
    Keeps m (m.dataCallbackReturn o c expected result) := Minor.dataCallbackReturn.keeps

theorem curlSetupAmxCallback {h : AmxCurlHandle} {c : Option CallbackOption}
    {reply : Option ForwardId} {codes : CurlCode × CurlCode} :
    Keeps m (m.curlSetupAmxCallback h c reply codes) :=
  Minor.curlSetupAmxCallback.keeps

theorem curlSetOption {h : AmxCurlHandle} {d : Option (CallbackOption × Int)} :
    Keeps m (m.curlSetOption h d) := Minor.curlSetOption.keeps

theorem tryInterruptAllTransfers : Keeps m m.tryInterruptAllTransfers := rfl

theorem completionReturn {a : AmxPtr} {q : PluginId} {f : ForwardId} {data : Option DataId} :
    Keeps m (m.completionReturn a q f data) :=
  trans deleteData (trans mf amxx)

end Keeps

end AmxCurlController

end AmxxCurl
