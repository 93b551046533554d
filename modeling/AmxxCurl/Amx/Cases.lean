/-
What an action does, one case for each way it can go.

`Fires m a m'` lists the enabled actions with their guards and effects, so that a proof
about every step is a case analysis and never unfolds `next`.  `destroyAmxCurl_eq` does
the same for the destructor the natives, the sweep and the teardown share.
-/
import AmxxCurl.Amx.Step

namespace AmxxCurl

namespace AmxCurlController

/-- The state in which `~AmxCurl` is done with the data and with `curl_`. -/
def cleanedUp (m : AmxCurlController) (o : ObjId) : AmxCurlController :=
  { (m.deleteData (m.obj o).amxCallbackData).libcurl (.easyCleanup o) with
    easies := m.easies.erase (m.obj o).curl }

/-- `~AmxCurl` ends with the `CurlCallbackAmx`, which unregisters its forwards or forgets them. -/
theorem destroyAmxCurl_eq (m : AmxCurlController) (o : ObjId) : m.destroyAmxCurl o =
    if ((m.cleanedUp o).isAmxValid o).2 then ((m.cleanedUp o).isAmxValid o).1.resetAmxCallbacks o
    else ((m.cleanedUp o).isAmxValid o).1.setObj o fun x =>
      { x with registeredCallbacks := fun _ => none, responseBody := [] } := by
  generalize hr : m.destroyAmxCurl o = r
  unfold destroyAmxCurl at hr
  dsimp only at hr
  split at hr
  · rename_i m₁ hvalid
    have hvalid : (m.cleanedUp o).isAmxValid o = (m₁, true) := hvalid
    rw [hvalid, if_pos rfl, hr]
  · rename_i m₁ hvalid
    have hvalid : (m.cleanedUp o).isAmxValid o = (m₁, false) := hvalid
    rw [hvalid, if_neg Bool.false_ne_true, hr]

/-- The state in which `CreateCurl` has made the object. -/
def made (m : AmxCurlController) (a : AmxPtr) (q : PluginId) (e : CurlPtr) : AmxCurlController :=
  { m with
    freeHandles := m.getCurlHandle.2
    objs := m.objs.alloc (.new a q e)
    easies := m.easies.insert e m.objs.next }.emit
      (.libcurl (.easyInit m.objs.next) :: bindCallback m.objs.next curleOk)

theorem mem_bindCallback {o : ObjId} {code : CurlCode} {e : Event} (he : e ∈ bindCallback o code) :
    e = .libcurl (.setopt o) := by
  unfold bindCallback at he
  split at he <;> simpa using he

/-- Behind a libcurl call, `BindCallback` makes more of them. -/
theorem libcurl_bindCallback {c : LibCall} {o : ObjId} {code : CurlCode} {e : Event}
    (he : e ∈ .libcurl c :: bindCallback o code) : ∃ c', e = .libcurl c' := by
  rcases List.mem_cons.mp he with he | he
  · exact ⟨_, he⟩
  · exact ⟨_, mem_bindCallback he⟩

/-- Nothing but an error; or `SetupAmxCallback`, `BindCallback` and the report of its exception. -/
theorem curlSetupAmxCallback_cases (m : AmxCurlController) (h : AmxCurlHandle)
    (c : Option CallbackOption) (reply : Option ForwardId) (codes : CurlCode × CurlCode) :
    m.curlSetupAmxCallback h c reply codes = m.mf .logError ∧
        (m.amxCurl.lookup h = none ∨ c = none) ∨
      ∃ o c' es, m.amxCurl.lookup h = some o ∧ c = some c' ∧
        (∀ e ∈ es, e = .libcurl (.setopt o) ∨ ∃ detached, e = .mf .logError detached) ∧
        m.curlSetupAmxCallback h c reply codes = (m.setupAmxCallback o c' reply).emit es := by
  unfold curlSetupAmxCallback
  cases hh : m.amxCurl.lookup h with
  | none => exact Or.inl ⟨rfl, Or.inl rfl⟩
  | some o =>
      cases c with
      | none => exact Or.inl ⟨rfl, Or.inr rfl⟩
      | some c' =>
          dsimp only
          split
          · exact Or.inr ⟨o, c', _, rfl, rfl, fun e he => Or.inl (mem_bindCallback he), rfl⟩
          · refine Or.inr ⟨o, c', bindCallback o codes.1 ++
              [.mf .logError (m.setupAmxCallback o c' reply).isDetached], rfl, rfl,
              fun e he => ?_, ?_⟩
            · rcases List.mem_append.mp he with he | he
              · exact Or.inl (mem_bindCallback he)
              · exact Or.inr ⟨_, List.mem_singleton.mp he⟩
            · simp only [mf, emit, List.append_assoc]

/-- There is no easy handle: the number is lost, and AMXX is asked for the plugin in vain. -/
theorem createCurl_lost (m : AmxCurlController) (a : AmxPtr) (q : PluginId) :
    m.createCurl a q none = { m with freeHandles := m.getCurlHandle.2 } ∨
      m.isDetached = false ∧ m.createCurl a q none =
        { m with freeHandles := m.getCurlHandle.2 }.mf .findScriptByAmx := by
  unfold createCurl
  dsimp only
  by_cases hd : m.isDetached = true
  · exact Or.inl (if_pos hd)
  · exact Or.inr ⟨Bool.eq_false_iff.mpr hd, if_neg hd⟩

/-- The number is new, and becomes the handle. -/
theorem createCurl_new {m : AmxCurlController} (hnew : m.amxCurl.lookup m.getCurlHandle.1 = none)
    (a : AmxPtr) (q : PluginId) (e : CurlPtr) : m.createCurl a q (some e) =
      { m.made a q e with amxCurl := m.amxCurl.insert m.getCurlHandle.1 m.objs.next } := by
  generalize hr : m.createCurl a q (some e) = r
  unfold createCurl at hr
  dsimp only at hr
  split at hr
  · rename_i o ho
    exact absurd (hnew.symm.trans ho) (by simp)
  · exact hr.symm

/-- Somebody has the number, and the object is destroyed. -/
theorem createCurl_taken {m : AmxCurlController} {o : ObjId}
    (ho : m.amxCurl.lookup m.getCurlHandle.1 = some o) (a : AmxPtr) (q : PluginId) (e : CurlPtr) :
    m.createCurl a q (some e) = (m.made a q e).destroyAmxCurl m.objs.next := by
  generalize hr : m.createCurl a q (some e) = r
  unfold createCurl at hr
  dsimp only at hr
  split at hr
  · exact hr.symm
  · rename_i hnew
    exact absurd (ho.symm.trans hnew) (by simp)

/-- The state in which `OnPerformComplete` is done with libcurl and with the object. -/
def settled (m : AmxCurlController) (o : ObjId) (p : PerformId) : AmxCurlController :=
  let x := m.obj o
  ((m.removeHandle o).setObj o fun x =>
    { x with
      isTransferInProgress := false
      amxCallbackData := none
      amxCallbackDataLen := 0 }).emit
    [.completed p ⟨x.amxCallbackFun, x.taskHandle, x.amxCallbackData, x.amxCallbackDataLen⟩]

/--
The state in which it has found the plugin `q`, and asked for a forward, which is `f`, and
executed it.
-/
def asked (m : AmxCurlController) (o : ObjId) (p : PerformId) (q : PluginId) (f : ForwardId) :
    AmxCurlController :=
  let x := m.obj o
  (((m.settled o p).mf .findScriptByAmx).mf (.registerSPForward x.creator (some q) f)).mf
    (.executeForward x.creator (some q) f .completion)

/-- The state in which the completion runs. -/
def called (m : AmxCurlController) (o : ObjId) (p : PerformId) (q : PluginId) (f : ForwardId) :
    AmxCurlController :=
  let x := m.obj o
  { m.asked o p q f with
    amxx := m.amxx.register x.amx f
    stack := .completion x.amx q f x.amxCallbackData :: m.stack }

section Removed

variable {m : AmxCurlController} {o : ObjId}

theorem performRemoved_detached (hd : m.isDetached = true) (p : PerformId) (f : ForwardId) :
    m.performRemoved o p f = (m.settled o p).deleteData (m.obj o).amxCallbackData :=
  if_pos hd

/-- The detach flag is down. -/
theorem settled_attached (hd : m.isDetached = false) (p : PerformId) :
    ¬(m.settled o p).isDetached = true := by
  have hsame : (m.settled o p).isDetached = m.isDetached := rfl
  rw [hsame, hd]
  exact Bool.false_ne_true

theorem performRemoved_gone (hd : m.isDetached = false)
    (hq : m.amxx.loaded (m.obj o).amx = none) (p : PerformId) (f : ForwardId) :
    m.performRemoved o p f = (((m.settled o p).mf .findScriptByAmx).mf .printSrvConsole).deleteData
      (m.obj o).amxCallbackData := by
  refine (if_neg (settled_attached hd p)).trans ?_
  split
  · rfl
  · rename_i q hq'
    exact absurd (hq.symm.trans hq') (by simp)

theorem performRemoved_called {q : PluginId} (hd : m.isDetached = false)
    (hq : m.amxx.loaded (m.obj o).amx = some q) (p : PerformId) (f : ForwardId) :
    m.performRemoved o p f = m.called o p q f := by
  refine (if_neg (settled_attached hd p)).trans ?_
  split
  · rename_i hq'
    exact absurd (hq.symm.trans hq') (by simp)
  · rename_i q' hq'
    obtain rfl := Option.some.inj (hq.symm.trans hq')
    rfl

end Removed

/-- The completion is called, or the data is deleted at once. -/
theorem performRemoved_cases (m : AmxCurlController) (o : ObjId) (p : PerformId) (f : ForwardId) :
    (m.isDetached = true ∧
      m.performRemoved o p f = (m.settled o p).deleteData (m.obj o).amxCallbackData) ∨
    (m.isDetached = false ∧ m.amxx.loaded (m.obj o).amx = none ∧ m.performRemoved o p f =
      (((m.settled o p).mf .findScriptByAmx).mf .printSrvConsole).deleteData
        (m.obj o).amxCallbackData) ∨
    ∃ q, m.isDetached = false ∧ m.amxx.loaded (m.obj o).amx = some q ∧
      m.performRemoved o p f = m.called o p q f := by
  cases hd : m.isDetached with
  | true => exact Or.inl ⟨rfl, performRemoved_detached hd p f⟩
  | false =>
      cases hq : m.amxx.loaded (m.obj o).amx with
      | none => exact Or.inr (Or.inl ⟨rfl, rfl, performRemoved_gone hd hq p f⟩)
      | some q => exact Or.inr (Or.inr ⟨q, rfl, rfl, performRemoved_called hd hq p f⟩)

/-- `m'` is the state after the next step of taking everything down. -/
inductive TearsDown (m : AmxCurlController) (order : List AmxCurlHandle) :
    AmxCurlController → Prop
  | visit (actor : Actor) (h : AmxCurlHandle) (todo : List AmxCurlHandle)
      (hph : m.phase = .removing actor (h :: todo)) :
      TearsDown m order { m.removeTransfer h with phase := .removing actor todo }
  | clear (actor : Actor) (hph : m.phase = .removing actor []) (ho : m.Walks order) :
      TearsDown m order { m with phase := .clearing actor order }
  | drop (actor : Actor) (h : AmxCurlHandle) (todo : List AmxCurlHandle)
      (hph : m.phase = .clearing actor (h :: todo)) :
      TearsDown m order { m.dropEntry h with phase := .clearing actor todo }
  | cleared (hph : m.phase = .clearing .onAmxxDetach []) :
      TearsDown m order { m with freeHandles := [], phase := .shutdown .onAmxxDetach }
  | clearedByGuard (hph : m.phase = .clearing .detachGuard []) (ho : m.Walks order) :
      TearsDown m order { m with freeHandles := [], phase := .clearing .destructor order }
  | destructed (hph : m.phase = .clearing .destructor []) :
      TearsDown m order { m with phase := .shutdown .destructor }
  | shutdown (hph : m.phase = .shutdown .onAmxxDetach) :
      TearsDown m order { m.shutdown with phase := .globalCleanup }
  | shutdownLast (actor : Actor) (hph : m.phase = .shutdown actor) (ha : actor ≠ .onAmxxDetach) :
      TearsDown m order { m.shutdown with phase := .gone }
  | globalCleanup (hph : m.phase = .globalCleanup) :
      TearsDown m order { m.libcurl .globalCleanup with phase := .detached }
  | destruct (hph : m.phase = .exiting) (hd : m.isDetached = true) (ho : m.Walks order) :
      TearsDown m order { m with phase := .clearing .destructor order }
  | guard (hph : m.phase = .exiting) (hd : m.isDetached = false) (ho : m.Walks order) :
      TearsDown m order { m with isDetached := true, phase := .removing .detachGuard order }

/-- `m'` is the state after action `a`. -/
inductive Fires (m : AmxCurlController) : Action → AmxCurlController → Prop
  | load (a : AmxPtr) (hfree : m.amxx.loaded a = none) :
      Fires m (.load a) { m with amxx := m.amxx.load a hfree }
  | unload (a : AmxPtr) (q : PluginId) (hq : m.amxx.loaded a = some q)
      (hstack : ∀ f ∈ m.stack, f.plugin ≠ some q) :
      Fires m (.unload a) { m with amxx := m.amxx.unload a }
  | easyInit (a : AmxPtr) (q : PluginId) (reply : Option CurlPtr) (hq : m.amxx.loaded a = some q)
      (hp : m.AtPawn) (hfree : ∀ e ∈ reply, m.easies.lookup e = none) :
      Fires m (.easyInit a reply) (m.createCurl a q reply)
  | setCallback (h : AmxCurlHandle) (c : Option CallbackOption) (reply : Option ForwardId)
      (codes : CurlCode × CurlCode) (hp : m.AtPawn)
      (hfree : ∀ f ∈ reply, m.amxx.forwards f = none ∨ m.replaced h c = some f) :
      Fires m (.setCallback h c reply codes) (m.curlSetupAmxCallback h c reply codes)
  | setOption (h : AmxCurlHandle) (d : Option (CallbackOption × Int)) (hp : m.AtPawn) :
      Fires m (.setOption h d) (m.curlSetOption h d)
  | easyPerform (h : AmxCurlHandle) (found : Bool) (fun_ dataLen : Int) (hp : m.AtPawn) :
      Fires m (.easyPerform h found fun_ dataLen) (m.amxCurlEasyPerform h found fun_ dataLen)
  | easyCleanup (h : AmxCurlHandle) (hp : m.AtPawn) : Fires m (.easyCleanup h) (m.removeTask h)
  | easyReset (h : AmxCurlHandle) (hp : m.AtPawn) : Fires m (.easyReset h) (m.curlReset h)
  | addReturn (ok : Bool) (o : ObjId) (p : PerformId) (rest : List Frame)
      (hs : m.stack = .adding o p :: rest)
      (hok : ok → m.curlMulti ∧ m.attached.lookup (m.obj o).curl = none) :
      Fires m (.addReturn ok) ({ m with stack := rest }.performAdded o p ok)
  | removeReturn (f : ForwardId) (o : ObjId) (p : PerformId) (res : CurlCode) (rest : List Frame)
      (hs : m.stack = .removing o p res :: rest) (hf : m.amxx.forwards f = none) :
      Fires m (.removeReturn f) ({ m with stack := rest }.performRemoved o p f)
  | postDone (e : CurlPtr) (p : PerformId) (res : CurlCode) (ha : m.attached.lookup e = some p)
      (hp : p ∉ m.posted) :
      Fires m (.postDone e res)
        { m with messages := m.messages ++ [(e, p, res)], posted := p :: m.posted }
  | callback (o : ObjId) (k : Callback) (hl : m.InLibcurl)
      (he : m.easies.lookup (m.obj o).curl = some o) : Fires m (.callback o k) (m.callback o k)
  | socketActionReturn (rest : List Frame) (hs : m.stack = .socketAction :: rest) :
      Fires m .socketActionReturn { m with stack := .checkMultiInfo :: rest }
  | readMessage (rest : List Frame) (hs : m.stack = .checkMultiInfo :: rest)
      (hm : m.messages ≠ []) : Fires m .readMessage m.checkMultiInfo
  | checkMultiInfoReturn (rest : List Frame) (hs : m.stack = .checkMultiInfo :: rest)
      (hm : m.messages = []) :
      Fires m .checkMultiInfoReturn { m.libcurl .infoRead with stack := rest }
  | completionReturn (result : Int) (a : AmxPtr) (q : PluginId) (f : ForwardId)
      (data : Option DataId) (rest : List Frame) (hs : m.stack = .completion a q f data :: rest) :
      Fires m (.pawnReturn result) ({ m with stack := rest }.completionReturn a q f data)
  | dataCallbackReturn (result : Int) (o : ObjId) (c : CallbackOption) (q : PluginId)
      (expected : Int) (rest : List Frame) (hs : m.stack = .dataCallback o c q expected :: rest) :
      Fires m (.pawnReturn result) ({ m with stack := rest }.dataCallbackReturn o c expected result)
  | poll (hs : m.stack = []) (hm : m.curlMulti = true)
      (hph : m.phase = .running ∨ m.phase = .draining) :
      Fires m .poll { m.libcurl .socketAction with stack := [.socketAction] }
  | sweep (order : List AmxCurlHandle) (hs : m.stack = []) (hph : m.phase = .running)
      (ho : m.Walks order) : Fires m (.sweep order) (m.sweepDeferredCleanups order)
  | onAmxxDetach (hs : m.stack = []) (hph : m.phase = .running) :
      Fires m .onAmxxDetach
        { (m.mf .unregModuleFrameFunc).tryInterruptAllTransfers with phase := .draining }
  | drained (timedOut : Bool) (order : List AmxCurlHandle) (hs : m.stack = [])
      (hph : m.phase = .draining) (hc : m.isAllTransfersCompleted = true ∨ timedOut = true)
      (ho : m.Walks order) :
      Fires m (.drained timedOut order)
        { (if m.isAllTransfersCompleted then m else m.mf .printSrvConsole) with
          isDetached := true
          phase := .removing .onAmxxDetach order }
  | exit (hs : m.stack = []) (hph : m.phase = .running ∨ m.phase = .detached) :
      Fires m .exit { m with phase := .exiting }
  | teardown (order : List AmxCurlHandle) (m' : AmxCurlController) (hs : m.stack = [])
      (hn : m.TearsDown order m') : Fires m (.teardown order) m'

variable {m m' : AmxCurlController} {a : Action}

theorem teardown_tearsDown {order : List AmxCurlHandle} (hn : m.teardown order = some m') :
    m.TearsDown order m' := by
  unfold teardown at hn
  split at hn
  · rename_i actor h todo hph
    obtain rfl := Option.some.inj hn
    exact .visit actor h todo hph
  · rename_i actor hph
    split at hn
    · rename_i ho
      obtain rfl := Option.some.inj hn
      exact .clear actor hph ho
    · simp at hn
  · rename_i actor h todo hph
    obtain rfl := Option.some.inj hn
    exact .drop actor h todo hph
  · rename_i hph
    obtain rfl := Option.some.inj hn
    exact .cleared hph
  · rename_i hph
    split at hn
    · rename_i ho
      obtain rfl := Option.some.inj hn
      exact .clearedByGuard hph ho
    · simp at hn
  · rename_i hph
    obtain rfl := Option.some.inj hn
    exact .destructed hph
  · rename_i hph
    obtain rfl := Option.some.inj hn
    exact .shutdown hph
  · rename_i actor hne hph
    obtain rfl := Option.some.inj hn
    exact .shutdownLast actor hph fun ha => hne (ha ▸ rfl)
  · rename_i hph
    obtain rfl := Option.some.inj hn
    exact .globalCleanup hph
  · rename_i hph
    split at hn
    · rename_i ho
      split at hn
      · rename_i hd
        obtain rfl := Option.some.inj hn
        exact .destruct hph hd ho
      · rename_i hd
        obtain rfl := Option.some.inj hn
        exact .guard hph (Bool.eq_false_iff.mpr hd) ho
    · simp at hn
  · simp at hn

/-- **Every step is one of these.** -/
theorem next_fires (hn : m.next a = some m') : Fires m a m' := by
  cases a with
  | load a =>
      simp only [next] at hn
      split at hn
      · rename_i hfree
        obtain rfl := Option.some.inj hn
        exact .load a hfree
      · simp at hn
  | unload a =>
      simp only [next] at hn
      split at hn
      · simp at hn
      · rename_i q hq
        split at hn
        · rename_i hstack
          obtain rfl := Option.some.inj hn
          exact .unload a q hq hstack
        · simp at hn
  | easyInit a reply =>
      simp only [next] at hn
      split at hn
      · simp at hn
      · rename_i q hq
        split at hn
        · rename_i hg
          obtain rfl := Option.some.inj hn
          exact .easyInit a q reply hq hg.1 hg.2
        · simp at hn
  | setCallback h c reply codes =>
      simp only [next] at hn
      split at hn
      · rename_i hg
        obtain rfl := Option.some.inj hn
        exact .setCallback h c reply codes hg.1 hg.2
      · simp at hn
  | setOption h d =>
      simp only [next] at hn
      split at hn
      · rename_i hp
        obtain rfl := Option.some.inj hn
        exact .setOption h d hp
      · simp at hn
  | easyPerform h found fun_ dataLen =>
      simp only [next] at hn
      split at hn
      · rename_i hp
        obtain rfl := Option.some.inj hn
        exact .easyPerform h found fun_ dataLen hp
      · simp at hn
  | easyCleanup h =>
      simp only [next] at hn
      split at hn
      · rename_i hp
        obtain rfl := Option.some.inj hn
        exact .easyCleanup h hp
      · simp at hn
  | easyReset h =>
      simp only [next] at hn
      split at hn
      · rename_i hp
        obtain rfl := Option.some.inj hn
        exact .easyReset h hp
      · simp at hn
  | addReturn ok =>
      simp only [next] at hn
      split at hn
      · rename_i o p rest hs
        split at hn
        · rename_i hok
          obtain rfl := Option.some.inj hn
          exact .addReturn ok o p rest hs hok
        · simp at hn
      · simp at hn
  | removeReturn f =>
      simp only [next] at hn
      split at hn
      · rename_i o p res rest hs
        split at hn
        · rename_i hf
          obtain rfl := Option.some.inj hn
          exact .removeReturn f o p res rest hs hf
        · simp at hn
      · simp at hn
  | postDone e res =>
      simp only [next] at hn
      split at hn
      · simp at hn
      · rename_i p ha
        split at hn
        · rename_i hp
          obtain rfl := Option.some.inj hn
          exact .postDone e p res ha hp
        · simp at hn
  | callback o k =>
      simp only [next] at hn
      split at hn
      · rename_i hg
        obtain rfl := Option.some.inj hn
        exact .callback o k hg.1 hg.2
      · simp at hn
  | socketActionReturn =>
      simp only [next] at hn
      split at hn
      · rename_i rest hs
        obtain rfl := Option.some.inj hn
        exact .socketActionReturn rest hs
      · simp at hn
  | readMessage =>
      simp only [next] at hn
      split at hn
      · rename_i rest hs
        split at hn
        · simp at hn
        · rename_i hm
          obtain rfl := Option.some.inj hn
          exact .readMessage rest hs hm
      · simp at hn
  | checkMultiInfoReturn =>
      simp only [next] at hn
      split at hn
      · rename_i rest hs
        split at hn
        · rename_i hm
          obtain rfl := Option.some.inj hn
          rw [show m.checkMultiInfo = m.libcurl .infoRead by unfold checkMultiInfo; rw [hm]]
          exact .checkMultiInfoReturn rest hs hm
        · simp at hn
      · simp at hn
  | pawnReturn result =>
      simp only [next] at hn
      split at hn
      · rename_i a q f data rest hs
        obtain rfl := Option.some.inj hn
        exact .completionReturn result a q f data rest hs
      · rename_i o c q expected rest hs
        obtain rfl := Option.some.inj hn
        exact .dataCallbackReturn result o c q expected rest hs
      · simp at hn
  | poll =>
      simp only [next] at hn
      split at hn
      · rename_i hg
        obtain rfl := Option.some.inj hn
        exact .poll hg.1 hg.2.1 hg.2.2
      · simp at hn
  | sweep order =>
      simp only [next] at hn
      split at hn
      · rename_i hg
        obtain rfl := Option.some.inj hn
        exact .sweep order hg.1 hg.2.1 hg.2.2
      · simp at hn
  | onAmxxDetach =>
      simp only [next] at hn
      split at hn
      · rename_i hg
        obtain rfl := Option.some.inj hn
        exact .onAmxxDetach hg.1 hg.2
      · simp at hn
  | drained timedOut order =>
      simp only [next] at hn
      split at hn
      · rename_i hg
        obtain rfl := Option.some.inj hn
        exact .drained timedOut order hg.1 hg.2.1 hg.2.2.1 hg.2.2.2
      · simp at hn
  | exit =>
      simp only [next] at hn
      split at hn
      · rename_i hg
        obtain rfl := Option.some.inj hn
        exact .exit hg.1 hg.2
      · simp at hn
  | teardown order =>
      simp only [next] at hn
      split at hn
      · rename_i hs
        exact .teardown order m' hs (teardown_tearsDown hn)
      · simp at hn

end AmxCurlController

end AmxxCurl
