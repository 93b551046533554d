/-
The machine `AmxCurlController` runs in.

An action is one thing that happens to the module: a plugin is loaded or unloaded, Pawn
code calls a native, libcurl calls a data callback or returns to us, Pawn code returns,
the server runs a frame, detaches the module or exits.

Natives are called by Pawn code: by the server between frames, or from inside a
callback that is on the stack.  Data callbacks come from whatever libcurl function is
on the stack, for any easy handle there is.  The rest of the environment is as free:
what `curl_multi_add_handle` returns, when DONE is posted, the order a map is walked
in.  A forward id is one nobody holds; a plugin whose code is on the stack is not
unloaded.
-/
import AmxxCurl.Amx.Defs
import AmxxCurl.Lib.Machine

namespace AmxxCurl

namespace AmxCurlController

/-- The ten data callbacks, with the arguments the module looks at. -/
inductive Callback
  | write (chunk : List UInt8)
  | read
  | ioctl
  | seek
  | sockopt
  | progress
  | header (n : Nat)
  | debug
  | sslCtx
  | interleave (n : Nat)
  deriving DecidableEq

def callback (m : AmxCurlController) (o : ObjId) : Callback → AmxCurlController
  | .write chunk => m.writeCallback o chunk
  | .read => m.readCallback o
  | .ioctl => m.ioctlCallback o
  | .seek => m.seekCallback o
  | .sockopt => m.sockoptCallback o
  | .progress => m.progressCallback o
  | .header n => m.headerCallback o n
  | .debug => m.debugCallback o
  | .sslCtx => m.sslCtxCallback o
  | .interleave n => m.interleaveCallback o n

inductive Action
  /-- AMXX loads a plugin at `a`. -/
  | load (a : AmxPtr)
  /-- AMXX unloads the plugin at `a`. -/
  | unload (a : AmxPtr)
  /-- `curl_easy_init`, called by the plugin at `a`. -/
  | easyInit (a : AmxPtr) (reply : Option CurlPtr)
  /-- `curl_easy_setopt` of a callback option; libcurl answers `BindCallback` with `codes`. -/
  | setCallback (h : AmxCurlHandle) (c : Option CallbackOption) (reply : Option ForwardId)
      (codes : CurlCode × CurlCode)
  /-- `curl_easy_setopt` of any other. -/
  | setOption (h : AmxCurlHandle) (d : Option (CallbackOption × Int))
  | easyPerform (h : AmxCurlHandle) (found : Bool) (fun_ : Int) (dataLen : Int)
  | easyCleanup (h : AmxCurlHandle)
  | easyReset (h : AmxCurlHandle)
  /-- `curl_multi_add_handle` returns. -/
  | addReturn (ok : Bool)
  /-- `curl_multi_remove_handle` returns. -/
  | removeReturn (f : ForwardId)
  /-- libcurl is done with the transfer of `e`. -/
  | postDone (e : CurlPtr) (res : CurlCode)
  /-- libcurl calls a data callback. -/
  | callback (o : ObjId) (k : Callback)
  | socketActionReturn
  /-- `CheckMultiInfo` reads a message. -/
  | readMessage
  /-- It finds none left, and the handler returns. -/
  | checkMultiInfoReturn
  /-- Pawn code returns from `MF_ExecuteForward`. -/
  | pawnReturn (result : Int)
  /-- `AsioPoller::Poll` runs an asio handler. -/
  | poll
  | sweep (order : List AmxCurlHandle)
  | onAmxxDetach
  /-- The drain loop ends, all transfers completed or the time up. -/
  | drained (timedOut : Bool) (order : List AmxCurlHandle)
  /-- The process exits. -/
  | exit
  /-- The next step of whoever tears the module down. -/
  | teardown (order : List AmxCurlHandle)
  deriving DecidableEq

/-- Pawn code calls a native. -/
def Action.isNative : Action → Bool
  | .easyInit _ _ | .setCallback .. | .setOption _ _ => true
  | .easyPerform _ _ _ _ | .easyCleanup _ | .easyReset _ => true
  | _ => false

/-- The plugin whose code a frame is waiting for. -/
def Frame.plugin : Frame → Option PluginId
  | .completion _ q _ _ => some q
  | .dataCallback _ _ q _ => some q
  | _ => none

/-- Pawn code is in control. -/
def AtPawn (m : AmxCurlController) : Prop :=
  match m.stack with
  | [] => m.phase = .running ∨ m.phase = .detached
  | f :: _ => f.plugin.isSome

instance (m : AmxCurlController) : Decidable m.AtPawn := by
  unfold AtPawn
  split <;> infer_instance

/-- A libcurl function that may call data callbacks is in control. -/
def InLibcurl (m : AmxCurlController) : Prop :=
  match m.stack, m.phase with
  | .socketAction :: _, _ => True
  | .adding _ _ :: _, _ => True
  | .removing _ _ _ :: _, _ => True
  | [], .removing _ _ => True
  | [], .clearing _ _ => True
  | [], .shutdown _ => True
  | _, _ => False

instance (m : AmxCurlController) : Decidable m.InLibcurl := by
  unfold InLibcurl
  split <;> infer_instance

/-- The id of the forward `SetupAmxCallback` gives up before it registers. -/
def replaced (m : AmxCurlController) (h : AmxCurlHandle) (c : Option CallbackOption) :
    Option ForwardId :=
  (m.amxCurl.lookup h).bind fun o => c.bind fun c =>
    ((m.obj o).registeredCallbacks c).map Prod.fst

/-- `order` walks `amx_curl_`. -/
def Walks (m : AmxCurlController) (order : List AmxCurlHandle) : Prop :=
  order.Nodup ∧ order.toFinset = m.amxCurl.keys

instance (m : AmxCurlController) (order : List AmxCurlHandle) : Decidable (m.Walks order) :=
  inferInstanceAs (Decidable (_ ∧ _))

/-- One round of the loop of `RemoveAllTasks`. -/
def removeTransfer (m : AmxCurlController) (h : AmxCurlHandle) : AmxCurlController :=
  match m.amxCurl.lookup h with
  | none => m
  | some o =>
      if (m.obj o).isTransferInProgress then
        { m with curlMap := m.curlMap.erase (m.obj o).curl }.removeHandle o
      else m

/-- `amx_curl_` loses one of its entries. -/
def dropEntry (m : AmxCurlController) (h : AmxCurlHandle) : AmxCurlController :=
  match m.amxCurl.lookup h with
  | none => m
  | some o => { m with amxCurl := m.amxCurl.erase h }.destroyAmxCurl o

/-- `CurlMulti::Shutdown`. -/
def shutdown (m : AmxCurlController) : AmxCurlController :=
  if m.curlMulti then { m.libcurl .multiCleanup with curlMulti := false } else m

/-- The next step of `OnAmxxDetach` after its drain loop, of the guard or of the destructors. -/
def teardown (m : AmxCurlController) (order : List AmxCurlHandle) : Option AmxCurlController :=
  match m.phase with
  | .removing actor (h :: todo) => some { m.removeTransfer h with phase := .removing actor todo }
  | .removing actor [] =>
      if m.Walks order then some { m with phase := .clearing actor order } else none
  | .clearing actor (h :: todo) => some { m.dropEntry h with phase := .clearing actor todo }
  | .clearing .onAmxxDetach [] =>
      some { m with freeHandles := [], phase := .shutdown .onAmxxDetach }
  | .clearing .detachGuard [] =>
      if m.Walks order then
        some { m with freeHandles := [], phase := .clearing .destructor order }
      else none
  | .clearing .destructor [] => some { m with phase := .shutdown .destructor }
  | .shutdown .onAmxxDetach => some { m.shutdown with phase := .globalCleanup }
  | .shutdown _ => some { m.shutdown with phase := .gone }
  | .globalCleanup => some { m.libcurl .globalCleanup with phase := .detached }
  | .exiting =>
      if m.Walks order then
        if m.isDetached then some { m with phase := .clearing .destructor order }
        else some { m with isDetached := true, phase := .removing .detachGuard order }
      else none
  | _ => none

/-- What an action does; `none` where it cannot happen. -/
def next (m : AmxCurlController) : Action → Option AmxCurlController
  | .load a => if h : m.amxx.loaded a = none then some { m with amxx := m.amxx.load a h } else none
  | .unload a =>
      match m.amxx.loaded a with
      | none => none
      | some p =>
          if ∀ f ∈ m.stack, f.plugin ≠ some p then some { m with amxx := m.amxx.unload a }
          else none
  | .easyInit a reply =>
      match m.amxx.loaded a with
      | none => none
      | some p =>
          -- `curl_easy_init` returns a pointer nobody holds
          if m.AtPawn ∧ ∀ e ∈ reply, m.easies.lookup e = none then some (m.createCurl a p reply)
          else none
  | .setCallback h c reply codes =>
      if m.AtPawn ∧ ∀ f ∈ reply, m.amxx.forwards f = none ∨ m.replaced h c = some f then
        some (m.curlSetupAmxCallback h c reply codes)
      else none
  | .setOption h d => if m.AtPawn then some (m.curlSetOption h d) else none
  | .easyPerform h found fun_ dataLen =>
      if m.AtPawn then some (m.amxCurlEasyPerform h found fun_ dataLen) else none
  | .easyCleanup h => if m.AtPawn then some (m.removeTask h) else none
  | .easyReset h => if m.AtPawn then some (m.curlReset h) else none
  | .addReturn ok =>
      match m.stack with
      | .adding o p :: rest =>
          if ok → m.curlMulti ∧ m.attached.lookup (m.obj o).curl = none then
            some ({ m with stack := rest }.performAdded o p ok)
          else none
      | _ => none
  | .removeReturn f =>
      match m.stack with
      | .removing o p _ :: rest =>
          if m.amxx.forwards f = none then some ({ m with stack := rest }.performRemoved o p f)
          else none
      | _ => none
  | .postDone e res =>
      match m.attached.lookup e with
      | none => none
      | some p =>
          -- one DONE for each add
          if p ∉ m.posted then
            some { m with messages := m.messages ++ [(e, p, res)], posted := p :: m.posted }
          else none
  | .callback o k =>
      if m.InLibcurl ∧ m.easies.lookup (m.obj o).curl = some o then some (m.callback o k) else none
  | .socketActionReturn =>
      match m.stack with
      | .socketAction :: rest => some { m with stack := .checkMultiInfo :: rest }
      | _ => none
  | .readMessage =>
      match m.stack with
      | .checkMultiInfo :: _ => if m.messages = [] then none else some m.checkMultiInfo
      | _ => none
  | .checkMultiInfoReturn =>
      match m.stack with
      | .checkMultiInfo :: rest =>
          if m.messages = [] then some { m.checkMultiInfo with stack := rest } else none
      | _ => none
  | .pawnReturn result =>
      match m.stack with
      | .completion a q f data :: rest => some ({ m with stack := rest }.completionReturn a q f data)
      | .dataCallback o c _ expected :: rest =>
          some ({ m with stack := rest }.dataCallbackReturn o c expected result)
      | _ => none
  | .poll =>
      if m.stack = [] ∧ m.curlMulti ∧ (m.phase = .running ∨ m.phase = .draining) then
        some { m.libcurl .socketAction with stack := [.socketAction] }
      else none
  | .sweep order =>
      if m.stack = [] ∧ m.phase = .running ∧ m.Walks order then
        some (m.sweepDeferredCleanups order)
      else none
  | .onAmxxDetach =>
      if m.stack = [] ∧ m.phase = .running then
        some { (m.mf .unregModuleFrameFunc).tryInterruptAllTransfers with phase := .draining }
      else none
  | .drained timedOut order =>
      if m.stack = [] ∧ m.phase = .draining ∧ (m.isAllTransfersCompleted ∨ timedOut)
          ∧ m.Walks order then
        some { (if m.isAllTransfersCompleted then m else m.mf .printSrvConsole) with
          isDetached := true
          phase := .removing .onAmxxDetach order }
      else none
  | .exit =>
      if m.stack = [] ∧ (m.phase = .running ∨ m.phase = .detached) then
        some { m with phase := .exiting }
      else none
  | .teardown order => if m.stack = [] then m.teardown order else none

/-- The module and everything that can happen to it. -/
def machine : Machine AmxCurlController Action := ⟨boot, next⟩

end AmxCurlController

end AmxxCurl
