/-
`AmxCurlController`: the handles plugins work with, and the transfers behind them.

Each definition is one function of the manager, of `AmxCurl`, of `CurlCallbackAmx`
or of the natives, under its own name.  An `AmxCurl` object is numbered once, while
its `CURL*` and its handle number may be handed out again after it is destroyed.

libcurl runs our callbacks from inside its own functions, and AMXX runs Pawn code
from inside `MF_ExecuteForward`, which calls natives.  So a function with such a call
in it is two definitions with the machine in between, and `stack` holds a `Frame` for
each call that has not returned.

`log` is the history of the calls that leave the module and of what became of the
performs.  Ghost data, which no definition branches on, is the number of a perform,
the instance a handle was created by and the instance a forward was registered for.
-/
import AmxxCurl.Amx.Host
import AmxxCurl.Lib.Heap
import AmxxCurl.Lib.Table

namespace AmxxCurl

/-- A `CURL*`. -/
abbrev CurlPtr := Nat

/-- An `AmxCurl` object, from its construction to its destruction. -/
abbrev ObjId := Nat

/-- The number a plugin knows a handle by. -/
abbrev AmxCurlHandle := Int

/-- A cell array allocated by `amx_curl_easy_perform`. -/
abbrev DataId := Nat

/-- A call of `AmxCurl::Perform` that got as far as `curl_multi_add_handle`. -/
abbrev PerformId := Nat

/-- A `CURLcode`. -/
abbrev CurlCode := Int

/-- `CURLE_OK`. -/
def curleOk : CurlCode := 0

/-- The callback options `SetupAmxCallback` supports. -/
inductive CallbackOption
  | writeFunction
  | readFunction
  | ioctlFunction
  | seekFunction
  | sockoptFunction
  | progressFunction
  | headerFunction
  | debugFunction
  | sslCtxFunction
  | interleaveFunction
  deriving DecidableEq

/-- Every option, in the order `registered_callbacks_` is walked. -/
def CallbackOption.all : List CallbackOption :=
  [.writeFunction, .readFunction, .ioctlFunction, .seekFunction, .sockoptFunction,
    .progressFunction, .headerFunction, .debugFunction, .sslCtxFunction, .interleaveFunction]

/-- `CurlUtils::GetInterruptCodeForCurlCallback`, for the options above. -/
def interruptCode : CallbackOption → Int
  | .writeFunction => 0
  | .readFunction => 0x10000000
  | .ioctlFunction => 2
  | .seekFunction => 1
  | .sockoptFunction => 1
  | .progressFunction => 1
  | .headerFunction => 0
  | .debugFunction => 1
  | .sslCtxFunction => 52
  | .interleaveFunction => 0

/-- `class AmxCurl` with its `CurlCallbackAmx`. -/
structure AmxCurl where
  amx : AmxPtr
  /-- The instance that was at `amx` when the handle was created. -/
  creator : PluginId
  curl : CurlPtr
  amxCallbackFun : Int
  taskHandle : AmxCurlHandle
  amxCallbackData : Option DataId
  amxCallbackDataLen : Int
  isTransferInProgress : Bool
  cleanupDeferred : Bool
  /-- `registered_callbacks_`: the forward, and the instance it was registered for. -/
  registeredCallbacks : CallbackOption → Option (ForwardId × PluginId)
  /-- `data_`, by the callback option its data option belongs to. -/
  data : CallbackOption → Option Int
  responseBody : List UInt8
  interrupt : Bool

/-- `AmxCurl::AmxCurl`. -/
def AmxCurl.new (amx : AmxPtr) (creator : PluginId) (curl : CurlPtr) : AmxCurl where
  amx := amx
  creator := creator
  curl := curl
  amxCallbackFun := 0
  taskHandle := 0
  amxCallbackData := none
  amxCallbackDataLen := 0
  isTransferInProgress := false
  cleanupDeferred := false
  registeredCallbacks := fun _ => none
  data := fun _ => none
  responseBody := []
  interrupt := false

/-- The forwards an object has registered. -/
def AmxCurl.forwards (x : AmxCurl) : List (ForwardId × PluginId) :=
  CallbackOption.all.filterMap x.registeredCallbacks

/-- What a completion is called with. -/
structure PerformArgs where
  fun_ : Int
  task : AmxCurlHandle
  data : Option DataId
  dataLen : Int
  deriving DecidableEq

namespace AmxCurlController

/-- The libcurl functions the module calls, on the easy handle of an object. -/
inductive LibCall
  | easyInit (o : ObjId)
  | setopt (o : ObjId)
  | easyReset (o : ObjId)
  | easyCleanup (o : ObjId)
  /-- `curl_multi_add_handle` is called. -/
  | addHandle (o : ObjId)
  /-- It has returned; `ok` is `CURLM_OK`. -/
  | added (o : ObjId) (ok : Bool)
  | removeHandle (o : ObjId)
  | socketAction
  | infoRead
  | multiCleanup
  | globalCleanup
  deriving DecidableEq

/-- What a forward is registered or executed for. -/
inductive ForwardUser
  | option (o : ObjId) (c : CallbackOption)
  /-- An `OnPerformComplete`. -/
  | completion
  deriving DecidableEq

/-- The AMXX functions the module calls.  `live`: the instance meant is still loaded. -/
inductive MfCall
  | printSrvConsole
  | logError
  | unregModuleFrameFunc
  | findScriptByAmx
  | amxFindPublic (live : Bool)
  /-- For an option; `id` is what it returns, `none` for -1. -/
  | registerSPForwardByName (live : Bool) (o : ObjId) (c : CallbackOption) (id : Option ForwardId)
  /-- For a completion: who created the handle, who the forward is registered for, and its id. -/
  | registerSPForward (creator : PluginId) (target : Option PluginId) (id : ForwardId)
  | unregisterSPForward (live : Bool) (id : ForwardId)
  /-- Who created the handle, whose Pawn code runs, the id passed, and who passes it. -/
  | executeForward (creator : PluginId) (target : Option PluginId) (id : ForwardId)
      (user : ForwardUser)
  deriving DecidableEq

/-- The calls that leave the module, and the fate of the performs. -/
inductive Event
  | libcurl (c : LibCall)
  /-- An `MF_*` call, made with `g_amxxcurl_detached` as it was. -/
  | mf (c : MfCall) (detached : Bool)
  /-- `curl_multi_add_handle` returned `CURLM_OK`. -/
  | accepted (p : PerformId)
  /-- `OnPerformComplete` ran for `p`, with these arguments. -/
  | completed (p : PerformId) (args : PerformArgs)
  /-- `delete[]` of a cell array. -/
  | deleted (d : DataId)
  /-- A data callback returned to libcurl. -/
  | returned (o : ObjId) (c : CallbackOption) (value : Int)
  deriving DecidableEq

/-- The calls on the stack that may call back. -/
inductive Frame
  /-- An asio handler, inside `curl_multi_socket_action`. -/
  | socketAction
  /-- The same handler, in the loop of `CheckMultiInfo`. -/
  | checkMultiInfo
  /-- `AmxCurl::Perform`, inside `curl_multi_add_handle`. -/
  | adding (o : ObjId) (p : PerformId)
  /-- `AmxCurl::OnPerformComplete`, inside `curl_multi_remove_handle`. -/
  | removing (o : ObjId) (p : PerformId) (res : CurlCode)
  /-- `AmxCurl::OnPerformComplete`, inside `MF_ExecuteForward`. -/
  | completion (amx : AmxPtr) (plugin : PluginId) (forward : ForwardId) (data : Option DataId)
  /-- A data callback, inside `MF_ExecuteForward`; `expected` is the length it was given. -/
  | dataCallback (o : ObjId) (c : CallbackOption) (plugin : PluginId) (expected : Int)
  deriving DecidableEq

/-- Who is tearing the module down. -/
inductive Actor
  | onAmxxDetach
  | detachGuard
  | destructor
  deriving DecidableEq

/-- How far the life of the module has got. -/
inductive Phase
  | running
  /-- The drain loop of `OnAmxxDetach`. -/
  | draining
  /-- The loop of `RemoveAllTasks`, with the handles it has yet to visit. -/
  | removing (actor : Actor) (todo : List AmxCurlHandle)
  /-- `amx_curl_` is being destroyed, with the entries still to go. -/
  | clearing (actor : Actor) (todo : List AmxCurlHandle)
  /-- `CurlMulti::Shutdown` comes next. -/
  | shutdown (actor : Actor)
  /-- `curl_global_cleanup` comes next. -/
  | globalCleanup
  /-- `OnAmxxDetach` has returned. -/
  | detached
  /-- The process exits; the atexit guard comes next. -/
  | exiting
  /-- The destructors are through. -/
  | gone
  deriving DecidableEq

end AmxCurlController

open AmxCurlController in
/-- `class AmxCurlController`: the manager, `CurlMulti` and libcurl's lists, and AMXX. -/
structure AmxCurlController where
  amxx : Amxx
  /-- `g_amxxcurl_detached`. -/
  isDetached : Bool
  objs : Heap AmxCurl
  amxCurl : Table AmxCurlHandle ObjId
  freeHandles : List AmxCurlHandle
  /-- `curl_multi_ != nullptr`. -/
  curlMulti : Bool
  /-- `curl_map_`: the object its completion is bound to. -/
  curlMap : Table CurlPtr ObjId
  /-- libcurl's easy handles, each with the object that owns it. -/
  easies : Table CurlPtr ObjId
  /-- The easy handles attached to the multi, each with the perform that added it. -/
  attached : Table CurlPtr PerformId
  /-- The DONE messages not read yet. -/
  messages : List (CurlPtr × PerformId × CurlCode)
  /-- The performs libcurl has posted DONE for. -/
  posted : List PerformId
  /-- The arguments of each perform. -/
  performs : Heap PerformArgs
  nextData : DataId
  stack : List Frame
  phase : Phase
  log : List Event

namespace AmxCurlController

/-- `OnAmxxAttach`. -/
def boot : AmxCurlController where
  amxx := .boot
  isDetached := false
  objs := .empty (.new 0 0 0)
  amxCurl := ∅
  freeHandles := []
  curlMulti := true
  curlMap := ∅
  easies := ∅
  attached := ∅
  messages := []
  posted := []
  performs := .empty ⟨0, 0, none, 0⟩
  nextData := 0
  stack := []
  phase := .running
  log := []

/-- An `AmxCurl` object. -/
abbrev obj (m : AmxCurlController) (o : ObjId) : AmxCurl := m.objs.cell o

def emit (m : AmxCurlController) (es : List Event) : AmxCurlController :=
  { m with log := m.log ++ es }

/-- A call into AMXX. -/
def mf (m : AmxCurlController) (c : MfCall) : AmxCurlController := m.emit [.mf c m.isDetached]

/-- A call into libcurl. -/
def libcurl (m : AmxCurlController) (c : LibCall) : AmxCurlController := m.emit [.libcurl c]

/-- `delete[]`. -/
def deleteData (m : AmxCurlController) (data : Option DataId) : AmxCurlController :=
  m.emit (data.toList.map .deleted)

/-- Assign to members of an object. -/
def setObj (m : AmxCurlController) (o : ObjId) (f : AmxCurl → AmxCurl) : AmxCurlController :=
  { m with objs := m.objs.modify o f }

/-- The instance `p` is loaded at `a`. -/
def isLive (m : AmxCurlController) (a : AmxPtr) (p : PluginId) : Bool :=
  m.amxx.loaded a == some p

/-! ### `CurlCallbackAmx` -/

/-- `CurlCallbackAmx::IsAmxValid`; with the flag set it asks nobody. -/
def isAmxValid (m : AmxCurlController) (o : ObjId) : AmxCurlController × Bool :=
  if m.isDetached then (m, false)
  else (m.mf .findScriptByAmx, (m.amxx.loaded (m.obj o).amx).isSome)

def unregisterSPForward (m : AmxCurlController) (a : AmxPtr) (f : ForwardId × PluginId) :
    AmxCurlController :=
  { m.mf (.unregisterSPForward (m.isLive a f.2) f.1) with amxx := m.amxx.unregister f.1 }

/-- `CurlCallbackAmx::ResetAmxCallbacks`. -/
def resetAmxCallbacks (m : AmxCurlController) (o : ObjId) : AmxCurlController :=
  let x := m.obj o
  let calls : List Event := x.forwards.map fun f =>
    .mf (.unregisterSPForward (m.isLive x.amx f.2) f.1) m.isDetached
  { m.emit calls with
    amxx := m.amxx.unregisterAll (x.forwards.map Prod.fst) }.setObj o fun x =>
    { x with registeredCallbacks := fun _ => none, responseBody := [], interrupt := false }

/-- The start of `SetupAmxCallback`: a forward the option has is unregistered and erased. -/
def dropForward (m : AmxCurlController) (o : ObjId) (c : CallbackOption) : AmxCurlController :=
  match (m.obj o).registeredCallbacks c with
  | none => m
  | some f => (m.unregisterSPForward (m.obj o).amx f).setObj o fun x =>
      { x with registeredCallbacks := Function.update x.registeredCallbacks c none }

/--
The rest of it: `reply` is what `MF_RegisterSPForwardByName` returns, `none` for -1.
Where no plugin lives at `amx_` the call is not defined; nothing is registered then.
-/
def registerForward (m : AmxCurlController) (o : ObjId) (c : CallbackOption)
    (reply : Option ForwardId) : AmxCurlController :=
  let x := m.obj o
  let called (id : Option ForwardId) : AmxCurlController :=
    m.mf (.registerSPForwardByName (m.isLive x.amx x.creator) o c id)
  match m.amxx.loaded x.amx, reply with
  | some q, some f =>
      (({ called (some f) with amxx := m.amxx.register x.amx f }).mf .printSrvConsole).setObj o
        fun x =>
          { x with registeredCallbacks := Function.update x.registeredCallbacks c (some (f, q)) }
  | _, _ => (called none).mf .printSrvConsole

/-- `CurlCallbackAmx::SetupAmxCallback`, for an option it supports. -/
def setupAmxCallback (m : AmxCurlController) (o : ObjId) (c : CallbackOption)
    (reply : Option ForwardId) : AmxCurlController :=
  (m.dropForward o c).registerForward o c reply

/-! ### The data callbacks -/

/-- `MF_ExecuteForward` of a data callback; Pawn code runs if the forward is registered. -/
def executeForward (m : AmxCurlController) (o : ObjId) (c : CallbackOption) (f : ForwardId)
    (expected : Int) : AmxCurlController :=
  let m := m.mf (.executeForward (m.obj o).creator (m.amxx.forwards f) f (.option o c))
  match m.amxx.forwards f with
  | some q => { m with stack := .dataCallback o c q expected :: m.stack }
  | none => m.emit [.returned o c 0]

/--
What all data callbacks but `WriteCallback` do.  `unregistered` is returned where no
forward is registered, `invalid` where the plugin is gone.
-/
def dataCallback (m : AmxCurlController) (o : ObjId) (c : CallbackOption)
    (unregistered invalid : Int) : AmxCurlController :=
  if (m.obj o).interrupt then m.emit [.returned o c (interruptCode c)]
  else
    match (m.obj o).registeredCallbacks c with
    | none => m.emit [.returned o c unregistered]
    | some f =>
        match m.isAmxValid o with
        | (m, false) =>
            (m.setObj o fun x => { x with interrupt := true }).emit [.returned o c invalid]
        | (m, true) => m.executeForward o c f.1 0

def readCallback (m : AmxCurlController) (o : ObjId) : AmxCurlController :=
  m.dataCallback o .readFunction 0 (interruptCode .readFunction)

def ioctlCallback (m : AmxCurlController) (o : ObjId) : AmxCurlController :=
  m.dataCallback o .ioctlFunction 0 2

def seekCallback (m : AmxCurlController) (o : ObjId) : AmxCurlController :=
  m.dataCallback o .seekFunction 2 1

def sockoptCallback (m : AmxCurlController) (o : ObjId) : AmxCurlController :=
  m.dataCallback o .sockoptFunction 0 1

def progressCallback (m : AmxCurlController) (o : ObjId) : AmxCurlController :=
  m.dataCallback o .progressFunction 0 1

/-- `n` is `size * nitems`. -/
def headerCallback (m : AmxCurlController) (o : ObjId) (n : Nat) : AmxCurlController :=
  m.dataCallback o .headerFunction n (interruptCode .headerFunction)

def debugCallback (m : AmxCurlController) (o : ObjId) : AmxCurlController :=
  m.dataCallback o .debugFunction 0 0

def sslCtxCallback (m : AmxCurlController) (o : ObjId) : AmxCurlController :=
  m.dataCallback o .sslCtxFunction 0 42

/-- `n` is `size * nmemb`. -/
def interleaveCallback (m : AmxCurlController) (o : ObjId) (n : Nat) : AmxCurlController :=
  m.dataCallback o .interleaveFunction n (interruptCode .interleaveFunction)

/-- `MAX_RESPONSE_BODY`. -/
def maxResponseBody : Nat := 65536

/-- `(size < MAX_RESPONSE_BODY) ? MAX_RESPONSE_BODY - size : 0`. -/
def remaining (x : AmxCurl) : Nat := maxResponseBody - x.responseBody.length

/-- `WriteCallback` without a forward: the chunk goes to the captured body. -/
def captureBody (m : AmxCurlController) (o : ObjId) (chunk : List UInt8) : AmxCurlController :=
  if (m.obj o).responseBody.length + chunk.length > maxResponseBody then
    if remaining (m.obj o) > 0 then
      (m.setObj o fun x =>
        { x with responseBody := x.responseBody ++ chunk.take (remaining x) }).mf .printSrvConsole
    else m
  else m.setObj o fun x => { x with responseBody := x.responseBody ++ chunk }

/-- `CurlCallbackAmx::WriteCallback`; the chunk has `size * nmemb` bytes. -/
def writeCallback (m : AmxCurlController) (o : ObjId) (chunk : List UInt8) : AmxCurlController :=
  if (m.obj o).interrupt then m.emit [.returned o .writeFunction (interruptCode .writeFunction)]
  else
    match (m.obj o).registeredCallbacks .writeFunction with
    | none => (m.captureBody o chunk).emit [.returned o .writeFunction chunk.length]
    | some f =>
        match m.isAmxValid o with
        | (m, false) =>
            (m.setObj o fun x => { x with interrupt := true }).emit
              [.returned o .writeFunction (interruptCode .writeFunction)]
        | (m, true) => m.executeForward o .writeFunction f.1 chunk.length

/-- A data callback after its Pawn code has returned `result`. -/
def dataCallbackReturn (m : AmxCurlController) (o : ObjId) (c : CallbackOption)
    (expected result : Int) : AmxCurlController :=
  let m :=
    if c = .writeFunction ∧ result ≠ expected ∧ result ≠ 0 then m.mf .printSrvConsole else m
  m.emit [.returned o c result]

/-! ### Handles -/

/-- `while (amx_curl_.count(handle) != 0) handle++`, at most `size()` times. -/
def firstUnused (t : Table AmxCurlHandle ObjId) : Nat → AmxCurlHandle → AmxCurlHandle
  | 0, h => h
  | n + 1, h => if (t.lookup h).isSome then firstUnused t n (h + 1) else h

/-- `AmxCurlManager::GetCurlHandle`, with what it leaves of `free_handles_`. -/
def getCurlHandle (m : AmxCurlController) : AmxCurlHandle × List AmxCurlHandle :=
  match m.freeHandles with
  | h :: rest => (h, rest)
  | [] => (firstUnused m.amxCurl m.amxCurl.keys.card (m.amxCurl.keys.card + 1), [])

/-- `AmxCurl::~AmxCurl`: the data, then `curl_`, then the `CurlCallbackAmx`. -/
def destroyAmxCurl (m : AmxCurlController) (o : ObjId) : AmxCurlController :=
  let m := m.deleteData (m.obj o).amxCallbackData
  let m := { m.libcurl (.easyCleanup o) with easies := m.easies.erase (m.obj o).curl }
  match m.isAmxValid o with
  | (m, true) => m.resetAmxCallbacks o
  | (m, false) => m.setObj o fun x =>
      { x with registeredCallbacks := fun _ => none, responseBody := [] }

/-- `Curl::BindCallback`: a code for the data option that is not `CURLE_OK` ends it. -/
def bindCallback (o : ObjId) (dataCode : CurlCode) : List Event :=
  if dataCode = curleOk then [.libcurl (.setopt o), .libcurl (.setopt o)]
  else [.libcurl (.setopt o)]

/--
`AmxCurlManager::CreateCurl` for the plugin `p` at `a`; `reply` is what `curl_easy_init`
returns.  Without a handle the number is lost and the native returns 0; the
`CurlCallbackAmx` is destroyed on the way out, and has nothing to unregister.
-/
def createCurl (m : AmxCurlController) (a : AmxPtr) (p : PluginId) (reply : Option CurlPtr) :
    AmxCurlController :=
  let (h, free) := m.getCurlHandle
  let m := { m with freeHandles := free }
  match reply with
  | none => if m.isDetached then m else m.mf .findScriptByAmx
  | some e =>
      let o := m.objs.next
      let m := { m with
        objs := m.objs.alloc (.new a p e)
        easies := m.easies.insert e o }.emit (.libcurl (.easyInit o) :: bindCallback o curleOk)
      match m.amxCurl.lookup h with
      | some _ => m.destroyAmxCurl o
      | none => { m with amxCurl := m.amxCurl.insert h o }

/-- `AmxCurlManager::RemoveTask`. -/
def removeTask (m : AmxCurlController) (h : AmxCurlHandle) : AmxCurlController :=
  match m.amxCurl.lookup h with
  | none => m.mf .logError
  | some o =>
      if (m.obj o).isTransferInProgress then
        (m.mf .printSrvConsole).setObj o fun x =>
          { x with cleanupDeferred := true, interrupt := true }
      else
        { m with
          amxCurl := m.amxCurl.erase h
          freeHandles := m.freeHandles ++ [h] }.destroyAmxCurl o

/--
`AmxCurlManager::CurlSetupAmxCallback`, and what the native catches of it: an unsupported
option, `none`, throws, and so does `BindCallback` if one of its codes is not `CURLE_OK`.
-/
def curlSetupAmxCallback (m : AmxCurlController) (h : AmxCurlHandle) (c : Option CallbackOption)
    (reply : Option ForwardId) (codes : CurlCode × CurlCode) : AmxCurlController :=
  match m.amxCurl.lookup h with
  | none => m.mf .logError
  | some o =>
      match c with
      | none => m.mf .logError
      | some c =>
          let m := (m.setupAmxCallback o c reply).emit (bindCallback o codes.1)
          if codes = (curleOk, curleOk) then m else m.mf .logError

/-- `AmxCurlManager::CurlSetOption`; a data option, with its value, goes to `SetData`. -/
def curlSetOption (m : AmxCurlController) (h : AmxCurlHandle) (d : Option (CallbackOption × Int)) :
    AmxCurlController :=
  match m.amxCurl.lookup h with
  | none => m.mf .logError
  | some o =>
      match d with
      | some (c, v) => m.setObj o fun x => { x with data := Function.update x.data c (some v) }
      | none => m.libcurl (.setopt o)

/-- `AmxCurlManager::CurlReset`. -/
def curlReset (m : AmxCurlController) (h : AmxCurlHandle) : AmxCurlController :=
  match m.amxCurl.lookup h with
  | none => m.mf .logError
  | some o =>
      if (m.obj o).isTransferInProgress then m.mf .printSrvConsole
      else (m.resetAmxCallbacks o).emit (.libcurl (.easyReset o) :: bindCallback o curleOk)

/-- One round of `AmxCurlManager::SweepDeferredCleanups`. -/
def sweepOne (m : AmxCurlController) (h : AmxCurlHandle) : AmxCurlController :=
  match m.amxCurl.lookup h with
  | none => m
  | some o =>
      if (m.obj o).cleanupDeferred && !(m.obj o).isTransferInProgress then
        { m with
          amxCurl := m.amxCurl.erase h
          freeHandles := m.freeHandles ++ [h] }.destroyAmxCurl o
      else m

/-- `AmxCurlManager::SweepDeferredCleanups`, in the order the map is walked. -/
def sweepDeferredCleanups (m : AmxCurlController) (order : List AmxCurlHandle) :
    AmxCurlController :=
  order.foldl sweepOne m

/-- `AmxCurlManager::TryInterruptAllTransfers`; no object outside the map is read again. -/
def tryInterruptAllTransfers (m : AmxCurlController) : AmxCurlController :=
  { m with objs := m.objs.map fun x => { x with interrupt := true } }

/-- `AmxCurlManager::IsAllTransfersCompleted`. -/
def isAllTransfersCompleted (m : AmxCurlController) : Bool :=
  decide (∀ h ∈ m.amxCurl.keys, ∀ o ∈ m.amxCurl.lookup h, (m.obj o).isTransferInProgress = false)

/-! ### Performing -/

/-- `CurlMulti::AddCurl`, up to the return of `curl_multi_add_handle`. -/
def addCurl (m : AmxCurlController) (o : ObjId) (args : PerformArgs) : AmxCurlController :=
  let e := (m.obj o).curl
  { m with
    curlMap := if (m.curlMap.lookup e).isSome then m.curlMap else m.curlMap.insert e o
    performs := m.performs.alloc args
    stack := .adding o m.performs.next :: m.stack }.emit
      [.libcurl (.setopt o), .libcurl (.setopt o), .libcurl (.setopt o), .libcurl (.setopt o),
        .libcurl (.addHandle o)]

/--
`AmxCurl::Perform`, up to the same point.  `MF_AmxFindPublic` writes its result whether
it has found the public or not.
-/
def perform (m : AmxCurlController) (o : ObjId) (task : AmxCurlHandle) (found : Bool) (fun_ : Int)
    (data : Option DataId) (dataLen : Int) : AmxCurlController :=
  let x := m.obj o
  let m := (m.mf (.amxFindPublic (m.isLive x.amx x.creator))).setObj o fun x =>
    { x with amxCallbackFun := fun_ }
  if !found then (m.deleteData data).mf .logError
  else
    ((m.deleteData x.amxCallbackData).setObj o fun x =>
      { x with
        amxCallbackData := data
        amxCallbackDataLen := dataLen
        taskHandle := task
        isTransferInProgress := true }).addCurl o ⟨fun_, task, data, dataLen⟩

/-- `AmxCurlManager::CurlPerformTask`. -/
def curlPerformTask (m : AmxCurlController) (h : AmxCurlHandle) (found : Bool) (fun_ : Int)
    (data : Option DataId) (dataLen : Int) : AmxCurlController :=
  match m.amxCurl.lookup h with
  | none => (m.deleteData data).mf .logError
  | some o =>
      if (m.obj o).isTransferInProgress then (m.mf .printSrvConsole).deleteData data
      else m.perform o h found fun_ data dataLen

/-- `amx_curl_easy_perform`. -/
def amxCurlEasyPerform (m : AmxCurlController) (h : AmxCurlHandle) (found : Bool) (fun_ : Int)
    (dataLen : Int) : AmxCurlController :=
  if dataLen > 0 then
    { m with nextData := m.nextData + 1 }.curlPerformTask h found fun_ (some m.nextData) dataLen
  else m.curlPerformTask h found fun_ none dataLen

/-- `AddCurl` and `Perform` after `curl_multi_add_handle` has returned; `ok` is `CURLM_OK`. -/
def performAdded (m : AmxCurlController) (o : ObjId) (p : PerformId) (ok : Bool) :
    AmxCurlController :=
  let x := m.obj o
  if ok then
    ({ m with attached := m.attached.insert x.curl p }.emit
      [.libcurl (.added o true), .accepted p]).setObj o fun x => { x with responseBody := [] }
  else
    (({ (m.libcurl (.added o false)).mf .printSrvConsole with
        curlMap := m.curlMap.erase x.curl }).deleteData x.amxCallbackData).setObj o fun x =>
      { x with
        isTransferInProgress := false
        amxCallbackData := none
        amxCallbackDataLen := 0 }

/-! ### Completing -/

/-- `CurlMulti::RemoveCurl`, once `curl_multi_remove_handle` has returned. -/
def removeHandle (m : AmxCurlController) (o : ObjId) : AmxCurlController :=
  let e := (m.obj o).curl
  { m.libcurl (.removeHandle o) with
    attached := m.attached.erase e
    messages := m.messages.filter fun msg => msg.1 != e }

/-- `AmxCurl::OnPerformComplete`, up to the return of `curl_multi_remove_handle`. -/
def onPerformComplete (m : AmxCurlController) (o : ObjId) (p : PerformId) (res : CurlCode) :
    AmxCurlController :=
  { m with
    curlMap := m.curlMap.erase (m.obj o).curl
    stack := .removing o p res :: m.stack }

/--
`AmxCurl::OnPerformComplete` from there to `MF_ExecuteForward`; `f` is the id
`MF_RegisterSPForward` returns.
-/
def performRemoved (m : AmxCurlController) (o : ObjId) (p : PerformId) (f : ForwardId) :
    AmxCurlController :=
  let x := m.obj o
  let m := ((m.removeHandle o).setObj o fun x =>
    { x with
      isTransferInProgress := false
      amxCallbackData := none
      amxCallbackDataLen := 0 }).emit
    [.completed p ⟨x.amxCallbackFun, x.taskHandle, x.amxCallbackData, x.amxCallbackDataLen⟩]
  if m.isDetached then m.deleteData x.amxCallbackData
  else
    let m := m.mf .findScriptByAmx
    match m.amxx.loaded x.amx with
    | none => (m.mf .printSrvConsole).deleteData x.amxCallbackData
    | some q =>
        { (m.mf (.registerSPForward x.creator (some q) f)).mf
            (.executeForward x.creator (some q) f .completion) with
          amxx := m.amxx.register x.amx f
          stack := .completion x.amx q f x.amxCallbackData :: m.stack }

/-- `AmxCurl::OnPerformComplete` after the completion callback; the object may be gone. -/
def completionReturn (m : AmxCurlController) (a : AmxPtr) (q : PluginId) (f : ForwardId)
    (data : Option DataId) : AmxCurlController :=
  (m.deleteData data).unregisterSPForward a (f, q)

/-- One round of the loop of `CurlMulti::CheckMultiInfo`. -/
def checkMultiInfo (m : AmxCurlController) : AmxCurlController :=
  match m.messages with
  | [] => m.libcurl .infoRead
  | (e, p, res) :: rest =>
      let m := { m.libcurl .infoRead with messages := rest }
      match m.curlMap.lookup e with
      | none => m
      | some o => m.onPerformComplete o p res

end AmxCurlController

end AmxxCurl
