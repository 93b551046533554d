/-
`CurlMulti`: the socket and timer callbacks libcurl calls, and the asio handlers
that report back to it.

Each definition is one function of `curl_multi_class.cc` under its own name.  A
function that C++ exceptions can leave returns an `Except`: `async_wait` may run out
of memory (`oom` names the direction whose wait does) and `release()` throws on a
socket that is not open.

`curl_multi_socket_action` runs libcurl, which calls the callbacks back in any order
before it returns, and `CheckMultiInfo` runs Pawn code, which does the same.  So a
handler is two definitions with the machine in between: what runs before the call,
leaving a `Handler` that says what is on the stack, and what runs after it.

`log` is the history of the calls that leave the class: to libcurl, to `close(2)`
and to AMXX.
-/
import AmxxCurl.Asio.Socket
import Mathlib.Data.Finset.Basic

namespace AmxxCurl

/-- A C `int`, as `what` and `previous_action` are. -/
abbrev CInt := BitVec 32

def CURL_POLL_NONE : CInt := 0
def CURL_POLL_IN : CInt := 1
def CURL_POLL_OUT : CInt := 2
def CURL_POLL_INOUT : CInt := 3
def CURL_POLL_REMOVE : CInt := 4

/-- The `CURL_POLL_*` bit of a direction. -/
def Dir.bit : Dir → CInt
  | .pollIn => CURL_POLL_IN
  | .pollOut => CURL_POLL_OUT

/-- `act & CURL_POLL_IN`, `act & CURL_POLL_OUT`. -/
def wants (act : CInt) (dir : Dir) : Bool := act &&& dir.bit != 0

/-- `struct SocketData`. -/
structure SocketData where
  isAresSocket : Bool := false
  previousAction : CInt := CURL_POLL_NONE
  readArmed : Bool := false
  writeArmed : Bool := false
  deriving DecidableEq

namespace SocketData

def armed (d : SocketData) : Dir → Bool
  | .pollIn => d.readArmed
  | .pollOut => d.writeArmed

def setArmed (d : SocketData) (dir : Dir) (b : Bool) : SocketData :=
  match dir with
  | .pollIn => { d with readArmed := b }
  | .pollOut => { d with writeArmed := b }

end SocketData

/-- `CURL_CSELECT_*`, the readiness libcurl is told of. -/
inductive Select
  | selectIn
  | selectOut
  | selectErr
  deriving DecidableEq

/-- `dir == CURL_POLL_IN ? CURL_CSELECT_IN : CURL_CSELECT_OUT`. -/
def Dir.select : Dir → Select
  | .pollIn => .selectIn
  | .pollOut => .selectOut

/-- The exceptions that can leave the functions below. -/
inductive Exn
  /-- `std::bad_alloc` out of `async_wait`. -/
  | badAlloc
  /-- `asio::system_error` out of `release()`. -/
  | systemError
  deriving DecidableEq

/-- One wait of the `steady_timer`. -/
structure TimerWait where
  timeoutMs : Int
  status : WaitStatus
  deriving DecidableEq

/-- The calls that leave the class. -/
inductive Event
  /-- `curl_multi_socket_action(s, ev)`, from the handler of the wait `w`. -/
  | socketAction (w : WaitId) (s : Fd) (ev : Select)
  /-- `curl_multi_socket_action(CURL_SOCKET_TIMEOUT)`. -/
  | timeoutAction
  /-- `curl_multi_assign`. -/
  | assign (s : Fd) (p : Option SocketDataId)
  /-- `CurlOpenSocketCallback` gave libcurl the number `s` of a new file. -/
  | opened (s : Fd) (f : FileId)
  /-- The module closed the number `s`, which was this file. -/
  | closed (s : Fd) (f : FileId)
  /-- `MF_PrintSrvConsole`. -/
  | print
  /-- `curl_multi_cleanup`. -/
  | multiCleanup
  deriving DecidableEq

/-- How far a handler on the stack has got. -/
inductive Phase
  | inSocketAction
  | inCheckMultiInfo
  deriving DecidableEq

/-- The asio handler on the stack, with the arguments the rest of it needs. -/
inductive Handler
  /-- `AsioSocketActionCallback`; `error` is its `error` argument. -/
  | socket (dir : Dir) (s : Fd) (sd : SocketDataId) (error : Bool) (phase : Phase)
  /-- `AsioTimerCallback`, and the task `CurlTimerCallback` posts. -/
  | timer (phase : Phase)
  deriving DecidableEq

/-- `class CurlMulti`, with the poller and the objects it points to. -/
structure CurlMulti where
  /-- `curl_multi_ != nullptr`. -/
  curlMulti : Bool
  asio : Asio
  /-- The `SocketData` objects; shared pointers keep them past their map entry. -/
  socketData : Heap SocketData
  socketMap : Table Fd SockId
  socketDataMap : Table Fd SocketDataId
  removedSockets : Finset Fd
  runningHandles : Int
  timer : Heap TimerWait
  /-- Tasks `CurlTimerCallback` posted and `io_context` has not run yet. -/
  posted : Nat
  handler : Option Handler
  /-- `g_amxxcurl_detached`. -/
  detached : Bool
  log : List Event

namespace CurlMulti

/-- `CurlMulti::CurlMulti`. -/
def boot : CurlMulti where
  curlMulti := true
  asio := .boot
  socketData := .empty {}
  socketMap := ∅
  socketDataMap := ∅
  removedSockets := ∅
  runningHandles := 0
  timer := .empty ⟨0, .dispatched .ok⟩
  posted := 0
  handler := none
  detached := false
  log := []

def push (m : CurlMulti) (e : Event) : CurlMulti := { m with log := m.log ++ [e] }

/-- `MF_PrintSrvConsole` behind the check of `g_amxxcurl_detached`. -/
def printUnlessDetached (m : CurlMulti) : CurlMulti :=
  if m.detached then m else m.push .print

/-- The destructor of a socket object, with the file its `close(2)` closes. -/
def destroySocket (m : CurlMulti) (o : SockId) : CurlMulti :=
  let m' := { m with asio := m.asio.destroy o }
  match (m.asio.socks.cell o).native with
  | none => m'
  | some s =>
      match m.asio.kernel.files.lookup s with
      | none => m'
      | some f => m'.push (.closed s f)

/-! ### Arming -/

/-- One direction of `ArmWaits`; the flag is set after `async_wait` has not thrown. -/
def armDir (m : CurlMulti) (act : CInt) (s : Fd) (sd : SocketDataId) (o : SockId)
    (oom : Option Dir) (dir : Dir) : CurlMulti × Except Exn Unit :=
  if wants act dir && !(m.socketData.cell sd).armed dir then
    if oom = some dir then (m, .error .badAlloc)
    else
      ({ m with
          asio := m.asio.asyncWait dir s sd o
          socketData := m.socketData.modify sd fun d => d.setArmed dir true },
       .ok ())
  else (m, .ok ())

/-- `CurlMulti::ArmWaits`. -/
def armWaits (m : CurlMulti) (act : CInt) (s : Fd) (sd : SocketDataId) (o : SockId)
    (oom : Option Dir) : CurlMulti × Except Exn Unit :=
  match m.armDir act s sd o oom .pollIn with
  | (m', .error e) => (m', .error e)
  | (m', .ok ()) => m'.armDir act s sd o oom .pollOut

/-- `CurlMulti::SetSock`. -/
def setSock (m : CurlMulti) (act : CInt) (s : Fd) (sd : SocketDataId) (oom : Option Dir) :
    CurlMulti × Except Exn Unit :=
  if !m.curlMulti then (m, .ok ())
  else
    match m.socketMap.lookup s with
    | none => (m, .ok ())
    | some o =>
        match m.armWaits act s sd o oom with
        | (m', .error e) => (m', .error e)
        | (m', .ok ()) =>
            ({ m' with
                socketData := m'.socketData.modify sd fun d => { d with previousAction := act } },
             .ok ())

/-! ### The callbacks libcurl calls -/

/-- The `CURL_POLL_REMOVE` branch of `CurlSocketCallback`. -/
def removeSocket (m : CurlMulti) (s : Fd) (sd : SocketDataId) : CurlMulti × Except Exn Unit :=
  let untrack (m : CurlMulti) : CurlMulti :=
    { m with
      removedSockets := insert s m.removedSockets
      socketDataMap := m.socketDataMap.erase s }.push (.assign s none)
  match m.socketMap.lookup s with
  | none => (untrack m, .ok ())
  | some o =>
      if (m.socketData.cell sd).isAresSocket then
        match m.asio.release o with
        | none => (m, .error .systemError)
        | some a =>
            -- erasing the entry destroys an object that holds no number any more
            (untrack { m with asio := a, socketMap := m.socketMap.erase s }, .ok ())
      else (untrack { m with asio := m.asio.cancel o }, .ok ())

/--
The first sight of a socket: a new `SocketData`, and for a number that is not in
`socket_map_` an asio socket wrapped around it.  `none` is the return on `wrap_ec`,
which leaves the maps as they were.
-/
def addSocket (m : CurlMulti) (s : Fd) (refusal : Kernel.Refusal) :
    CurlMulti × Option SocketDataId :=
  let sd := m.socketData.next
  match m.socketMap.lookup s with
  | some _ =>
      ({ m with
          socketData := m.socketData.alloc {}
          socketDataMap := m.socketDataMap.insert s sd }.push (.assign s (some sd)),
       some sd)
  | none =>
      let m' := { m with socketData := m.socketData.alloc { isAresSocket := true } }
      match m.asio.assignSocket s refusal with
      | none => (m'.printUnlessDetached.push (.assign s none), none)
      | some (a, o) =>
          ({ m' with
              asio := a
              socketMap := m.socketMap.insert s o
              socketDataMap := m.socketDataMap.insert s sd }.push (.assign s (some sd)),
           some sd)

/-- `CurlMulti::CurlSocketCallback`. -/
def curlSocketCallback (m : CurlMulti) (s : Fd) (what : CInt) (refusal : Kernel.Refusal)
    (oom : Option Dir) : CurlMulti × Except Exn Unit :=
  if what = CURL_POLL_REMOVE then
    match m.socketDataMap.lookup s with
    | none => (m, .ok ())
    | some sd => m.removeSocket s sd
  else
    let request (m : CurlMulti) (sd : SocketDataId) : CurlMulti × Except Exn Unit :=
      if what = CURL_POLL_NONE then (m, .ok ()) else m.setSock what s sd oom
    match m.socketDataMap.lookup s with
    | some sd => request m sd
    | none =>
        match m.addSocket s refusal with
        | (m', none) => (m', .ok ())
        | (m', some sd) => request m' sd

/-- `CurlSocketCallbackStatic`: no exception reaches libcurl; the result is 0 or -1. -/
def curlSocketCallbackStatic (m : CurlMulti) (s : Fd) (what : CInt) (refusal : Kernel.Refusal)
    (oom : Option Dir) : CurlMulti × Int :=
  match m.curlSocketCallback s what refusal oom with
  | (m', .ok ()) => (m', 0)
  | (m', .error _) => (m'.printUnlessDetached, -1)

/-- `curlsocktype`. -/
inductive SockType
  | ipcxn
  | accept
  deriving DecidableEq

/-- `address->family`, as far as the callback tells families apart. -/
inductive Family
  | inet
  | inet6
  | other
  deriving DecidableEq

/-- `socket_map_.emplace`: on a taken key the new socket dies with its temporary. -/
def emplaceSocket (m : CurlMulti) (s : Fd) (o : SockId) : CurlMulti :=
  match m.socketMap.lookup s with
  | some _ => m.destroySocket o
  | none => { m with socketMap := m.socketMap.insert s o }

/--
The eviction of a stale entry: the socket object is released, both entries go.  An
exception out of `release()` destroys the new socket `o` on its way.
-/
def evictStale (m : CurlMulti) (s : Fd) (o : SockId) : CurlMulti × Except Exn Unit :=
  match m.socketMap.lookup s with
  | none => (m, .ok ())
  | some stale =>
      match m.asio.release stale with
      | none => (m.destroySocket o, .error .systemError)
      | some a =>
          ({ m with
              asio := a
              socketMap := m.socketMap.erase s
              socketDataMap := m.socketDataMap.erase s }.printUnlessDetached, .ok ())

/--
`CurlMulti::CurlOpenSocketCallback`.  `reply` is the number the kernel hands out, or
`none` where `tcp_socket.open` sets `ec`.
-/
def curlOpenSocketCallback (m : CurlMulti) (purpose : SockType) (family : Family)
    (reply : Option Fd) : CurlMulti × Except Exn Fd :=
  if purpose = .ipcxn ∧ (family = .inet ∨ family = .inet6) then
    match reply with
    | none => (m, .ok curlSocketBad)
    | some s =>
        match m.asio.openSocket s with
        | none => (m, .ok curlSocketBad)
        | some (a, o) =>
            match ({ m with asio := a } : CurlMulti).evictStale s o with
            | (m', .error e) => (m', .error e)
            | (m', .ok ()) =>
                ((m'.emplaceSocket s o).push (.opened s m.asio.kernel.nextFile), .ok s)
  else (m, .ok curlSocketBad)

/-- `CurlMulti::CurlCloseSocketCallback`. -/
def curlCloseSocketCallback (m : CurlMulti) (s : Fd) : CurlMulti :=
  let m' :=
    match m.socketMap.lookup s with
    | none => m
    | some o => { m.destroySocket o with socketMap := m.socketMap.erase s }
  { m' with socketDataMap := m'.socketDataMap.erase s }

/-- `timer.cancel()`: waits that have not expired are aborted. -/
def cancelTimer (m : CurlMulti) : CurlMulti :=
  { m with
    timer := m.timer.map fun t =>
      if t.status = .pending then { t with status := .completed .aborted } else t }

/-- `CurlMulti::CurlTimerCallback`. -/
def curlTimerCallback (m : CurlMulti) (timeoutMs : Int) : CurlMulti :=
  let m' := m.cancelTimer
  if timeoutMs > 0 then { m' with timer := m'.timer.alloc ⟨timeoutMs, .pending⟩ }
  else if timeoutMs = 0 then { m' with posted := m'.posted + 1 }
  else m'

/-! ### The asio handlers -/

/--
`AsioSocketActionCallback` up to its call of `curl_multi_socket_action`: the flag is
cleared before any early return, and every early return leaves no handler behind.
-/
def asioSocketActionCallback (m : CurlMulti) (w : WaitId) (dir : Dir) (s : Fd)
    (sd : SocketDataId) (r : WaitResult) : CurlMulti :=
  let m := { m with socketData := m.socketData.modify sd fun d => d.setArmed dir false }
  if !m.curlMulti then m
  else if r = .aborted then m
  else if m.socketMap.lookup s = none then m
  else if m.socketDataMap.lookup s ≠ some sd then m
  else
    let ev := if r = .error then .selectErr else dir.select
    { m with
      removedSockets := ∅
      handler := some (.socket dir s sd (decide (r = WaitResult.error)) .inSocketAction) }.push
      (.socketAction w s ev)

/-- What follows `CheckMultiInfo` in `AsioSocketActionCallback`. -/
def rearm (m : CurlMulti) (s : Fd) (sd : SocketDataId) (error : Bool) (oom : Option Dir) :
    CurlMulti × Except Exn Unit :=
  let m := if m.runningHandles ≤ 0 then m.cancelTimer else m
  match m.socketMap.lookup s with
  | none => (m, .ok ())
  | some o =>
      if !error ∧ s ∉ m.removedSockets ∧ (m.socketDataMap.lookup s).isSome then
        m.armWaits (m.socketData.cell sd).previousAction s sd o oom
      else (m, .ok ())

/-- `AsioTimerCallback` up to its call of `curl_multi_socket_action`. -/
def asioTimerCallback (m : CurlMulti) (r : WaitResult) : CurlMulti :=
  if r ≠ .ok then m
  else if !m.curlMulti then m
  else { m with handler := some (.timer .inSocketAction) }.push .timeoutAction

/-- The task posted by `CurlTimerCallback`, up to the same call. -/
def postedTask (m : CurlMulti) : CurlMulti :=
  if !m.curlMulti then m
  else { m with handler := some (.timer .inSocketAction) }.push .timeoutAction

/-- `CurlMulti::Shutdown`. -/
def shutdown (m : CurlMulti) : CurlMulti :=
  if m.curlMulti then { m.push .multiCleanup with curlMulti := false } else m

end CurlMulti

end AmxxCurl
