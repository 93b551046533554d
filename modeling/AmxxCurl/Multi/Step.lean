/-
The machine `CurlMulti` runs in.

An action is one thing the environment does: libcurl calls a callback, the reactor
finishes a wait, the `io_context` dispatches a handler, libcurl or Pawn returns to
the handler on the stack, the kernel opens or closes a descriptor for somebody else.
The callbacks are enabled in every state, so they come in any order, for any fd and
any `what`, with or without a handler on the stack; that covers the calls libcurl
makes from inside `curl_multi_socket_action`, `curl_multi_add_handle` and
`curl_multi_remove_handle`.  Only one handler is ever on the stack: no code reachable
from a handler polls the `io_context`.
-/
import AmxxCurl.Multi.Defs
import AmxxCurl.Lib.Machine

namespace AmxxCurl

namespace CurlMulti

inductive Action
  /-- libcurl: `CurlSocketCallbackStatic`. -/
  | socketCallback (s : Fd) (what : CInt) (refusal : Kernel.Refusal) (oom : Option Dir)
  /-- libcurl: `CurlOpenSocketCallbackStatic`. -/
  | openSocketCallback (purpose : SockType) (family : Family) (reply : Option Fd)
  /-- libcurl: `CurlCloseSocketCallbackStatic`. -/
  | closeSocketCallback (s : Fd)
  /-- libcurl: `CurlTimerCallbackStatic`. -/
  | timerCallback (timeoutMs : Int)
  /-- The reactor finishes a pending wait. -/
  | complete (w : WaitId) (r : WaitResult)
  /-- The `io_context` runs the handler of a completed wait. -/
  | dispatch (w : WaitId)
  /-- The timer expires. -/
  | expire (t : Nat)
  /-- The `io_context` runs the handler of a timer wait. -/
  | dispatchTimer (t : Nat)
  /-- The `io_context` runs a task `CurlTimerCallback` posted. -/
  | runPosted
  /-- `curl_multi_socket_action` returns to the handler, having stored `running_handles_`. -/
  | socketActionReturn (running : Int)
  /-- `CheckMultiInfo` returns to the handler, which runs to its end. -/
  | checkMultiInfoReturn (oom : Option Dir)
  /-- A completion callback throws out of `CheckMultiInfo`; `Poll` catches it. -/
  | checkMultiInfoThrow
  /-- Somebody else in the process opens a descriptor: c-ares, an accept. -/
  | foreignOpen (s : Fd)
  /-- Somebody else closes one. -/
  | foreignClose (s : Fd)
  /-- `g_amxxcurl_detached` is set. -/
  | detach
  /-- `CurlMulti::Shutdown`. -/
  | shutdown
  deriving DecidableEq

/-- The catch in `AsioPoller::Poll`. -/
def pollCatch : CurlMulti × Except Exn Unit → CurlMulti
  | (m', .ok ()) => { m' with handler := none }
  | (m', .error _) => { m'.printUnlessDetached with handler := none }

/-- What an action does; `none` where it cannot happen. -/
def next (m : CurlMulti) : Action → Option CurlMulti
  | .socketCallback s what refusal oom => some (m.curlSocketCallbackStatic s what refusal oom).1
  | .openSocketCallback purpose family reply =>
      -- the kernel hands out a number that is not open
      if ∀ s, reply = some s → m.asio.kernel.files.lookup s = none then
        some (m.curlOpenSocketCallback purpose family reply).1
      else none
  | .closeSocketCallback s => some (m.curlCloseSocketCallback s)
  | .timerCallback t => some (m.curlTimerCallback t)
  | .complete w r => (m.asio.complete w r).map fun a => { m with asio := a }
  | .dispatch w =>
      let x := m.asio.waits.cell w
      match m.handler, x.status with
      | none, .completed r =>
          some (({ m with asio := m.asio.markDispatched w r }).asioSocketActionCallback
            w x.dir x.fd x.sd r)
      | _, _ => none
  | .expire t =>
      if (m.timer.cell t).status = .pending then
        some { m with timer := m.timer.modify t fun x => { x with status := .completed .ok } }
      else none
  | .dispatchTimer t =>
      match m.handler, (m.timer.cell t).status with
      | none, .completed r =>
          some (({ m with timer :=
            m.timer.modify t fun x => { x with status := .dispatched r } }).asioTimerCallback r)
      | _, _ => none
  | .runPosted =>
      if m.handler = none ∧ 0 < m.posted then
        some ({ m with posted := m.posted - 1 }.postedTask)
      else none
  | .socketActionReturn running =>
      match m.handler with
      | some (.socket dir s sd error .inSocketAction) =>
          some { m with
            runningHandles := running
            handler := some (.socket dir s sd error .inCheckMultiInfo) }
      | some (.timer .inSocketAction) =>
          some { m with runningHandles := running, handler := some (.timer .inCheckMultiInfo) }
      | _ => none
  | .checkMultiInfoReturn oom =>
      match m.handler with
      | some (.socket _ s sd error .inCheckMultiInfo) =>
          some (pollCatch (m.rearm s sd error oom))
      | some (.timer .inCheckMultiInfo) => some { m with handler := none }
      | _ => none
  | .checkMultiInfoThrow =>
      match m.handler with
      | some (.socket _ _ _ _ .inCheckMultiInfo) => some (pollCatch (m, .error .badAlloc))
      | some (.timer .inCheckMultiInfo) => some (pollCatch (m, .error .badAlloc))
      | _ => none
  | .foreignOpen s =>
      if m.asio.kernel.files.lookup s = none then
        some { m with asio := { m.asio with kernel := m.asio.kernel.socket s } }
      else none
  | .foreignClose s => some { m with asio := { m.asio with kernel := m.asio.kernel.close s } }
  | .detach => some { m with detached := true }
  | .shutdown => if m.handler = none then some m.shutdown else none

/-- `CurlMulti` and everything that can happen to it. -/
def machine : Machine CurlMulti Action := ⟨boot, next⟩

end CurlMulti

end AmxxCurl
