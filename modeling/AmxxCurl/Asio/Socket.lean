/-
asio's TCP sockets and their waits, as vendored.

A `tcp::socket` holds a native number and a pointer to the reactor's descriptor
state.  `open` makes a new file and registers it; `assign` adopts a number that is
already open and marks it `possible_dup`; `release` gives the number back without
closing it and deregisters with `EPOLL_CTL_DEL`; the destructor closes the number.
Moving a socket moves these two fields, so a `SockId` names the object the fields
live in, wherever the map keeps it.

`async_wait` starts a wait bound to a completion handler.  The reactor may finish a
pending wait at any moment with readiness or an error.  It finishes one with
`operation_aborted` only after its socket was cancelled, released or destroyed, and
that is what the `cancelled` mark records: the three operations set it on whatever
they find pending, and a wait that has already completed keeps its result.
-/
import AmxxCurl.Asio.Kernel
import AmxxCurl.Lib.Heap

namespace AmxxCurl

abbrev SockId := Nat
abbrev WaitId := Nat

/-- A `SocketData` object; `CurlMulti` allocates them, the wait's handler holds one. -/
abbrev SocketDataId := Nat

/-- The two directions a wait can be armed for: `CURL_POLL_IN` and `CURL_POLL_OUT`. -/
inductive Dir
  | pollIn
  | pollOut
  deriving DecidableEq

/-- `reactive_socket_service_base::base_implementation_type`. -/
structure TcpSocket where
  /-- `socket_`; `none` is `invalid_socket`. -/
  native : Option Fd
  /-- `reactor_data_`. -/
  desc : Option DescId
  /-- `socket_ops::possible_dup`, set by `assign`. -/
  possibleDup : Bool
  deriving DecidableEq

/-- `construct(impl)`: no native socket. -/
def TcpSocket.closed : TcpSocket := ⟨none, none, false⟩

/-- `epoll_reactor::descriptor_state`. -/
structure DescriptorState where
  /-- `registered_events_ != 0`. -/
  registered : Bool
  /-- `shutdown_`. -/
  shutdown : Bool
  deriving DecidableEq

/-- The `error_code` a wait handler receives. -/
inductive WaitResult
  | ok
  | error
  | aborted
  deriving DecidableEq

/-- Where a wait is on its way from `async_wait` to its handler. -/
inductive WaitStatus
  | pending
  /-- Queued in the `io_context` with its result, not yet dispatched. -/
  | completed (r : WaitResult)
  | dispatched (r : WaitResult)
  deriving DecidableEq

/-- A wait and the arguments its handler is bound to. -/
structure Wait where
  dir : Dir
  fd : Fd
  sd : SocketDataId
  sock : SockId
  cancelled : Bool
  status : WaitStatus
  deriving DecidableEq

/-- Pending, or completed and not yet dispatched. -/
def Wait.outstanding (w : Wait) : Bool :=
  match w.status with
  | .dispatched _ => false
  | _ => true

/-- The reactor, its sockets and every wait ever started. -/
structure Asio where
  kernel : Kernel
  descs : Heap DescriptorState
  socks : Heap TcpSocket
  waits : Heap Wait
  /-- A socket points to a descriptor state that exists. -/
  desc_lt : ∀ o d, (socks.cell o).desc = some d → d < descs.next

namespace Asio

def boot : Asio where
  kernel := .boot
  descs := .empty ⟨false, true⟩
  socks := .empty .closed
  waits := .empty ⟨.pollIn, curlSocketBad, 0, 0, false, .dispatched .ok⟩
  desc_lt := by intro o d h; simp [Heap.empty, TcpSocket.closed] at h

/-- A new socket object on a registered number. -/
def newSocket (a : Asio) (s : Fd) (k : Kernel) (registered possibleDup : Bool) : Asio × SockId :=
  ({ a with
      kernel := k
      descs := a.descs.alloc ⟨registered, false⟩
      socks := a.socks.alloc ⟨some s, some a.descs.next, possibleDup⟩
      desc_lt := by
        intro o d h
        rw [Heap.alloc_cell] at h
        split at h
        · obtain rfl := Option.some.inj h
          exact Nat.lt_succ_self _
        · exact Nat.lt_succ_of_lt (a.desc_lt o d h) },
   a.socks.next)

/--
`do_open` once the kernel has answered with the number `s`.  The file is new, so the
registration that follows cannot find the number closed or taken.  `none` where the
kernel refuses it: `socket_holder` closes the file again.
-/
def openSocket (a : Asio) (s : Fd) : Option (Asio × SockId) :=
  match (a.kernel.socket s).epollAdd s a.descs.next .none with
  | .ok k => some (a.newSocket s k true false)
  | .eperm => some (a.newSocket s (a.kernel.socket s) false false)
  | .error => none

/-- `do_assign`: adopt a number somebody else opened; `none` is a set `ec`. -/
def assignSocket (a : Asio) (s : Fd) (refusal : Kernel.Refusal) : Option (Asio × SockId) :=
  match a.kernel.epollAdd s a.descs.next refusal with
  | .ok k => some (a.newSocket s k true true)
  | .eperm => some (a.newSocket s a.kernel false true)
  | .error => none

/-- `cancel_ops`: the socket's pending waits will be aborted. -/
def cancelWaits (a : Asio) (o : SockId) : Asio :=
  { a with
    waits := a.waits.map fun w =>
      if w.sock = o ∧ w.status = .pending then { w with cancelled := true } else w }

/-- `deregister_descriptor`; a closing descriptor leaves the epoll set by being closed. -/
def deregister (a : Asio) (s : Fd) (desc : Option DescId) (closing : Bool) : Asio :=
  match desc with
  | none => a
  | some d =>
      if (a.descs.cell d).shutdown then a
      else
        { a with
          kernel :=
            if closing then a.kernel
            else if (a.descs.cell d).registered then a.kernel.epollDel s
            else a.kernel
          descs := a.descs.modify d fun ds => { ds with shutdown := true } }

/-- The object holds no native socket any more. -/
def forget (a : Asio) (o : SockId) : Asio :=
  { a with
    socks := a.socks.modify o fun _ => .closed
    desc_lt := by
      intro o' d h
      rw [Heap.modify_cell] at h
      split at h
      · simp [TcpSocket.closed] at h
      · exact a.desc_lt o' d h }

/-- `basic_socket::cancel(ec)`. -/
def cancel (a : Asio) (o : SockId) : Asio :=
  match (a.socks.cell o).native with
  | none => a
  | some _ => a.cancelWaits o

/-- `basic_socket::release()`; `none` is the `system_error` thrown on a socket that is not open. -/
def release (a : Asio) (o : SockId) : Option Asio :=
  match (a.socks.cell o).native with
  | none => none
  | some s => some (((a.deregister s (a.socks.cell o).desc false).cancelWaits o).forget o)

/-- `~basic_socket`: deregister and close. -/
def destroy (a : Asio) (o : SockId) : Asio :=
  match (a.socks.cell o).native with
  | none => a
  | some s =>
      let a' := (a.deregister s (a.socks.cell o).desc !(a.socks.cell o).possibleDup).cancelWaits o
      { a' with kernel := a'.kernel.close s }.forget o

/-- `async_wait`: a new pending wait. -/
def asyncWait (a : Asio) (dir : Dir) (s : Fd) (sd : SocketDataId) (o : SockId) : Asio :=
  { a with waits := a.waits.alloc ⟨dir, s, sd, o, false, .pending⟩ }

/-- The reactor finishes a pending wait, with an abort only after a cancel. -/
def complete (a : Asio) (w : WaitId) (r : WaitResult) : Option Asio :=
  if w < a.waits.next ∧ (a.waits.cell w).status = .pending
      ∧ (r = .aborted → (a.waits.cell w).cancelled) then
    some { a with waits := a.waits.modify w fun x => { x with status := .completed r } }
  else none

/-- The `io_context` takes a completed wait off its queue. -/
def markDispatched (a : Asio) (w : WaitId) (r : WaitResult) : Asio :=
  { a with waits := a.waits.modify w fun x => { x with status := .dispatched r } }

theorem markDispatched_self (a : Asio) (w : WaitId) (r : WaitResult) :
    ((a.markDispatched w r).waits.cell w).status = .dispatched r := by
  simp only [markDispatched, Heap.modify_cell_self]

theorem markDispatched_ne (a : Asio) {w w' : WaitId} (r : WaitResult) (h : w' ≠ w) :
    (a.markDispatched w r).waits.cell w' = a.waits.cell w' := by
  simp only [markDispatched, Heap.modify_cell_ne _ _ h]

/-- What a wait is bound to does not depend on how far it has got. -/
theorem markDispatched_bound (a : Asio) (w : WaitId) (r : WaitResult) (w' : WaitId) :
    ((a.markDispatched w r).waits.cell w').sd = (a.waits.cell w').sd ∧
      ((a.markDispatched w r).waits.cell w').dir = (a.waits.cell w').dir := by
  by_cases h : w' = w
  · subst h
    simp [markDispatched]
  · rw [a.markDispatched_ne r h]
    exact ⟨rfl, rfl⟩

theorem markDispatched_marks (a : Asio) (w : WaitId) (r : WaitResult) (w' : WaitId) :
    ((a.markDispatched w r).waits.cell w').fd = (a.waits.cell w').fd ∧
      ((a.markDispatched w r).waits.cell w').cancelled = (a.waits.cell w').cancelled := by
  by_cases h : w' = w
  · subst h
    simp [markDispatched]
  · rw [a.markDispatched_ne r h]
    exact ⟨rfl, rfl⟩

/-! ### What the operations do to the waits

`cancel`, `release` and `destroy` differ in what they do to the descriptor.  To the
waits all three do the same thing, and only to those of their own socket.
-/

/-- `a'` is `a` with some pending waits of the socket `o` marked cancelled. -/
structure Cancels (o : SockId) (a a' : Asio) : Prop where
  socks_next : a'.socks.next = a.socks.next
  waits_next : a'.waits.next = a.waits.next
  cell : ∀ w, a'.waits.cell w = a.waits.cell w ∨
    (a.waits.cell w).sock = o ∧ a'.waits.cell w = { a.waits.cell w with cancelled := true }

theorem deregister_waits (a : Asio) (s : Fd) (desc : Option DescId) (closing : Bool) :
    (a.deregister s desc closing).waits = a.waits := by
  unfold deregister
  split
  · rfl
  · split <;> rfl

theorem deregister_socks (a : Asio) (s : Fd) (desc : Option DescId) (closing : Bool) :
    (a.deregister s desc closing).socks = a.socks := by
  unfold deregister
  split
  · rfl
  · split <;> rfl

/-- Deregistering neither opens nor closes a file. -/
theorem deregister_files (a : Asio) (s : Fd) (desc : Option DescId) (closing : Bool) :
    (a.deregister s desc closing).kernel.files = a.kernel.files ∧
      (a.deregister s desc closing).kernel.nextFile = a.kernel.nextFile := by
  unfold deregister
  split
  · exact ⟨rfl, rfl⟩
  · split
    · exact ⟨rfl, rfl⟩
    · dsimp only
      split
      · exact ⟨rfl, rfl⟩
      · split <;> exact ⟨rfl, rfl⟩

theorem cancels_cancelWaits (a : Asio) (o : SockId) : Cancels o a (a.cancelWaits o) := by
  refine ⟨rfl, rfl, ?_⟩
  intro w
  show (if _ then _ else _) = _ ∨ _
  split
  · rename_i h
    exact Or.inr ⟨h.1, if_pos h⟩
  · exact Or.inl rfl

theorem Cancels.refl (o : SockId) (a : Asio) : Cancels o a a := ⟨rfl, rfl, fun _ => Or.inl rfl⟩

/-- Only the waits and the number of sockets matter. -/
theorem Cancels.of_eq {o : SockId} {a b a' : Asio} (h : Cancels o a a')
    (hw : a.waits = b.waits) (hs : a.socks.next = b.socks.next) : Cancels o b a' := by
  refine ⟨h.socks_next.trans hs, ?_, ?_⟩
  · rw [← hw]; exact h.waits_next
  · intro w
    rw [← hw]
    exact h.cell w

theorem cancels_cancel (a : Asio) (o : SockId) : Cancels o a (a.cancel o) := by
  unfold cancel
  split
  · exact .refl o a
  · exact cancels_cancelWaits a o

theorem cancels_release {a a' : Asio} {o : SockId} (h : a.release o = some a') :
    Cancels o a a' := by
  unfold release at h
  split at h
  · simp at h
  · rename_i s _
    obtain rfl := Option.some.inj h
    have hc := cancels_cancelWaits (a.deregister s (a.socks.cell o).desc false) o
    exact Cancels.of_eq ⟨hc.socks_next, hc.waits_next, hc.cell⟩
      (deregister_waits ..) (by rw [deregister_socks])

theorem cancels_destroy (a : Asio) (o : SockId) : Cancels o a (a.destroy o) := by
  unfold destroy
  split
  · exact .refl o a
  · rename_i s _
    have hc := cancels_cancelWaits
      (a.deregister s (a.socks.cell o).desc !(a.socks.cell o).possibleDup) o
    exact Cancels.of_eq ⟨hc.socks_next, hc.waits_next, hc.cell⟩
      (deregister_waits ..) (by rw [deregister_socks])

/-- Waits are only added, and one that has been dispatched stays so. -/
structure Ages (a a' : Asio) : Prop where
  next_le : a.waits.next ≤ a'.waits.next
  dispatched : ∀ w : Nat, w < a.waits.next → ∀ r, (a.waits.cell w).status = .dispatched r →
    (a'.waits.cell w).status = .dispatched r

namespace Ages

theorem of_eq {a a' : Asio} (h : a'.waits = a.waits) : Ages a a' :=
  ⟨by rw [h], fun w _ r hr => by rw [h, hr]⟩

theorem trans {a a' a'' : Asio} (h : Ages a a') (h' : Ages a' a'') : Ages a a'' where
  next_le := Nat.le_trans h.next_le h'.next_le
  dispatched w hw r hr :=
    h'.dispatched w (Nat.lt_of_lt_of_le hw h.next_le) r (h.dispatched w hw r hr)

end Ages

theorem Cancels.ages {o : SockId} {a a' : Asio} (h : Cancels o a a') : Ages a a' := by
  refine ⟨Nat.le_of_eq h.waits_next.symm, fun w _ r hr => ?_⟩
  rcases h.cell w with he | ⟨-, he⟩ <;> rw [he, hr]

theorem ages_complete {a a' : Asio} {w : Nat} {r : WaitResult} (h : a.complete w r = some a') :
    Ages a a' := by
  unfold complete at h
  split at h
  · rename_i hc
    obtain rfl := Option.some.inj h
    refine ⟨Nat.le_refl _, fun w' _ r' hr' => ?_⟩
    by_cases he : w' = w
    · subst he
      rw [hc.2.1] at hr'
      simp at hr'
    · simp only [Heap.modify_cell_ne _ _ he, hr']
  · simp at h

/-! ### What the operations do to the sockets and to the files -/

theorem cancel_socks (a : Asio) (o : SockId) :
    (a.cancel o).socks = a.socks ∧ (a.cancel o).kernel = a.kernel := by
  unfold cancel
  split <;> exact ⟨rfl, rfl⟩

/-- `release()` gives the number up and leaves the file open. -/
theorem release_socks {a a' : Asio} {o : SockId} (h : a.release o = some a') :
    a'.socks = a.socks.modify o (fun _ => .closed) ∧ a'.kernel.files = a.kernel.files ∧
      a'.kernel.nextFile = a.kernel.nextFile := by
  unfold release at h
  split at h
  · simp at h
  · rename_i s _
    obtain rfl := Option.some.inj h
    refine ⟨?_, deregister_files ..⟩
    show ((a.deregister s _ false).socks.modify o fun _ => .closed) = _
    rw [deregister_socks]

/-- It throws on a socket that is not open, and only there. -/
theorem release_isSome {a : Asio} {o : SockId} {s : Fd} (h : (a.socks.cell o).native = some s) :
    (a.release o).isSome := by
  simp [release, h]

/-- The destructor of an open socket closes its number. -/
theorem destroy_socks {a : Asio} {o : SockId} {s : Fd} (h : (a.socks.cell o).native = some s) :
    (a.destroy o).socks = a.socks.modify o (fun _ => .closed) ∧
      (a.destroy o).kernel.files = a.kernel.files.erase s ∧
      (a.destroy o).kernel.nextFile = a.kernel.nextFile := by
  unfold destroy
  rw [h]
  obtain ⟨hfiles, hnext⟩ :=
    deregister_files a s (a.socks.cell o).desc !(a.socks.cell o).possibleDup
  refine ⟨?_, ?_, hnext⟩
  · show ((a.deregister s _ _).socks.modify o fun _ => .closed) = _
    rw [deregister_socks]
  · show ((a.deregister s _ _).kernel.files.erase s) = _
    rw [hfiles]

/-- `open` makes a new file under `s`, held by a new socket object. -/
theorem openSocket_socks {a a' : Asio} {s : Fd} {o : SockId}
    (h : a.openSocket s = some (a', o)) :
    (∃ sock, sock.native = some s ∧ a'.socks = a.socks.alloc sock) ∧
      a'.kernel.files = a.kernel.files.insert s a.kernel.nextFile ∧
      a'.kernel.nextFile = a.kernel.nextFile + 1 := by
  unfold openSocket at h
  split at h
  · rename_i k hk
    obtain ⟨hfiles, hnext⟩ := Kernel.epollAdd_ok hk
    simp only [Option.some.injEq, Prod.mk.injEq, newSocket] at h
    obtain ⟨rfl, -⟩ := h
    exact ⟨⟨_, rfl, rfl⟩, hfiles, hnext⟩
  · simp only [Option.some.injEq, Prod.mk.injEq, newSocket] at h
    obtain ⟨rfl, -⟩ := h
    exact ⟨⟨_, rfl, rfl⟩, rfl, rfl⟩
  · simp at h

/-- `assign` makes no file. -/
theorem assignSocket_socks {a a' : Asio} {s : Fd} {r : Kernel.Refusal} {o : SockId}
    (h : a.assignSocket s r = some (a', o)) :
    (∃ sock, sock.native = some s ∧ a'.socks = a.socks.alloc sock) ∧
      a'.kernel.files = a.kernel.files ∧ a'.kernel.nextFile = a.kernel.nextFile := by
  unfold assignSocket at h
  split at h
  · rename_i k hk
    obtain ⟨hfiles, hnext⟩ := Kernel.epollAdd_ok hk
    simp only [Option.some.injEq, Prod.mk.injEq, newSocket] at h
    obtain ⟨rfl, -⟩ := h
    exact ⟨⟨_, rfl, rfl⟩, hfiles, hnext⟩
  · simp only [Option.some.injEq, Prod.mk.injEq, newSocket] at h
    obtain ⟨rfl, -⟩ := h
    exact ⟨⟨_, rfl, rfl⟩, rfl, rfl⟩
  · simp at h

/-- A new socket object is numbered by the old count; the waits stay. -/
theorem openSocket_spec {a a' : Asio} {s : Fd} {o : SockId} (h : a.openSocket s = some (a', o)) :
    o = a.socks.next ∧ a'.socks.next = a.socks.next + 1 ∧ a'.waits = a.waits := by
  unfold openSocket at h
  split at h <;> simp only [Option.some.injEq, Prod.mk.injEq, newSocket, reduceCtorEq] at h
  · obtain ⟨rfl, rfl⟩ := h
    exact ⟨rfl, rfl, rfl⟩
  · obtain ⟨rfl, rfl⟩ := h
    exact ⟨rfl, rfl, rfl⟩

theorem assignSocket_spec {a a' : Asio} {s : Fd} {r : Kernel.Refusal} {o : SockId}
    (h : a.assignSocket s r = some (a', o)) :
    o = a.socks.next ∧ a'.socks.next = a.socks.next + 1 ∧ a'.waits = a.waits := by
  unfold assignSocket at h
  split at h <;> simp only [Option.some.injEq, Prod.mk.injEq, newSocket, reduceCtorEq] at h
  · obtain ⟨rfl, rfl⟩ := h
    exact ⟨rfl, rfl, rfl⟩
  · obtain ⟨rfl, rfl⟩ := h
    exact ⟨rfl, rfl, rfl⟩

/-! ### What the operations do to the epoll set -/

/-- The socket's descriptor state has a registration to take back. -/
def Registered (a : Asio) (o : SockId) : Prop :=
  ∃ d, (a.socks.cell o).desc = some d ∧ (a.descs.cell d).registered = true ∧
    (a.descs.cell d).shutdown = false

/-- `release()` takes whatever registration the number has out of the epoll set. -/
theorem release_interest {a a' : Asio} {o : SockId} {s : Fd} (h : a.release o = some a')
    (hs : (a.socks.cell o).native = some s) :
    (a.Registered o → a'.kernel.interest = a.kernel.interest.erase s) ∧
      (¬a.Registered o → a'.kernel.interest = a.kernel.interest) := by
  unfold release at h
  rw [hs] at h
  obtain rfl := Option.some.inj h
  show (_ → (a.deregister s _ false).kernel.interest = _) ∧
    (_ → (a.deregister s _ false).kernel.interest = _)
  unfold deregister Registered
  rcases (a.socks.cell o).desc with _ | d
  · simp
  · rcases hd : a.descs.cell d with ⟨registered, shutdown⟩
    cases registered <;> cases shutdown <;> simp [hd]

/-- Opening a number that was closed registers it with the new socket's descriptor state. -/
theorem openSocket_registers {a a' : Asio} {s : Fd} {o : SockId}
    (hfree : a.kernel.files.lookup s = none) (h : a.openSocket s = some (a', o)) :
    a'.descs = a.descs.alloc ⟨true, false⟩ ∧
      a'.socks = a.socks.alloc ⟨some s, some a.descs.next, false⟩ ∧
      a'.kernel.interest = a.kernel.interest.insert s a.descs.next := by
  have hopen : ((a.kernel.socket s).files.lookup s).isSome := by simp
  have hclosed : (a.kernel.socket s).interest.lookup s = none :=
    Kernel.interest_none_of_closed (k := a.kernel) hfree
  have hadd : (a.kernel.socket s).epollAdd s a.descs.next .none
      = .ok ((a.kernel.socket s).register s a.descs.next hopen) := by
    unfold Kernel.epollAdd
    rw [dif_pos hopen, hclosed]
    rfl
  unfold openSocket at h
  rw [hadd] at h
  obtain ⟨rfl, -⟩ := Prod.mk.inj (Option.some.inj h)
  exact ⟨rfl, rfl, rfl⟩

end Asio

end AmxxCurl
