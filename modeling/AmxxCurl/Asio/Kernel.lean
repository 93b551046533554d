/-
The kernel's side of a socket: open files, and the epoll interest set.

An fd number names whatever file is open under it now, and the kernel hands the
number out again once that file is closed.  `FileId` numbers the files themselves
and is never reused, which is how "this descriptor" and "whatever is called 7
today" are told apart.

`epoll_ctl` is addressed by fd number too, so `EPOLL_CTL_DEL` removes the
registration the number has now, whoever added it; closing a file removes its own
registration.  That a registered number is open is a field of `Kernel`: it cannot
be built otherwise.
-/
import AmxxCurl.Lib.Table

namespace AmxxCurl

/-- `curl_socket_t`, an `int`. -/
abbrev Fd := Int

/-- `CURL_SOCKET_BAD`. -/
def curlSocketBad : Fd := -1

/-- One open file, for the whole run. -/
abbrev FileId := Nat

/-- asio's `descriptor_state`, the pointer an epoll registration carries. -/
abbrev DescId := Nat

/-- The open files and the epoll set of the reactor. -/
structure Kernel where
  files : Table Fd FileId
  /-- The registered numbers, each with the `ev.data.ptr` it was added with. -/
  interest : Table Fd DescId
  nextFile : FileId
  /-- Closing a file drops its registration, so what is registered is open. -/
  registered_open : ∀ s d, interest.lookup s = some d → (files.lookup s).isSome

namespace Kernel

/-- No socket open. -/
def boot : Kernel := ⟨∅, ∅, 0, by intro s d h; simp at h⟩

/-- `socket(2)` or `accept(2)` returning the number `s`. -/
def socket (k : Kernel) (s : Fd) : Kernel where
  files := k.files.insert s k.nextFile
  interest := k.interest
  nextFile := k.nextFile + 1
  registered_open := by
    intro s' d h
    rw [Table.lookup_insert_if]
    split
    · rfl
    · exact k.registered_open s' d h

/-- `close(2)`. -/
def close (k : Kernel) (s : Fd) : Kernel where
  files := k.files.erase s
  interest := k.interest.erase s
  nextFile := k.nextFile
  registered_open := by
    intro s' d h
    obtain ⟨hne, h'⟩ := Table.lookup_erase_eq_some.mp h
    rw [Table.lookup_erase_if, if_neg hne]
    exact k.registered_open s' d h'

/-- `EPOLL_CTL_DEL`. -/
def epollDel (k : Kernel) (s : Fd) : Kernel where
  files := k.files
  interest := k.interest.erase s
  nextFile := k.nextFile
  registered_open := by
    intro s' d h
    exact k.registered_open s' d (Table.lookup_erase_eq_some.mp h).2

/-- Put `s` into the epoll set, which the kernel does only for an open file. -/
def register (k : Kernel) (s : Fd) (d : DescId) (hs : (k.files.lookup s).isSome) : Kernel where
  files := k.files
  interest := k.interest.insert s d
  nextFile := k.nextFile
  registered_open := by
    intro s' d' h
    rcases Table.lookup_insert_eq_some.mp h with ⟨rfl, -⟩ | ⟨-, h'⟩
    · exact hs
    · exact k.registered_open s' d' h'

/-- What the kernel may hold against an `EPOLL_CTL_ADD` that is otherwise in order. -/
inductive Refusal
  /-- Nothing. -/
  | none
  /-- `EPERM`: a file that does not support epoll. -/
  | notPollable
  /-- `ENOMEM`, `ENOSPC`. -/
  | exhausted
  deriving DecidableEq

/-- The outcome of `EPOLL_CTL_ADD`. -/
inductive Added
  | ok (k : Kernel)
  | eperm
  | error

/-- `EPOLL_CTL_ADD`: `EBADF` on a closed number, `EEXIST` on a registered one. -/
def epollAdd (k : Kernel) (s : Fd) (d : DescId) (refusal : Refusal) : Added :=
  if hs : (k.files.lookup s).isSome then
    if (k.interest.lookup s).isSome then .error
    else
      match refusal with
      | .none => .ok (k.register s d hs)
      | .notPollable => .eperm
      | .exhausted => .error
  else .error

/-! ### What each call leaves alone -/

@[simp] theorem socket_interest (k : Kernel) (s : Fd) : (k.socket s).interest = k.interest := rfl

@[simp] theorem socket_files (k : Kernel) (s : Fd) :
    (k.socket s).files = k.files.insert s k.nextFile := rfl

@[simp] theorem socket_nextFile (k : Kernel) (s : Fd) :
    (k.socket s).nextFile = k.nextFile + 1 := rfl

@[simp] theorem close_files (k : Kernel) (s : Fd) : (k.close s).files = k.files.erase s := rfl

@[simp] theorem close_nextFile (k : Kernel) (s : Fd) : (k.close s).nextFile = k.nextFile := rfl

@[simp] theorem close_interest (k : Kernel) (s : Fd) :
    (k.close s).interest = k.interest.erase s := rfl

@[simp] theorem epollDel_files (k : Kernel) (s : Fd) : (k.epollDel s).files = k.files := rfl

@[simp] theorem epollDel_nextFile (k : Kernel) (s : Fd) :
    (k.epollDel s).nextFile = k.nextFile := rfl

@[simp] theorem epollDel_interest (k : Kernel) (s : Fd) :
    (k.epollDel s).interest = k.interest.erase s := rfl

@[simp] theorem register_files (k : Kernel) (s : Fd) (d : DescId) (hs) :
    (k.register s d hs).files = k.files := rfl

@[simp] theorem register_nextFile (k : Kernel) (s : Fd) (d : DescId) (hs) :
    (k.register s d hs).nextFile = k.nextFile := rfl

@[simp] theorem register_interest (k : Kernel) (s : Fd) (d : DescId) (hs) :
    (k.register s d hs).interest = k.interest.insert s d := rfl

/-- A number that is not open is not registered. -/
theorem interest_none_of_closed {k : Kernel} {s : Fd} (h : k.files.lookup s = none) :
    k.interest.lookup s = none := by
  rcases hi : k.interest.lookup s with _ | d
  · rfl
  · have := k.registered_open s d hi
    rw [h] at this
    exact absurd this (by simp)

/-- Adding a registration opens and closes nothing. -/
theorem epollAdd_ok {k k' : Kernel} {s : Fd} {d : DescId} {r : Refusal}
    (h : k.epollAdd s d r = .ok k') : k'.files = k.files ∧ k'.nextFile = k.nextFile := by
  unfold epollAdd at h
  split at h
  · split at h
    · simp at h
    · split at h
      · simp only [Added.ok.injEq] at h
        subst h
        exact ⟨rfl, rfl⟩
      · simp at h
      · simp at h
  · simp at h

end Kernel

end AmxxCurl
