/-
Transfers, without the plugins.

What the module is for, as far as libcurl is concerned: easy handles are created,
attached to the multi, completed or taken off it again, and cleaned up.  `Transfers`
has the three records that say which are in flight (the flag of the object,
`curl_map_`, libcurl's list) and the member functions of `AmxCurl` that are inside
libcurl; forwards, options, bodies and the rest of the stack are gone.

`Op` is one change to them, `Move` one step of taking everything down.  What is true of
every reachable `Transfers` is argued in the modules on top of this one, a case for
each; that the controller does nothing else is the refinement.
-/
import AmxxCurl.Amx.Defs
import Mathlib.Logic.Relation

namespace AmxxCurl

open AmxCurlController

/-- The members of an `AmxCurl` that make up a transfer. -/
structure Transfer where
  curl : CurlPtr
  args : PerformArgs
  inProgress : Bool

/-- Of a handle that has performed nothing yet. -/
def Transfer.new (e : CurlPtr) : Transfer := ⟨e, ⟨0, 0, none, 0⟩, false⟩

/-- A perform begins. -/
def Transfer.start (x : Transfer) (args : PerformArgs) : Transfer :=
  { x with args := args, inProgress := true }

/-- A perform is refused for its public function. -/
def Transfer.refuse (x : Transfer) (fun_ : Int) : Transfer :=
  { x with args := { x.args with fun_ := fun_ } }

/-- A transfer is over. -/
def Transfer.settle (x : Transfer) : Transfer :=
  { x with inProgress := false, args := { x.args with data := none, dataLen := 0 } }

/-- How far a call of `Perform` or `OnPerformComplete` that is inside libcurl has got. -/
inductive Task
  | adding (p : PerformId)
  | removing (p : PerformId) (res : CurlCode)

/-- The transfers, and what libcurl knows of them. -/
structure Transfers where
  handles : Table AmxCurlHandle ObjId
  objs : Heap Transfer
  curlMap : Table CurlPtr ObjId
  easies : Table CurlPtr ObjId
  attached : Table CurlPtr PerformId
  messages : List (CurlPtr × PerformId × CurlCode)
  posted : List PerformId
  performs : Heap PerformArgs
  /-- The member functions on the stack, innermost first. -/
  tasks : List (ObjId × Task)
  phase : Phase
  isDetached : Bool
  curlMulti : Bool
  log : List Event

/-- Frames run, the drain loop does, or `OnAmxxDetach` has returned. -/
def AmxCurlController.Phase.IsLive (ph : Phase) : Prop :=
  ph = .running ∨ ph = .draining ∨ ph = .detached

/-- What follows `CurlMulti::Shutdown`. -/
def AmxCurlController.Actor.afterShutdown : Actor → Phase
  | .onAmxxDetach => .globalCleanup
  | _ => .gone

/-- The map has been emptied for good. -/
def AmxCurlController.Phase.IsOver : Phase → Prop
  | .shutdown _ | .globalCleanup | .gone => True
  | _ => False

namespace Transfers

def boot : Transfers where
  handles := ∅
  objs := .empty (.new 0)
  curlMap := ∅
  easies := ∅
  attached := ∅
  messages := []
  posted := []
  performs := .empty ⟨0, 0, none, 0⟩
  tasks := []
  phase := .running
  isDetached := false
  curlMulti := true
  log := []

variable (t : Transfers)

abbrev obj (o : ObjId) : Transfer := t.objs.cell o

def emit (es : List Event) : Transfers := { t with log := t.log ++ es }

def setObj (o : ObjId) (f : Transfer → Transfer) : Transfers :=
  { t with objs := t.objs.modify o f }

@[simp] theorem setObj_self (o : ObjId) (f : Transfer → Transfer) :
    (t.setObj o f).obj o = f (t.obj o) :=
  Heap.modify_cell_self ..

theorem setObj_setObj (o : ObjId) (f g : Transfer → Transfer) :
    (t.setObj o f).setObj o g = t.setObj o fun x => g (f x) := by
  unfold setObj
  rw [Heap.modify_modify]

/-- An easy handle is made, and nothing else. -/
def alloc (e : CurlPtr) : Transfers := { t with objs := t.objs.alloc (.new e) }

/-- A new handle under the number `h`. -/
def create (h : AmxCurlHandle) (e : CurlPtr) : Transfers :=
  { t.alloc e with
    easies := t.easies.insert e t.objs.next
    handles := t.handles.insert h t.objs.next }.emit [.libcurl (.easyInit t.objs.next)]

/-- The handle under the number `h`, which is `o`, is destroyed. -/
def destroy (h : AmxCurlHandle) (o : ObjId) : Transfers :=
  { t with
    handles := t.handles.erase h
    easies := t.easies.erase (t.obj o).curl }.emit [.libcurl (.easyCleanup o)]

/-- A perform has begun, and is inside `curl_multi_add_handle`. -/
def add (o : ObjId) (args : PerformArgs) : Transfers :=
  let e := (t.obj o).curl
  { t.setObj o (·.start args) with
    curlMap := if (t.curlMap.lookup e).isSome then t.curlMap else t.curlMap.insert e o
    performs := t.performs.alloc args
    tasks := (o, .adding t.performs.next) :: t.tasks }.emit [.libcurl (.addHandle o)]

/-- It was accepted. -/
def added (o : ObjId) (p : PerformId) (rest : List (ObjId × Task)) : Transfers :=
  { t with
    attached := t.attached.insert (t.obj o).curl p
    tasks := rest }.emit [.libcurl (.added o true), .accepted p]

/-- It was not. -/
def addFailed (o : ObjId) (rest : List (ObjId × Task)) : Transfers :=
  { t with
    curlMap := t.curlMap.erase (t.obj o).curl
    tasks := rest
    objs := t.objs.modify o .settle }.emit [.libcurl (.added o false)]

/-- libcurl has lost an easy handle and the messages about it. -/
def detach (o : ObjId) : Transfers :=
  let e := (t.obj o).curl
  { t with
    attached := t.attached.erase e
    messages := t.messages.filter fun msg => msg.1 != e }.emit [.libcurl (.removeHandle o)]

/-- A completion has got `o` off the multi and has read its arguments. -/
def complete (o : ObjId) (p : PerformId) (rest : List (ObjId × Task)) : Transfers :=
  ({ t.detach o with tasks := rest }.setObj o .settle).emit [.completed p (t.obj o).args]

/-- A DONE message is read; its completion goes into `curl_multi_remove_handle`. -/
def read (e : CurlPtr) (p : PerformId) (res : CurlCode) (rest : List (CurlPtr × PerformId × CurlCode)) :
    Transfers :=
  match t.curlMap.lookup e with
  | none => { t with messages := rest }
  | some o => { t with
      messages := rest
      curlMap := t.curlMap.erase (t.obj o).curl
      tasks := (o, .removing p res) :: t.tasks }

/-- libcurl is done with a transfer. -/
def post (e : CurlPtr) (p : PerformId) (res : CurlCode) : Transfers :=
  { t with messages := t.messages ++ [(e, p, res)], posted := p :: t.posted }

/-- `RemoveAllTasks` visits a handle. -/
def visit (h : AmxCurlHandle) : Transfers :=
  match t.handles.lookup h with
  | none => t
  | some o =>
      if (t.obj o).inProgress then
        { t with curlMap := t.curlMap.erase (t.obj o).curl }.detach o
      else t

/-- A handle is destroyed with the map it is in. -/
def drop (h : AmxCurlHandle) : Transfers :=
  match t.handles.lookup h with
  | none => t
  | some o => t.destroy h o

/-- `order` walks the handles. -/
def Walks (order : List AmxCurlHandle) : Prop := order.Nodup ∧ order.toFinset = t.handles.keys

/-- One change to the transfers; `N` says in which phases natives run. -/
inductive Op (N : Phase → Prop) (t : Transfers) : Transfers → Prop
  | create (h : AmxCurlHandle) (e : CurlPtr) (hN : N t.phase) (he : t.easies.lookup e = none)
      (hh : t.handles.lookup h = none) : Op N t (t.create h e)
  /-- The number is taken: the new object is destroyed at once. -/
  | createLost (e : CurlPtr) (hN : N t.phase) : Op N t ((t.alloc e).emit
      [.libcurl (.easyInit t.objs.next), .libcurl (.easyCleanup t.objs.next)])
  | destroy (h : AmxCurlHandle) (o : ObjId) (hN : N t.phase) (hh : t.handles.lookup h = some o)
      (hidle : (t.obj o).inProgress = false) : Op N t (t.destroy h o)
  | reset (h : AmxCurlHandle) (o : ObjId) (hN : N t.phase) (hh : t.handles.lookup h = some o)
      (hidle : (t.obj o).inProgress = false) : Op N t (t.emit [.libcurl (.easyReset o)])
  | refuse (h : AmxCurlHandle) (o : ObjId) (fun_ : Int) (hN : N t.phase)
      (hh : t.handles.lookup h = some o) (hidle : (t.obj o).inProgress = false) :
      Op N t (t.setObj o (·.refuse fun_))
  | add (h : AmxCurlHandle) (o : ObjId) (args : PerformArgs) (hN : N t.phase)
      (hh : t.handles.lookup h = some o) (hidle : (t.obj o).inProgress = false) :
      Op N t (t.add o args)
  | added (o : ObjId) (p : PerformId) (rest : List (ObjId × Task))
      (hs : t.tasks = (o, .adding p) :: rest) (hm : t.curlMulti = true)
      (hfree : t.attached.lookup (t.obj o).curl = none) : Op N t (t.added o p rest)
  | addFailed (o : ObjId) (p : PerformId) (rest : List (ObjId × Task))
      (hs : t.tasks = (o, .adding p) :: rest) : Op N t (t.addFailed o rest)
  | complete (o : ObjId) (p : PerformId) (res : CurlCode) (rest : List (ObjId × Task))
      (hs : t.tasks = (o, .removing p res) :: rest) : Op N t (t.complete o p rest)
  | read (e : CurlPtr) (p : PerformId) (res : CurlCode)
      (rest : List (CurlPtr × PerformId × CurlCode)) (hlive : t.phase.IsLive)
      (hmsg : t.messages = (e, p, res) :: rest) : Op N t (t.read e p res rest)
  | post (e : CurlPtr) (p : PerformId) (res : CurlCode) (ha : t.attached.lookup e = some p)
      (hp : p ∉ t.posted) : Op N t (t.post e p res)

/-- One step towards the end of the module. -/
inductive Move (t : Transfers) : Transfers → Prop
  | drain (hph : t.phase = .running) (hs : t.tasks = []) : Move t { t with phase := .draining }
  | removeAll (order : List AmxCurlHandle) (hph : t.phase = .draining) (hs : t.tasks = [])
      (ho : t.Walks order) :
      Move t { t with isDetached := true, phase := .removing .onAmxxDetach order }
  | exit (hph : t.phase = .running ∨ t.phase = .detached) (hs : t.tasks = []) :
      Move t { t with phase := .exiting }
  | guard (order : List AmxCurlHandle) (hph : t.phase = .exiting) (hd : t.isDetached = false)
      (ho : t.Walks order) :
      Move t { t with isDetached := true, phase := .removing .detachGuard order }
  | visit (actor : Actor) (h : AmxCurlHandle) (todo : List AmxCurlHandle)
      (hph : t.phase = .removing actor (h :: todo)) :
      Move t { t.visit h with phase := .removing actor todo }
  | clear (actor : Actor) (order : List AmxCurlHandle) (hph : t.phase = .removing actor [])
      (ho : t.Walks order) : Move t { t with phase := .clearing actor order }
  | drop (actor : Actor) (h : AmxCurlHandle) (todo : List AmxCurlHandle)
      (hph : t.phase = .clearing actor (h :: todo)) :
      Move t { t.drop h with phase := .clearing actor todo }
  | destruct (order : List AmxCurlHandle) (ho : t.Walks order)
      (hph : t.phase = .exiting ∧ t.isDetached = true ∨ t.phase = .clearing .detachGuard []) :
      Move t { t with phase := .clearing .destructor order }
  | cleared (actor : Actor) (hph : t.phase = .clearing actor []) (ha : actor ≠ .detachGuard) :
      Move t { t with phase := .shutdown actor }
  /-- `CurlMulti::Shutdown`; only in the destructors the multi may be gone already. -/
  | shutdown (actor : Actor) (hph : t.phase = .shutdown actor) (hm : t.curlMulti = true) :
      Move t { t.emit [.libcurl .multiCleanup] with
        curlMulti := false
        phase := actor.afterShutdown }
  | shutdownAgain (actor : Actor) (hph : t.phase = .shutdown actor) (hm : t.curlMulti = false) :
      Move t { t with phase := actor.afterShutdown }
  | globalCleanup (hph : t.phase = .globalCleanup) :
      Move t { t.emit [.libcurl .globalCleanup] with phase := .detached }

/-- The transfers that changes lead to. -/
def Reachable (N : Phase → Prop) : Transfers → Prop :=
  Relation.ReflTransGen (fun t t' => Op N t t' ∨ Move t t') boot

end Transfers

end AmxxCurl
