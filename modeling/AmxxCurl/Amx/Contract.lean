/-
What libcurl asks of those who call it.

`Libcurl` is what there is to know of a sequence of calls in order to say which may come
next: what has been made, what is attached to the multi, what is inside
`curl_multi_add_handle`.  An easy handle is used between its `curl_easy_init` and its
`curl_easy_cleanup`, and neither reset, added nor cleaned up while the multi has it; of the
multi functions only `curl_multi_add_handle` may be called while one of them runs; the multi
is cleaned up when nothing is attached to it, and libcurl when there is nothing left.

`Agrees` says what the controller knows of all this, and each function of the module is shown
to make only calls that are allowed then.
-/
import AmxxCurl.Amx.Nesting
import AmxxCurl.Amx.Teardown
import AmxxCurl.Lib.Protocol

namespace AmxxCurl

open AmxCurlController

/-- What libcurl has been asked for so far. -/
structure Libcurl where
  /-- Between `curl_global_init` and `curl_global_cleanup`. -/
  isInit : Bool
  /-- Between `curl_multi_init` and `curl_multi_cleanup`. -/
  multi : Bool
  /-- The easy handles there ever were. -/
  made : Finset ObjId
  easies : Finset ObjId
  attached : Finset ObjId
  /-- Those inside `curl_multi_add_handle`, innermost first. -/
  adding : List ObjId

namespace Libcurl

/-- After `curl_global_init` and `curl_multi_init`. -/
def boot : Libcurl := ⟨true, true, ∅, ∅, ∅, []⟩

/-- An easy handle the multi has nothing to do with. -/
def IsFree (s : Libcurl) (o : ObjId) : Prop := o ∈ s.easies ∧ o ∉ s.attached ∧ o ∉ s.adding

instance (s : Libcurl) (o : ObjId) : Decidable (s.IsFree o) := inferInstanceAs (Decidable (_ ∧ _))

/-- The multi is there, and none of its functions has a handle half attached. -/
def IsQuiet (s : Libcurl) : Prop := s.multi = true ∧ s.adding = []

instance (s : Libcurl) : Decidable s.IsQuiet := inferInstanceAs (Decidable (_ ∧ _))

/-- What a call does; `none` where it is not allowed. -/
def call (s : Libcurl) : LibCall → Option Libcurl
  | .easyInit o =>
      if o ∈ s.made then none
      else some { s with made := insert o s.made, easies := insert o s.easies }
  | .setopt o => if o ∈ s.easies then some s else none
  | .easyReset o => if s.IsFree o then some s else none
  | .easyCleanup o => if s.IsFree o then some { s with easies := s.easies.erase o } else none
  | .addHandle o =>
      if s.multi = true ∧ s.IsFree o then some { s with adding := o :: s.adding } else none
  | .added o ok =>
      match s.adding with
      | [] => none
      | o' :: rest =>
          if o' = o then
            some { s with
              attached := if ok then insert o s.attached else s.attached
              adding := rest }
          else none
  | .removeHandle o =>
      if s.IsQuiet ∧ o ∈ s.attached then some { s with attached := s.attached.erase o } else none
  | .socketAction => if s.IsQuiet then some s else none
  | .infoRead => if s.IsQuiet then some s else none
  | .multiCleanup =>
      if s.IsQuiet ∧ s.attached = ∅ then some { s with multi := false } else none
  | .globalCleanup =>
      if s.multi = false ∧ s.easies = ∅ then some { s with isInit := false } else none

/-- Nothing may be called after `curl_global_cleanup`. -/
def next (s : Libcurl) (c : LibCall) : Option Libcurl := if s.isInit then s.call c else none

def machine : Machine Libcurl LibCall := ⟨boot, next⟩

theorem next_eq {s : Libcurl} (hs : s.isInit = true) (c : LibCall) :
    machine.next s c = s.call c := if_pos hs

end Libcurl

/-! ### What the controller knows -/

/-- The object a task has inside `curl_multi_add_handle`. -/
def Task.adder (k : ObjId × Task) : Option ObjId :=
  match k.2 with
  | .adding _ => some k.1
  | .removing _ _ => none

namespace Transfers

/-- The transfers and the calls say the same of every easy handle and of the multi. -/
structure Agrees (t : Transfers) (s : Libcurl) : Prop where
  made : ∀ o, o ∈ s.made ↔ o < t.objs.next
  easies : ∀ o, o ∈ s.easies ↔ t.IsLive o
  attached : ∀ o, o ∈ s.attached ↔ t.IsLive o ∧ (t.attached.lookup (t.obj o).curl).isSome
  adding : s.adding = t.tasks.filterMap Task.adder
  multi : s.multi = t.curlMulti

/-- The same easy handles and the same multi. -/
structure SameEasies (t t' : Transfers) : Prop where
  next : t'.objs.next = t.objs.next
  handles : t'.handles = t.handles
  curl : ∀ o, (t'.obj o).curl = (t.obj o).curl
  multi : t'.curlMulti = t.curlMulti

theorem SameEasies.isLive {t t' : Transfers} (h : SameEasies t t') {o : ObjId} :
    t'.IsLive o ↔ t.IsLive o := by
  unfold IsLive
  rw [h.handles]

theorem SameEasies.trans {t t' t'' : Transfers} (h : SameEasies t t') (h' : SameEasies t' t'') :
    SameEasies t t'' where
  next := h'.next.trans h.next
  handles := h'.handles.trans h.handles
  curl := fun o => (h'.curl o).trans (h.curl o)
  multi := h'.multi.trans h.multi

namespace Agrees

variable {t t' : Transfers} {s : Libcurl} {o : ObjId}

theorem boot : Agrees boot Libcurl.boot where
  made := by simp [Transfers.boot, Libcurl.boot]
  easies := by simp [Transfers.boot, Libcurl.boot, IsLive]
  attached := by simp [Transfers.boot, Libcurl.boot]
  adding := rfl
  multi := rfl

theorem mem_adding (h : Agrees t s) : o ∈ s.adding ↔ t.Adding o := by
  rw [h.adding, List.mem_filterMap]
  constructor
  · rintro ⟨⟨o', k⟩, hk, he⟩
    cases k with
    | adding p =>
        obtain rfl := Option.some.inj he
        exact ⟨p, hk⟩
    | removing p res => exact absurd he (by simp [Task.adder])
  · rintro ⟨p, hk⟩
    exact ⟨_, hk, rfl⟩

/-- An idle handle is one the multi has nothing to do with. -/
theorem isFree (h : Agrees t s) (hr : Records t) (ho : t.IsLive o)
    (hidle : (t.obj o).inProgress = false) : s.IsFree o := by
  obtain ⟨-, hatt, htask⟩ := hr.idle ho hidle
  refine ⟨(h.easies o).mpr ho, fun hin => ?_, fun hin => ?_⟩
  · have hsome := ((h.attached o).mp hin).2
    rw [hatt] at hsome
    exact absurd hsome (by simp)
  · obtain ⟨p, hk⟩ := h.mem_adding.mp hin
    exact htask _ hk

/-- What the calls know of is the same. -/
theorem same (h : Agrees t s) (hsame : SameEasies t t') (hatt : t'.attached = t.attached)
    (htasks : t'.tasks.filterMap Task.adder = t.tasks.filterMap Task.adder) : Agrees t' s where
  made := by
    rw [hsame.next]
    exact h.made
  easies := by
    intro o
    rw [hsame.isLive]
    exact h.easies o
  attached := by
    intro o
    rw [hsame.isLive, hatt, hsame.curl]
    exact h.attached o
  adding := h.adding.trans htasks.symm
  multi := h.multi.trans hsame.multi.symm

end Agrees

end Transfers

namespace AmxCurlController

variable {m m' m'' : AmxCurlController} {o : ObjId} {h : AmxCurlHandle}

/-- The call an event is. -/
def Event.call : Event → Option LibCall
  | .libcurl c => some c
  | _ => none

/-- The calls into libcurl so far. -/
def calls (m : AmxCurlController) : List LibCall := m.log.filterMap Event.call

theorem emit_calls (es : List Event) : (m.emit es).calls = m.calls ++ es.filterMap Event.call := by
  unfold calls emit
  rw [List.filterMap_append]

theorem libcurl_calls (c : LibCall) : (m.libcurl c).calls = m.calls ++ [c] := emit_calls _

/-- While libcurl may be called at all. -/
def Tracks (m : AmxCurlController) (s : Libcurl) : Prop :=
  m.transfers.Agrees s ∧ s.isInit = true

/-- The module calls libcurl as it may be called. -/
abbrev Lawful (m m' : AmxCurlController) : Prop := Libcurl.machine.Speaks calls Tracks m m'

/-- An object keeps its easy handle whatever is assigned to its other members. -/
theorem setObj_sameEasies {f : AmxCurl → AmxCurl} (hf : ∀ x, (f x).curl = x.curl) :
    m.transfers.SameEasies (m.setObj o f).transfers where
  next := rfl
  handles := rfl
  curl := by
    intro o'
    show ((m.objs.modify o f).cell o').curl = (m.objs.cell o').curl
    rw [Heap.modify_cell]
    split
    · rename_i heq
      rw [hf, heq]
    · rfl
  multi := rfl

/-! ### Functions that do not call libcurl -/

/-- Nothing is called, and the transfers are the same. -/
structure Mute (m m' : AmxCurlController) : Prop where
  keeps : Keeps m m'
  calls : m'.calls = m.calls

namespace Mute

theorem refl (m : AmxCurlController) : Mute m m := ⟨.refl m, rfl⟩

theorem trans (hm : Mute m m') (hm' : Mute m' m'') : Mute m m'' :=
  ⟨hm.keeps.trans hm'.keeps, hm'.calls.trans hm.calls⟩

theorem emit {es : List Event} (hes : ∀ e ∈ es, e.isMajor = false ∧ e.call = none) :
    Mute m (m.emit es) := by
  refine ⟨.emit fun e he => (hes e he).1, ?_⟩
  rw [emit_calls, List.filterMap_eq_nil_iff.mpr fun e he => (hes e he).2, List.append_nil]

theorem mf {c : MfCall} : Mute m (m.mf c) := emit (by simp [Event.isMajor, Event.call])

theorem returned {c : CallbackOption} {v : Int} : Mute m (m.emit [.returned o c v]) :=
  emit (by simp [Event.isMajor, Event.call])

theorem deleteData {d : Option DataId} : Mute m (m.deleteData d) := by
  refine emit fun e he => ?_
  obtain ⟨d', -, rfl⟩ := List.mem_map.mp he
  exact ⟨rfl, rfl⟩

theorem setObj {f : AmxCurl → AmxCurl} (hf : (f (m.obj o)).transfer = (m.obj o).transfer) :
    Mute m (m.setObj o f) := ⟨.setObj hf, rfl⟩

theorem amxx {x : Amxx} : Mute m { m with amxx := x } := ⟨.amxx, rfl⟩

theorem stack {s : List Frame} (hs : s.filterMap Frame.task = m.stack.filterMap Frame.task) :
    Mute m { m with stack := s } := ⟨.stack hs, rfl⟩

theorem isAmxValid : Mute m (m.isAmxValid o).1 := by
  unfold AmxCurlController.isAmxValid
  split
  · exact .refl m
  · exact .mf

theorem unregisterSPForward {a : AmxPtr} {f : ForwardId × PluginId} :
    Mute m (m.unregisterSPForward a f) := trans .mf .amxx

theorem resetAmxCallbacks : Mute m (m.resetAmxCallbacks o) := by
  refine trans (trans (emit fun e he => ?_) amxx) (setObj rfl)
  obtain ⟨f, -, rfl⟩ := List.mem_map.mp he
  exact ⟨rfl, rfl⟩

theorem setupAmxCallback {c : CallbackOption} {reply : Option ForwardId} :
    Mute m (m.setupAmxCallback o c reply) := by
  have hdrop : Mute m (m.dropForward o c) := by
    unfold AmxCurlController.dropForward
    split
    · exact .refl m
    · exact unregisterSPForward.trans (setObj rfl)
  refine hdrop.trans ?_
  unfold AmxCurlController.setupAmxCallback AmxCurlController.registerForward
  dsimp only
  split
  · exact ((mf.trans amxx).trans mf).trans (setObj rfl)
  · exact mf.trans mf

theorem executeForward {c : CallbackOption} {f : ForwardId} {expected : Int} :
    Mute m (m.executeForward o c f expected) := by
  unfold AmxCurlController.executeForward
  dsimp only
  split
  · exact mf.trans (stack rfl)
  · exact mf.trans returned

theorem dataCallback {c : CallbackOption} {unregistered invalid : Int} :
    Mute m (m.dataCallback o c unregistered invalid) := by
  unfold AmxCurlController.dataCallback
  split
  · exact returned
  · split
    · exact returned
    · have hvalid := isAmxValid (m := m) (o := o)
      split
      · rename_i m₁ he
        rw [he] at hvalid
        exact (hvalid.trans (setObj rfl)).trans returned
      · rename_i m₁ he
        rw [he] at hvalid
        exact hvalid.trans executeForward

theorem captureBody {chunk : List UInt8} : Mute m (m.captureBody o chunk) := by
  unfold AmxCurlController.captureBody
  split
  · split
    · exact (setObj rfl).trans mf
    · exact .refl m
  · exact setObj rfl

theorem writeCallback {chunk : List UInt8} : Mute m (m.writeCallback o chunk) := by
  unfold AmxCurlController.writeCallback
  split
  · exact returned
  · split
    · exact captureBody.trans returned
    · have hvalid := isAmxValid (m := m) (o := o)
      split
      · rename_i m₁ he
        rw [he] at hvalid
        exact (hvalid.trans (setObj rfl)).trans returned
      · rename_i m₁ he
        rw [he] at hvalid
        exact hvalid.trans executeForward

theorem callback {k : Callback} : Mute m (m.callback o k) := by
  cases k with
  | write chunk => exact writeCallback
  | _ => exact dataCallback

theorem dataCallbackReturn {c : CallbackOption} {expected result : Int} :
    Mute m (m.dataCallbackReturn o c expected result) := by
  unfold AmxCurlController.dataCallbackReturn
  dsimp only
  split
  · exact mf.trans returned
  · exact returned

theorem completionReturn {a : AmxPtr} {q : PluginId} {f : ForwardId} {data : Option DataId} :
    Mute m (m.completionReturn a q f data) := deleteData.trans unregisterSPForward

theorem sameEasies (hm : Mute m m') : m.transfers.SameEasies m'.transfers := by
  have hsame : m'.transfers = m.transfers := hm.keeps
  rw [hsame]
  exact ⟨rfl, rfl, fun _ => rfl, rfl⟩

/-- What calls nothing calls nothing that is not allowed. -/
theorem lawful (hm : Mute m m') : Lawful m m' := by
  refine .quiet hm.calls fun s hs => ⟨?_, hs.2⟩
  have hsame : m'.transfers = m.transfers := hm.keeps
  rw [hsame]
  exact hs.1

end Mute

end AmxCurlController

end AmxxCurl
