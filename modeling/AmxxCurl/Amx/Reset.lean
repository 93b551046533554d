/-
What `curl_easy_reset` makes of a handle.

It is to put the handle back to the state it was in when `curl_easy_init` returned it.
`CurlReset` unregisters the forwards, drops the body and the interrupt, and leaves the
options of the easy handle as `InitCurl` does; of the members it does not touch all but one
are written before they are read again.  The one is `data_`: the user data of a callback
option outlives the reset, and is passed to the next forward that is set for the option.
-/
import AmxxCurl.Amx.Bindings
import AmxxCurl.Amx.Forwards
import AmxxCurl.Amx.Setup
import AmxxCurl.Amx.Visible
import AmxxCurl.Lib.Bisimulation

namespace AmxxCurl

open AmxCurlController Varargs
open Transfers (Records)

/-! ### What can be seen of the module -/

namespace AmxCurlController

/-- The words a data callback pushes behind the id, given what libcurl calls it with. -/
def pushed (m : AmxCurlController) : Action → Invocation → Option (List Word)
  | .callback o k, i =>
      if i.option = k.option ∧ (m.executeCalls o k.option).isEmpty = false then
        some (push (i.arguments ((m.obj o).userData i.option)))
      else none
  | _, _ => none

/-- The public that is called on completion, its arguments and the `CURLcode`. -/
def completionCall (m : AmxCurlController) : Action → Option (PerformArgs × CurlCode)
  | .removeReturn _ =>
      match m.stack with
      | .removing o _ res :: _ => if m.valid o then some ((m.obj o).transfer.args, res) else none
      | _ => none
  | _ => none

end AmxCurlController

/-- What plugins, libcurl and AMXX see of a turn that is taken. -/
structure Observation where
  /-- The calls that are made, and the values libcurl is answered. -/
  events : List Event
  forwards : List ForwardCall
  pushed : Invocation → Option (List Word)
  completion : Option (PerformArgs × CurlCode)
  /-- What `curl_get_response_body` reads then. -/
  bodies : AmxCurlHandle → Option (List UInt8)
  /-- The options libcurl goes by then. -/
  options : ObjId → OptionTable

namespace Bound

/-- What a turn does to the controller. -/
def turned (s : Bound) : Turn → Option AmxCurlController.Action
  | .native n => s.action n
  | .other a => some a

/-- What the native comes to that is called. -/
def result (s : Bound) : Turn → Option (Call Int)
  | .native n => if s.ctrl.AtPawn then some (s.outcome n) else none
  | .other _ => none

/-- What is seen of a turn that leads to `s'`. -/
def seen (s : Bound) (t : Turn) (s' : Bound) : Observation where
  events := s'.ctrl.log.drop s.ctrl.log.length
  forwards := ((s.turned t).map s.ctrl.forwardCalls).getD []
  pushed i := (s.turned t).bind fun a => s.ctrl.pushed a i
  completion := (s.turned t).bind s.ctrl.completionCall
  bodies := s'.ctrl.curlGetResponseBody
  options := s'.options

/-- What is seen of a turn: the result of a native, and the rest if the turn can be taken. -/
def observed (s : Bound) (t : Turn) : Option (Call Int) × Option Observation :=
  (s.result t, (s.next t).map (s.seen t))

/-- The module with the handle of `o` as `CreateCurl` makes it, for the same plugin. -/
def renewed (s : Bound) (o : ObjId) : Bound where
  ctrl := s.ctrl.setObj o fun x => .new x.amx x.creator x.curl
  options := s.setOptions o fun _ => (Curl.initCurl o true curleOk curleOk).1

/-- Whatever plugins, libcurl and the server do, they cannot tell the two apart. -/
abbrev Indistinguishable (s t : Bound) : Prop := machine.Indistinguishable observed s t

variable {s s' t t' : Bound} {o : ObjId}

/-- A handle `curl_easy_init` has just returned is as good as new. -/
theorem renewed_created {a : AmxPtr} {e : CurlPtr} {dataCode functionCode : CurlCode}
    (hn : s.next (.native (.easyInit a (some e) dataCode functionCode)) = some s') :
    s'.renewed s.ctrl.objs.next = s' := by
  obtain ⟨hret, hcalled, hopt⟩ := next_native hn
  have hcodes : dataCode = curleOk ∧ functionCode = curleOk :=
    by_contra fun hcodes => easyInit_returns.mp hret ⟨by simp, hcodes⟩
  obtain ⟨rfl, rfl⟩ := hcodes
  obtain ⟨q, -, hnew⟩ := next_new hcalled
  have hobjs : s'.ctrl.objs.modify s.ctrl.objs.next (fun x => .new x.amx x.creator x.curl) =
      s'.ctrl.objs := by
    refine Heap.modify_eq_self _ ?_
    rw [show s'.ctrl.objs.cell s.ctrl.objs.next = .new a q e from hnew]
    rfl
  have hoptions : s'.options s.ctrl.objs.next =
      (Curl.initCurl s.ctrl.objs.next true curleOk curleOk).1 := by
    rw [hopt]
    exact Function.update_self ..
  have hsame : s'.setOptions s.ctrl.objs.next (fun _ =>
      (Curl.initCurl s.ctrl.objs.next true curleOk curleOk).1) = s'.options := by
    unfold setOptions
    rw [← hoptions, Function.update_eq_self]
  unfold renewed setObj
  rw [hobjs, hsame]

/-! ### What is not visible is not seen -/

end Bound

namespace AmxCurlController

variable {m : AmxCurlController} {a : Action} {o : ObjId}

theorem forwardCalls_visible : m.visible.forwardCalls a = m.forwardCalls a := by
  cases a with
  | _ => rfl

theorem removing_of_records (hr : Records m.transfers) : m.Removing := by
  intro o p res rest hs
  have hmem : (o, Task.removing p res) ∈ m.transfers.tasks := by
    unfold transfers
    rw [hs]
    exact List.mem_cons_self ..
  exact (hr.busy hmem).2

/-- A forward is executed for a plugin that is there. -/
theorem valid_of_executes {c : CallbackOption} (hc : (m.executeCalls o c).isEmpty = false) :
    m.valid o = true := by
  unfold executeCalls at hc
  split at hc
  · simp at hc
  · split at hc
    · simp at hc
    · split at hc
      · assumption
      · simp at hc

/-- A forward is executed while the module is attached, and then the user data is visible. -/
theorem pushed_visible {i : Invocation} : m.visible.pushed a i = m.pushed a i := by
  cases a with
  | callback o k =>
      have hcalls : m.visible.executeCalls o k.option = m.executeCalls o k.option := rfl
      unfold pushed
      dsimp only
      rw [hcalls]
      split
      · rename_i hc
        have hv := valid_of_executes hc.2
        unfold valid at hv
        rw [Bool.and_eq_true, Bool.not_eq_true'] at hv
        have hobj : m.visible.obj o = (m.obj o).visible false := congrArg (m.obj o).visible hv.1
        rw [hobj, AmxCurl.visible_userData]
      · rfl
  | _ => rfl

theorem completionCall_visible (hm : m.Removing) :
    m.visible.completionCall a = m.completionCall a := by
  cases a with
  | removeReturn f =>
      have hstack : m.visible.stack = m.stack := rfl
      unfold completionCall
      dsimp only
      rw [hstack]
      split
      · rename_i o p res rest hs
        have hargs : (m.visible.obj o).transfer.args = (m.obj o).transfer.args := by
          show PerformArgs.mk _ _ _ _ = PerformArgs.mk _ _ _ _
          rw [amxCallbackFun_visible (hm hs), taskHandle_visible (hm hs)]
          rfl
        rw [hargs]
        rfl
      · rfl
  | _ => rfl

end AmxCurlController

namespace Bound

variable {s s' t t' : Bound} {o : ObjId}

def visible (s : Bound) : Bound := ⟨s.ctrl.visible, s.options⟩

theorem outcome_visible (n : Native) : s.visible.outcome n = s.outcome n := by
  cases n with
  | _ => rfl

theorem action_visible (n : Native) : s.visible.action n = s.action n := by
  cases n with
  | _ => rfl

theorem optionsAfter_visible (n : Native) : s.visible.optionsAfter n = s.optionsAfter n := by
  cases n with
  | _ => rfl

theorem called_visible (hs : s.ctrl.Removing) (n : Native) :
    (s.visible.called n).map AmxCurlController.visible =
      (s.called n).map AmxCurlController.visible := by
  unfold called
  rw [action_visible]
  cases s.action n with
  | none => exact checked_visible (AmxCurlController.visible_visible (m := s.ctrl))
  | some a => exact AmxCurlController.next_visible hs a

theorem next_visible (hs : s.ctrl.Removing) (t : Turn) :
    (s.visible.next t).map visible = (s.next t).map visible := by
  -- what becomes of the options does not depend on what is left over
  have hpair : ∀ {x y : Option AmxCurlController} (options : ObjId → OptionTable),
      x.map AmxCurlController.visible = y.map AmxCurlController.visible →
      (x.map fun m => (⟨m, options⟩ : Bound)).map visible =
        (y.map fun m => (⟨m, options⟩ : Bound)).map visible := by
    intro x y options hxy
    have hmap := congrArg (Option.map fun m => (⟨m, options⟩ : Bound)) hxy
    rw [Option.map_map, Option.map_map] at hmap ⊢
    exact hmap
  cases t with
  | native n =>
      unfold next
      dsimp only
      rw [outcome_visible, optionsAfter_visible]
      split
      · exact hpair _ (called_visible hs n)
      · rfl
  | other a =>
      unfold next
      dsimp only
      split
      · rfl
      · exact hpair _ (AmxCurlController.next_visible hs a)

theorem turned_visible (t : Turn) : s.visible.turned t = s.turned t := by
  cases t with
  | native n => exact action_visible n
  | other a => rfl

theorem result_visible (t : Turn) : s.visible.result t = s.result t := by
  cases t with
  | native n =>
      unfold result
      dsimp only
      rw [outcome_visible]
      rfl
  | other a => rfl

theorem seen_visible (hs : s.ctrl.Removing) (t : Turn) : s.visible.seen t = s.seen t := by
  have hforwards : s.visible.ctrl.forwardCalls = s.ctrl.forwardCalls :=
    funext fun a => forwardCalls_visible
  have hpushed : s.visible.ctrl.pushed = s.ctrl.pushed :=
    funext fun a => funext fun i => pushed_visible
  have hcompletion : s.visible.ctrl.completionCall = s.ctrl.completionCall :=
    funext fun a => completionCall_visible hs
  funext s'
  unfold seen
  rw [turned_visible, hforwards, hpushed, hcompletion]
  rfl

theorem observed_visible (hs : s.ctrl.Removing) (t : Turn) :
    s.visible.observed t = s.observed t := by
  -- nothing is seen of the state after the turn that is not visible
  have hfactor : ∀ x : Option Bound, (x.map visible).map (s.seen t) = x.map (s.seen t) := by
    intro x
    rw [Option.map_map]
    rfl
  unfold observed
  rw [result_visible, seen_visible hs, ← hfactor, next_visible hs, hfactor]

theorem removing_of_visible (hst : s.visible = t.visible) (hs : s.ctrl.Removing) :
    t.ctrl.Removing := by
  have hvisible : s.visible.ctrl.Removing := hs
  rw [hst] at hvisible
  exact hvisible

theorem run_removing {C : Bound → Turn → Prop} {tr : List Turn} (h : machine.Run C tr s) :
    s.ctrl.Removing := by
  obtain ⟨tr', hr⟩ := run_ctrl h
  exact removing_of_records (run_records hr)

/-- States that differ in what is left over are bisimilar as long as one of them is reached. -/
theorem visible_bisimulation : machine.Bisimulation observed fun s t : Bound =>
    (∃ tr, machine.Run Machine.Free tr s) ∧ s.visible = t.visible where
  seen := by
    intro s t a hR
    obtain ⟨⟨tr, hr⟩, hst⟩ := hR
    have hs := run_removing hr
    rw [← observed_visible hs, hst, observed_visible (removing_of_visible hst hs)]
  next := by
    intro s t a hR
    obtain ⟨⟨tr, hr⟩, hst⟩ := hR
    have hs := run_removing hr
    have hmap : (machine.next s a).map visible = (machine.next t a).map visible := by
      show (s.next a).map visible = (t.next a).map visible
      rw [← next_visible hs, hst, next_visible (removing_of_visible hst hs)]
    cases hn : machine.next s a with
    | none =>
        rw [hn] at hmap
        rw [Option.map_eq_none_iff.mp hmap.symm]
        exact .none
    | some s' =>
        rw [hn] at hmap
        obtain ⟨t', ht, hst'⟩ := Option.map_eq_some_iff.mp hmap.symm
        rw [ht]
        exact .some ⟨⟨_, hr.snoc trivial hn⟩, hst'.symm⟩

/-! ### What a reset leaves -/

/-- What the native does, where it returns and the handle is idle. -/
theorem reset_next {k : AmxCurlHandle} {dataCode functionCode : CurlCode} (hidle : s.ctrl.Idle k o)
    (hn : s.next (.native (.easyReset k dataCode functionCode)) = some s') :
    s.ctrl.AtPawn ∧
      s'.ctrl = (s.ctrl.resetAmxCallbacks o).emit
        (.libcurl (.easyReset o) :: bindCallback o curleOk) ∧
      s'.options o = (Curl.initCurl o true curleOk curleOk).1 := by
  obtain ⟨hret, hcalled, hopt⟩ := next_native hn
  have hcodes : dataCode = curleOk ∧ functionCode = curleOk :=
    by_contra fun hcodes => easyReset_returns.mp hret ⟨⟨o, hidle⟩, hcodes⟩
  obtain ⟨rfl, rfl⟩ := hcodes
  have hbusy : ¬(s.ctrl.obj o).isTransferInProgress = true := by
    rw [hidle.2]
    exact Bool.false_ne_true
  rw [← and_assoc]
  constructor
  · have hnext : s.ctrl.next (.easyReset k) = some s'.ctrl := hcalled
    generalize s'.ctrl = m' at hnext ⊢
    cases next_fires hnext with
    | easyReset h hp =>
        refine ⟨hp, ?_⟩
        unfold AmxCurlController.curlReset
        rw [hidle.1]
        exact if_neg hbusy
  · have hafter : s.optionsAfter (.easyReset k curleOk curleOk) = s.setOptions o fun _ =>
        (Curl.initCurl o true curleOk curleOk).1 := by
      simp only [optionsAfter, hidle.1]
      rw [if_neg hbusy]
      rfl
    rw [hopt, hafter, setOptions_self]

theorem reset_obj {k : AmxCurlHandle} {dataCode functionCode : CurlCode} (hidle : s.ctrl.Idle k o)
    (hn : s.next (.native (.easyReset k dataCode functionCode)) = some s') :
    s'.ctrl.obj o = (s.ctrl.obj o).reset := by
  rw [(reset_next hidle hn).2.1]
  exact Heap.modify_cell_self s.ctrl.objs o AmxCurl.reset

/-- **An object that was reset looks new**, unless there is user data to be seen. -/
theorem reset_visible (x : AmxCurl) (d : Bool) (hidle : x.isTransferInProgress = false)
    (hempty : x.amxCallbackData = none ∧ x.amxCallbackDataLen = 0)
    (hkept : x.cleanupDeferred = false) (hd : d = true ∨ ∀ c, x.userData c = 0) :
    x.reset.visible d = (AmxCurl.new x.amx x.creator x.curl).visible d := by
  have hdata : (x.reset.visible d).data =
      ((AmxCurl.new x.amx x.creator x.curl).visible d).data := by
    funext c
    rcases hd with hd | hzero
    · rw [hd, AmxCurl.visible_data_detached, AmxCurl.visible_data_detached]
    · cases d with
      | true => rw [AmxCurl.visible_data_detached, AmxCurl.visible_data_detached]
      | false =>
          have hreset : x.reset.userData c = x.userData c := rfl
          have hnew : (AmxCurl.new x.amx x.creator x.curl).userData c = 0 := rfl
          rw [AmxCurl.visible_data, AmxCurl.visible_data, hreset, hnew, hzero c]
  have hsame : x.reset.visible d = { (AmxCurl.new x.amx x.creator x.curl).visible d with
      amxCallbackFun := if x.isTransferInProgress then x.amxCallbackFun else 0
      taskHandle := if x.isTransferInProgress then x.taskHandle else 0
      amxCallbackData := x.amxCallbackData
      amxCallbackDataLen := x.amxCallbackDataLen
      isTransferInProgress := x.isTransferInProgress
      cleanupDeferred := x.cleanupDeferred
      data := (x.reset.visible d).data } := rfl
  rw [hsame, hdata, hidle, hempty.1, hempty.2, hkept]
  rfl

variable {C : Bound → Turn → Prop} {tr : List Turn} {k : AmxCurlHandle}
  {dataCode functionCode : CurlCode}

theorem reset_renews (h : machine.Run C tr s) (hidle : s.ctrl.Idle k o)
    (hkept : (s.ctrl.obj o).cleanupDeferred = false)
    (hn : s.next (.native (.easyReset k dataCode functionCode)) = some s')
    (hd : s.ctrl.isDetached = true ∨ ∀ c, (s.ctrl.obj o).userData c = 0) :
    s'.Indistinguishable (s'.renewed o) := by
  obtain ⟨-, hctrl, hoptions⟩ := reset_next hidle hn
  obtain ⟨tr', hr⟩ := run_ctrl h
  have hobj := reset_obj hidle hn
  have hdetached : s'.ctrl.isDetached = s.ctrl.isDetached := by
    rw [hctrl]
    rfl
  have hlooks : (s'.ctrl.obj o).visible s'.ctrl.isDetached =
      (AmxCurl.new (s'.ctrl.obj o).amx (s'.ctrl.obj o).creator (s'.ctrl.obj o).curl).visible
        s'.ctrl.isDetached := by
    rw [hobj, hdetached]
    exact reset_visible (s.ctrl.obj o) _ hidle.2 (run_empty hr o hidle.2) hkept hd
  have hvisible : s'.visible = (s'.renewed o).visible := by
    have hobjs : (s'.ctrl.objs.modify o fun x => .new x.amx x.creator x.curl).map
        (·.visible s'.ctrl.isDetached) = s'.ctrl.objs.map (·.visible s'.ctrl.isDetached) := by
      rw [Heap.map_modify (k := fun x => x) _ hlooks.symm]
      exact Heap.modify_id ..
    have hoptions' : (s'.renewed o).options = s'.options := by
      show Function.update s'.options o (Curl.initCurl o true curleOk curleOk).1 = s'.options
      rw [← hoptions, Function.update_eq_self]
    show Bound.mk _ _ = Bound.mk _ _
    rw [hoptions']
    exact congrArg (fun objs => Bound.mk { s'.ctrl with objs } s'.options) hobjs.symm
  have hn : machine.next s (.native (.easyReset k dataCode functionCode)) = some s' := hn
  exact visible_bisimulation.indistinguishable ⟨⟨_, h.free.snoc trivial hn⟩, hvisible⟩

/-! ### User data that is left is passed on -/

theorem exists_callback (c : CallbackOption) : ∃ k : Callback, k.option = c := by
  cases c with
  | writeFunction => exact ⟨.write [], rfl⟩
  | readFunction => exact ⟨.read, rfl⟩
  | ioctlFunction => exact ⟨.ioctl, rfl⟩
  | seekFunction => exact ⟨.seek, rfl⟩
  | sockoptFunction => exact ⟨.sockopt, rfl⟩
  | progressFunction => exact ⟨.progress, rfl⟩
  | headerFunction => exact ⟨.header 0, rfl⟩
  | debugFunction => exact ⟨.debug, rfl⟩
  | sslCtxFunction => exact ⟨.sslCtx, rfl⟩
  | interleaveFunction => exact ⟨.interleave 0, rfl⟩

theorem exists_invocation (c : CallbackOption) : ∃ i : Invocation, i.option = c := by
  cases c with
  | writeFunction => exact ⟨.write 0 0 0, rfl⟩
  | readFunction => exact ⟨.read 0 0 0, rfl⟩
  | ioctlFunction => exact ⟨.ioctl 0 0, rfl⟩
  | seekFunction => exact ⟨.seek 0 0, rfl⟩
  | sockoptFunction => exact ⟨.sockopt 0 0, rfl⟩
  | progressFunction => exact ⟨.progress 0 0 0 0, rfl⟩
  | headerFunction => exact ⟨.header 0 0 0, rfl⟩
  | debugFunction => exact ⟨.debug 0 0 0 0, rfl⟩
  | sslCtxFunction => exact ⟨.sslCtx 0 0, rfl⟩
  | interleaveFunction => exact ⟨.interleave 0 0 0, rfl⟩

/-- The user data is among the words. -/
theorem push_inj {i : Invocation} {w w' : Word} (h : push (i.arguments w) = push (i.arguments w')) :
    w = w' := by
  cases i <;> simpa [push, Invocation.arguments, Arg.words] using h

/-- Only `SetData` and the constructor write `data_`. -/
theorem next_data {m m' : AmxCurlController} {a : AmxCurlController.Action}
    (hn : m.next a = some m') (hset : ∀ h d, a ≠ .setOption h d)
    (hinit : ∀ b reply, a ≠ .easyInit b reply) (o : ObjId) : (m'.obj o).data = (m.obj o).data := by
  rw [next_obj hn]
  rcases m.after_touch a o with ht | ⟨-, b, reply, q, e, ha, -⟩
  · generalize m.after a o = y at ht ⊢
    cases ht with
    | setData h c v ha hh => exact absurd ha (hset h _)
    | destroyed => cases m.valid o <;> rfl
    | _ => rfl
  · exact absurd ha (hinit b reply)

theorem toOption_number (c : CallbackOption) : toOption c.number = c.number := by
  cases c <;> rfl

theorem number_isCell (c : CallbackOption) : IsCallbackCell c.number := by
  unfold IsCallbackCell
  rw [toOption_number]
  exact number_isFunction c

/-- A native that returns has its action taken. -/
theorem next_of_action {n : Native} {a : AmxCurlController.Action} {m : AmxCurlController}
    (hret : (s.outcome n).Returns) (ha : s.action n = some a) (hm : s.ctrl.next a = some m) :
    s.next (.native n) = some ⟨m, s.optionsAfter n⟩ := by
  obtain ⟨r, hr⟩ := hret
  unfold next called
  dsimp only
  rw [hr, ha]
  dsimp only
  rw [hm]
  rfl

theorem next_turned {x : Turn} {a : AmxCurlController.Action} (ha : s.turned x = some a)
    (hn : s.next x = some s') : s.ctrl.next a = some s'.ctrl := by
  cases x with
  | native n =>
      obtain ⟨-, hcalled, -⟩ := next_native hn
      rcases called_eq hcalled with ⟨a', ha', hnext⟩ | ⟨hnone, -⟩
      · obtain rfl := Option.some.inj (ha'.symm.trans ha)
        exact hnext
      · exact absurd (hnone.symm.trans ha) (by simp)
  | other a' =>
      obtain rfl := Option.some.inj ha
      exact (next_other hn).2.1

/-- Two states that look the same, where only one of them has user data for the option. -/
structure Differ (s t : Bound) (o : ObjId) (c : CallbackOption) : Prop where
  same : s.Indistinguishable t
  data : (s.ctrl.obj o).userData c ≠ 0
  new : (t.ctrl.obj o).userData c = 0

/-- A turn that does not set user data leaves them so. -/
theorem Differ.next {c : CallbackOption} (h : Differ s t o c) {x : Turn}
    {a : AmxCurlController.Action} (ha : ∀ s, turned s x = some a)
    (hset : ∀ h d, a ≠ .setOption h d) (hinit : ∀ b reply, a ≠ .easyInit b reply)
    (hn : s.next x = some s') : ∃ t', Differ s' t' o c := by
  have hmachine : machine.next s x = some s' := hn
  obtain ⟨t', ht, hsame⟩ := h.same.next hmachine
  have hkeep : ∀ {s s' : Bound}, s.next x = some s' →
      (s'.ctrl.obj o).userData c = (s.ctrl.obj o).userData c := by
    intro s s' hn
    have hdata := next_data (next_turned (ha s) hn) hset hinit o
    rw [AmxCurl.userData_eq, AmxCurl.userData_eq, hdata]
  refine ⟨t', hsame, ?_, ?_⟩
  · rw [hkeep hn]
    exact h.data
  · rw [hkeep ht]
    exact h.new

/-- The handle is idle, its plugin is in control, and its forwards would run. -/
structure Primed (s : Bound) (k : AmxCurlHandle) (o : ObjId) : Prop where
  pawn : s.ctrl.AtPawn
  idle : s.ctrl.Idle k o
  owns : s.ctrl.easies.lookup (s.ctrl.obj o).curl = some o
  attached : s.ctrl.isDetached = false
  calm : (s.ctrl.obj o).interrupt = false

variable {c : CallbackOption}

/-- A plugin is loaded where the handle came from, if there is none. -/
theorem Primed.load (hs : Primed s k o) (h : Differ s t o c)
    (hfree : ∃ f, s.ctrl.amxx.forwards f = none) :
    ∃ s' t' q, Primed s' k o ∧ Differ s' t' o c ∧ (∃ f, s'.ctrl.amxx.forwards f = none) ∧
      s'.ctrl.amxx.loaded (s'.ctrl.obj o).amx = some q := by
  cases hq : s.ctrl.amxx.loaded (s.ctrl.obj o).amx with
  | some q => exact ⟨s, t, q, hs, h, hfree, hq⟩
  | none =>
      let s' : Bound :=
        ⟨{ s.ctrl with amxx := s.ctrl.amxx.load (s.ctrl.obj o).amx hq }, s.options⟩
      have hctrl : s.ctrl.next (.load (s.ctrl.obj o).amx) = some s'.ctrl := dif_pos hq
      have hn : s.next (.other (.load (s.ctrl.obj o).amx)) = some s' := by
        unfold next
        dsimp only
        rw [hctrl]
        rfl
      obtain ⟨t', ht'⟩ := h.next (a := .load (s.ctrl.obj o).amx) (fun _ => rfl)
        (fun _ _ => nofun) (fun _ _ => nofun) hn
      refine ⟨s', t', s.ctrl.amxx.nextPlugin, ⟨hs.pawn, hs.idle, hs.owns, hs.attached, hs.calm⟩, ht',
        hfree, ?_⟩
      show (s.ctrl.amxx.load (s.ctrl.obj o).amx hq).loaded (s.ctrl.obj o).amx = _
      rw [Amxx.load_loaded, if_pos rfl]

/-- A forward is set for the option. -/
theorem Primed.setopt {q : PluginId} {f : ForwardId} (hs : Primed s k o) (h : Differ s t o c)
    (hf : s.ctrl.amxx.forwards f = none) (hq : s.ctrl.amxx.loaded (s.ctrl.obj o).amx = some q) :
    ∃ s' t', Primed s' k o ∧ Differ s' t' o c ∧
      (s'.ctrl.obj o).registeredCallbacks c = some (f, q) ∧
      s'.ctrl.amxx.loaded (s'.ctrl.obj o).amx = some q := by
  let codes : CurlCode × CurlCode := (curleOk, curleOk)
  let n : Native := .easySetopt k c.number 0 (some f) 0 codes.1 codes.2
  have hc : setupOption (toOption c.number) = some c := by
    rw [toOption_number]
    exact setupOption_eq_some.mpr rfl
  have haction : ∀ s : Bound, s.action n = some (.setCallback k (some c) (some f) codes) := by
    intro s
    rw [action_setopt (number_isCell c), hc]
  have hctrl : s.ctrl.next (.setCallback k (some c) (some f) codes) =
      some (s.ctrl.curlSetupAmxCallback k (some c) (some f) codes) := by
    refine if_pos ⟨hs.pawn, fun g hg => ?_⟩
    obtain rfl := Option.some.inj hg
    exact Or.inl hf
  let s' : Bound := ⟨s.ctrl.curlSetupAmxCallback k (some c) (some f) codes, s.optionsAfter n⟩
  have hn : s.next (.native n) = some s' :=
    next_of_action ⟨_, easySetopt_callback (number_isCell c)⟩ (haction s) hctrl
  obtain ⟨t', ht'⟩ := h.next (x := .native n) haction (fun _ _ => nofun) (fun _ _ => nofun) hn
  have hgrant : s.ctrl.granted o (some f) = some (f, q) := by
    unfold granted
    rw [hq]
    rfl
  have hobj : s'.ctrl.obj o = (s.ctrl.obj o).setForward c (some (f, q)) := by
    rw [setopt_obj (number_isCell c) hn hs.idle.1 hc, hgrant]
  have hoff : Offstage s.ctrl (s.ctrl.curlSetupAmxCallback k (some c) (some f) codes) :=
    .curlSetupAmxCallback
  have hkeeps : s'.ctrl.transfers = s.ctrl.transfers := Keeps.curlSetupAmxCallback
  have hphase : s'.ctrl.phase = s.ctrl.phase := congrArg Transfers.phase hkeeps
  have hhandles : s'.ctrl.amxCurl = s.ctrl.amxCurl := congrArg Transfers.handles hkeeps
  have heasies : s'.ctrl.easies = s.ctrl.easies := congrArg Transfers.easies hkeeps
  refine ⟨s', t', ⟨?_, ⟨?_, ?_⟩, ?_, ?_, ?_⟩, ht', ?_, ?_⟩
  · have hpawn := hs.pawn
    unfold AtPawn at hpawn ⊢
    rw [hoff.stack, hphase]
    exact hpawn
  · rw [hhandles]
    exact hs.idle.1
  · rw [hobj]
    exact hs.idle.2
  · rw [heasies, hobj]
    exact hs.owns
  · exact (congrArg Transfers.isDetached hkeeps).trans hs.attached
  · rw [hobj]
    exact hs.calm
  · rw [hobj]
    exact Function.update_self ..
  · have hamxx : s'.ctrl.amxx = (s.ctrl.setupAmxCallback o c (some f)).amxx := by
      show (s.ctrl.curlSetupAmxCallback k (some c) (some f) codes).amxx = _
      unfold curlSetupAmxCallback
      rw [hs.idle.1]
      rfl
    rw [hamxx, (setupAmxCallback_live (c := c) hgrant).2.1, hobj]
    exact hq

/-- libcurl may call the forward of the option. -/
structure Callable (s : Bound) (o : ObjId) (c : CallbackOption) : Prop where
  libcurl : s.ctrl.InLibcurl
  owns : s.ctrl.easies.lookup (s.ctrl.obj o).curl = some o
  calm : (s.ctrl.obj o).interrupt = false
  registered : ∃ f, (s.ctrl.obj o).registeredCallbacks c = some f
  valid : s.ctrl.valid o = true

/-- A perform begins. -/
theorem Primed.perform {q : PluginId} (hs : Primed s k o) (h : Differ s t o c)
    (hreg : ∃ f, (s.ctrl.obj o).registeredCallbacks c = some f)
    (hq : s.ctrl.amxx.loaded (s.ctrl.obj o).amx = some q) :
    ∃ s' t', Callable s' o c ∧ Differ s' t' o c := by
  let n : Native := .easyPerform k true 0 0 0 0 0 0
  have hbusy : ¬(s.ctrl.obj o).isTransferInProgress = true := by
    rw [hs.idle.2]
    exact Bool.false_ne_true
  have hperform : s.ctrl.amxCurlEasyPerform k true 0 0 = s.ctrl.perform o k true 0 none 0 := by
    unfold AmxCurlController.amxCurlEasyPerform AmxCurlController.curlPerformTask
    rw [if_neg (by decide), hs.idle.1]
    exact if_neg hbusy
  have hctrl : s.ctrl.next (.easyPerform k true 0 0) = some (s.ctrl.perform o k true 0 none 0) := by
    rw [← hperform]
    exact if_pos hs.pawn
  let s' : Bound := ⟨s.ctrl.perform o k true 0 none 0, s.optionsAfter n⟩
  have hn : s.next (.native n) = some s' :=
    next_of_action (easyPerform_returns.mpr (by decide)) rfl hctrl
  obtain ⟨t', ht'⟩ := h.next (x := .native n) (fun _ => rfl) (fun _ _ => nofun) (fun _ _ => nofun) hn
  have hobj : s'.ctrl.obj o = (s.ctrl.obj o).start ⟨0, k, none, 0⟩ := by
    rw [obj_of_objs perform_objs, Heap.modify_cell_self]
    rfl
  refine ⟨s', t', ⟨?_, ?_, ?_, ?_, ?_⟩, ht'⟩
  · show InLibcurl (s.ctrl.perform o k true 0 none 0)
    rw [perform_found]
    exact trivial
  · rw [hobj]
    exact hs.owns
  · rw [hobj]
    exact hs.calm
  · rw [hobj]
    exact hreg
  · have hamxx : s'.ctrl.amxx = s.ctrl.amxx := rfl
    have hdetached : s'.ctrl.isDetached = false := hs.attached
    unfold AmxCurlController.valid
    rw [hobj, hamxx, hdetached]
    show (!false && (s.ctrl.amxx.loaded (s.ctrl.obj o).amx).isSome) = true
    rw [hq]
    rfl

/-- The forward is told. -/
theorem Callable.tells (hs : Callable s o c) (h : Differ s t o c) : False := by
  obtain ⟨kc, rfl⟩ := exists_callback c
  obtain ⟨i, hi⟩ := exists_invocation kc.option
  obtain ⟨f, hf⟩ := hs.registered
  have hn : s.next (.other (.callback o kc)) = some ⟨s.ctrl.callback o kc, s.options⟩ := by
    have hctrl : s.ctrl.next (.callback o kc) = some (s.ctrl.callback o kc) :=
      if_pos ⟨hs.libcurl, hs.owns⟩
    unfold next
    dsimp only
    rw [hctrl]
    rfl
  have hcalls : (s.ctrl.executeCalls o kc.option).isEmpty = false := by
    unfold executeCalls
    rw [hs.calm, hf, hs.valid]
    rfl
  have hpushed : s.ctrl.pushed (.callback o kc) i =
      some (push (i.arguments ((s.ctrl.obj o).userData i.option))) := if_pos ⟨hi, hcalls⟩
  have hseen := congrArg Prod.snd (h.same.seen (.other (.callback o kc)))
  have hseen : (s.next (.other (.callback o kc))).map (s.seen (.other (.callback o kc))) =
      (t.next (.other (.callback o kc))).map (t.seen (.other (.callback o kc))) := hseen
  rw [hn] at hseen
  obtain ⟨t', -, ht'⟩ := Option.map_eq_some_iff.mp hseen.symm
  have hsame : t.ctrl.pushed (.callback o kc) i = s.ctrl.pushed (.callback o kc) i :=
    congrFun (congrArg Observation.pushed ht') i
  rw [hpushed] at hsame
  unfold pushed at hsame
  dsimp only at hsame
  split at hsame
  · have hdata := push_inj (Option.some.inj hsame)
    rw [hi, h.new] at hdata
    exact h.data hdata.symm
  · simp at hsame

/--
**When a reset makes a handle as good as new**: when no callback option has user data left,
or the module is detached and runs no forward any more.
-/
theorem reset_renews_iff (h : machine.Run C tr s) (hidle : s.ctrl.Idle k o)
    (hkept : (s.ctrl.obj o).cleanupDeferred = false)
    (hn : s.next (.native (.easyReset k dataCode functionCode)) = some s') :
    s'.Indistinguishable (s'.renewed o) ↔
      s.ctrl.isDetached = true ∨ ∀ c, (s.ctrl.obj o).userData c = 0 := by
  refine ⟨fun hsame => ?_, reset_renews h hidle hkept hn⟩
  by_contra hleft
  rw [not_or, not_forall] at hleft
  obtain ⟨hattached, c, hc⟩ := hleft
  obtain ⟨hpawn, hctrl, -⟩ := reset_next hidle hn
  have hobj := reset_obj hidle hn
  have hmachine : machine.next s (.native (.easyReset k dataCode functionCode)) = some s' := hn
  obtain ⟨tr', hr⟩ := run_ctrl (h.free.snoc trivial hmachine)
  have hhandle : s'.ctrl.amxCurl.lookup k = some o := by
    rw [hctrl]
    exact hidle.1
  have hprimed : Primed s' k o := by
    refine ⟨?_, ⟨hhandle, ?_⟩, (run_records hr).easy.mpr ⟨⟨k, hhandle⟩, rfl⟩, ?_, ?_⟩
    · rw [hctrl]
      exact hpawn
    · rw [hobj]
      exact hidle.2
    · rw [hctrl]
      exact Bool.eq_false_iff.mpr hattached
    · rw [hobj]
      rfl
  have hdiffer : Differ s' (s'.renewed o) o c := by
    refine ⟨hsame, ?_, ?_⟩
    · rw [hobj]
      exact hc
    · have hnew : (s'.renewed o).ctrl.obj o =
          .new (s'.ctrl.obj o).amx (s'.ctrl.obj o).creator (s'.ctrl.obj o).curl :=
        Heap.modify_cell_self s'.ctrl.objs o fun x => .new x.amx x.creator x.curl
      rw [hnew]
      rfl
  -- the plugin is loaded, the forward set, and the perform begun
  obtain ⟨s₁, t₁, q, hprimed₁, hdiffer₁, ⟨f, hf⟩, hq⟩ :=
    hprimed.load hdiffer (run_bounded hr).free
  obtain ⟨s₂, t₂, hprimed₂, hdiffer₂, hreg, hq₂⟩ := hprimed₁.setopt hdiffer₁ hf hq
  obtain ⟨s₃, t₃, hcallable, hdiffer₃⟩ := hprimed₂.perform hdiffer₂ ⟨_, hreg⟩ hq₂
  exact hcallable.tells hdiffer₃

/-- A plugin has set `CURLOPT_WRITEDATA` to 5. -/
def dataSet : Bound :=
  (machine.exec Machine.Free boot [.other (.load 7), .native (.easyInit 7 (some 100) 0 0),
    .native (.easySetopt 1 Curlopt.writeData 5 none 0 0 0)]).get (by decide)

/-- It resets the handle. -/
def dataKept : Bound := (dataSet.next (.native (.easyReset 1 0 0))).get (by decide)

/-- A `WRITEFUNCTION` is set, and a transfer runs as far as the first chunk. -/
def firstChunk : List Turn :=
  [.native (.easySetopt 1 Curlopt.writeFunction 0 (some 0) 0 0 0),
    .native (.easyPerform 1 true 3 0 0 0 0 0), .other (.addReturn true), .other .poll,
    .other (.callback 0 (.write [104]))]

theorem reset_renews_iff_dataKept : dataKept.Indistinguishable (dataKept.renewed 0) ↔
    dataSet.ctrl.isDetached = true ∨ ∀ c, (dataSet.ctrl.obj 0).userData c = 0 :=
  reset_renews_iff (Machine.run_of_exec (Option.some_get _).symm : machine.Run _ _ dataSet)
    (k := 1) (by decide) (by decide) (Option.some_get _).symm

/-- After the reset the callback is told 5, where one of a new handle is told 0. -/
theorem data_outlives_reset : dataSet.ctrl.Idle 1 0 ∧
    (dataSet.ctrl.obj 0).cleanupDeferred = false ∧
    dataSet.next (.native (.easyReset 1 0 0)) = some dataKept ∧
    ¬dataKept.Indistinguishable (dataKept.renewed 0) := by
  refine ⟨by decide, by decide, (Option.some_get _).symm, fun hsame => ?_⟩
  have htold := congrArg (fun l => (l.getLast?.bind Prod.snd).bind fun x : Observation =>
    x.pushed (.write 1 1 1)) (hsame firstChunk)
  revert htold
  decide

end Bound

end AmxxCurl
