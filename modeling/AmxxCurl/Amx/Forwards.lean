/-
The forward ids the module holds, from their registration to their release.

AMXX hands an id that has been given back to whoever registers next, so an id that is
used too late is somebody else's forward.  `forwardLog` is what the log has of calls about
forwards, each with the id that AMXX returned or was given; `next_forwardLog` says which
of them a step adds.
-/
import AmxxCurl.Amx.Callbacks
import AmxxCurl.Amx.Handles
import AmxxCurl.Amx.Objects
import AmxxCurl.Amx.Teardown
import AmxxCurl.Lib.Lease

namespace AmxxCurl

open AmxCurlController
open Transfers (Records)
open Plugins (Sound)

/-- A call about forwards; `id` is what AMXX returns or is given, `none` being -1. -/
inductive ForwardCall
  /-- `MF_RegisterSPForwardByName`. -/
  | registerByName (o : ObjId) (c : CallbackOption) (id : Option ForwardId)
  /-- `MF_RegisterSPForward`. -/
  | register (id : ForwardId)
  | unregister (id : ForwardId)
  | execute (id : ForwardId) (user : ForwardUser)

namespace ForwardCall

/-- The lease a call is about. -/
def lease : ForwardCall → Option (Lease ForwardId ForwardUser)
  | registerByName o c (some i) => some (.acquire i (.option o c))
  | registerByName _ _ none => none
  | register i => some (.acquire i .completion)
  | unregister i => some (.release i)
  | execute i user => some (.use i user)

end ForwardCall

namespace AmxCurlController

/-- The call about forwards that is logged. -/
def Event.forwardCall : Event → Option ForwardCall
  | .mf (.registerSPForwardByName _ o c id) _ => some (.registerByName o c id)
  | .mf (.registerSPForward _ _ id) _ => some (.register id)
  | .mf (.unregisterSPForward _ id) _ => some (.unregister id)
  | .mf (.executeForward _ _ id user) _ => some (.execute id user)
  | _ => none

variable (m : AmxCurlController)

/-! ### The calls of a step -/

/-- `SetupAmxCallback`: the id the option has is given up, and another asked for. -/
def setupCalls (o : ObjId) (c : CallbackOption) (reply : Option ForwardId) : List ForwardCall :=
  (((m.obj o).registeredCallbacks c).toList.map fun f => .unregister f.1) ++
    [.registerByName o c ((m.granted o reply).map Prod.fst)]

/-- `ResetAmxCallbacks`. -/
def releaseCalls (o : ObjId) : List ForwardCall := (m.obj o).forwards.map fun f => .unregister f.1

/-- `~CurlCallbackAmx`. -/
def destroyCalls (o : ObjId) : List ForwardCall := if m.valid o then m.releaseCalls o else []

/-- A data callback. -/
def executeCalls (o : ObjId) (c : CallbackOption) : List ForwardCall :=
  if (m.obj o).interrupt then []
  else
    match (m.obj o).registeredCallbacks c with
    | none => []
    | some f => if m.valid o then [.execute f.1 (.option o c)] else []

/-- `OnPerformComplete`, with the id `MF_RegisterSPForward` returns. -/
def completeCalls (o : ObjId) (f : ForwardId) : List ForwardCall :=
  if m.valid o then [.register f, .execute f .completion] else []

/-- One round of `SweepDeferredCleanups`. -/
def sweepCalls (h : AmxCurlHandle) : List ForwardCall :=
  match m.amxCurl.lookup h with
  | none => []
  | some o => if m.Due h o then m.destroyCalls o else []

/-- The calls about forwards that an action makes. -/
def forwardCalls : Action → List ForwardCall
  | .setCallback h (some c) reply _ =>
      match m.amxCurl.lookup h with
      | none => []
      | some o => m.setupCalls o c reply
  | .easyCleanup h =>
      match m.amxCurl.lookup h with
      | none => []
      | some o => if (m.obj o).isTransferInProgress then [] else m.destroyCalls o
  | .easyReset h =>
      match m.amxCurl.lookup h with
      | none => []
      | some o => if (m.obj o).isTransferInProgress then [] else m.releaseCalls o
  | .sweep order => order.flatMap m.sweepCalls
  | .teardown _ =>
      match m.phase with
      | .clearing _ (h :: _) =>
          match m.amxCurl.lookup h with
          | none => []
          | some o => m.destroyCalls o
      | _ => []
  | .callback o k => m.executeCalls o k.option
  | .removeReturn f =>
      match m.stack with
      | .removing o _ _ :: _ => m.completeCalls o f
      | _ => []
  | .pawnReturn _ =>
      match m.stack with
      | .completion _ _ f _ :: _ => [.unregister f]
      | _ => []
  | _ => []

/-! ### The calls in the log -/

/-- The calls about forwards in the log. -/
def forwardLog : List ForwardCall := m.log.filterMap Event.forwardCall

variable {m} {m' : AmxCurlController} {o : ObjId} {h : AmxCurlHandle} {a : Action}

/-- The plugin side has the same. -/
theorem forwardLog_eq : m.forwardLog = m.plugins.log.filterMap Event.forwardCall := by
  have hnaming : ∀ e : Event, e.isNaming = false → e.forwardCall = none := by
    intro e he
    cases e with
    | mf c d => cases c <;> first | rfl | nomatch he
    | _ => rfl
  show m.log.filterMap Event.forwardCall = (m.log.filter Event.isNaming).filterMap Event.forwardCall
  rw [List.filterMap_filter]
  refine List.filterMap_congr fun e _ => ?_
  by_cases he : e.isNaming = true
  · rw [if_pos he]
  · rw [if_neg he]
    exact hnaming e (Bool.eq_false_iff.mpr he)

theorem forwardLog_of_spares (h : Spares m m') : m'.forwardLog = m.forwardLog := by
  rw [forwardLog_eq, forwardLog_eq, show m'.plugins = m.plugins from h]

theorem forwardLog_of_log (h : m'.log = m.log) : m'.forwardLog = m.forwardLog :=
  congrArg (List.filterMap Event.forwardCall) h

/-- One call that is about something else. -/
theorem forwardLog_other {e : Event} (h : m'.log = m.log ++ [e]) (he : e.forwardCall = none) :
    m'.forwardLog = m.forwardLog := by
  unfold forwardLog
  rw [h, List.filterMap_append, List.filterMap_cons_none he]
  exact List.append_nil _

/-- A step that says nothing about forwards. -/
theorem forwardLog_silent {calls : List ForwardCall} (h : m'.forwardLog = m.forwardLog)
    (hcalls : calls = []) : m'.forwardLog = m.forwardLog ++ calls := by
  rw [h, hcalls]
  exact (List.append_nil _).symm

theorem setup_forwardLog {c : CallbackOption} {reply : Option ForwardId} :
    ((m.plugins.drop o c).register o c reply).log.filterMap Event.forwardCall =
      m.forwardLog ++ m.setupCalls o c reply := by
  have hdrop : (m.plugins.drop o c).log.filterMap Event.forwardCall = m.forwardLog ++
      ((m.obj o).registeredCallbacks c).toList.map fun f => .unregister f.1 := by
    unfold Plugins.drop
    cases hf : (m.obj o).registeredCallbacks c with
    | none =>
        rw [show (m.plugins.obj o).registered c = none from hf]
        rw [forwardLog_eq]
        exact (List.append_nil _).symm
    | some f =>
        rw [show (m.plugins.obj o).registered c = some f from hf, forwardLog_eq]
        exact List.filterMap_append
  have hid : (m.plugins.drop o c).grantedId o reply = (m.granted o reply).map Prod.fst := by
    have hless : Plugins.Less (m.plugins.obj o) ((m.plugins.drop o c).obj o) :=
      m.plugins.drop_less
    have hamx : ((m.plugins.drop o c).obj o).amx = (m.obj o).amx := hless.amx
    have hloaded : (m.plugins.drop o c).amxx.loaded = m.amxx.loaded := m.plugins.drop_loaded
    unfold Plugins.grantedId granted
    rw [hamx, hloaded]
    cases m.amxx.loaded (m.obj o).amx with
    | none => rfl
    | some q => cases reply <;> rfl
  rw [Plugins.register_log, hid, List.filterMap_append, hdrop, List.append_assoc]
  rfl

theorem release_forwardLog : (m.plugins.release o).log.filterMap Event.forwardCall =
    m.forwardLog ++ m.releaseCalls o := by
  rw [Plugins.release_log, List.filterMap_append, ← forwardLog_eq]
  refine congrArg (m.forwardLog ++ ·) ?_
  unfold releaseCalls
  rw [List.filterMap_map]
  exact congrFun (List.filterMap_eq_map
    (f := fun f : ForwardId × PluginId => ForwardCall.unregister f.1)) _

theorem destroy_forwardLog : (m.plugins.destroy o).log.filterMap Event.forwardCall =
    m.forwardLog ++ m.destroyCalls o := by
  have hvalid : m.plugins.isValid o = m.valid o := rfl
  unfold Plugins.destroy destroyCalls
  rw [hvalid]
  split
  · exact release_forwardLog
  · rw [forwardLog_eq]
    exact (List.append_nil _).symm

theorem execute_forwardLog {c : CallbackOption} {f : ForwardId} {expected : Int} :
    (m.executeForward o c f expected).forwardLog =
      m.forwardLog ++ [.execute f (.option o c)] := by
  rw [forwardLog_eq, executeForward_plugins, forwardLog_eq]
  exact List.filterMap_append

/-- `IsAmxValid` on the way to a forward. -/
theorem isAmxValid_forwardLog : (m.isAmxValid o).1.forwardLog = m.forwardLog :=
  forwardLog_of_spares .isAmxValid

/-- A data callback, up to its forward. -/
theorem callback_forwardLog {k : Callback} : (m.callback o k).forwardLog =
    m.forwardLog ++ m.executeCalls o k.option := by
  have hnone : m.forwardLog = m.forwardLog ++ [] := (List.append_nil _).symm
  have hlog := isAmxValid_forwardLog (m := m) (o := o)
  have hvalid := isAmxValid_valid (m := m) (o := o)
  -- what is common to all of them, behind the check of `interrupt_`
  have hgone : ∀ {m₁ : AmxCurlController} {c : CallbackOption} {f : ForwardId × PluginId} {v : Int},
      m.isAmxValid o = (m₁, false) →
      ((m₁.setObj o fun x => { x with interrupt := true }).emit [.returned o c v]).forwardLog =
        m.forwardLog ++ if m.valid o then [.execute f.1 (.option o c)] else [] := by
    intro m₁ c f v he
    rw [he] at hlog hvalid
    rw [if_neg (by rw [← hvalid]; exact Bool.false_ne_true)]
    exact (forwardLog_of_spares (Spares.trans (.setObj rfl) .returned)).trans (hlog.trans hnone)
  have hfound : ∀ {m₁ : AmxCurlController} {c : CallbackOption} {f : ForwardId × PluginId}
      {expected : Int}, m.isAmxValid o = (m₁, true) →
      (m₁.executeForward o c f.1 expected).forwardLog =
        m.forwardLog ++ if m.valid o then [.execute f.1 (.option o c)] else [] := by
    intro m₁ c f expected he
    rw [he] at hlog hvalid
    rw [if_pos hvalid.symm, execute_forwardLog, hlog]
  have hdata : ∀ {c : CallbackOption} {u v : Int}, (m.dataCallback o c u v).forwardLog =
      m.forwardLog ++ m.executeCalls o c := by
    intro c u v
    unfold dataCallback executeCalls
    split
    · exact (forwardLog_of_spares .returned).trans hnone
    · cases hf : (m.obj o).registeredCallbacks c with
      | none => exact (forwardLog_of_spares .returned).trans hnone
      | some f =>
          dsimp only
          split
          · rename_i m₁ he
            exact hgone he
          · rename_i m₁ he
            exact hfound he
  cases k with
  | write chunk =>
      have hoption : (Callback.write chunk).option = .writeFunction := rfl
      have hcallback : m.callback o (.write chunk) = m.writeCallback o chunk := rfl
      rw [hoption, hcallback]
      unfold writeCallback executeCalls
      split
      · exact (forwardLog_of_spares .returned).trans hnone
      · cases hf : (m.obj o).registeredCallbacks .writeFunction with
        | none => exact (forwardLog_of_spares (Spares.trans .captureBody .returned)).trans hnone
        | some f =>
            dsimp only
            split
            · rename_i m₁ he
              exact hgone he
            · rename_i m₁ he
              exact hfound he
  | _ => exact hdata

/-- `OnPerformComplete`, up to its forward. -/
theorem performRemoved_forwardLog {p : PerformId} {f : ForwardId} :
    (m.performRemoved o p f).forwardLog =
      m.forwardLog ++ m.completeCalls o f := by
  have hnone : m.forwardLog = m.forwardLog ++ [] := (List.append_nil _).symm
  unfold completeCalls
  rcases performRemoved_plugins (m := m) (o := o) (p := p) (f := f) with
    ⟨heq, hnot⟩ | ⟨q, data, hd, hq, heq⟩
  · have hvalid : m.valid o = false := by
      unfold valid
      rcases hnot with hd | hq
      · rw [hd]
        rfl
      · rw [hq]
        exact Bool.and_false _
    rw [hvalid, if_neg Bool.false_ne_true]
    exact (forwardLog_of_spares heq).trans hnone
  · have hvalid : m.valid o = true := by
      unfold valid
      rw [hd, hq]
      rfl
    rw [if_pos hvalid, forwardLog_eq, heq, Plugins.complete_log, List.filterMap_append,
      ← forwardLog_eq]
    rfl

/-- Destroying one object leaves the calls of the other rounds of a sweep what they were. -/
theorem sweepCalls_destroy {o' : ObjId} {free : List AmxCurlHandle} {k : AmxCurlHandle}
    (hinj : m.amxCurl.Injective) (hh : m.amxCurl.lookup h = some o') (hk : k ≠ h) :
    sweepCalls ({ m with
      amxCurl := m.amxCurl.erase h
      freeHandles := free }.destroyAmxCurl o') k = m.sweepCalls k := by
  let m₁ : AmxCurlController := { m with amxCurl := m.amxCurl.erase h, freeHandles := free }
  have hlookup : (m₁.destroyAmxCurl o').amxCurl.lookup k = m.amxCurl.lookup k := by
    rw [(destroyAmxCurl_obj o').1]
    exact (Table.lookup_erase_if ..).trans (if_neg hk)
  show (m₁.destroyAmxCurl o').sweepCalls k = m.sweepCalls k
  unfold sweepCalls
  rw [hlookup]
  cases hko : m.amxCurl.lookup k with
  | none => rfl
  | some o =>
      dsimp only
      have hne : o ≠ o' := by
        rintro rfl
        exact hk (hinj hko hh)
      have hobj : (m₁.destroyAmxCurl o').obj o = m.obj o := by
        rw [obj_of_objs destroyAmxCurl_objs, cell_modify, if_neg hne]
      have hvalid : (m₁.destroyAmxCurl o').valid o = m.valid o := destroyAmxCurl_valid
      have hdue : (m₁.destroyAmxCurl o').Due k o ↔ m.Due k o := by
        unfold Due Idle
        rw [hlookup, hobj]
      refine if_congr hdue ?_ rfl
      unfold destroyCalls releaseCalls
      rw [hobj, hvalid]

/-- A sweep, round by round. -/
theorem sweepDeferredCleanups_forwardLog {order : List AmxCurlHandle} :
    ∀ {m : AmxCurlController}, m.amxCurl.Injective → order.Nodup →
      (m.sweepDeferredCleanups order).forwardLog =
        m.forwardLog ++ order.flatMap m.sweepCalls := by
  induction order with
  | nil =>
      intro m _ _
      exact (List.append_nil _).symm
  | cons h order ih =>
      intro m hinj hnodup
      obtain ⟨hnot, hnodup⟩ := List.nodup_cons.mp hnodup
      show ((m.sweepOne h).sweepDeferredCleanups order).forwardLog = _
      rw [List.flatMap_cons, ← List.append_assoc]
      by_cases hdue : ∃ o', m.Due h o'
      · obtain ⟨o', hdue⟩ := hdue
        have hh := hdue.1.1
        have hcalls : m.sweepCalls h = m.destroyCalls o' := by
          simp only [sweepCalls, hh]
          exact if_pos hdue
        rw [sweepOne_due hdue, ih ?_ hnodup, hcalls]
        · refine congrArg₂ (· ++ ·) ?_ (List.flatMap_congr fun k hk => ?_)
          · rw [forwardLog_eq, destroyAmxCurl_plugins]
            exact destroy_forwardLog
          · exact sweepCalls_destroy hinj hh fun he => hnot (he ▸ hk)
        · rw [(destroyAmxCurl_obj o').1]
          exact hinj.erase h
      · have hsame : ∀ o', ¬m.Due h o' := fun o' hd => hdue ⟨o', hd⟩
        have hcalls : m.sweepCalls h = [] := by
          unfold sweepCalls
          split
          · rfl
          · exact if_neg (hsame _)
        rw [sweepOne_not_due hsame, ih hinj hnodup, hcalls]
        simp

theorem teardown_forwardLog {order : List AmxCurlHandle} (hd : m.TearsDown order m') :
    m'.forwardLog = m.forwardLog ++ m.forwardCalls (.teardown order) := by
  -- a step of a phase in which no object is destroyed
  have hquiet : ∀ {m₁ : AmxCurlController}, m₁.forwardLog = m.forwardLog →
      (∀ actor h todo, m.phase ≠ .clearing actor (h :: todo)) →
      m₁.forwardLog = m.forwardLog ++ m.forwardCalls (.teardown order) := by
    intro m₁ hlog hph
    refine forwardLog_silent hlog ?_
    simp only [forwardCalls]
  cases hd with
  | visit actor n todo hph =>
      exact hquiet ((forwardLog_of_log rfl).trans (forwardLog_of_spares .removeTransfer))
        (by simp [hph])
  | drop actor n todo hph =>
      refine (forwardLog_of_log (m := m.dropEntry n) rfl).trans ?_
      simp only [forwardCalls, hph]
      unfold dropEntry
      cases hh : m.amxCurl.lookup n with
      | none => exact forwardLog_silent rfl rfl
      | some o =>
          dsimp only
          rw [forwardLog_eq, destroyAmxCurl_plugins]
          exact destroy_forwardLog
  | clear actor hph ho => exact hquiet rfl (by simp [hph])
  | cleared hph => exact hquiet rfl (by simp [hph])
  | clearedByGuard hph ho => exact hquiet rfl (by simp [hph])
  | destructed hph => exact hquiet rfl (by simp [hph])
  | shutdown hph =>
      exact hquiet ((forwardLog_of_log rfl).trans (forwardLog_of_spares .shutdown)) (by simp [hph])
  | shutdownLast actor hph ha =>
      exact hquiet ((forwardLog_of_log rfl).trans (forwardLog_of_spares .shutdown)) (by simp [hph])
  | globalCleanup hph =>
      exact hquiet (forwardLog_other (e := .libcurl .globalCleanup) rfl rfl) (by simp [hph])
  | destruct hph hd ho => exact hquiet rfl (by simp [hph])
  | guard hph hd ho => exact hquiet rfl (by simp [hph])

/-- **The calls about forwards a step makes are those in the log.** -/
theorem next_forwardLog (hr : Records m.transfers) (hn : m.next a = some m') :
    m'.forwardLog = m.forwardLog ++ m.forwardCalls a := by
  cases next_fires hn with
  | load b hfree => exact forwardLog_silent rfl rfl
  | unload b q hq hstack => exact forwardLog_silent rfl rfl
  | easyInit b q reply hq hp hfree =>
      refine forwardLog_silent ?_ rfl
      rw [forwardLog_eq, forwardLog_eq]
      rcases createCurl_plugins m b q reply with heq | heq
      · rw [heq]
      · rw [heq]
        rfl
  | setCallback h c reply codes hp hfree =>
      rcases curlSetupAmxCallback_plugins m h c reply codes with ⟨heq, hnot⟩ | ⟨o, c, hh, rfl, heq⟩
      · refine forwardLog_silent (forwardLog_of_spares heq) ?_
        rcases hnot with hnot | rfl
        · cases c with
          | none => rfl
          | some c => simp only [forwardCalls, hnot]
        · rfl
      · simp only [forwardCalls, hh]
        rw [forwardLog_eq, heq, setup_forwardLog]
  | setOption h d hp => exact forwardLog_silent (forwardLog_of_spares .curlSetOption) rfl
  | easyPerform h found fun_ dataLen hp =>
      refine forwardLog_silent ?_ rfl
      rw [forwardLog_eq, forwardLog_eq]
      rcases amxCurlEasyPerform_plugins m h found fun_ dataLen with ⟨heq, -⟩ | ⟨o, -, -, heq⟩
      · rw [heq]
      · rw [heq]
        exact List.filterMap_append.trans (List.append_nil _)
  | easyCleanup h hp =>
      unfold removeTask
      cases hh : m.amxCurl.lookup h with
      | none =>
          simp only [forwardCalls, hh]
          exact forwardLog_silent (forwardLog_of_spares (.mf rfl)) rfl
      | some o =>
        simp only [forwardCalls, hh]
        split
        · exact forwardLog_silent (forwardLog_of_spares (Spares.trans (.mf rfl) (.setObj rfl))) rfl
        · rw [forwardLog_eq, destroyAmxCurl_plugins]
          exact destroy_forwardLog
  | easyReset h hp =>
      rcases curlReset_plugins (m := m) (h := h) with ⟨heq, hbusy⟩ | ⟨o, hh, hidle, heq⟩
      · refine forwardLog_silent (forwardLog_of_spares heq) ?_
        cases hh : m.amxCurl.lookup h with
        | none => simp only [forwardCalls, hh]
        | some o =>
            simp only [forwardCalls, hh]
            exact if_pos (hbusy o hh)
      · simp only [forwardCalls, hh]
        rw [if_neg (by rw [hidle]; exact Bool.false_ne_true), forwardLog_eq, heq]
        exact release_forwardLog
  | addReturn ok o p rest hs hok =>
      exact forwardLog_silent
        (forwardLog_of_spares (m := { m with stack := rest }) .performAdded) rfl
  | removeReturn f o p res rest hs hf =>
      simp only [forwardCalls, hs]
      exact performRemoved_forwardLog (m := { m with stack := rest })
  | postDone e p res ha hp => exact forwardLog_silent rfl rfl
  | callback o k hl he => exact callback_forwardLog
  | socketActionReturn rest hs => exact forwardLog_silent rfl rfl
  | readMessage rest hs hm => exact forwardLog_silent (forwardLog_of_spares .checkMultiInfo) rfl
  | checkMultiInfoReturn rest hs hm =>
      exact forwardLog_silent (forwardLog_other (e := .libcurl .infoRead) rfl rfl) rfl
  | completionReturn result b q f data rest hs =>
      simp only [forwardCalls, hs]
      rw [forwardLog_eq, completionReturn_plugins]
      exact List.filterMap_append.trans (by rw [forwardLog_eq]; rfl)
  | dataCallbackReturn result o c q expected rest hs =>
      simp only [forwardCalls, hs]
      exact forwardLog_silent
        (forwardLog_of_spares (m := { m with stack := rest }) .dataCallbackReturn) rfl
  | poll hs hm hph =>
      exact forwardLog_silent (forwardLog_other (e := .libcurl .socketAction) rfl rfl) rfl
  | sweep order hs hph ho => exact sweepDeferredCleanups_forwardLog hr.handleInj ho.1
  | onAmxxDetach hs hph =>
      exact forwardLog_silent
        (forwardLog_other (e := .mf .unregModuleFrameFunc m.isDetached) rfl rfl) rfl
  | drained timedOut order hs hph hc ho =>
      refine forwardLog_silent ?_ rfl
      show forwardLog { (if m.isAllTransfersCompleted then m else m.mf .printSrvConsole) with
        isDetached := true, phase := .removing .onAmxxDetach order } = m.forwardLog
      split
      · rfl
      · exact forwardLog_other (e := .mf .printSrvConsole m.isDetached) rfl rfl
  | exit hs hph => exact forwardLog_silent rfl rfl
  | teardown order m' hs hd => exact teardown_forwardLog hd

end AmxCurlController

end AmxxCurl
