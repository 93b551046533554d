/-
Every cell array is freed once, unless memory runs out in the wrong place.

An exception may leave `amx_curl_easy_perform` at three places.  Where no handle or no
public is found nothing has taken the array, and the native deletes it.  `Perform` may also
throw `std::bad_alloc` after it has stored the array in the object, when it wraps the
completion or when `AddCurl` inserts it into `curl_map_`; the native deletes the array then
as well, and the object keeps its pointer.  `attempts` is the module with these exceptions.
-/
import AmxxCurl.Amx.Custody
import AmxxCurl.Amx.Stuck

namespace AmxxCurl

open Transfers

namespace AmxCurlController

variable {m m' : AmxCurlController} {o : ObjId} {h : AmxCurlHandle} {Z : Finset ObjId}

/-! ### Exceptions out of `Perform` -/

/--
`AmxCurl::Perform` of a public that is found, up to where memory runs out: `entered` says
whether `AddCurl` has been called, which sets four options before it inserts.
-/
def performThrows (m : AmxCurlController) (o : ObjId) (task : AmxCurlHandle) (fun_ : Int)
    (data : Option DataId) (dataLen : Int) (entered : Bool) : AmxCurlController :=
  let x := m.obj o
  let m := (m.mf (.amxFindPublic (m.isLive x.amx x.creator))).setObj o fun x =>
    { x with amxCallbackFun := fun_ }
  let m := (m.deleteData x.amxCallbackData).setObj o fun x =>
    { x with
      amxCallbackData := data
      amxCallbackDataLen := dataLen
      taskHandle := task
      isTransferInProgress := true }
  m.emit (if entered then
    [.libcurl (.setopt o), .libcurl (.setopt o), .libcurl (.setopt o), .libcurl (.setopt o)] else [])

/-- `amx_curl_easy_perform` then: its `catch (...)`. -/
def amxCurlEasyPerformThrows (m : AmxCurlController) (h : AmxCurlHandle) (o : ObjId) (fun_ : Int)
    (dataLen : Int) (entered : Bool) : AmxCurlController :=
  if dataLen > 0 then
    (({ m with nextData := m.nextData + 1 }.performThrows o h fun_ (some m.nextData) dataLen
      entered).deleteData (some m.nextData)).mf .logError
  else ((m.performThrows o h fun_ none dataLen entered).deleteData none).mf .logError

variable {task : AmxCurlHandle} {fun_ dataLen : Int} {data : Option DataId} {entered : Bool}

theorem performThrows_objs (m : AmxCurlController) (o : ObjId) (task : AmxCurlHandle) (fun_ : Int)
    (data : Option DataId) (dataLen : Int) (entered : Bool) :
    (m.performThrows o task fun_ data dataLen entered).objs =
      m.objs.modify o (·.start ⟨fun_, task, data, dataLen⟩) := by
  have hobjs : (m.performThrows o task fun_ data dataLen entered).objs =
      (m.objs.modify o (·.refuse fun_)).modify o fun x =>
        { x with
          amxCallbackData := data
          amxCallbackDataLen := dataLen
          taskHandle := task
          isTransferInProgress := true } := rfl
  rw [hobjs, Heap.modify_modify]
  rfl

/-- The options are set, and libcurl hears nothing of the transfer. -/
theorem performThrows_transfers : (m.performThrows o task fun_ data dataLen entered).transfers =
    m.transfers.setObj o (·.start ⟨fun_, task, data, dataLen⟩) := by
  let called := m.mf (.amxFindPublic (m.isLive (m.obj o).amx (m.obj o).creator))
  let looked := called.setObj o fun x => { x with amxCallbackFun := fun_ }
  let freed := looked.deleteData (m.obj o).amxCallbackData
  let started := freed.setObj o fun x =>
    { x with
      amxCallbackData := data
      amxCallbackDataLen := dataLen
      taskHandle := task
      isTransferInProgress := true }
  have hlooked : looked.transfers = m.transfers.setObj o (·.refuse fun_) := by
    rw [show looked.transfers = called.transfers.setObj o (·.refuse fun_) from setObj_transfers rfl,
      show called.transfers = m.transfers from Keeps.mf]
  have hstarted : started.transfers = m.transfers.setObj o (·.start ⟨fun_, task, data, dataLen⟩) := by
    rw [show started.transfers = freed.transfers.setObj o
        (fun x => x.start ⟨x.args.fun_, task, data, dataLen⟩) from setObj_transfers rfl,
      show freed.transfers = looked.transfers from Keeps.deleteData, hlooked,
      Transfers.setObj_setObj]
    rfl
  rw [← hstarted]
  refine Keeps.emit (m := started) fun e he => ?_
  cases entered with
  | true =>
      simp only [if_true, List.mem_cons, List.not_mem_nil, or_false, or_self] at he
      rw [he]
      rfl
  | false => simp at he

theorem performThrows_freed : (m.performThrows o task fun_ data dataLen entered).log.filterMap
    Event.freed = m.log.filterMap Event.freed ++ (m.obj o).amxCallbackData.toList := by
  show ((_ ++ (m.obj o).amxCallbackData.toList.map Event.deleted) ++ _).filterMap Event.freed = _
  have hset : (if entered then
      [.libcurl (.setopt o), .libcurl (.setopt o), .libcurl (.setopt o), .libcurl (.setopt o)]
      else ([] : List Event)).filterMap Event.freed = [] := by
    cases entered <;> rfl
  rw [List.filterMap_append, hset, List.append_nil]
  refine (deleteData_freed _).trans ?_
  exact congrArg (· ++ (m.obj o).amxCallbackData.toList) (mf_freed _)

/-- What the module does, or a perform that throws. -/
inductive Attempt
  | does (a : Action)
  | throws (h : AmxCurlHandle) (fun_ : Int) (dataLen : Int) (entered : Bool)
  deriving DecidableEq

/-- `Perform` throws only where it is reached: `CurlPerformTask` has found the handle idle. -/
def attempt (m : AmxCurlController) : Attempt → Option AmxCurlController
  | .does a => m.next a
  | .throws h fun_ dataLen entered =>
      match m.amxCurl.lookup h with
      | none => none
      | some o =>
          if m.AtPawn ∧ (m.obj o).isTransferInProgress = false then
            some (m.amxCurlEasyPerformThrows h o fun_ dataLen entered)
          else none

/-- The module, and memory that runs out. -/
def attempts : Machine AmxCurlController Attempt := ⟨boot, attempt⟩

/-! ### The arrays -/

/-- Each array is freed once at most, and in the end; until then somebody holds it. -/
structure FreedOnce (m : AmxCurlController) : Prop where
  once : ∀ d, m.log.count (.deleted d) ≤ 1
  /-- No `AmxCurl` has a pointer to an array that is freed. -/
  dangling : ∀ h o d, m.amxCurl.lookup h = some o → (m.obj o).amxCallbackData = some d →
    .deleted d ∉ m.log
  /-- What is not freed is held by one object or one completion. -/
  held : ∀ d, d < m.nextData → .deleted d ∉ m.log → ∃! x, m.holds x = some d
  ended : m.phase = .gone → ∀ d, d < m.nextData → m.log.count (.deleted d) = 1

/-- An exception leaves `Perform` only where there is no array. -/
def KeepsArrays (_ : AmxCurlController) : Attempt → Prop
  | .does _ => True
  | .throws _ _ dataLen _ => dataLen ≤ 0

instance (m : AmxCurlController) (a : Attempt) : Decidable (m.KeepsArrays a) := by
  cases a <;> unfold KeepsArrays <;> infer_instance

theorem count_deleted (log : List Event) (d : DataId) :
    log.count (.deleted d) = (log.filterMap Event.freed).count d := by
  induction log with
  | nil => rfl
  | cons e log ih =>
      cases e with
      | deleted d' =>
          show (Event.deleted d' :: log).count _ = (d' :: log.filterMap Event.freed).count d
          rw [List.count_cons, List.count_cons, ih]
          simp
      | _ =>
          rw [List.count_cons_of_ne (by simp), ih]
          rfl

theorem mem_deleted {log : List Event} {d : DataId} :
    .deleted d ∈ log ↔ d ∈ log.filterMap Event.freed := by
  rw [← List.count_pos_iff, ← List.count_pos_iff, count_deleted]

/-- Who owns what, where all is in order but for some objects. -/
theorem owners (hs : Stuck Z m.transfers) : Owners m := by
  have hr := hs.records
  have howns : ∀ {o}, (m.transfers.spare Z).IsLive o → m.easies.lookup (m.obj o).curl = some o :=
    fun hlive => hr.easy.mpr ⟨hlive, spare_curl⟩
  constructor
  · intro e o he
    exact hr.objLt (hr.easy.mp he).1
  · exact hr.handleInj
  · intro h o hh
    exact howns ⟨h, hh⟩
  · intro o k hk
    exact howns (hr.busy hk).1

/-! ### What holds while no array is lost -/

/-- All that is known of a state: which objects are stuck, and that the custody is sound. -/
structure Kept (m : AmxCurlController) : Prop where
  stuck : ∃ Z, Stuck Z m.transfers
  staged : m.Staged
  sound : m.custody.Sound

namespace Kept

theorem boot : Kept boot where
  stuck := ⟨∅, .boot⟩
  staged := fun hne => absurd rfl hne
  sound := by
    have hnone : (AmxCurlController.boot).custody = ⟨0, fun _ => none, []⟩ := by
      refine Custody.ext rfl ?_ rfl
      funext x
      cases x <;> rfl
    rw [hnone]
    exact .init

/-- Whatever the module does. -/
theorem next {a : Action} (hk : Kept m) (hn : m.next a = some m') : Kept m' := by
  obtain ⟨Z, hstuck⟩ := hk.stuck
  have hflags : m.transfers.Flags := hstuck.records.flags
  obtain ⟨hstep, hstaged⟩ := next_refines (N := Phase.IsLive) hflags hk.staged
    (fun _ hp => hp.isLive hk.staged) (Or.inl rfl) hn
  refine ⟨⟨Z, ?_⟩, hstaged, hk.sound.ops (next_custody (owners hstuck) hn)⟩
  rcases hstep with hops | ⟨hmove, -⟩
  · exact hstuck.ops (fun _ => id) hops
  · exact hstuck.move hmove

/-- An exception out of a `Perform` that has been given no array. -/
theorem throws (hk : Kept m)
    (hh : m.amxCurl.lookup h = some o) (hidle : (m.obj o).isTransferInProgress = false)
    (hnone : ¬dataLen > 0) : Kept (m.amxCurlEasyPerformThrows h o fun_ dataLen entered) := by
  obtain ⟨Z, hstuck⟩ := hk.stuck
  have howners := owners hstuck
  unfold amxCurlEasyPerformThrows
  rw [if_neg hnone]
  refine ⟨⟨insert o Z, ?_⟩, ?_, ?_⟩
  · have htransfers : (((m.performThrows o h fun_ none dataLen entered).deleteData none).mf
        .logError).transfers = m.transfers.setObj o (·.start ⟨fun_, h, none, dataLen⟩) :=
      Eq.trans (Keeps.trans Keeps.deleteData .mf) performThrows_transfers
    rw [htransfers]
    exact hstuck.stick hidle (howners.easyLt (howners.owns hh)) _
  · exact hk.staged
  · refine hk.sound.ops (Passes.given none (f := (·.start ⟨fun_, h, none, dataLen⟩))
      (howners.owns hh) rfl ?_ rfl rfl rfl (by simp) rfl ?_)
    · exact performThrows_objs m o h fun_ none dataLen entered
    · rw [mf_freed, deleteData_freed, performThrows_freed]
      exact List.append_nil _

/-- **What is kept is freed once.** -/
theorem freedOnce (hk : Kept m) : FreedOnce m := by
  obtain ⟨Z, hstuck⟩ := hk.stuck
  constructor
  · intro d
    rw [count_deleted]
    exact List.nodup_iff_count_le_one.mp hk.sound.freedOnce d
  · intro h o d hh hd hfreed
    have hheld : m.custody.holds (.object o) = some d := by
      rw [holds_of_owns ((owners hstuck).owns hh), hd]
    exact hk.sound.heldOnly hheld (mem_deleted.mp hfreed)
  · intro d hlt hnot
    obtain ⟨x, hx⟩ := hk.sound.kept hlt fun hfreed => hnot (mem_deleted.mpr hfreed)
    exact ⟨x, hx, fun y hy => hk.sound.heldOnce hy hx⟩
  · intro hph d hlt
    rw [count_deleted]
    refine hk.sound.all_freed (fun x => ?_) hlt
    cases x with
    | frame height =>
        have hstack : m.stack = [] := by
          by_contra hne
          have hlive := hk.staged hne
          rw [hph] at hlive
          simp [Phase.IsLive] at hlive
        show frameData m.stack height = none
        rw [hstack]
        rfl
    | object o =>
        refine if_neg fun howns => ?_
        have hlive := (hstuck.records.easy.mp howns).1
        obtain ⟨h, hh⟩ := hlive
        have hempty := hstuck.records.emptied (by
          show m.phase.IsOver
          rw [hph]
          trivial) h
        rw [hempty] at hh
        simp at hh

end Kept

/-- An exception that leaves `Perform` with an array leaves a pointer to it. -/
theorem throws_dangling (hh : m.amxCurl.lookup h = some o) (hlen : dataLen > 0) :
    ¬FreedOnce (m.amxCurlEasyPerformThrows h o fun_ dataLen entered) := by
  intro hfreed
  unfold amxCurlEasyPerformThrows at hfreed
  rw [if_pos hlen] at hfreed
  refine hfreed.dangling h o m.nextData hh ?_ ?_
  · have hobj := obj_of_objs (performThrows_objs { m with nextData := m.nextData + 1 } o h fun_
      (some m.nextData) dataLen entered) o
    rw [Heap.modify_cell_self] at hobj
    exact congrArg AmxCurl.amxCallbackData hobj
  · refine mem_deleted.mpr ?_
    rw [mf_freed, deleteData_freed]
    exact List.mem_append_right _ (List.mem_singleton_self _)

/--
**Every array is freed exactly once iff no exception leaves `Perform` after it has stored
one.**
-/
theorem freed_once_iff {tr : List Attempt} (h : attempts.Run Machine.Free tr m) :
    (∀ t₁ t₂ m₁, tr = t₁ ++ t₂ → attempts.Run Machine.Free t₁ m₁ → m₁.FreedOnce) ↔
      attempts.Run KeepsArrays tr m := by
  refine Machine.Run.always_iff (fun hr => ?_) (fun {tr m a m'} _ _ hn hfreed => ?_) h
  · refine (hr.invariant (P := Kept) .boot fun m a m' hk hc hn => ?_).freedOnce
    cases a with
    | does a => exact hk.next hn
    | throws h fun_ dataLen entered =>
        simp only [attempts, attempt] at hn
        split at hn
        · simp at hn
        · rename_i o hh
          split at hn
          · rename_i hidle
            obtain rfl := Option.some.inj hn
            exact hk.throws hh hidle.2 (Int.not_lt.mpr hc)
          · simp at hn
  · cases a with
    | does a => trivial
    | throws h fun_ dataLen entered =>
        simp only [attempts, attempt] at hn
        split at hn
        · simp at hn
        · rename_i o hh
          split at hn
          · obtain rfl := Option.some.inj hn
            by_contra hlen
            exact throws_dangling hh (Int.not_le.mp hlen) hfreed
          · simp at hn

/-- The module, with two handles, is taken down at the exit of the process. -/
def torndown : List Attempt :=
  [.does .exit, .does (.teardown [1, 2]), .does (.teardown []), .does (.teardown []),
    .does (.teardown [2, 1]), .does (.teardown []), .does (.teardown []), .does (.teardown []),
    .does (.teardown []), .does (.teardown [])]

/-- A perform without an array throws, one with an array is in flight, and the process exits. -/
def exited : AmxCurlController :=
  (attempts.exec KeepsArrays boot ([.does (.load 7), .does (.easyInit 7 (some 100)),
    .does (.easyInit 7 (some 101)), .throws 1 3 0 true, .does (.easyPerform 2 true 3 4),
    .does (.addReturn true)] ++ torndown)).get (by decide)

theorem freed_once_iff_exited : exited.FreedOnce ∧ exited.log.count (.deleted 0) = 1 := by
  have hrun : attempts.Run KeepsArrays _ exited := Machine.run_of_exec (Option.some_get _).symm
  have hfreed := (freed_once_iff hrun.free).mpr hrun _ [] exited (by simp) hrun.free
  exact ⟨hfreed, hfreed.ended (by decide) 0 (by decide)⟩

/-- The insertion into `curl_map_` throws; the array is freed by the native and with the object. -/
def doubleFreed : AmxCurlController :=
  (attempts.exec Machine.Free boot ([.does (.load 7), .does (.easyInit 7 (some 100)),
    .does (.easyInit 7 (some 101)), .throws 1 3 4 true] ++ torndown)).get (by decide)

theorem array_freed_twice : (∃ tr, attempts.Run Machine.Free tr doubleFreed) ∧
    doubleFreed.phase = .gone ∧ doubleFreed.log.count (.deleted 0) = 2 := by
  have hrun : attempts.Run Machine.Free _ doubleFreed :=
    Machine.run_of_exec (Option.some_get _).symm
  exact ⟨⟨_, hrun⟩, by decide, by decide⟩

end AmxCurlController

end AmxxCurl
