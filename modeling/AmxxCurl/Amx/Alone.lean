/-
One handle by itself.

The manager keeps all handles in one map, libcurl all transfers in one multi, and Pawn code
may call any native on any handle from inside any callback.  Still a handle only ever sees
what is addressed to it: `Alone` is an `AmxCurl` with the place its easy handle is in, and
`turn` picks out of what happens to the module what one object is asked.  Every run of the
module is, seen from an object, a run of this machine.
-/
import AmxxCurl.Amx.Places
import AmxxCurl.Lib.Part

namespace AmxxCurl

open AmxCurlController
open Transfers (Records)

/-! ### The machine of one handle -/

/-- An object before, in and after its life. -/
inductive Alone
  | unborn
  | alive (x : AmxCurl) (place : Place)
  | gone

/-- An object after libcurl has called `k`; `valid` is what `IsAmxValid` answers. -/
def AmxCurl.answer (x : AmxCurl) (k : Callback) (valid : Bool) : AmxCurl :=
  if x.interrupt then x
  else
    match x.registeredCallbacks k.option, k with
    | none, .write chunk => x.capture chunk
    | none, _ => x
    | some _, _ => if valid then x else x.interrupted

namespace Alone

/-- What an object can be asked. -/
inductive Turn
  /-- `curl_easy_init`, of this plugin. -/
  | init (a : AmxPtr) (creator : PluginId) (curl : CurlPtr)
  | setCallback (c : CallbackOption) (granted : Option (ForwardId × PluginId))
  | setOption (c : CallbackOption) (v : Int)
  | perform (found : Bool) (args : PerformArgs)
  | cleanup
  | reset
  /-- `curl_multi_add_handle` returns. -/
  | addReturn (ok : Bool)
  /-- Its DONE message is read. -/
  | complete
  /-- `curl_multi_remove_handle` returns. -/
  | removeReturn
  /-- libcurl calls a data callback. -/
  | callback (k : Callback) (valid : Bool)
  /-- A frame's sweep passes. -/
  | sweep
  /-- `TryInterrupt`. -/
  | tryInterrupt
  /-- The loop of `RemoveAllTasks` passes. -/
  | remove
  /-- The map is destroyed. -/
  | destroy

/-- What an object does; `none` where it cannot be asked that. -/
def next : Alone → Turn → Option Alone
  | .unborn, .init a creator curl => some (.alive (.new a creator curl) .idle)
  | .alive x place, .setCallback c f => some (.alive (x.setForward c f) place)
  | .alive x place, .setOption c v => some (.alive (x.setData c v) place)
  | .alive x place, .perform found args =>
      some (if x.isTransferInProgress then .alive x place
        else if found then .alive (x.start args) .adding
        else .alive (x.refuse args.fun_) place)
  | .alive x place, .cleanup =>
      some (if x.isTransferInProgress then .alive x.defer place else .gone)
  | .alive x place, .reset => some (.alive (if x.isTransferInProgress then x else x.reset) place)
  | .alive x .adding, .addReturn ok =>
      some (if ok then .alive x.clearBody .attached else .alive x.settle .idle)
  | .alive x .attached, .complete => some (.alive x .removing)
  | .alive x .removing, .removeReturn => some (.alive x.settle .idle)
  | .alive x place, .callback k valid => some (.alive (x.answer k valid) place)
  | .alive x place, .sweep =>
      some (if x.cleanupDeferred && !x.isTransferInProgress then .gone else .alive x place)
  | .alive x place, .tryInterrupt => some (.alive x.interrupted place)
  | .alive x .attached, .remove => some (.alive x .dropped)
  | .alive x .idle, .remove => some (.alive x .idle)
  | .alive _ .idle, .destroy => some .gone
  | .alive _ .dropped, .destroy => some .gone
  | _, _ => none

/-- An object, and everything that can happen to it. -/
def machine : Machine Alone Turn := ⟨.unborn, next⟩

end Alone

/-! ### One object of many -/

namespace AmxCurlController

variable {m m' : AmxCurlController} {a : Action} {o : ObjId} {h : AmxCurlHandle}

/-- The object has a handle number. -/
def HasHandle (m : AmxCurlController) (o : ObjId) : Prop :=
  ∃ h ∈ m.amxCurl.keys, m.amxCurl.lookup h = some o

instance (m : AmxCurlController) (o : ObjId) : Decidable (m.HasHandle o) :=
  inferInstanceAs (Decidable (∃ h ∈ m.amxCurl.keys, _))

/-- The object as it is alone. -/
def alone (m : AmxCurlController) (o : ObjId) : Alone :=
  if m.HasHandle o then .alive (m.obj o) (m.transfers.place o)
  else if o < m.objs.next then .gone
  else .unborn

/-- What the action asks of the object. -/
def turn (o : ObjId) (m : AmxCurlController) : Action → Option Alone.Turn
  | .easyInit b (some e) =>
      if o = m.objs.next then (m.amxx.loaded b).map fun q => .init b q e else none
  | .setCallback h (some c) reply _ =>
      if m.amxCurl.lookup h = some o then some (.setCallback c (m.granted o reply)) else none
  | .setOption h (some (c, v)) =>
      if m.amxCurl.lookup h = some o then some (.setOption c v) else none
  | .easyPerform h found fun_ dataLen =>
      if m.amxCurl.lookup h = some o then some (.perform found (m.performArgs h fun_ dataLen))
      else none
  | .easyCleanup h => if m.amxCurl.lookup h = some o then some .cleanup else none
  | .easyReset h => if m.amxCurl.lookup h = some o then some .reset else none
  | .addReturn ok =>
      match m.stack with
      | .adding o' _ :: _ => if o' = o then some (.addReturn ok) else none
      | _ => none
  | .removeReturn _ =>
      match m.stack with
      | .removing o' _ _ :: _ => if o' = o then some .removeReturn else none
      | _ => none
  | .readMessage =>
      match m.messages with
      | (e, _, _) :: _ => if m.curlMap.lookup e = some o then some .complete else none
      | [] => none
  | .callback o' k => if o' = o then some (.callback k (m.valid o)) else none
  | .sweep _ => if m.HasHandle o then some .sweep else none
  | .onAmxxDetach => if m.HasHandle o then some .tryInterrupt else none
  | .teardown _ =>
      match m.phase with
      | .removing _ (h :: _) => if m.amxCurl.lookup h = some o then some .remove else none
      | .clearing _ (h :: _) => if m.amxCurl.lookup h = some o then some .destroy else none
      | _ => none
  | _ => none

theorem turn_teardown (order : List AmxCurlHandle) : m.turn o (.teardown order) =
    match m.phase with
    | .removing _ (h :: _) => if m.amxCurl.lookup h = some o then some .remove else none
    | .clearing _ (h :: _) => if m.amxCurl.lookup h = some o then some .destroy else none
    | _ => none := rfl

/-! ### Who is alive -/

theorem hasHandle_iff : m.HasHandle o ↔ m.transfers.IsLive o := by
  constructor
  · rintro ⟨h, -, hh⟩
    exact ⟨h, hh⟩
  · rintro ⟨h, hh⟩
    exact ⟨h, Finmap.mem_keys.mpr (Finmap.mem_of_lookup_eq_some hh), hh⟩

theorem alone_alive (ho : m.transfers.IsLive o) :
    m.alone o = .alive (m.obj o) (m.transfers.place o) :=
  if_pos (hasHandle_iff.mpr ho)

theorem alone_gone (ho : ¬m.transfers.IsLive o) (hlt : o < m.objs.next) : m.alone o = .gone := by
  unfold alone
  rw [if_neg (mt hasHandle_iff.mp ho), if_pos hlt]

theorem alone_unborn (ho : ¬m.transfers.IsLive o) (hle : m.objs.next ≤ o) :
    m.alone o = .unborn := by
  unfold alone
  rw [if_neg (mt hasHandle_iff.mp ho), if_neg (Nat.not_lt.mpr hle)]

/-- What is destroyed is gone under every number. -/
theorem not_live_of_destroys (hr : Records m.transfers) (hs : m.pool.Sound (0 < ·))
    (hn : m.next a = some m') (hh : m.amxCurl.lookup h = some o) (hd : m.Destroys h o a) :
    ¬m'.transfers.IsLive o := by
  rintro ⟨k, hk⟩
  have hk : m'.amxCurl.lookup k = some o := hk
  rcases (next_renumbers hs hn).live hk with hold | ⟨hnew, -⟩
  · obtain rfl := hr.handleInj hold hh
    rw [next_destroys hn hh hd] at hk
    exact absurd hk (by simp)
  · exact absurd (hr.objLt ⟨h, hh⟩) (hnew ▸ Nat.lt_irrefl _)

theorem live_of_not_destroys (hs : m.pool.Sound (0 < ·)) (hn : m.next a = some m')
    (hh : m.amxCurl.lookup h = some o) (hd : ¬m.Destroys h o a) : m'.transfers.IsLive o :=
  ⟨h, by_contra fun hlost => hd (next_lost hs hn hh hlost)⟩

theorem modified_next {f : AmxCurl → AmxCurl} (hobjs : m'.objs = m.objs.modify o f) :
    m'.objs.next = m.objs.next := by
  rw [hobjs]
  rfl

theorem destroyAmxCurl_next : (m.destroyAmxCurl o).objs.next = m.objs.next :=
  modified_next destroyAmxCurl_objs

theorem sweepDeferredCleanups_next (order : List AmxCurlHandle) :
    ∀ m : AmxCurlController, (m.sweepDeferredCleanups order).objs.next = m.objs.next := by
  induction order with
  | nil => exact fun _ => rfl
  | cons h order ih =>
      intro m
      have hone : (m.sweepOne h).objs.next = m.objs.next := by
        unfold sweepOne
        split
        · rfl
        · split
          · exact destroyAmxCurl_next
          · rfl
      exact (ih (m.sweepOne h)).trans hone

/-- Only `curl_easy_init` makes an object. -/
theorem next_next (hn : m.next a = some m') (ha : ∀ b e, a ≠ .easyInit b (some e)) :
    m'.objs.next = m.objs.next := by
  cases next_fires hn with
  | easyInit b q reply =>
      cases reply with
      | none =>
          rcases m.createCurl_lost b q with heq | ⟨-, heq⟩
          · rw [heq]
          · rw [heq]
            rfl
      | some e => exact absurd rfl (ha b e)
  | setCallback h c reply codes =>
      rcases m.curlSetupAmxCallback_cases h c reply codes with
        ⟨heq, -⟩ | ⟨o, c', es, -, -, -, heq⟩ <;> rw [heq]
      · rfl
      · exact modified_next (m := m) setupAmxCallback_objs
  | setOption h d =>
      unfold curlSetOption
      split
      · rfl
      · split <;> rfl
  | easyPerform h found fun_ dataLen =>
      have htask : ∀ (m₁ : AmxCurlController) (data : Option DataId),
          (m₁.curlPerformTask h found fun_ data dataLen).objs.next = m₁.objs.next := by
        intro m₁ data
        unfold curlPerformTask
        split
        · rfl
        · split
          · rfl
          · exact modified_next perform_objs
      unfold amxCurlEasyPerform
      split
      · exact htask _ _
      · exact htask _ _
  | easyCleanup h =>
      unfold removeTask
      split
      · rfl
      · split
        · rfl
        · exact destroyAmxCurl_next
  | easyReset h =>
      unfold curlReset
      split
      · rfl
      · split <;> rfl
  | addReturn => exact modified_next performAdded_objs
  | removeReturn => exact modified_next performRemoved_objs
  | callback => exact modified_next callback_objs
  | readMessage => exact congrArg Heap.next checkMultiInfo_objs
  | dataCallbackReturn => exact congrArg Heap.next dataCallbackReturn_objs
  | sweep order => exact sweepDeferredCleanups_next order m
  | drained => dsimp only; split <;> rfl
  | teardown order m' hs ht =>
      cases ht with
      | visit => exact congrArg Heap.next removeTransfer_objs
      | drop =>
          unfold dropEntry
          split
          · rfl
          · exact destroyAmxCurl_next
      | shutdown => exact congrArg Heap.next shutdown_objs
      | shutdownLast => exact congrArg Heap.next shutdown_objs
      | _ => rfl
  | _ => rfl

/-! ### An object that lives on -/

/-- What stays where it is does what it is asked. -/
theorem after_turn (hr : Records m.transfers) (ha : a.moves = false)
    (hh : m.amxCurl.lookup h = some o) (hd : ¬m.Destroys h o a) (hw : ∀ order, a = .sweep order →
      m.Walks order) (place : Place) :
    Alone.machine.Takes (.alive (m.obj o) place) (m.turn o a) (.alive (m.after a o) place) := by
  have hlive : m.transfers.IsLive o := ⟨h, hh⟩
  have hsame : ∀ {k}, m.amxCurl.lookup k = some o → k = h := fun hk => hr.handleInj hk hh
  cases a with
  | easyInit b reply =>
      have hne : o ≠ m.objs.next := Nat.ne_of_lt (hr.objLt hlive)
      have hafter : m.after (.easyInit b reply) o = m.obj o := by
        rcases after_easyInit (m := m) (o := o) b reply with heq | ⟨hnew, -⟩
        · exact heq
        · exact absurd hnew hne
      rw [hafter]
      cases reply with
      | none => rfl
      | some e =>
          have hturn : m.turn o (.easyInit b (some e)) = none := if_neg hne
          rw [hturn]
          rfl
  | setCallback k c reply codes =>
      cases c with
      | none => rfl
      | some c =>
          unfold turn after
          dsimp only
          split <;> rfl
  | setOption k d =>
      cases d with
      | none => rfl
      | some d =>
          unfold turn after
          dsimp only
          split <;> rfl
  | easyPerform => simp [Action.moves] at ha
  | easyCleanup k =>
      unfold turn after
      dsimp only
      by_cases hk : m.amxCurl.lookup k = some o
      · have hbusy : (m.obj o).isTransferInProgress = true := by
          rw [← Bool.not_eq_false]
          exact fun hidle => hd ⟨hsame hk, hidle⟩
        rw [if_pos hk, if_neg (not_idle hk hbusy), if_pos hk]
        show some _ = some _
        rw [if_pos hbusy]
      · rw [if_neg hk, if_neg fun hidle => hk hidle.1, if_neg hk]
        rfl
  | easyReset k =>
      unfold turn after
      dsimp only
      by_cases hk : m.amxCurl.lookup k = some o
      · rw [if_pos hk]
        show some _ = some _
        by_cases hbusy : (m.obj o).isTransferInProgress = true
        · rw [if_pos hbusy, if_neg (not_idle hk hbusy)]
        · rw [if_neg hbusy, if_pos ⟨hk, Bool.eq_false_iff.mpr hbusy⟩]
      · rw [if_neg hk, if_neg fun hidle => hk hidle.1]
        rfl
  | addReturn => simp [Action.moves] at ha
  | removeReturn => simp [Action.moves] at ha
  | readMessage => simp [Action.moves] at ha
  | callback o' k =>
      unfold turn after
      dsimp only
      split <;> rfl
  | sweep order =>
      unfold turn after
      dsimp only
      have hmem : h ∈ order := by
        rw [← List.mem_toFinset, (hw order rfl).2]
        exact Finmap.mem_keys.mpr (Finmap.mem_of_lookup_eq_some hh)
      have hnot : ¬∃ k ∈ order, m.Due k o := by
        rintro ⟨k, hk, hdue⟩
        exact hd ⟨hmem, hdue.2, hdue.1.2⟩
      rw [if_pos (hasHandle_iff.mpr hlive), if_neg hnot]
      show some _ = some _
      rw [if_neg]
      intro hdue
      obtain ⟨hdeferred, hidle⟩ := Bool.and_eq_true_iff.mp hdue
      exact hd ⟨hmem, hdeferred, by simpa using hidle⟩
  | onAmxxDetach =>
      have hturn : m.turn o .onAmxxDetach = some .tryInterrupt := if_pos (hasHandle_iff.mpr hlive)
      rw [hturn]
      rfl
  | teardown => simp [Action.moves] at ha
  | _ => rfl

theorem takes_alive (hn : m.next a = some m') (ho : m.transfers.IsLive o)
    (ho' : m'.transfers.IsLive o) {place place' : Place} (hp : m.transfers.place o = place)
    (hp' : m'.transfers.place o = place')
    (h : Alone.machine.Takes (.alive (m.obj o) place) (m.turn o a) (.alive (m.after a o) place')) :
    Alone.machine.Takes (m.alone o) (m.turn o a) (m'.alone o) := by
  rw [alone_alive ho, alone_alive ho', next_obj hn, hp, hp']
  exact h

/-- One that has nothing to do with what moves. -/
theorem takes_none (hn : m.next a = some m') (ho : m.transfers.IsLive o)
    (ho' : m'.transfers.IsLive o) (hturn : m.turn o a = none) (hafter : m.after a o = m.obj o)
    (hk : m'.transfers.tasks.lookup o = m.transfers.tasks.lookup o)
    (ha : m'.attached.lookup (m.obj o).curl = m.attached.lookup (m.obj o).curl) :
    Alone.machine.Takes (m.alone o) (m.turn o a) (m'.alone o) := by
  have hobj : m'.obj o = m.obj o := (next_obj hn o).trans hafter
  refine takes_alive hn ho ho' rfl (Transfers.place_same ?_ hk ?_) ?_
  · exact congrArg AmxCurl.isTransferInProgress hobj
  · show m'.attached.lookup (m'.obj o).curl = _
    rw [hobj]
    exact ha
  · rw [hturn, hafter]
    rfl

theorem easyPerform_alone {found : Bool} {fun_ dataLen : Int} (hr : Records m.transfers)
    (hr' : Records m'.transfers) (hn : m.next (.easyPerform h found fun_ dataLen) = some m')
    (ho : m.transfers.IsLive o) (ho' : m'.transfers.IsLive o) :
    Alone.machine.Takes (m.alone o) (m.turn o (.easyPerform h found fun_ dataLen)) (m'.alone o) := by
  obtain ⟨hatt, hstarts⟩ := m.amxCurlEasyPerform_places h found fun_ dataLen
  have hm' : m' = m.amxCurlEasyPerform h found fun_ dataLen := by
    cases next_fires hn with
    | easyPerform => rfl
  rw [← hm'] at hatt hstarts
  by_cases hstart : m.Idle h o ∧ found = true
  · obtain ⟨hidle, rfl⟩ := hstart
    obtain ⟨o', p, hidle', -, htasks⟩ := hstarts.resolve_left fun hno => hno.1 o ⟨hidle, rfl⟩
    obtain rfl : o = o' := Option.some.inj (hidle.1.symm.trans hidle'.1)
    have hafter : m.after (.easyPerform h true fun_ dataLen) o =
        (m.obj o).start (m.performArgs h fun_ dataLen) := if_pos hidle
    have hturn : m.turn o (.easyPerform h true fun_ dataLen) =
        some (.perform true (m.performArgs h fun_ dataLen)) := if_pos hidle.1
    refine takes_alive hn ho ho' (Transfers.place_idle hidle.2)
      (Transfers.place_task hr' (htasks ▸ List.mem_cons_self ..)) ?_
    rw [hafter, hturn]
    show some _ = some _
    rw [hidle.2]
    rfl
  · have hkeep : m'.transfers.tasks.lookup o = m.transfers.tasks.lookup o := by
      rcases hstarts with ⟨-, htasks⟩ | ⟨o', p, hidle, hfound, htasks⟩
      · rw [htasks]
      · rw [htasks]
        refine lookup_push_ne ?_
        rintro rfl
        exact hstart ⟨hidle, hfound⟩
    have hne : o ≠ m.objs.next := Nat.ne_of_lt (hr.objLt ho)
    have hobj := next_obj hn o
    have hprogress : (m'.obj o).isTransferInProgress = (m.obj o).isTransferInProgress := by
      rw [hobj]
      unfold after
      dsimp only
      split
      · rename_i hidle
        rw [if_neg fun hfound => hstart ⟨hidle, hfound⟩]
        rfl
      · rfl
    refine takes_alive hn ho ho' rfl (Transfers.place_same (t := m.transfers) hprogress hkeep ?_) ?_
    · show m'.attached.lookup (m'.obj o).curl = m.attached.lookup (m.obj o).curl
      rw [hatt, hobj, (after_owner hne).2.2]
    · unfold turn after
      dsimp only
      by_cases hh : m.amxCurl.lookup h = some o
      · rw [if_pos hh]
        show some _ = some _
        by_cases hbusy : (m.obj o).isTransferInProgress = true
        · rw [if_pos hbusy, if_neg (not_idle hh hbusy)]
        · have hidle : m.Idle h o := ⟨hh, Bool.eq_false_iff.mpr hbusy⟩
          have hfound : ¬found = true := fun hfound => hstart ⟨hidle, hfound⟩
          rw [if_neg hbusy, if_pos hidle, if_neg hfound, if_neg hfound]
          rfl
      · rw [if_neg hh, if_neg fun hidle => hh hidle.1]
        rfl

theorem addReturn_alone {ok : Bool} (hr : Records m.transfers)
    (hn : m.next (.addReturn ok) = some m') (ho : m.transfers.IsLive o)
    (ho' : m'.transfers.IsLive o) :
    Alone.machine.Takes (m.alone o) (m.turn o (.addReturn ok)) (m'.alone o) := by
  have hobj := next_obj hn o
  obtain ⟨o₁, p, rest, hs, hm'⟩ : ∃ o₁ p rest, m.stack = .adding o₁ p :: rest ∧
      m' = { m with stack := rest }.performAdded o₁ p ok := by
    cases next_fires hn with
    | addReturn ok o₁ p rest hs hok => exact ⟨o₁, p, rest, hs, rfl⟩
  have htasks : m.transfers.tasks = (o₁, .adding p) :: rest.filterMap Frame.task := by
    show m.stack.filterMap Frame.task = _
    rw [hs]
    rfl
  have htasks' : m'.transfers.tasks = rest.filterMap Frame.task := by
    rw [hm']
    exact congrArg (List.filterMap _) Offstage.performAdded.stack
  have hatt : m'.attached = if ok then m.attached.insert (m.obj o₁).curl p else m.attached := by
    rw [hm']
    cases ok <;> rfl
  have hmem : (o₁, Task.adding p) ∈ m.transfers.tasks := htasks ▸ List.mem_cons_self ..
  obtain ⟨hlive, hbusy⟩ := hr.busy hmem
  by_cases hsame : o₁ = o
  · subst hsame
    have hturn : m.turn o₁ (.addReturn ok) = some (.addReturn ok) := by
      unfold turn
      simp only [hs, if_true]
    have hafter : m.after (.addReturn ok) o₁ =
        if ok then (m.obj o₁).clearBody else (m.obj o₁).settle := by
      simp only [after, hs, if_true]
    rw [hafter] at hobj
    have hplace : m'.transfers.place o₁ = if ok then .attached else .idle := by
      cases ok with
      | false => exact Transfers.place_idle (congrArg AmxCurl.isTransferInProgress hobj)
      | true =>
          have hbusy' : (m'.transfers.obj o₁).inProgress = true :=
            (congrArg AmxCurl.isTransferInProgress hobj).trans hbusy
          have hcurl : (m'.obj o₁).curl = (m.obj o₁).curl := (congrArg AmxCurl.curl hobj).trans rfl
          unfold Transfers.place
          rw [if_pos hbusy', htasks', lookup_popped hr htasks]
          refine if_pos ?_
          show (m'.attached.lookup (m'.obj o₁).curl).isSome = true
          rw [hatt, hcurl, if_pos rfl, Finmap.lookup_insert]
          rfl
    refine takes_alive hn ho ho' (Transfers.place_task hr hmem) hplace ?_
    rw [hturn, hafter]
    cases ok <;> rfl
  · have hturn : m.turn o (.addReturn ok) = none := by
      unfold turn
      simp only [hs, if_neg hsame]
    have hafter : m.after (.addReturn ok) o = m.obj o := by
      simp only [after, hs, if_neg hsame]
    refine takes_none hn ho ho' hturn hafter ?_ ?_
    · rw [htasks', htasks, lookup_push_ne hsame]
    · rw [hatt]
      split
      · exact Finmap.lookup_insert_of_ne _ (curl_ne hr ho hlive hsame)
      · rfl

theorem removeReturn_alone {f : ForwardId} (hr : Records m.transfers)
    (hn : m.next (.removeReturn f) = some m') (ho : m.transfers.IsLive o)
    (ho' : m'.transfers.IsLive o) :
    Alone.machine.Takes (m.alone o) (m.turn o (.removeReturn f)) (m'.alone o) := by
  have hobj := next_obj hn o
  obtain ⟨o₁, p, res, rest, hs, hm'⟩ : ∃ o₁ p res rest, m.stack = .removing o₁ p res :: rest ∧
      m' = { m with stack := rest }.performRemoved o₁ p f := by
    cases next_fires hn with
    | removeReturn f o₁ p res rest hs hf => exact ⟨o₁, p, res, rest, hs, rfl⟩
  have htasks : m.transfers.tasks = (o₁, .removing p res) :: rest.filterMap Frame.task := by
    show m.stack.filterMap Frame.task = _
    rw [hs]
    rfl
  have htasks' : m'.transfers.tasks = rest.filterMap Frame.task := by
    rw [hm']
    rcases ({ m with stack := rest } : AmxCurlController).performRemoved_calls o₁ p f with
      heq | ⟨b, q, data, heq⟩
    · exact congrArg (List.filterMap _) heq
    · exact (congrArg (List.filterMap _) heq).trans rfl
  have hatt : m'.attached = m.attached.erase (m.obj o₁).curl := by
    rw [hm']
    rcases ({ m with stack := rest } : AmxCurlController).performRemoved_cases o₁ p f with
      ⟨-, heq⟩ | ⟨-, -, heq⟩ | ⟨q, -, -, heq⟩ <;> rw [heq] <;> rfl
  have hmem : (o₁, Task.removing p res) ∈ m.transfers.tasks := htasks ▸ List.mem_cons_self ..
  by_cases hsame : o₁ = o
  · subst hsame
    have hturn : m.turn o₁ (.removeReturn f) = some .removeReturn := by
      unfold turn
      simp only [hs, if_true]
    have hafter : m.after (.removeReturn f) o₁ = (m.obj o₁).settle := by
      simp only [after, hs, if_true]
    rw [hafter] at hobj
    have hidle : (m'.transfers.obj o₁).inProgress = false :=
      congrArg AmxCurl.isTransferInProgress hobj
    refine takes_alive hn ho ho' (Transfers.place_task hr hmem) (Transfers.place_idle hidle) ?_
    rw [hturn, hafter]
    rfl
  · have hturn : m.turn o (.removeReturn f) = none := by
      unfold turn
      simp only [hs, if_neg hsame]
    have hafter : m.after (.removeReturn f) o = m.obj o := by
      simp only [after, hs, if_neg hsame]
    refine takes_none hn ho ho' hturn hafter ?_ ?_
    · rw [htasks', htasks, lookup_push_ne hsame]
    · rw [hatt]
      exact Finmap.lookup_erase_ne (curl_ne hr ho (hr.busy hmem).1 hsame)

theorem readMessage_alone (hr : Records m.transfers) (hr' : Records m'.transfers)
    (hn : m.next .readMessage = some m') (ho : m.transfers.IsLive o)
    (ho' : m'.transfers.IsLive o) :
    Alone.machine.Takes (m.alone o) (m.turn o .readMessage) (m'.alone o) := by
  obtain ⟨hne, hm'⟩ : m.messages ≠ [] ∧ m' = m.checkMultiInfo := by
    cases next_fires hn with
    | readMessage rest hs hne => exact ⟨hne, rfl⟩
  obtain ⟨⟨e, p, res⟩, ms, hmsg⟩ := List.exists_cons_of_ne_nil hne
  have hturn : m.turn o .readMessage =
      if m.curlMap.lookup e = some o then some .complete else none := by
    unfold turn
    simp only [hmsg]
  obtain ⟨hatt, htasks⟩ := checkMultiInfo_places hmsg
  rw [← hm'] at hatt htasks
  by_cases hmap : m.curlMap.lookup e = some o
  · obtain ⟨o₁, hmap₁, htasks⟩ : ∃ o₁, m.curlMap.lookup e = some o₁ ∧
        m'.transfers.tasks = (o₁, .removing p res) :: m.transfers.tasks := by
      refine htasks.resolve_left fun hnone => ?_
      rw [hmap] at hnone
      exact absurd hnone.1 (by simp)
    obtain rfl : o = o₁ := Option.some.inj (hmap.symm.trans hmap₁)
    have hplace := mapped_attached hr ho hmap (hmsg ▸ List.mem_cons_self ..)
    have hmem : (o, Task.removing p res) ∈ m'.transfers.tasks := htasks ▸ List.mem_cons_self ..
    refine takes_alive hn ho ho' hplace (Transfers.place_task hr' hmem) ?_
    rw [hturn, if_pos hmap]
    rfl
  · refine takes_none hn ho ho' (hturn.trans (if_neg hmap)) rfl ?_ (by rw [hatt])
    rcases htasks with ⟨-, htasks⟩ | ⟨o₁, hmap₁, htasks⟩
    · rw [htasks]
    · rw [htasks]
      refine lookup_push_ne ?_
      rintro rfl
      exact hmap hmap₁

/-- `RemoveAllTasks` finds a handle idle or attached, and leaves it idle or dropped. -/
theorem visit_alone {actor : Actor} {k : AmxCurlHandle} {todo order : List AmxCurlHandle}
    (hr : Records m.transfers) (hs : m.stack = []) (hph : m.phase = .removing actor (k :: todo))
    (hm' : m' = { m.removeTransfer k with phase := .removing actor todo })
    (hn : m.next (.teardown order) = some m') (ho : m.transfers.IsLive o)
    (ho' : m'.transfers.IsLive o) :
    Alone.machine.Takes (m.alone o) (m.turn o (.teardown order)) (m'.alone o) := by
  have hturn : m.turn o (.teardown order) =
      if m.amxCurl.lookup k = some o then some .remove else none := by
    rw [turn_teardown, hph]
  have hafter : m.after (.teardown order) o = m.obj o := by
    simp only [after, hph]
  have hobj := (next_obj hn o).trans hafter
  have htasks : m'.transfers.tasks = m.transfers.tasks := by
    rw [hm']
    exact congrArg (List.filterMap _) Offstage.removeTransfer.stack
  have hatt : ∀ {o₁}, m.amxCurl.lookup k = some o₁ → m'.attached =
      if (m.obj o₁).isTransferInProgress then m.attached.erase (m.obj o₁).curl else m.attached := by
    intro o₁ hk
    rw [hm']
    exact removeTransfer_attached hk
  by_cases hk : m.amxCurl.lookup k = some o
  · have hremove : m.turn o (.teardown order) = some .remove := hturn.trans (if_pos hk)
    by_cases hbusy : (m.obj o).isTransferInProgress = true
    · have hplace := unvisited_place hr hs hph hk hbusy
      have hplace' : m'.transfers.place o = .dropped := by
        have hbusy' : (m'.transfers.obj o).inProgress = true :=
          (congrArg AmxCurl.isTransferInProgress hobj).trans hbusy
        rw [Transfers.place_off hbusy' (htasks ▸ no_tasks hs)]
        refine if_neg ?_
        show ¬(m'.attached.lookup (m'.obj o).curl).isSome = true
        rw [hatt hk, if_pos hbusy, hobj, Finmap.lookup_erase]
        simp
      refine takes_alive hn ho ho' hplace hplace' ?_
      rw [hremove, hafter]
      rfl
    · have hidle := Bool.eq_false_iff.mpr hbusy
      have hidle' : (m'.transfers.obj o).inProgress = false :=
        (congrArg AmxCurl.isTransferInProgress hobj).trans hidle
      refine takes_alive hn ho ho' (Transfers.place_idle hidle) (Transfers.place_idle hidle') ?_
      rw [hremove, hafter]
      rfl
  · refine takes_none hn ho ho' (hturn.trans (if_neg hk)) hafter (congrArg _ htasks) ?_
    cases hother : m.amxCurl.lookup k with
    | none =>
        rw [hm']
        unfold removeTransfer
        rw [hother]
    | some o₁ =>
        have hne : o₁ ≠ o := by
          rintro rfl
          exact hk hother
        rw [hatt hother]
        split
        · exact Finmap.lookup_erase_ne (curl_ne hr ho ⟨k, hother⟩ hne)
        · rfl

theorem teardown_alone {order : List AmxCurlHandle} (hr : Records m.transfers)
    (hn : m.next (.teardown order) = some m') (ho : m.transfers.IsLive o)
    (hd : ∀ {k}, m.amxCurl.lookup k = some o → ¬m.Destroys k o (.teardown order))
    (ho' : m'.transfers.IsLive o) :
    Alone.machine.Takes (m.alone o) (m.turn o (.teardown order)) (m'.alone o) := by
  have hnone : m.turn o (.teardown order) = none → m.after (.teardown order) o = m.obj o →
      SamePlaces m m' → Alone.machine.Takes (m.alone o) (m.turn o (.teardown order)) (m'.alone o) :=
    fun hturn hafter hsame => takes_none hn ho ho' hturn hafter (congrArg _ hsame.tasks)
      (by rw [hsame.attached])
  have hshutdown : SamePlaces m m.shutdown := by
    unfold shutdown
    split <;> exact ⟨rfl, rfl⟩
  cases next_fires hn with
  | teardown order m' hs ht =>
      cases ht with
      | visit actor k todo hph => exact visit_alone hr hs hph rfl hn ho ho'
      | drop actor k todo hph =>
          have hk : ¬m.amxCurl.lookup k = some o := fun hk => hd hk ⟨actor, todo, hph⟩
          have hturn : m.turn o (.teardown order) = none := by
            rw [turn_teardown, hph]
            exact if_neg hk
          have hafter : m.after (.teardown order) o = m.obj o := by
            simp only [after, hph, if_neg hk]
          refine hnone hturn hafter ?_
          have hdropped : SamePlaces m (m.dropEntry k) := by
            unfold dropEntry
            split
            · exact ⟨rfl, rfl⟩
            · exact .destroyed ⟨rfl, rfl⟩
          exact ⟨hdropped.tasks, hdropped.attached⟩
      | shutdown hph =>
          exact hnone (by rw [turn_teardown, hph]) (by simp only [after, hph])
            ⟨hshutdown.tasks, hshutdown.attached⟩
      | shutdownLast actor hph ha =>
          exact hnone (by rw [turn_teardown, hph]) (by simp only [after, hph])
            ⟨hshutdown.tasks, hshutdown.attached⟩
      | clear actor hph =>
          exact hnone (by rw [turn_teardown, hph]) (by simp only [after, hph]) ⟨rfl, rfl⟩
      | cleared hph =>
          exact hnone (by rw [turn_teardown, hph]) (by simp only [after, hph]) ⟨rfl, rfl⟩
      | clearedByGuard hph =>
          exact hnone (by rw [turn_teardown, hph]) (by simp only [after, hph]) ⟨rfl, rfl⟩
      | destructed hph =>
          exact hnone (by rw [turn_teardown, hph]) (by simp only [after, hph]) ⟨rfl, rfl⟩
      | globalCleanup hph =>
          exact hnone (by rw [turn_teardown, hph]) (by simp only [after, hph]) ⟨rfl, rfl⟩
      | destruct hph =>
          exact hnone (by rw [turn_teardown, hph]) (by simp only [after, hph]) ⟨rfl, rfl⟩
      | guard hph =>
          exact hnone (by rw [turn_teardown, hph]) (by simp only [after, hph]) ⟨rfl, rfl⟩

/-! ### Its end and its beginning -/

/-- `RemoveTask`, a sweep and the clearing of the map. -/
theorem gone_alone (hr : Records m.transfers) (hs : m.pool.Sound (0 < ·))
    (hn : m.next a = some m') (hh : m.amxCurl.lookup h = some o) (hd : m.Destroys h o a) :
    Alone.machine.Takes (m.alone o) (m.turn o a) (m'.alone o) := by
  have hlive : m.transfers.IsLive o := ⟨h, hh⟩
  have hborn : o < m'.objs.next := Nat.lt_of_lt_of_le (hr.objLt hlive) (next_le hn)
  rw [alone_alive hlive, alone_gone (not_live_of_destroys hr hs hn hh hd) hborn]
  cases a with
  | easyCleanup k =>
      obtain ⟨rfl, hidle⟩ := hd
      have hturn : m.turn o (.easyCleanup k) = some .cleanup := if_pos hh
      rw [hturn]
      show some _ = some _
      rw [hidle]
      rfl
  | sweep order =>
      obtain ⟨-, hdeferred, hidle⟩ := hd
      have hturn : m.turn o (.sweep order) = some .sweep := if_pos (hasHandle_iff.mpr hlive)
      rw [hturn]
      show some _ = some _
      rw [hidle, hdeferred]
      rfl
  | teardown order =>
      obtain ⟨actor, todo, hph⟩ := hd
      have hturn : m.turn o (.teardown order) = some .destroy := by
        rw [turn_teardown, hph]
        exact if_pos hh
      have hstack : m.stack = [] := by
        cases next_fires hn with
        | teardown order m' hstack ht => exact hstack
      rw [hturn]
      rcases cleared_place hr hstack hph hlive with hplace | hplace <;> rw [hplace] <;> rfl
  | _ => exact absurd hd not_false

/-- An object without a handle number is asked nothing. -/
theorem turn_dead (hr : Records m.transfers) (hn : m.next a = some m')
    (ho : ¬m.transfers.IsLive o) (hnew : ∀ b e, a = .easyInit b (some e) → o ≠ m.objs.next) :
    m.turn o a = none := by
  have hno : ∀ {k}, ¬m.amxCurl.lookup k = some o := fun hk => ho ⟨_, hk⟩
  have hbusy : ∀ {k}, (o, k) ∉ m.transfers.tasks := fun hk => ho (hr.busy hk).1
  have hpushed : ∀ {f : Frame} {rest : List Frame} {k : Task}, m.stack = f :: rest →
      f.task = some (o, k) → False := by
    intro f rest k hstack hf
    refine hbusy (k := k) ?_
    show _ ∈ m.stack.filterMap Frame.task
    rw [hstack, List.filterMap_cons_some hf]
    exact List.mem_cons_self ..
  cases next_fires hn with
  | easyInit b q reply =>
      cases reply with
      | none => rfl
      | some e => exact if_neg (hnew b e rfl)
  | setCallback k c reply codes =>
      cases c with
      | none => rfl
      | some c => exact if_neg hno
  | setOption k d =>
      cases d with
      | none => rfl
      | some d => exact if_neg hno
  | easyPerform => exact if_neg hno
  | easyCleanup => exact if_neg hno
  | easyReset => exact if_neg hno
  | addReturn ok o₁ p rest hstack =>
      have hne : o₁ ≠ o := by
        rintro rfl
        exact hpushed hstack rfl
      unfold turn
      simp only [hstack, if_neg hne]
  | removeReturn f o₁ p res rest hstack =>
      have hne : o₁ ≠ o := by
        rintro rfl
        exact hpushed hstack rfl
      unfold turn
      simp only [hstack, if_neg hne]
  | callback o₁ k hl he =>
      refine if_neg ?_
      rintro rfl
      exact ho (hr.easy.mp he).1
  | readMessage rest hstack hmsg =>
      obtain ⟨⟨e, p, res⟩, ms, hms⟩ := List.exists_cons_of_ne_nil hmsg
      have hmap : ¬m.curlMap.lookup e = some o :=
        fun hmap => ho (hr.easy.mp (hr.mapOwner hmap)).1
      unfold turn
      simp only [hms, if_neg hmap]
  | sweep => exact if_neg (mt hasHandle_iff.mp ho)
  | onAmxxDetach => exact if_neg (mt hasHandle_iff.mp ho)
  | teardown order m' hstack ht =>
      unfold turn
      dsimp only
      split
      · exact if_neg hno
      · exact if_neg hno
      · rfl
  | _ => rfl

theorem dead_alone (hr : Records m.transfers) (hs : m.pool.Sound (0 < ·))
    (hn : m.next a = some m') (ho : ¬m.transfers.IsLive o)
    (hnew : ∀ b e, a = .easyInit b (some e) → o ≠ m.objs.next) :
    Alone.machine.Takes (m.alone o) (m.turn o a) (m'.alone o) := by
  have ho' : ¬m'.transfers.IsLive o := by
    rintro ⟨k, hk⟩
    rcases (next_renumbers hs hn).live hk with hold | ⟨heq, b, e, ha⟩
    · exact ho ⟨k, hold⟩
    · exact hnew b e ha heq
  have hborn : o < m'.objs.next ↔ o < m.objs.next := by
    by_cases hinit : ∃ b e, a = .easyInit b (some e)
    · obtain ⟨b, e, rfl⟩ := hinit
      have hne := hnew b e rfl
      have hnext : m'.objs.next = m.objs.next + 1 := by
        cases next_fires hn with
        | easyInit b q reply => exact congrArg Heap.next createCurl_objs
      rw [hnext]
      exact ⟨fun hlt => Nat.lt_of_le_of_ne (Nat.le_of_lt_succ hlt) hne, Nat.lt_succ_of_lt⟩
    · rw [next_next hn fun b e ha => hinit ⟨b, e, ha⟩]
  rw [turn_dead hr hn ho hnew]
  show m'.alone o = m.alone o
  by_cases hlt : o < m.objs.next
  · rw [alone_gone ho hlt, alone_gone ho' (hborn.mpr hlt)]
  · have hle' : m'.objs.next ≤ o := Nat.not_lt.mp fun h => hlt (hborn.mp h)
    rw [alone_unborn ho (Nat.not_lt.mp hlt), alone_unborn ho' hle']

theorem born_alone {b : AmxPtr} {e : CurlPtr} (hr : Records m.transfers)
    (hs : m.pool.Sound (0 < ·)) (hn : m.next (.easyInit b (some e)) = some m') :
    Alone.machine.Takes (m.alone m.objs.next) (m.turn m.objs.next (.easyInit b (some e)))
      (m'.alone m.objs.next) := by
  have ho : ¬m.transfers.IsLive m.objs.next :=
    fun hlive => absurd (hr.objLt hlive) (Nat.lt_irrefl _)
  obtain ⟨q, hq, hobj⟩ := next_new hn
  have ho' : m'.transfers.IsLive m.objs.next := by
    have hfree : m.amxCurl.lookup m.getCurlHandle.1 = none := by
      have hfree := (hs.draws getCurlHandle_draws).2.1
      rwa [mem_pool, Option.not_isSome_iff_eq_none] at hfree
    cases next_fires hn with
    | easyInit b q reply =>
        rw [createCurl_new hfree]
        exact ⟨m.getCurlHandle.1, Finmap.lookup_insert _⟩
  have hidle : (m'.transfers.obj m.objs.next).inProgress = false :=
    congrArg AmxCurl.isTransferInProgress hobj
  have hturn : m.turn m.objs.next (.easyInit b (some e)) = some (.init b q e) := by
    unfold turn
    simp only [if_true, hq, Option.map_some]
  rw [alone_unborn ho (Nat.le_refl _), alone_alive ho', hobj, Transfers.place_idle hidle, hturn]
  rfl

/-! ### Every step -/

variable {C C' : AmxCurlController → Action → Prop} {tr tr' : List Action}

/-- **Each object does what it is asked, and nothing else happens to it.** -/
theorem next_alone (hrun : machine.Run C tr m) (hc : C m a) (hn : m.next a = some m')
    (o : ObjId) : Alone.machine.Takes (m.alone o) (m.turn o a) (m'.alone o) := by
  have hr := run_records hrun
  have hr' := run_records (hrun.snoc hc hn)
  have hs := run_pool hrun
  by_cases hlive : m.transfers.IsLive o
  · have hlive₀ := hlive
    obtain ⟨h, hh⟩ := hlive
    have hh : m.amxCurl.lookup h = some o := hh
    by_cases hd : m.Destroys h o a
    · exact gone_alone hr hs hn hh hd
    have hlive' := live_of_not_destroys hs hn hh hd
    cases hmoves : a.moves with
    | false =>
        have hw : ∀ order, a = .sweep order → m.Walks order := by
          rintro order rfl
          cases next_fires hn with
          | sweep order hstack hph hw => exact hw
        exact takes_alive hn hlive₀ hlive' rfl (next_place hr hn hmoves hlive₀)
          (after_turn hr hmoves hh hd hw _)
    | true =>
        cases a with
        | easyPerform => exact easyPerform_alone hr hr' hn hlive₀ hlive'
        | addReturn => exact addReturn_alone hr hn hlive₀ hlive'
        | readMessage => exact readMessage_alone hr hr' hn hlive₀ hlive'
        | removeReturn => exact removeReturn_alone hr hn hlive₀ hlive'
        | teardown order =>
            refine teardown_alone hr hn hlive₀ (fun {k} hk => ?_) hlive'
            rw [hr.handleInj hk hh]
            exact hd
        | _ => simp [Action.moves] at hmoves
  · by_cases hnew : ∃ b e, a = .easyInit b (some e) ∧ o = m.objs.next
    · obtain ⟨b, e, rfl, rfl⟩ := hnew
      exact born_alone hr hs hn
    · exact dead_alone hr hs hn hlive fun b e ha ho => hnew ⟨b, e, ha, ho⟩

/-! ### Every run -/

theorem alone_boot (o : ObjId) : boot.alone o = .unborn :=
  alone_unborn (fun ⟨_, hh⟩ => by simp [transfers, boot] at hh) (Nat.zero_le _)

/--
**Every handle runs as if it were alone.**  Whatever plugins do with other handles, in
whatever order and from inside whatever callbacks, what is asked of one object is a run of
the machine of a single handle and leaves the object in the state that machine is in; so
wherever else the same is asked of an object, in another run with other handles around it,
it becomes the same, its members and the place of its easy handle.
-/
theorem handle_alone (hrun : machine.Run C tr m) (o : ObjId) :
    Alone.machine.Run Machine.Free (machine.turns (turn o) tr) (m.alone o) ∧
      ∀ C' tr' m' o', machine.Run C' tr' m' →
        machine.turns (turn o') tr' = machine.turns (turn o) tr → m'.alone o' = m.alone o := by
  have hpart : ∀ {C' tr' m'} o', machine.Run C' tr' m' →
      Alone.machine.Run Machine.Free (machine.turns (turn o') tr') (m'.alone o') :=
    fun o' hrun' => hrun'.part (alone_boot o') fun tr m a m' hr hc hn => next_alone hr hc hn o'
  refine ⟨hpart o hrun, fun C' tr' m' o' hrun' hturns => ?_⟩
  have hlone := hpart o' hrun'
  rw [hturns] at hlone
  exact hlone.unique (hpart o hrun)

/-- A handle receives a chunk while another, inside a callback, is given up. -/
def crowding : List Action :=
  [.load 7, .easyInit 7 (some 100), .easyInit 7 (some 101),
    .setCallback 2 (some .writeFunction) (some 5) (0, 0), .easyPerform 2 true 3 0, .addReturn true,
    .easyPerform 1 true 3 0, .addReturn true, .poll, .callback 1 (.write [7]), .easyCleanup 2,
    .pawnReturn 1, .callback 0 (.write [1, 2])]

def crowded : AmxCurlController := (machine.exec Machine.Free boot crowding).get (by decide)

/-- The same handle, with no other. -/
def keepingToItself : List Action :=
  [.load 7, .easyInit 7 (some 100), .easyPerform 1 true 3 0, .addReturn true, .poll,
    .callback 0 (.write [1, 2])]

def solitary : AmxCurlController :=
  (machine.exec Machine.Free boot keepingToItself).get (by decide)

theorem handle_alone_crowded : crowded.alone 0 = solitary.alone 0 := by
  have hrun : machine.Run Machine.Free crowding crowded :=
    Machine.run_of_exec (Option.some_get _).symm
  have hrun' : machine.Run Machine.Free keepingToItself solitary :=
    Machine.run_of_exec (Option.some_get _).symm
  exact (handle_alone hrun' 0).2 _ _ _ 0 hrun rfl

end AmxCurlController

end AmxxCurl
