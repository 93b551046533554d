/-
What a step does to one object.

`after m a o` is the object `o` after the action `a`: a function of the state before, read
off the source one member at a time.  That the machine does exactly this, whatever else a
step does, is `next_obj`.  A property of one handle is then an induction over runs whose
step is a case analysis of `after`.
-/
import AmxxCurl.Amx.Changes
import AmxxCurl.Amx.Stack

namespace AmxxCurl

open AmxCurlController

/-! ### What the functions do to the object they are called on -/

namespace AmxCurl

/-- `SetupAmxCallback` leaves the option with the forward it got, if any. -/
def setForward (x : AmxCurl) (c : CallbackOption) (f : Option (ForwardId × PluginId)) : AmxCurl :=
  { x with registeredCallbacks := Function.update x.registeredCallbacks c f }

/-- `SetData`. -/
def setData (x : AmxCurl) (c : CallbackOption) (v : Int) : AmxCurl :=
  { x with data := Function.update x.data c (some v) }

/-- `MF_AmxFindPublic` writes to `amx_callback_fun_`, and `Perform` throws. -/
def refuse (x : AmxCurl) (fun_ : Int) : AmxCurl := { x with amxCallbackFun := fun_ }

/-- `Perform` goes into `AddCurl`. -/
def start (x : AmxCurl) (args : PerformArgs) : AmxCurl :=
  { x with
    amxCallbackFun := args.fun_
    amxCallbackData := args.data
    amxCallbackDataLen := args.dataLen
    taskHandle := args.task
    isTransferInProgress := true }

/-- The transfer is over, or never began. -/
def settle (x : AmxCurl) : AmxCurl :=
  { x with isTransferInProgress := false, amxCallbackData := none, amxCallbackDataLen := 0 }

/-- `ClearResponseBody`. -/
def clearBody (x : AmxCurl) : AmxCurl := { x with responseBody := [] }

/-- `WriteCallback` without a forward: as much of the chunk as there is room for. -/
def capture (x : AmxCurl) (chunk : List UInt8) : AmxCurl :=
  { x with responseBody := x.responseBody ++ chunk.take (remaining x) }

/-- `TryInterrupt`. -/
def interrupted (x : AmxCurl) : AmxCurl := { x with interrupt := true }

/-- `RemoveTask` of a handle in flight. -/
def defer (x : AmxCurl) : AmxCurl := { x with cleanupDeferred := true, interrupt := true }

/-- `ResetAmxCallbacks`. -/
def reset (x : AmxCurl) : AmxCurl :=
  { x with registeredCallbacks := fun _ => none, responseBody := [], interrupt := false }

/-- The destructors ran: `valid` says whether the forwards could be unregistered. -/
def destroyed (x : AmxCurl) (valid : Bool) : AmxCurl :=
  if valid then x.reset else { x with registeredCallbacks := fun _ => none, responseBody := [] }

end AmxCurl

namespace AmxCurlController

variable {m m' : AmxCurlController} {a : Action} {o : ObjId} {h : AmxCurlHandle}

/-! ### What a step does -/

/-- What `IsAmxValid` answers for the object. -/
def valid (m : AmxCurlController) (o : ObjId) : Bool :=
  !m.isDetached && (m.amxx.loaded (m.obj o).amx).isSome

/-- The forward `SetupAmxCallback` gets: of the plugin at `amx_`, if there is one. -/
def granted (m : AmxCurlController) (o : ObjId) (reply : Option ForwardId) :
    Option (ForwardId × PluginId) :=
  (m.amxx.loaded (m.obj o).amx).bind fun q => reply.map fun f => (f, q)

/-- The handle is `o`, which is idle. -/
def Idle (m : AmxCurlController) (h : AmxCurlHandle) (o : ObjId) : Prop :=
  m.amxCurl.lookup h = some o ∧ (m.obj o).isTransferInProgress = false

instance (m : AmxCurlController) (h : AmxCurlHandle) (o : ObjId) : Decidable (m.Idle h o) :=
  inferInstanceAs (Decidable (_ ∧ _))

/-- The handle is `o`, and a sweep would destroy it. -/
def Due (m : AmxCurlController) (h : AmxCurlHandle) (o : ObjId) : Prop :=
  m.Idle h o ∧ (m.obj o).cleanupDeferred = true

instance (m : AmxCurlController) (h : AmxCurlHandle) (o : ObjId) : Decidable (m.Due h o) :=
  inferInstanceAs (Decidable (_ ∧ _))

/-- The object after libcurl has called `k` on it. -/
def answered (m : AmxCurlController) (o : ObjId) (k : Callback) : AmxCurl :=
  let x := m.obj o
  if x.interrupt then x
  else
    match x.registeredCallbacks k.option, k with
    | none, .write chunk => x.capture chunk
    | none, _ => x
    | some _, _ => if m.valid o then x else x.interrupted

/-- The object after the action. -/
def after (m : AmxCurlController) (a : Action) (o : ObjId) : AmxCurl :=
  let x := m.obj o
  match a with
  | .easyInit b reply =>
      match m.amxx.loaded b, reply with
      | some q, some e => if o = m.objs.next then .new b q e else x
      | _, _ => x
  | .setCallback h (some c) reply _ =>
      if m.amxCurl.lookup h = some o then x.setForward c (m.granted o reply) else x
  | .setOption h (some (c, v)) => if m.amxCurl.lookup h = some o then x.setData c v else x
  | .easyPerform h found fun_ dataLen =>
      if m.Idle h o then
        if found then x.start (m.performArgs h fun_ dataLen) else x.refuse fun_
      else x
  | .easyCleanup h =>
      if m.Idle h o then x.destroyed (m.valid o)
      else if m.amxCurl.lookup h = some o then x.defer
      else x
  | .easyReset h => if m.Idle h o then x.reset else x
  | .addReturn ok =>
      match m.stack with
      | .adding o' _ :: _ => if o' = o then if ok then x.clearBody else x.settle else x
      | _ => x
  | .removeReturn _ =>
      match m.stack with
      | .removing o' _ _ :: _ => if o' = o then x.settle else x
      | _ => x
  | .callback o' k => if o' = o then m.answered o k else x
  | .sweep order =>
      if ∃ h ∈ order, m.Due h o then x.destroyed (m.valid o) else x
  | .onAmxxDetach => x.interrupted
  | .teardown _ =>
      match m.phase with
      | .clearing _ (h :: _) =>
          if m.amxCurl.lookup h = some o then x.destroyed (m.valid o) else x
      | _ => x
  | _ => x

/-! ### The functions of the source -/

theorem obj_of_objs {objs : Heap AmxCurl} (hobjs : m'.objs = objs) (o : ObjId) :
    m'.obj o = objs.cell o := by
  rw [obj, hobjs]

theorem setObj_objs {f : AmxCurl → AmxCurl} : (m.setObj o f).objs = m.objs.modify o f := rfl

theorem emit_objs {es : List Event} : (m.emit es).objs = m.objs := rfl

theorem isAmxValid_objs : (m.isAmxValid o).1.objs = m.objs := by
  unfold isAmxValid
  split <;> rfl

theorem isAmxValid_valid : (m.isAmxValid o).2 = m.valid o := by
  unfold isAmxValid valid
  split
  · rename_i hd
    simp [hd]
  · rename_i hd
    simp [hd]

theorem destroyAmxCurl_objs :
    (m.destroyAmxCurl o).objs = m.objs.modify o (·.destroyed (m.valid o)) := by
  have hobjs : ((m.cleanedUp o).isAmxValid o).1.objs = m.objs := isAmxValid_objs
  have hvalid : ((m.cleanedUp o).isAmxValid o).2 = m.valid o := isAmxValid_valid
  rw [destroyAmxCurl_eq, hvalid]
  split
  · rename_i hv
    show ((m.cleanedUp o).isAmxValid o).1.objs.modify o AmxCurl.reset = _
    rw [hobjs, hv]
    rfl
  · rename_i hv
    unfold setObj
    rw [hobjs, Bool.eq_false_iff.mpr hv]
    rfl

/-- An option without a forward is left as it is. -/
theorem setForward_none {c : CallbackOption} (hnone : (m.obj o).registeredCallbacks c = none) :
    m.objs = m.objs.modify o (·.setForward c none) := by
  refine (Heap.modify_eq_self _ ?_).symm
  have hsame : Function.update (m.obj o).registeredCallbacks c none =
      (m.obj o).registeredCallbacks := by
    rw [← hnone, Function.update_eq_self]
  unfold AmxCurl.setForward
  rw [hsame]

theorem dropForward_objs {c : CallbackOption} :
    (m.dropForward o c).objs = m.objs.modify o (·.setForward c none) := by
  unfold dropForward
  split
  · rename_i hnone
    exact setForward_none hnone
  · rfl

theorem dropForward_loaded {c : CallbackOption} :
    (m.dropForward o c).amxx.loaded = m.amxx.loaded := by
  unfold dropForward
  split <;> rfl

theorem registerForward_objs {c : CallbackOption} {reply : Option ForwardId}
    (hnone : (m.obj o).registeredCallbacks c = none) :
    (m.registerForward o c reply).objs = m.objs.modify o (·.setForward c (m.granted o reply)) := by
  unfold registerForward granted
  dsimp only
  cases hq : m.amxx.loaded (m.obj o).amx with
  | none => exact setForward_none hnone
  | some q =>
      cases reply with
      | none => exact setForward_none hnone
      | some f => rfl

theorem setupAmxCallback_objs {c : CallbackOption} {reply : Option ForwardId} :
    (m.setupAmxCallback o c reply).objs =
      m.objs.modify o (·.setForward c (m.granted o reply)) := by
  have hobj : (m.dropForward o c).obj o = (m.obj o).setForward c none := by
    rw [obj_of_objs dropForward_objs, Heap.modify_cell_self]
  have hnone : ((m.dropForward o c).obj o).registeredCallbacks c = none := by
    rw [hobj]
    exact Function.update_self ..
  have hgranted : (m.dropForward o c).granted o reply = m.granted o reply := by
    unfold granted
    rw [dropForward_loaded, hobj]
    rfl
  unfold setupAmxCallback
  rw [registerForward_objs hnone, hgranted, dropForward_objs, Heap.modify_modify]
  congr 1
  funext x
  unfold AmxCurl.setForward
  dsimp only
  rw [Function.update_idem]

theorem captureBody_objs {chunk : List UInt8} :
    (m.captureBody o chunk).objs = m.objs.modify o (·.capture chunk) := by
  unfold captureBody
  split
  · rename_i hfull
    split
    · rfl
    · rename_i hnone
      refine (Heap.modify_eq_self _ ?_).symm
      have hrem : remaining (m.objs.cell o) = 0 := Nat.eq_zero_of_not_pos hnone
      unfold AmxCurl.capture
      rw [hrem, List.take_zero, List.append_nil]
  · rename_i hfits
    have htake : chunk.take (remaining (m.obj o)) = chunk := by
      refine List.take_of_length_le ?_
      unfold remaining
      omega
    rw [setObj_objs]
    refine Heap.modify_congr m.objs ?_
    unfold AmxCurl.capture
    rw [htake]

theorem executeForward_objs {c : CallbackOption} {f : ForwardId} {expected : Int} :
    (m.executeForward o c f expected).objs = m.objs := by
  unfold executeForward
  dsimp only
  split <;> rfl

/-- A callback with a forward whose plugin is gone. -/
theorem interrupt_objs {m₁ : AmxCurlController} {e : Event}
    (hv : m.isAmxValid o = (m₁, false)) :
    ((m₁.setObj o fun x => { x with interrupt := true }).emit [e]).objs =
      m.objs.modify o fun _ => if m.valid o then m.obj o else (m.obj o).interrupted := by
  have hobjs : m₁.objs = m.objs := by
    have hobjs : (m.isAmxValid o).1.objs = m.objs := isAmxValid_objs
    rwa [hv] at hobjs
  have hvalid : m.valid o = false := by
    rw [← isAmxValid_valid, hv]
  rw [hvalid, if_neg Bool.false_ne_true, emit_objs, setObj_objs, hobjs]
  exact Heap.modify_congr m.objs rfl

/-- One whose plugin is there. -/
theorem execute_objs {m₁ : AmxCurlController} {c : CallbackOption} {f : ForwardId} {n : Int}
    (hv : m.isAmxValid o = (m₁, true)) : (m₁.executeForward o c f n).objs =
      m.objs.modify o fun _ => if m.valid o then m.obj o else (m.obj o).interrupted := by
  have hobjs : m₁.objs = m.objs := by
    have hobjs : (m.isAmxValid o).1.objs = m.objs := isAmxValid_objs
    rwa [hv] at hobjs
  have hvalid : m.valid o = true := by
    rw [← isAmxValid_valid, hv]
  rw [hvalid, if_pos rfl, executeForward_objs, hobjs]
  exact (Heap.modify_eq_self _ rfl).symm

theorem dataCallback_objs {k : Callback} {unregistered invalid : Int}
    (hk : ∀ chunk, k ≠ .write chunk) :
    (m.dataCallback o k.option unregistered invalid).objs =
      m.objs.modify o fun _ => m.answered o k := by
  unfold dataCallback answered
  dsimp only
  by_cases hi : (m.obj o).interrupt
  · rw [if_pos hi, if_pos hi]
    exact (Heap.modify_eq_self _ rfl).symm
  · rw [if_neg hi, if_neg hi]
    cases hr : (m.obj o).registeredCallbacks k.option with
    | none =>
        refine (Heap.modify_eq_self _ ?_).symm
        cases k with
        | write chunk => exact absurd rfl (hk chunk)
        | _ => rfl
    | some f =>
        dsimp only
        split
        · rename_i m₁ hv
          exact interrupt_objs hv
        · rename_i m₁ hv
          exact execute_objs hv

theorem writeCallback_objs {chunk : List UInt8} : (m.writeCallback o chunk).objs =
    m.objs.modify o fun _ => m.answered o (.write chunk) := by
  unfold writeCallback answered
  dsimp only [Callback.option]
  by_cases hi : (m.obj o).interrupt
  · rw [if_pos hi, if_pos hi]
    exact (Heap.modify_eq_self _ rfl).symm
  · rw [if_neg hi, if_neg hi]
    cases hr : (m.obj o).registeredCallbacks .writeFunction with
    | none =>
        show (m.captureBody o chunk).objs = _
        rw [captureBody_objs]
        exact Heap.modify_congr m.objs rfl
    | some f =>
        dsimp only
        split
        · rename_i m₁ hv
          exact interrupt_objs hv
        · rename_i m₁ hv
          exact execute_objs hv

theorem callback_objs {k : Callback} : (m.callback o k).objs =
    m.objs.modify o fun _ => m.answered o k := by
  cases k with
  | write chunk => exact writeCallback_objs
  | read => exact dataCallback_objs (k := .read) (by simp)
  | ioctl => exact dataCallback_objs (k := .ioctl) (by simp)
  | seek => exact dataCallback_objs (k := .seek) (by simp)
  | sockopt => exact dataCallback_objs (k := .sockopt) (by simp)
  | progress => exact dataCallback_objs (k := .progress) (by simp)
  | header n => exact dataCallback_objs (k := .header n) (by simp)
  | debug => exact dataCallback_objs (k := .debug) (by simp)
  | sslCtx => exact dataCallback_objs (k := .sslCtx) (by simp)
  | interleave n => exact dataCallback_objs (k := .interleave n) (by simp)

/-! ### Destroying twice is destroying once -/

theorem destroyed_destroyed (x : AmxCurl) (v : Bool) :
    (x.destroyed v).destroyed v = x.destroyed v := by
  cases v <;> rfl

theorem destroyed_new (b : AmxPtr) (q : PluginId) (e : CurlPtr) (v : Bool) :
    (AmxCurl.new b q e).destroyed v = .new b q e := by
  cases v <;> rfl

theorem destroyed_amx (x : AmxCurl) (v : Bool) : (x.destroyed v).amx = x.amx := by
  cases v <;> rfl

theorem cell_modify {f : AmxCurl → AmxCurl} (o' : ObjId) :
    (m.objs.modify o f).cell o' = if o' = o then f (m.obj o) else m.obj o' :=
  Heap.modify_cell ..

/-- The same, from the side of the object that is asked about. -/
theorem cell_modify' {f : AmxCurl → AmxCurl} (o' : ObjId) :
    (m.objs.modify o f).cell o' = if o = o' then f (m.obj o') else m.obj o' := by
  rw [cell_modify]
  by_cases ho : o' = o
  · rw [if_pos ho, if_pos ho.symm, ho]
  · rw [if_neg ho, if_neg (Ne.symm ho)]

theorem destroyAmxCurl_loaded : (m.destroyAmxCurl o).amxx.loaded = m.amxx.loaded ∧
    (m.destroyAmxCurl o).isDetached = m.isDetached := by
  have hvalid : ((m.cleanedUp o).isAmxValid o).1.amxx = m.amxx ∧
      ((m.cleanedUp o).isAmxValid o).1.isDetached = m.isDetached := by
    unfold isAmxValid
    split <;> exact ⟨rfl, rfl⟩
  rw [destroyAmxCurl_eq]
  split
  · refine ⟨?_, hvalid.2⟩
    show (((m.cleanedUp o).isAmxValid o).1.amxx.unregisterAll _).loaded = m.amxx.loaded
    rw [Amxx.unregisterAll_loaded, hvalid.1]
  · exact ⟨congrArg Amxx.loaded hvalid.1, hvalid.2⟩

theorem destroyAmxCurl_valid {o' : ObjId} : (m.destroyAmxCurl o).valid o' = m.valid o' := by
  have hamx : ((m.destroyAmxCurl o).obj o').amx = (m.obj o').amx := by
    rw [obj_of_objs destroyAmxCurl_objs, cell_modify]
    split
    · rename_i heq
      rw [destroyed_amx, heq]
    · rfl
  unfold valid
  rw [destroyAmxCurl_loaded.1, destroyAmxCurl_loaded.2, hamx]

/-! ### The sweep -/

theorem sweepOne_due {o' : ObjId} (hdue : m.Due h o') : m.sweepOne h =
    { m with amxCurl := m.amxCurl.erase h, freeHandles := m.freeHandles ++ [h] }.destroyAmxCurl o' := by
  unfold sweepOne
  rw [hdue.1.1]
  dsimp only
  rw [if_pos]
  rw [hdue.1.2, hdue.2]
  rfl

theorem sweepOne_not_due (hnot : ∀ o', ¬m.Due h o') : m.sweepOne h = m := by
  unfold sweepOne
  split
  · rfl
  · rename_i o' hh
    refine if_neg fun hc => hnot o' ⟨⟨hh, ?_⟩, ?_⟩
    · simpa using (Bool.and_eq_true_iff.mp hc).2
    · exact (Bool.and_eq_true_iff.mp hc).1

theorem sweepDeferredCleanups_obj (order : List AmxCurlHandle) :
    ∀ m : AmxCurlController, (m.sweepDeferredCleanups order).obj o =
      if ∃ h ∈ order, m.Due h o then (m.obj o).destroyed (m.valid o) else m.obj o := by
  induction order with
  | nil =>
      intro m
      rw [if_neg (by simp)]
      rfl
  | cons h order ih =>
      intro m
      show ((m.sweepOne h).sweepDeferredCleanups order).obj o = _
      rw [ih]
      by_cases hsome : ∃ o', m.Due h o'
      · obtain ⟨o', hdue⟩ := hsome
        rw [sweepOne_due hdue]
        let m₁ : AmxCurlController :=
          { m with amxCurl := m.amxCurl.erase h, freeHandles := m.freeHandles ++ [h] }
        have hobj : (m₁.destroyAmxCurl o').obj o =
            if o = o' then (m.obj o').destroyed (m.valid o') else m.obj o := by
          rw [obj_of_objs destroyAmxCurl_objs, cell_modify]
          rfl
        have hvalid : (m₁.destroyAmxCurl o').valid o = m.valid o := destroyAmxCurl_valid
        show (if ∃ h ∈ order, (m₁.destroyAmxCurl o').Due h o
          then ((m₁.destroyAmxCurl o').obj o).destroyed ((m₁.destroyAmxCurl o').valid o)
          else (m₁.destroyAmxCurl o').obj o) = _
        rw [hvalid, hobj]
        by_cases ho : o = o'
        · subst ho
          rw [if_pos rfl, destroyed_destroyed, ite_self, if_pos ⟨h, List.mem_cons_self .., hdue⟩]
        · rw [if_neg ho]
          rw [if_neg ho] at hobj
          have hnot : ¬m.Due h o := by
            intro hdue'
            exact ho (Option.some.inj (hdue'.1.1.symm.trans hdue.1.1))
          have hkeep : ∀ k, (m₁.destroyAmxCurl o').Due k o ↔ m.Due k o := by
            intro k
            have hlookup : (m.amxCurl.erase h).lookup k = some o ↔ m.amxCurl.lookup k = some o := by
              rw [Table.lookup_erase_eq_some]
              refine and_iff_right_of_imp fun hk hkh => ?_
              rw [hkh, hdue.1.1] at hk
              exact ho (Option.some.inj hk).symm
            unfold Due Idle
            rw [hobj, (destroyAmxCurl_obj o).1]
            exact and_congr_left' (and_congr_left' hlookup)
          refine if_congr ?_ rfl rfl
          rw [List.exists_mem_cons_iff, or_iff_right hnot]
          exact exists_congr fun k => and_congr_right' (hkeep k)
      · have hnot : ∀ o', ¬m.Due h o' := fun o' hdue => hsome ⟨o', hdue⟩
        rw [sweepOne_not_due hnot]
        refine if_congr ?_ rfl rfl
        rw [List.exists_mem_cons_iff]
        exact (or_iff_right (hnot o)).symm

/-! ### The natives -/

/-- A function that is called on the object of a handle. -/
theorem called_obj {o' : ObjId} {f : AmxCurl → AmxCurl} (hh : m.amxCurl.lookup h = some o')
    (hobjs : m'.objs = m.objs.modify o' f) :
    m'.obj o = if m.amxCurl.lookup h = some o then f (m.obj o) else m.obj o := by
  rw [obj_of_objs hobjs, cell_modify, hh]
  by_cases ho : o = o'
  · subst ho
    rw [if_pos rfl, if_pos rfl]
  · rw [if_neg ho, if_neg fun hc => ho (Option.some.inj hc).symm]

theorem idle_eq {o' : ObjId} (hh : m.amxCurl.lookup h = some o')
    (hidle : (m.obj o').isTransferInProgress = false) :
    m.Idle h o ↔ m.amxCurl.lookup h = some o := by
  refine and_iff_left_of_imp fun ho => ?_
  obtain rfl := Option.some.inj (hh.symm.trans ho)
  exact hidle

theorem not_idle {o' : ObjId} (hh : m.amxCurl.lookup h = some o')
    (hbusy : (m.obj o').isTransferInProgress = true) : ¬m.Idle h o := by
  intro hidle
  obtain rfl := Option.some.inj (hh.symm.trans hidle.1)
  rw [hidle.2] at hbusy
  simp at hbusy

theorem unknown_not_idle (hh : m.amxCurl.lookup h = none) : ¬m.Idle h o := by
  intro hidle
  rw [hidle.1] at hh
  simp at hh

theorem createCurl_objs {b : AmxPtr} {q : PluginId} {e : CurlPtr} :
    (m.createCurl b q (some e)).objs = m.objs.alloc (.new b q e) := by
  unfold createCurl
  dsimp only
  split
  · rw [destroyAmxCurl_objs]
    refine Heap.modify_eq_self _ ?_
    show ((m.objs.alloc (.new b q e)).cell m.objs.next).destroyed _ =
      (m.objs.alloc (.new b q e)).cell m.objs.next
    rw [Heap.alloc_cell_next, destroyed_new]
  · rfl

theorem curlSetupAmxCallback_obj {c : Option CallbackOption} {reply : Option ForwardId}
    {codes : CurlCode × CurlCode} :
    (m.curlSetupAmxCallback h c reply codes).obj o = m.after (.setCallback h c reply codes) o := by
  rcases m.curlSetupAmxCallback_cases h c reply codes with
    ⟨heq, hno⟩ | ⟨o', c', es, hh, rfl, -, heq⟩ <;> rw [heq]
  · cases c with
    | none => rfl
    | some c =>
        refine (if_neg fun ho => ?_).symm
        rw [hno.resolve_right (by simp)] at ho
        simp at ho
  · have hobjs : ((m.setupAmxCallback o' c' reply).emit es).objs = _ := setupAmxCallback_objs
    rw [called_obj hh hobjs]
    by_cases ho : m.amxCurl.lookup h = some o
    · obtain rfl := Option.some.inj (hh.symm.trans ho)
      rfl
    · rw [if_neg ho]
      exact (if_neg ho).symm

theorem curlSetOption_obj {d : Option (CallbackOption × Int)} :
    (m.curlSetOption h d).obj o = m.after (.setOption h d) o := by
  unfold curlSetOption
  cases hh : m.amxCurl.lookup h with
  | none =>
      cases d with
      | none => rfl
      | some d =>
          refine (if_neg fun ho => ?_).symm
          rw [hh] at ho
          simp at ho
  | some o' =>
      cases d with
      | none => rfl
      | some d =>
          exact called_obj (f := fun x => x.setData d.1 d.2) hh setObj_objs

theorem perform_objs {found : Bool} {fun_ dataLen : Int} {data : Option DataId} :
    (m.perform o h found fun_ data dataLen).objs = m.objs.modify o fun x =>
      if found then x.start ⟨fun_, h, data, dataLen⟩ else x.refuse fun_ := by
  cases found with
  | false => rfl
  | true =>
      have hobjs : (m.perform o h true fun_ data dataLen).objs =
          (m.objs.modify o (·.refuse fun_)).modify o fun x =>
            { x with
              amxCallbackData := data
              amxCallbackDataLen := dataLen
              taskHandle := h
              isTransferInProgress := true } := rfl
      rw [hobjs, Heap.modify_modify]
      rfl

theorem amxCurlEasyPerform_obj {found : Bool} {fun_ dataLen : Int} :
    (m.amxCurlEasyPerform h found fun_ dataLen).obj o =
      m.after (.easyPerform h found fun_ dataLen) o := by
  have hperform : ∀ (m₁ : AmxCurlController) (data : Option DataId), m₁.objs = m.objs →
      m₁.amxCurl = m.amxCurl → data = (m.performArgs h fun_ dataLen).data →
      (m₁.curlPerformTask h found fun_ data dataLen).obj o =
        m.after (.easyPerform h found fun_ dataLen) o := by
    intro m₁ data hobjs hhandles hdata
    have hobj : ∀ o, m₁.obj o = m.obj o := fun o => obj_of_objs hobjs o
    unfold curlPerformTask
    rw [hhandles]
    cases hh : m.amxCurl.lookup h with
    | none =>
        exact (hobj o).trans (if_neg (unknown_not_idle hh)).symm
    | some o' =>
        dsimp only
        rw [hobj o']
        by_cases hbusy : (m.obj o').isTransferInProgress = true
        · rw [if_pos hbusy]
          exact (hobj o).trans (if_neg (not_idle hh hbusy)).symm
        · rw [if_neg hbusy]
          have hidle := idle_eq (o := o) hh (Bool.eq_false_iff.mpr hbusy)
          have hafter : m.after (.easyPerform h found fun_ dataLen) o =
              if m.amxCurl.lookup h = some o then
                if found then (m.obj o).start (m.performArgs h fun_ dataLen)
                else (m.obj o).refuse fun_
              else m.obj o := if_congr hidle rfl rfl
          rw [hafter]
          have hargs : m.performArgs h fun_ dataLen = ⟨fun_, h, data, dataLen⟩ := by
            rw [hdata]
            rfl
          refine called_obj (f := fun x => if found then x.start (m.performArgs h fun_ dataLen)
            else x.refuse fun_) hh ?_
          rw [perform_objs, hobjs, hargs]
  unfold amxCurlEasyPerform
  split
  · rename_i hlen
    exact hperform _ _ rfl rfl (if_pos hlen).symm
  · rename_i hlen
    exact hperform _ _ rfl rfl (if_neg hlen).symm

theorem removeTask_obj : (m.removeTask h).obj o = m.after (.easyCleanup h) o := by
  unfold removeTask
  cases hh : m.amxCurl.lookup h with
  | none =>
      have hafter : m.after (.easyCleanup h) o = m.obj o := by
        refine (if_neg (unknown_not_idle hh)).trans (if_neg fun ho => ?_)
        rw [hh] at ho
        simp at ho
      exact hafter.symm
  | some o' =>
      dsimp only
      by_cases hbusy : (m.obj o').isTransferInProgress = true
      · rw [if_pos hbusy]
        refine (called_obj (f := AmxCurl.defer) hh setObj_objs).trans ?_
        exact (if_neg (not_idle hh hbusy)).symm
      · rw [if_neg hbusy]
        have hidle := idle_eq (o := o) hh (Bool.eq_false_iff.mpr hbusy)
        have hobj := called_obj (o := o) hh (f := fun x => x.destroyed (m.valid o'))
          (destroyAmxCurl_objs (m := { m with
            amxCurl := m.amxCurl.erase h
            freeHandles := m.freeHandles ++ [h] }))
        have hafter : m.after (.easyCleanup h) o = if m.amxCurl.lookup h = some o then
            (m.obj o).destroyed (m.valid o) else
            if m.amxCurl.lookup h = some o then (m.obj o).defer else m.obj o :=
          if_congr hidle rfl rfl
        rw [hobj, hafter]
        by_cases ho : m.amxCurl.lookup h = some o
        · obtain rfl := Option.some.inj (hh.symm.trans ho)
          rw [if_pos ho, if_pos ho]
        · rw [if_neg ho, if_neg ho, if_neg ho]

theorem resetAmxCallbacks_objs : (m.resetAmxCallbacks o).objs = m.objs.modify o AmxCurl.reset := rfl

theorem curlReset_obj : (m.curlReset h).obj o = m.after (.easyReset h) o := by
  unfold curlReset
  cases hh : m.amxCurl.lookup h with
  | none => exact (if_neg (unknown_not_idle hh)).symm
  | some o' =>
      dsimp only
      by_cases hbusy : (m.obj o').isTransferInProgress = true
      · rw [if_pos hbusy]
        exact (if_neg (not_idle hh hbusy)).symm
      · rw [if_neg hbusy]
        have hidle := idle_eq (o := o) hh (Bool.eq_false_iff.mpr hbusy)
        refine (called_obj (f := AmxCurl.reset) hh resetAmxCallbacks_objs).trans ?_
        exact (if_congr hidle rfl rfl).symm

/-! ### Returns and the teardown -/

theorem performAdded_objs {p : PerformId} {ok : Bool} : (m.performAdded o p ok).objs =
    m.objs.modify o fun x => if ok then x.clearBody else x.settle := by
  cases ok <;> rfl

theorem performRemoved_objs {p : PerformId} {f : ForwardId} :
    (m.performRemoved o p f).objs = m.objs.modify o AmxCurl.settle := by
  rcases m.performRemoved_cases o p f with ⟨-, heq⟩ | ⟨-, -, heq⟩ | ⟨q, -, -, heq⟩ <;> rw [heq]
  · rfl
  · rfl
  · rfl

theorem checkMultiInfo_objs : m.checkMultiInfo.objs = m.objs := by
  unfold checkMultiInfo
  split
  · rfl
  · dsimp only
    split <;> rfl

theorem dataCallbackReturn_objs {c : CallbackOption} {expected result : Int} :
    (m.dataCallbackReturn o c expected result).objs = m.objs := by
  unfold dataCallbackReturn
  dsimp only
  split <;> rfl

theorem removeTransfer_objs : (m.removeTransfer h).objs = m.objs := by
  unfold removeTransfer
  split
  · rfl
  · split <;> rfl

theorem shutdown_objs : m.shutdown.objs = m.objs := by
  unfold shutdown
  split <;> rfl

theorem dropEntry_obj : (m.dropEntry h).obj o =
    if m.amxCurl.lookup h = some o then (m.obj o).destroyed (m.valid o) else m.obj o := by
  unfold dropEntry
  split
  · rename_i hh
    rw [if_neg (by rw [hh]; simp)]
  · rename_i o' hh
    have hobj := called_obj (o := o) hh (f := fun x => x.destroyed (m.valid o'))
      (destroyAmxCurl_objs (m := { m with amxCurl := m.amxCurl.erase h }))
    refine hobj.trans ?_
    by_cases ho : m.amxCurl.lookup h = some o
    · obtain rfl := Option.some.inj (hh.symm.trans ho)
      rfl
    · rw [if_neg ho, if_neg ho]

theorem teardown_obj {order : List AmxCurlHandle} (hd : m.TearsDown order m') (o : ObjId) :
    m'.obj o = m.after (.teardown order) o := by
  cases hd with
  | visit actor h todo hph =>
      simp only [after, hph]
      exact obj_of_objs removeTransfer_objs o
  | clear actor hph ho => simp only [after, hph]
  | drop actor h todo hph =>
      simp only [after, hph]
      exact dropEntry_obj
  | cleared hph => simp only [after, hph]
  | clearedByGuard hph ho => simp only [after, hph]
  | destructed hph => simp only [after, hph]
  | shutdown hph =>
      simp only [after, hph]
      exact obj_of_objs shutdown_objs o
  | shutdownLast actor hph ha =>
      simp only [after, hph]
      exact obj_of_objs shutdown_objs o
  | globalCleanup hph =>
      simp only [after, hph]
      rfl
  | destruct hph hd ho => simp only [after, hph]
  | guard hph hd ho => simp only [after, hph]

/-! ### Every step -/

/-- **What a step does to an object.** -/
theorem next_obj (hn : m.next a = some m') (o : ObjId) : m'.obj o = m.after a o := by
  cases next_fires hn with
  | load a hfree => rfl
  | unload a q hq hstack => rfl
  | easyInit b q reply hq hp hfree =>
      simp only [after, hq]
      cases reply with
      | none =>
          rcases m.createCurl_lost b q with heq | ⟨-, heq⟩
          · rw [heq]
          · rw [heq]
            rfl
      | some e =>
          rw [obj_of_objs createCurl_objs]
          exact Heap.alloc_cell ..
  | setCallback h c reply codes hp hfree => exact curlSetupAmxCallback_obj
  | setOption h d hp => exact curlSetOption_obj
  | easyPerform h found fun_ dataLen hp => exact amxCurlEasyPerform_obj
  | easyCleanup h hp => exact removeTask_obj
  | easyReset h hp => exact curlReset_obj
  | addReturn ok o' p rest hs hok =>
      simp only [after, hs]
      rw [obj_of_objs performAdded_objs]
      exact cell_modify' o
  | removeReturn f o' p res rest hs hf =>
      simp only [after, hs]
      rw [obj_of_objs performRemoved_objs]
      exact cell_modify' o
  | postDone e p res ha hp => rfl
  | callback o' k hl he =>
      rw [obj_of_objs callback_objs]
      by_cases ho : o' = o
      · subst ho
        exact cell_modify' o'
      · refine (cell_modify' o).trans ?_
        rw [if_neg ho]
        exact (if_neg ho).symm
  | socketActionReturn rest hs => rfl
  | readMessage rest hs hm => exact obj_of_objs checkMultiInfo_objs o
  | checkMultiInfoReturn rest hs hm => rfl
  | completionReturn result b q f data rest hs => rfl
  | dataCallbackReturn result o' c q expected rest hs =>
      exact obj_of_objs dataCallbackReturn_objs o
  | poll hs hm hph => rfl
  | sweep order hs hph ho => exact sweepDeferredCleanups_obj order m
  | onAmxxDetach hs hph => rfl
  | drained timedOut order hs hph hc ho =>
      show AmxCurlController.obj _ o = m.obj o
      unfold obj
      split <;> rfl
  | exit hs hph => rfl
  | teardown order m' hs hd => exact teardown_obj hd o

/-! ### What may happen to an object at all -/

/-- The changes an action can make to an object that exists, each with what has been checked. -/
inductive Touch (m : AmxCurlController) (a : Action) (o : ObjId) : AmxCurl → Prop
  | same : Touch m a o (m.obj o)
  | setForward {codes : CurlCode × CurlCode} (h : AmxCurlHandle) (c : CallbackOption)
      (reply : Option ForwardId) (ha : a = .setCallback h (some c) reply codes)
      (hh : m.amxCurl.lookup h = some o) :
      Touch m a o ((m.obj o).setForward c (m.granted o reply))
  | setData (h : AmxCurlHandle) (c : CallbackOption) (v : Int) (ha : a = .setOption h (some (c, v)))
      (hh : m.amxCurl.lookup h = some o) : Touch m a o ((m.obj o).setData c v)
  | refuse (h : AmxCurlHandle) (fun_ dataLen : Int) (ha : a = .easyPerform h false fun_ dataLen)
      (hidle : m.Idle h o) : Touch m a o ((m.obj o).refuse fun_)
  | start (h : AmxCurlHandle) (fun_ dataLen : Int) (ha : a = .easyPerform h true fun_ dataLen)
      (hidle : m.Idle h o) : Touch m a o ((m.obj o).start (m.performArgs h fun_ dataLen))
  | clearBody (p : PerformId) (rest : List Frame) (ha : a = .addReturn true)
      (hs : m.stack = .adding o p :: rest) : Touch m a o (m.obj o).clearBody
  | notAdded (p : PerformId) (rest : List Frame) (ha : a = .addReturn false)
      (hs : m.stack = .adding o p :: rest) : Touch m a o (m.obj o).settle
  | removed (f : ForwardId) (p : PerformId) (res : CurlCode) (rest : List Frame)
      (ha : a = .removeReturn f) (hs : m.stack = .removing o p res :: rest) :
      Touch m a o (m.obj o).settle
  | capture (chunk : List UInt8) (ha : a = .callback o (.write chunk))
      (hnone : (m.obj o).registeredCallbacks .writeFunction = none) :
      Touch m a o ((m.obj o).capture chunk)
  | gone (k : Callback) (ha : a = .callback o k) (hinvalid : m.valid o = false) :
      Touch m a o (m.obj o).interrupted
  | detach (ha : a = .onAmxxDetach) : Touch m a o (m.obj o).interrupted
  | defer (h : AmxCurlHandle) (ha : a = .easyCleanup h) (hh : m.amxCurl.lookup h = some o) :
      Touch m a o (m.obj o).defer
  | reset (h : AmxCurlHandle) (ha : a = .easyReset h) (hidle : m.Idle h o) :
      Touch m a o (m.obj o).reset
  | destroyed (h : AmxCurlHandle) (hh : m.amxCurl.lookup h = some o) (hd : m.Destroys h o a) :
      Touch m a o ((m.obj o).destroyed (m.valid o))

theorem answered_touch {k : Callback} : Touch m (.callback o k) o (m.answered o k) := by
  unfold answered
  dsimp only
  split
  · exact .same
  · split
    · rename_i chunk hnone
      exact .capture chunk rfl hnone
    · exact .same
    · split
      · exact .same
      · rename_i hinvalid
        exact .gone _ rfl (Bool.eq_false_iff.mpr hinvalid)

theorem after_easyInit (b : AmxPtr) (reply : Option CurlPtr) :
    m.after (.easyInit b reply) o = m.obj o ∨
      o = m.objs.next ∧ ∃ q e, m.after (.easyInit b reply) o = .new b q e := by
  simp only [after]
  split
  · rename_i q e hq
    by_cases ho : o = m.objs.next
    · rw [if_pos ho]
      exact Or.inr ⟨ho, q, e, rfl⟩
    · rw [if_neg ho]
      exact Or.inl rfl
  · exact Or.inl rfl

/-- **An action touches an object in one of these ways, or makes it.** -/
theorem after_touch (m : AmxCurlController) (a : Action) (o : ObjId) : Touch m a o (m.after a o) ∨
    o = m.objs.next ∧ ∃ b reply q e, a = .easyInit b reply ∧ m.after a o = .new b q e := by
  by_cases hnew : o = m.objs.next ∧ ∃ b reply q e, a = .easyInit b reply ∧ m.after a o = .new b q e
  · exact Or.inr hnew
  refine Or.inl ?_
  cases a with
  | easyInit b reply =>
      rcases after_easyInit (m := m) (o := o) b reply with hsame | ⟨ho, q, e, hmade⟩
      · rw [hsame]
        exact .same
      · exact absurd ⟨ho, b, reply, q, e, rfl, hmade⟩ hnew
  | setCallback h c reply codes =>
      cases c with
      | none => exact .same
      | some c =>
          simp only [after]
          split
          · rename_i hh
            exact .setForward h c reply rfl hh
          · exact .same
  | setOption h d =>
      cases d with
      | none => exact .same
      | some d =>
          simp only [after]
          split
          · rename_i hh
            exact .setData h _ _ rfl hh
          · exact .same
  | easyPerform h found fun_ dataLen =>
      simp only [after]
      split
      · rename_i hidle
        cases found with
        | true => exact .start h fun_ dataLen rfl hidle
        | false => exact .refuse h fun_ dataLen rfl hidle
      · exact .same
  | easyCleanup h =>
      simp only [after]
      split
      · rename_i hidle
        exact .destroyed h hidle.1 ⟨rfl, hidle.2⟩
      · split
        · rename_i hh
          exact .defer h rfl hh
        · exact .same
  | easyReset h =>
      simp only [after]
      split
      · rename_i hidle
        exact .reset h rfl hidle
      · exact .same
  | addReturn ok =>
      simp only [after]
      split
      · rename_i o' p rest hs
        split
        · rename_i ho
          subst ho
          cases ok with
          | true => exact .clearBody p rest rfl hs
          | false => exact .notAdded p rest rfl hs
        · exact .same
      · exact .same
  | removeReturn f =>
      simp only [after]
      split
      · rename_i o' p res rest hs
        split
        · rename_i ho
          subst ho
          exact .removed f p res rest rfl hs
        · exact .same
      · exact .same
  | callback o' k =>
      simp only [after]
      split
      · rename_i ho
        subst ho
        exact answered_touch
      · exact .same
  | sweep order =>
      simp only [after]
      split
      · rename_i hdue
        obtain ⟨h, hmem, hdue⟩ := hdue
        exact .destroyed h hdue.1.1 ⟨hmem, hdue.2, hdue.1.2⟩
      · exact .same
  | onAmxxDetach => exact .detach rfl
  | teardown order =>
      simp only [after]
      split
      · rename_i actor h todo hph
        split
        · rename_i hh
          exact .destroyed h hh ⟨actor, todo, hph⟩
        · exact .same
      · exact .same
  | _ => exact .same

/-- Whose an object is, and its easy handle, never change. -/
theorem Touch.owner {y : AmxCurl} (ht : Touch m a o y) :
    y.amx = (m.obj o).amx ∧ y.creator = (m.obj o).creator ∧ y.curl = (m.obj o).curl := by
  cases ht with
  | destroyed => cases m.valid o <;> exact ⟨rfl, rfl, rfl⟩
  | _ => exact ⟨rfl, rfl, rfl⟩

theorem after_owner (hne : o ≠ m.objs.next) : (m.after a o).amx = (m.obj o).amx ∧
    (m.after a o).creator = (m.obj o).creator ∧ (m.after a o).curl = (m.obj o).curl := by
  rcases m.after_touch a o with ht | ⟨hnew, -⟩
  · exact ht.owner
  · exact absurd hnew hne

/-- What an object that performs nothing holds. -/
theorem Touch.empty {y : AmxCurl} (ht : Touch m a o y)
    (hx : (m.obj o).isTransferInProgress = false →
      (m.obj o).amxCallbackData = none ∧ (m.obj o).amxCallbackDataLen = 0)
    (hy : y.isTransferInProgress = false) :
    y.amxCallbackData = none ∧ y.amxCallbackDataLen = 0 := by
  cases ht with
  | start => simp [AmxCurl.start] at hy
  | notAdded => exact ⟨rfl, rfl⟩
  | removed => exact ⟨rfl, rfl⟩
  | destroyed =>
      revert hy
      cases m.valid o <;> exact hx
  | _ => exact hx hy

/-- **An idle object holds no data for a completion.** -/
theorem run_empty {C : AmxCurlController → Action → Prop} {tr : List Action}
    (hrun : machine.Run C tr m) (o : ObjId) (hidle : (m.obj o).isTransferInProgress = false) :
    (m.obj o).amxCallbackData = none ∧ (m.obj o).amxCallbackDataLen = 0 := by
  refine hrun.invariant (P := fun m => (m.obj o).isTransferInProgress = false →
    (m.obj o).amxCallbackData = none ∧ (m.obj o).amxCallbackDataLen = 0) (fun _ => ⟨rfl, rfl⟩) ?_ hidle
  intro m a m' ih _ hn hidle'
  rw [next_obj hn] at hidle' ⊢
  rcases m.after_touch a o with ht | ⟨-, b, reply, q, e, -, hnew⟩
  · exact ht.empty ih hidle'
  · rw [hnew]
    exact ⟨rfl, rfl⟩

/-- A handle that is new. -/
theorem next_new {b : AmxPtr} {e : CurlPtr} (hn : m.next (.easyInit b (some e)) = some m') :
    ∃ q, m.amxx.loaded b = some q ∧ m'.obj m.objs.next = .new b q e := by
  cases next_fires hn with
  | easyInit b q reply hq hp hfree =>
      refine ⟨q, hq, ?_⟩
      rw [obj_of_objs createCurl_objs]
      exact Heap.alloc_cell_next ..

end AmxCurlController

end AmxxCurl
