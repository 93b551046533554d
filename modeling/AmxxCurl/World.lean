/-
The module as a whole, once the AMXX core may be gone.

`World` is the socket layer and the controller side by side, with one flag and one multi
handle between them.  Each of the two takes its steps in any order with the other's, so
what libcurl and asio do to the sockets while handles are torn down is included.

Once `g_amxxcurl_detached` is set, everything that can still run asks for the flag
before it calls AMXX, except `WriteCallback` where it stops capturing a body.
-/
import AmxxCurl.Multi.Sockets
import AmxxCurl.Amx.Teardown

namespace AmxxCurl

open Transfers (Records)

namespace CurlMulti

variable {m m' : CurlMulti}

/-- How often AMXX has been called. -/
def mfCalls (m : CurlMulti) : Nat := m.log.count .print

theorem shutdown_mfCalls : m.shutdown.mfCalls = m.mfCalls := by
  unfold shutdown mfCalls
  split
  · show (m.log ++ [Event.multiCleanup]).count .print = _
    simp
  · rfl

/-- Only `detach` changes the flag. -/
theorem next_flag {a : Action} (hdetach : a ≠ .detach) (hn : m.next a = some m') :
    m'.detached = m.detached := by
  by_cases hdispatch : ∃ w, a = .dispatch w
  · obtain ⟨w, rfl⟩ := hdispatch
    cases next_fires hn with
    | dispatch _ r hidle hst => exact (asioSocketActionCallback_cases ..).2.1
  · by_cases hshut : a = .shutdown
    · subst hshut
      cases next_fires hn with
      | shutdown hidle =>
          unfold shutdown
          split <;> rfl
    · exact (next_emits hn (fun w hw => hdispatch ⟨w, hw⟩) hdetach hshut).detached

/-- The socket layer asks for the flag wherever it prints. -/
theorem next_silent {a : Action} (hd : m.detached = true) (hn : m.next a = some m') :
    m'.mfCalls = m.mfCalls := by
  have happ : Appends (· ≠ .print) m.log m'.log → m'.mfCalls = m.mfCalls := fun h =>
    h.countP_eq fun e he => by simpa using he
  by_cases hdispatch : ∃ w, a = .dispatch w
  · obtain ⟨w, rfl⟩ := hdispatch
    cases next_fires hn with
    | dispatch _ r hidle hst =>
        refine happ ?_
        unfold asioSocketActionCallback
        dsimp only
        repeat' split
        all_goals first | exact .refl _ | exact .one (by simp)
  · by_cases hdetach : a = .detach
    · subst hdetach
      obtain rfl := Option.some.inj hn
      rfl
    · by_cases hshut : a = .shutdown
      · subst hshut
        cases next_fires hn with
        | shutdown hidle => exact shutdown_mfCalls
      · exact happ ((next_emits hn (fun w hw => hdispatch ⟨w, hw⟩) hdetach hshut).silent hd)

end CurlMulti

namespace AmxCurlController

variable {m m' m'' : AmxCurlController} {o : ObjId}

def Event.isMf : Event → Bool
  | .mf _ _ => true
  | _ => false

/-- How often AMXX has been called. -/
def mfCalls (m : AmxCurlController) : Nat := m.log.countP Event.isMf

/-! ### What asks for the flag -/

/-- AMXX has not been called. -/
def Silent (m m' : AmxCurlController) : Prop := Appends (fun e => e.isMf = false) m.log m'.log

namespace Silent

theorem refl (m : AmxCurlController) : Silent m m := Appends.refl _

theorem trans (h : Silent m m') (h' : Silent m' m'') : Silent m m'' := Appends.trans h h'

theorem mfCalls (h : Silent m m') : m'.mfCalls = m.mfCalls := h.countP_eq fun _ he => he

theorem emit {es : List Event} (hes : ∀ e ∈ es, e.isMf = false) : Silent m (m.emit es) :=
  ⟨es, rfl, hes⟩

theorem libcurl {c : LibCall} : Silent m (m.libcurl c) := emit (by simp [Event.isMf])

theorem deleteData {d : Option DataId} : Silent m (m.deleteData d) := by
  refine emit fun e he => ?_
  obtain ⟨d', -, rfl⟩ := List.mem_map.mp he
  rfl

/-- `IsAmxValid` with the flag set. -/
theorem isAmxValid (hd : m.isDetached = true) : m.isAmxValid o = (m, false) := by
  unfold AmxCurlController.isAmxValid
  rw [if_pos hd]

theorem destroyAmxCurl (hd : m.isDetached = true) : Silent m (m.destroyAmxCurl o) := by
  have hcleaned : Silent m (m.cleanedUp o) :=
    (Silent.deleteData (m := m) (d := (m.obj o).amxCallbackData)).trans (.libcurl (c := .easyCleanup o))
  have hvalid : (m.cleanedUp o).isAmxValid o = (m.cleanedUp o, false) := isAmxValid hd
  rw [destroyAmxCurl_eq]
  split
  · rename_i ht
    rw [hvalid] at ht
    simp at ht
  · rw [hvalid]
    exact hcleaned

theorem removeTransfer {h : AmxCurlHandle} : Silent m (m.removeTransfer h) := by
  unfold AmxCurlController.removeTransfer
  split
  · exact .refl m
  · split
    · exact .one rfl
    · exact .refl m

theorem dropEntry {h : AmxCurlHandle} (hd : m.isDetached = true) : Silent m (m.dropEntry h) := by
  unfold AmxCurlController.dropEntry
  split
  · exact .refl m
  · rename_i o hh
    exact destroyAmxCurl (m := { m with amxCurl := m.amxCurl.erase h }) hd

theorem shutdown : Silent m m.shutdown := by
  unfold AmxCurlController.shutdown
  split
  · exact .one rfl
  · exact .refl m

theorem teardown {order : List AmxCurlHandle} (hd : m.isDetached = true)
    (hn : m.teardown order = some m') : Silent m m' := by
  unfold AmxCurlController.teardown at hn
  repeat' split at hn
  all_goals first
    | (obtain rfl := Option.some.inj hn
       first
         | exact removeTransfer
         | exact dropEntry hd
         | exact shutdown
         | exact libcurl
         | exact Appends.refl _)
    | simp at hn

/-- A completion that runs late. -/
theorem performRemoved {p : PerformId} {f : ForwardId} (hd : m.isDetached = true) :
    Silent m (m.performRemoved o p f) := by
  have hremoved : Silent m (m.removeHandle o) := .one rfl
  rcases m.performRemoved_cases o p f with ⟨-, heq⟩ | ⟨hnot, -, -⟩ | ⟨q, hnot, -, -⟩
  · rw [heq]
    exact (hremoved.trans (emit (by simp [Event.isMf]))).trans .deleteData
  · exact absurd (hd.symm.trans hnot) (by simp)
  · exact absurd (hd.symm.trans hnot) (by simp)

/-- A data callback other than `WriteCallback`. -/
theorem dataCallback {c : CallbackOption} {unregistered invalid : Int} (hd : m.isDetached = true) :
    Silent m (m.dataCallback o c unregistered invalid) := by
  unfold AmxCurlController.dataCallback
  rw [isAmxValid hd]
  split
  · exact .one rfl
  · split <;> exact .one rfl

end Silent

/-! ### The one that does not -/

/-- A chunk takes the captured body over its bound, with the flag set. -/
def Truncates (m : AmxCurlController) : Action → Prop
  | .callback o (.write chunk) =>
      m.isDetached = true ∧ (m.obj o).interrupt = false ∧
        (m.obj o).registeredCallbacks .writeFunction = none ∧
        (m.obj o).responseBody.length < maxResponseBody ∧
        maxResponseBody < (m.obj o).responseBody.length + chunk.length
  | _ => False

instance (m : AmxCurlController) (a : Action) : Decidable (m.Truncates a) := by
  unfold Truncates
  split <;> infer_instance

theorem Truncates.isDetached {a : Action} (h : m.Truncates a) : m.isDetached = true := by
  cases a with
  | callback o k =>
      cases k with
      | write chunk => exact h.1
      | _ => exact h.elim
  | _ => exact h.elim

theorem writeCallback_silent {chunk : List UInt8} (hd : m.isDetached = true) :
    (m.writeCallback o chunk).mfCalls = m.mfCalls ↔ ¬m.Truncates (.callback o (.write chunk)) := by
  have hquiet : ∀ {m₁ : AmxCurlController}, Silent m m₁ →
      ¬m.Truncates (.callback o (.write chunk)) →
      (m₁.mfCalls = m.mfCalls ↔ ¬m.Truncates (.callback o (.write chunk))) :=
    fun h hn => ⟨fun _ => hn, fun _ => h.mfCalls⟩
  unfold writeCallback
  rw [Silent.isAmxValid hd]
  split
  · rename_i hint
    exact hquiet (.one rfl) fun ⟨_, hnot, _⟩ => absurd (hnot.symm.trans hint) (by simp)
  · rename_i hint
    split
    · rename_i hreg
      have hret : ∀ {m₁ : AmxCurlController}, Silent m₁
          (m₁.emit [.returned o .writeFunction chunk.length]) := .one rfl
      unfold captureBody
      split
      · rename_i hover
        split
        · rename_i hroom
          refine ⟨fun heq => ?_, fun hn => absurd ?_ hn⟩
          · -- the warning has been printed
            rw [hret.mfCalls] at heq
            have hone : (m.log ++ [Event.mf .printSrvConsole m.isDetached]).countP Event.isMf
                = m.log.countP Event.isMf := heq
            simp [Event.isMf] at hone
          · exact ⟨hd, Bool.eq_false_iff.mpr hint, hreg, Nat.lt_of_sub_pos hroom, hover⟩
        · rename_i hroom
          refine hquiet hret fun ⟨_, _, _, hlt, _⟩ => hroom (Nat.sub_pos_of_lt hlt)
      · rename_i hfits
        exact hquiet hret fun ⟨_, _, _, _, hover⟩ => hfits hover
    · rename_i f hreg
      exact hquiet (.one rfl) fun ⟨_, _, hnone, _⟩ => by
        rw [hreg] at hnone
        simp at hnone

/-- With the flag set, a step calls AMXX where it truncates, and nowhere else. -/
theorem next_silent_iff {a : Action} (hr : Records m.transfers) (hstack : m.stack = [])
    (hd : m.isDetached = true) (ha : a.isNative = false) (hn : m.next a = some m') :
    m'.mfCalls = m.mfCalls ↔ ¬m.Truncates a := by
  have hlate : (∀ o k, a ≠ .callback o k) → (m'.mfCalls = m.mfCalls ↔ ¬m.Truncates a) := by
    intro hno
    have hnot : ¬m.Truncates a := by
      cases a with
      | callback o k => exact absurd rfl (hno o k)
      | _ => exact id
    refine ⟨fun _ => hnot, fun _ => ?_⟩
    cases next_late hr hstack hd ha hn with
    | quiet _ hlog => exact congrArg (List.countP Event.isMf) hlog
    | callback o k ha => exact absurd ha (hno o k)
    | teardown order _ hteardown => exact (Silent.teardown hd hteardown).mfCalls
  cases a with
  | callback o k =>
      cases next_fires hn with
      | callback _ _ hlib he =>
          cases k with
          | write chunk => exact writeCallback_silent hd
          | _ => exact ⟨fun _ => id, fun _ => (Silent.dataCallback hd).mfCalls⟩
  | _ => exact hlate (by simp)

/-- A chunk that fits is captured whole. -/
theorem writeCallback_fits {chunk : List UInt8} (hint : (m.obj o).interrupt = false)
    (hreg : (m.obj o).registeredCallbacks .writeFunction = none)
    (hfits : (m.obj o).responseBody.length + chunk.length ≤ maxResponseBody) :
    m.writeCallback o chunk = (m.setObj o fun x =>
      { x with responseBody := x.responseBody ++ chunk }).emit
        [.returned o .writeFunction chunk.length] := by
  unfold writeCallback captureBody
  rw [if_neg (by simp [hint]), hreg, if_neg (Nat.not_lt.mpr hfits)]

/-- `m` but for the body `o` has captured, and for the log. -/
def captured (m : AmxCurlController) (o : ObjId) (body : List UInt8) (log : List Event) :
    AmxCurlController :=
  { m.setObj o fun x => { x with responseBody := body } with log := log }

/-- How far the module has got is not the body's business. -/
theorem captured_same (m : AmxCurlController) (o : ObjId) (body : List UInt8) (log : List Event) :
    (m.captured o body log).stack = m.stack ∧ (m.captured o body log).messages = m.messages ∧
      (m.captured o body log).phase = m.phase ∧
      (m.captured o body log).isDetached = m.isDetached ∧
      ∀ order, (m.captured o body log).Walks order ↔ m.Walks order :=
  ⟨rfl, rfl, rfl, rfl, fun _ => Iff.rfl⟩

theorem captured_obj (m : AmxCurlController) (o : ObjId) (body : List UInt8) (log : List Event) :
    (m.captured o body log).obj o = { m.obj o with responseBody := body } :=
  m.objs.modify_cell_self o fun x => { x with responseBody := body }

/-- As long as the chunks fit, libcurl may deliver any number of them. -/
theorem captures {C : AmxCurlController → Action → Prop} {tr : List Action}
    (h : machine.Run C tr m) (chunk : List UInt8) (hC : ∀ m, C m (.callback o (.write chunk)))
    (hlib : m.InLibcurl)
    (he : m.easies.lookup (m.obj o).curl = some o) (hint : (m.obj o).interrupt = false)
    (hreg : (m.obj o).registeredCallbacks .writeFunction = none)
    (hempty : (m.obj o).responseBody = []) (n : Nat) (hfits : n * chunk.length ≤ maxResponseBody) :
    ∃ tr body log, body.length = n * chunk.length ∧ machine.Run C tr (m.captured o body log) := by
  induction n with
  | zero =>
      refine ⟨tr, [], m.log, by simp, ?_⟩
      have hsame : m.captured o [] m.log = m := by
        unfold captured setObj
        rw [Heap.modify_eq_self _ (by rw [← hempty])]
      rwa [hsame]
  | succ n ih =>
      rw [Nat.succ_mul] at hfits ⊢
      obtain ⟨tr, body, log, hlen, hrun⟩ := ih (by omega)
      have hlib' : (m.captured o body log).InLibcurl := hlib
      have he' : (m.captured o body log).easies.lookup ((m.captured o body log).obj o).curl
          = some o := by
        rw [captured_obj]
        exact he
      refine ⟨tr ++ [Action.callback o (.write chunk)], body ++ chunk,
        log ++ [Event.returned o .writeFunction chunk.length], by rw [List.length_append, hlen],
        hrun.snoc (hC _) ?_⟩
      show (if _ then some ((m.captured o body log).writeCallback o chunk) else none) = _
      rw [if_pos ⟨hlib', he'⟩, writeCallback_fits (by rw [captured_obj]; exact hint)
        (by rw [captured_obj]; exact hreg) (by rw [captured_obj, hlen]; exact hfits)]
      unfold captured setObj emit
      dsimp only
      rw [Heap.modify_modify]

/-- The handler on the stack returns, the process exits, and the guard starts to tear down. -/
theorem exits {C : AmxCurlController → Action → Prop} {tr : List Action}
    (h : machine.Run C tr m) (order : List AmxCurlHandle)
    (hC : ∀ m a, a.isNative = false → C m a) (hs : m.stack = [.socketAction])
    (hmsg : m.messages = []) (hph : m.phase = .running) (hd : m.isDetached = false)
    (hw : m.Walks order) :
    ∃ tr log, machine.Run C tr { m with
      stack := []
      phase := .removing .detachGuard order
      isDetached := true
      log := log } := by
  have h₁ : machine.Run C _ { m with stack := [.checkMultiInfo] } :=
    h.snoc (a := .socketActionReturn) (hC _ _ rfl) (by simp [machine, next, hs])
  have h₂ : machine.Run C _ { m with stack := [], log := m.log ++ [Event.libcurl .infoRead] } :=
    h₁.snoc (a := .checkMultiInfoReturn) (hC _ _ rfl)
      (by simp [machine, next, checkMultiInfo, hmsg, libcurl, emit])
  have h₃ : machine.Run C _
      { m with stack := [], log := m.log ++ [Event.libcurl .infoRead], phase := .exiting } :=
    h₂.snoc (a := .exit) (hC _ _ rfl) (by simp [machine, next, hph])
  refine ⟨_, m.log ++ [Event.libcurl .infoRead], h₃.snoc (a := .teardown order) (hC _ _ rfl) ?_⟩
  simp only [machine, next, teardown, hd, if_true, Bool.false_eq_true, if_false]
  exact if_pos hw

end AmxCurlController

/-! ### Both layers -/

/-- The socket layer and the controller. -/
structure World where
  sockets : CurlMulti
  controller : AmxCurlController

namespace World

def boot : World := ⟨.boot, .boot⟩

/-- A step of one of the two; the flag and the multi are the controller's to change. -/
inductive Action
  | sockets (a : CurlMulti.Action)
  | controller (a : AmxCurlController.Action)
  deriving DecidableEq

/-- The socket layer sees the flag and the multi as the controller leaves them. -/
def follow (s : CurlMulti) (c : AmxCurlController) : CurlMulti :=
  let s := { s with detached := c.isDetached }
  if c.curlMulti then s else s.shutdown

def next (w : World) : Action → Option World
  | .sockets a =>
      if a = .detach ∨ a = .shutdown then none
      else (w.sockets.next a).map fun s => { w with sockets := s }
  | .controller a => (w.controller.next a).map fun c => ⟨follow w.sockets c, c⟩

def machine : Machine World Action := ⟨boot, next⟩

/-- `g_amxxcurl_detached`. -/
abbrev isDetached (w : World) : Bool := w.controller.isDetached

/-- How often AMXX has been called. -/
def mfCalls (w : World) : Nat := w.sockets.mfCalls + w.controller.mfCalls

/-- No native runs once the flag is set. -/
def NativesBeforeDetach (w : World) : Action → Prop
  | .sockets _ => True
  | .controller a => w.controller.NativesBeforeDetach a

instance (w : World) (a : Action) : Decidable (w.NativesBeforeDetach a) := by
  cases a <;> unfold NativesBeforeDetach <;> infer_instance

/-- With the flag set the step does not call AMXX. -/
def SilentStep (w : World) (a : Action) : Prop :=
  w.isDetached = true → ∀ w', w.next a = some w' → w'.mfCalls = w.mfCalls

/-- The step takes a captured body over its bound, with the flag set. -/
def Truncates (w : World) : Action → Prop
  | .sockets _ => False
  | .controller a => w.controller.Truncates a

instance (w : World) (a : Action) : Decidable (w.Truncates a) := by
  cases a <;> unfold Truncates <;> infer_instance

variable {w w' : World} {tr : List Action}

/-- The steps of the controller. -/
def Action.ofController : Action → Option AmxCurlController.Action
  | .controller a => some a
  | _ => none

theorem run_controller (h : machine.Run NativesBeforeDetach tr w) :
    AmxCurlController.machine.Run AmxCurlController.NativesBeforeDetach
      (tr.filterMap Action.ofController) w.controller := by
  induction h with
  | init => exact .init
  | @snoc tr w w' a hr hc hn ih =>
      rw [List.filterMap_append]
      cases a with
      | sockets a =>
          simp only [machine, next] at hn
          split at hn
          · simp at hn
          · obtain ⟨s, -, rfl⟩ := Option.map_eq_some_iff.mp hn
            show AmxCurlController.machine.Run _ (_ ++ []) _
            rwa [List.append_nil]
      | controller a =>
          obtain ⟨c, hc', rfl⟩ := Option.map_eq_some_iff.mp hn
          exact ih.snoc hc hc'

/-- What the controller does alone, it does in the world. -/
theorem run_of_controller {tr : List AmxCurlController.Action} {c : AmxCurlController}
    (h : AmxCurlController.machine.Run AmxCurlController.NativesBeforeDetach tr c) :
    ∃ tr s, machine.Run NativesBeforeDetach tr ⟨s, c⟩ := by
  induction h with
  | init => exact ⟨[], _, .init⟩
  | @snoc tr c c' a hr hc hn ih =>
      obtain ⟨tr', s, hrun⟩ := ih
      have hc : NativesBeforeDetach ⟨s, c⟩ (.controller a) := hc
      refine ⟨tr' ++ [Action.controller a], follow s c', hrun.snoc hc ?_⟩
      exact Option.map_eq_some_iff.mpr ⟨c', hn, rfl⟩

theorem follow_detached {s : CurlMulti} {c : AmxCurlController} :
    (follow s c).detached = c.isDetached := by
  unfold follow CurlMulti.shutdown
  dsimp only
  repeat' split
  all_goals rfl

theorem follow_mfCalls {s : CurlMulti} {c : AmxCurlController} :
    (follow s c).mfCalls = s.mfCalls := by
  unfold follow
  dsimp only
  split
  · rfl
  · exact CurlMulti.shutdown_mfCalls

/-- The two see one flag. -/
theorem run_flag {C : World → Action → Prop} (h : machine.Run C tr w) :
    w.sockets.detached = w.isDetached := by
  refine h.invariant (P := fun w => w.sockets.detached = w.isDetached) rfl
    fun w a w' hflag _ hn => ?_
  cases a with
  | sockets a =>
      simp only [machine, next] at hn
      split at hn
      · simp at hn
      · rename_i hno
        obtain ⟨s, hs, rfl⟩ := Option.map_eq_some_iff.mp hn
        exact (CurlMulti.next_flag (fun h => hno (Or.inl h)) hs).trans hflag
  | controller a =>
      obtain ⟨c, -, rfl⟩ := Option.map_eq_some_iff.mp hn
      exact follow_detached

/--
**Once the flag is set AMXX is called where a captured body is truncated, and nowhere
else**; nor would a completion call it that a handler ran that late.
-/
theorem detached_silent_iff (h : machine.Run NativesBeforeDetach tr w) :
    (machine.Run SilentStep tr w ↔ machine.Run (fun w a => ¬w.Truncates a) tr w) ∧
      (w.isDetached = true → ∀ o p f,
        (w.controller.performRemoved o p f).mfCalls = w.controller.mfCalls) := by
  refine ⟨h.iff_of fun {tr w a w'} hr hc hn => ?_, fun hd o p f =>
    (AmxCurlController.Silent.performRemoved hd).mfCalls⟩
  have hrun := run_controller hr
  have hflag := run_flag hr
  have honly : w.SilentStep a ↔ (w.isDetached = true → w'.mfCalls = w.mfCalls) :=
    ⟨fun h hd => h hd w' hn, fun h hd w'' hn' => by
      obtain rfl := Option.some.inj (hn.symm.trans hn')
      exact h hd⟩
  rw [honly]
  cases a with
  | sockets a =>
      simp only [machine, next] at hn
      split at hn
      · simp at hn
      · obtain ⟨s, hs, rfl⟩ := Option.map_eq_some_iff.mp hn
        refine ⟨fun _ => id, fun _ hd => ?_⟩
        show s.mfCalls + _ = w.sockets.mfCalls + _
        rw [CurlMulti.next_silent (hflag.trans hd) hs]
  | controller a =>
      obtain ⟨c, hc', rfl⟩ := Option.map_eq_some_iff.mp hn
      have hcalls : mfCalls ⟨follow w.sockets c, c⟩ = w.mfCalls ↔
          c.mfCalls = w.controller.mfCalls := by
        show (follow w.sockets c).mfCalls + c.mfCalls = w.sockets.mfCalls + w.controller.mfCalls ↔ _
        rw [follow_mfCalls, Nat.add_left_cancel_iff]
      rw [hcalls]
      by_cases hd : w.isDetached = true
      · have ha : a.isNative = false := by
          rw [← Bool.not_eq_true]
          intro hnat
          rw [show w.isDetached = false from hc hnat] at hd
          simp at hd
        have hstack := AmxCurlController.run_stack hrun hd
        have hiff := AmxCurlController.next_silent_iff (AmxCurlController.run_records hrun) hstack hd
          ha hc'
        exact ⟨fun h => hiff.mp (h hd), fun h _ => hiff.mpr h⟩
      · exact ⟨fun _ ht => hd (ht.isDetached), fun _ h => absurd h hd⟩

/-- The process exits with a transfer in flight; libcurl still delivers data and sets a timer. -/
def delivered : World :=
  (machine.exec (fun w a => w.NativesBeforeDetach a ∧ ¬w.Truncates a) boot [.controller (.load 7),
    .controller (.easyInit 7 (some 100)), .controller (.easyPerform 1 true 3 0),
    .controller (.addReturn true), .controller .exit, .controller (.teardown [1]),
    .controller (.callback 0 (.write [1, 2])), .sockets (.timerCallback 0),
    .controller (.teardown [])]).get (by decide)

theorem detached_silent_iff_delivered :
    delivered.isDetached = true ∧ ∃ tr, machine.Run SilentStep tr delivered := by
  have hrun : machine.Run (fun w a => w.NativesBeforeDetach a ∧ ¬w.Truncates a) _ delivered :=
    Machine.run_of_exec (Option.some_get _).symm
  have hnatives := hrun.mono fun _ _ hc => hc.1
  exact ⟨by decide, _, (detached_silent_iff hnatives).1.mpr (hrun.mono fun _ _ hc => hc.2)⟩

/-! ### A body that is truncated when the process exits -/

open AmxCurlController in
/-- A transfer without a write callback, with libcurl in control. -/
def receiving : AmxCurlController :=
  (AmxCurlController.machine.exec AmxCurlController.NativesBeforeDetach .boot [.load 7,
    .easyInit 7 (some 100), .easyPerform 1 true 3 0, .addReturn true, .poll]).get (by decide)

/--
60000 bytes have been captured when the process exits without `OnAmxxDetach`; while the
handle is taken off the multi, libcurl delivers 16384 more.
-/
theorem truncated_at_exit : ∃ tr w w', machine.Run NativesBeforeDetach tr w ∧
    w.isDetached = true ∧ (w.controller.obj 0).responseBody.length = 60000 ∧
    w.next (.controller (.callback 0 (.write (List.replicate 16384 0)))) = some w' ∧
    w'.mfCalls ≠ w.mfCalls := by
  have hrun : AmxCurlController.machine.Run AmxCurlController.NativesBeforeDetach _ receiving :=
    Machine.run_of_exec (Option.some_get _).symm
  obtain ⟨zeros, hzeros⟩ : ∃ zeros : List UInt8, zeros.length = 15000 :=
    ⟨List.replicate 15000 0, List.length_replicate⟩
  obtain ⟨tr₁, body, log₁, hlen, h₁⟩ := AmxCurlController.captures (o := 0) hrun
    zeros (fun _ h => by simp [AmxCurlController.Action.isNative] at h)
    (by decide) (by decide) (by decide) (by decide) (by decide) 4 (by rw [hzeros]; decide)
  obtain ⟨hstack, hmessages, hphase, hflag, hwalks⟩ := receiving.captured_same 0 body log₁
  obtain ⟨tr₂, log₂, h₂⟩ := AmxCurlController.exits h₁ [1] (fun _ a ha h => by simp [ha] at h)
    (hstack.trans (by decide)) (hmessages.trans (by decide)) (hphase.trans (by decide))
    (hflag.trans (by decide)) ((hwalks [1]).mpr (by decide))
  rw [hzeros] at hlen
  obtain ⟨tr, s, hw⟩ := run_of_controller h₂
  -- the state the run has led to
  generalize hc : { receiving.captured 0 body log₁ with
    stack := []
    phase := .removing .detachGuard [1]
    isDetached := true
    log := log₂ } = c at hw
  have hobjs : c.objs = (receiving.captured 0 body log₁).objs := by rw [← hc]
  have hobj : c.obj 0 = { receiving.obj 0 with responseBody := body } := by
    rw [AmxCurlController.obj, hobjs]
    exact receiving.captured_obj 0 body log₁
  have hd : c.isDetached = true := by rw [← hc]
  have hchunk : (List.replicate 16384 (0 : UInt8)).length = 16384 := List.length_replicate
  generalize List.replicate 16384 (0 : UInt8) = chunk at hchunk ⊢
  have hlib : c.InLibcurl := by
    rw [← hc]
    trivial
  have heasies : c.easies = receiving.easies := by
    rw [← hc]
    rfl
  have heasy : receiving.easies.lookup (receiving.obj 0).curl = some 0 := by decide
  have hnext : c.next (.callback 0 (.write chunk)) = some (c.writeCallback 0 chunk) := by
    refine if_pos ⟨hlib, ?_⟩
    rw [heasies, hobj]
    exact heasy
  refine ⟨tr, ⟨s, c⟩, _, hw, hd, ?_, Option.map_eq_some_iff.mpr ⟨_, hnext, rfl⟩, ?_⟩
  · show (c.obj 0).responseBody.length = 60000
    rw [hobj]
    exact hlen
  · show (follow s _).mfCalls + _ ≠ s.mfCalls + c.mfCalls
    rw [follow_mfCalls]
    intro heq
    refine (AmxCurlController.writeCallback_silent hd).mp (Nat.add_left_cancel heq) ?_
    have hint : (receiving.obj 0).interrupt = false := by decide
    have hreg : (receiving.obj 0).registeredCallbacks .writeFunction = none := by decide
    refine ⟨hd, ?_, ?_, ?_, ?_⟩ <;> rw [hobj]
    · exact hint
    · exact hreg
    · rw [hlen]
      decide
    · rw [hlen, hchunk]
      decide

end World

end AmxxCurl
