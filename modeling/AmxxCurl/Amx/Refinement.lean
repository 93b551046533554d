/-
The controller refines the transfers.

Each function that starts or ends a transfer gets one lemma: its effect on `transfers`
is a sequence of `Op`s.  A step of the machine is such a sequence, or one `Move`, so
what holds of every reachable `Transfers` holds of the controller after any run.
-/
import AmxxCurl.Amx.Stack
import AmxxCurl.Amx.Frames
import AmxxCurl.Amx.InFlight

namespace AmxxCurl

open Transfers (Op Move Reachable Records)

namespace AmxCurlController

variable {N : Phase → Prop} {m m' : AmxCurlController} {o : ObjId} {h : AmxCurlHandle}

/-- Any number of changes. -/
def Ops (N : Phase → Prop) : Transfers → Transfers → Prop := Relation.ReflTransGen (Op N)

theorem Keeps.ops (hk : Keeps m m') : Ops N m.transfers m'.transfers := by
  rw [hk]
  exact .refl

theorem Ops.phase {t t' : Transfers} (hops : Ops N t t') : t'.phase = t.phase := by
  induction hops with
  | refl => rfl
  | tail _ hop ih =>
      rw [← ih]
      cases hop <;> try rfl
      unfold Transfers.read
      split <;> rfl

theorem Ops.isDetached {t t' : Transfers} (hops : Ops N t t') : t'.isDetached = t.isDetached := by
  induction hops with
  | refl => rfl
  | tail _ hop ih =>
      rw [← ih]
      cases hop <;> try rfl
      unfold Transfers.read
      split <;> rfl

theorem ops_of_eq {t t' : Transfers} (hop : Op N m.transfers t) (ht : t' = t) :
    Ops N m.transfers t' := ht ▸ .single hop

theorem moves_of_eq {t t' : Transfers} (hmove : Move m.transfers t) (ht : t' = t) :
    Move m.transfers t' := ht ▸ hmove

/-! ### Handles -/

theorem destroyAmxCurl_transfers : (m.destroyAmxCurl o).transfers =
    { m.transfers with easies := m.easies.erase (m.obj o).curl }.emit [.libcurl (.easyCleanup o)] := by
  have hdata : (m.deleteData (m.obj o).amxCallbackData).transfers = m.transfers := Keeps.deleteData
  have hlib : ((m.deleteData (m.obj o).amxCallbackData).libcurl (.easyCleanup o)).transfers
      = m.transfers.emit [.libcurl (.easyCleanup o)] := by
    rw [libcurl, emit_transfers, hdata]
    rfl
  have hcleaned : (m.cleanedUp o).transfers = _ := congrArg
    (fun t : Transfers => { t with easies := m.easies.erase (m.obj o).curl }) hlib
  -- the `CurlCallbackAmx` is destroyed last, and is on no record
  refine Eq.trans ?_ hcleaned
  have hvalid := Keeps.isAmxValid (m := m.cleanedUp o) (o := o)
  rw [destroyAmxCurl_eq]
  split
  · exact hvalid.trans .resetAmxCallbacks
  · exact hvalid.trans (.setObj rfl)

theorem createCurl_ops {a : AmxPtr} {p : PluginId} {reply : Option CurlPtr} (hN : N m.phase)
    (hfree : ∀ e ∈ reply, m.easies.lookup e = none) :
    Ops N m.transfers (m.createCurl a p reply).transfers := by
  cases reply with
  | none =>
      rcases m.createCurl_lost a p with heq | ⟨-, heq⟩ <;> rw [heq]
      · exact .refl
      · exact (Keeps.mf (m := { m with freeHandles := m.getCurlHandle.2 })).ops
  | some e =>
      have he := hfree e rfl
      have hobjs : (m.objs.alloc (.new a p e)).map AmxCurl.transfer
          = m.transfers.objs.alloc (.new e) := Heap.map_alloc ..
      unfold createCurl
      dsimp only
      split
      · refine ops_of_eq (.createLost e hN) ?_
        have hcurl : ((m.objs.alloc (.new a p e)).cell m.objs.next).curl = e := by
          rw [Heap.alloc_cell_next]
          rfl
        rw [destroyAmxCurl_transfers, emit_transfers]
        show Transfers.emit { Transfers.emit _ _ with
          easies := (m.easies.insert e m.objs.next).erase
            ((m.objs.alloc (.new a p e)).cell m.objs.next).curl } _ = _
        rw [hcurl, Table.erase_insert he]
        unfold transfers Transfers.alloc Transfers.emit
        dsimp only
        rw [hobjs, List.append_assoc]
        rfl
      · rename_i hh
        refine ops_of_eq (.create _ e hN he hh) ?_
        unfold transfers Transfers.create Transfers.alloc Transfers.emit emit
        dsimp only
        rw [hobjs, List.filter_append]
        rfl

/-- An idle object is destroyed, and its number given back. -/
theorem destroy_ops {free : List AmxCurlHandle} (hN : N m.phase)
    (hh : m.amxCurl.lookup h = some o) (hidle : (m.obj o).isTransferInProgress = false) :
    Ops N m.transfers
      ({ m with amxCurl := m.amxCurl.erase h, freeHandles := free }.destroyAmxCurl o).transfers := by
  refine ops_of_eq (.destroy h o hN hh hidle) ?_
  rw [destroyAmxCurl_transfers]
  rfl

theorem removeTask_ops (hN : N m.phase) : Ops N m.transfers (m.removeTask h).transfers := by
  unfold removeTask
  split
  · exact Keeps.mf.ops
  · rename_i o hh
    split
    · exact (Keeps.mf.trans (.setObj rfl)).ops
    · rename_i hidle
      exact destroy_ops hN hh (by simpa using hidle)

theorem curlReset_ops (hN : N m.phase) : Ops N m.transfers (m.curlReset h).transfers := by
  unfold curlReset
  split
  · exact Keeps.mf.ops
  · rename_i o hh
    split
    · exact Keeps.mf.ops
    · rename_i hidle
      have hidle : (m.obj o).isTransferInProgress = false := by simpa using hidle
      refine ops_of_eq (.reset h o hN hh hidle) ?_
      rw [emit_transfers, show (m.resetAmxCallbacks o).transfers = m.transfers from
        Keeps.resetAmxCallbacks]
      rfl

theorem sweepOne_ops (hN : N m.phase) : Ops N m.transfers (m.sweepOne h).transfers := by
  unfold sweepOne
  split
  · exact .refl
  · rename_i o hh
    split
    · rename_i hidle
      rw [Bool.and_eq_true, Bool.not_eq_true'] at hidle
      exact destroy_ops hN hh hidle.2
    · exact .refl

theorem sweepDeferredCleanups_ops {order : List AmxCurlHandle} (hN : N m.phase) :
    Ops N m.transfers (m.sweepDeferredCleanups order).transfers := by
  unfold sweepDeferredCleanups
  induction order generalizing m with
  | nil => exact .refl
  | cons h order ih =>
      have hone := sweepOne_ops (h := h) hN
      refine hone.trans (ih ?_)
      rwa [show (m.sweepOne h).phase = m.phase from hone.phase]

/-! ### Performing -/

theorem addCurl_transfers {args : PerformArgs} : (m.addCurl o args).transfers =
    { m.transfers with
      curlMap :=
        if (m.transfers.curlMap.lookup (m.transfers.obj o).curl).isSome then m.transfers.curlMap
        else m.transfers.curlMap.insert (m.transfers.obj o).curl o
      performs := m.transfers.performs.alloc args
      tasks := (o, .adding m.transfers.performs.next) :: m.transfers.tasks }.emit
      [.libcurl (.addHandle o)] := by
  unfold addCurl
  rw [emit_transfers]
  rfl

theorem perform_ops {found : Bool} {fun_ : Int} {data : Option DataId} {dataLen : Int}
    (hN : N m.phase) (hh : m.amxCurl.lookup h = some o)
    (hidle : (m.obj o).isTransferInProgress = false) :
    Ops N m.transfers (m.perform o h found fun_ data dataLen).transfers := by
  let called := m.mf (.amxFindPublic (m.isLive (m.obj o).amx (m.obj o).creator))
  let looked := called.setObj o fun x => { x with amxCallbackFun := fun_ }
  have hlooked : looked.transfers = m.transfers.setObj o (·.refuse fun_) := by
    rw [show looked.transfers = called.transfers.setObj o (·.refuse fun_) from setObj_transfers rfl,
      show called.transfers = m.transfers from Keeps.mf]
  unfold perform
  dsimp only
  split
  · refine ops_of_eq (.refuse h o fun_ hN hh hidle) ?_
    rw [← hlooked]
    exact Keeps.deleteData.trans .mf
  · refine ops_of_eq (.add h o ⟨fun_, h, data, dataLen⟩ hN hh hidle) ?_
    let freed := looked.deleteData (m.obj o).amxCallbackData
    let started := freed.setObj o fun x =>
      { x with
        amxCallbackData := data
        amxCallbackDataLen := dataLen
        taskHandle := h
        isTransferInProgress := true }
    have hstarted : started.transfers = m.transfers.setObj o (·.start ⟨fun_, h, data, dataLen⟩) := by
      rw [show started.transfers = freed.transfers.setObj o
          (fun x => x.start ⟨x.args.fun_, h, data, dataLen⟩) from setObj_transfers rfl,
        show freed.transfers = looked.transfers from Keeps.deleteData, hlooked,
        Transfers.setObj_setObj]
      rfl
    show (started.addCurl o ⟨fun_, h, data, dataLen⟩).transfers = _
    rw [addCurl_transfers, hstarted, Transfers.setObj_self]
    rfl

theorem amxCurlEasyPerform_ops {found : Bool} {fun_ : Int} {dataLen : Int} (hN : N m.phase) :
    Ops N m.transfers (m.amxCurlEasyPerform h found fun_ dataLen).transfers := by
  have htask : ∀ {m₁ : AmxCurlController} {data : Option DataId}, m₁.transfers = m.transfers →
      Ops N m.transfers (m₁.curlPerformTask h found fun_ data dataLen).transfers := by
    intro m₁ data heq
    have hN : N m₁.phase := by
      rwa [show m₁.phase = m.phase from congrArg Transfers.phase heq]
    rw [← heq]
    unfold curlPerformTask
    split
    · exact (Keeps.deleteData.trans .mf).ops
    · rename_i o hh
      split
      · exact (Keeps.mf.trans .deleteData).ops
      · rename_i hidle
        exact perform_ops hN hh (by simpa using hidle)
  unfold amxCurlEasyPerform
  split <;> exact htask rfl

theorem performAdded_ops {p : PerformId} {rest : List Frame} {ok : Bool}
    (hs : m.stack = .adding o p :: rest)
    (hok : ok → m.curlMulti ∧ m.attached.lookup (m.obj o).curl = none) :
    Ops N m.transfers ({ m with stack := rest }.performAdded o p ok).transfers := by
  have htasks : m.transfers.tasks = (o, .adding p) :: rest.filterMap Frame.task := by
    show m.stack.filterMap Frame.task = _
    rw [hs]
    rfl
  unfold performAdded
  dsimp only
  split
  · rename_i hyes
    obtain ⟨hm, hfree⟩ := hok hyes
    refine ops_of_eq (.added o p _ htasks hm hfree) ?_
    let accepted := { m with
      stack := rest
      attached := m.attached.insert (m.obj o).curl p }.emit [.libcurl (.added o true), .accepted p]
    have hset : Keeps accepted (accepted.setObj o fun x => { x with responseBody := [] }) :=
      .setObj rfl
    refine Eq.trans hset ?_
    rw [emit_transfers]
    rfl
  · refine ops_of_eq (.addFailed o p _ htasks) ?_
    let refused := (({ m with stack := rest }).libcurl (.added o false)).mf .printSrvConsole
    let freed :=
      { refused with curlMap := m.curlMap.erase (m.obj o).curl }.deleteData (m.obj o).amxCallbackData
    show (freed.setObj o _).transfers = _
    rw [setObj_transfers (g := .settle) rfl, show freed.transfers = _ from Keeps.deleteData]
    have hrefused : refused.transfers
        = { m.transfers with tasks := rest.filterMap Frame.task }.emit [.libcurl (.added o false)] := by
      rw [show refused.transfers = _ from Keeps.mf, libcurl, emit_transfers]
      rfl
    exact congrArg (fun t : Transfers =>
      { t with curlMap := m.curlMap.erase (m.obj o).curl }.setObj o .settle) hrefused

/-! ### Completing -/

theorem removeHandle_transfers : (m.removeHandle o).transfers = m.transfers.detach o := by
  have hlib : (m.libcurl (.removeHandle o)).transfers
      = m.transfers.emit [.libcurl (.removeHandle o)] := by
    rw [libcurl, emit_transfers]
    rfl
  exact congrArg (fun t : Transfers =>
    { t with
      attached := m.attached.erase (m.obj o).curl
      messages := m.messages.filter fun msg => msg.1 != (m.obj o).curl }) hlib

theorem performRemoved_ops {p : PerformId} {res : CurlCode} {rest : List Frame} {f : ForwardId}
    (hs : m.stack = .removing o p res :: rest) :
    Ops N m.transfers ({ m with stack := rest }.performRemoved o p f).transfers := by
  have htasks : m.transfers.tasks = (o, .removing p res) :: rest.filterMap Frame.task := by
    show m.stack.filterMap Frame.task = _
    rw [hs]
    rfl
  refine ops_of_eq (.complete o p res _ htasks) ?_
  let popped := { m with stack := rest }
  have hdone : (popped.settled o p).transfers =
      m.transfers.complete o p (rest.filterMap Frame.task) := by
    unfold settled
    rw [emit_transfers, setObj_transfers (g := .settle) rfl, removeHandle_transfers]
    rfl
  rw [← hdone]
  rcases popped.performRemoved_cases o p f with ⟨-, heq⟩ | ⟨-, -, heq⟩ | ⟨q, -, -, heq⟩ <;> rw [heq]
  · exact Keeps.deleteData
  · exact Keeps.trans (Keeps.trans .mf .mf) .deleteData
  · have hasked : Keeps (popped.settled o p) (popped.asked o p q f) :=
      Keeps.trans (Keeps.trans .mf .mf) .mf
    have hstack : (popped.asked o p q f).stack = rest := Offstage.asked.stack
    exact hasked.trans (Keeps.trans .amxx (.stack (by rw [hstack]; rfl)))

theorem checkMultiInfo_ops {e : CurlPtr} {p : PerformId} {res : CurlCode}
    {rest : List (CurlPtr × PerformId × CurlCode)} (hlive : m.phase.IsLive)
    (hmsg : m.messages = (e, p, res) :: rest) :
    Ops N m.transfers m.checkMultiInfo.transfers := by
  refine ops_of_eq (.read e p res rest hlive hmsg) ?_
  have hlib : (m.libcurl .infoRead).transfers = m.transfers := Keeps.infoRead
  have hread : ({ m.libcurl .infoRead with messages := rest }).transfers
      = { m.transfers with messages := rest } :=
    congrArg (fun t : Transfers => { t with messages := rest }) hlib
  unfold checkMultiInfo
  rw [hmsg]
  dsimp only
  unfold Transfers.read
  rw [show m.transfers.curlMap = m.curlMap from rfl]
  split
  · rename_i hmap
    rw [hread, show m.curlMap.lookup e = none from hmap]
    rfl
  · rename_i o hmap
    rw [show m.curlMap.lookup e = some o from hmap]
    exact congrArg (fun t : Transfers =>
      { t with
        curlMap := m.curlMap.erase (m.obj o).curl
        tasks := (o, .removing p res) :: t.tasks }) hread

/-! ### Teardown -/

theorem removeTransfer_transfers : (m.removeTransfer h).transfers = m.transfers.visit h := by
  unfold removeTransfer Transfers.visit
  rw [show m.transfers.handles = m.amxCurl from rfl]
  cases m.amxCurl.lookup h with
  | none => rfl
  | some o =>
      dsimp only
      rw [show (m.transfers.obj o).inProgress = (m.obj o).isTransferInProgress from rfl]
      split
      · rw [removeHandle_transfers]
        rfl
      · rfl

theorem dropEntry_transfers : (m.dropEntry h).transfers = m.transfers.drop h := by
  unfold dropEntry Transfers.drop
  rw [show m.transfers.handles = m.amxCurl from rfl]
  cases m.amxCurl.lookup h with
  | none => rfl
  | some o =>
      dsimp only
      rw [destroyAmxCurl_transfers]
      rfl

theorem shutdown_moves {actor : Actor} (hph : m.phase = .shutdown actor) :
    Move m.transfers ({ m.shutdown with phase := actor.afterShutdown }).transfers := by
  unfold shutdown
  split
  · rename_i hm
    have hlib : (m.libcurl .multiCleanup).transfers
        = m.transfers.emit [.libcurl .multiCleanup] := by
      rw [libcurl, emit_transfers]
      rfl
    refine moves_of_eq (.shutdown actor hph hm) ?_
    exact congrArg
      (fun t : Transfers => { t with curlMulti := false, phase := actor.afterShutdown }) hlib
  · rename_i hm
    have hm : m.curlMulti = false := by simpa using hm
    exact .shutdownAgain actor hph hm

theorem teardown_moves {order : List AmxCurlHandle} (hn : m.TearsDown order m') :
    Move m.transfers m'.transfers := by
  cases hn with
  | visit actor n todo hph =>
      exact moves_of_eq (.visit actor n todo hph) <|
        congrArg (fun t : Transfers => { t with phase := .removing actor todo })
          removeTransfer_transfers
  | clear actor hph ho => exact .clear actor order hph ho
  | drop actor n todo hph =>
      exact moves_of_eq (.drop actor n todo hph) <|
        congrArg (fun t : Transfers => { t with phase := .clearing actor todo }) dropEntry_transfers
  | cleared hph => exact .cleared _ hph (by simp)
  | clearedByGuard hph ho => exact .destruct order ho (Or.inr hph)
  | destructed hph => exact .cleared _ hph (by simp)
  | shutdown hph => exact shutdown_moves hph
  | shutdownLast actor hph hne =>
      have hgone : actor.afterShutdown = .gone := by
        cases actor with
        | onAmxxDetach => exact absurd rfl hne
        | detachGuard => rfl
        | destructor => rfl
      rw [← hgone]
      exact shutdown_moves hph
  | globalCleanup hph =>
      have hlib : (m.libcurl .globalCleanup).transfers
          = m.transfers.emit [.libcurl .globalCleanup] := by
        rw [libcurl, emit_transfers]
        rfl
      exact moves_of_eq (.globalCleanup hph) <|
        congrArg (fun t : Transfers => { t with phase := .detached }) hlib
  | destruct hph hd ho => exact .destruct order ho (Or.inl ⟨hph, hd⟩)
  | guard hph hd ho => exact .guard order hph hd ho

/-! ### Runs -/

/-- A data callback reaches no Pawn code once the flag is set. -/
theorem callback_stack {k : Callback} (hd : m.isDetached = true) :
    (m.callback o k).stack = m.stack := by
  have hvalid : m.isAmxValid o = (m, false) := by
    unfold isAmxValid
    rw [if_pos hd]
  have hdata : ∀ {c : CallbackOption} {u i : Int}, (m.dataCallback o c u i).stack = m.stack := by
    intro c u i
    unfold dataCallback
    rw [hvalid]
    split
    · rfl
    · split <;> rfl
  cases k with
  | write chunk =>
      show (m.writeCallback o chunk).stack = m.stack
      unfold writeCallback
      rw [hvalid]
      split
      · rfl
      · split
        · unfold captureBody
          split
          · split <;> rfl
          · rfl
        · rfl
  | _ => exact hdata

/-- Calls are on the stack only in the phases in which natives run. -/
def Staged (m : AmxCurlController) : Prop := m.stack ≠ [] → m.phase.IsLive

theorem AtPawn.isLive (hs : m.Staged) (hp : m.AtPawn) : m.phase.IsLive := by
  unfold AtPawn at hp
  split at hp
  · exact hp.elim Or.inl fun hd => Or.inr (Or.inr hd)
  · rename_i hstack
    exact hs (by rw [hstack]; simp)

/-- Changes do not move the phase, so the stack may grow where it could before. -/
theorem Ops.staged (hops : Ops N m.transfers m'.transfers) (hlive : m.phase.IsLive) : m'.Staged := by
  intro _
  rwa [show m'.phase = m.phase from hops.phase]

/-- The steps that take the module towards its end. -/
def Action.isEnding : Action → Bool
  | .onAmxxDetach | .drained _ _ | .exit | .teardown _ => true
  | _ => false

/-- **A step of the machine is a sequence of changes to the transfers, or one move.** -/
theorem next_refines {a : Action} (hflags : m.transfers.Flags) (hs : m.Staged)
    (hN : a.isNative = true → m.AtPawn → N m.phase) (hrun : N .running)
    (hn : m.next a = some m') :
    (Ops N m.transfers m'.transfers ∨
        Move m.transfers m'.transfers ∧ m'.stack = [] ∧ a.isEnding = true) ∧
      m'.Staged := by
  have hkeep : ∀ {m₁ : AmxCurlController}, Keeps m m₁ → m₁.stack = m.stack →
      (Ops N m.transfers m₁.transfers ∨
          Move m.transfers m₁.transfers ∧ m₁.stack = [] ∧ a.isEnding = true) ∧
        m₁.Staged := by
    intro m₁ hk hstack
    refine ⟨Or.inl hk.ops, fun hne => ?_⟩
    rw [show m₁.phase = m.phase from congrArg Transfers.phase hk]
    exact hs (hstack ▸ hne)
  have hwork : ∀ {m₁ : AmxCurlController}, Ops N m.transfers m₁.transfers → m.phase.IsLive →
      (Ops N m.transfers m₁.transfers ∨
          Move m.transfers m₁.transfers ∧ m₁.stack = [] ∧ a.isEnding = true) ∧
        m₁.Staged :=
    fun hops hlive => ⟨Or.inl hops, hops.staged hlive⟩
  have hmove : ∀ {m₁ : AmxCurlController}, Move m.transfers m₁.transfers → m₁.stack = [] →
      a.isEnding = true →
      (Ops N m.transfers m₁.transfers ∨
          Move m.transfers m₁.transfers ∧ m₁.stack = [] ∧ a.isEnding = true) ∧
        m₁.Staged :=
    fun hmv hstack ha => ⟨Or.inr ⟨hmv, hstack, ha⟩, fun hne => absurd hstack hne⟩
  have hidle : m.stack = [] → m.transfers.tasks = [] := by
    intro hstack
    show m.stack.filterMap Frame.task = []
    rw [hstack]
    rfl
  have hbusy : ∀ {f : Frame} {rest : List Frame}, m.stack = f :: rest → m.phase.IsLive :=
    fun hstack => hs (hstack ▸ List.cons_ne_nil _ _)
  cases next_fires hn with
  | load a hfree => exact hkeep .amxx rfl
  | unload a q hq hstack => exact hkeep .amxx rfl
  | easyInit a q reply hq hp hfree => exact hwork (createCurl_ops (hN rfl hp) hfree) (hp.isLive hs)
  | setCallback h c reply codes hp hfree =>
      exact hwork Keeps.curlSetupAmxCallback.ops (hp.isLive hs)
  | setOption h d hp => exact hwork Keeps.curlSetOption.ops (hp.isLive hs)
  | easyPerform h found fun_ dataLen hp =>
      exact hwork (amxCurlEasyPerform_ops (hN rfl hp)) (hp.isLive hs)
  | easyCleanup h hp => exact hwork (removeTask_ops (hN rfl hp)) (hp.isLive hs)
  | easyReset h hp => exact hwork (curlReset_ops (hN rfl hp)) (hp.isLive hs)
  | addReturn ok o p rest hstack hok =>
      exact hwork (performAdded_ops hstack hok) (hbusy hstack)
  | removeReturn f o p res rest hstack hf => exact hwork (performRemoved_ops hstack) (hbusy hstack)
  | postDone e p res ha hp => exact ⟨Or.inl (.single (.post e p res ha hp)), hs⟩
  | callback o k hlib he =>
      by_cases hlive : m.phase.IsLive
      · exact hwork Keeps.callback.ops hlive
      · -- libcurl is being taken down, with the flag set
        have hstack : m.stack = [] := by
          by_contra hne
          exact hlive (hs hne)
        have hd : m.isDetached = true := by
          unfold InLibcurl at hlib
          unfold Transfers.Flags at hflags
          rw [show m.transfers.phase = m.phase from rfl] at hflags
          rw [hstack] at hlib
          split at hlib <;> simp_all [transfers]
        exact hkeep .callback (callback_stack hd)
  | socketActionReturn rest hstack =>
      refine hwork (Keeps.stack ?_).ops (hbusy hstack)
      rw [hstack]
      rfl
  | readMessage rest hstack hmsg =>
      obtain ⟨⟨e, p, res⟩, ms, hms⟩ := List.exists_cons_of_ne_nil hmsg
      exact hwork (checkMultiInfo_ops (hbusy hstack) hms) (hbusy hstack)
  | checkMultiInfoReturn rest hstack hmsg =>
      refine hwork (Keeps.infoRead.trans (.stack ?_)).ops (hbusy hstack)
      rw [show (m.libcurl .infoRead).stack = m.stack from rfl, hstack]
      rfl
  | completionReturn result a q f data rest hstack =>
      refine hwork (Keeps.trans (.stack ?_) .completionReturn).ops (hbusy hstack)
      rw [hstack]
      rfl
  | dataCallbackReturn result o c q expected rest hstack =>
      refine hwork (Keeps.trans (.stack ?_) .dataCallbackReturn).ops (hbusy hstack)
      rw [hstack]
      rfl
  | poll hstack hm hph =>
      have hk : Keeps m (m.libcurl .socketAction) := .emit (by simp [Event.isMajor])
      refine hwork (hk.trans (.stack ?_)).ops (hph.elim Or.inl fun hd => Or.inr (Or.inl hd))
      rw [show (m.libcurl .socketAction).stack = m.stack from rfl, hstack]
      rfl
  | sweep order hstack hph ho =>
      exact hwork (sweepDeferredCleanups_ops (hph ▸ hrun)) (Or.inl hph)
  | onAmxxDetach hstack hph =>
      have hk : Keeps m (m.mf .unregModuleFrameFunc).tryInterruptAllTransfers :=
        Keeps.mf.trans .tryInterruptAllTransfers
      refine hmove (moves_of_eq (.drain hph (hidle hstack)) ?_) hstack rfl
      exact congrArg (fun t : Transfers => { t with phase := .draining }) hk
  | drained timedOut order hstack hph hc ho =>
      have hk : Keeps m (if m.isAllTransfersCompleted then m else m.mf .printSrvConsole) := by
        split
        · exact .refl m
        · exact .mf
      refine hmove (moves_of_eq (.removeAll order hph (hidle hstack) ho) ?_) ?_ rfl
      · exact congrArg (fun t : Transfers =>
          { t with isDetached := true, phase := .removing .onAmxxDetach order }) hk
      · show (if m.isAllTransfersCompleted then m else m.mf .printSrvConsole).stack = []
        split
        · exact hstack
        · exact hstack
  | exit hstack hph => exact hmove (.exit hph (hidle hstack)) hstack rfl
  | teardown order m' hstack hn =>
      exact hmove (teardown_moves hn) ((Offstage.teardown hn).stack.trans hstack) rfl

variable {C : AmxCurlController → Action → Prop} {tr : List Action}

/-- **The controller refines the transfers**, with natives in the phases `N`. -/
theorem run_refines (hlive : ∀ ph, N ph → ph.IsLive) (hrun : N .running)
    (hN : ∀ m a, C m a → a.isNative = true → m.AtPawn → m.Staged → Records m.transfers → N m.phase)
    (h : machine.Run C tr m) : Reachable N m.transfers ∧ m.Staged := by
  induction h with
  | init => exact ⟨.refl, fun hne => absurd rfl hne⟩
  | snoc _ hc hn ih =>
      obtain ⟨hreach, hs⟩ := ih
      have hr := Records.reachable hlive hreach
      obtain ⟨hstep, hs'⟩ := next_refines hr.flags hs (fun ha hp => hN _ _ hc ha hp hs hr) hrun hn
      refine ⟨?_, hs'⟩
      rcases hstep with hops | ⟨hmove, -⟩
      · exact hreach.trans (Relation.ReflTransGen.mono (fun _ _ => Or.inl) _ _ hops)
      · exact hreach.tail (Or.inr hmove)

/-- Natives run in any phase that has Pawn code in it. -/
theorem run_reachable (h : machine.Run C tr m) : Reachable Phase.IsLive m.transfers ∧ m.Staged :=
  run_refines (fun _ => id) (Or.inl rfl) (fun _ _ _ _ hp hs _ => hp.isLive hs) h

theorem run_records (h : machine.Run C tr m) : Records m.transfers :=
  .reachable (fun _ => id) (run_reachable h).1

end AmxCurlController

end AmxxCurl
