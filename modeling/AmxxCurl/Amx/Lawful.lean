/-
Every run of the module is a legal use of libcurl.

One lemma for each call says that it is allowed where the module makes it, and what libcurl
knows afterwards; the functions are put together from these, and the run from the functions.
The assumption is the one about the end of the module: no native runs once the flag is set.
-/
import AmxxCurl.Amx.Contract
import AmxxCurl.Amx.Handles

namespace AmxxCurl

open AmxCurlController

namespace Transfers

variable {t t' : Transfers} {o : ObjId}

/-- The call is allowed where the transfers are `t`, and makes `t'` of them. -/
def Allows (t : Transfers) (c : LibCall) (t' : Transfers) : Prop :=
  ∀ s, t.Agrees s → s.isInit = true →
    ∃ s', Libcurl.machine.next s c = some s' ∧ t'.Agrees s' ∧ s'.isInit = true

namespace Allows

/-- A call that leaves everything as it is. -/
theorem query {c : LibCall} (hsame : ∀ s, t.Agrees s → t'.Agrees s)
    (hcall : ∀ s, t.Agrees s → s.call c = some s) : Allows t c t' := by
  intro s hs hi
  refine ⟨s, ?_, hsame s hs, hi⟩
  rw [Libcurl.next_eq hi]
  exact hcall s hs

theorem setopt (ho : t.IsLive o) : Allows t (.setopt o) t := by
  refine query (fun _ => id) fun s hs => ?_
  exact if_pos ((hs.easies o).mpr ho)

theorem reset (hr : Records t) (ho : t.IsLive o) (hidle : (t.obj o).inProgress = false) :
    Allows t (.easyReset o) (t.emit [.libcurl (.easyReset o)]) := by
  refine query (fun s hs => hs.same ⟨rfl, rfl, fun _ => rfl, rfl⟩ rfl rfl) fun s hs => ?_
  exact if_pos (hs.isFree hr ho hidle)

theorem isQuiet (hm : t.curlMulti = true) (hnone : t.tasks.filterMap Task.adder = [])
    {s : Libcurl} (hs : t.Agrees s) : s.IsQuiet :=
  ⟨hs.multi.trans hm, hs.adding.trans hnone⟩

/-- A multi function that is called with none of them running. -/
theorem drive {c : LibCall} (hc : ∀ s : Libcurl, s.IsQuiet → s.call c = some s)
    (hm : t.curlMulti = true) (hnone : t.tasks.filterMap Task.adder = [])
    (hsame : SameEasies t t') (hatt : t'.attached = t.attached)
    (htasks : t'.tasks.filterMap Task.adder = []) : Allows t c t' :=
  query (fun _ hs => hs.same hsame hatt (htasks.trans hnone.symm))
    fun s hs => hc s (isQuiet hm hnone hs)

/-- A new easy handle, whether or not it gets a number. -/
theorem init {e : CurlPtr} (hr : Records t) (hnext : t'.objs = t.objs.alloc (.new e))
    (hatt : t'.attached = t.attached) (htasks : t'.tasks = t.tasks)
    (hmulti : t'.curlMulti = t.curlMulti) (he : t.easies.lookup e = none)
    (hlive : ∀ o, t'.IsLive o ↔ o = t.objs.next ∨ t.IsLive o) :
    Allows t (.easyInit t.objs.next) t' := by
  intro s hs hi
  have hnew : t.objs.next ∉ s.made := fun hin => Nat.lt_irrefl _ ((hs.made _).mp hin)
  refine ⟨{ s with made := insert t.objs.next s.made, easies := insert t.objs.next s.easies },
    ?_, ⟨fun o => ?_, fun o => ?_, fun o => ?_, ?_, ?_⟩, hi⟩
  · rw [Libcurl.next_eq hi]
    exact if_neg hnew
  · rw [hnext, Heap.alloc_next, Finset.mem_insert, hs.made, Nat.lt_succ_iff_lt_or_eq, or_comm]
  · rw [hlive, Finset.mem_insert, hs.easies]
  · have hcell : (t'.obj o).curl = if o = t.objs.next then e else (t.obj o).curl := by
      rw [obj, hnext, Heap.alloc_cell]
      split <;> rfl
    rw [hlive, hatt, hcell, hs.attached]
    by_cases ho : o = t.objs.next
    · -- nothing is attached under a pointer nobody holds
      have hfree : t.attached.lookup e = none := by
        rw [Option.eq_none_iff_forall_ne_some]
        intro p hp
        obtain ⟨o', ho'⟩ := hr.attachOwner hp
        exact absurd (he.symm.trans ho') (by simp)
      have hdead : ¬t.IsLive o := fun hl => Nat.ne_of_lt (hr.objLt hl) ho
      rw [if_pos ho, hfree]
      simp [hdead]
    · rw [if_neg ho]
      simp [ho]
  · rw [htasks]
    exact hs.adding
  · rw [hmulti]
    exact hs.multi

/-- An easy handle is cleaned up that no record of the multi names. -/
theorem cleanup (hfree : ∀ s, t.Agrees s → s.IsFree o) (hobjs : t'.objs = t.objs)
    (hatt : t'.attached = t.attached) (htasks : t'.tasks = t.tasks)
    (hmulti : t'.curlMulti = t.curlMulti) (hlive : ∀ o', t'.IsLive o' ↔ o' ≠ o ∧ t.IsLive o') :
    Allows t (.easyCleanup o) t' := by
  intro s hs hi
  have hof := hfree s hs
  refine ⟨{ s with easies := s.easies.erase o }, ?_, ⟨fun o' => ?_, fun o' => ?_, fun o' => ?_,
    ?_, ?_⟩, hi⟩
  · rw [Libcurl.next_eq hi]
    exact if_pos hof
  · rw [hobjs]
    exact hs.made o'
  · rw [hlive, Finset.mem_erase, hs.easies]
  · rw [hlive, hatt, obj, hobjs, and_assoc, ← hs.attached]
    refine ⟨fun hin => ⟨?_, hin⟩, fun hin => hin.2⟩
    rintro rfl
    exact hof.2.1 hin
  · rw [htasks]
    exact hs.adding
  · rw [hmulti]
    exact hs.multi

/-- A handle goes into `curl_multi_add_handle`. -/
theorem add (hr : Records t) (ho : t.IsLive o) (hidle : (t.obj o).inProgress = false)
    (hm : t.curlMulti = true) (hsame : SameEasies t t') (hatt : t'.attached = t.attached)
    (htasks : t'.tasks.filterMap Task.adder = o :: t.tasks.filterMap Task.adder) :
    Allows t (.addHandle o) t' := by
  intro s hs hi
  refine ⟨{ s with adding := o :: s.adding }, ?_, ⟨?_, fun o' => ?_, fun o' => ?_, ?_, ?_⟩, hi⟩
  · rw [Libcurl.next_eq hi]
    exact if_pos ⟨hs.multi.trans hm, hs.isFree hr ho hidle⟩
  · rw [hsame.next]
    exact hs.made
  · rw [hsame.isLive]
    exact hs.easies o'
  · rw [hsame.isLive, hatt, hsame.curl]
    exact hs.attached o'
  · rw [htasks]
    exact congrArg (o :: ·) hs.adding
  · rw [hsame.multi]
    exact hs.multi

/-- It has returned; the handle is attached if it took it. -/
theorem added (hr : Records t) {p : PerformId} {rest : List (ObjId × Task)} {ok : Bool}
    (hs : t.tasks = (o, .adding p) :: rest) (hsame : SameEasies t t')
    (hatt : t'.attached = if ok then t.attached.insert (t.obj o).curl p else t.attached)
    (htasks : t'.tasks = rest) : Allows t (.added o ok) t' := by
  intro s hag hi
  have hadding : s.adding = o :: rest.filterMap Task.adder := by
    rw [hag.adding, hs]
    rfl
  have ho := (hr.head_task hs).1
  refine ⟨{ s with
      attached := if ok then insert o s.attached else s.attached
      adding := rest.filterMap Task.adder }, ?_, ⟨?_, fun o' => ?_, fun o' => ?_, ?_, ?_⟩, hi⟩
  · rw [Libcurl.next_eq hi]
    unfold Libcurl.call
    rw [hadding]
    exact if_pos rfl
  · rw [hsame.next]
    exact hag.made
  · rw [hsame.isLive]
    exact hag.easies o'
  · rw [hsame.isLive, hatt, hsame.curl]
    cases ok with
    | false => exact hag.attached o'
    | true =>
        rw [if_pos rfl, if_pos rfl, Finset.mem_insert, Table.lookup_insert_if, hag.attached]
        by_cases heq : o' = o
        · subst heq
          simp [ho]
        · have hne : t.IsLive o' → (t.obj o').curl ≠ (t.obj o).curl :=
            fun ho' he => heq (hr.curl_inj ho' ho he)
          simp only [heq, false_or]
          refine and_congr_right fun ho' => ?_
          rw [if_neg (hne ho')]
  · rw [htasks]
  · rw [hsame.multi]
    exact hag.multi

/-- An attached handle is taken off the multi. -/
theorem remove (hr : Records t) (ho : t.IsLive o)
    (hatt : (t.attached.lookup (t.obj o).curl).isSome) (hm : t.curlMulti = true)
    (hnone : t.tasks.filterMap Task.adder = []) (hsame : SameEasies t t')
    (hatt' : t'.attached = t.attached.erase (t.obj o).curl)
    (htasks : t'.tasks.filterMap Task.adder = []) : Allows t (.removeHandle o) t' := by
  intro s hs hi
  have hin : o ∈ s.attached := (hs.attached o).mpr ⟨ho, hatt⟩
  refine ⟨{ s with attached := s.attached.erase o }, ?_, ⟨?_, fun o' => ?_, fun o' => ?_,
    ?_, ?_⟩, hi⟩
  · rw [Libcurl.next_eq hi]
    exact if_pos ⟨isQuiet hm hnone hs, hin⟩
  · rw [hsame.next]
    exact hs.made
  · rw [hsame.isLive]
    exact hs.easies o'
  · rw [hsame.isLive, hatt', hsame.curl, Table.lookup_erase_if, Finset.mem_erase, hs.attached]
    by_cases heq : o' = o
    · subst heq
      simp
    · have hne : t.IsLive o' → (t.obj o').curl ≠ (t.obj o).curl :=
        fun ho' he => heq (hr.curl_inj ho' ho he)
      simp only [ne_eq, heq, not_false_eq_true, true_and]
      refine and_congr_right fun ho' => ?_
      rw [if_neg (hne ho')]
  · rw [htasks]
    exact hs.adding.trans hnone
  · rw [hsame.multi]
    exact hs.multi

/-- The multi goes, with nothing attached. -/
theorem multiCleanup (hm : t.curlMulti = true) (htasks : t.tasks = [])
    (hfree : ∀ e, t.attached.lookup e = none) {es : List Event} :
    Allows t .multiCleanup { t with log := es, curlMulti := false } := by
  intro s hs hi
  have hnone : s.attached = ∅ := by
    refine Finset.eq_empty_of_forall_notMem fun o hin => ?_
    have hsome := ((hs.attached o).mp hin).2
    rw [hfree] at hsome
    exact absurd hsome (by simp)
  refine ⟨{ s with multi := false }, ?_, ⟨hs.made, hs.easies, hs.attached, hs.adding, rfl⟩, hi⟩
  rw [Libcurl.next_eq hi]
  refine if_pos ⟨isQuiet hm ?_ hs, hnone⟩
  rw [htasks]
  rfl

end Allows

end Transfers

namespace AmxCurlController

variable {m m' : AmxCurlController} {o : ObjId} {h : AmxCurlHandle}

open Transfers (Records Allows)

theorem emit_cons (e : Event) (es : List Event) : m.emit (e :: es) = (m.emit [e]).emit es := by
  unfold emit
  simp

theorem Ops.records {t t' : Transfers} (hops : Ops Phase.IsLive t t') (hr : Records t) :
    Records t' := by
  induction hops with
  | refl => exact hr
  | tail _ hop ih => exact ih.op (fun _ => id) hop

namespace Lawful

theorem refl (m : AmxCurlController) : Lawful m m := Machine.Speaks.refl m

theorem of_allows {c : LibCall} (hcalls : m'.calls = m.calls ++ [c])
    (hallow : Allows m.transfers c m'.transfers) : Lawful m m' := by
  refine .call hcalls fun s hs => ?_
  obtain ⟨s', hn, hag, hi⟩ := hallow s hs.1 hs.2
  exact ⟨s', hn, hag, hi⟩

/-- The state before a function is called differs in what libcurl has no part in. -/
theorem after {m₁ : AmxCurlController} (hm : Mute m m₁) (hl : Lawful m₁ m') : Lawful m m' :=
  hm.lawful.trans hl

theorem before {m₁ : AmxCurlController} (hl : Lawful m m₁) (hm : Mute m₁ m') : Lawful m m' :=
  hl.trans hm.lawful

/-- Nothing is called, and what libcurl knows of is the same. -/
theorem same (hcalls : m'.calls = m.calls) (hsame : m.transfers.SameEasies m'.transfers)
    (hatt : m'.attached = m.attached)
    (htasks : m'.transfers.tasks.filterMap Task.adder = m.transfers.tasks.filterMap Task.adder) :
    Lawful m m' :=
  .quiet hcalls fun _ hs => ⟨hs.1.same hsame hatt htasks, hs.2⟩

theorem setopt (ho : m.amxCurl.lookup h = some o) : Lawful m (m.libcurl (.setopt o)) := by
  refine of_allows (libcurl_calls _) ?_
  have hsame : (m.libcurl (.setopt o)).transfers = m.transfers := Keeps.emit (by simp [Event.isMajor])
  rw [hsame]
  exact .setopt ⟨h, ho⟩

/-- `BindCallback`, with the report of its exception. -/
theorem setopts {es : List Event} (ho : m.amxCurl.lookup h = some o)
    (hes : ∀ e ∈ es, e = .libcurl (.setopt o) ∨ ∃ detached, e = .mf .logError detached) :
    Lawful m (m.emit es) := by
  induction es generalizing m with
  | nil => exact (Mute.emit (m := m) (fun e he => absurd he List.not_mem_nil)).lawful
  | cons e es ih =>
      rw [emit_cons]
      have hrest := ih (m := m.emit [e]) ho fun e he => hes e (List.mem_cons_of_mem _ he)
      rcases hes e List.mem_cons_self with rfl | ⟨detached, rfl⟩
      · exact (setopt ho).trans hrest
      · exact .after (.emit (by simp [Event.isMajor, Event.call])) hrest

/-! ### Handles -/

theorem destroyAmxCurl_calls : (m.destroyAmxCurl o).calls = m.calls ++ [.easyCleanup o] := by
  have hcleaned : (m.cleanedUp o).calls = m.calls ++ [.easyCleanup o] := by
    have hlib := libcurl_calls (m := m.deleteData (m.obj o).amxCallbackData) (.easyCleanup o)
    rw [Mute.deleteData.calls] at hlib
    exact hlib
  rw [destroyAmxCurl_eq]
  split
  · rw [Mute.resetAmxCallbacks.calls, Mute.isAmxValid.calls, hcleaned]
  · exact Mute.isAmxValid.calls.trans hcleaned

/-- A handle is destroyed that the multi has nothing to do with. -/
theorem erase {free : List AmxCurlHandle} (hr : Records m.transfers)
    (hh : m.amxCurl.lookup h = some o) (hfree : ∀ s, m.transfers.Agrees s → s.IsFree o) :
    Lawful m
      ({ m with amxCurl := m.amxCurl.erase h, freeHandles := free }.destroyAmxCurl o) := by
  refine of_allows destroyAmxCurl_calls ?_
  rw [destroyAmxCurl_transfers]
  refine .cleanup hfree rfl rfl rfl rfl fun o' => ?_
  show (∃ i, (m.amxCurl.erase h).lookup i = some o') ↔ o' ≠ o ∧ ∃ i, m.amxCurl.lookup i = some o'
  constructor
  · rintro ⟨i, hi⟩
    obtain ⟨hne, hi⟩ := Table.lookup_erase_eq_some.mp hi
    refine ⟨?_, i, hi⟩
    rintro rfl
    exact hne (hr.handleInj hi hh)
  · rintro ⟨hne, i, hi⟩
    refine ⟨i, Table.lookup_erase_eq_some.mpr ⟨?_, hi⟩⟩
    rintro rfl
    exact hne (Option.some.inj (hi.symm.trans hh))

/-- One that is idle is. -/
theorem destroy {free : List AmxCurlHandle} (hr : Records m.transfers)
    (hh : m.amxCurl.lookup h = some o) (hidle : (m.obj o).isTransferInProgress = false) :
    Lawful m ({ m with amxCurl := m.amxCurl.erase h, freeHandles := free }.destroyAmxCurl o) :=
  erase hr hh fun _ hs => hs.isFree hr ⟨h, hh⟩ hidle

theorem createCurl {a : AmxPtr} {q : PluginId} {reply : Option CurlPtr}
    (hr : Records m.transfers) (hnew : m.amxCurl.lookup m.getCurlHandle.1 = none)
    (hfree : ∀ e ∈ reply, m.easies.lookup e = none) : Lawful m (m.createCurl a q reply) := by
  cases reply with
  | none =>
      have hdrawn : Mute m { m with freeHandles := m.getCurlHandle.2 } := ⟨rfl, rfl⟩
      rcases m.createCurl_lost a q with heq | ⟨-, heq⟩ <;> rw [heq]
      · exact hdrawn.lawful
      · exact (hdrawn.trans .mf).lawful
  | some e =>
      rw [createCurl_new hnew]
      -- the handle is made, and then its `WRITEFUNCTION` is bound
      let h := m.getCurlHandle.1
      let made : AmxCurlController := { m with
        freeHandles := m.getCurlHandle.2
        objs := m.objs.alloc (.new a q e)
        easies := m.easies.insert e m.objs.next
        amxCurl := m.amxCurl.insert h m.objs.next }.emit [.libcurl (.easyInit m.objs.next)]
      have hmade : Lawful m made := by
        refine of_allows (emit_calls _) (.init hr ?_ rfl rfl rfl (hfree e rfl) fun o => ?_)
        · exact Heap.map_alloc ..
        · show (∃ i, (m.amxCurl.insert h m.objs.next).lookup i = some o) ↔
            o = m.objs.next ∨ ∃ i, m.amxCurl.lookup i = some o
          constructor
          · rintro ⟨i, hi⟩
            rcases Table.lookup_insert_eq_some.mp hi with ⟨-, ho⟩ | ⟨-, hi⟩
            · exact Or.inl ho
            · exact Or.inr ⟨i, hi⟩
          · rintro (rfl | ⟨i, hi⟩)
            · exact ⟨h, Finmap.lookup_insert _⟩
            · refine ⟨i, Table.lookup_insert_eq_some.mpr (Or.inr ⟨?_, hi⟩)⟩
              rintro rfl
              exact absurd (hnew.symm.trans hi) (by simp)
      have hbound : Lawful made (made.emit (bindCallback m.objs.next curleOk)) :=
        setopts (h := h) (Finmap.lookup_insert _) fun _ he => Or.inl (mem_bindCallback he)
      have hsame : { m.made a q e with amxCurl := m.amxCurl.insert h m.objs.next } =
          made.emit (bindCallback m.objs.next curleOk) := by
        unfold AmxCurlController.made
        rw [emit_cons]
        rfl
      rw [hsame]
      exact hmade.trans hbound

theorem removeTask (hr : Records m.transfers) : Lawful m (m.removeTask h) := by
  unfold AmxCurlController.removeTask
  split
  · exact Mute.mf.lawful
  · rename_i o hh
    split
    · exact (Mute.mf.trans (.setObj rfl)).lawful
    · rename_i hidle
      exact destroy hr hh (by simpa using hidle)

theorem curlSetupAmxCallback {c : Option CallbackOption} {reply : Option ForwardId}
    {codes : CurlCode × CurlCode} :
    Lawful m (m.curlSetupAmxCallback h c reply codes) := by
  rcases m.curlSetupAmxCallback_cases h c reply codes with
    ⟨heq, -⟩ | ⟨o, c', es, hh, -, hes, heq⟩ <;> rw [heq]
  · exact Mute.mf.lawful
  · have hset : Mute m (m.setupAmxCallback o c' reply) := .setupAmxCallback
    have hhandles : (m.setupAmxCallback o c' reply).amxCurl = m.amxCurl :=
      congrArg Transfers.handles hset.keeps
    exact .after hset (.setopts (hhandles ▸ hh) hes)

theorem curlSetOption {d : Option (CallbackOption × Int)} : Lawful m (m.curlSetOption h d) := by
  unfold AmxCurlController.curlSetOption
  split
  · exact Mute.mf.lawful
  · rename_i o hh
    split
    · exact (Mute.setObj rfl).lawful
    · exact setopt hh

theorem curlReset (hr : Records m.transfers) : Lawful m (m.curlReset h) := by
  unfold AmxCurlController.curlReset
  split
  · exact Mute.mf.lawful
  · rename_i o hh
    split
    · exact Mute.mf.lawful
    · rename_i hidle
      have hidle : (m.obj o).isTransferInProgress = false := by simpa using hidle
      have hreset : Mute m (m.resetAmxCallbacks o) := .resetAmxCallbacks
      rw [emit_cons]
      have hcalled : Lawful (m.resetAmxCallbacks o)
          ((m.resetAmxCallbacks o).emit [.libcurl (.easyReset o)]) := by
        refine of_allows (emit_calls _) ?_
        rw [emit_transfers, show (m.resetAmxCallbacks o).transfers = m.transfers from hreset.keeps]
        exact .reset hr ⟨h, hh⟩ hidle
      exact .after hreset
        (hcalled.trans (setopts (h := h) hh fun _ he => Or.inl (mem_bindCallback he)))

theorem sweepOne (hr : Records m.transfers) : Lawful m (m.sweepOne h) := by
  unfold AmxCurlController.sweepOne
  split
  · exact refl m
  · rename_i o hh
    split
    · rename_i hidle
      rw [Bool.and_eq_true, Bool.not_eq_true'] at hidle
      exact destroy hr hh hidle.2
    · exact refl m

theorem sweepDeferredCleanups (hr : Records m.transfers) (hlive : m.phase.IsLive)
    (order : List AmxCurlHandle) : Lawful m (m.sweepDeferredCleanups order) := by
  unfold AmxCurlController.sweepDeferredCleanups
  induction order generalizing m with
  | nil => exact refl m
  | cons h order ih =>
      have hops : Ops Phase.IsLive m.transfers (m.sweepOne h).transfers := sweepOne_ops hlive
      refine (sweepOne hr).trans (ih (hops.records hr) ?_)
      rw [show (m.sweepOne h).phase = m.phase from hops.phase]
      exact hlive

/-! ### Performing -/

/-- The flag of the object is set before `AddCurl` is called, and its options after. -/
theorem perform {found : Bool} {fun_ : Int} {data : Option DataId} {dataLen : Int}
    (hr : Records m.transfers) (hm : m.curlMulti = true) (hh : m.amxCurl.lookup h = some o)
    (hidle : (m.obj o).isTransferInProgress = false) :
    Lawful m (m.perform o h found fun_ data dataLen) := by
  let asked := m.mf (.amxFindPublic (m.isLive (m.obj o).amx (m.obj o).creator))
  let looked := asked.setObj o fun x => { x with amxCallbackFun := fun_ }
  have hasked : Mute m asked := .mf
  have hlooked : m.transfers.SameEasies looked.transfers :=
    hasked.sameEasies.trans (setObj_sameEasies fun _ => rfl)
  unfold AmxCurlController.perform
  dsimp only
  split
  · have hfreed : Mute looked ((looked.deleteData data).mf .logError) := Mute.deleteData.trans .mf
    exact same (hfreed.calls.trans hasked.calls) (hlooked.trans hfreed.sameEasies) rfl rfl
  · let freed := looked.deleteData (m.obj o).amxCallbackData
    let started := freed.setObj o fun x =>
      { x with
        amxCallbackData := data
        amxCallbackDataLen := dataLen
        taskHandle := h
        isTransferInProgress := true }
    have hfreed : Mute looked freed := .deleteData
    have hstarted : m.transfers.SameEasies started.transfers :=
      (hlooked.trans hfreed.sameEasies).trans (setObj_sameEasies fun _ => rfl)
    show Lawful m (started.addCurl o ⟨fun_, h, data, dataLen⟩)
    have hcalls : started.calls = m.calls := hfreed.calls.trans hasked.calls
    refine ⟨[.setopt o, .setopt o, .setopt o, .setopt o, .addHandle o], ?_, fun s hs => ?_⟩
    · rw [← hcalls]
      exact emit_calls _
    · have hset : Libcurl.machine.next s (.setopt o) = some s := by
        rw [Libcurl.next_eq hs.2]
        exact if_pos ((hs.1.easies o).mpr ⟨h, hh⟩)
      have hadd : Allows m.transfers (.addHandle o)
          (started.addCurl o ⟨fun_, h, data, dataLen⟩).transfers :=
        .add hr ⟨h, hh⟩ hidle hm (hstarted.trans ⟨rfl, rfl, fun _ => rfl, rfl⟩) rfl rfl
      obtain ⟨s', hn, hag, hi⟩ := hadd s hs.1 hs.2
      exact ⟨s', .cons hset (.cons hset (.cons hset (.cons hset (.one hn)))), hag, hi⟩

theorem amxCurlEasyPerform {found : Bool} {fun_ dataLen : Int} (hr : Records m.transfers)
    (hm : m.curlMulti = true) : Lawful m (m.amxCurlEasyPerform h found fun_ dataLen) := by
  have htask : ∀ {m₁ : AmxCurlController} {data : Option DataId}, Mute m m₁ →
      Lawful m (m₁.curlPerformTask h found fun_ data dataLen) := by
    intro m₁ data hmute
    have htransfers : m₁.transfers = m.transfers := hmute.keeps
    have hm₁ : m₁.curlMulti = true := (congrArg Transfers.curlMulti htransfers).trans hm
    unfold curlPerformTask
    split
    · exact (hmute.trans (Mute.deleteData.trans .mf)).lawful
    · rename_i o hh
      split
      · exact (hmute.trans (Mute.mf.trans .deleteData)).lawful
      · rename_i hidle
        exact .after hmute (perform (htransfers ▸ hr) hm₁ hh (by simpa using hidle))
  unfold AmxCurlController.amxCurlEasyPerform
  split
  · exact htask (show Mute m { m with nextData := m.nextData + 1 } from ⟨rfl, rfl⟩)
  · exact htask (.refl m)

/-- The tasks of a stack whose innermost frame is one. -/
theorem tasks_cons {f : Frame} {k : ObjId × Task} {rest : List Frame} (hs : m.stack = f :: rest)
    (hf : f.task = some k) : m.transfers.tasks = k :: rest.filterMap Frame.task := by
  show m.stack.filterMap Frame.task = _
  rw [hs, List.filterMap_cons_some hf]

theorem performAdded {p : PerformId} {rest : List Frame} {ok : Bool} (hr : Records m.transfers)
    (hs : m.stack = .adding o p :: rest) :
    Lawful m ({ m with stack := rest }.performAdded o p ok) := by
  have htasks := tasks_cons hs rfl
  let popped := { m with stack := rest }
  cases ok with
  | true =>
      let taken := { popped with attached := m.attached.insert (m.obj o).curl p }.emit
        [.libcurl (.added o true), .accepted p]
      refine of_allows (emit_calls (m := popped) _) ?_
      refine .added hr htasks ?_ rfl rfl
      have htaken : m.transfers.SameEasies taken.transfers := ⟨rfl, rfl, fun _ => rfl, rfl⟩
      exact htaken.trans (setObj_sameEasies fun _ => rfl)
  | false =>
      let refused := (popped.libcurl (.added o false)).mf .printSrvConsole
      let freed := { refused with
        curlMap := m.curlMap.erase (m.obj o).curl }.deleteData (m.obj o).amxCallbackData
      have hrefused : refused.calls = m.calls ++ [.added o false] :=
        Mute.mf.calls.trans (libcurl_calls (m := popped) _)
      have hfreed : freed.calls = m.calls ++ [.added o false] := Mute.deleteData.calls.trans hrefused
      refine of_allows hfreed (.added hr htasks ?_ rfl rfl)
      have hsame : m.transfers.SameEasies freed.transfers := ⟨rfl, rfl, fun _ => rfl, rfl⟩
      exact hsame.trans (setObj_sameEasies fun _ => rfl)

/-! ### Completing -/

/-- A completion gets its handle off the multi, and calls nothing after that. -/
theorem performRemoved {p : PerformId} {res : CurlCode} {rest : List Frame} {f : ForwardId}
    (hr : Records m.transfers) (hm : m.curlMulti = true) (hs : m.stack = .removing o p res :: rest)
    (hnone : rest.filterMap Frame.task = []) :
    Lawful m ({ m with stack := rest }.performRemoved o p f) := by
  have htasks := tasks_cons hs rfl
  rw [hnone] at htasks
  have hin : (o, Task.removing p res) ∈ m.transfers.tasks := by
    rw [htasks]
    exact List.mem_singleton_self _
  let popped := { m with stack := rest }
  have hremoved : (popped.removeHandle o).calls = m.calls ++ [.removeHandle o] :=
    libcurl_calls (m := popped) _
  have hsettled : Lawful m (popped.settled o p) := by
    refine of_allows (c := .removeHandle o) ((emit_calls _).trans ?_) ?_
    · exact (List.append_nil _).trans hremoved
    · refine .remove hr (hr.busy hin).1 ?_ hm ?_ ?_ rfl ?_
      · rw [hr.removing hin]
        rfl
      · rw [htasks]
        rfl
      · have hsame : m.transfers.SameEasies (popped.removeHandle o).transfers :=
          ⟨rfl, rfl, fun _ => rfl, rfl⟩
        let settle : AmxCurl → AmxCurl := fun x =>
          { x with isTransferInProgress := false, amxCallbackData := none, amxCallbackDataLen := 0 }
        have hset : (popped.removeHandle o).transfers.SameEasies
            ((popped.removeHandle o).setObj o settle).transfers := setObj_sameEasies fun _ => rfl
        exact hsame.trans (hset.trans ⟨rfl, rfl, fun _ => rfl, rfl⟩)
      · show (rest.filterMap Frame.task).filterMap Task.adder = []
        rw [hnone]
        rfl
  refine .before hsettled ?_
  rcases popped.performRemoved_cases o p f with ⟨-, heq⟩ | ⟨-, -, heq⟩ | ⟨q, -, -, heq⟩ <;> rw [heq]
  · exact .deleteData
  · exact (Mute.mf.trans .mf).trans .deleteData
  · have hasked : Mute (popped.settled o p) (popped.asked o p q f) := (Mute.mf.trans .mf).trans .mf
    have hstack : (popped.asked o p q f).stack = rest := Offstage.asked.stack
    exact hasked.trans (Mute.amxx.trans (.stack (by rw [hstack]; rfl)))

theorem checkMultiInfo (hm : m.curlMulti = true) (hnone : m.transfers.tasks = []) :
    Lawful m m.checkMultiInfo := by
  have hquiet : m.transfers.tasks.filterMap Task.adder = [] := by
    rw [hnone]
    rfl
  have hread : ∀ {t : Transfers}, m.transfers.SameEasies t → t.attached = m.attached →
      t.tasks.filterMap Task.adder = [] → Allows m.transfers .infoRead t :=
    fun hsame hatt htasks => .drive (fun _ hs => if_pos hs) hm hquiet hsame hatt htasks
  unfold AmxCurlController.checkMultiInfo
  split
  · refine of_allows (libcurl_calls _) ?_
    exact hread ⟨rfl, rfl, fun _ => rfl, rfl⟩ rfl hquiet
  · rename_i e p res rest hmsg
    dsimp only
    split
    · refine of_allows (libcurl_calls (m := m) _) ?_
      exact hread ⟨rfl, rfl, fun _ => rfl, rfl⟩ rfl hquiet
    · rename_i o ho
      refine of_allows (libcurl_calls (m := m) _) ?_
      refine hread ⟨rfl, rfl, fun _ => rfl, rfl⟩ rfl ?_
      show ((o, Task.removing p res) :: m.transfers.tasks).filterMap Task.adder = []
      rw [hnone]
      rfl

/-! ### Teardown -/

theorem removeTransfer {actor : Actor} {todo : List AmxCurlHandle} (hr : Records m.transfers)
    (hph : m.phase = .removing actor (h :: todo)) : Lawful m (m.removeTransfer h) := by
  have hflags := hr.flags
  unfold Transfers.Flags at hflags
  rw [show m.transfers.phase = m.phase from rfl, hph] at hflags
  have hnone : m.transfers.tasks = [] := hr.no_tasks (by
    rw [show m.transfers.phase = m.phase from rfl, hph]
    unfold Phase.IsLive
    simp)
  unfold AmxCurlController.removeTransfer
  split
  · exact refl m
  · rename_i o hh
    split
    · rename_i hbusy
      have ho : m.transfers.IsLive o := ⟨h, hh⟩
      -- the loop comes to each handle once
      have hdropped : ¬m.transfers.Dropped o := by
        unfold Transfers.Dropped
        rw [show m.transfers.phase = m.phase from rfl, hph]
        rintro ⟨i, hi, hnot⟩
        rw [hr.handleInj hi hh] at hnot
        exact hnot (List.mem_cons_self ..)
      have hadding : ¬m.transfers.Adding o := by
        rintro ⟨p, hp⟩
        rw [hnone] at hp
        exact List.not_mem_nil hp
      have hatt := (hr.agree ho).attached.mpr ⟨hbusy, hadding, hdropped⟩
      refine of_allows (libcurl_calls _) ?_
      refine .remove hr ho hatt hflags.2 (by rw [hnone]; rfl) ?_ rfl ?_
      · exact ⟨rfl, rfl, fun _ => rfl, rfl⟩
      · show m.transfers.tasks.filterMap Task.adder = []
        rw [hnone]
        rfl
    · exact refl m

theorem dropEntry {actor : Actor} {todo : List AmxCurlHandle} (hr : Records m.transfers)
    (hph : m.phase = .clearing actor todo) : Lawful m (m.dropEntry h) := by
  unfold AmxCurlController.dropEntry
  split
  · exact refl m
  · rename_i o hh
    refine erase hr hh fun s hs => ?_
    have ho : m.transfers.IsLive o := ⟨h, hh⟩
    have hdropped : m.transfers.Dropped o := by
      unfold Transfers.Dropped
      rw [show m.transfers.phase = m.phase from rfl, hph]
      trivial
    refine ⟨(hs.easies o).mpr ho, fun hin => ?_, fun hin => ?_⟩
    · exact ((hr.agree ho).attached.mp ((hs.attached o).mp hin).2).2.2 hdropped
    · obtain ⟨p, hp⟩ := hs.mem_adding.mp hin
      rw [hr.no_tasks (by
        rw [show m.transfers.phase = m.phase from rfl, hph]
        unfold Phase.IsLive
        simp)] at hp
      exact List.not_mem_nil hp

/-- Only the phase changes, and what libcurl has no part in. -/
theorem rephase {ph : Phase} (hl : Lawful m m') : Lawful m { m' with phase := ph } :=
  hl.trans (same rfl ⟨rfl, rfl, fun _ => rfl, rfl⟩ rfl rfl)

theorem shutdown {actor : Actor} (hr : Records m.transfers) (hph : m.phase = .shutdown actor) :
    Lawful m m.shutdown := by
  unfold AmxCurlController.shutdown
  split
  · rename_i hm
    have hnone : m.transfers.tasks = [] := hr.no_tasks (by
      rw [show m.transfers.phase = m.phase from rfl, hph]
      unfold Phase.IsLive
      simp)
    refine of_allows (libcurl_calls (m := m) _) (.multiCleanup hm hnone fun e => ?_)
    rw [Option.eq_none_iff_forall_ne_some]
    intro p hp
    obtain ⟨o, ho⟩ := hr.attachOwner hp
    obtain ⟨⟨n, hn⟩, -⟩ := hr.easy.mp ho
    have hempty := hr.emptied (by
      rw [show m.transfers.phase = m.phase from rfl, hph]
      trivial) n
    exact absurd (hempty.symm.trans hn) (by simp)
  · exact refl m

/-- Every step towards the end but the last call of all. -/
theorem teardown {order : List AmxCurlHandle} (hr : Records m.transfers)
    (hph : m.phase ≠ .globalCleanup) (hn : m.TearsDown order m') : Lawful m m' := by
  cases hn with
  | visit actor n todo hvisit => exact (removeTransfer hr hvisit).rephase
  | clear actor hclear ho => exact (refl m).rephase
  | drop actor n todo hdrop => exact (dropEntry hr hdrop).rephase
  | shutdown hdown => exact (shutdown hr hdown).rephase
  | shutdownLast actor hdown ha => exact (shutdown hr hdown).rephase
  | globalCleanup hglobal => exact absurd hglobal hph
  | _ => exact same rfl ⟨rfl, rfl, fun _ => rfl, rfl⟩ rfl rfl

end Lawful

/-! ### Steps and runs -/

/-- Before the flag is set there is a multi. -/
theorem multi_of_attached (hr : Records m.transfers) (hd : m.isDetached = false) :
    m.curlMulti = true := by
  have hflags := hr.flags
  unfold Transfers.Flags at hflags
  rw [show m.transfers.phase = m.phase from rfl, show m.transfers.isDetached = m.isDetached from rfl,
    show m.transfers.curlMulti = m.curlMulti from rfl, hd] at hflags
  split at hflags <;> simp_all

variable {a : Action} {tr : List Action}

/-- A step makes only calls that are allowed, or is the one that calls `curl_global_cleanup`. -/
theorem next_lawful (hrun : machine.Run NativesBeforeDetach tr m) (hc : m.NativesBeforeDetach a)
    (hn : m.next a = some m') : Lawful m m' ∨
      m.phase = .globalCleanup ∧ m' = { m.libcurl .globalCleanup with phase := .detached } := by
  have hr := run_records hrun
  have hnest := run_nested hrun
  have hmulti : ∀ {f : Frame} {rest : List Frame}, m.stack = f :: rest → m.curlMulti = true := by
    intro f rest hs
    refine multi_of_attached hr (Bool.eq_false_iff.mpr fun hd => ?_)
    rw [run_stack hrun hd] at hs
    exact absurd hs (by simp)
  have hpop : ∀ {f : Frame} {rest : List Frame}, m.stack = f :: rest → f.task = none →
      Mute m { m with stack := rest } := by
    intro f rest hs hf
    refine .stack ?_
    rw [hs, List.filterMap_cons_none hf]
  have hloop : ∀ {rest : List Frame}, m.stack = .checkMultiInfo :: rest → m.transfers.tasks = [] := by
    intro rest hs
    rw [hs] at hnest
    obtain rfl := hnest.alone rfl
    show m.stack.filterMap Frame.task = []
    rw [hs]
    rfl
  cases next_fires hn with
  | easyInit b q reply hq hp hfree =>
      have hs := run_pool hrun
      have hnew := (hs.draws getCurlHandle_draws).2.1
      rw [mem_pool, Option.not_isSome_iff_eq_none] at hnew
      exact Or.inl (.createCurl hr hnew hfree)
  | setCallback h c reply codes hp hfree => exact Or.inl .curlSetupAmxCallback
  | setOption h d hp => exact Or.inl .curlSetOption
  | easyPerform h found fun_ dataLen hp =>
      exact Or.inl (.amxCurlEasyPerform hr (multi_of_attached hr (hc rfl)))
  | easyCleanup h hp => exact Or.inl (.removeTask hr)
  | easyReset h hp => exact Or.inl (.curlReset hr)
  | addReturn ok o p rest hs hok => exact Or.inl (.performAdded hr hs)
  | removeReturn f o p res rest hs hf =>
      refine Or.inl (.performRemoved hr (hmulti hs) hs ?_)
      rw [hs] at hnest
      rw [hnest.completing rfl]
      rfl
  | postDone e p res ha hp => exact Or.inl (.same rfl ⟨rfl, rfl, fun _ => rfl, rfl⟩ rfl rfl)
  | callback o k hl he => exact Or.inl Mute.callback.lawful
  | socketActionReturn rest hs =>
      have hturn : Mute m { m with stack := .checkMultiInfo :: rest } := by
        refine .stack ?_
        rw [hs]
        rfl
      exact Or.inl hturn.lawful
  | readMessage rest hs hm => exact Or.inl (.checkMultiInfo (hmulti hs) (hloop hs))
  | checkMultiInfoReturn rest hs hm =>
      have hread := Lawful.checkMultiInfo (hmulti hs) (hloop hs)
      unfold checkMultiInfo at hread
      rw [hm] at hread
      exact Or.inl (hread.before (.stack (by
        rw [show (m.libcurl .infoRead).stack = m.stack from rfl, hs]
        rfl)))
  | completionReturn result b q f data rest hs =>
      exact Or.inl ((hpop hs rfl).trans .completionReturn).lawful
  | dataCallbackReturn result o c q expected rest hs =>
      exact Or.inl ((hpop hs rfl).trans .dataCallbackReturn).lawful
  | poll hs hm hph =>
      have hnone : m.transfers.tasks = [] := by
        show m.stack.filterMap Frame.task = []
        rw [hs]
        rfl
      refine Or.inl (.of_allows (libcurl_calls _) ?_)
      exact .drive (fun _ hs => if_pos hs) hm (by rw [hnone]; rfl) ⟨rfl, rfl, fun _ => rfl, rfl⟩
        rfl rfl
  | sweep order hs hph ho => exact Or.inl (.sweepDeferredCleanups hr (Or.inl hph) order)
  | onAmxxDetach hs hph =>
      have hmute : Mute m (m.mf .unregModuleFrameFunc) := .mf
      exact Or.inl (.same hmute.calls ⟨rfl, rfl, fun _ => rfl, rfl⟩ rfl rfl)
  | drained timedOut order hs hph hdone ho =>
      have hmute : Mute m (if m.isAllTransfersCompleted then m else m.mf .printSrvConsole) := by
        split
        · exact .refl m
        · exact .mf
      refine Or.inl (hmute.lawful.trans ?_)
      exact Lawful.same rfl ⟨rfl, rfl, fun _ => rfl, rfl⟩ rfl rfl
  | exit hs hph => exact Or.inl (Lawful.refl m).rephase
  | teardown order m' hs ht =>
      by_cases hph : m.phase = .globalCleanup
      · cases ht with
        | globalCleanup hglobal => exact Or.inr ⟨hph, rfl⟩
        | _ => simp_all
      · exact Or.inl (.teardown hr hph ht)
  | _ => exact Or.inl (.same rfl ⟨rfl, rfl, fun _ => rfl, rfl⟩ rfl rfl)

/-- Only `curl_global_cleanup` ends libcurl. -/
theorem call_isInit {s s' : Libcurl} {c : LibCall} (hc : c ≠ .globalCleanup)
    (hcall : s.call c = some s') : s'.isInit = s.isInit := by
  cases c with
  | globalCleanup => exact absurd rfl hc
  | added o ok =>
      simp only [Libcurl.call] at hcall
      split at hcall
      · exact absurd hcall (by simp)
      · split at hcall
        · rw [← Option.some.inj hcall]
        · exact absurd hcall (by simp)
  | _ =>
      simp only [Libcurl.call] at hcall
      split at hcall
      all_goals first
        | rw [← Option.some.inj hcall]
        | exact absurd hcall (by simp)

theorem follows_isInit {cs : List LibCall} : ∀ {s s' : Libcurl},
    Libcurl.machine.Follows s cs s' → s.isInit = true →
      (s'.isInit = true ↔ .globalCleanup ∉ cs) := by
  induction cs with
  | nil =>
      intro s s' h hi
      rw [h.eq_of_nil]
      simp [hi]
  | cons c cs ih =>
      intro s s' h hi
      obtain ⟨s₁, hn, hrest⟩ := h.of_cons
      rw [Libcurl.next_eq hi] at hn
      by_cases hc : c = .globalCleanup
      · subst hc
        have hover : s₁.isInit = false := by
          simp only [Libcurl.call] at hn
          split at hn
          · rw [← Option.some.inj hn]
          · exact absurd hn (by simp)
        have hover' : s'.isInit = false := by
          cases cs with
          | nil => rw [hrest.eq_of_nil, hover]
          | cons c' cs =>
              -- nothing can be called any more
              obtain ⟨s₂, hn', -⟩ := hrest.of_cons
              have hnone : Libcurl.machine.next s₁ c' = none := if_neg (by simp [hover])
              exact absurd (hnone.symm.trans hn') (by simp)
        simp [hover']
      · have hi₁ : s₁.isInit = true := (call_isInit hc hn).trans hi
        rw [ih hrest hi₁, List.mem_cons]
        simp [Ne.symm hc]

/-- `curl_global_cleanup` is the last call. -/
theorem run_calls_global (hrun : machine.Run NativesBeforeDetach tr m)
    (hover : .globalCleanup ∈ m.calls) :
    ∃ pre, m.calls = pre ++ [.globalCleanup] ∧ .globalCleanup ∉ pre := by
  have hcall : ∀ {l : List Event}, .globalCleanup ∈ l.filterMap Event.call →
      .libcurl .globalCleanup ∈ l := by
    intro l hin
    obtain ⟨e, he, hcall⟩ := List.mem_filterMap.mp hin
    cases e with
    | libcurl c => exact Option.some.inj hcall ▸ he
    | _ => exact absurd hcall (by simp [Event.call])
  obtain ⟨pre, hlog, hpre⟩ := run_global hrun (hcall hover)
  refine ⟨pre.filterMap Event.call, ?_, fun hin => hpre (hcall hin)⟩
  unfold calls
  rw [hlog, List.filterMap_append]
  rfl

/-- After it nothing is called. -/
theorem calls_over {cs : List LibCall} (hrun : machine.Run NativesBeforeDetach tr m)
    (hrun' : machine.Run NativesBeforeDetach (tr ++ [a]) m') (hcs : m'.calls = m.calls ++ cs)
    (hover : .globalCleanup ∈ m.calls) : cs = [] := by
  obtain ⟨pre, hpre, -⟩ := run_calls_global hrun hover
  obtain ⟨pre', hpre', hnot⟩ := run_calls_global hrun' (hcs ▸ List.mem_append_left _ hover)
  rcases List.eq_nil_or_concat cs with rfl | ⟨cs', c, rfl⟩
  · rfl
  · rw [hcs, hpre, List.concat_eq_append, ← List.append_assoc] at hpre'
    have heq := (List.append_inj' hpre' rfl).1
    refine absurd ?_ hnot
    rw [← heq]
    simp

/-- The controller and libcurl agree, and libcurl is there until it is cleaned up. -/
def Knows (m : AmxCurlController) (s : Libcurl) : Prop :=
  m.transfers.Agrees s ∧ (s.isInit = true ↔ .globalCleanup ∉ m.calls)

/-- Agreement does not depend on whether libcurl is still there. -/
theorem agrees_isInit {t : Transfers} {s : Libcurl} (hs : t.Agrees s) (b : Bool) :
    t.Agrees { s with isInit := b } :=
  ⟨hs.made, hs.easies, hs.attached, hs.adding, hs.multi⟩

/-- When everything has been destroyed there is no easy handle left. -/
theorem agrees_over {s : Libcurl} (hr : Records m.transfers) (hs : m.transfers.Agrees s)
    (hph : m.phase.IsOver) : s.easies = ∅ := by
  refine Finset.eq_empty_of_forall_notMem fun o hin => ?_
  obtain ⟨n, hn⟩ := (hs.easies o).mp hin
  exact absurd ((hr.emptied hph n).symm.trans hn) (by simp)

/-- **A step calls libcurl as it may be called.** -/
theorem next_speaks (hrun : machine.Run NativesBeforeDetach tr m) (hc : m.NativesBeforeDetach a)
    (hn : m.next a = some m') : Libcurl.machine.Speaks calls Knows m m' := by
  rcases next_lawful hrun hc hn with ⟨cs, hcs, hfollow⟩ | ⟨hph, rfl⟩
  · refine ⟨cs, hcs, fun s hs => ?_⟩
    by_cases hover : .globalCleanup ∈ m.calls
    · -- nothing is called, and nothing that libcurl knows of changes
      obtain rfl := calls_over hrun (hrun.snoc hc hn) hcs hover
      obtain ⟨s', hf, hag, -⟩ := hfollow { s with isInit := true } ⟨agrees_isInit hs.1 true, rfl⟩
      rw [hf.eq_of_nil] at hag
      refine ⟨s, .nil s, agrees_isInit hag s.isInit, ?_⟩
      rw [hcs, List.append_nil]
      exact hs.2
    · have hi := hs.2.mpr hover
      obtain ⟨s', hf, hag, hi'⟩ := hfollow s ⟨hs.1, hi⟩
      refine ⟨s', hf, hag, ?_⟩
      rw [hcs, List.mem_append]
      simp [hi', hover, (follows_isInit hf hi).mp hi']
  · have hr := run_records hrun
    have hcs : ({ m.libcurl .globalCleanup with phase := .detached } : AmxCurlController).calls =
        m.calls ++ [.globalCleanup] := libcurl_calls (m := m) _
    have hover : .globalCleanup ∉ m.calls := fun hin =>
      absurd (calls_over hrun (hrun.snoc hc hn) hcs hin) (by simp)
    have hflags := hr.flags
    unfold Transfers.Flags at hflags
    rw [show m.transfers.phase = m.phase from rfl, hph] at hflags
    refine .call hcs fun s hs => ⟨{ s with isInit := false }, ?_, ?_, ?_⟩
    · rw [Libcurl.next_eq (hs.2.mpr hover)]
      exact if_pos ⟨hs.1.multi.trans hflags.2, agrees_over hr hs.1 (hph ▸ trivial)⟩
    · exact (agrees_isInit hs.1 false).same ⟨rfl, rfl, fun _ => rfl, rfl⟩ rfl rfl
    · rw [hcs]
      simp

/--
**Every run is a legal use of libcurl.**  The calls of the module, in the order it makes
them, are a run of libcurl's contract: each easy handle is used from its `curl_easy_init` to
its `curl_easy_cleanup`, and neither reset, added nor cleaned up while the multi has it or is
taking it; what is removed is attached; the multi is driven only while no handle is half
attached and cleaned up when nothing is attached; nothing is called after
`curl_global_cleanup`.  The controller always knows what libcurl knows, and when the module
is gone there is no easy handle and no multi left.
-/
theorem calls_lawful (hrun : machine.Run NativesBeforeDetach tr m) :
    ∃ s, Libcurl.machine.Run Machine.Free m.calls s ∧ m.Knows s ∧
      (m.phase = .gone → s.multi = false ∧ s.easies = ∅) := by
  have h0 : boot.Knows Libcurl.boot :=
    ⟨.boot, by simp [Libcurl.boot, AmxCurlController.boot, calls]⟩
  obtain ⟨s, hs, hk⟩ := hrun.protocol (N := Libcurl.machine) (R := Knows) rfl h0
    fun tr m a m' hr hc hn => next_speaks hr hc hn
  have hr := run_records hrun
  refine ⟨s, hs, hk, fun hph => ⟨?_, agrees_over hr hk.1 (hph ▸ trivial)⟩⟩
  have hflags := hr.flags
  unfold Transfers.Flags at hflags
  rw [show m.transfers.phase = m.phase from rfl, hph] at hflags
  exact hk.1.multi.trans hflags.2

/-- A body callback performs another handle and cleans up its own; the module is shut down. -/
def entangled : List Action :=
  [.load 7, .easyInit 7 (some 100), .easyInit 7 (some 101),
    .setCallback 1 (some .writeFunction) (some 5) (0, 0), .easyPerform 1 true 3 2,
    .addReturn true, .poll, .callback 0 (.write [1, 2]), .easyPerform 2 true 4 0, .addReturn true, .easyCleanup 1,
    .pawnReturn 2, .postDone 100 0, .socketActionReturn, .readMessage, .removeReturn 6,
    .pawnReturn 0, .checkMultiInfoReturn, .sweep [1, 2], .onAmxxDetach, .drained true [2],
    .teardown [], .teardown [2], .teardown [], .teardown [], .teardown [], .teardown [],
    .exit, .teardown [], .teardown [], .teardown []]

def untangled : AmxCurlController :=
  (machine.exec NativesBeforeDetach boot entangled).get (by decide)

theorem calls_lawful_untangled : ∃ s, Libcurl.machine.Run Machine.Free untangled.calls s ∧
    s.multi = false ∧ s.easies = ∅ := by
  have hrun : machine.Run NativesBeforeDetach entangled untangled :=
    Machine.run_of_exec (Option.some_get _).symm
  obtain ⟨s, hs, -, hgone⟩ := calls_lawful hrun
  exact ⟨s, hs, hgone (by decide)⟩

end AmxCurlController

end AmxxCurl
