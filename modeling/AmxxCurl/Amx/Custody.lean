/-
Who has to free the cell arrays.

`amx_curl_easy_perform` allocates an array, and hands it on: to `AmxCurl::Perform`, which
keeps it in the object, and from there to `OnPerformComplete`, which keeps it in a local
while the completion runs.  `custody` reads the holders off the state, and what has been
freed off the log; each function of the module is then one step of the custody, or none.

An object holds its array as long as it owns its easy handle, which is as long as it lives.
-/
import AmxxCurl.Lib.Custody
import AmxxCurl.Amx.Objects
import AmxxCurl.Amx.Refinement

namespace AmxxCurl

namespace AmxCurlController

variable {m m' m'' : AmxCurlController} {o : ObjId} {h : AmxCurlHandle}

/-- Who holds a cell array: a member of an object, or a local of the frame at this height. -/
inductive Holder
  | object (o : ObjId)
  | frame (height : Nat)
  deriving DecidableEq

/-- `cb_data`. -/
def Frame.data : Frame → Option DataId
  | .completion _ _ _ data => data
  | _ => none

def Event.freed : Event → Option DataId
  | .deleted d => some d
  | _ => none

/-- The frame at a height, counted from the outermost one. -/
def frameData (stack : List Frame) (height : Nat) : Option DataId :=
  stack.reverse[height]?.bind Frame.data

/-- What an object holds, as long as it lives. -/
def objectData (m : AmxCurlController) (o : ObjId) : Option DataId :=
  if m.easies.lookup (m.obj o).curl = some o then (m.obj o).amxCallbackData else none

def holds (m : AmxCurlController) : Holder → Option DataId
  | .object o => m.objectData o
  | .frame height => frameData m.stack height

def custody (m : AmxCurlController) : Custody Holder :=
  ⟨m.nextData, m.holds, m.log.filterMap Event.freed⟩

/-! ### What leaves the arrays alone -/

theorem frameData_cons (f : Frame) (stack : List Frame) (height : Nat) :
    frameData (f :: stack) height =
      if height = stack.length then f.data else frameData stack height := by
  unfold frameData
  rw [List.reverse_cons, List.getElem?_append, List.length_reverse]
  by_cases hlt : height < stack.length
  · rw [if_pos hlt, if_neg (Nat.ne_of_lt hlt)]
  · rw [if_neg hlt]
    by_cases htop : height = stack.length
    · rw [if_pos htop, htop, Nat.sub_self]
      rfl
    · rw [if_neg htop]
      have hout : stack.reverse[height]? = none := by
        refine List.getElem?_eq_none ?_
        rw [List.length_reverse]
        omega
      rw [hout]
      refine congrArg (Option.bind · Frame.data) (List.getElem?_eq_none ?_)
      simp only [List.length_singleton]
      omega

/-- A frame without an array holds none. -/
theorem frameData_cons_none {f : Frame} (hf : f.data = none) (stack : List Frame) :
    frameData (f :: stack) = frameData stack := by
  funext height
  rw [frameData_cons]
  split
  · rename_i htop
    rw [hf, htop]
    unfold frameData
    rw [List.getElem?_eq_none (by simp)]
    rfl
  · rfl

theorem custody_eq (hnext : m'.nextData = m.nextData)
    (hobjs : ∀ o, m'.objectData o = m.objectData o)
    (hframes : frameData m'.stack = frameData m.stack)
    (hlog : m'.log.filterMap Event.freed = m.log.filterMap Event.freed) :
    m'.custody = m.custody := by
  refine Custody.ext hnext ?_ hlog
  funext x
  cases x with
  | object o => exact hobjs o
  | frame height => exact congrFun hframes height

theorem emit_custody {es : List Event} (hes : ∀ e ∈ es, e.freed = none) :
    (m.emit es).custody = m.custody := by
  refine custody_eq rfl (fun _ => rfl) rfl ?_
  show (m.log ++ es).filterMap Event.freed = _
  rw [List.filterMap_append, List.filterMap_eq_nil_iff.mpr hes, List.append_nil]

theorem setObj_objectData {f : AmxCurl → AmxCurl} (hcurl : (f (m.obj o)).curl = (m.obj o).curl)
    (hdata : (f (m.obj o)).amxCallbackData = (m.obj o).amxCallbackData) (o' : ObjId) :
    (m.setObj o f).objectData o' = m.objectData o' := by
  have hcell : ((m.setObj o f).obj o').curl = (m.obj o').curl ∧
      ((m.setObj o f).obj o').amxCallbackData = (m.obj o').amxCallbackData := by
    unfold setObj obj
    rw [Heap.modify_cell]
    split
    · rename_i heq
      rw [heq]
      exact ⟨hcurl, hdata⟩
    · exact ⟨rfl, rfl⟩
  unfold objectData
  rw [hcell.1, hcell.2]
  rfl

theorem setObj_custody {f : AmxCurl → AmxCurl} (hf : (f (m.obj o)).transfer = (m.obj o).transfer) :
    (m.setObj o f).custody = m.custody :=
  custody_eq rfl (setObj_objectData (congrArg Transfer.curl hf)
    (congrArg (fun x : Transfer => x.args.data) hf)) rfl rfl

theorem push_custody {f : Frame} (hf : f.data = none) :
    ({ m with stack := f :: m.stack } : AmxCurlController).custody = m.custody :=
  custody_eq rfl (fun _ => rfl) (frameData_cons_none hf m.stack) rfl

theorem pop_custody {f : Frame} {rest : List Frame} (hs : m.stack = f :: rest)
    (hf : f.data = none) : ({ m with stack := rest } : AmxCurlController).custody = m.custody := by
  refine custody_eq rfl (fun _ => rfl) ?_ rfl
  rw [hs]
  exact (frameData_cons_none hf rest).symm

theorem deleteData_freed (data : Option DataId) : (m.deleteData data).log.filterMap Event.freed =
    m.log.filterMap Event.freed ++ data.toList := by
  show (m.log ++ _).filterMap Event.freed = _
  rw [List.filterMap_append]
  cases data <;> rfl

theorem mf_freed (c : MfCall) :
    (m.mf c).log.filterMap Event.freed = m.log.filterMap Event.freed := by
  show (m.log ++ _).filterMap Event.freed = _
  rw [List.filterMap_append]
  exact List.append_nil _

theorem Event.freed_of_isMinor {e : Event} (he : e.isMinor = true) : e.freed = none := by
  cases e with
  | deleted d => simp [Event.isMinor] at he
  | _ => rfl

theorem Minor.custody (hm : Minor m m') : m'.custody = m.custody := by
  induction hm with
  | refl => rfl
  | emit _ hes ih => exact (emit_custody fun e he => Event.freed_of_isMinor (hes e he)).trans ih
  | setObj _ hf ih => exact (setObj_custody hf).trans ih
  | amxx _ x ih => exact ih
  | push _ o c q n ih => exact (push_custody rfl).trans ih

/-! ### What frees them -/

/-- Who owns which easy handle, as far as the arrays depend on it. -/
structure Owners (m : AmxCurlController) : Prop where
  easyLt : ∀ {e o}, m.easies.lookup e = some o → o < m.objs.next
  handleInj : m.amxCurl.Injective
  owns : ∀ {h o}, m.amxCurl.lookup h = some o → m.easies.lookup (m.obj o).curl = some o
  busy : ∀ {o k}, (o, k) ∈ m.stack.filterMap Frame.task →
    m.easies.lookup (m.obj o).curl = some o

/-- What the owner of an easy handle holds. -/
theorem holds_of_owns (howns : m.easies.lookup (m.obj o).curl = some o) :
    m.custody.holds (.object o) = (m.obj o).amxCallbackData := if_pos howns

/-- `delete[]` of what an object holds, which then holds `data'`. -/
theorem replace_holds {f : AmxCurl → AmxCurl}
    (howns : m.easies.lookup (m.obj o).curl = some o) (hcurl : (f (m.obj o)).curl = (m.obj o).curl)
    (hobjs : m'.objs = m.objs.modify o f) (heasies : m'.easies = m.easies)
    (hstack : frameData m'.stack = frameData m.stack) :
    m'.holds = Function.update m.holds (.object o) (f (m.obj o)).amxCallbackData := by
  have hcell : ∀ o', m'.obj o' = if o' = o then f (m.obj o) else m.obj o' := by
    intro o'
    rw [obj, hobjs]
    exact Heap.modify_cell ..
  funext x
  cases x with
  | frame height =>
      rw [Function.update_of_ne (by simp)]
      exact congrFun hstack height
  | object o' =>
      show m'.objectData o' = _
      unfold objectData
      rw [heasies, hcell o']
      by_cases ho : o' = o
      · rw [if_pos ho, ho, Function.update_self, hcurl, if_pos howns]
      · rw [if_neg ho, Function.update_of_ne (by simpa using ho)]
        rfl

theorem cleanedUp_custody (howns : m.easies.lookup (m.obj o).curl = some o) :
    (m.cleanedUp o).custody = m.custody.free (.object o) := by
  refine Custody.ext rfl ?_ ?_
  · funext x
    cases x with
    | frame height =>
        show frameData m.stack height = Function.update m.holds (.object o) none (.frame height)
        rw [Function.update_of_ne (by simp)]
        rfl
    | object o' =>
        show (if (m.easies.erase (m.obj o).curl).lookup (m.obj o').curl = some o'
          then (m.obj o').amxCallbackData else none) = Function.update m.holds (.object o) none _
        by_cases ho : o' = o
        · rw [ho, Function.update_self]
          refine if_neg ?_
          rw [Finmap.lookup_erase]
          simp
        · rw [Function.update_of_ne (by simpa using ho)]
          refine if_congr ?_ rfl rfl
          rw [Table.lookup_erase_eq_some]
          refine and_iff_right_of_imp fun ho' hcurl => ?_
          rw [hcurl, howns] at ho'
          exact ho (Option.some.inj ho').symm
  · show ((m.log ++ _) ++ _).filterMap Event.freed = m.custody.freed ++ (m.custody.holds _).toList
    rw [holds_of_owns howns, List.filterMap_append, List.filterMap_append]
    cases (m.obj o).amxCallbackData <;> simp [custody, Event.freed]

theorem destroyAmxCurl_easies : (m.destroyAmxCurl o).easies = m.easies.erase (m.obj o).curl :=
  congrArg Transfers.easies destroyAmxCurl_transfers

theorem destroyAmxCurl_amxCurl : (m.destroyAmxCurl o).amxCurl = m.amxCurl :=
  congrArg Transfers.handles destroyAmxCurl_transfers

theorem destroyAmxCurl_curl (o' : ObjId) : ((m.destroyAmxCurl o).obj o').curl = (m.obj o').curl := by
  rw [obj_of_objs destroyAmxCurl_objs, Heap.modify_cell]
  split
  · rename_i heq
    rw [heq]
    cases m.valid o <;> rfl
  · rfl

theorem destroyAmxCurl_custody (howns : m.easies.lookup (m.obj o).curl = some o) :
    (m.destroyAmxCurl o).custody = m.custody.free (.object o) := by
  rw [← cleanedUp_custody howns]
  have hvalid : ((m.cleanedUp o).isAmxValid o).1.custody = (m.cleanedUp o).custody :=
    Minor.isAmxValid.custody
  rw [destroyAmxCurl_eq]
  split
  · exact Minor.resetAmxCallbacks.custody.trans hvalid
  · exact (setObj_custody rfl).trans hvalid

theorem made_obj {a : AmxPtr} {q : PluginId} {e : CurlPtr} (o : ObjId) :
    (m.made a q e).obj o = if o = m.objs.next then .new a q e else m.obj o := Heap.alloc_cell ..

theorem made_owns {a : AmxPtr} {q : PluginId} {e : CurlPtr} :
    (m.made a q e).easies.lookup ((m.made a q e).obj m.objs.next).curl = some m.objs.next := by
  rw [made_obj, if_pos rfl]
  exact Finmap.lookup_insert _

/-- A new object holds nothing. -/
theorem made_custody {a : AmxPtr} {q : PluginId} {e : CurlPtr} (hm : Owners m)
    (hnone : m.easies.lookup e = none) : (m.made a q e).custody = m.custody := by
  refine custody_eq rfl (fun o => ?_) rfl ?_
  · unfold objectData
    rw [made_obj]
    by_cases ho : o = m.objs.next
    · have hno : ¬m.easies.lookup (m.obj o).curl = some o :=
        fun hold => Nat.ne_of_lt (hm.easyLt hold) ho
      rw [if_pos ho, if_neg hno, ite_eq_right_iff]
      exact fun _ => rfl
    · rw [if_neg ho]
      refine if_congr ?_ rfl rfl
      show (m.easies.insert e m.objs.next).lookup (m.obj o).curl = some o ↔ _
      rw [Table.lookup_insert_eq_some]
      constructor
      · intro hnew
        rcases hnew with ⟨-, heq⟩ | ⟨-, hold⟩
        · exact absurd heq ho
        · exact hold
      · intro hold
        refine Or.inr ⟨?_, hold⟩
        intro hcurl
        rw [hcurl, hnone] at hold
        simp at hold
  · show (m.log ++ _).filterMap Event.freed = _
    rw [List.filterMap_append]
    exact List.append_nil _

/-- The custody takes steps. -/
def Passes (m m' : AmxCurlController) : Prop :=
  Relation.ReflTransGen Custody.Op m.custody m'.custody

namespace Passes

theorem of_eq (he : m'.custody = m.custody) : Passes m m' := by
  unfold Passes
  rw [he]

theorem of_op (hop : Custody.Op m.custody m'.custody) : Passes m m' := .single hop

theorem trans (hm : Passes m m') (hm' : Passes m' m'') : Passes m m'' :=
  Relation.ReflTransGen.trans hm hm'

theorem minor (hm : Minor m m') : Passes m m' := of_eq hm.custody

theorem emit {es : List Event} (hes : ∀ e ∈ es, e.freed = none) : Passes m (m.emit es) :=
  of_eq (emit_custody hes)

/-- An object that owns its easy handle is destroyed, once it has left the tables. -/
theorem destroyed (hsame : m'.custody = m.custody)
    (howns : m'.easies.lookup (m'.obj o).curl = some o) : Passes m (m'.destroyAmxCurl o) := by
  refine of_op ?_
  rw [destroyAmxCurl_custody howns, hsame]
  exact .free _

/-! ### Handles -/

theorem createCurl {a : AmxPtr} {q : PluginId} {reply : Option CurlPtr} (hm : Owners m)
    (hfree : ∀ e ∈ reply, m.easies.lookup e = none) : Passes m (m.createCurl a q reply) := by
  cases reply with
  | none =>
      rcases m.createCurl_lost a q with heq | ⟨-, heq⟩ <;> rw [heq]
      · exact of_eq rfl
      · exact of_eq (Minor.mf (m := { m with freeHandles := m.getCurlHandle.2 }) .refl).custody
  | some e =>
      unfold AmxCurlController.createCurl
      have hsame := made_custody (a := a) (q := q) hm (hfree e rfl)
      dsimp only
      split
      · exact destroyed hsame made_owns
      · exact of_eq hsame

theorem removeTask (hm : Owners m) : Passes m (m.removeTask h) := by
  unfold AmxCurlController.removeTask
  split
  · exact minor (Minor.mf .refl)
  · rename_i o hh
    split
    · exact minor (Minor.setObj (Minor.mf .refl) rfl)
    · exact destroyed rfl (hm.owns hh)

theorem curlReset : Passes m (m.curlReset h) := by
  unfold AmxCurlController.curlReset
  split
  · exact minor (Minor.mf .refl)
  · rename_i o _
    split
    · exact minor (Minor.mf .refl)
    · refine (minor Minor.resetAmxCallbacks).trans (emit fun e he => ?_)
      obtain ⟨c, rfl⟩ := libcurl_bindCallback he
      rfl

/-- What a sweep needs of the tables, and leaves of them. -/
theorem sweepDeferredCleanups {order : List AmxCurlHandle} (hinj : m.amxCurl.Injective)
    (howns : ∀ {h o}, m.amxCurl.lookup h = some o → m.easies.lookup (m.obj o).curl = some o) :
    Passes m (m.sweepDeferredCleanups order) := by
  unfold AmxCurlController.sweepDeferredCleanups
  induction order generalizing m with
  | nil => exact of_eq rfl
  | cons h order ih =>
      show Passes m (order.foldl sweepOne (m.sweepOne h))
      by_cases hdue : ∃ o, m.Due h o
      · obtain ⟨o, hdue⟩ := hdue
        rw [sweepOne_due hdue]
        generalize hm₁ : ({ m with
          amxCurl := m.amxCurl.erase h
          freeHandles := m.freeHandles ++ [h] } : AmxCurlController) = m₁
        have howned : m₁.easies.lookup (m₁.obj o).curl = some o := by
          rw [← hm₁]
          exact howns hdue.1.1
        refine (destroyed (by rw [← hm₁]; rfl) howned).trans (ih ?_ ?_)
        · rw [destroyAmxCurl_amxCurl, ← hm₁]
          exact hinj.erase h
        · intro h' o' hh'
          rw [destroyAmxCurl_amxCurl, ← hm₁] at hh'
          obtain ⟨hne, hh'⟩ := Table.lookup_erase_eq_some.mp hh'
          rw [destroyAmxCurl_easies, destroyAmxCurl_curl, ← hm₁]
          refine Table.lookup_erase_eq_some.mpr ⟨?_, howns hh'⟩
          -- two handles do not share an easy handle
          intro hcurl
          have ho' := howns hh'
          have hcurl : (m.obj o').curl = (m.obj o).curl := hcurl
          rw [hcurl, howns hdue.1.1] at ho'
          obtain rfl := Option.some.inj ho'
          exact hne (hinj hh' hdue.1.1)
      · rw [sweepOne_not_due fun o hd => hdue ⟨o, hd⟩]
        exact ih hinj howns

/-! ### Performing -/

/-- An array nobody has been given is deleted. -/
theorem wasted {data : Option DataId} (hdata : ∀ d ∈ data, d = m.nextData)
    (hobjs : ∀ o, m'.objectData o = m.objectData o) (hstack : frameData m'.stack = frameData m.stack)
    (hnext : m'.nextData = m.nextData + data.toList.length)
    (hlog : m'.log.filterMap Event.freed = m.log.filterMap Event.freed ++ data.toList) :
    Passes m m' := by
  cases data with
  | none =>
      refine of_eq (custody_eq hnext hobjs hstack ?_)
      rw [hlog]
      exact List.append_nil _
  | some d =>
      obtain rfl := hdata d rfl
      refine of_op ?_
      have hsame : m'.custody = m.custody.waste := by
        refine Custody.ext hnext ?_ hlog
        funext x
        cases x with
        | object o => exact hobjs o
        | frame height => exact congrFun hstack height
      rw [hsame]
      exact .waste

/-- `Perform` gives the object its array, whatever it held before. -/
theorem given (data : Option DataId) {f : AmxCurl → AmxCurl}
    (howns : m.easies.lookup (m.obj o).curl = some o) (hcurl : (f (m.obj o)).curl = (m.obj o).curl)
    (hobjs : m'.objs = m.objs.modify o f) (heasies : m'.easies = m.easies)
    (hstack : frameData m'.stack = frameData m.stack)
    (hdata : (f (m.obj o)).amxCallbackData = data) (hnew : ∀ d ∈ data, d = m.nextData)
    (hnext : m'.nextData = m.nextData + data.toList.length)
    (hlog : m'.log.filterMap Event.freed =
      m.log.filterMap Event.freed ++ (m.obj o).amxCallbackData.toList) : Passes m m' := by
  have hholds := replace_holds howns hcurl hobjs heasies hstack
  rw [hdata] at hholds
  rw [← holds_of_owns howns] at hlog
  refine of_op ?_
  cases data with
  | none =>
      have hsame : m'.custody = m.custody.free (.object o) := Custody.ext hnext hholds hlog
      rw [hsame]
      exact .free _
  | some d =>
      obtain rfl := hnew d rfl
      have hsame : m'.custody = m.custody.take (.object o) := Custody.ext hnext hholds hlog
      rw [hsame]
      exact .take _

theorem amxCurlEasyPerform {found : Bool} {fun_ dataLen : Int} (hm : Owners m) :
    Passes m (m.amxCurlEasyPerform h found fun_ dataLen) := by
  have htask : ∀ (data : Option DataId), (∀ d ∈ data, d = m.nextData) →
      Passes m ({ m with nextData := m.nextData + data.toList.length }.curlPerformTask h found fun_
        data dataLen) := by
    intro data hdata
    unfold curlPerformTask
    cases hh : m.amxCurl.lookup h with
    | none =>
        refine wasted hdata (fun _ => rfl) rfl rfl ?_
        rw [mf_freed, deleteData_freed]
    | some o =>
        have howns := hm.owns hh
        dsimp only
        split
        · refine wasted hdata (fun _ => rfl) rfl rfl ?_
          rw [deleteData_freed, mf_freed]
        · cases found with
          | false =>
              have hrefused : ∀ o', (m.setObj o (·.refuse fun_)).objectData o' = m.objectData o' :=
                setObj_objectData rfl rfl
              refine wasted hdata hrefused rfl rfl ?_
              unfold perform
              dsimp only
              rw [if_pos (by rfl), mf_freed, deleteData_freed]
              refine congrArg (· ++ data.toList) ?_
              exact mf_freed _
          | true =>
              refine given data (f := (·.start ⟨fun_, h, data, dataLen⟩)) howns rfl ?_ rfl
                (frameData_cons_none rfl m.stack) rfl hdata rfl ?_
              · rw [perform_objs]
                rfl
              · show ((_ ++ (m.obj o).amxCallbackData.toList.map Event.deleted) ++ _).filterMap
                  Event.freed = _
                rw [List.filterMap_append]
                refine (List.append_nil _).trans ((deleteData_freed _).trans ?_)
                exact congrArg (· ++ (m.obj o).amxCallbackData.toList) (mf_freed _)
  unfold AmxCurlController.amxCurlEasyPerform
  split
  · exact htask (some m.nextData) (by simp)
  · exact htask none (by simp)

/-- `Perform` takes its array back, or leaves it with the object. -/
theorem performAdded {p : PerformId} {ok : Bool}
    (howns : m.easies.lookup (m.obj o).curl = some o) : Passes m (m.performAdded o p ok) := by
  unfold AmxCurlController.performAdded
  dsimp only
  cases ok with
  | true =>
      rw [if_pos rfl]
      refine of_eq (custody_eq rfl (setObj_objectData rfl rfl) rfl ?_)
      show (m.log ++ _).filterMap Event.freed = _
      rw [List.filterMap_append]
      exact List.append_nil _
  | false =>
      rw [if_neg Bool.false_ne_true]
      refine given none (f := AmxCurl.settle) howns rfl rfl rfl rfl rfl (by simp) rfl ?_
      refine (deleteData_freed _).trans (congrArg (· ++ (m.obj o).amxCallbackData.toList) ?_)
      show ((m.log ++ _) ++ _).filterMap Event.freed = _
      rw [List.filterMap_append, List.filterMap_append]
      simp [Event.freed]

/-! ### Completing -/

/-- `OnPerformComplete` takes the array out of the object, to delete it or to hold it itself. -/
theorem performRemoved {p : PerformId} {f : ForwardId}
    (howns : m.easies.lookup (m.obj o).curl = some o) : Passes m (m.performRemoved o p f) := by
  have hlog : (m.settled o p).log.filterMap Event.freed = m.log.filterMap Event.freed := by
    show ((m.log ++ _) ++ _).filterMap Event.freed = _
    rw [List.filterMap_append, List.filterMap_append]
    simp [Event.freed]
  rcases m.performRemoved_cases o p f with ⟨-, he⟩ | ⟨-, -, he⟩ | ⟨q, -, -, he⟩
  · rw [he]
    refine given none (f := AmxCurl.settle) howns rfl rfl rfl rfl rfl (by simp) rfl ?_
    rw [deleteData_freed, hlog]
  · rw [he]
    refine given none (f := AmxCurl.settle) howns rfl rfl rfl rfl rfl (by simp) rfl ?_
    rw [deleteData_freed, mf_freed, mf_freed, hlog]
  · rw [he]
    refine of_op ?_
    have htop : m.custody.holds (.frame m.stack.length) = none := by
      show frameData m.stack m.stack.length = none
      unfold frameData
      rw [List.getElem?_eq_none (by simp)]
      rfl
    have hsame : (m.called o p q f).custody =
        m.custody.hand (.object o) (.frame m.stack.length) := by
      refine Custody.ext rfl ?_ ?_
      · have hholds : (m.settled o p).holds = Function.update m.holds (.object o) none :=
          replace_holds (f := AmxCurl.settle) howns rfl rfl rfl rfl
        funext x
        rw [Custody.hand_holds, holds_of_owns howns]
        cases x with
        | object o' =>
            rw [if_neg (by simp)]
            exact (congrFun hholds (.object o')).trans (Function.update_apply ..)
        | frame height =>
            show frameData (_ :: m.stack) height = _
            rw [frameData_cons]
            refine if_congr (by simp) rfl ?_
            rw [if_neg (by simp)]
            rfl
      · show ((((m.settled o p).log ++ _) ++ _) ++ _).filterMap Event.freed = _
        rw [List.filterMap_append, List.filterMap_append, List.filterMap_append, hlog]
        simp [Event.freed, custody, Custody.hand]
    rw [hsame]
    exact .hand _ _ (by simp) htop

/-- The completion has returned, and its array is deleted. -/
theorem completionReturn {a : AmxPtr} {q : PluginId} {f : ForwardId} {data : Option DataId}
    {rest : List Frame} (hs : m.stack = .completion a q f data :: rest) :
    Passes m ({ m with stack := rest }.completionReturn a q f data) := by
  refine of_op ?_
  have hheld : m.custody.holds (.frame rest.length) = data := by
    show frameData m.stack rest.length = data
    rw [hs, frameData_cons, if_pos rfl]
    rfl
  have hsame : ({ m with stack := rest }.completionReturn a q f data).custody =
      m.custody.free (.frame rest.length) := by
    refine Custody.ext rfl ?_ ?_
    · funext x
      rw [Custody.free_holds]
      cases x with
      | object o =>
          rw [if_neg (by simp)]
          rfl
      | frame height =>
          show frameData rest height = _
          by_cases htop : height = rest.length
          · rw [if_pos (by rw [htop]), htop]
            unfold frameData
            rw [List.getElem?_eq_none (by simp)]
            rfl
          · rw [if_neg (by simpa using htop)]
            show _ = frameData m.stack height
            rw [hs, frameData_cons, if_neg htop]
    · show ((m.log ++ _) ++ _).filterMap Event.freed = m.custody.freed ++ (m.custody.holds _).toList
      rw [hheld, List.filterMap_append, List.filterMap_append]
      cases data <;> simp [custody, Event.freed]
  rw [hsame]
  exact .free _

theorem checkMultiInfo : Passes m m.checkMultiInfo := by
  have hread : (m.libcurl .infoRead).custody = m.custody := emit_custody (by simp [Event.freed])
  unfold AmxCurlController.checkMultiInfo
  dsimp only
  split
  · exact of_eq hread
  · rename_i e p res rest hmessages
    split
    · exact of_eq hread
    · rename_i o hmap
      refine of_eq (Eq.trans ?_ hread)
      exact custody_eq rfl (fun _ => rfl) (frameData_cons_none rfl m.stack) rfl

/-! ### Taking everything down -/

theorem teardown {order : List AmxCurlHandle} (hm : Owners m) (hn : m.TearsDown order m') :
    Passes m m' := by
  cases hn with
  | visit actor h todo hph =>
      have hvisit : Passes m (m.removeTransfer h) := by
        unfold removeTransfer
        split
        · exact of_eq rfl
        · split
          · exact of_eq (emit_custody (m := m) (by simp [Event.freed]))
          · exact of_eq rfl
      exact hvisit
  | drop actor h todo hph =>
      have hdrop : Passes m (m.dropEntry h) := by
        unfold dropEntry
        split
        · exact of_eq rfl
        · rename_i o hh
          exact destroyed rfl (hm.owns hh)
      exact hdrop
  | shutdown hph | shutdownLast actor hph ha =>
      unfold AmxCurlController.shutdown
      split
      · exact of_eq (emit_custody (m := m) (by simp [Event.freed]))
      · exact of_eq rfl
  | globalCleanup => exact of_eq (emit_custody (m := m) (by simp [Event.freed]))
  | clear | cleared | clearedByGuard | destructed | destruct | guard => exact of_eq rfl

end Passes

/-- **Each step of the module is some steps of the custody.** -/
theorem next_custody {a : Action} (hm : Owners m) (hn : m.next a = some m') : Passes m m' := by
  cases next_fires hn with
  | easyInit a q reply hq hp hfree => exact .createCurl hm hfree
  | setCallback h c reply codes hp hfree => exact .minor .curlSetupAmxCallback
  | setOption h d hp => exact .minor .curlSetOption
  | easyPerform h found fun_ dataLen hp => exact .amxCurlEasyPerform hm
  | easyCleanup h hp => exact .removeTask hm
  | easyReset h hp => exact .curlReset
  | addReturn ok o p rest hs hok =>
      refine (Passes.of_eq (pop_custody hs rfl)).trans (.performAdded ?_)
      refine hm.busy (k := .adding p) ?_
      rw [hs]
      exact List.mem_cons_self ..
  | removeReturn f o p res rest hs hf =>
      refine (Passes.of_eq (pop_custody hs rfl)).trans (.performRemoved ?_)
      refine hm.busy (k := .removing p res) ?_
      rw [hs]
      exact List.mem_cons_self ..
  | callback o k hl he => exact .minor .callback
  | socketActionReturn rest hs =>
      refine .of_eq ((push_custody (m := { m with stack := rest }) rfl).trans ?_)
      exact pop_custody hs rfl
  | readMessage rest hs hmessages => exact .checkMultiInfo
  | checkMultiInfoReturn rest hs hmessages =>
      refine .of_eq ((pop_custody (m := m.libcurl .infoRead) hs rfl).trans ?_)
      exact emit_custody (by simp [Event.freed])
  | completionReturn result a q f data rest hs => exact .completionReturn hs
  | dataCallbackReturn result o c q expected rest hs =>
      exact (Passes.of_eq (pop_custody hs rfl)).trans (.minor .dataCallbackReturn)
  | poll hs hmulti hph =>
      refine .of_eq ?_
      have hpush := push_custody (m := m.libcurl .socketAction) (f := .socketAction) rfl
      rw [show (m.libcurl .socketAction).stack = [] from hs] at hpush
      exact hpush.trans (emit_custody (by simp [Event.freed]))
  | sweep order hs hph ho => exact .sweepDeferredCleanups hm.handleInj hm.owns
  | onAmxxDetach hs hph => exact .of_eq (custody_eq rfl (fun _ => rfl) rfl (mf_freed _))
  | drained timedOut order hs hph hc ho =>
      split
      · exact .of_eq rfl
      · exact .of_eq (emit_custody (m := m) (by simp [Event.freed]))
  | teardown order m' hs hn => exact .teardown hm hn
  | load | unload | postDone | exit => exact .of_eq rfl

end AmxCurlController

end AmxxCurl
