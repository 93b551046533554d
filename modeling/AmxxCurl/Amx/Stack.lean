/-
What is on the stack.

Most functions return without leaving a frame behind and record no perform; a few leave
one, of a call into libcurl or into AMXX.  Handlers of asio are never nested, so one is
only ever at the bottom.
-/
import AmxxCurl.Amx.Cases

namespace AmxxCurl

namespace AmxCurlController

variable {m m' m'' : AmxCurlController} {o : ObjId} {h : AmxCurlHandle}

/-- The function has returned and recorded no perform. -/
structure Offstage (m m' : AmxCurlController) : Prop where
  stack : m'.stack = m.stack
  performs : m'.performs = m.performs

namespace Offstage

theorem refl (m : AmxCurlController) : Offstage m m := ⟨rfl, rfl⟩

theorem trans (h : Offstage m m') (h' : Offstage m' m'') : Offstage m m'' :=
  ⟨h'.stack.trans h.stack, h'.performs.trans h.performs⟩

theorem emit {es : List Event} : Offstage m (m.emit es) := ⟨rfl, rfl⟩

/-- `OnPerformComplete`, up to `MF_ExecuteForward`. -/
theorem asked {p : PerformId} {q : PluginId} {f : ForwardId} :
    Offstage m (m.asked o p q f) := by
  have hsettled : Offstage m (m.settled o p) := ⟨rfl, rfl⟩
  exact ((hsettled.trans .emit).trans .emit).trans .emit

theorem isAmxValid : Offstage m (m.isAmxValid o).1 := by
  unfold AmxCurlController.isAmxValid
  split <;> exact ⟨rfl, rfl⟩

theorem destroyAmxCurl : Offstage m (m.destroyAmxCurl o) := by
  have hcleaned : Offstage m (m.cleanedUp o) := ⟨rfl, rfl⟩
  rw [destroyAmxCurl_eq]
  split
  · have hreset : Offstage ((m.cleanedUp o).isAmxValid o).1
        (((m.cleanedUp o).isAmxValid o).1.resetAmxCallbacks o) := ⟨rfl, rfl⟩
    exact (hcleaned.trans isAmxValid).trans hreset
  · exact (hcleaned.trans isAmxValid).trans ⟨rfl, rfl⟩

/-- It is destroyed after it has left the tables. -/
theorem destroyed (hs : m'.stack = m.stack) (hp : m'.performs = m.performs) :
    Offstage m (m'.destroyAmxCurl o) :=
  trans ⟨hs, hp⟩ destroyAmxCurl

theorem createCurl {a : AmxPtr} {p : PluginId} {reply : Option CurlPtr} :
    Offstage m (m.createCurl a p reply) := by
  unfold AmxCurlController.createCurl
  dsimp only
  split
  · split <;> exact ⟨rfl, rfl⟩
  · split
    · exact destroyed rfl rfl
    · exact ⟨rfl, rfl⟩

theorem removeTask : Offstage m (m.removeTask h) := by
  unfold AmxCurlController.removeTask
  split
  · exact ⟨rfl, rfl⟩
  · split
    · exact ⟨rfl, rfl⟩
    · exact destroyed rfl rfl

theorem setupAmxCallback {c : CallbackOption} {reply : Option ForwardId} :
    Offstage m (m.setupAmxCallback o c reply) := by
  have hdrop : Offstage m (m.dropForward o c) := by
    unfold AmxCurlController.dropForward
    split <;> exact ⟨rfl, rfl⟩
  refine hdrop.trans ?_
  unfold AmxCurlController.setupAmxCallback AmxCurlController.registerForward
  dsimp only
  split <;> exact ⟨rfl, rfl⟩

theorem curlSetupAmxCallback {c : Option CallbackOption} {reply : Option ForwardId}
    {codes : CurlCode × CurlCode} :
    Offstage m (m.curlSetupAmxCallback h c reply codes) := by
  rcases m.curlSetupAmxCallback_cases h c reply codes with
    ⟨heq, -⟩ | ⟨o, c', es, -, -, -, heq⟩ <;> rw [heq]
  · exact .emit
  · exact setupAmxCallback.trans .emit

theorem curlSetOption {d : Option (CallbackOption × Int)} : Offstage m (m.curlSetOption h d) := by
  unfold AmxCurlController.curlSetOption
  split
  · exact ⟨rfl, rfl⟩
  · split <;> exact ⟨rfl, rfl⟩

theorem curlReset : Offstage m (m.curlReset h) := by
  unfold AmxCurlController.curlReset
  split
  · exact ⟨rfl, rfl⟩
  · split <;> exact ⟨rfl, rfl⟩

theorem sweepDeferredCleanups {order : List AmxCurlHandle} :
    Offstage m (m.sweepDeferredCleanups order) := by
  unfold AmxCurlController.sweepDeferredCleanups
  induction order generalizing m with
  | nil => exact .refl m
  | cons h order ih =>
      have hone : Offstage m (m.sweepOne h) := by
        unfold AmxCurlController.sweepOne
        split
        · exact .refl m
        · split
          · exact destroyed rfl rfl
          · exact .refl m
      exact hone.trans ih

theorem performAdded {p : PerformId} {ok : Bool} : Offstage m (m.performAdded o p ok) := by
  unfold AmxCurlController.performAdded
  dsimp only
  split <;> exact ⟨rfl, rfl⟩

theorem dataCallbackReturn {c : CallbackOption} {expected result : Int} :
    Offstage m (m.dataCallbackReturn o c expected result) := by
  unfold AmxCurlController.dataCallbackReturn
  dsimp only
  split <;> exact ⟨rfl, rfl⟩

theorem removeTransfer {h : AmxCurlHandle} : Offstage m (m.removeTransfer h) := by
  unfold AmxCurlController.removeTransfer
  split
  · exact .refl m
  · split
    · exact ⟨rfl, rfl⟩
    · exact .refl m

theorem dropEntry {h : AmxCurlHandle} : Offstage m (m.dropEntry h) := by
  unfold AmxCurlController.dropEntry
  split
  · exact .refl m
  · exact destroyed rfl rfl

theorem shutdown : Offstage m m.shutdown := by
  unfold AmxCurlController.shutdown
  split
  · exact ⟨rfl, rfl⟩
  · exact .refl m

theorem teardown {order : List AmxCurlHandle} (hn : m.TearsDown order m') : Offstage m m' := by
  cases hn with
  | visit actor h todo hph => exact ⟨removeTransfer.stack, removeTransfer.performs⟩
  | drop actor h todo hph => exact ⟨dropEntry.stack, dropEntry.performs⟩
  | shutdown hph => exact ⟨shutdown.stack, shutdown.performs⟩
  | shutdownLast actor hph ha => exact ⟨shutdown.stack, shutdown.performs⟩
  | _ => exact ⟨rfl, rfl⟩

end Offstage

/-- An asio handler. -/
def Frame.isHandler : Frame → Bool
  | .socketAction => true
  | .checkMultiInfo => true
  | _ => false

/-- A call may be left on the stack, but none of an asio handler. -/
def Grows (s s' : List Frame) : Prop := s' = s ∨ ∃ f, f.isHandler = false ∧ s' = f :: s

/-- A data callback leaves a frame where it runs Pawn code. -/
theorem callback_grows {k : Callback} :
    Grows m.stack (m.callback o k).stack ∧ (m.callback o k).performs = m.performs := by
  have hexec : ∀ {m₁ : AmxCurlController} {c f e}, Grows m₁.stack (m₁.executeForward o c f e).stack ∧
      (m₁.executeForward o c f e).performs = m₁.performs := by
    intro m₁ c f e
    unfold executeForward
    dsimp only
    split
    · exact ⟨Or.inr ⟨_, rfl, rfl⟩, rfl⟩
    · exact ⟨Or.inl rfl, rfl⟩
  have hvalid := Offstage.isAmxValid (m := m) (o := o)
  have hdata : ∀ {c u i}, Grows m.stack (m.dataCallback o c u i).stack ∧
      (m.dataCallback o c u i).performs = m.performs := by
    intro c u i
    unfold dataCallback
    split
    · exact ⟨Or.inl rfl, rfl⟩
    · split
      · exact ⟨Or.inl rfl, rfl⟩
      · split
        · rename_i m₁ he
          rw [he] at hvalid
          exact ⟨Or.inl hvalid.stack, hvalid.performs⟩
        · rename_i m₁ he
          rw [he] at hvalid
          rw [← hvalid.stack, ← hvalid.performs]
          exact hexec
  cases k with
  | write chunk =>
      show Grows m.stack (m.writeCallback o chunk).stack ∧
        (m.writeCallback o chunk).performs = m.performs
      unfold writeCallback
      split
      · exact ⟨Or.inl rfl, rfl⟩
      · split
        · unfold captureBody
          split
          · split <;> exact ⟨Or.inl rfl, rfl⟩
          · exact ⟨Or.inl rfl, rfl⟩
        · split
          · rename_i m₁ he
            rw [he] at hvalid
            exact ⟨Or.inl hvalid.stack, hvalid.performs⟩
          · rename_i m₁ he
            rw [he] at hvalid
            rw [← hvalid.stack, ← hvalid.performs]
            exact hexec
  | _ => exact hdata

theorem performRemoved_grows {p : PerformId} {f : ForwardId} :
    Grows m.stack (m.performRemoved o p f).stack ∧
      (m.performRemoved o p f).performs = m.performs := by
  have hsettled : Offstage m (m.settled o p) := ⟨rfl, rfl⟩
  rcases m.performRemoved_cases o p f with ⟨-, heq⟩ | ⟨-, -, heq⟩ | ⟨q, -, -, heq⟩ <;> rw [heq]
  · have hdeleted : Offstage m ((m.settled o p).deleteData (m.obj o).amxCallbackData) :=
      hsettled.trans .emit
    exact ⟨Or.inl hdeleted.stack, hdeleted.performs⟩
  · have hdeleted : Offstage m ((((m.settled o p).mf .findScriptByAmx).mf
        .printSrvConsole).deleteData (m.obj o).amxCallbackData) :=
      ((hsettled.trans .emit).trans .emit).trans .emit
    exact ⟨Or.inl hdeleted.stack, hdeleted.performs⟩
  · exact ⟨Or.inr ⟨_, rfl, rfl⟩, (Offstage.asked (o := o) (p := p) (q := q) (f := f)).performs⟩

theorem checkMultiInfo_grows :
    Grows m.stack m.checkMultiInfo.stack ∧ m.checkMultiInfo.performs = m.performs := by
  unfold checkMultiInfo
  split
  · exact ⟨Or.inl rfl, rfl⟩
  · dsimp only
    split
    · exact ⟨Or.inl rfl, rfl⟩
    · exact ⟨Or.inr ⟨_, rfl, rfl⟩, rfl⟩

/-- What `curl_easy_perform` is called with. -/
def performArgs (m : AmxCurlController) (h : AmxCurlHandle) (fun_ dataLen : Int) : PerformArgs :=
  ⟨fun_, h, if dataLen > 0 then some m.nextData else none, dataLen⟩

/-- A perform is recorded with what it was given, and waits for `curl_multi_add_handle`. -/
theorem amxCurlEasyPerform_grows (m : AmxCurlController) (h : AmxCurlHandle) (found : Bool)
    (fun_ dataLen : Int) :
    Grows m.stack (m.amxCurlEasyPerform h found fun_ dataLen).stack ∧
      ((m.amxCurlEasyPerform h found fun_ dataLen).performs = m.performs ∨
        found = true ∧ (m.amxCurlEasyPerform h found fun_ dataLen).performs
          = m.performs.alloc (m.performArgs h fun_ dataLen)) := by
  have htask : ∀ (m₁ : AmxCurlController) {data : Option DataId},
      Grows m₁.stack (m₁.curlPerformTask h found fun_ data dataLen).stack ∧
      ((m₁.curlPerformTask h found fun_ data dataLen).performs = m₁.performs ∨
        found = true ∧ (m₁.curlPerformTask h found fun_ data dataLen).performs
          = m₁.performs.alloc ⟨fun_, h, data, dataLen⟩) := by
    intro m₁ data
    unfold curlPerformTask
    split
    · exact ⟨Or.inl rfl, Or.inl rfl⟩
    · split
      · exact ⟨Or.inl rfl, Or.inl rfl⟩
      · unfold perform
        dsimp only
        split
        · exact ⟨Or.inl rfl, Or.inl rfl⟩
        · rename_i hfound
          exact ⟨Or.inr ⟨_, rfl, rfl⟩, Or.inr ⟨by simpa using hfound, rfl⟩⟩
  unfold amxCurlEasyPerform performArgs
  split
  · exact htask { m with nextData := m.nextData + 1 }
  · exact htask m

/-- The stack after a step. -/
inductive StackStep (s s' : List Frame) : Prop
  | call (h : Grows s s')
  | return_ (f : Frame) (rest : List Frame) (hs : s = f :: rest) (h : Grows rest s')
  | handler (hs : s = []) (h : s' = [.socketAction])
  | handled (rest : List Frame) (hs : s = .socketAction :: rest) (h : s' = .checkMultiInfo :: rest)

/-- What a step does to the stack, and that only `curl_easy_perform` records a perform. -/
theorem next_stack {a : Action} (hn : m.next a = some m') :
    StackStep m.stack m'.stack ∧ (m'.performs = m.performs ∨
      ∃ h fun_ dataLen, a = .easyPerform h true fun_ dataLen ∧
        m'.performs = m.performs.alloc (m.performArgs h fun_ dataLen)) := by
  have hoff : ∀ {m₁ : AmxCurlController}, Offstage m m₁ → StackStep m.stack m₁.stack ∧
      (m₁.performs = m.performs ∨ ∃ h fun_ dataLen, a = .easyPerform h true fun_ dataLen ∧
        m₁.performs = m.performs.alloc (m.performArgs h fun_ dataLen)) :=
    fun h => ⟨.call (Or.inl h.stack), Or.inl h.performs⟩
  cases next_fires hn with
  | easyInit a q reply hq hp hfree => exact hoff .createCurl
  | setCallback h c reply codes hp hfree => exact hoff .curlSetupAmxCallback
  | setOption h d hp => exact hoff .curlSetOption
  | easyPerform h found fun_ dataLen hp =>
      obtain ⟨hgrow, hperf⟩ := m.amxCurlEasyPerform_grows h found fun_ dataLen
      refine ⟨.call hgrow, hperf.imp_right ?_⟩
      rintro ⟨rfl, heq⟩
      exact ⟨h, fun_, dataLen, rfl, heq⟩
  | easyCleanup h hp => exact hoff .removeTask
  | easyReset h hp => exact hoff .curlReset
  | addReturn ok o p rest hs hok =>
      have hadd : Offstage { m with stack := rest } ({ m with stack := rest }.performAdded o p ok) :=
        .performAdded
      exact ⟨.return_ _ rest hs (Or.inl hadd.stack), Or.inl hadd.performs⟩
  | removeReturn f o p res rest hs hf =>
      obtain ⟨hgrow, hperf⟩ :=
        performRemoved_grows (m := { m with stack := rest }) (o := o) (p := p) (f := f)
      exact ⟨.return_ _ rest hs hgrow, Or.inl hperf⟩
  | callback o k hl he =>
      obtain ⟨hgrow, hperf⟩ := callback_grows (m := m) (o := o) (k := k)
      exact ⟨.call hgrow, Or.inl hperf⟩
  | socketActionReturn rest hs => exact ⟨.handled rest hs rfl, Or.inl rfl⟩
  | readMessage rest hs hm =>
      obtain ⟨hgrow, hperf⟩ := checkMultiInfo_grows (m := m)
      exact ⟨.call hgrow, Or.inl hperf⟩
  | checkMultiInfoReturn rest hs hm => exact ⟨.return_ _ rest hs (Or.inl rfl), Or.inl rfl⟩
  | completionReturn result a q f data rest hs =>
      exact ⟨.return_ _ rest hs (Or.inl rfl), Or.inl rfl⟩
  | dataCallbackReturn result o c q expected rest hs =>
      have hret : Offstage { m with stack := rest }
          ({ m with stack := rest }.dataCallbackReturn o c expected result) := .dataCallbackReturn
      exact ⟨.return_ _ rest hs (Or.inl hret.stack), Or.inl hret.performs⟩
  | poll hs hm hph => exact ⟨.handler hs rfl, Or.inl rfl⟩
  | sweep order hs hph ho => exact hoff .sweepDeferredCleanups
  | drained timedOut order hs hph hc ho => refine hoff ⟨?_, ?_⟩ <;> dsimp only <;> split <;> rfl
  | teardown order m' hs hn => exact hoff (.teardown hn)
  | _ => exact hoff ⟨rfl, rfl⟩

/-- An asio handler is at the bottom of the stack or not on it. -/
def HandlerLast (s : List Frame) : Prop := ∀ f ∈ s.dropLast, f.isHandler = false

namespace HandlerLast

variable {s s' : List Frame} {f : Frame}

theorem tail (h : HandlerLast (f :: s)) : HandlerLast s := by
  intro g hg
  have hne : s ≠ [] := by
    rintro rfl
    simp at hg
  refine h g ?_
  rw [List.dropLast_cons_of_ne_nil hne]
  exact List.mem_cons_of_mem _ hg

theorem grows (h : HandlerLast s) (hs : Grows s s') : HandlerLast s' := by
  rcases hs with rfl | ⟨f, hf, rfl⟩
  · exact h
  · intro g hg
    by_cases hne : s = []
    · simp [hne] at hg
    · rw [List.dropLast_cons_of_ne_nil hne] at hg
      rcases List.mem_cons.mp hg with rfl | hg
      · exact hf
      · exact h g hg

/-- Nothing is below an asio handler. -/
theorem bottom (h : HandlerLast (f :: s)) (hf : f.isHandler = true) : s = [] := by
  by_contra hne
  have hfalse := h f (by rw [List.dropLast_cons_of_ne_nil hne]; exact List.mem_cons_self ..)
  rw [hf] at hfalse
  simp at hfalse

theorem step (h : HandlerLast s) (hs : StackStep s s') : HandlerLast s' := by
  cases hs with
  | call hgrow => exact h.grows hgrow
  | return_ f rest heq hgrow =>
      subst heq
      exact h.tail.grows hgrow
  | handler _ heq =>
      subst heq
      simp [HandlerLast]
  | handled rest heq heq' =>
      subst heq heq'
      obtain rfl := h.bottom rfl
      simp [HandlerLast]

end HandlerLast

end AmxCurlController

end AmxxCurl
