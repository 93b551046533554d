/-
The timeout libcurl has asked for, seen from both layers.

The request lives in the socket layer, the handles it is for in the controller.  Nothing
in the code says what the two have to do with each other: `AsioSocketActionCallback`
decides on `running_handles_`, which `curl_multi_socket_action` has stored, and a
completion that `CheckMultiInfo` runs after that may have attached a new handle and made
libcurl ask for a timeout.  So the timer is cancelled under a transfer that waits for it.
-/
import AmxxCurl.World
import AmxxCurl.Multi.Timer

namespace AmxxCurl

namespace AmxCurlController

variable {m m' : AmxCurlController} {a : Action} {o : ObjId} {h : AmxCurlHandle}

/-! ### What is attached -/

/-- What libcurl has was there before. -/
def Detaches (m m' : AmxCurlController) : Prop :=
  ∀ e p, m'.attached.lookup e = some p → m.attached.lookup e = some p

namespace Detaches

variable {m'' : AmxCurlController}

theorem of_eq (h : m'.attached = m.attached) : Detaches m m' := by
  intro e p he
  rwa [h] at he

theorem trans (h : Detaches m m') (h' : Detaches m' m'') : Detaches m m'' :=
  fun e p he => h e p (h' e p he)

theorem keeps (h : Keeps m m') : Detaches m m' := of_eq (congrArg Transfers.attached h)

theorem refl (m : AmxCurlController) : Detaches m m := fun _ _ he => he

theorem emit {es : List Event} (h : Detaches m m') : Detaches m (m'.emit es) := h

theorem setObj {f : AmxCurl → AmxCurl} (h : Detaches m m') : Detaches m (m'.setObj o f) := h

theorem deleteData {d : Option DataId} (h : Detaches m m') : Detaches m (m'.deleteData d) :=
  h.trans (keeps .deleteData)

theorem addCurl {args : PerformArgs} (h : Detaches m m') : Detaches m (m'.addCurl o args) := by
  have hsame : (m'.addCurl o args).attached = m'.attached :=
    congrArg Transfers.attached (@addCurl_transfers m' o args)
  exact h.trans (of_eq hsame)

theorem resetAmxCallbacks (h : Detaches m m') : Detaches m (m'.resetAmxCallbacks o) :=
  h.trans (keeps .resetAmxCallbacks)

theorem destroyAmxCurl : Detaches m (m.destroyAmxCurl o) :=
  of_eq (congrArg Transfers.attached destroyAmxCurl_transfers)

theorem removeHandle : Detaches m (m.removeHandle o) := by
  intro e p he
  exact (Table.lookup_erase_eq_some.mp he).2

theorem createCurl {a : AmxPtr} {q : PluginId} {reply : Option CurlPtr} :
    Detaches m (m.createCurl a q reply) := by
  cases reply with
  | none => rcases m.createCurl_lost a q with heq | ⟨-, heq⟩ <;> rw [heq] <;> exact of_eq rfl
  | some e =>
      unfold AmxCurlController.createCurl
      dsimp only
      split
      · exact trans (of_eq rfl) destroyAmxCurl
      · exact of_eq rfl

theorem removeTask : Detaches m (m.removeTask h) := by
  unfold AmxCurlController.removeTask
  split
  · exact of_eq rfl
  · split
    · exact of_eq rfl
    · exact trans (of_eq rfl) destroyAmxCurl

theorem curlReset : Detaches m (m.curlReset h) := by
  unfold AmxCurlController.curlReset
  split
  · exact of_eq rfl
  · split
    · exact of_eq rfl
    · exact (refl m).resetAmxCallbacks.emit

theorem sweepDeferredCleanups {order : List AmxCurlHandle} :
    Detaches m (m.sweepDeferredCleanups order) := by
  unfold AmxCurlController.sweepDeferredCleanups
  induction order generalizing m with
  | nil => exact of_eq rfl
  | cons h order ih =>
      have hone : Detaches m (m.sweepOne h) := by
        unfold AmxCurlController.sweepOne
        split
        · exact of_eq rfl
        · split
          · exact trans (of_eq rfl) destroyAmxCurl
          · exact of_eq rfl
      exact hone.trans ih

theorem perform {found : Bool} {fun_ : Int} {data : Option DataId} {dataLen : Int} :
    Detaches m (m.perform o h found fun_ data dataLen) := by
  unfold AmxCurlController.perform
  dsimp only
  split
  · exact emit (deleteData (setObj (emit (refl m))))
  · exact addCurl (setObj (deleteData (setObj (emit (refl m)))))

theorem amxCurlEasyPerform {found : Bool} {fun_ dataLen : Int} :
    Detaches m (m.amxCurlEasyPerform h found fun_ dataLen) := by
  have htask : ∀ {m₁ : AmxCurlController} {data : Option DataId}, Detaches m m₁ →
      Detaches m (m₁.curlPerformTask h found fun_ data dataLen) := by
    intro m₁ data hm₁
    refine hm₁.trans ?_
    unfold curlPerformTask
    split
    · exact emit (deleteData (refl m₁))
    · split
      · exact deleteData (emit (refl m₁))
      · exact perform
  unfold AmxCurlController.amxCurlEasyPerform
  split <;> exact htask (of_eq rfl)

theorem performRemoved {p : PerformId} {f : ForwardId} : Detaches m (m.performRemoved o p f) := by
  have hsettled : Detaches m (m.settled o p) := removeHandle.trans (of_eq rfl)
  rcases m.performRemoved_cases o p f with ⟨-, he⟩ | ⟨-, -, he⟩ | ⟨q, -, -, he⟩
  · rw [he]
    exact hsettled.deleteData
  · rw [he]
    exact hsettled.emit.emit.deleteData
  · rw [he]
    exact hsettled.trans (of_eq rfl)

theorem checkMultiInfo : Detaches m m.checkMultiInfo := by
  unfold AmxCurlController.checkMultiInfo
  dsimp only
  repeat' split
  all_goals exact of_eq rfl

theorem teardown {order : List AmxCurlHandle} (hn : m.TearsDown order m') : Detaches m m' := by
  cases hn with
  | visit actor h todo hph =>
      have hvisit : Detaches m (m.removeTransfer h) := by
        unfold removeTransfer
        split
        · exact of_eq rfl
        · split
          · exact trans (of_eq rfl) removeHandle
          · exact of_eq rfl
      exact hvisit.trans (of_eq rfl)
  | drop actor h todo hph =>
      have hdrop : Detaches m (m.dropEntry h) := by
        unfold dropEntry
        split
        · exact of_eq rfl
        · exact trans (of_eq rfl) destroyAmxCurl
      exact hdrop.trans (of_eq rfl)
  | shutdown hph | shutdownLast actor hph ha =>
      unfold AmxCurlController.shutdown
      split <;> exact of_eq rfl
  | clear | cleared | clearedByGuard | destructed | globalCleanup | destruct | guard =>
      exact of_eq rfl

end Detaches

/-- What `curl_multi_add_handle` accepts is attached, and to a multi that is alive. -/
theorem addReturn_attached (hn : m.next (.addReturn true) = some m') :
    m'.curlMulti = true ∧ ∃ e p, m'.attached.lookup e = some p := by
  cases next_fires hn with
  | addReturn ok o p rest hs hok =>
      refine ⟨?_, (m.obj o).curl, p, ?_⟩
      · unfold performAdded
        exact (hok rfl).1
      · unfold performAdded
        exact Finmap.lookup_insert _

/-- **Nothing else is ever attached.** -/
theorem next_attached (hn : m.next a = some m') : a = .addReturn true ∨ Detaches m m' := by
  cases next_fires hn with
  | addReturn ok o p rest hs hok =>
      cases ok with
      | true => exact Or.inl rfl
      | false =>
          right
          unfold performAdded
          dsimp only
          rw [if_neg Bool.false_ne_true]
          have hstack : Detaches m { m with stack := rest } := .of_eq rfl
          exact Detaches.setObj (Detaches.deleteData hstack)
  | easyInit a q reply hq hp hfree => exact Or.inr .createCurl
  | setCallback h c reply codes hp hfree => exact Or.inr (.keeps .curlSetupAmxCallback)
  | setOption h d hp => exact Or.inr (.keeps .curlSetOption)
  | easyPerform h found fun_ dataLen hp => exact Or.inr .amxCurlEasyPerform
  | easyCleanup h hp => exact Or.inr .removeTask
  | easyReset h hp => exact Or.inr .curlReset
  | sweep order hs hph ho => exact Or.inr .sweepDeferredCleanups
  | removeReturn f o p res rest hs hf => exact Or.inr (.trans (.of_eq rfl) .performRemoved)
  | callback o k hl he => exact Or.inr (.keeps .callback)
  | readMessage rest hs hm => exact Or.inr .checkMultiInfo
  | completionReturn result a q f data rest hs =>
      have hstack : Detaches m { m with stack := rest } := .of_eq rfl
      exact Or.inr (hstack.trans (.keeps .completionReturn))
  | dataCallbackReturn result o c q expected rest hs =>
      have hstack : Detaches m { m with stack := rest } := .of_eq rfl
      exact Or.inr (hstack.trans (.keeps .dataCallbackReturn))
  | drained timedOut order hs hph hc ho =>
      right
      split <;> exact .of_eq rfl
  | teardown order m' hs hn => exact Or.inr (.teardown hn)
  | load | unload | postDone | socketActionReturn | checkMultiInfoReturn | poll | onAmxxDetach
  | exit => exact Or.inr (.of_eq rfl)

end AmxCurlController

/-! ### The request in the world -/

/-- The world, and the request libcurl has made last and not been served. -/
structure Asked where
  world : World
  request : Option CurlMulti.Request

namespace Asked

def boot : Asked := ⟨.boot, none⟩

/-- What libcurl asks for and is served with, it is in the socket layer. -/
def requestAfter (s : Asked) (a : World.Action) (w : World) : Option CurlMulti.Request :=
  match a with
  | .sockets a => CurlMulti.requestAfter s.request s.world.sockets a w.sockets
  | .controller _ => s.request

def next (s : Asked) (a : World.Action) : Option Asked :=
  (s.world.next a).map fun w => ⟨w, s.requestAfter a w⟩

def machine : Machine Asked World.Action := ⟨boot, next⟩

/-- An easy handle is attached. -/
def Attached (s : Asked) : Prop := s.world.controller.attached.keys.Nonempty

instance (s : Asked) : Decidable s.Attached := inferInstanceAs (Decidable (Finset.Nonempty _))

/-- With the multi alive and a handle attached, something stands for the request. -/
def TimeoutKept (s : Asked) : Prop :=
  s.world.sockets.curlMulti = true → s.Attached → s.world.sockets.Kept s.request

/-- No handler and no native is on the stack. -/
def AtRest (s : Asked) : Prop :=
  s.world.sockets.handler = none ∧ s.world.controller.stack = []

instance (s : Asked) : Decidable s.AtRest := inferInstanceAs (Decidable (_ ∧ _))

/--
Where the timer is cancelled for lack of running handles, none is attached or the request
does not rest on the wait; and one is attached only if nothing has been cancelled before.
-/
def KeepsTimer (s : Asked) : World.Action → Prop
  | .sockets (.checkMultiInfoReturn _) =>
      s.world.sockets.curlMulti = true → s.Attached → s.world.sockets.Cancels →
        s.world.sockets.OutOfReach s.request
  | .controller (.addReturn true) =>
      s.world.sockets.curlMulti = true → ¬s.Attached → s.world.sockets.Kept s.request
  | _ => True

instance (s : Asked) (a : World.Action) : Decidable (s.KeepsTimer a) := by
  unfold KeepsTimer
  split <;> infer_instance

variable {s s' : Asked} {tr : List World.Action}

theorem attached_of_lookup {e : CurlPtr} {p : PerformId}
    (h : s.world.controller.attached.lookup e = some p) : s.Attached :=
  ⟨e, Finmap.mem_keys.mpr (Finmap.mem_iff.mpr ⟨p, h⟩)⟩

theorem Attached.detaches (h : s'.Attached)
    (hd : s.world.controller.Detaches s'.world.controller) : s.Attached := by
  obtain ⟨e, he⟩ := h
  obtain ⟨p, hp⟩ := Finmap.mem_iff.mp (Finmap.mem_keys.mp he)
  exact attached_of_lookup (hd e p hp)

/-- The multi is alive where it is for both, and the timer is none of the controller's. -/
theorem follow_timer (m : CurlMulti) (c : AmxCurlController) :
    (World.follow m c).timer = m.timer ∧ (World.follow m c).posted = m.posted ∧
      ((World.follow m c).curlMulti = true ↔ c.curlMulti = true ∧ m.curlMulti = true) := by
  unfold World.follow CurlMulti.shutdown
  dsimp only
  by_cases hc : c.curlMulti = true
  · rw [if_pos hc]
    exact ⟨rfl, rfl, fun h => ⟨hc, h⟩, fun h => h.2⟩
  · rw [if_neg hc]
    refine ⟨?_, ?_, ?_⟩
    · split <;> rfl
    · split <;> rfl
    · split
      · simp [hc]
      · rename_i hm
        simp [hc, hm]

/-- A step of the socket layer, of the layer alone. -/
theorem next_sockets {a : CurlMulti.Action} (hn : s.next (.sockets a) = some s') :
    s.world.sockets.next a = some s'.world.sockets ∧
      s'.world.controller = s.world.controller ∧
      s'.request = CurlMulti.requestAfter s.request s.world.sockets a s'.world.sockets := by
  obtain ⟨w, hw, rfl⟩ := Option.map_eq_some_iff.mp hn
  simp only [World.next] at hw
  split at hw
  · simp at hw
  · obtain ⟨m, hm, rfl⟩ := Option.map_eq_some_iff.mp hw
    exact ⟨hm, rfl, rfl⟩

/-- A step of the controller, which the socket layer follows. -/
theorem next_controller {a : AmxCurlController.Action} (hn : s.next (.controller a) = some s') :
    s.world.controller.next a = some s'.world.controller ∧
      s'.world.sockets = World.follow s.world.sockets s'.world.controller ∧
      s'.request = s.request := by
  obtain ⟨w, hw, rfl⟩ := Option.map_eq_some_iff.mp hn
  obtain ⟨c, hc, rfl⟩ := Option.map_eq_some_iff.mp hw
  exact ⟨hc, rfl, rfl⟩

theorem follow_kept (m : CurlMulti) (c : AmxCurlController) (r : Option CurlMulti.Request) :
    (World.follow m c).Kept r ↔ m.Kept r := by
  obtain ⟨htimer, hposted, -⟩ := follow_timer m c
  unfold CurlMulti.Kept CurlMulti.Waiting CurlMulti.Expired
  rw [htimer, hposted]

/-- **What stands for the request stays as long as the timer is kept.** -/
theorem TimeoutKept.step {a : World.Action} (h : s.TimeoutKept) (hkeeps : s.KeepsTimer a)
    (hn : s.next a = some s') : s'.TimeoutKept := by
  intro hlive hattached
  cases a with
  | sockets a =>
      obtain ⟨hm, hsame, hrequest⟩ := next_sockets hn
      have halive := CurlMulti.next_alive hm hlive
      have hbefore : s.Attached := by
        unfold Attached at hattached ⊢
        rwa [hsame] at hattached
      rw [hrequest]
      refine (h halive hbefore).step halive hm fun oom ha hcancels => ?_
      subst ha
      exact hkeeps halive hbefore hcancels
  | controller a =>
      obtain ⟨hc, hfollow, hrequest⟩ := next_controller hn
      rw [hfollow] at hlive ⊢
      obtain ⟨-, halive⟩ := (follow_timer _ _).2.2.mp hlive
      rw [hrequest, follow_kept]
      by_cases hbefore : s.Attached
      · exact h halive hbefore
      -- the first handle to be attached
      · rcases AmxCurlController.next_attached hc with rfl | hdetaches
        · exact hkeeps halive hbefore
        · exact absurd (hattached.detaches hdetaches) hbefore

/-- A step that does not keep the timer loses the request. -/
theorem KeepsTimer.of_kept {a : World.Action} (hn : s.next a = some s') (h : s'.TimeoutKept) :
    s.KeepsTimer a := by
  unfold KeepsTimer
  split
  · rename_i oom
    obtain ⟨hm, hsame, hrequest⟩ := next_sockets hn
    intro halive hattached hcancels
    rw [CurlMulti.requestAfter_checkMultiInfoReturn hm] at hrequest
    have hemits := CurlMulti.next_emits hm (by simp) (by simp) (by simp)
    have hkept : s'.world.sockets.Kept s'.request := by
      refine h (hemits.curlMulti.trans halive) ?_
      unfold Attached
      rwa [hsame]
    obtain ⟨htimer, hposted⟩ := CurlMulti.checkMultiInfoReturn_timer hm
    rw [if_pos hcancels] at htimer
    rw [hrequest] at hkept
    exact hkept.outOfReach htimer hposted
  · obtain ⟨hc, hfollow, hrequest⟩ := next_controller hn
    intro halive hbefore
    obtain ⟨hmulti, e, p, hp⟩ := AmxCurlController.addReturn_attached hc
    rw [← hrequest, ← follow_kept _ s'.world.controller, ← hfollow]
    refine h ?_ (attached_of_lookup hp)
    rw [hfollow]
    exact (follow_timer _ _).2.2.mpr ⟨hmulti, halive⟩
  · trivial

/--
**The requested timeout is kept all along a run iff the timer is**: a cancel for lack of
running handles is what loses it, and only where a completion has made libcurl ask since.
-/
theorem timeout_kept_iff (h : machine.Run Machine.Free tr s) :
    (∀ t₁ t₂ s₁, tr = t₁ ++ t₂ → machine.Run Machine.Free t₁ s₁ → s₁.TimeoutKept) ↔
      machine.Run KeepsTimer tr s := by
  refine Machine.Run.always_iff (fun hr => ?_) (fun _ _ hn => KeepsTimer.of_kept hn) h
  exact hr.invariant (P := TimeoutKept) (fun _ _ => CurlMulti.kept_none)
    fun _ _ _ hkept hkeeps hn => hkept.step hkeeps hn

/-- A transfer is started, and the timeout libcurl asks for with it is served. -/
def started : List World.Action :=
  [.controller (.load 7), .controller (.easyInit 7 (some 100)), .controller (.easyInit 7 (some 101)),
    .controller (.easyPerform 1 true 3 0), .sockets (.timerCallback 0),
    .controller (.addReturn true), .controller .poll, .sockets .runPosted,
    .sockets (.openSocketCallback .ipcxn .inet (some 5)),
    .sockets (.socketCallback 5 CURL_POLL_IN .none none),
    .sockets (.socketActionReturn 1), .controller .socketActionReturn,
    .controller .checkMultiInfoReturn, .sockets (.checkMultiInfoReturn none)]

def inFlight : Asked := (machine.exec KeepsTimer boot started).get (by decide)

theorem timeout_kept_iff_started : inFlight.TimeoutKept := by
  have hrun : machine.Run KeepsTimer started inFlight := Machine.run_of_exec (Option.some_get _).symm
  exact (timeout_kept_iff hrun.free).mpr hrun started [] inFlight (by simp) hrun.free

/--
The transfer ends.  Its completion starts another one, and libcurl asks for a timeout of
50 ms; then the handler that has found no transfer running cancels the timer.
-/
def chained : List World.Action :=
  started ++ [.sockets (.complete 0 .ok), .controller .poll, .sockets (.dispatch 0),
    .controller (.postDone 100 0), .sockets (.socketActionReturn 0),
    .controller .socketActionReturn, .controller .readMessage, .controller (.removeReturn 20),
    .controller (.easyPerform 2 true 3 0), .sockets (.timerCallback 50),
    .controller (.addReturn true), .controller (.pawnReturn 0),
    .controller .checkMultiInfoReturn, .sockets (.checkMultiInfoReturn none)]

def stalled : Asked := (machine.exec Machine.Free boot chained).get (by decide)

theorem timeout_lost : (∃ tr, machine.Run Machine.Free tr stalled) ∧ stalled.AtRest ∧
    stalled.world.sockets.curlMulti = true ∧ stalled.Attached ∧ stalled.request = some ⟨50, 0⟩ ∧
    ¬stalled.world.sockets.Waiting ⟨50, 0⟩ ∧ stalled.world.sockets.posted = 0 := by
  have hrun : machine.Run Machine.Free chained stalled :=
    Machine.run_of_exec (Option.some_get _).symm
  exact ⟨⟨chained, hrun⟩, by decide, by decide, by decide, by decide, by decide, by decide⟩

end Asked

end AmxxCurl
