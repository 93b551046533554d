/-
Who calls whom while libcurl and Pawn code call each other back.

libcurl forbids its multi functions from inside its callbacks, and the module runs Pawn
code there.  What keeps the two apart is the shape of the stack: a completion is only ever
called by the loop of `CheckMultiInfo`, which is the last thing an asio handler does, so it
is outside libcurl; a data callback is inside it, and the only multi function Pawn code can
reach from there is `curl_multi_add_handle`.

`Nested` says which frame may be directly above which.  The rest is read off the shape, the
depth of the recursion included: a handle is on the stack once, so there is an end to it.
-/
import AmxxCurl.Amx.Refinement

namespace AmxxCurl

namespace AmxCurlController

variable {m m' : AmxCurlController} {o : ObjId} {h : AmxCurlHandle}

/-- Where a frame may be called from; `none` is the server. -/
def Frame.CalledFrom : Frame → Option Frame → Prop
  | .socketAction, below => below = none
  | .checkMultiInfo, below => below = none
  | .removing _ _ _, below => below = some .checkMultiInfo
  | .completion _ _ _ _, below => below = some .checkMultiInfo
  | .adding _ _, below => ∀ f ∈ below, f.plugin.isSome = true
  | .dataCallback _ _ _ _, below => ∃ f ∈ below, f.plugin = none ∧ f ≠ .checkMultiInfo

/-- Every frame was called from the one below it. -/
def Nested : List Frame → Prop
  | [] => True
  | f :: rest => f.CalledFrom rest.head? ∧ Nested rest

namespace Nested

variable {s s' pre rest : List Frame} {f : Frame}

theorem tail (hs : Nested (f :: rest)) : Nested rest := hs.2

/-- What is below a frame is nested as well. -/
theorem below (hs : Nested (pre ++ rest)) : Nested rest := by
  induction pre with
  | nil => exact hs
  | cons g pre ih => exact ih hs.2

/-- Nothing is called from an asio handler's caller but the handler. -/
theorem alone (hs : Nested (f :: rest)) (hf : f.isHandler = true) : rest = [] := by
  have hbelow : rest.head? = none := by
    cases f with
    | socketAction => exact hs.1
    | checkMultiInfo => exact hs.1
    | _ => exact absurd hf (by simp [Frame.isHandler])
  exact List.head?_eq_none_iff.mp hbelow

/-- What is called from the loop of `CheckMultiInfo` has only that below it. -/
theorem fromLoop (hs : Nested (f :: rest)) (hf : rest.head? = some .checkMultiInfo) :
    rest = [.checkMultiInfo] := by
  obtain ⟨tail, rfl⟩ : ∃ tail, rest = .checkMultiInfo :: tail := by
    cases rest with
    | nil => simp at hf
    | cons g tail => exact ⟨tail, by rw [Option.some.inj hf]⟩
  rw [hs.tail.alone rfl]

end Nested

/-! ### Every step keeps the shape -/

/-- A data callback leaves itself on the stack, if anything. -/
theorem callback_called {k : Callback} : (m.callback o k).stack = m.stack ∨
    ∃ c q n, (m.callback o k).stack = .dataCallback o c q n :: m.stack := by
  have hexec : ∀ {m₁ : AmxCurlController} {c f n}, m₁.stack = m.stack →
      (m₁.executeForward o c f n).stack = m.stack ∨
        ∃ c' q n', (m₁.executeForward o c f n).stack = .dataCallback o c' q n' :: m.stack := by
    intro m₁ c f n hs
    unfold executeForward
    dsimp only
    split
    · exact Or.inr ⟨_, _, _, congrArg _ hs⟩
    · exact Or.inl hs
  have hvalid := Offstage.isAmxValid (m := m) (o := o)
  have hdata : ∀ {c u i}, (m.dataCallback o c u i).stack = m.stack ∨
      ∃ c' q n, (m.dataCallback o c u i).stack = .dataCallback o c' q n :: m.stack := by
    intro c u i
    unfold dataCallback
    split
    · exact Or.inl rfl
    · split
      · exact Or.inl rfl
      · split
        · rename_i m₁ he
          rw [he] at hvalid
          exact Or.inl hvalid.stack
        · rename_i m₁ he
          rw [he] at hvalid
          exact hexec hvalid.stack
  cases k with
  | write chunk =>
      show (m.writeCallback o chunk).stack = m.stack ∨
        ∃ c q n, (m.writeCallback o chunk).stack = .dataCallback o c q n :: m.stack
      unfold writeCallback
      split
      · exact Or.inl rfl
      · split
        · unfold captureBody
          split
          · split <;> exact Or.inl rfl
          · exact Or.inl rfl
        · split
          · rename_i m₁ he
            rw [he] at hvalid
            exact Or.inl hvalid.stack
          · rename_i m₁ he
            rw [he] at hvalid
            exact hexec hvalid.stack
  | _ => exact hdata

/-- `curl_easy_perform` of an idle handle goes into `curl_multi_add_handle`, or it returns. -/
theorem amxCurlEasyPerform_called (m : AmxCurlController) (h : AmxCurlHandle) (found : Bool)
    (fun_ dataLen : Int) : (m.amxCurlEasyPerform h found fun_ dataLen).stack = m.stack ∨
      ∃ o p, (m.obj o).isTransferInProgress = false ∧
        (m.amxCurlEasyPerform h found fun_ dataLen).stack = .adding o p :: m.stack := by
  have htask : ∀ (m₁ : AmxCurlController) {data : Option DataId},
      (m₁.curlPerformTask h found fun_ data dataLen).stack = m₁.stack ∨
        ∃ o p, (m₁.obj o).isTransferInProgress = false ∧
          (m₁.curlPerformTask h found fun_ data dataLen).stack = .adding o p :: m₁.stack := by
    intro m₁ data
    unfold curlPerformTask
    split
    · exact Or.inl rfl
    · split
      · exact Or.inl rfl
      · rename_i hidle
        unfold perform
        dsimp only
        split
        · exact Or.inl rfl
        · exact Or.inr ⟨_, _, Bool.eq_false_iff.mpr hidle, rfl⟩
  unfold amxCurlEasyPerform
  split
  · exact htask { m with nextData := m.nextData + 1 }
  · exact htask m

/-- A completion gets off the multi and is called, or returns. -/
theorem performRemoved_calls (m : AmxCurlController) (o : ObjId) (p : PerformId) (f : ForwardId) :
    (m.performRemoved o p f).stack = m.stack ∨
      ∃ a q data, (m.performRemoved o p f).stack = .completion a q f data :: m.stack := by
  rcases m.performRemoved_cases o p f with ⟨-, heq⟩ | ⟨-, -, heq⟩ | ⟨q, -, -, heq⟩ <;> rw [heq]
  · exact Or.inl rfl
  · exact Or.inl rfl
  · exact Or.inr ⟨_, _, _, rfl⟩

/-- A message that is read leads into `curl_multi_remove_handle`, if anywhere. -/
theorem checkMultiInfo_called : m.checkMultiInfo.stack = m.stack ∨
    ∃ o p res, m.checkMultiInfo.stack = .removing o p res :: m.stack := by
  unfold checkMultiInfo
  split
  · exact Or.inl rfl
  · dsimp only
    split
    · exact Or.inl rfl
    · exact Or.inr ⟨_, _, _, rfl⟩

/-- Where Pawn code is in control, a native may be called. -/
theorem AtPawn.calls (hp : m.AtPawn) (o : ObjId) (p : PerformId) :
    (Frame.adding o p).CalledFrom m.stack.head? := by
  intro f hf
  unfold AtPawn at hp
  split at hp
  · rename_i hs
    simp [hs] at hf
  · rename_i g rest hs
    rw [hs] at hf
    obtain rfl := Option.some.inj hf
    exact hp

/-- Where libcurl is, a data callback may be called. -/
theorem InLibcurl.calls (hl : m.InLibcurl) (hne : m.stack ≠ []) (o : ObjId) (c : CallbackOption)
    (q : PluginId) (n : Int) : (Frame.dataCallback o c q n).CalledFrom m.stack.head? := by
  unfold InLibcurl at hl
  split at hl
  · rename_i rest hs
    rw [hs]
    exact ⟨_, rfl, rfl, by simp⟩
  · rename_i o' p rest hs
    rw [hs]
    exact ⟨_, rfl, rfl, by simp⟩
  · rename_i o' p res rest hs
    rw [hs]
    exact ⟨_, rfl, rfl, by simp⟩
  · rename_i hs _
    exact absurd hs hne
  · rename_i hs _
    exact absurd hs hne
  · rename_i hs _
    exact absurd hs hne
  · exact hl.elim

/-- What a step does to the stack. -/
inductive Restacks (m : AmxCurlController) : Action → List Frame → Prop
  | same (a : Action) : Restacks m a m.stack
  | adding (h : AmxCurlHandle) (found : Bool) (fun_ dataLen : Int) (o : ObjId) (p : PerformId)
      (hp : m.AtPawn) (hidle : (m.obj o).isTransferInProgress = false) :
      Restacks m (.easyPerform h found fun_ dataLen) (.adding o p :: m.stack)
  | dataCallback (o : ObjId) (k : Callback) (c : CallbackOption) (q : PluginId) (n : Int)
      (hl : m.InLibcurl) (hc : (m.callback o k).stack = .dataCallback o c q n :: m.stack) :
      Restacks m (.callback o k) (.dataCallback o c q n :: m.stack)
  | removing (o : ObjId) (p : PerformId) (res : CurlCode) (rest : List Frame)
      (hs : m.stack = .checkMultiInfo :: rest) :
      Restacks m .readMessage (.removing o p res :: m.stack)
  | popped (a : Action) (f : Frame) (rest : List Frame) (hs : m.stack = f :: rest) :
      Restacks m a rest
  /-- The completion takes the place of the call that has returned. -/
  | completion (g : ForwardId) (o : ObjId) (p : PerformId) (res : CurlCode) (rest : List Frame)
      (b : AmxPtr) (q : PluginId) (data : Option DataId) (hs : m.stack = .removing o p res :: rest) :
      Restacks m (.removeReturn g) (.completion b q g data :: rest)
  | loop (rest : List Frame) (hs : m.stack = .socketAction :: rest) :
      Restacks m .socketActionReturn (.checkMultiInfo :: rest)
  | handler (hs : m.stack = []) : Restacks m .poll [.socketAction]

theorem next_restacks {a : Action} (hn : m.next a = some m') : Restacks m a m'.stack := by
  have hoff : ∀ {m₁ : AmxCurlController}, Offstage m m₁ → Restacks m a m₁.stack := by
    intro m₁ ho
    rw [ho.stack]
    exact .same a
  have hpop : ∀ {m₁ : AmxCurlController} {f : Frame} {rest : List Frame}, m.stack = f :: rest →
      Offstage { m with stack := rest } m₁ → Restacks m a m₁.stack := by
    intro m₁ f rest hs ho
    rw [ho.stack]
    exact .popped a f rest hs
  cases next_fires hn with
  | easyInit a q reply hq hp hfree => exact hoff .createCurl
  | setCallback h c reply codes hp hfree => exact hoff .curlSetupAmxCallback
  | setOption h d hp => exact hoff .curlSetOption
  | easyPerform h found fun_ dataLen hp =>
      rcases m.amxCurlEasyPerform_called h found fun_ dataLen with hs | ⟨o, p, hidle, hs⟩ <;> rw [hs]
      · exact .same _
      · exact .adding h found fun_ dataLen o p hp hidle
  | easyCleanup h hp => exact hoff .removeTask
  | easyReset h hp => exact hoff .curlReset
  | addReturn ok o p rest hs hok => exact hpop hs .performAdded
  | removeReturn f o p res rest hs hf =>
      rcases ({ m with stack := rest } : AmxCurlController).performRemoved_calls o p f with
        heq | ⟨b, q, data, heq⟩ <;> rw [heq]
      · exact .popped _ _ rest hs
      · exact .completion f o p res rest b q data hs
  | callback o k hl he =>
      rcases callback_called (m := m) (o := o) (k := k) with heq | ⟨c, q, n, heq⟩
      · rw [heq]
        exact .same _
      · have hc := heq
        rw [heq]
        exact .dataCallback o k c q n hl hc
  | socketActionReturn rest hs => exact .loop rest hs
  | readMessage rest hs hm =>
      rcases checkMultiInfo_called (m := m) with heq | ⟨o, p, res, heq⟩ <;> rw [heq]
      · exact .same _
      · exact .removing o p res rest hs
  | checkMultiInfoReturn rest hs hm => exact .popped _ _ rest hs
  | completionReturn result a q f data rest hs => exact .popped _ _ rest hs
  | dataCallbackReturn result o c q expected rest hs => exact hpop hs .dataCallbackReturn
  | poll hs hm hph => exact .handler hs
  | sweep order hs hph ho => exact hoff .sweepDeferredCleanups
  | drained timedOut order hs hph hc ho =>
      refine hoff ⟨?_, ?_⟩ <;> dsimp only <;> split <;> rfl
  | teardown order m' hs hn => exact hoff (.teardown hn)
  | _ => exact .same _

/-- What is under a frame that returns is nested still, and so with another frame in its place. -/
theorem next_nested {a : Action} (hr : Transfers.Records m.transfers) (hs : Nested m.stack)
    (hn : m.next a = some m') : Nested m'.stack := by
  have hstack := next_restacks hn
  generalize m'.stack = s at hstack
  cases hstack with
  | same => exact hs
  | adding h found fun_ dataLen o p hp => exact ⟨hp.calls o p, hs⟩
  | dataCallback o k c q n hl hc =>
      have hne : m.stack ≠ [] := by
        intro hnil
        -- libcurl is being taken down, and no Pawn code runs any more
        have hd : m.isDetached = true := by
          have hflags := hr.flags
          unfold InLibcurl at hl
          unfold Transfers.Flags at hflags
          rw [show m.transfers.phase = m.phase from rfl] at hflags
          rw [hnil] at hl
          split at hl <;> simp_all [transfers]
        rw [callback_stack hd] at hc
        exact absurd (congrArg List.length hc) (by simp)
      exact ⟨hl.calls hne o c q n, hs⟩
  | removing o p res rest hstack => exact ⟨congrArg List.head? hstack, hs⟩
  | popped _ f rest hstack =>
      rw [hstack] at hs
      exact hs.tail
  | completion g o p res rest b q data hstack =>
      rw [hstack] at hs
      exact ⟨hs.1, hs.tail⟩
  | loop rest hstack =>
      rw [hstack] at hs
      obtain rfl := hs.alone rfl
      exact ⟨rfl, trivial⟩
  | handler hstack => exact ⟨rfl, trivial⟩

variable {C : AmxCurlController → Action → Prop} {tr : List Action}

theorem run_nested (hrun : machine.Run C tr m) : Nested m.stack := by
  refine hrun.invariant_of (I := fun m => Transfers.Records m.transfers)
    (P := fun m => Nested m.stack) (fun h => run_records h)
    (show Nested [] from trivial) ?_
  intro m₁ a m₂ hr hs _ hn
  exact next_nested hr hs hn

/-! ### What the shape says -/

/-- A data callback of the object, inside Pawn. -/
def Frame.isDataOf (o : ObjId) : Frame → Bool
  | .dataCallback o' _ _ _ => o' = o
  | _ => false

/-- A function of the multi interface is running. -/
def Frame.inMulti : Frame → Bool
  | .socketAction | .adding _ _ | .removing _ _ _ => true
  | _ => false

/-- A completion is under way. -/
def Frame.isCompleting : Frame → Bool
  | .removing _ _ _ | .completion _ _ _ _ => true
  | _ => false

namespace Nested

variable {s rest : List Frame} {f : Frame}

/-- A completion is called from the loop, and from nowhere else. -/
theorem completing (hs : Nested (f :: rest)) (hf : f.isCompleting = true) :
    rest = [.checkMultiInfo] := by
  refine hs.fromLoop ?_
  cases f with
  | removing o p res => exact hs.1
  | completion a q g data => exact hs.1
  | _ => exact absurd hf (by simp [Frame.isCompleting])

/-- Under a multi function there is no other, unless a data callback made the call. -/
theorem multi (hs : Nested (f :: rest)) (hf : f.inMulti = true) :
    (∀ g ∈ rest, g.inMulti = false) ∨ (∃ o p, f = .adding o p) ∧
      ∃ o c q n, rest.head? = some (.dataCallback o c q n) := by
  cases f with
  | socketAction =>
      obtain rfl := hs.alone rfl
      exact Or.inl fun g hg => absurd hg List.not_mem_nil
  | removing o p res =>
      rw [hs.completing rfl]
      refine Or.inl fun g hg => ?_
      rw [List.mem_singleton.mp hg]
      rfl
  | adding o p =>
      cases rest with
      | nil => exact Or.inl fun g hg => absurd hg List.not_mem_nil
      | cons g rest =>
          have hg : g.plugin.isSome = true := hs.1 g rfl
          cases g with
          | dataCallback o' c q n => exact Or.inr ⟨⟨o, p, rfl⟩, o', c, q, n, rfl⟩
          | completion b q f data =>
              rw [hs.tail.completing rfl]
              refine Or.inl fun g hg => ?_
              rcases List.mem_cons.mp hg with rfl | hg
              · rfl
              · rw [List.mem_singleton.mp hg]
                rfl
          | _ => exact absurd hg (by simp [Frame.plugin])
  | _ => exact absurd hf (by simp [Frame.inMulti])

/-- Pawn code and libcurl take turns, so the stack is no longer than the calls into libcurl. -/
theorem length_le (hs : Nested s) :
    s.length ≤ 2 * (s.filterMap Frame.task).length + 2 ∧
      ((∀ f ∈ s.head?, f.plugin = none) → s.length ≤ 2 * (s.filterMap Frame.task).length + 1) := by
  induction s with
  | nil => exact ⟨by simp, fun _ => by simp⟩
  | cons f rest ih =>
      obtain ⟨hle, hle'⟩ := ih hs.tail
      cases f with
      | socketAction =>
          obtain rfl := hs.alone rfl
          exact ⟨by simp, fun _ => by simp⟩
      | checkMultiInfo =>
          obtain rfl := hs.alone rfl
          exact ⟨by simp, fun _ => by simp⟩
      | removing o p res =>
          obtain rfl := hs.completing rfl
          have htask : [Frame.removing o p res, .checkMultiInfo].filterMap Frame.task =
              [(o, .removing p res)] := rfl
          refine ⟨?_, fun _ => ?_⟩
          · rw [htask]
            simp
          · rw [htask]
            simp
      | completion a q g data =>
          obtain rfl := hs.completing rfl
          refine ⟨by simp, fun hnone => ?_⟩
          exact absurd (hnone _ rfl) (by simp [Frame.plugin])
      | adding o p =>
          have htask : (Frame.adding o p :: rest).filterMap Frame.task =
              (o, .adding p) :: rest.filterMap Frame.task := rfl
          rw [htask]
          simp only [List.length_cons]
          exact ⟨by omega, fun _ => by omega⟩
      | dataCallback o c q n =>
          obtain ⟨g, hg, hnone, -⟩ := hs.1
          have hrest : ∀ f ∈ rest.head?, f.plugin = none := by
            intro f hf
            rw [Option.mem_unique hf hg]
            exact hnone
          have hle'' := hle' hrest
          have htask : (Frame.dataCallback o c q n :: rest).filterMap Frame.task =
              rest.filterMap Frame.task := rfl
          rw [htask]
          simp only [List.length_cons]
          refine ⟨by omega, fun hnone' => ?_⟩
          exact absurd (hnone' _ rfl) (by simp [Frame.plugin])

end Nested

/-- A member function is inside libcurl for as many handles at most as there are. -/
theorem tasks_length_le (hr : Transfers.Records m.transfers) :
    (m.stack.filterMap Frame.task).length ≤ m.amxCurl.keys.card := by
  have hlive : ∀ o ∈ (m.transfers.tasks.map Prod.fst).toFinset, ∃ h, m.amxCurl.lookup h = some o := by
    intro o ho
    obtain ⟨⟨o', k⟩, hk, rfl⟩ := List.mem_map.mp (List.mem_toFinset.mp ho)
    exact (hr.busy hk).1
  choose! number hnumber using hlive
  have hcard : (m.transfers.tasks.map Prod.fst).toFinset.card ≤ m.amxCurl.keys.card := by
    refine Finset.card_le_card_of_injOn number (fun o ho => ?_) fun o ho o' ho' he => ?_
    · exact Finmap.mem_keys.mpr (Finmap.mem_of_lookup_eq_some (hnumber o ho))
    · have hlook := hnumber o' ho'
      rw [← he, hnumber o ho] at hlook
      exact Option.some.inj hlook
  rw [List.toFinset_card_of_nodup hr.nodup, List.length_map] at hcard
  exact hcard

/--
**libcurl's multi interface is not re-entered, and the recursion is bounded.**  Wherever a
function of the multi interface is on the stack, no other one is below it, unless it is a
`curl_multi_add_handle` called by the Pawn code of a data callback.  A completion is only
called from the loop of `CheckMultiInfo`, so no two are ever under way.  No handle is inside
libcurl twice, so the stack is no deeper than twice the number of handles and two.
-/
theorem multi_not_reentered (hrun : machine.Run Machine.Free tr m) :
    (∀ pre f rest, m.stack = pre ++ f :: rest →
      (f.inMulti = true → (∀ g ∈ rest, g.inMulti = false) ∨ (∃ o p, f = .adding o p) ∧
        ∃ o c q n, rest.head? = some (.dataCallback o c q n)) ∧
      (f.isHandler = true → rest = []) ∧
      (f.isCompleting = true → rest = [.checkMultiInfo])) ∧
    m.stack.countP Frame.isCompleting ≤ 1 ∧
    m.stack.length ≤ 2 * m.amxCurl.keys.card + 2 := by
  have hs := run_nested hrun
  refine ⟨fun pre f rest heq => ?_, ?_, ?_⟩
  · rw [heq] at hs
    exact ⟨hs.below.multi, hs.below.alone, hs.below.completing⟩
  · generalize m.stack = s at hs
    induction s with
    | nil => exact Nat.zero_le 1
    | cons f rest ih =>
        by_cases hf : f.isCompleting = true
        · rw [hs.completing hf, List.countP_cons_of_pos hf]
          exact Nat.le_refl 1
        · rw [List.countP_cons_of_neg hf]
          exact ih hs.tail
  · have hle := hs.length_le.1
    have htasks := tasks_length_le (run_records hrun)
    omega

/-- The Pawn code of a data callback performs another handle, which calls a data callback. -/
def nesting : List Action :=
  [.load 7, .easyInit 7 (some 100), .easyInit 7 (some 101),
    .setCallback 1 (some .writeFunction) (some 5) (0, 0),
    .setCallback 2 (some .readFunction) (some 6) (0, 0),
    .easyPerform 1 true 3 0, .addReturn true, .poll, .callback 0 (.write [1, 2]),
    .easyPerform 2 true 3 0, .callback 1 .read]

def nestedTwice : AmxCurlController := (machine.exec Machine.Free boot nesting).get (by decide)

theorem multi_not_reentered_twice :
    nestedTwice.stack.countP Frame.isCompleting ≤ 1 ∧ nestedTwice.stack.length ≤ 6 := by
  have hrun : machine.Run Machine.Free nesting nestedTwice :=
    Machine.run_of_exec (Option.some_get _).symm
  obtain ⟨-, hone, hle⟩ := multi_not_reentered hrun
  have hcard : nestedTwice.amxCurl.keys.card = 2 := by decide
  rw [hcard] at hle
  exact ⟨hone, hle⟩

end AmxCurlController

end AmxxCurl
