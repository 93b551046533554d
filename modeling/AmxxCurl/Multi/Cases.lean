/-
What an action does, one case for each way it can go.

`Fires m a m'` lists the enabled actions with their guards and effects, so that a proof
about every step is a case analysis and never unfolds `next`.  Half of them have to do
with the timer, with a flag or with what is on the stack, and `Apart` says of these that
they leave the sockets, the waits and both maps what they are.
-/
import AmxxCurl.Multi.Step

namespace AmxxCurl

namespace CurlMulti

/-- `m'` is the state after action `a`. -/
inductive Fires (m : CurlMulti) : Action → CurlMulti → Prop
  | socketCallback (s : Fd) (what : CInt) (refusal : Kernel.Refusal) (oom : Option Dir) :
      Fires m (.socketCallback s what refusal oom) (m.curlSocketCallbackStatic s what refusal oom).1
  | openSocketCallback (purpose : SockType) (family : Family) (reply : Option Fd)
      (hfree : ∀ s, reply = some s → m.asio.kernel.files.lookup s = none) :
      Fires m (.openSocketCallback purpose family reply)
        (m.curlOpenSocketCallback purpose family reply).1
  | closeSocketCallback (s : Fd) : Fires m (.closeSocketCallback s) (m.curlCloseSocketCallback s)
  | timerCallback (t : Int) : Fires m (.timerCallback t) (m.curlTimerCallback t)
  | complete (w : WaitId) (r : WaitResult) (asio : Asio) (ha : m.asio.complete w r = some asio) :
      Fires m (.complete w r) { m with asio := asio }
  | dispatch (w : WaitId) (r : WaitResult) (hidle : m.handler = none)
      (hst : (m.asio.waits.cell w).status = .completed r) :
      Fires m (.dispatch w) (({ m with asio := m.asio.markDispatched w r }).asioSocketActionCallback
        w (m.asio.waits.cell w).dir (m.asio.waits.cell w).fd (m.asio.waits.cell w).sd r)
  | expire (t : Nat) (hpending : (m.timer.cell t).status = .pending) :
      Fires m (.expire t)
        { m with timer := m.timer.modify t fun x => { x with status := .completed .ok } }
  | dispatchTimer (t : Nat) (r : WaitResult) (hidle : m.handler = none)
      (hst : (m.timer.cell t).status = .completed r) :
      Fires m (.dispatchTimer t)
        ({ m with timer := m.timer.modify t fun x => { x with status := .dispatched r } }
          |>.asioTimerCallback r)
  | runPosted (hidle : m.handler = none) (hposted : 0 < m.posted) :
      Fires m .runPosted ({ m with posted := m.posted - 1 }.postedTask)
  | socketActionReturn (running : Int) (dir : Dir) (s : Fd) (sd : SocketDataId) (error : Bool)
      (hh : m.handler = some (.socket dir s sd error .inSocketAction)) :
      Fires m (.socketActionReturn running)
        { m with
          runningHandles := running
          handler := some (.socket dir s sd error .inCheckMultiInfo) }
  | timerActionReturn (running : Int) (hh : m.handler = some (.timer .inSocketAction)) :
      Fires m (.socketActionReturn running)
        { m with runningHandles := running, handler := some (.timer .inCheckMultiInfo) }
  | socketReturn (oom : Option Dir) (dir : Dir) (s : Fd) (sd : SocketDataId) (error : Bool)
      (hh : m.handler = some (.socket dir s sd error .inCheckMultiInfo)) :
      Fires m (.checkMultiInfoReturn oom) (pollCatch (m.rearm s sd error oom))
  | timerReturn (oom : Option Dir) (hh : m.handler = some (.timer .inCheckMultiInfo)) :
      Fires m (.checkMultiInfoReturn oom) { m with handler := none }
  | checkMultiInfoThrow
      (hh : (∃ dir s sd error, m.handler = some (.socket dir s sd error .inCheckMultiInfo)) ∨
        m.handler = some (.timer .inCheckMultiInfo)) :
      Fires m .checkMultiInfoThrow (pollCatch (m, .error .badAlloc))
  | foreignOpen (s : Fd) (hfree : m.asio.kernel.files.lookup s = none) :
      Fires m (.foreignOpen s) { m with asio := { m.asio with kernel := m.asio.kernel.socket s } }
  | foreignClose (s : Fd) :
      Fires m (.foreignClose s) { m with asio := { m.asio with kernel := m.asio.kernel.close s } }
  | detach : Fires m .detach { m with detached := true }
  | shutdown (hidle : m.handler = none) : Fires m .shutdown m.shutdown

variable {m m' m'' : CurlMulti} {a : Action}

/-- **Every step is one of these.** -/
theorem next_fires (hn : m.next a = some m') : Fires m a m' := by
  cases a with
  | socketCallback s what refusal oom =>
      obtain rfl := Option.some.inj hn
      exact .socketCallback s what refusal oom
  | openSocketCallback purpose family reply =>
      simp only [next] at hn
      split at hn
      · rename_i hfree
        obtain rfl := Option.some.inj hn
        exact .openSocketCallback purpose family reply hfree
      · simp at hn
  | closeSocketCallback s =>
      obtain rfl := Option.some.inj hn
      exact .closeSocketCallback s
  | timerCallback t =>
      obtain rfl := Option.some.inj hn
      exact .timerCallback t
  | complete w r =>
      obtain ⟨asio, ha, rfl⟩ := Option.map_eq_some_iff.mp hn
      exact .complete w r asio ha
  | dispatch w =>
      simp only [next] at hn
      split at hn
      · rename_i r hidle hst
        obtain rfl := Option.some.inj hn
        exact .dispatch w r hidle hst
      · simp at hn
  | expire t =>
      simp only [next] at hn
      split at hn
      · rename_i hpending
        obtain rfl := Option.some.inj hn
        exact .expire t hpending
      · simp at hn
  | dispatchTimer t =>
      simp only [next] at hn
      split at hn
      · rename_i r hidle hst
        obtain rfl := Option.some.inj hn
        exact .dispatchTimer t r hidle hst
      · simp at hn
  | runPosted =>
      simp only [next] at hn
      split at hn
      · rename_i hg
        obtain rfl := Option.some.inj hn
        exact .runPosted hg.1 hg.2
      · simp at hn
  | socketActionReturn running =>
      simp only [next] at hn
      split at hn
      · rename_i dir s sd error hh
        obtain rfl := Option.some.inj hn
        exact .socketActionReturn running dir s sd error hh
      · rename_i hh
        obtain rfl := Option.some.inj hn
        exact .timerActionReturn running hh
      · simp at hn
  | checkMultiInfoReturn oom =>
      simp only [next] at hn
      split at hn
      · rename_i dir s sd error hh
        obtain rfl := Option.some.inj hn
        exact .socketReturn oom dir s sd error hh
      · rename_i hh
        obtain rfl := Option.some.inj hn
        exact .timerReturn oom hh
      · simp at hn
  | checkMultiInfoThrow =>
      simp only [next] at hn
      split at hn
      · rename_i dir s sd error hh
        obtain rfl := Option.some.inj hn
        exact .checkMultiInfoThrow (Or.inl ⟨dir, s, sd, error, hh⟩)
      · rename_i hh
        obtain rfl := Option.some.inj hn
        exact .checkMultiInfoThrow (Or.inr hh)
      · simp at hn
  | foreignOpen s =>
      simp only [next] at hn
      split at hn
      · rename_i hfree
        obtain rfl := Option.some.inj hn
        exact .foreignOpen s hfree
      · simp at hn
  | foreignClose s =>
      obtain rfl := Option.some.inj hn
      exact .foreignClose s
  | detach =>
      obtain rfl := Option.some.inj hn
      exact .detach
  | shutdown =>
      simp only [next] at hn
      split at hn
      · rename_i hidle
        obtain rfl := Option.some.inj hn
        exact .shutdown hidle
      · simp at hn

/-- A handler that calls libcurl has found the multi alive and its `SocketData` tracked. -/
theorem asioSocketActionCallback_some {w : WaitId} {dir : Dir} {s : Fd} {sd : SocketDataId}
    {r : WaitResult} {h : Handler}
    (hh : (m.asioSocketActionCallback w dir s sd r).handler = some h) (hidle : m.handler = none) :
    h = .socket dir s sd (decide (r = .error)) .inSocketAction ∧ m.curlMulti = true ∧
      m.socketDataMap.lookup s = some sd := by
  have hreturns : ∀ {P : Prop}, m.handler = some h → P := by
    intro P he
    rw [hidle] at he
    exact absurd he (by simp)
  unfold asioSocketActionCallback at hh
  dsimp only at hh
  split at hh
  · exact hreturns hh
  · rename_i halive
    split at hh
    · exact hreturns hh
    · split at hh
      · exact hreturns hh
      · split at hh
        · exact hreturns hh
        · rename_i htracked
          exact ⟨(Option.some.inj hh).symm, by simpa using halive, Decidable.not_not.mp htracked⟩

/-! ### What has nothing to do with the sockets -/

/-- The sockets, the waits and the maps are the same. -/
structure Apart (m m' : CurlMulti) : Prop where
  asio : m'.asio = m.asio
  socketMap : m'.socketMap = m.socketMap
  socketDataMap : m'.socketDataMap = m.socketDataMap
  socketData : m'.socketData = m.socketData
  removedSockets : m'.removedSockets = m.removedSockets

namespace Apart

theorem refl (m : CurlMulti) : Apart m m := ⟨rfl, rfl, rfl, rfl, rfl⟩

theorem printUnlessDetached (m : CurlMulti) : Apart m m.printUnlessDetached := by
  unfold CurlMulti.printUnlessDetached
  split
  · exact .refl m
  · exact ⟨rfl, rfl, rfl, rfl, rfl⟩

theorem curlTimerCallback (m : CurlMulti) (t : Int) : Apart m (m.curlTimerCallback t) := by
  unfold CurlMulti.curlTimerCallback
  dsimp only
  split
  · exact ⟨rfl, rfl, rfl, rfl, rfl⟩
  · split
    · exact ⟨rfl, rfl, rfl, rfl, rfl⟩
    · exact ⟨rfl, rfl, rfl, rfl, rfl⟩

theorem asioTimerCallback (m : CurlMulti) (r : WaitResult) : Apart m (m.asioTimerCallback r) := by
  unfold CurlMulti.asioTimerCallback
  split
  · exact .refl m
  · split
    · exact .refl m
    · exact ⟨rfl, rfl, rfl, rfl, rfl⟩

theorem postedTask (m : CurlMulti) : Apart m m.postedTask := by
  unfold CurlMulti.postedTask
  split
  · exact .refl m
  · exact ⟨rfl, rfl, rfl, rfl, rfl⟩

theorem shutdown (m : CurlMulti) : Apart m m.shutdown := by
  unfold CurlMulti.shutdown
  split
  · exact ⟨rfl, rfl, rfl, rfl, rfl⟩
  · exact .refl m

theorem pollCatch (x : CurlMulti × Except Exn Unit) : Apart x.1 (pollCatch x) := by
  unfold CurlMulti.pollCatch
  split
  · exact ⟨rfl, rfl, rfl, rfl, rfl⟩
  · rename_i m₁ e
    have hprint := Apart.printUnlessDetached m₁
    exact ⟨hprint.asio, hprint.socketMap, hprint.socketDataMap, hprint.socketData,
      hprint.removedSockets⟩

/-- `AsioSocketActionCallback` may cancel the timer. -/
theorem stopTimer (m : CurlMulti) : Apart m (if m.runningHandles ≤ 0 then m.cancelTimer else m) := by
  split
  · exact ⟨rfl, rfl, rfl, rfl, rfl⟩
  · exact .refl m

end Apart

/-- The actions that touch a socket, a wait or a map. -/
def Action.IsNear : Action → Prop
  | .socketCallback .. | .openSocketCallback .. | .closeSocketCallback _ => True
  | .complete .. | .dispatch _ | .checkMultiInfoReturn _ => True
  | .foreignOpen _ | .foreignClose _ => True
  | _ => False

/-- The others leave them all alone. -/
theorem next_apart (hn : m.next a = some m') (ha : ¬a.IsNear) : Apart m m' := by
  cases next_fires hn with
  | timerCallback t => exact .curlTimerCallback m t
  | expire t hpending => exact ⟨rfl, rfl, rfl, rfl, rfl⟩
  | dispatchTimer t r hidle hst =>
      have h := Apart.asioTimerCallback
        { m with timer := m.timer.modify t fun x => { x with status := .dispatched r } } r
      exact ⟨h.asio, h.socketMap, h.socketDataMap, h.socketData, h.removedSockets⟩
  | runPosted hidle hposted =>
      have h := Apart.postedTask { m with posted := m.posted - 1 }
      exact ⟨h.asio, h.socketMap, h.socketDataMap, h.socketData, h.removedSockets⟩
  | socketActionReturn running dir s sd error hh => exact ⟨rfl, rfl, rfl, rfl, rfl⟩
  | timerActionReturn running hh => exact ⟨rfl, rfl, rfl, rfl, rfl⟩
  | checkMultiInfoThrow hh => exact .pollCatch (m, .error .badAlloc)
  | detach => exact ⟨rfl, rfl, rfl, rfl, rfl⟩
  | shutdown hidle => exact .shutdown m
  | _ => exact absurd trivial ha

end CurlMulti

end AmxxCurl
