/-
The one timer of the `CurlMulti`.

libcurl asks for a timeout through `CurlTimerCallback`, and is served by a call of
`curl_multi_socket_action(CURL_SOCKET_TIMEOUT)`.  In between a wait of the timer stands
for the request, or a task in the `io_context` where the timeout is zero.  `TimerStep`
is all that can happen to the two: besides `CurlTimerCallback` there is one more place
that cancels the timer, at the end of `AsioSocketActionCallback`.
-/
import AmxxCurl.Multi.Arming

namespace AmxxCurl

namespace CurlMulti

/-- A timeout libcurl has asked for, and the wait of the timer that is for it. -/
structure Request where
  timeoutMs : Int
  wait : Nat
  deriving DecidableEq

variable {m m' : CurlMulti} {a : Action} {r : Option Request}

/-- The request libcurl has made last and not been served, after a step. -/
def requestAfter (r : Option Request) (m : CurlMulti) (a : Action) (m' : CurlMulti) :
    Option Request :=
  match a with
  | .timerCallback t => some ⟨t, m.timer.next⟩
  | _ => if m'.log = m.log ++ [.timeoutAction] then none else r

/-- The wait has expired, and its handler is to run. -/
def Expired (m : CurlMulti) (q : Request) : Prop :=
  m.timer.cell q.wait = ⟨q.timeoutMs, .completed .ok⟩

instance (m : CurlMulti) (q : Request) : Decidable (m.Expired q) :=
  inferInstanceAs (Decidable (_ = _))

/-- The wait is there, and not cancelled. -/
def Waiting (m : CurlMulti) (q : Request) : Prop :=
  m.timer.cell q.wait = ⟨q.timeoutMs, .pending⟩ ∨ m.Expired q

instance (m : CurlMulti) (q : Request) : Decidable (m.Waiting q) :=
  inferInstanceAs (Decidable (_ ∨ _))

/-- Something stands for the request: its wait, or a task in the `io_context`. -/
def Kept (m : CurlMulti) (r : Option Request) : Prop :=
  ∀ q ∈ r, 0 ≤ q.timeoutMs → m.Waiting q ∨ 0 < m.posted

instance (m : CurlMulti) (r : Option Request) : Decidable (m.Kept r) :=
  inferInstanceAs (Decidable (∀ q ∈ r, 0 ≤ q.timeoutMs → _ ∨ _))

/-- Something that the timer's `cancel` does not reach stands for it. -/
def OutOfReach (m : CurlMulti) (r : Option Request) : Prop :=
  ∀ q ∈ r, 0 ≤ q.timeoutMs → m.Expired q ∨ 0 < m.posted

instance (m : CurlMulti) (r : Option Request) : Decidable (m.OutOfReach r) :=
  inferInstanceAs (Decidable (∀ q ∈ r, 0 ≤ q.timeoutMs → _ ∨ _))

/-- `AsioSocketActionCallback`, waiting for `CheckMultiInfo`. -/
def Handler.isChecking : Handler → Bool
  | .socket _ _ _ _ .inCheckMultiInfo => true
  | _ => false

/-- `AsioSocketActionCallback` is about to cancel the timer. -/
def Cancels (m : CurlMulti) : Prop := m.handler.any Handler.isChecking = true ∧ m.runningHandles ≤ 0

instance (m : CurlMulti) : Decidable m.Cancels := inferInstanceAs (Decidable (_ ∧ _))

/-! ### What a step does to the timer -/

inductive TimerStep (m : CurlMulti) (a : Action) (m' : CurlMulti) : Prop
  | same (htimer : m'.timer = m.timer) (hposted : m'.posted = m.posted)
  | asked (t : Int) (ha : a = .timerCallback t) (hm : m' = m.curlTimerCallback t)
  | expired (i : Nat) (hpending : (m.timer.cell i).status = .pending)
      (htimer : m'.timer = m.timer.modify i fun x => { x with status := .completed .ok })
      (hposted : m'.posted = m.posted)
  | handled (i : Nat) (r : WaitResult) (hcomplete : (m.timer.cell i).status = .completed r)
      (htimer : m'.timer = m.timer.modify i fun x => { x with status := .dispatched r })
      (hposted : m'.posted = m.posted) (ha : a = .dispatchTimer i)
      (hserved : r = .ok → m.curlMulti = true → m'.log = m.log ++ [.timeoutAction])
  | ran (htimer : m'.timer = m.timer) (ha : a = .runPosted)
      (hserved : m.curlMulti = true → m'.log = m.log ++ [.timeoutAction])
  | cancelled (oom : Option Dir) (ha : a = .checkMultiInfoReturn oom) (hcancels : m.Cancels)
      (htimer : m'.timer = m.cancelTimer.timer) (hposted : m'.posted = m.posted)

theorem TimerStep.aside (h : Aside m m') : TimerStep m a m' := .same h.timer h.posted

theorem pollCatch_timer (x : CurlMulti × Except Exn Unit) :
    (pollCatch x).timer = x.1.timer ∧ (pollCatch x).posted = x.1.posted := by
  unfold pollCatch
  split
  · exact ⟨rfl, rfl⟩
  · rename_i m₁ e
    have hprint := Aside.printUnlessDetached m₁
    exact ⟨hprint.timer, hprint.posted⟩

/-- The end of `AsioSocketActionCallback`. -/
theorem rearm_timer (m : CurlMulti) (s : Fd) (sd : SocketDataId) (error : Bool) (oom : Option Dir) :
    (m.rearm s sd error oom).1.timer =
        (if m.runningHandles ≤ 0 then m.cancelTimer.timer else m.timer) ∧
      (m.rearm s sd error oom).1.posted = m.posted := by
  have htimer : (if m.runningHandles ≤ 0 then m.cancelTimer else m).timer =
      (if m.runningHandles ≤ 0 then m.cancelTimer.timer else m.timer) := by
    split <;> rfl
  have hposted : (if m.runningHandles ≤ 0 then m.cancelTimer else m).posted = m.posted := by
    split <;> rfl
  rcases m.rearm_call s sd error oom with ⟨-, hrearm⟩ | ⟨c, -, hstate, -, -, -, -, -, -, -, hrearm⟩
  · rw [hrearm]
    exact ⟨htimer, hposted⟩
  · have harms : Aside c.state c.after := Aside.armWaits
    rw [hrearm, harms.timer, harms.posted, hstate]
    exact ⟨htimer, hposted⟩

/-- `AsioSocketActionCallback` cancels the timer, and `AsioTimerCallback` does not. -/
theorem checkMultiInfoReturn_timer {oom : Option Dir}
    (hn : m.next (.checkMultiInfoReturn oom) = some m') :
    m'.timer = (if m.Cancels then m.cancelTimer.timer else m.timer) ∧ m'.posted = m.posted := by
  cases next_fires hn with
  | socketReturn _ dir s sd error hh =>
      obtain ⟨htimer, hposted⟩ := pollCatch_timer (m.rearm s sd error oom)
      obtain ⟨hrearm, hposted'⟩ := m.rearm_timer s sd error oom
      have hcancels : m.Cancels ↔ m.runningHandles ≤ 0 := by
        unfold Cancels
        rw [hh]
        exact and_iff_right rfl
      rw [htimer, hposted, hrearm, hposted']
      simp only [hcancels, and_self]
  | timerReturn _ hh =>
      have hno : ¬m.Cancels := by
        unfold Cancels
        rw [hh]
        exact fun h => Bool.false_ne_true h.1
      rw [if_neg hno]
      exact ⟨rfl, rfl⟩

/-- **All that happens to the timer.** -/
theorem next_timer (hn : m.next a = some m') : TimerStep m a m' := by
  have hreturn : ∀ {oom}, m.next (.checkMultiInfoReturn oom) = some m' →
      TimerStep m (.checkMultiInfoReturn oom) m' := by
    intro oom hn
    obtain ⟨htimer, hposted⟩ := checkMultiInfoReturn_timer hn
    by_cases hcancels : m.Cancels
    · rw [if_pos hcancels] at htimer
      exact .cancelled oom rfl hcancels htimer hposted
    · rw [if_neg hcancels] at htimer
      exact .same htimer hposted
  cases next_fires hn with
  | socketCallback s what refusal oom =>
      exact .aside (Aside.curlSocketCallback m s what refusal oom)
  | openSocketCallback purpose family reply hfree =>
      exact .aside (Aside.curlOpenSocketCallback m purpose family reply)
  | closeSocketCallback s => exact .aside (Aside.curlCloseSocketCallback m s)
  | timerCallback t => exact .asked t rfl rfl
  | dispatch w r hidle hst =>
      unfold asioSocketActionCallback
      dsimp only
      repeat' split
      all_goals exact .same rfl rfl
  | expire i hpending => exact .expired i hpending rfl rfl
  | dispatchTimer i r hidle hcomplete =>
      unfold asioTimerCallback
      by_cases hr : r = .ok
      · subst hr
        rw [if_neg (by simp)]
        cases hlive : m.curlMulti with
        | false => exact .handled i .ok hcomplete rfl rfl rfl fun _ hc => by simp [hlive] at hc
        | true => exact .handled i .ok hcomplete rfl rfl rfl fun _ _ => rfl
      · rw [if_pos hr]
        exact .handled i r hcomplete rfl rfl rfl fun he _ => absurd he hr
  | runPosted hidle hposted =>
      unfold postedTask
      cases hlive : m.curlMulti with
      | false => exact .ran rfl rfl fun hc => by simp [hlive] at hc
      | true => exact .ran rfl rfl fun _ => rfl
  | socketReturn oom dir s sd error hh => exact hreturn hn
  | timerReturn oom hh => exact hreturn hn
  | checkMultiInfoThrow hh =>
      obtain ⟨htimer, hposted⟩ := pollCatch_timer (m, .error .badAlloc)
      exact .same htimer hposted
  | shutdown hidle =>
      unfold shutdown
      split <;> exact .same rfl rfl
  | _ => exact .same rfl rfl

/-! ### What stands for the request -/

theorem requestAfter_cases (r : Option Request) (m : CurlMulti) (a : Action) (m' : CurlMulti) :
    (∃ t, a = .timerCallback t) ∨ requestAfter r m a m' = none ∨ requestAfter r m a m' = r := by
  unfold requestAfter
  split
  · exact Or.inl ⟨_, rfl⟩
  · split
    · exact Or.inr (Or.inl rfl)
    · exact Or.inr (Or.inr rfl)

/-- A step that calls `curl_multi_socket_action(CURL_SOCKET_TIMEOUT)` serves the request. -/
theorem requestAfter_served (hlog : m'.log = m.log ++ [.timeoutAction])
    (ha : ∀ t, a ≠ .timerCallback t) : requestAfter r m a m' = none := by
  unfold requestAfter
  split
  · rename_i t
    exact absurd rfl (ha t)
  · exact if_pos hlog

theorem kept_none : m.Kept none := by
  intro q hq
  simp at hq

/-- Each value libcurl asks for gets a wait or a task, if it is not negative. -/
theorem curlTimerCallback_kept (m : CurlMulti) (t : Int) :
    (m.curlTimerCallback t).Kept (some ⟨t, m.timer.next⟩) := by
  intro q hq ht
  obtain rfl := Option.some.inj hq
  unfold curlTimerCallback
  dsimp only at ht ⊢
  by_cases hpos : t > 0
  · rw [if_pos hpos]
    left
    exact Or.inl (Heap.alloc_cell_next ..)
  · have hzero : t = 0 := by omega
    rw [if_neg hpos, if_pos hzero]
    right
    exact Nat.succ_pos _

/-- What is out of reach of the timer's `cancel` survives it. -/
theorem OutOfReach.kept (h : m.OutOfReach r) (htimer : m'.timer = m.cancelTimer.timer)
    (hposted : m'.posted = m.posted) : m'.Kept r := by
  intro q hq ht
  rcases h q hq ht with hexpired | hpos
  · left
    right
    unfold Expired at hexpired ⊢
    rw [htimer]
    unfold cancelTimer
    rw [Heap.map_cell, hexpired]
    exact if_neg (by simp)
  · right
    omega

/-- What has survived it was out of reach. -/
theorem Kept.outOfReach (h : m'.Kept r) (htimer : m'.timer = m.cancelTimer.timer)
    (hposted : m'.posted = m.posted) : m.OutOfReach r := by
  intro q hq ht
  rcases h q hq ht with hwaiting | hpos
  · left
    unfold Waiting Expired at hwaiting
    rw [htimer] at hwaiting
    unfold cancelTimer at hwaiting
    rw [Heap.map_cell] at hwaiting
    by_cases hpending : (m.timer.cell q.wait).status = .pending
    · rw [if_pos hpending] at hwaiting
      simp at hwaiting
    · rw [if_neg hpending] at hwaiting
      rcases hwaiting with hcell | hexpired
      · rw [hcell] at hpending
        exact absurd rfl hpending
      · exact hexpired
  · right
    omega

/-- **A step keeps what stands for the request, unless it cancels it.** -/
theorem Kept.step (h : m.Kept r) (hlive : m.curlMulti = true) (hn : m.next a = some m')
    (hreach : ∀ oom, a = .checkMultiInfoReturn oom → m.Cancels → m.OutOfReach r) :
    m'.Kept (requestAfter r m a m') := by
  rcases requestAfter_cases r m a m' with ⟨t, rfl⟩ | hnone | hsame
  · obtain rfl := Option.some.inj hn
    exact m.curlTimerCallback_kept t
  · rw [hnone]
    exact kept_none
  -- the request is the one it was, and no step here is libcurl asking
  · have hkept : ∀ {q}, q ∈ r → 0 ≤ q.timeoutMs → m.Waiting q ∨ 0 < m.posted := fun hq ht => h _ hq ht
    cases next_timer hn with
    | same htimer hposted =>
        rw [hsame]
        intro q hq ht
        unfold Waiting Expired
        rw [htimer, hposted]
        exact hkept hq ht
    | asked t ha hm =>
        subst ha hm
        exact m.curlTimerCallback_kept t
    | expired i hpending htimer hposted =>
        rw [hsame]
        intro q hq ht
        rw [hposted]
        refine (hkept hq ht).imp_left fun hwaiting => ?_
        unfold Waiting Expired at hwaiting ⊢
        rw [htimer, Heap.modify_cell]
        by_cases hi : q.wait = i
        · rw [if_pos hi]
          right
          rw [← hi]
          rcases hwaiting with hcell | hcell <;> rw [hcell]
        · rw [if_neg hi]
          exact hwaiting
    | handled i res hcomplete htimer hposted ha hserved =>
        by_cases hres : res = .ok
        · rw [requestAfter_served (hserved hres hlive) (by simp [ha])]
          exact kept_none
        · rw [hsame]
          intro q hq ht
          rw [hposted]
          refine (hkept hq ht).imp_left fun hwaiting => ?_
          have hi : q.wait ≠ i := by
            intro hi
            rw [← hi] at hcomplete
            rcases hwaiting with hcell | hcell <;> rw [hcell] at hcomplete
            · simp at hcomplete
            · exact hres (WaitStatus.completed.inj hcomplete).symm
          unfold Waiting Expired at hwaiting ⊢
          rw [htimer, Heap.modify_cell_ne _ _ hi]
          exact hwaiting
    | ran htimer ha hserved =>
        rw [requestAfter_served (hserved hlive) (by simp [ha])]
        exact kept_none
    | cancelled oom ha hcancels htimer hposted =>
        rw [hsame]
        exact (hreach oom ha hcancels).kept htimer hposted

/-- What follows `CheckMultiInfo` does not serve the request. -/
theorem requestAfter_checkMultiInfoReturn {oom : Option Dir}
    (hn : m.next (.checkMultiInfoReturn oom) = some m') :
    requestAfter r m (.checkMultiInfoReturn oom) m' = r := by
  have hno : m'.log ≠ m.log ++ [.timeoutAction] := by
    cases next_fires hn with
    | socketReturn _ dir s sd error hh =>
        have hlog : (m.rearm s sd error oom).1.log = m.log := by
          have hsame : (if m.runningHandles ≤ 0 then m.cancelTimer else m).log = m.log := by
            split <;> rfl
          rcases m.rearm_call s sd error oom with
            ⟨-, hrearm⟩ | ⟨c, -, hstate, -, -, -, -, -, -, -, hrearm⟩
          · rw [hrearm]
            exact hsame
          · rw [hrearm, c.arms.log, hstate]
            exact hsame
        unfold pollCatch
        split
        · rename_i m₁ he
          rw [he] at hlog
          show m₁.log ≠ _
          rw [hlog]
          simp
        · rename_i m₁ e he
          rw [he] at hlog
          show m₁.printUnlessDetached.log ≠ _
          unfold printUnlessDetached push
          split <;> rw [hlog] <;> simp
    | timerReturn _ hh => simp
  exact if_neg hno

end CurlMulti

end AmxxCurl
