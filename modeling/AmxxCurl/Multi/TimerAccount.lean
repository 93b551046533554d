/-
What becomes of the timeouts libcurl asks for.

Each call of `CurlTimerCallback` with a value that is not negative puts one thing into the
`io_context`, a wait of the timer or a posted task.  It is served by one call of
`curl_multi_socket_action(CURL_SOCKET_TIMEOUT)`, or it is cancelled, or it still stands;
only what is left when the multi goes away is dropped.  So libcurl is never called for a
timeout it has not asked for, and never twice for one it has.

The books are kept as tallies over the waits there have ever been.  `next_account` is the
entry each step makes.
-/
import AmxxCurl.Multi.Calls
import AmxxCurl.Multi.Timer
import AmxxCurl.Lib.Tally

namespace AmxxCurl

namespace TimerWait

/-- The wait is running. -/
def isPending (t : TimerWait) : Bool := decide (t.status = .pending)

/-- The wait is running, or has expired and its handler is to run. -/
def isStanding (t : TimerWait) : Bool :=
  decide (t.status = .pending) || decide (t.status = .completed .ok)

/-- The wait was cancelled before it expired. -/
def isCancelled (t : TimerWait) : Bool :=
  match t.status with
  | .pending => false
  | .completed r => decide (r ≠ .ok)
  | .dispatched r => decide (r ≠ .ok)

end TimerWait

namespace CurlMulti

variable {m m' : CurlMulti} {a : Action}

/-- How often libcurl has been called for a timeout. -/
def served (m : CurlMulti) : Nat := m.log.count .timeoutAction

/-- The waits and tasks it is still to be called for. -/
def standing (m : CurlMulti) : Nat := m.timer.tally TimerWait.isStanding + m.posted

/-- The waits that were cancelled. -/
def cancelled (m : CurlMulti) : Nat := m.timer.tally TimerWait.isCancelled

def account (m : CurlMulti) : Nat := m.served + m.standing + m.cancelled

/-- libcurl asks for a timeout. -/
def Action.asks : Action → Bool
  | .timerCallback t => decide (0 ≤ t)
  | _ => false

/-! ### The waits -/

theorem cancelTimer_cell (m : CurlMulti) (i : Nat) :
    m.cancelTimer.timer.cell i = if (m.timer.cell i).status = .pending then
      { m.timer.cell i with status := .completed .aborted } else m.timer.cell i := rfl

/-- Nothing runs after a cancel. -/
theorem cancelTimer_running (m : CurlMulti) (i : Nat) :
    (m.cancelTimer.timer.cell i).status ≠ .pending := by
  rw [cancelTimer_cell]
  split
  · simp
  · assumption

/-- Only the newest wait is running; the cells beyond it are junk. -/
structure NewestOnly (m : CurlMulti) : Prop where
  junk : ∀ i, m.timer.next ≤ i → (m.timer.cell i).status = .dispatched .ok
  newest : ∀ i, (m.timer.cell i).status = .pending → i + 1 = m.timer.next

namespace NewestOnly

theorem of_eq (h : NewestOnly m) (htimer : m'.timer = m.timer) : NewestOnly m' := by
  refine ⟨fun i hi => ?_, fun i hi => ?_⟩
  · rw [htimer] at hi ⊢
    exact h.junk i hi
  · rw [htimer] at hi ⊢
    exact h.newest i hi

/-- A wait that has not been handled is no junk. -/
theorem lt (h : NewestOnly m) {i : Nat} (hi : (m.timer.cell i).status ≠ .dispatched .ok) :
    i < m.timer.next := by
  by_contra hle
  exact hi (h.junk i (Nat.le_of_not_lt hle))

/-- A step on one wait that does not start it. -/
theorem modify (h : NewestOnly m) {i : Nat} {st : WaitStatus} (hi : i < m.timer.next)
    (hst : st ≠ .pending) (htimer : m'.timer = m.timer.modify i fun x => { x with status := st }) :
    NewestOnly m' := by
  refine ⟨fun j hj => ?_, fun j hj => ?_⟩
  · rw [htimer, Heap.modify_next] at hj
    rw [htimer, Heap.modify_cell_ne _ _ (Nat.ne_of_gt (Nat.lt_of_lt_of_le hi hj))]
    exact h.junk j hj
  · rw [htimer, Heap.modify_cell] at hj
    rw [htimer, Heap.modify_next]
    split at hj
    · exact absurd hj hst
    · exact h.newest j hj

theorem cancel (h : NewestOnly m) (htimer : m'.timer = m.cancelTimer.timer) : NewestOnly m' := by
  refine ⟨fun i hi => ?_, fun i hi => ?_⟩
  · rw [htimer] at hi ⊢
    have hjunk := h.junk i hi
    rw [cancelTimer_cell, if_neg (by simp [hjunk])]
    exact hjunk
  · rw [htimer] at hi
    exact absurd hi (cancelTimer_running m i)

end NewestOnly

/-! ### The entries -/

/-- Cancelling moves what is running to what is cancelled. -/
theorem cancelTimer_account (m : CurlMulti) :
    m.cancelTimer.timer.tally TimerWait.isStanding +
      m.cancelTimer.timer.tally TimerWait.isCancelled =
    m.timer.tally TimerWait.isStanding + m.timer.tally TimerWait.isCancelled := by
  unfold cancelTimer
  dsimp only
  rw [Heap.tally_map, Heap.tally_map]
  refine Heap.tally_add fun t => ?_
  unfold TimerWait.isStanding TimerWait.isCancelled
  by_cases hp : t.status = .pending
  · simp [hp]
  · rw [if_neg hp]

/-- Only the timer's handler and a posted task call libcurl for a timeout. -/
theorem next_served (hn : m.next a = some m') (htimer : ∀ i, a ≠ .dispatchTimer i)
    (hposted : a ≠ .runPosted) : m'.served = m.served := by
  cases next_drives hn with
  | quiet hmulti hlog hhandler =>
      refine hlog.countP_eq fun e he => ?_
      cases e with
      | timeoutAction => exact absurd he (by simp [Event.isDriving])
      | _ => rfl
  | socket w s ev ha hlive hlive' hlog =>
      unfold served
      rw [hlog, List.count_append]
      rfl
  | timeout ha hlive hlive' hlog =>
      rcases ha with ⟨i, ha⟩ | ha
      · exact absurd ha (htimer i)
      · exact absurd ha hposted
  | cleanup hlive hdead hidle hlog =>
      unfold served
      rw [hlog, List.count_append]
      rfl

/-- `CurlTimerCallback` cancels what is running and puts in one thing more, or nothing. -/
theorem curlTimerCallback_account (h : NewestOnly m) (t : Int) :
    NewestOnly (m.curlTimerCallback t) ∧
      (m.curlTimerCallback t).account =
        m.account + if (Action.timerCallback t).asks then 1 else 0 := by
  have hcancel := cancelTimer_account m
  have hone : NewestOnly m.cancelTimer := h.cancel rfl
  have hserved : m.cancelTimer.served = m.served := rfl
  unfold curlTimerCallback Action.asks
  dsimp only
  by_cases hpos : t > 0
  · rw [if_pos hpos, if_pos (by simp; omega)]
    refine ⟨⟨fun i hi => ?_, fun i hi => ?_⟩, ?_⟩
    · have hi : m.cancelTimer.timer.next + 1 ≤ i := hi
      show ((m.cancelTimer.timer.alloc _).cell i).status = _
      rw [Heap.alloc_cell, if_neg (by omega)]
      exact hone.junk i (by omega)
    · have hi : ((m.cancelTimer.timer.alloc ⟨t, .pending⟩).cell i).status = .pending := hi
      show i + 1 = m.cancelTimer.timer.next + 1
      rw [Heap.alloc_cell] at hi
      split at hi
      · omega
      · -- what was running has just been cancelled
        exact absurd hi (cancelTimer_running m i)
    · unfold account standing cancelled
      show m.served + ((m.cancelTimer.timer.alloc _).tally _ + m.posted) +
        (m.cancelTimer.timer.alloc _).tally _ = _
      have hstanding : (TimerWait.mk t .pending).isStanding = true := rfl
      have hcancelled : (TimerWait.mk t .pending).isCancelled = false := rfl
      rw [Heap.tally_alloc, Heap.tally_alloc, hstanding, hcancelled, if_pos rfl,
        if_neg Bool.false_ne_true]
      omega
  · rw [if_neg hpos]
    by_cases hzero : t = 0
    · rw [if_pos hzero, if_pos (by simp; omega)]
      refine ⟨hone.of_eq rfl, ?_⟩
      unfold account standing cancelled
      show m.served + (m.cancelTimer.timer.tally _ + (m.posted + 1)) +
        m.cancelTimer.timer.tally _ = _
      omega
    · rw [if_neg hzero, if_neg (by simp; omega)]
      refine ⟨hone, ?_⟩
      unfold account standing cancelled
      show m.served + (m.cancelTimer.timer.tally _ + m.posted) + m.cancelTimer.timer.tally _ = _
      omega

/-- The timer's handler calls libcurl after a wait that was not cancelled. -/
theorem asioTimerCallback_served (m : CurlMulti) (r : WaitResult) :
    (m.asioTimerCallback r).timer = m.timer ∧ (m.asioTimerCallback r).posted = m.posted ∧
      (m.asioTimerCallback r).served =
        m.served + if r = .ok ∧ m.curlMulti = true then 1 else 0 := by
  unfold asioTimerCallback
  split
  · rename_i hr
    rw [if_neg fun hc => hr hc.1]
    exact ⟨rfl, rfl, rfl⟩
  · rename_i hr
    split
    · rename_i hdead
      rw [if_neg fun hc => by simp [hc.2] at hdead]
      exact ⟨rfl, rfl, rfl⟩
    · rename_i hlive
      rw [if_pos ⟨Decidable.not_not.mp hr, by simpa using hlive⟩]
      refine ⟨rfl, rfl, ?_⟩
      show (m.log ++ [Event.timeoutAction]).count .timeoutAction = _
      rw [List.count_append]
      rfl

theorem postedTask_served (m : CurlMulti) :
    m.postedTask.timer = m.timer ∧ m.postedTask.posted = m.posted ∧
      m.postedTask.served = m.served + if m.curlMulti = true then 1 else 0 := by
  unfold postedTask
  split
  · rename_i hdead
    rw [if_neg fun hc => by simp [hc] at hdead]
    exact ⟨rfl, rfl, rfl⟩
  · rename_i hlive
    rw [if_pos (by simpa using hlive)]
    refine ⟨rfl, rfl, ?_⟩
    show (m.log ++ [Event.timeoutAction]).count .timeoutAction = _
    rw [List.count_append]
    rfl

/-- The handler of the timer: its wait is served, or was cancelled before. -/
theorem dispatchTimer_account (h : NewestOnly m) {i : Nat} (hn : m.next (.dispatchTimer i) = some m') :
    NewestOnly m' ∧ m'.account ≤ m.account ∧ (m.curlMulti = true → m'.account = m.account) := by
  cases next_fires hn with
  | dispatchTimer _ r hidle hst =>
      have hi : i < m.timer.next := h.lt (by rw [hst]; simp)
      have hold : (m.timer.cell i).isStanding = decide (r = .ok) ∧
          (m.timer.cell i).isCancelled = decide (r ≠ .ok) := by
        unfold TimerWait.isStanding TimerWait.isCancelled
        rw [hst]
        simp
      have hstanding := Heap.tally_modify hi (fun x => { x with status := .dispatched r })
        TimerWait.isStanding
      have hcancelled := Heap.tally_modify hi (fun x => { x with status := .dispatched r })
        TimerWait.isCancelled
      have hnew : ∀ x : TimerWait, TimerWait.isStanding { x with status := .dispatched r } = false ∧
          TimerWait.isCancelled { x with status := .dispatched r } = decide (r ≠ .ok) :=
        fun x => ⟨rfl, rfl⟩
      rw [hold.1, (hnew _).1] at hstanding
      rw [hold.2, (hnew _).2] at hcancelled
      have hafter := asioTimerCallback_served { m with
        timer := m.timer.modify i fun x => { x with status := .dispatched r } } r
      generalize asioTimerCallback _ r = m₁ at hafter ⊢
      obtain ⟨htimer, hposted, hserved⟩ :
          m₁.timer = (m.timer.modify i fun x => { x with status := .dispatched r }) ∧
          m₁.posted = m.posted ∧
          m₁.served = m.served + if r = .ok ∧ m.curlMulti = true then 1 else 0 := hafter
      refine ⟨h.modify hi (by simp) htimer, ?_⟩
      unfold account standing cancelled
      rw [htimer, hposted, hserved]
      by_cases hr : r = .ok
      · rw [if_pos (decide_eq_true hr), if_neg Bool.false_ne_true] at hstanding
        by_cases hlive : m.curlMulti = true
        · rw [if_pos ⟨hr, hlive⟩]
          constructor <;> omega
        · rw [if_neg fun hc => hlive hc.2]
          exact ⟨by omega, fun hc => absurd hc hlive⟩
      · rw [if_neg (by simpa using hr), if_neg Bool.false_ne_true] at hstanding
        rw [if_neg fun hc => hr hc.1]
        constructor <;> omega

/-- A posted task is served. -/
theorem runPosted_account (h : NewestOnly m) (hn : m.next .runPosted = some m') :
    NewestOnly m' ∧ m'.account ≤ m.account ∧ (m.curlMulti = true → m'.account = m.account) := by
  cases next_fires hn with
  | runPosted hidle hpos =>
      have hafter := postedTask_served { m with posted := m.posted - 1 }
      generalize postedTask _ = m₁ at hafter ⊢
      obtain ⟨htimer, hposted, hserved⟩ : m₁.timer = m.timer ∧ m₁.posted = m.posted - 1 ∧
          m₁.served = m.served + if m.curlMulti = true then 1 else 0 := hafter
      refine ⟨h.of_eq htimer, ?_⟩
      unfold account standing cancelled
      rw [htimer, hposted, hserved]
      by_cases hlive : m.curlMulti = true
      · rw [if_pos hlive]
        constructor <;> omega
      · rw [if_neg hlive]
        exact ⟨by omega, fun hc => absurd hc hlive⟩

/-- **The entry a step makes.**  Only what is run after the multi is gone is dropped. -/
theorem next_account (h : NewestOnly m) (hn : m.next a = some m') :
    NewestOnly m' ∧ m'.account ≤ m.account + (if a.asks then 1 else 0) ∧
      (m.curlMulti = true → m'.account = m.account + if a.asks then 1 else 0) := by
  by_cases htimer : ∃ i, a = .dispatchTimer i
  · obtain ⟨i, rfl⟩ := htimer
    exact dispatchTimer_account h hn
  by_cases hposted : a = .runPosted
  · subst hposted
    exact runPosted_account h hn
  have hserved := next_served hn (fun i hi => htimer ⟨i, hi⟩) hposted
  have hexact : ∀ {b : Bool}, NewestOnly m' ∧ m'.account = m.account + (if b then 1 else 0) →
      NewestOnly m' ∧ m'.account ≤ m.account + (if b then 1 else 0) ∧
        (m.curlMulti = true → m'.account = m.account + if b then 1 else 0) :=
    fun ⟨hone, heq⟩ => ⟨hone, Nat.le_of_eq heq, fun _ => heq⟩
  have hnone : (∀ t, a ≠ .timerCallback t) → a.asks = false := by
    intro hno
    cases a with
    | timerCallback t => exact absurd rfl (hno t)
    | _ => rfl
  by_cases hasks : ∃ t, a = .timerCallback t
  · obtain ⟨t, rfl⟩ := hasks
    obtain rfl := Option.some.inj hn
    exact hexact (curlTimerCallback_account h t)
  apply hexact
  rw [hnone fun t ht => hasks ⟨t, ht⟩]
  unfold account standing cancelled
  rw [hserved]
  cases next_timer hn with
  | same htimer' hposted' =>
      rw [htimer', hposted']
      exact ⟨h.of_eq htimer', rfl⟩
  | asked t ha hm => exact absurd ⟨t, ha⟩ hasks
  | expired i hpending htimer' hposted' =>
      have hi : i < m.timer.next := h.lt (by rw [hpending]; simp)
      have hone : NewestOnly m' := h.modify hi (by simp) htimer'
      refine ⟨hone, ?_⟩
      have hold : (m.timer.cell i).isStanding = true ∧ (m.timer.cell i).isCancelled = false := by
        unfold TimerWait.isStanding TimerWait.isCancelled
        rw [hpending]
        exact ⟨rfl, rfl⟩
      have hnew : ∀ x : TimerWait,
          TimerWait.isStanding { x with status := .completed .ok } = true ∧
          TimerWait.isCancelled { x with status := .completed .ok } = false :=
        fun x => ⟨rfl, rfl⟩
      have hstanding := Heap.tally_modify hi (fun x => { x with status := .completed .ok })
        TimerWait.isStanding
      have hcancelled := Heap.tally_modify hi (fun x => { x with status := .completed .ok })
        TimerWait.isCancelled
      rw [hold.1, (hnew _).1] at hstanding
      rw [hold.2, (hnew _).2] at hcancelled
      rw [htimer', hposted', if_neg Bool.false_ne_true]
      omega
  | handled i r hcomplete htimer' hposted' ha hserved' => exact absurd ⟨i, ha⟩ htimer
  | ran htimer' ha hserved' => exact absurd ha hposted
  | cancelled oom ha hcancels htimer' hposted' =>
      have hcancel := cancelTimer_account m
      refine ⟨h.cancel htimer', ?_⟩
      rw [htimer', hposted', if_neg Bool.false_ne_true]
      omega

/-! ### Runs -/

variable {C : CurlMulti → Action → Prop} {tr : List Action}

theorem run_newestOnly (h : machine.Run C tr m) : NewestOnly m := by
  refine h.invariant (P := NewestOnly) ⟨fun i _ => rfl, fun i hi => ?_⟩
    fun m a m' ih _ hn => (next_account ih hn).1
  exact absurd hi (by simp [machine, boot, Heap.empty])

/--
**Every timeout libcurl asks for is served once, cancelled, or still stands.**  While the
multi is there the three make up exactly what was asked for; afterwards what was left is
dropped, and still nothing is served that was not asked for.  At no time do two waits run.
-/
theorem timeouts_accounted (h : machine.Run C tr m) :
    m.served + m.standing + m.cancelled ≤ tr.countP Action.asks ∧
    (m.curlMulti = true → m.served + m.standing + m.cancelled = tr.countP Action.asks) ∧
    m.timer.tally TimerWait.isPending ≤ 1 := by
  have hone := run_newestOnly h
  have hledger : m.account ≤ tr.countP Action.asks ∧
      (m.curlMulti = true → m.account = tr.countP Action.asks) := by
    refine h.free.history (P := fun tr m => m.account ≤ tr.countP Action.asks ∧
      (m.curlMulti = true → m.account = tr.countP Action.asks)) ⟨Nat.le_refl _, fun _ => rfl⟩ ?_
    intro tr m a m' hr ⟨hle, heq⟩ _ hn
    obtain ⟨-, hle', heq'⟩ := next_account (run_newestOnly hr) hn
    rw [List.countP_append, List.countP_singleton]
    refine ⟨by omega, fun hlive => ?_⟩
    have hlive₀ := next_alive hn hlive
    rw [heq' hlive₀, heq hlive₀]
  refine ⟨hledger.1, hledger.2, Heap.tally_le_one fun i _ hi => hone.newest i ?_⟩
  exact of_decide_eq_true hi

/-- A task is posted, a wait is overruled by the next one, and both of these are served. -/
def overruling : List Action :=
  [.timerCallback 0, .timerCallback 20, .timerCallback 30, .runPosted, .socketActionReturn 1,
    .checkMultiInfoReturn none, .dispatchTimer 0, .expire 1, .dispatchTimer 1, .timerCallback (-1)]

def overruled : CurlMulti := (machine.exec Machine.Free boot overruling).get (by decide)

theorem timeouts_accounted_overruled :
    overruled.served + overruled.standing + overruled.cancelled ≤ overruling.countP Action.asks ∧
    (overruled.curlMulti = true → overruled.served + overruled.standing + overruled.cancelled =
      overruling.countP Action.asks) ∧
    overruled.timer.tally TimerWait.isPending ≤ 1 := by
  have hrun : machine.Run Machine.Free overruling overruled :=
    Machine.run_of_exec (Option.some_get _).symm
  exact timeouts_accounted hrun

end CurlMulti

end AmxxCurl
